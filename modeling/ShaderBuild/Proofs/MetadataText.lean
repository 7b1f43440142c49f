import ShaderBuild.Cache.MetadataReader
import ShaderBuild.Proofs.JsonText

/-!
The metadata of a stored cache and that it is read back, from the digits of a digest up to the whole
document. Main statement: `Metadata.ofText_json?`.
-/

namespace ShaderBuild

/-! ## Digests -/

theorem Hex.value?_digit {n : Nat} (h : n < 16) : Hex.value? (Hex.digit n) = some n := by
  have hall : ∀ m < 16, Hex.value? (Hex.digit m) = some m := by decide
  exact hall n h

theorem Hex.decode?_encode (b : Bytes) : Hex.decode? (Hex.encode b) = some b := by
  induction b with
  | nil => rfl
  | cons x rest ih =>
    have hx := x.toNat_lt
    have hbyte : (16 * (x.toNat / 16) + x.toNat % 16).toUInt8 = x := by
      rw [Nat.div_add_mod]
      exact UInt8.ofNat_toNat
    rw [Hex.encode, List.flatMap_cons, ← Hex.encode, Hex.encodeByte]
    simp only [List.cons_append, List.nil_append, Hex.decode?, ih,
      Hex.value?_digit (show x.toNat / 16 < 16 by omega),
      Hex.value?_digit (show x.toNat % 16 < 16 by omega), hbyte]

theorem Digest.ofHex_hex (d : Digest) : Digest.ofHex d.hex = .ok d := by
  have h : Hex.decode? d.hex.toList = some d.bytes := by
    rw [Digest.hex, String.toList_ofList, Hex.decode?_encode]
  unfold Digest.ofHex
  split
  · rename_i b hb
    rw [h] at hb
    cases hb
    rw [dif_pos d.length_bytes]
  · rename_i hb
    rw [h] at hb
    cases hb

theorem Stage.ofLongName?_longName (s : Stage) : Stage.ofLongName? s.longName = some s := by
  cases s <;> rfl

theorem ContentType.ofName?_name (t : ContentType) : ContentType.ofName? t.name = some t := by
  cases t <;> rfl

namespace Json

theorem reads_digest (d : Digest) : Reads readDigest (string d.hex) d := by
  refine ⟨(reads_string d.hex).starts, fun rest hrest => ?_⟩
  simp only [readDigest, bind, (reads_string d.hex).eq rest hrest, Digest.ofHex_hex]
  rfl

/-! ## Pairs -/

variable {α : Type} {read : Reader α} {text : List Char} {a : α}

theorem element_true (h : Reads read text a) {rest : List Char} (hrest : Follows rest) :
    element true read (text ++ rest) = .ok (a, rest) := by
  have hread := h.eq rest hrest
  have hblank := h.starts.dropBlanks_append rest
  obtain ⟨c, tail, rfl, -, hc⟩ := h.starts
  simp only [List.cons_append] at hread hblank ⊢
  simp [element, hblank, hread]

theorem element_false (h : Reads read text a) {rest : List Char} (hrest : Follows rest) :
    element false read (',' :: (text ++ rest)) = .ok (a, rest) := by
  have hread := h.eq rest hrest
  have hblank := h.starts.dropBlanks_append rest
  obtain ⟨c, tail, rfl, -, hc⟩ := h.starts
  simp only [List.cons_append] at hread hblank ⊢
  simp [element, dropBlanks_cons isBlank_comma, hblank, hc, hread]

theorem reads_pair (d : String × String) : Reads readPair (array [string d.1, string d.2]) d := by
  refine ⟨⟨'[', _, rfl, by decide, by decide⟩, fun rest _ => ?_⟩
  have hfirst := element_true (reads_string d.1) (follows_comma (string d.2 ++ ']' :: rest))
  have hsecond := element_false (reads_string d.2) (follows_bracket rest)
  have hend : endOfElements (']' :: rest) = .ok ((), rest) := rfl
  simp only [array, commas, List.cons_append, List.append_assoc, List.nil_append, readPair,
    dropBlanks_cons isBlank_bracket, bind, hfirst, hsecond, hend]
  rfl

/-! ## Lengths

A document has more characters than any of its arrays has items, so its length is fuel enough. -/

theorem length_le_commaItems (items : List (List Char)) :
    items.length ≤ (commaItems items).length := by
  induction items with
  | nil => exact Nat.le_refl 0
  | cons item items ih =>
    simp only [commaItems, List.flatMap_cons, List.length_append, List.length_cons] at ih ⊢
    omega

theorem length_le_commaItems_of_mem {item : List Char} {items : List (List Char)}
    (h : item ∈ items) :
    item.length ≤ (commaItems items).length := by
  induction items with
  | nil => cases h
  | cons next items ih =>
    simp only [commaItems, List.flatMap_cons, List.length_append, List.length_cons] at ih ⊢
    rcases List.mem_cons.1 h with rfl | h
    · omega
    · have := ih h
      omega

theorem length_le_commas (items : List (List Char)) : items.length ≤ (commas items).length + 1 := by
  cases items with
  | nil => exact Nat.zero_le _
  | cons item items =>
    have := length_le_commaItems items
    simp only [commas_cons, List.length_append, List.length_cons]
    omega

theorem length_le_commas_of_mem {item : List Char} {items : List (List Char)} (h : item ∈ items) :
    item.length ≤ (commas items).length := by
  cases items with
  | nil => cases h
  | cons next items =>
    rw [commas_cons, List.length_append]
    rcases List.mem_cons.1 h with rfl | h
    · omega
    · have := length_le_commaItems_of_mem h
      omega

theorem length_lt_array (items : List (List Char)) : items.length < (array items).length := by
  have := length_le_commas items
  simp only [array, List.length_append, List.length_cons]
  omega

theorem length_le_array {item : List Char} {items : List (List Char)} (h : item ∈ items) :
    item.length ≤ (array items).length := by
  have := length_le_commas_of_mem h
  simp only [array, List.length_append, List.length_cons]
  omega

theorem length_lt_object (ms : List (String × List Char)) : ms.length < (object ms).length := by
  have := length_le_commas (ms.map memberText)
  rw [List.length_map] at this
  simp only [object, List.length_append, List.length_cons]
  exact Nat.lt_succ_of_le this

theorem length_le_object {value : List Char} {ms : List (String × List Char)} (name : String)
    (h : (name, value) ∈ ms) : value.length ≤ (object ms).length := by
  have hc := length_le_commas_of_mem (List.mem_map_of_mem (f := memberText) h)
  have hm : value.length ≤ (memberText (name, value)).length := by
    simp only [memberText, List.length_append, List.length_cons]
    omega
  simp only [object, List.length_append, List.length_cons]
  exact Nat.le_trans hm (Nat.le_succ_of_le (Nat.le_succ_of_le hc))

end Json

/-! ## Records -/

open Json

variable {fuel : Nat}

theorem CompileOptions.reads {o : CompileOptions} (h : o.json.length ≤ fuel) :
    Reads (read fuel) o.json o := by
  have hdefines : (array (o.defines.map fun d => array [string d.1, string d.2])).length ≤
    o.json.length :=
    length_le_object "extraDefines" (by simp)
  have hitems := length_lt_array (o.defines.map fun d => array [string d.1, string d.2])
  apply reads_object
  case h =>
    exact .value rfl (reads_name o.stage.ofLongName?_longName) <| .value rfl (reads_string _) <|
      .value rfl (reads_bool _) <| .value rfl (reads_bool _) <|
      .value rfl (reads_array (forall₂_reads_map fun d _ => reads_pair d) (by omega)) (.nil _)
  case hfinish => rfl
  case hf => exact Nat.lt_of_lt_of_le (length_lt_object _) h

theorem ShaderKey.reads {k : ShaderKey} (h : k.json.length ≤ fuel) :
    Reads (read fuel) k.json k := by
  have hoptions : k.options.json.length ≤ k.json.length := length_le_object "options" (by simp)
  apply reads_object
  case h =>
    exact .value rfl (reads_string _) <| .value rfl (reads_string _) <|
      .value rfl (CompileOptions.reads (Nat.le_trans hoptions h)) (.nil _)
  case hfinish => rfl
  case hf => exact Nat.lt_of_lt_of_le (length_lt_object _) h

theorem Dependency.ofFields_kind {d : Dependency} {dir : String} (h : d.dir.text? = some dir) :
    ofFields d.identifier dir (d.kind == .standard) d.digest d.contents = d := by
  obtain ⟨identifier, ⟨bytes⟩, kind, digest, contents⟩ := d
  obtain rfl : Bytes.ofText dir = bytes := Bytes.ofText_of_text? h
  cases kind <;> rfl

theorem Dependency.reads {d : Dependency} {text : List Char} (htext : d.json? = some text)
    (h : text.length ≤ fuel) : Reads (read fuel) text d := by
  obtain ⟨dir, hdir, rfl⟩ := Option.map_eq_some_iff.1 htext
  apply reads_object
  case h =>
    exact .value rfl (reads_string _) <| .value rfl (reads_string _) <| .value rfl (reads_bool _) <|
      .value rfl (reads_digest _) <| .value rfl (reads_string _) (.nil _)
  case hfinish => exact congrArg some (ofFields_kind hdir)
  case hf => exact Nat.lt_of_lt_of_le (length_lt_object _) h

theorem EntryRecord.reads {e : EntryRecord} {text : List Char} (htext : e.json? = some text)
    (h : text.length ≤ fuel) : Reads (read fuel) text e := by
  obtain ⟨dependencies, hdependencies, rfl⟩ := Option.map_eq_some_iff.1 htext
  have hkey : e.key.json.length ≤ fuel := Nat.le_trans (length_le_object "key" (by simp)) h
  have harray : (array dependencies).length ≤ fuel :=
    Nat.le_trans (length_le_object "dependencies" (by simp)) h
  have hlength := length_lt_array dependencies
  have hitems : List.Forall₂ (Reads (Dependency.read fuel)) dependencies e.dependencies := by
    refine forall₂_reads_mapM hdependencies fun d _ text hmem htext => Dependency.reads htext ?_
    exact Nat.le_trans (length_le_array hmem) harray
  apply reads_object
  case h =>
    exact .value rfl (ShaderKey.reads hkey) <|
      .value rfl (reads_array hitems (by omega)) (.nil _)
  case hfinish => rfl
  case hf => exact Nat.lt_of_lt_of_le (length_lt_object _) h

/-- Offset and size fit into eight bytes each. -/
def CodeRange.InWords (r : CodeRange) : Prop := r.offset ≤ maxWord ∧ r.size ≤ maxWord

theorem CodeRange.reads {r : CodeRange} (hr : r.InWords) (h : r.json.length ≤ fuel) :
    Reads (read fuel) r.json r := by
  apply reads_object
  case h =>
    exact .value rfl (reads_name r.stage.ofLongName?_longName) <|
      .value rfl (reads_name r.contentType.ofName?_name) <| .value rfl (reads_string _) <|
      .value rfl (reads_word hr.1) <| .value rfl (reads_word hr.2) (.nil _)
  case hfinish => rfl
  case hf => exact Nat.lt_of_lt_of_le (length_lt_object _) h

theorem Metadata.reads {m : Metadata} {text : List Char} (htext : m.json? = some text)
    (hr : ∀ r ∈ m.ranges, r.InWords) (h : text.length ≤ fuel) : Reads (read fuel) text m := by
  obtain ⟨entries, hentries, rfl⟩ := Option.map_eq_some_iff.1 htext
  have hentryArray : (array entries).length ≤ fuel :=
    Nat.le_trans (length_le_object "entries" (by simp)) h
  have hrangeArray : (array (m.ranges.map CodeRange.json)).length ≤ fuel :=
    Nat.le_trans (length_le_object "shaderCreationParams" (by simp)) h
  have hentryLength := length_lt_array entries
  have hrangeLength := length_lt_array (m.ranges.map CodeRange.json)
  have hentry : List.Forall₂ (Reads (EntryRecord.read fuel)) entries m.entries := by
    refine forall₂_reads_mapM hentries fun e _ text hmem htext => EntryRecord.reads htext ?_
    exact Nat.le_trans (length_le_array hmem) hentryArray
  have hrange : List.Forall₂ (Reads (CodeRange.read fuel)) (m.ranges.map CodeRange.json)
      m.ranges := by
    refine forall₂_reads_map fun r hmem => CodeRange.reads (hr r hmem) ?_
    exact Nat.le_trans (length_le_array (List.mem_map_of_mem hmem)) hrangeArray
  apply reads_object
  case h =>
    exact .value rfl (reads_array hentry (by omega)) <|
      .value rfl (reads_array hrange (by omega)) (.nil _)
  case hfinish => rfl
  case hf => exact Nat.lt_of_lt_of_le (length_lt_object _) h

/-- The text of metadata is read back as the metadata. -/
theorem Metadata.ofText_json? {m : Metadata} {text : List Char} (htext : m.json? = some text)
    (hr : ∀ r ∈ m.ranges, r.InWords) : ofText (String.ofList text) = .ok m := by
  have h := (reads htext hr (Nat.le_succ text.length)).eq [] trivial
  rw [List.append_nil] at h
  simp only [ofText, readText, String.toList_ofList, h]
  rfl

/-! ## Metadata without a text -/

/-- Attempts at all items succeed if none of them fails. -/
theorem isSome_mapM {α β : Type} {attempt : α → Option β} {as : List α} :
    (as.mapM attempt).isSome ↔ ∀ a ∈ as, (attempt a).isSome := by
  induction as with
  | nil => simp
  | cons a as ih =>
    rw [List.mapM_cons, List.forall_mem_cons, ← ih]
    cases attempt a <;> cases as.mapM attempt <;> simp

theorem EntryRecord.isSome_json? {e : EntryRecord} :
    e.json?.isSome ↔ ∀ d ∈ e.dependencies, d.dir.text?.isSome := by
  simp only [json?, Option.isSome_map, isSome_mapM, Dependency.json?]

/-- Directories that are no texts are all that can keep metadata from being written. -/
theorem Metadata.isSome_json? {m : Metadata} :
    m.json?.isSome ↔ ∀ e ∈ m.entries, ∀ d ∈ e.dependencies, d.dir.text?.isSome := by
  simp only [json?, Option.isSome_map, isSome_mapM, EntryRecord.isSome_json?]

end ShaderBuild
