import ShaderBuild.Cache.Image
import ShaderBuild.Proofs.LittleEndian
import ShaderBuild.Proofs.MetadataText

/-!
Storing a cache and reading it back. Main statement: `stored_form_round_trip`, by the texts of
`MetadataText` and the layout of the code, which is taken out of the region entry by entry. A cache
has a stored form exactly if the directories in it are texts (`DirsAreTexts`).
-/

namespace ShaderBuild

namespace Bytes

/-- No character takes more than four bytes. -/
theorem length_ofText_le (cs : List Char) : (ofText (String.ofList cs)).length ≤ 4 * cs.length := by
  rw [ofText_ofList]
  induction cs with
  | nil => simp
  | cons c cs ih =>
    have := c.utf8Size_le_four
    rw [List.flatMap_cons, List.length_append, List.length_cons, String.length_utf8EncodeChar]
    omega

end Bytes

namespace Cache

variable {fingerprint : ShaderKey → Hash128}

/-- Metadata, if they have a text, and code take fewer than 2^64 bytes each. -/
structure InWords (c : Cache fingerprint) : Prop where
  metadata_lt : ∀ text, c.metadataText? = some text → (Bytes.ofText text).length < wordLimit
  region_lt : c.region.length < wordLimit

/-- The directories that includes were asked for from are texts. -/
def DirsAreTexts (c : Cache fingerprint) : Prop :=
  ∀ e ∈ c.entries, ∀ d ∈ e.dependencies, d.dir.text?.isSome

instance (c : Cache fingerprint) : Decidable c.DirsAreTexts :=
  decidable_of_iff (c.entries.all fun e => e.dependencies.all fun d => d.dir.text?.isSome)
    (by simp [DirsAreTexts])

def codeOf (entries : List CacheEntry) : Bytes := entries.flatMap fun e => e.shader.code

/-! ## Ranges -/

theorem length_layOut (offset : Nat) (entries : List CacheEntry) :
    (Metadata.layOut offset entries).length = entries.length := by
  induction entries generalizing offset with
  | nil => rfl
  | cons e rest ih => rw [Metadata.layOut, List.length_cons, List.length_cons, ih]

theorem range_le_of_mem_layOut {entries : List CacheEntry} {offset : Nat} {r : CodeRange}
    (h : r ∈ Metadata.layOut offset entries) :
    r.offset + r.size ≤ offset + (codeOf entries).length := by
  induction entries generalizing offset with
  | nil => simp [Metadata.layOut] at h
  | cons e rest ih =>
    simp only [codeOf, List.flatMap_cons, List.length_append] at ih ⊢
    rcases List.mem_cons.1 h with rfl | h
    · simp
    · have := ih h
      omega

/-- Code that was laid out behind other code is taken out again. -/
theorem takeEntries_layOut (entries : List CacheEntry) (before : Bytes) (index previousEnd : Nat)
    (hprevious : previousEnd ≤ before.length)
    (hsize : (before ++ codeOf entries).length < wordLimit) :
    takeEntries (before ++ codeOf entries) index previousEnd
      (entries.map fun e => ⟨e.key, e.dependencies⟩) (Metadata.layOut before.length entries) =
        .ok entries := by
  induction entries generalizing before index previousEnd with
  | nil => rfl
  | cons e rest ih =>
    have hregion : before ++ codeOf (e :: rest) = (before ++ e.shader.code) ++ codeOf rest := by
      simp [codeOf]
    rw [hregion] at hsize ⊢
    have hrest := ih (before ++ e.shader.code) (index + 1) (before.length + e.shader.code.length)
      (by simp) hsize
    have hcode : (((before ++ e.shader.code) ++ codeOf rest).drop before.length).take
        e.shader.code.length = e.shader.code := by
      simp
    rw [List.length_append] at hrest
    simp only [List.length_append] at hsize
    simp only [List.map_cons, Metadata.layOut, takeEntries, hcode, hrest]
    rw [if_neg, if_neg (by omega)]
    · rfl
    · simp only [List.length_append]
      omega

/-! ## Caches with a stored form -/

theorem isSome_metadataText? {c : Cache fingerprint} :
    c.metadataText?.isSome ↔ c.DirsAreTexts := by
  rw [metadataText?, Option.isSome_map, Metadata.isSome_json?, Metadata.ofEntries,
    List.forall_mem_map]
  rfl

theorem serialize_ok_iff {c : Cache fingerprint} {b : Bytes} : c.serialize = .ok b ↔
    ∃ text, c.metadataText? = some text ∧ preamble text ++ c.region = b := by
  rw [serialize]
  cases c.metadataText? <;> simp

/-- Directories that are no texts are all that can keep a cache from being stored. -/
theorem exists_serialize_iff {c : Cache fingerprint} :
    (∃ b, c.serialize = .ok b) ↔ c.DirsAreTexts := by
  rw [← isSome_metadataText?, Option.isSome_iff_exists]
  constructor
  · rintro ⟨b, hb⟩
    obtain ⟨text, htext, -⟩ := serialize_ok_iff.1 hb
    exact ⟨text, htext⟩
  · rintro ⟨text, htext⟩
    exact ⟨_, serialize_ok_iff.2 ⟨text, htext, rfl⟩⟩

theorem serialize_error_iff {c : Cache fingerprint} {e : InternalError} :
    c.serialize = .error e ↔ e = notEncodable ∧ ¬c.DirsAreTexts := by
  rw [← isSome_metadataText?, serialize]
  cases c.metadataText? <;> simp [eq_comm]

/-! ## The whole -/

section Whole

variable {c : Cache fingerprint} {text : String} (htext : c.metadataText? = some text)

include htext

theorem metadataText_read (h : c.region.length < wordLimit) :
    Metadata.ofText text = .ok (Metadata.ofEntries c.entries) := by
  obtain ⟨json, hjson, rfl⟩ := Option.map_eq_some_iff.1 htext
  apply Metadata.ofText_json? hjson
  intro r hr
  have := range_le_of_mem_layOut hr
  simp only [region, wordLimit] at h
  simp only [codeOf] at this
  constructor <;> simp only [Json.maxWord] <;> omega

omit htext in
theorem entriesOf_ofEntries (h : c.region.length < wordLimit) :
    entriesOf (Metadata.ofEntries c.entries) c.region = .ok c.entries := by
  have htake := takeEntries_layOut c.entries [] 0 0 (Nat.le_refl 0) h
  simp only [entriesOf, Metadata.ofEntries, List.length_map, length_layOut]
  rw [if_neg (by simp)]
  exact htake

theorem deserialize_preamble (h : c.InWords) :
    deserialize (preamble text ++ c.region) = .ok c := by
  have hlength : (Bytes.littleEndian lengthBytes (Bytes.ofText text).length).length =
      lengthBytes := Bytes.length_littleEndian _ _
  have hdeclared : (Bytes.littleEndian lengthBytes (Bytes.ofText text).length).toNat =
      (Bytes.ofText text).length := Bytes.toNat_littleEndian (h.metadata_lt text htext)
  simp only [deserialize, preamble, List.append_assoc]
  rw [if_neg (by simp [hlength]), List.take_left' hlength, List.drop_left' hlength, hdeclared,
    if_neg (by simp), List.take_left' rfl, List.drop_left' rfl, Bytes.text?_ofText]
  simp only [metadataText_read htext h.region_lt, entriesOf_ofEntries h.region_lt]
  exact congrArg _ (ofList_entries c)

end Whole

/-- The stored form of a cache is read back as the cache. -/
theorem deserialize_serialize {c : Cache fingerprint} {b : Bytes} (hb : c.serialize = .ok b)
    (h : c.InWords) : deserialize b = .ok c := by
  obtain ⟨text, htext, rfl⟩ := serialize_ok_iff.1 hb
  exact deserialize_preamble htext h

/-- A cache has a stored form exactly if the directories in it are texts, and there is one error if
not. Reading a stored form gives a cache with the same entries in the same order and as many
buckets, so that every look-up has the same answer and it is stored as the same bytes. -/
theorem stored_form_round_trip (c : Cache fingerprint) :
    ((∃ b, c.serialize = .ok b) ↔ c.DirsAreTexts) ∧
    (∀ e, c.serialize = .error e ↔ e = notEncodable ∧ ¬c.DirsAreTexts) ∧
    ∀ b, c.serialize = .ok b → c.InWords → ∃ d : Cache fingerprint, deserialize b = .ok d ∧
      d.entries = c.entries ∧ d.bucketCount = c.bucketCount ∧
      (∀ key r, d.find key r = c.find key r) ∧ d.serialize = .ok b :=
  ⟨exists_serialize_iff, fun _ => serialize_error_iff, fun _ hb h =>
    ⟨c, deserialize_serialize hb h, rfl, rfl, fun _ _ => rfl, hb⟩⟩

/-- A cache is small enough if few enough characters describe it. -/
theorem inWords_of_entries {c : Cache fingerprint} {entries : List CacheEntry}
    (h : c.entries = entries)
    (hmetadata : ∀ text ∈ (Metadata.ofEntries entries).json?, 4 * text.length < wordLimit)
    (hregion : (codeOf entries).length < wordLimit) : c.InWords := by
  subst h
  refine ⟨fun text htext => ?_, hregion⟩
  obtain ⟨json, hjson, rfl⟩ := Option.map_eq_some_iff.1 htext
  exact Nat.lt_of_le_of_lt (Bytes.length_ofText_le _) (hmetadata json hjson)

/-- A cache with control characters, quotes, backslashes, characters of several bytes, and no
code. -/
def awkward : ShaderCache :=
  ofList [
    ⟨⟨"\x00\t\"\\\n", "ä/€.frag", ⟨.fragment, "", true, false, [("\"", "\x1f\\")]⟩⟩,
      [⟨"\\\"", ⟨"\x7f"⟩, .standard, ⟨List.replicate 32 0xA5, rfl⟩, "\r\n😀"⟩],
      ⟨.tessControl, .glsl, "\\", []⟩⟩,
    ⟨⟨"", "", .ofStage .mesh⟩, [], ⟨.mesh, .spirv, "", [0, 0xFF]⟩⟩]

theorem inWords_awkward : awkward.InWords :=
  inWords_of_entries rfl (by decide +kernel) (by decide +kernel)

theorem dirsAreTexts_awkward : awkward.DirsAreTexts := by decide +kernel

theorem stored_form_round_trip_awkward : awkward.InWords ∧
    ∃ b, awkward.serialize = .ok b ∧ ∃ d : ShaderCache, deserialize b = .ok d ∧
      d.entries = awkward.entries ∧ d.bucketCount = awkward.bucketCount ∧
      (∀ key r, d.find key r = awkward.find key r) ∧ d.serialize = .ok b := by
  obtain ⟨hexists, -, hread⟩ := stored_form_round_trip awkward
  obtain ⟨b, hb⟩ := hexists.2 dirsAreTexts_awkward
  exact ⟨inWords_awkward, b, hb, hread b hb inWords_awkward⟩

/-- A cache with an include that was asked for from a directory whose name is no text. -/
def strayed : ShaderCache :=
  ofList [⟨⟨"", "", .ofStage .mesh⟩, [⟨"x", ⟨[0xFF]⟩, .relative, .empty, ""⟩],
    ⟨.mesh, .spirv, "", []⟩⟩]

theorem strayed_has_no_stored_form :
    strayed.InWords ∧ strayed.serialize = .error notEncodable := by
  refine ⟨inWords_of_entries rfl ?_ ?_, serialize_error_iff.2 ⟨rfl, ?_⟩⟩
  · decide +kernel
  · decide +kernel
  · decide +kernel

end Cache

end ShaderBuild
