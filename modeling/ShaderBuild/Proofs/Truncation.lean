import ShaderBuild.Proofs.Acceptance
import ShaderBuild.Proofs.StoredForm

/-!
Stored caches that lost bytes at their end or gained some. Main statement: `torn_or_extended`. What
is left of a stored cache is never read as a cache, and the error tells the part that is missing
(`Torn`); bytes behind a stored cache are of no account. The code of the entries fills the region to
its end, so every byte that is missing there is missed by the first entry whose code is not
complete.
-/

namespace ShaderBuild

/-! ## Bytes behind a stored form -/

namespace CodeRange

theorem Fits.append {region : Bytes} {r : CodeRange} (h : r.Fits region) (more : Bytes) :
    r.Fits (region ++ more) := by
  refine ⟨h.1, Nat.le_trans h.2 ?_⟩
  rw [List.length_append]
  exact Nat.le_add_right _ _

theorem Placed.append {region : Bytes} {ranges : List CodeRange} (h : Placed region ranges)
    (more : Bytes) :
    Placed (region ++ more) ranges :=
  ⟨fun r hr => (h.fits r hr).append more, h.ordered⟩

/-- The bytes of a range that fits are the same if the region goes on. -/
theorem Fits.bytes_append {region : Bytes} {r : CodeRange} (h : r.Fits region) (more : Bytes) :
    ((region ++ more).drop r.offset).take r.size = (region.drop r.offset).take r.size := by
  have hstop : r.offset + r.size ≤ region.length := h.2
  have hsize : r.size ≤ (region.drop r.offset).length := by
    rw [List.length_drop]
    omega
  rw [List.drop_append_of_le_length (by omega), List.take_append_of_le_length hsize]

end CodeRange

theorem Metadata.entriesIn_append {m : Metadata} {region : Bytes}
    (h : CodeRange.Placed region m.ranges) (more : Bytes) :
    m.entriesIn (region ++ more) = m.entriesIn region := by
  have hfits := h.fits
  rw [entriesIn, entriesIn]
  generalize m.entries = entries
  generalize m.ranges = ranges at hfits ⊢
  induction ranges generalizing entries with
  | nil => simp
  | cons r ranges ih =>
    obtain ⟨hr, hrest⟩ := List.forall_mem_cons.1 hfits
    cases entries with
    | nil => rfl
    | cons e entries =>
      rw [List.zipWith_cons_cons, List.zipWith_cons_cons, hr.bytes_append, ih entries hrest]

namespace Cache

variable {fingerprint : ShaderKey → Hash128}

section Append

variable {b : Bytes} (h : lengthBytes ≤ b.length)

include h

theorem declared_append (x : Bytes) : declared (b ++ x) = declared b := by
  rw [declared, declared, List.take_append_of_le_length h]

theorem metadataPart_append (hdeclared : declared b ≤ b.length - lengthBytes) (x : Bytes) :
    metadataPart (b ++ x) = metadataPart b := by
  rw [← List.length_drop] at hdeclared
  rw [metadataPart, metadataPart, declared_append h, List.drop_append_of_le_length h,
    List.take_append_of_le_length hdeclared]

theorem codePart_append (hdeclared : declared b ≤ b.length - lengthBytes) (x : Bytes) :
    codePart (b ++ x) = codePart b ++ x := by
  rw [← List.length_drop] at hdeclared
  rw [codePart, codePart, declared_append h, List.drop_append_of_le_length h,
    List.drop_append_of_le_length hdeclared]

end Append

theorem Describes.append {b : Bytes} {m : Metadata} (h : Describes b m) (x : Bytes) :
    Describes (b ++ x) m where
  length_le := by
    rw [List.length_append]
    exact Nat.le_add_right_of_le h.length_le
  declared_le := by
    have := h.declared_le
    rw [declared_append h.length_le, List.length_append]
    omega
  text := by
    rw [metadataPart_append h.length_le h.declared_le]
    exact h.text

theorem Stored.append {b : Bytes} {m : Metadata} (h : Stored b m) (x : Bytes) :
    Stored (b ++ x) m where
  toDescribes := h.toDescribes.append x
  length_eq := h.length_eq
  placed := by
    rw [codePart_append h.length_le h.declared_le]
    exact h.placed.append x

theorem deserialize_append {b : Bytes} {c : Cache fingerprint} (h : deserialize b = .ok c)
    (x : Bytes) :
    deserialize (b ++ x) = .ok c := by
  obtain ⟨m, hm, hentries⟩ := deserialize_ok_iff.1 h
  refine deserialize_ok_iff.2 ⟨m, hm.append x, ?_⟩
  rw [codePart_append hm.length_le hm.declared_le, m.entriesIn_append hm.placed, hentries]

/-! ## The code of the entries -/

theorem codeOf_append (before after : List CacheEntry) :
    codeOf (before ++ after) = codeOf before ++ codeOf after :=
  List.flatMap_append

theorem length_codeOf_cons (e : CacheEntry) (rest : List CacheEntry) :
    (codeOf (e :: rest)).length = e.shader.code.length + (codeOf rest).length := by
  rw [codeOf, List.flatMap_cons, List.length_append]
  rfl

theorem layOut_append (offset : Nat) (before after : List CacheEntry) :
    Metadata.layOut offset (before ++ after) =
      Metadata.layOut offset before ++ Metadata.layOut (offset + (codeOf before).length) after := by
  induction before generalizing offset with
  | nil => rfl
  | cons e before ih =>
    rw [List.cons_append, Metadata.layOut, ih, length_codeOf_cons, Nat.add_assoc]
    rfl

theorem head?_layOut {offset : Nat} {entries : List CacheEntry} {r : CodeRange}
    (h : r ∈ (Metadata.layOut offset entries).head?) : r.offset = offset := by
  cases entries with
  | nil => cases h
  | cons e rest =>
    cases h
    rfl

/-- Code that is laid out in a region is where its ranges say. -/
theorem placed_layOut {region : Bytes} {offset : Nat} {entries : List CacheEntry}
    (hword : region.length < wordLimit) (h : offset + (codeOf entries).length ≤ region.length) :
    CodeRange.Placed region (Metadata.layOut offset entries) := by
  induction entries generalizing offset with
  | nil => exact ⟨nofun, List.IsChain.nil⟩
  | cons e rest ih =>
    rw [length_codeOf_cons, ← Nat.add_assoc] at h
    have hstop : offset + e.shader.code.length ≤ region.length := Nat.le_of_add_right_le h
    refine CodeRange.placed_cons.2 ⟨⟨Nat.lt_of_le_of_lt hstop hword, hstop⟩, fun s hs => ?_, ih h⟩
    rw [head?_layOut hs]
    exact Nat.le_refl _

/-- A cut before the end of the code is in the code of one entry, the first of which bytes are
missing. -/
theorem exists_cut {entries : List CacheEntry} {n : Nat} (h : n < (codeOf entries).length) :
    ∃ before e after, entries = before ++ e :: after ∧ (codeOf before).length ≤ n ∧
      n < (codeOf (before ++ [e])).length := by
  induction entries generalizing n with
  | nil => cases h
  | cons e rest ih =>
    rw [length_codeOf_cons] at h
    by_cases hfirst : n < e.shader.code.length
    · refine ⟨[], e, rest, rfl, Nat.zero_le n, ?_⟩
      rw [List.nil_append, length_codeOf_cons]
      exact Nat.lt_add_right _ hfirst
    · obtain ⟨before, e', after, rfl, hstart, hshort⟩ :=
        ih (n := n - e.shader.code.length) (by omega)
      refine ⟨e :: before, e', after, rfl, ?_, ?_⟩
      · rw [length_codeOf_cons]
        omega
      · rw [List.cons_append, length_codeOf_cons]
        omega

/-- Where the code is cut, the range of the first entry of which bytes are missing is out of
bounds. -/
theorem firstFault_of_cut (before after : List CacheEntry) (e : CacheEntry) {region : Bytes}
    (hword : region.length < wordLimit) (hstart : (codeOf before).length ≤ region.length)
    (hshort : region.length < (codeOf (before ++ [e])).length) :
    CodeRange.FirstFault region (Metadata.layOut 0 (before ++ e :: after))
      (.codeOutOfBounds before.length (codeOf before).length e.shader.code.length
        region.length) := by
  have hplaced : CodeRange.Placed region (Metadata.layOut 0 before) :=
    placed_layOut hword (by simpa using hstart)
  have hsplit := layOut_append 0 before (e :: after)
  rw [Nat.zero_add, Metadata.layOut] at hsplit
  rw [← length_layOut 0 before]
  refine .outOfBounds hsplit hplaced ?_
  rintro ⟨-, hstop⟩
  rw [codeOf_append, List.length_append, length_codeOf_cons] at hshort
  exact absurd hstop (Nat.not_le.2 hshort)

/-! ## Stored forms that are cut -/

/-- Where the code starts behind metadata of the given text. -/
def codeStart (text : String) : Nat := lengthBytes + (Bytes.ofText text).length

/-- What is missing of a stored cache of which the first `n` bytes are left, as the fault that it
is. The text is that of the metadata. -/
inductive Torn (c : Cache fingerprint) (text : String) (n : Nat) : DecodeError → Prop
  | length (short : n < lengthBytes) : Torn c text n (.tooShort n)
  | metadata (start : lengthBytes ≤ n) (short : n < codeStart text) :
      Torn c text n (.metadataOutOfBounds (Bytes.ofText text).length (n - lengthBytes))
  | code {before after : List CacheEntry} {e : CacheEntry}
      (split : c.entries = before ++ e :: after)
      (start : codeStart text + (codeOf before).length ≤ n)
      (short : n < codeStart text + (codeOf (before ++ [e])).length) :
      Torn c text n (.codeOutOfBounds before.length (codeOf before).length e.shader.code.length
        (n - codeStart text))

theorem length_preamble (text : String) : (preamble text).length = codeStart text := by
  rw [preamble, List.length_append, Bytes.length_littleEndian, codeStart]

theorem lengthBytes_le_preamble (text : String) : lengthBytes ≤ (preamble text).length := by
  rw [length_preamble, codeStart]
  exact Nat.le_add_right _ _

/-- A cut behind the metadata cuts the region. -/
theorem take_preamble {text : String} {region : Bytes} {n : Nat} (h : codeStart text ≤ n) :
    (preamble text ++ region).take n = preamble text ++ region.take (n - codeStart text) := by
  rw [← length_preamble] at h
  rw [List.take_append, List.take_of_length_le h, length_preamble]

/-- Something is missing wherever the stored form is cut. -/
theorem exists_torn {c : Cache fingerprint} {text : String} {n : Nat}
    (hn : n < (preamble text ++ c.region).length) : ∃ e, Torn c text n e := by
  by_cases hlength : n < lengthBytes
  · exact ⟨_, .length hlength⟩
  by_cases hmetadata : n < codeStart text
  · exact ⟨_, .metadata (Nat.le_of_not_lt hlength) hmetadata⟩
  rw [List.length_append, length_preamble] at hn
  have hcode : n - codeStart text < (codeOf c.entries).length :=
    show _ < c.region.length by omega
  obtain ⟨before, e, after, hsplit, hstart, hshort⟩ := exists_cut hcode
  exact ⟨_, .code hsplit (by omega) (by omega)⟩

section Cut

variable {text : String} (htext : (Bytes.ofText text).length < wordLimit)

include htext

theorem declared_of_prefix {b region : Bytes} (hlength : lengthBytes ≤ b.length)
    (hb : b <+: preamble text ++ region) : declared b = (Bytes.ofText text).length := by
  obtain ⟨rest, hrest⟩ := hb
  rw [← declared_append hlength rest, hrest, declared, preamble, List.append_assoc,
    List.take_left' (Bytes.length_littleEndian _ _), Bytes.toNat_littleEndian htext]

theorem describes_preamble {m : Metadata} (hm : Metadata.ofText text = .ok m) :
    Describes (preamble text) m := by
  have hlength := lengthBytes_le_preamble text
  have hdeclared : declared (preamble text) = (Bytes.ofText text).length :=
    declared_of_prefix htext hlength (List.prefix_append _ [])
  have hmetadata : metadataPart (preamble text) = Bytes.ofText text := by
    rw [metadataPart, hdeclared, preamble, List.drop_left' (Bytes.length_littleEndian _ _),
      List.take_length]
  refine ⟨hlength, ?_, text, ?_, hm⟩
  · rw [hdeclared, length_preamble, codeStart, Nat.add_sub_cancel_left]
  · rw [hmetadata, Bytes.text?_ofText]

theorem codePart_preamble : codePart (preamble text) = [] := by
  have hdeclared :=
    declared_of_prefix htext (lengthBytes_le_preamble text) (List.prefix_append _ [])
  rw [codePart, List.drop_eq_nil_iff, List.length_drop, length_preamble, codeStart, hdeclared,
    Nat.add_sub_cancel_left]

/-- Behind the metadata a cut leaves them complete. -/
theorem describes_take {m : Metadata} {region : Bytes} {n : Nat}
    (hm : Metadata.ofText text = .ok m) (h : codeStart text ≤ n) :
    Describes ((preamble text ++ region).take n) m := by
  rw [take_preamble h]
  exact (describes_preamble htext hm).append _

theorem codePart_take {m : Metadata} {region : Bytes} {n : Nat}
    (hm : Metadata.ofText text = .ok m) (h : codeStart text ≤ n) :
    codePart ((preamble text ++ region).take n) = region.take (n - codeStart text) := by
  have hpreamble := describes_preamble htext hm
  rw [take_preamble h, codePart_append hpreamble.length_le hpreamble.declared_le,
    codePart_preamble htext, List.nil_append]

/-- What is left of a stored cache breaks the conditions on stored forms first where something is
missing. -/
theorem Torn.firstFault {c : Cache fingerprint} {n : Nat} {e : DecodeError}
    (hread : Metadata.ofText text = .ok (Metadata.ofEntries c.entries))
    (hregion : c.region.length < wordLimit) (htorn : Torn c text n e)
    (hn : n ≤ (preamble text ++ c.region).length) :
    FirstFault ((preamble text ++ c.region).take n) e := by
  have hlength : ((preamble text ++ c.region).take n).length = n := List.length_take_of_le hn
  cases htorn with
  | length short =>
    have hfault := FirstFault.tooShort (hlength.symm ▸ short)
    rwa [hlength] at hfault
  | metadata start short =>
    have hstart : lengthBytes ≤ ((preamble text ++ c.region).take n).length :=
      hlength.symm ▸ start
    have hdeclared := declared_of_prefix htext hstart (List.take_prefix _ _)
    have hfault : ((preamble text ++ c.region).take n).length - lengthBytes <
        declared ((preamble text ++ c.region).take n) := by
      rw [hlength, hdeclared]
      rw [codeStart] at short
      omega
    have hfault := FirstFault.metadataOutOfBounds hstart hfault
    rwa [hdeclared, hlength] at hfault
  | @code before after e split start short =>
    -- The metadata is complete, and the rest is the front of the region.
    have hstart : codeStart text ≤ n := Nat.le_of_add_right_le start
    have hdescribes : Describes ((preamble text ++ c.region).take n)
        (Metadata.ofEntries c.entries) := describes_take htext hread hstart
    have hcode : codePart ((preamble text ++ c.region).take n) =
        c.region.take (n - codeStart text) := codePart_take htext hread hstart
    have hleft : (c.region.take (n - codeStart text)).length = n - codeStart text := by
      rw [List.length_append, length_preamble] at hn
      exact List.length_take_of_le (by omega)
    have hword : (c.region.take (n - codeStart text)).length < wordLimit :=
      Nat.lt_of_le_of_lt (List.length_take_le' _ _) hregion
    have hfault := firstFault_of_cut before after e hword (by omega) (by omega)
    rw [← split, hleft, ← hcode] at hfault
    have hlengths : (Metadata.ofEntries c.entries).entries.length =
        (Metadata.ofEntries c.entries).ranges.length := by
      rw [Metadata.ofEntries, List.length_map, length_layOut]
    exact .range hdescribes hlengths hfault

end Cut

/-! ## The statement -/

/-- What is left of a stored cache is refused, with the error for what is missing, and bytes behind
what is read as a cache change nothing. -/
theorem torn_or_extended (fingerprint : ShaderKey → Hash128) :
    (∀ (c : Cache fingerprint) (b : Bytes), c.serialize = .ok b → c.InWords →
      ∃ text, c.metadataText? = some text ∧ ∀ n < b.length, (∃ e, Torn c text n e) ∧
        ∀ e, Torn c text n e →
          (deserialize (b.take n) : Except DecodeError (Cache fingerprint)) = .error e) ∧
    ∀ (b : Bytes) (c : Cache fingerprint), deserialize b = .ok c →
      ∀ x, deserialize (b ++ x) = .ok c := by
  refine ⟨fun c b hb h => ?_, fun b c h x => deserialize_append h x⟩
  obtain ⟨text, htext, rfl⟩ := serialize_ok_iff.1 hb
  refine ⟨text, htext, fun n hn => ⟨exists_torn hn, fun e htorn => ?_⟩⟩
  exact deserialize_of_fault (htorn.firstFault (h.metadata_lt text htext)
    (metadataText_read htext h.region_lt) h.region_lt (Nat.le_of_lt hn))

/-- Of the two codes of the cache the first is empty, and of the second one byte is left. -/
theorem torn_or_extended_awkward :
    awkward.InWords ∧ ∃ (b : Bytes) (text : String), awkward.serialize = .ok b ∧
      codeStart text + 1 < b.length ∧ deserialize b = .ok awkward ∧
    (deserialize (b.take (codeStart text + 1)) : Except DecodeError ShaderCache) =
      .error (.codeOutOfBounds 1 0 2 1) ∧
    deserialize (b ++ [0x7b]) = .ok awkward := by
  obtain ⟨b, hb⟩ := exists_serialize_iff.2 dirsAreTexts_awkward
  have hwhole : deserialize b = .ok awkward := deserialize_serialize hb inWords_awkward
  obtain ⟨htears, hextended⟩ := torn_or_extended ShaderKey.fingerprint
  obtain ⟨text, htext, htorn⟩ := htears awkward b hb inWords_awkward
  obtain ⟨first, second, hentries, hfirst, hsecond⟩ :
    ∃ first second, awkward.entries = [first, second] ∧ first.shader.code.length = 0 ∧
      second.shader.code.length = 2 := ⟨_, _, entries_ofList [_, _], rfl, rfl⟩
  have hbefore : (codeOf [first]).length = 0 := by
    rw [length_codeOf_cons, hfirst]
    rfl
  have hupTo : (codeOf ([first] ++ [second])).length = 2 := by
    rw [codeOf_append, List.length_append, hbefore, length_codeOf_cons, hsecond]
    rfl
  have hn : codeStart text + 1 < b.length := by
    obtain ⟨text', htext', rfl⟩ := serialize_ok_iff.1 hb
    obtain rfl : text' = text := Option.some.inj (htext'.symm.trans htext)
    have hregion : awkward.region = codeOf ([first] ++ [second]) := congrArg codeOf hentries
    rw [List.length_append, length_preamble, hregion, hupTo]
    exact Nat.add_lt_add_left Nat.one_lt_two _
  have hcut : Torn awkward text (codeStart text + 1) (.codeOutOfBounds 1 0 2 1) := by
    have hstart : codeStart text + (codeOf [first]).length ≤ codeStart text + 1 := by
      rw [hbefore]
      exact Nat.add_le_add_left (Nat.zero_le 1) _
    have hshort :
        codeStart text + 1 < codeStart text + (codeOf ([first] ++ [second])).length := by
      rw [hupTo]
      exact Nat.add_lt_add_left Nat.one_lt_two _
    have hcode := Torn.code hentries hstart hshort
    rwa [hbefore, hsecond, Nat.add_sub_cancel_left] at hcode
  exact ⟨inWords_awkward, b, text, hb, hn, hwhole, (htorn _ hn).2 _ hcut, hextended _ _ hwhole _⟩

end Cache

end ShaderBuild
