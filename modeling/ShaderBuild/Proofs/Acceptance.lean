import ShaderBuild.Cache.Image
import ShaderBuild.Proofs.LittleEndian

/-!
Which bytes are a stored cache. Main statement: `deserialize_exact`. Bytes are read exactly if they
are `Stored`; all others are refused with the fault of the first condition that they break
(`FirstFault`), and no step of the reading can stop on its way (`deserializeStrict`).
-/

namespace ShaderBuild

/-! ## Ranges in a region -/

namespace CodeRange

def stop (r : CodeRange) : Nat := r.offset + r.size

/-- The range ends inside the region, at a place that eight bytes can hold. -/
def Fits (region : Bytes) (r : CodeRange) : Prop :=
  r.stop < Cache.wordLimit ∧ r.stop ≤ region.length

instance (region : Bytes) (r : CodeRange) : Decidable (r.Fits region) :=
  inferInstanceAs (Decidable (_ ∧ _))

/-- The end of the last of some ranges that start at `start`. -/
def endOf (start : Nat) (ranges : List CodeRange) : Nat := (ranges.getLast?.map stop).getD start

/-- Every range fits, and none starts before the one before it ends. -/
structure Placed (region : Bytes) (ranges : List CodeRange) : Prop where
  fits : ∀ r ∈ ranges, r.Fits region
  ordered : ranges.IsChain fun r s => r.stop ≤ s.offset

/-- The fault of the first range that may not be where it is. -/
inductive FirstFault (region : Bytes) (ranges : List CodeRange) : DecodeError → Prop
  | outOfBounds {before after : List CodeRange} {r : CodeRange} (split : ranges =
    before ++ r :: after)
      (placed : Placed region before) (fault : ¬r.Fits region) :
      FirstFault region ranges (.codeOutOfBounds before.length r.offset r.size region.length)
  | overlap {before after : List CodeRange} {r : CodeRange} (split : ranges = before ++ r :: after)
      (placed : Placed region before) (fits : r.Fits region) (fault : r.offset < endOf 0 before) :
      FirstFault region ranges (.codeOverlap before.length r.offset (endOf 0 before))

theorem endOf_cons (start : Nat) (r : CodeRange) (ranges : List CodeRange) :
    endOf start (r :: ranges) = endOf r.stop ranges := by
  simp only [endOf, List.getLast?_cons]
  cases ranges.getLast? <;> rfl

theorem placed_cons {region : Bytes} {r : CodeRange} {ranges : List CodeRange} :
    Placed region (r :: ranges) ↔
      r.Fits region ∧ (∀ s ∈ ranges.head?, r.stop ≤ s.offset) ∧ Placed region ranges := by
  constructor
  · rintro ⟨hfits, hordered⟩
    rw [List.isChain_cons] at hordered
    exact ⟨hfits r (by simp), hordered.1, fun s hs => hfits s (by simp [hs]), hordered.2⟩
  · rintro ⟨hr, hhead, hfits, hordered⟩
    refine ⟨fun s hs => ?_, List.isChain_cons.2 ⟨hhead, hordered⟩⟩
    rcases List.mem_cons.1 hs with rfl | hs
    · exact hr
    · exact hfits s hs

/-- Ranges that are placed do not meet, wherever they stand in the list. -/
theorem Placed.pairwise {region : Bytes} {ranges : List CodeRange} (h : Placed region ranges) :
    ranges.Pairwise fun r s => r.stop ≤ s.offset := by
  have hle : ∀ r : CodeRange, r.offset ≤ r.stop := fun r => Nat.le_add_right _ _
  have : IsTrans CodeRange fun r s => r.stop ≤ s.offset :=
    ⟨fun r s t hrs hst => Nat.le_trans hrs (Nat.le_trans (hle s) hst)⟩
  exact List.isChain_iff_pairwise.1 h.ordered

theorem Placed.sum_size_le {region : Bytes} {ranges : List CodeRange} (h : Placed region ranges) :
    (ranges.map size).sum ≤ region.length := by
  suffices hs : ∀ start, (∀ r ∈ ranges.head?, start ≤ r.offset) → start ≤ region.length →
      start + (ranges.map size).sum ≤ region.length by
    simpa using hs 0 (by simp) (Nat.zero_le _)
  induction ranges with
  | nil => simp
  | cons r ranges ih =>
    intro start hstart _
    obtain ⟨hr, hhead, hplaced⟩ := placed_cons.1 h
    have hsum := ih hplaced r.stop hhead hr.2
    have := hstart r rfl
    simp only [List.map_cons, List.sum_cons, stop] at hsum ⊢
    omega

end CodeRange

/-- The entries of stored metadata with their code taken out of the region. -/
def Metadata.entriesIn (m : Metadata) (region : Bytes) : List CacheEntry :=
  List.zipWith (fun e r => ⟨e.key, e.dependencies,
    ⟨r.stage, r.contentType, r.hint, (region.drop r.offset).take r.size⟩⟩) m.entries m.ranges

namespace Cache

open CodeRange

variable {fingerprint : ShaderKey → Hash128}

theorem takeEntries_cons (region : Bytes) (index start : Nat) (e : EntryRecord) (r : CodeRange)
    (entries : List EntryRecord) (ranges : List CodeRange) :
    takeEntries region index start (e :: entries) (r :: ranges) =
      if ¬r.Fits region then .error (.codeOutOfBounds index r.offset r.size region.length)
      else if r.offset < start then .error (.codeOverlap index r.offset start)
      else (takeEntries region (index + 1) r.stop entries ranges).map
        (⟨e.key, e.dependencies,
          ⟨r.stage, r.contentType, r.hint, (region.drop r.offset).take r.size⟩⟩ :: ·) := by
  have hfits : (wordLimit ≤ r.offset + r.size ∨ region.length < r.offset + r.size) ↔
      ¬r.Fits region := by
    simp only [Fits, stop]
    omega
  simp only [takeEntries, hfits, stop]

/-- Ranges that are placed are taken, and the rest goes on from where they end. -/
theorem takeEntries_append {region : Bytes} {entries : List EntryRecord} {ranges : List CodeRange}
    (hlength : entries.length = ranges.length) (index : Nat) {start : Nat}
    (h : Placed region ranges) (hstart : ∀ r ∈ ranges.head?, start ≤ r.offset)
    (moreEntries : List EntryRecord) (moreRanges : List CodeRange) :
    takeEntries region index start (entries ++ moreEntries) (ranges ++ moreRanges) =
      (takeEntries region (index + ranges.length) (endOf start ranges) moreEntries moreRanges).map
        (Metadata.entriesIn ⟨entries, ranges⟩ region ++ ·) := by
  induction ranges generalizing entries index start with
  | nil =>
    obtain rfl : entries = [] := by simpa using hlength
    cases htake : takeEntries region index start moreEntries moreRanges <;>
      simp [endOf, Metadata.entriesIn, Except.map, htake]
  | cons r ranges ih =>
    cases entries with
    | nil => simp at hlength
    | cons e entries =>
      obtain ⟨hr, hhead, hplaced⟩ := placed_cons.1 h
      rw [List.cons_append, List.cons_append, takeEntries_cons, if_neg (not_not.2 hr),
        if_neg (Nat.not_lt.2 (hstart r rfl)), ih (by simpa using hlength) (index + 1) hplaced hhead,
        endOf_cons, List.length_cons, Nat.add_assoc index 1, Nat.add_comm 1]
      cases takeEntries region (index + (ranges.length + 1)) (endOf r.stop ranges) moreEntries
        moreRanges <;>
        rfl

theorem takeEntries_of_placed {region : Bytes} {entries : List EntryRecord}
    {ranges : List CodeRange} (hlength : entries.length = ranges.length)
    (h : Placed region ranges) :
    takeEntries region 0 0 entries ranges = .ok (Metadata.entriesIn ⟨entries, ranges⟩ region) := by
  have htake := takeEntries_append hlength 0 h (fun r _ => Nat.zero_le _) [] []
  rw [List.append_nil, List.append_nil] at htake
  rw [htake]
  simp [takeEntries, Except.map]

theorem takeEntries_of_fault {region : Bytes} {entries : List EntryRecord} {ranges : List CodeRange}
    (hlength : entries.length = ranges.length) {e : DecodeError} (h : FirstFault region ranges e) :
    takeEntries region 0 0 entries ranges = .error e := by
  -- The ranges before the fault are taken, so the rest decides.
  have hpass : ∀ {before after : List CodeRange} {r : CodeRange}, ranges = before ++ r :: after →
      Placed region before →
        (∀ f back, takeEntries region before.length (endOf 0 before) (f :: back)
        (r :: after) = .error e) → takeEntries region 0 0 entries ranges = .error e := by
    intro before after r hsplit hplaced hrest
    subst hsplit
    have hlt : before.length < entries.length := by simp [hlength]
    have hfront : (entries.take before.length).length = before.length := by
      rw [List.length_take]
      omega
    rw [← List.take_append_drop before.length entries, List.drop_eq_getElem_cons hlt,
      takeEntries_append hfront 0 hplaced (fun r _ => Nat.zero_le _), Nat.zero_add, hrest]
    rfl
  cases h with
  | outOfBounds split placed fault =>
    refine hpass split placed fun f back => ?_
    rw [takeEntries_cons, if_pos fault]
  | overlap split placed fits fault =>
    refine hpass split placed fun f back => ?_
    rw [takeEntries_cons, if_neg (not_not.2 fits), if_pos fault]

end Cache

namespace CodeRange

theorem placed_concat {region : Bytes} {ranges : List CodeRange} {r : CodeRange} :
    Placed region (ranges ++ [r]) ↔
      Placed region ranges ∧ r.Fits region ∧ endOf 0 ranges ≤ r.offset := by
  have hend : (∀ s ∈ ranges.getLast?, s.stop ≤ r.offset) ↔ endOf 0 ranges ≤ r.offset := by
    cases h : ranges.getLast? <;> simp [endOf, h]
  constructor
  · rintro ⟨hfits, hordered⟩
    obtain ⟨hordered, -, hlast⟩ := List.isChain_append.1 hordered
    exact ⟨⟨fun s hs => hfits s (by simp [hs]), hordered⟩, hfits r (by simp),
      hend.1 fun s hs => hlast s hs r rfl⟩
  · rintro ⟨⟨hfits, hordered⟩, hr, hlast⟩
    refine ⟨fun s hs => ?_, List.isChain_append.2 ⟨hordered, List.IsChain.singleton r, ?_⟩⟩
    · rcases List.mem_append.1 hs with hs | hs
      · exact hfits s hs
      · rw [List.mem_singleton.1 hs]
        exact hr
    · intro s hs t ht
      obtain rfl : r = t := by simpa using ht
      exact hend.2 hlast s hs

/-- Either all ranges are placed or there is a first that is not. -/
theorem placed_or_fault (region : Bytes) (ranges : List CodeRange) :
    Placed region ranges ∨ ∃ e, FirstFault region ranges e := by
  induction ranges using List.reverseRecOn with
  | nil => exact .inl ⟨by simp, List.IsChain.nil⟩
  | append_singleton ranges r ih =>
    rcases ih with hplaced | ⟨e, he⟩
    · by_cases hfits : r.Fits region
      · by_cases hover : r.offset < endOf 0 ranges
        · exact .inr ⟨_, .overlap rfl hplaced hfits hover⟩
        · exact .inl (placed_concat.2 ⟨hplaced, hfits, Nat.le_of_not_lt hover⟩)
      · exact .inr ⟨_, .outOfBounds rfl hplaced hfits⟩
    · refine .inr ⟨e, ?_⟩
      cases he with
      | @outOfBounds before after s split placed fault =>
        have hsplit : ranges ++ [r] = before ++ s :: (after ++ [r]) := by simp [split]
        exact .outOfBounds hsplit placed fault
      | @overlap before after s split placed fits fault =>
        have hsplit : ranges ++ [r] = before ++ s :: (after ++ [r]) := by simp [split]
        exact .overlap hsplit placed fits fault

end CodeRange

namespace Cache

/-! ## Stored forms -/

/-- The length of the metadata that the first bytes give. -/
def declared (b : Bytes) : Nat := Bytes.toNat (b.take lengthBytes)

def metadataPart (b : Bytes) : Bytes := (b.drop lengthBytes).take (declared b)

def codePart (b : Bytes) : Bytes := (b.drop lengthBytes).drop (declared b)

/-- The bytes hold metadata `m` as text where they say they do. -/
structure Describes (b : Bytes) (m : Metadata) : Prop where
  length_le : lengthBytes ≤ b.length
  declared_le : declared b ≤ b.length - lengthBytes
  text : ∃ text, Bytes.text? (metadataPart b) = some text ∧ Metadata.ofText text = .ok m

/-- The bytes are a stored form with metadata `m`. -/
structure Stored (b : Bytes) (m : Metadata) : Prop extends Describes b m where
  length_eq : m.entries.length = m.ranges.length
  placed : CodeRange.Placed (codePart b) m.ranges

/-- The first condition on a stored form that the bytes break, as the fault that it is. -/
inductive FirstFault (b : Bytes) : DecodeError → Prop
  | tooShort (fault : b.length < lengthBytes) : FirstFault b (.tooShort b.length)
  | metadataOutOfBounds (length_le : lengthBytes ≤ b.length)
      (fault : b.length - lengthBytes < declared b) :
      FirstFault b (.metadataOutOfBounds (declared b) (b.length - lengthBytes))
  | notText (length_le : lengthBytes ≤ b.length) (declared_le : declared b ≤ b.length - lengthBytes)
      (fault : Bytes.text? (metadataPart b) = none) :
      FirstFault b (.notText ((Utf8Fault.first? (metadataPart b)).getD ⟨0, none⟩))
  | badMetadata {text : String} {e : Json.Fault} (length_le : lengthBytes ≤ b.length)
      (declared_le : declared b ≤ b.length - lengthBytes)
      (isText : Bytes.text? (metadataPart b) = some text)
        (fault : Metadata.ofText text = .error e) :
      FirstFault b (.badMetadata e)
  | lengthMismatch {m : Metadata} (describes : Describes b m)
      (fault : m.entries.length ≠ m.ranges.length) :
      FirstFault b (.lengthMismatch m.entries.length m.ranges.length)
  | range {m : Metadata} {e : DecodeError} (describes : Describes b m)
      (length_eq : m.entries.length = m.ranges.length)
      (fault : CodeRange.FirstFault (codePart b) m.ranges e) : FirstFault b e

variable {fingerprint : ShaderKey → Hash128}

theorem deserialize_of_describes {b : Bytes} {m : Metadata} (h : Describes b m) :
    (deserialize b : Except DecodeError (Cache fingerprint)) =
      (entriesOf m (codePart b)).map ofList := by
  obtain ⟨text, htext, hm⟩ := h.text
  have hdeclared := h.declared_le
  simp only [metadataPart, declared] at htext hdeclared
  rw [deserialize, if_neg (Nat.not_lt.2 h.length_le)]
  simp only [List.length_drop, if_neg (Nat.not_lt.2 hdeclared), htext, hm, codePart, declared]

theorem deserialize_of_stored {b : Bytes} {m : Metadata} (h : Stored b m) :
    (deserialize b : Except DecodeError (Cache fingerprint)) =
      .ok (ofList (m.entriesIn (codePart b))) := by
  rw [deserialize_of_describes h.toDescribes, entriesOf, if_neg (not_not.2 h.length_eq),
    takeEntries_of_placed h.length_eq h.placed]
  rfl

theorem deserialize_of_fault {b : Bytes} {e : DecodeError} (h : FirstFault b e) :
    (deserialize b : Except DecodeError (Cache fingerprint)) = .error e := by
  cases h with
  | tooShort fault => rw [deserialize, if_pos fault]
  | metadataOutOfBounds length_le fault =>
    rw [declared] at fault ⊢
    rw [deserialize, if_neg (Nat.not_lt.2 length_le)]
    simp only [List.length_drop, if_pos fault]
  | notText length_le declared_le fault =>
    rw [metadataPart] at fault ⊢
    rw [declared] at *
    rw [deserialize, if_neg (Nat.not_lt.2 length_le)]
    simp only [List.length_drop, if_neg (Nat.not_lt.2 declared_le), fault]
  | badMetadata length_le declared_le isText fault =>
    rw [metadataPart] at isText
    rw [declared] at *
    rw [deserialize, if_neg (Nat.not_lt.2 length_le)]
    simp only [List.length_drop, if_neg (Nat.not_lt.2 declared_le), isText, fault]
  | lengthMismatch describes fault =>
    rw [deserialize_of_describes describes, entriesOf, if_pos fault]
    rfl
  | range describes length_eq fault =>
    rw [deserialize_of_describes describes, entriesOf, if_neg (not_not.2 length_eq),
      takeEntries_of_fault length_eq fault]
    rfl

/-- Bytes are a stored form or there is a first condition that they break. -/
theorem stored_or_fault (b : Bytes) : (∃ m, Stored b m) ∨ ∃ e, FirstFault b e := by
  by_cases hlength : b.length < lengthBytes
  · exact .inr ⟨_, .tooShort hlength⟩
  have hlength := Nat.le_of_not_lt hlength
  by_cases hdeclared : b.length - lengthBytes < declared b
  · exact .inr ⟨_, .metadataOutOfBounds hlength hdeclared⟩
  have hdeclared := Nat.le_of_not_lt hdeclared
  cases htext : Bytes.text? (metadataPart b) with
  | none => exact .inr ⟨_, .notText hlength hdeclared htext⟩
  | some text =>
    cases hm : Metadata.ofText text with
    | error e => exact .inr ⟨_, .badMetadata hlength hdeclared htext hm⟩
    | ok m =>
      have hdescribes : Describes b m := ⟨hlength, hdeclared, text, htext, hm⟩
      by_cases hlengths : m.entries.length = m.ranges.length
      · rcases CodeRange.placed_or_fault (codePart b) m.ranges with hplaced | ⟨e, he⟩
        · exact .inl ⟨m, hdescribes, hlengths, hplaced⟩
        · exact .inr ⟨e, .range hdescribes hlengths he⟩
      · exact .inr ⟨_, .lengthMismatch hdescribes hlengths⟩

theorem deserialize_ok_iff {b : Bytes} {c : Cache fingerprint} :
    deserialize b = .ok c ↔ ∃ m, Stored b m ∧ c.entries = m.entriesIn (codePart b) := by
  constructor
  · intro h
    rcases stored_or_fault b with ⟨m, hm⟩ | ⟨e, he⟩
    · rw [deserialize_of_stored hm] at h
      cases h
      exact ⟨m, hm, entries_ofList _⟩
    · rw [deserialize_of_fault he] at h
      cases h
  · rintro ⟨m, hm, hentries⟩
    rw [deserialize_of_stored hm]
    exact congrArg _ (eq_of_entries (by rw [entries_ofList, hentries]))

theorem deserialize_error_iff {b : Bytes} {e : DecodeError} :
    (deserialize b : Except DecodeError (Cache fingerprint)) = .error e ↔ FirstFault b e := by
  refine ⟨fun h => ?_, deserialize_of_fault⟩
  rcases stored_or_fault b with ⟨m, hm⟩ | ⟨e', he⟩
  · rw [deserialize_of_stored hm] at h
    cases h
  · rw [deserialize_of_fault he] at h
    cases h
    exact he

/-! ## Machine words

The same reading step by step, with no answer where a machine would stop: at bytes that are not
there, or at a sum that eight bytes do not hold. -/

def slice? (b : Bytes) (start stop : Nat) : Option Bytes :=
  if start ≤ stop ∧ stop ≤ b.length then some ((b.drop start).take (stop - start)) else none

def addWords? (x y : Nat) : Option Nat := if x + y < wordLimit then some (x + y) else none

/-- The code in a range. The sum and the bytes are asked for, and their absence is a fault. -/
def codeIn (region : Bytes) (index start : Nat) (r : CodeRange) : Except DecodeError Bytes :=
  match (addWords? r.offset r.size).bind (slice? region r.offset) with
  | none => .error (.codeOutOfBounds index r.offset r.size region.length)
  | some code => if r.offset < start then .error (.codeOverlap index r.offset start) else .ok code

/-- The sum for the next range is made without asking. -/
def takeEntriesStrict (region : Bytes) : (index start : Nat) → List EntryRecord → List CodeRange →
    Option (Except DecodeError (List CacheEntry))
  | index, start, e :: entries, r :: ranges =>
    match codeIn region index start r with
    | .error fault => some (.error fault)
    | .ok code => do
      let stop ← addWords? r.offset r.size
      let rest ← takeEntriesStrict region (index + 1) stop entries ranges
      return rest.map (⟨e.key, e.dependencies, ⟨r.stage, r.contentType, r.hint, code⟩⟩ :: ·)
  | _, _, _, _ => some (.ok [])

def deserializeStrict (b : Bytes) : Option (Except DecodeError (Cache fingerprint)) :=
  if b.length < lengthBytes then some (.error (.tooShort b.length))
  else do
    let length ← slice? b 0 lengthBytes
    let rest ← slice? b lengthBytes b.length
    if rest.length < Bytes.toNat length then
      return .error (.metadataOutOfBounds (Bytes.toNat length) rest.length)
    else
      let metadata ← slice? rest 0 (Bytes.toNat length)
      let region ← slice? rest (Bytes.toNat length) rest.length
      match Bytes.text? metadata with
      | none => return .error (.notText ((Utf8Fault.first? metadata).getD ⟨0, none⟩))
      | some text =>
        match Metadata.ofText text with
        | .error fault => return .error (.badMetadata fault)
        | .ok m =>
          if m.entries.length ≠ m.ranges.length then
            return .error (.lengthMismatch m.entries.length m.ranges.length)
          else
            let entries ← takeEntriesStrict region 0 0 m.entries m.ranges
            return entries.map ofList

theorem codeIn_eq (region : Bytes) (index start : Nat) (r : CodeRange) :
    codeIn region index start r =
      if ¬r.Fits region then .error (.codeOutOfBounds index r.offset r.size region.length)
      else if r.offset < start then .error (.codeOverlap index r.offset start)
      else .ok ((region.drop r.offset).take r.size) := by
  by_cases hfits : r.Fits region
  · obtain ⟨hword, hregion⟩ := id hfits
    rw [CodeRange.stop] at hword hregion
    simp [codeIn, addWords?, slice?, hword, hregion, hfits]
  · have hnone : (addWords? r.offset r.size).bind (slice? region r.offset) = none := by
      rw [CodeRange.Fits, CodeRange.stop] at hfits
      rw [addWords?]
      split
      · rw [Option.bind_some, slice?, if_neg (by omega)]
      · rfl
    rw [codeIn, hnone, if_pos hfits]

theorem takeEntriesStrict_eq (region : Bytes) (index start : Nat) (entries : List EntryRecord)
    (ranges : List CodeRange) :
    takeEntriesStrict region index start entries ranges =
      some (takeEntries region index start entries ranges) := by
  induction ranges generalizing index start entries with
  | nil => cases entries <;> rfl
  | cons r ranges ih =>
    cases entries with
    | nil => rfl
    | cons e entries =>
      rw [takeEntriesStrict, codeIn_eq, takeEntries_cons]
      by_cases hfits : r.Fits region
      · by_cases hover : r.offset < start
        · simp [hfits, hover]
        · -- The sum has passed the check, so the second sum is there too.
          have hsum : addWords? r.offset r.size = some r.stop := if_pos hfits.1
          simp [hfits, hover, hsum, ih]
      · simp [hfits]

theorem deserializeStrict_eq (b : Bytes) :
    deserializeStrict b = some (deserialize b : Except DecodeError (Cache fingerprint)) := by
  rw [deserializeStrict, deserialize]
  by_cases hlength : b.length < lengthBytes
  · rw [if_pos hlength, if_pos hlength]
  have hfirst : slice? b 0 lengthBytes = some (b.take lengthBytes) := by
    simp [slice?, Nat.le_of_not_lt hlength]
  have hrest : ∀ {b : Bytes} {n : Nat}, n ≤ b.length → slice? b n b.length = some (b.drop n) := by
    intro b n hn
    rw [slice?, if_pos ⟨hn, Nat.le_refl _⟩, List.take_of_length_le (by simp)]
  rw [if_neg hlength, if_neg hlength, hfirst, hrest (Nat.le_of_not_lt hlength)]
  by_cases hdeclared : (b.drop lengthBytes).length < Bytes.toNat (b.take lengthBytes)
  · simp only [Option.bind_eq_bind, Option.bind_some, if_pos hdeclared]
    rfl
  have htext : ∀ {b : Bytes} {n : Nat}, n ≤ b.length → slice? b 0 n = some (b.take n) := by
    intro b n hn
    simp [slice?, hn]
  simp only [Option.bind_eq_bind, Option.bind_some, if_neg hdeclared,
    htext (Nat.le_of_not_lt hdeclared), hrest (Nat.le_of_not_lt hdeclared),
      takeEntriesStrict_eq, entriesOf]
  cases Bytes.text? ((b.drop lengthBytes).take (Bytes.toNat (b.take lengthBytes))) with
  | none => rfl
  | some text =>
    dsimp only
    cases Metadata.ofText text with
    | error fault => rfl
    | ok m =>
      dsimp only
      split <;> rfl

/-! ## The statement -/

theorem length_code_of_stored {b : Bytes} {m : Metadata} (h : Stored b m) :
    (m.entriesIn (codePart b)).map (fun e => e.shader.code.length) =
      m.ranges.map CodeRange.size := by
  have hfits := h.placed.fits
  have hlength := h.length_eq
  rw [Metadata.entriesIn]
  generalize m.entries = entries at hlength
  generalize m.ranges = ranges at hlength hfits
  induction ranges generalizing entries with
  | nil => simp
  | cons r ranges ih =>
    cases entries with
    | nil => simp at hlength
    | cons e entries =>
      have hr := (hfits r (by simp)).2
      rw [CodeRange.stop] at hr
      have hrest := ih entries (by simpa using hlength) fun s hs => hfits s (by simp [hs])
      simp only [List.zipWith_cons_cons, List.map_cons, hrest, List.length_take, List.length_drop]
      congr 1
      omega

/-- Reading gives the entries of a stored form and refuses all else with the first fault. The ranges
of a stored form do not meet and their code fits into the region. No slice is taken and no sum is
made that a machine could stop at, and in bytes that a machine can hold, the sums are exact. -/
theorem deserialize_exact (b : Bytes) :
    (∀ c : Cache fingerprint, deserialize b = .ok c ↔
      ∃ m, Stored b m ∧ c.entries = m.entriesIn (codePart b)) ∧
    (∀ e, (deserialize b : Except DecodeError (Cache fingerprint)) = .error e ↔ FirstFault b e) ∧
    (∀ m, Stored b m → m.ranges.Pairwise (fun r s => r.stop ≤ s.offset) ∧
      (m.entriesIn (codePart b)).map (fun e => e.shader.code.length) = m.ranges.map CodeRange.size ∧
      ((m.entriesIn (codePart b)).map fun e => e.shader.code.length).sum ≤ (codePart b).length) ∧
    deserializeStrict b = some (deserialize b : Except DecodeError (Cache fingerprint)) ∧
    (b.length < wordLimit → ∀ r : CodeRange, r.Fits (codePart b) ↔
      r.stop ≤ (codePart b).length) := by
  refine ⟨fun _ => deserialize_ok_iff, fun _ => deserialize_error_iff, fun m hm => ?_,
    deserializeStrict_eq b, fun hb r => ?_⟩
  · refine ⟨hm.placed.pairwise, length_code_of_stored hm, ?_⟩
    rw [length_code_of_stored hm]
    exact hm.placed.sum_size_le
  · have : (codePart b).length ≤ b.length := by
      simp only [codePart, List.length_drop]
      omega
    simp only [CodeRange.Fits]
    omega

end Cache

end ShaderBuild
