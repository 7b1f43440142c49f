import ShaderBuild.Bytes
import ShaderBuild.Proofs.TextLines

/-!
Texts whose lines end in other ways. Main statement: `Bytes.lines?_eq_of_otherEnds`, by which a text
in UTF-8 without carriage returns keeps its lines when they are put in front of its newlines, and
when a last newline is added. Both are changes to bytes; that they are the same changes to the text
rests on UTF-8 using the bytes of a newline and of a carriage return for these two characters and in
no other one.
-/

namespace ShaderBuild

/-! ## Other ends of lines -/

namespace LineEnds

section

variable {α : Type} [DecidableEq α] (newline ret : α)

/-- A text with a return in front of each newline. -/
def withReturns (text : List α) : List α := text.flatMap fun c => if c = newline then
    [ret, newline] else [c]

/-- A text with a newline at its end, where it was missing and the text is not empty. -/
def completed (text : List α) : List α :=
  if text = [] ∨ text.getLast? = some newline then text else text ++ [newline]

/-- What a text can be turned into by these two changes, of which either can come first. -/
inductive OtherEnds (text : List α) : List α → Prop
  | same : OtherEnds text text
  | returns : OtherEnds text (withReturns newline ret text)
  | complete : OtherEnds text (completed newline text)
  | returnsLast : OtherEnds text (withReturns newline ret (completed newline text))
  | completeLast : OtherEnds text (completed newline (withReturns newline ret text))

variable {newline ret} {text : List α}

theorem withReturns_append (text rest : List α) :
    withReturns newline ret (text ++ rest) =
      withReturns newline ret text ++ withReturns newline ret rest :=
  List.flatMap_append

theorem withReturns_of_not_mem (h : newline ∉ text) : withReturns newline ret text = text := by
  induction text with
  | nil => rfl
  | cons c rest ih =>
    rw [List.mem_cons, not_or] at h
    rw [withReturns, List.flatMap_cons, if_neg (Ne.symm h.1), ← withReturns, ih h.2]
    rfl

theorem getLast?_withReturns (text : List α) :
    (withReturns newline ret text).getLast? = text.getLast? := by
  rcases List.eq_nil_or_concat' text with rfl | ⟨before, c, rfl⟩
  · rfl
  · have hlast : (withReturns newline ret [c]).getLast? = some c := by
      by_cases hc : c = newline
      · simp [withReturns, hc]
      · simp [withReturns, hc]
    rw [withReturns_append, List.getLast?_append, hlast, List.getLast?_concat]
    rfl

/-- The text is there again without the returns. -/
theorem filter_withReturns (hne : newline ≠ ret) (h : ret ∉ text) :
    (withReturns newline ret text).filter (· ≠ ret) = text := by
  induction text with
  | nil => rfl
  | cons c rest ih =>
    rw [List.mem_cons, not_or] at h
    rw [withReturns, List.flatMap_cons, ← withReturns, List.filter_append, ih h.2]
    by_cases hc : c = newline
    · simp [hc, hne]
    · simp [hc, Ne.symm h.1]

theorem not_mem_completed (hne : newline ≠ ret) (h : ret ∉ text) :
    ret ∉ completed newline text := by
  unfold completed
  split
  · exact h
  · simp [h, Ne.symm hne]

end

end LineEnds

/-! ## Lines -/

namespace Text

open LineEnds

theorem withReturns_terminated {ls : List (List Char)} (h : ∀ line ∈ ls, '\n' ∉ line) :
    withReturns '\n' '\r' (terminated ls) = terminated (ls.map (· ++ ['\r'])) := by
  induction ls with
  | nil => rfl
  | cons line rest ih =>
    obtain ⟨hline, hrest⟩ := List.forall_mem_cons.1 h
    have hnewline : withReturns '\n' '\r' ['\n'] = ['\r', '\n'] := rfl
    rw [List.map_cons, terminated_cons, terminated_cons, List.append_cons, withReturns_append,
      withReturns_append, withReturns_of_not_mem hline, hnewline, ih hrest]
    simp

theorem dropReturn_of_not_mem {line : List Char} (h : '\r' ∉ line) : dropReturn line = line :=
  dropReturn_of_getLast?_ne fun hlast => h (List.mem_of_getLast? hlast)

theorem lines_withReturns {cs : List Char} (h : '\r' ∉ cs) :
    lines (withReturns '\n' '\r' cs) = lines cs := by
  obtain ⟨ls, last, hls, hlast, rfl⟩ := exists_terminated_append cs
  have hreturned : ∀ line ∈ ls.map (· ++ ['\r']), '\n' ∉ line := by
    refine List.forall_mem_map.2 fun line hline => ?_
    simp [hls line hline]
  rw [withReturns_append, withReturns_terminated hls, withReturns_of_not_mem hlast,
    lines_terminated_append hreturned hlast, lines_terminated_append hls hlast, List.map_map]
  congr 1
  apply List.map_congr_left
  intro line hline
  have hline : '\r' ∉ line := by
    intro hmem
    apply h
    exact List.mem_append_left _ (List.mem_flatMap.2 ⟨line, hline, List.mem_append_left _ hmem⟩)
  simp [dropReturn_of_not_mem hline]

theorem lines_completed {cs : List Char} (h : cs.getLast? ≠ some '\r') :
    lines (completed '\n' cs) = lines cs := by
  unfold completed
  split
  · rfl
  · rename_i hmissing
    rw [not_or] at hmissing
    obtain ⟨ls, last, hls, hlast, rfl⟩ := exists_terminated_append cs
    have hne : last ≠ [] := by
      rintro rfl
      cases ls with
      | nil => exact hmissing.1 rfl
      | cons line rest =>
        apply hmissing.2
        rw [List.append_nil, getLast?_terminated (by simp)]
    have hends : last.getLast? ≠ some '\r' := by
      rwa [List.getLast?_append_of_ne_nil _ hne] at h
    have hlines : terminated ls ++ last ++ ['\n'] = terminated (ls ++ [last]) := by simp
    have hmem : ∀ line ∈ ls ++ [last], '\n' ∉ line :=
      List.forall_mem_append.2 ⟨hls, List.forall_mem_singleton.2 hlast⟩
    rw [hlines, lines_terminated hmem, lines_terminated_append hls hlast, if_neg hne,
      List.map_append, List.map_singleton, dropReturn_of_getLast?_ne hends]

/-- However its lines end, a text without carriage returns keeps them. -/
theorem lines_eq_of_otherEnds {cs ds : List Char} (hreturn : '\r' ∉ cs)
    (h : OtherEnds '\n' '\r' cs ds) :
    lines ds = lines cs := by
  have hlast : cs.getLast? ≠ some '\r' := fun hlast => hreturn (List.mem_of_getLast? hlast)
  cases h with
  | same => rfl
  | returns => exact lines_withReturns hreturn
  | complete => exact lines_completed hlast
  | returnsLast =>
    rw [lines_withReturns (not_mem_completed (by decide) hreturn), lines_completed hlast]
  | completeLast =>
    have hsame : (withReturns '\n' '\r' cs).getLast? = cs.getLast? := getLast?_withReturns cs
    rw [← hsame] at hlast
    rw [lines_completed hlast, lines_withReturns hreturn]

end Text

/-! ## Bytes -/

namespace Bytes

open LineEnds

/-- A byte that encodes a character of its own is in the encoding of no other one. -/
theorem eq_of_mem_utf8EncodeChar {c d : Char} (hd : d.toNat < 128)
    (h : UInt8.ofNat d.toNat ∈ String.utf8EncodeChar c) : c = d := by
  unfold String.utf8EncodeChar at h
  simp only at h
  split at h
  · have hvalue := congrArg UInt8.toNat (List.mem_singleton.1 h)
    rw [UInt8.toNat_ofNat', UInt8.toNat_ofNat'] at hvalue
    apply Char.toNat_inj.1
    unfold Char.toNat at hd hvalue ⊢
    omega
  · exfalso
    split at h
    · simp only [List.mem_cons, List.not_mem_nil, or_false, ← UInt8.toNat_inj,
        UInt8.toNat_ofNat'] at h
      omega
    · split at h
      · simp only [List.mem_cons, List.not_mem_nil, or_false, ← UInt8.toNat_inj,
          UInt8.toNat_ofNat'] at h
        omega
      · simp only [List.mem_cons, List.not_mem_nil, or_false, ← UInt8.toNat_inj,
          UInt8.toNat_ofNat'] at h
        omega

/-- The UTF-8 form of the characters. -/
def encode (cs : List Char) : Bytes := cs.flatMap String.utf8EncodeChar

theorem text?_encode (cs : List Char) : text? (encode cs) = some (String.ofList cs) := by
  rw [encode, ← ofText_ofList, text?_ofText]

theorem encode_of_text? {b : Bytes} {s : String} (h : text? b = some s) : encode s.toList = b := by
  rw [encode, ← ofText_ofList, String.ofList_toList, ofText_of_text? h]

theorem encode_append (cs ds : List Char) : encode (cs ++ ds) = encode cs ++ encode ds :=
  List.flatMap_append

theorem encode_ne_nil (c : Char) : encode [c] ≠ [] := by
  simp [encode]

theorem encode_eq_nil_iff {cs : List Char} : encode cs = [] ↔ cs = [] := by
  cases cs with
  | nil => simp [encode]
  | cons c cs =>
    rw [← List.singleton_append, encode_append]
    simp [encode_ne_nil]

theorem mem_encode_iff {cs : List Char} {d : Char} (hd : d.toNat < 128) :
    UInt8.ofNat d.toNat ∈ encode cs ↔ d ∈ cs := by
  constructor
  · intro h
    obtain ⟨c, hc, hbyte⟩ := List.mem_flatMap.1 h
    rwa [← eq_of_mem_utf8EncodeChar hd hbyte]
  · intro h
    have hsmall : d.toNat ≤ 127 := Nat.le_of_lt_succ hd
    refine List.mem_flatMap.2 ⟨d, h, ?_⟩
    simp [String.utf8EncodeChar, hsmall]

theorem newline_mem_encode_iff {cs : List Char} : 10 ∈ encode cs ↔ '\n' ∈ cs :=
  mem_encode_iff (d := '\n') (by decide)

theorem return_mem_encode_iff {cs : List Char} : 13 ∈ encode cs ↔ '\r' ∈ cs :=
  mem_encode_iff (d := '\r') (by decide)

/-- A change to bytes is a change to characters, if both go through concatenation and are the same
for every single character. -/
theorem change_encode {F : Bytes → Bytes} {G : List Char → List Char}
    (hF : ∀ a b, F (a ++ b) = F a ++ F b) (hG : ∀ cs ds, G (cs ++ ds) = G cs ++ G ds)
    (hchar : ∀ c, F (encode [c]) = encode (G [c])) (cs : List Char) :
    F (encode cs) = encode (G cs) := by
  induction cs with
  | nil =>
    have hFnil : F [] = [] := List.self_eq_append_left.1 (hF [] [])
    have hGnil : G [] = [] := List.self_eq_append_left.1 (hG [] [])
    rw [hGnil]
    exact hFnil
  | cons c cs ih => rw [← List.singleton_append, encode_append, hF, hG, encode_append, hchar, ih]

theorem encode_withReturns (cs : List Char) :
    withReturns 10 13 (encode cs) = encode (withReturns '\n' '\r' cs) := by
  apply change_encode withReturns_append withReturns_append
  intro c
  by_cases hc : c = '\n'
  · rw [hc]
    decide
  · have hchar : '\n' ∉ [c] := by simpa using Ne.symm hc
    have hbyte : 10 ∉ encode [c] := mt newline_mem_encode_iff.1 hchar
    rw [withReturns_of_not_mem hbyte, withReturns_of_not_mem hchar]

theorem filter_encode (cs : List Char) :
    (encode cs).filter (· ≠ 13) = encode (cs.filter (· ≠ '\r')) := by
  apply change_encode (fun _ _ => List.filter_append _ _) (fun _ _ => List.filter_append _ _)
  intro c
  by_cases hc : c = '\r'
  · rw [hc]
    decide
  · have hchar : '\r' ∉ [c] := by simpa using Ne.symm hc
    have hbyte : 13 ∉ encode [c] := mt return_mem_encode_iff.1 hchar
    rw [List.filter_eq_self.2 fun b hb => by simpa using ne_of_mem_of_not_mem hb hbyte,
      List.filter_eq_self.2 fun d hd => by simpa using ne_of_mem_of_not_mem hd hchar]

theorem getLast?_encode (cs : List Char) :
    (encode cs).getLast? = some 10 ↔ cs.getLast? = some '\n' := by
  rcases List.eq_nil_or_concat' cs with rfl | ⟨before, c, rfl⟩
  · simp [encode]
  · rw [encode_append, List.getLast?_append_of_ne_nil _ (encode_ne_nil c), List.getLast?_concat]
    constructor
    · intro hlast
      have hchar : '\n' ∈ [c] := newline_mem_encode_iff.1 (List.mem_of_getLast? hlast)
      rw [List.mem_singleton.1 hchar]
    · intro hlast
      cases hlast
      decide

theorem encode_completed (cs : List Char) :
    completed 10 (encode cs) = encode (completed '\n' cs) := by
  unfold completed
  simp only [getLast?_encode, encode_eq_nil_iff]
  split
  · rfl
  · rw [encode_append]
    rfl

/-- Other ends of the lines of a text are other ends in its bytes. -/
theorem exists_otherEnds_of_encode {cs : List Char} {b : Bytes}
    (h : OtherEnds 10 13 (encode cs) b) :
    ∃ ds, OtherEnds '\n' '\r' cs ds ∧ b = encode ds := by
  cases h with
  | same => exact ⟨_, .same, rfl⟩
  | returns => exact ⟨_, .returns, encode_withReturns cs⟩
  | complete => exact ⟨_, .complete, encode_completed cs⟩
  | returnsLast => exact ⟨_, .returnsLast, by rw [encode_completed, encode_withReturns]⟩
  | completeLast => exact ⟨_, .completeLast, by rw [encode_withReturns, encode_completed]⟩

/-! ### Bytes that are no text -/

theorem encode_of_withReturns {b : Bytes} {cs : List Char} (hreturn : 13 ∉ b)
    (h : withReturns 10 13 b = encode cs) :
    b = encode (cs.filter (· ≠ '\r')) := by
  rw [← filter_encode, ← h, filter_withReturns (by decide) hreturn]

theorem encode_of_completed {b : Bytes} {cs : List Char} (h : completed 10 b = encode cs) :
    ∃ ds, b = encode ds := by
  unfold completed at h
  split at h
  · exact ⟨cs, h⟩
  · have hlast : (encode cs).getLast? = some 10 := by rw [← h, List.getLast?_concat]
    obtain ⟨before, rfl⟩ := List.getLast?_eq_some_iff.1 ((getLast?_encode cs).1 hlast)
    rw [encode_append] at h
    exact ⟨before, (List.append_inj' h rfl).1⟩

/-- Bytes that are no text do not become one by other ends. -/
theorem exists_encode_of_otherEnds {b : Bytes} {ds : List Char} (hreturn : 13 ∉ b)
    (h : OtherEnds 10 13 b (encode ds)) : ∃ cs, b = encode cs := by
  generalize hother : encode ds = other at h
  cases h with
  | same => exact ⟨ds, hother.symm⟩
  | returns => exact ⟨_, encode_of_withReturns hreturn hother.symm⟩
  | complete => exact encode_of_completed hother.symm
  | returnsLast =>
    have hcompleted := encode_of_withReturns (not_mem_completed (by decide) hreturn) hother.symm
    exact encode_of_completed hcompleted
  | completeLast =>
    obtain ⟨cs, hreturned⟩ := encode_of_completed hother.symm
    exact ⟨_, encode_of_withReturns hreturn hreturned⟩

/-! ### Lines of bytes -/

/-- The lines of the text that the bytes encode, if they are valid UTF-8. -/
def lines? (b : Bytes) : Option (List (List Char)) := (text? b).map fun s => Text.lines s.toList

theorem lines?_encode (cs : List Char) : lines? (encode cs) = some (Text.lines cs) := by
  rw [lines?, text?_encode, Option.map_some, String.toList_ofList]

/-- However its lines end, a text without carriage returns keeps them, and bytes that are no text
remain none. -/
theorem lines?_eq_of_otherEnds {b b' : Bytes} (hreturn : 13 ∉ b) (h : OtherEnds 10 13 b b') :
    lines? b' = lines? b := by
  cases htext : text? b with
  | some s =>
    obtain rfl := encode_of_text? htext
    have hchars : '\r' ∉ s.toList := mt return_mem_encode_iff.2 hreturn
    obtain ⟨ds, hds, rfl⟩ := exists_otherEnds_of_encode h
    rw [lines?_encode, lines?_encode, Text.lines_eq_of_otherEnds hchars hds]
  | none =>
    cases htext' : text? b' with
    | none => rw [lines?, lines?, htext, htext']
    | some s' =>
      rw [← encode_of_text? htext'] at h
      obtain ⟨cs, rfl⟩ := exists_encode_of_otherEnds hreturn h
      rw [text?_encode] at htext
      cases htext

end Bytes

end ShaderBuild
