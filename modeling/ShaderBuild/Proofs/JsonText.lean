import Mathlib.Data.List.Forall2
import ShaderBuild.Json.Record
import ShaderBuild.Json.Writer

/-!
Written forms of values and that they are read back: texts, truth values, numbers, words, arrays and
records. Main statements: `reads_string`, `reads_array` and `reads_object`.
-/

namespace ShaderBuild.Json

/-! ## Strings -/

theorem stringRest_escape {before rest after : List Char} {c : Char}
    (h : escape rest = .ok (c, after)) :
    stringRest before ('\\' :: rest) = stringRest (c :: before) after := by
  rw [stringRest]
  split
  · rename_i hc
    rw [h] at hc
    cases hc
    rfl
  · rename_i hc
    rw [h] at hc
    cases hc

theorem stringRest_plain {before rest : List Char} {c : Char} (hq : c ≠ '"') (hb : c ≠ '\\')
    (hc : 0x20 ≤ c.toNat) : stringRest before (c :: rest) = stringRest (c :: before) rest := by
  rw [stringRest]
  · rw [if_neg (by omega)]
  · exact hq
  · exact hb

theorem fourDigits_control {n : Nat} (hn : n < 0x20) (rest : List Char) :
    fourDigits ('0' :: '0' :: hexDigit (n / 16) :: hexDigit (n % 16) :: rest) = .ok (n, rest) := by
  have hlen : ∀ n < 0x20, Text.byteLength ['0', '0', hexDigit (n / 16), hexDigit (n % 16)] = 4 := by
    decide
  have hval : ∀ n < 0x20, hexValue? ['0', '0', hexDigit (n / 16), hexDigit (n % 16)] = some n := by
    decide
  simp [fourDigits, hlen n hn, hval n hn]

theorem escape_control {n : Nat} (hn : n < 0x20) (rest : List Char) :
    escape ('u' :: '0' :: '0' :: hexDigit (n / 16) :: hexDigit (n % 16) :: rest) =
      .ok (Char.ofNat n, rest) := by
  simp only [escape, fourDigits_control hn]
  rw [if_neg (by omega), if_neg (by omega)]

theorem stringRest_escapeChar (before rest : List Char) (c : Char) :
    stringRest before (escapeChar c ++ rest) = stringRest (c :: before) rest := by
  unfold escapeChar
  split
  case h_8 _ hq hb _ _ _ _ _ =>
    split
    · rename_i hc
      have h := escape_control hc rest
      rw [Char.ofNat_toNat] at h
      exact stringRest_escape h
    · exact stringRest_plain hq hb (by omega)
  all_goals exact stringRest_escape rfl

theorem stringRest_flatMap_escapeChar (cs before rest : List Char) :
    stringRest before (cs.flatMap escapeChar ++ '"' :: rest) =
      .ok (before.reverse ++ cs, rest) := by
  induction cs generalizing before with
  | nil => simp [stringRest]
  | cons c cs ih =>
    rw [List.flatMap_cons, List.append_assoc, stringRest_escapeChar, ih]
    simp

/-! ## Written forms -/

/-- What may stand behind a value inside a document. -/
def Follows : List Char → Prop
  | [] => True
  | c :: _ => c = ',' ∨ c = ']' ∨ c = '\x7d'

/-- `text` starts like a value: neither blank nor the end of an array. -/
def Starts (text : List Char) : Prop := ∃ c rest, text = c :: rest ∧ isBlank c = false ∧ c ≠ ']'

/-- `text` is a written form of `a`: it is read as `a` wherever it stands in a document. -/
structure Reads {α : Type} (read : Reader α) (text : List Char) (a : α) : Prop where
  starts : Starts text
  eq : ∀ rest, Follows rest → read (text ++ rest) = .ok (a, rest)

theorem Reads.map {α β : Type} {read : Reader α} {text : List Char} {a : α} (h : Reads read text a)
    (f : α → β) : Reads (f <$> read) text (f a) := by
  refine ⟨h.starts, fun rest hrest => ?_⟩
  simp only [Functor.map, h.eq rest hrest]
  rfl

theorem isBlank_quote : isBlank '"' = false := by decide

theorem isBlank_colon : isBlank ':' = false := by decide

theorem isBlank_comma : isBlank ',' = false := by decide

theorem isBlank_bracket : isBlank '[' = false := by decide

theorem isBlank_brace : isBlank '\x7b' = false := by decide

theorem dropBlanks_cons {c : Char} (h : isBlank c = false) (rest : List Char) :
    dropBlanks (c :: rest) = c :: rest := by
  rw [dropBlanks, List.dropWhile_cons_of_neg (by simp [h])]

theorem Starts.dropBlanks_append {text : List Char} (h : Starts text) (rest : List Char) :
    dropBlanks (text ++ rest) = text ++ rest := by
  obtain ⟨c, tail, rfl, hc, -⟩ := h
  exact dropBlanks_cons hc _

theorem reads_string (s : String) : Reads readString (string s) s := by
  refine ⟨⟨'"', _, rfl, by decide, by decide⟩, fun rest _ => ?_⟩
  have h := stringRest_flatMap_escapeChar s.toList [] rest
  simp only [string, List.cons_append, List.append_assoc, List.nil_append, readString,
    dropBlanks_cons isBlank_quote, h]
  simp [Except.map]

theorem reads_bool (b : Bool) : Reads readBool (bool b) b := by
  cases b with
  | false => exact ⟨⟨'f', _, rfl, by decide, by decide⟩, fun rest _ => rfl⟩
  | true => exact ⟨⟨'t', _, rfl, by decide, by decide⟩, fun rest _ => rfl⟩

theorem reads_name {α : Type} {ofName? : String → Option α} {s : String} {a : α}
    (h : ofName? s = some a) :
    Reads (readName ofName?) (string s) a := by
  refine ⟨⟨'"', _, rfl, by decide, by decide⟩, fun rest _ => ?_⟩
  have hs := stringRest_flatMap_escapeChar s.toList [] rest
  simp only [string, List.cons_append, List.append_assoc, List.nil_append, readName,
    dropBlanks_cons isBlank_quote, hs]
  simp [h]

/-! ## Numbers -/

theorem le_ofDigitChars (ds : List Char) (n : Nat) : n ≤ Nat.ofDigitChars 10 ds n := by
  induction ds generalizing n with
  | nil => simp
  | cons d ds ih =>
    rw [Nat.ofDigitChars_cons]
    exact Nat.le_trans (by omega) (ih _)

theorem takeDigits_append {ds rest : List Char} {n : Nat} (hd : ∀ d ∈ ds, d.isDigit)
    (hm : Nat.ofDigitChars 10 ds n ≤ maxWord) (hr : ∀ c ∈ rest.head?, c.isDigit = false) :
    takeDigits n (ds ++ rest) = (Nat.ofDigitChars 10 ds n, rest) := by
  induction ds generalizing n with
  | nil =>
    cases rest with
    | nil => rfl
    | cons c rest => simp [takeDigits, hr c rfl]
  | cons d ds ih =>
    rw [Nat.ofDigitChars_cons] at hm ⊢
    have hle := le_ofDigitChars ds (10 * n + (d.toNat - '0'.toNat))
    rw [List.cons_append, takeDigits, if_pos ⟨hd d (by simp), by omega⟩]
    exact ih (fun c hc => hd c (by simp [hc])) hm

/-- Only zero is written with a leading zero. -/
theorem eq_zero_of_toDigits {n : Nat} {ds : List Char} (h : Nat.toDigits 10 n = '0' :: ds) :
    n = 0 ∧ ds = [] := by
  induction n using Nat.strongRecOn generalizing ds with
  | _ n ih =>
    by_cases hn : n < 10
    · rw [Nat.toDigits_of_lt_base hn] at h
      simp only [List.cons.injEq] at h
      refine ⟨?_, h.2.symm⟩
      have hz : ∀ m < 10, m.digitChar = '0' → m = 0 := by decide
      exact hz n hn h.1
    · rw [Nat.toDigits_of_base_le (by decide) (by omega)] at h
      cases hq : Nat.toDigits 10 (n / 10) with
      | nil => exact absurd hq Nat.toDigits_ne_nil
      | cons d es =>
        rw [hq] at h
        simp only [List.cons_append, List.cons.injEq] at h
        obtain ⟨rfl, -⟩ := h
        have := (ih (n / 10) (by omega) hq).1
        omega

theorem Follows.not_digit {rest : List Char} (h : Follows rest) :
    ∀ c ∈ rest.head?, c.isDigit = false := by
  cases rest with
  | nil => simp
  | cons c rest =>
    intro d hd
    obtain rfl : c = d := by simpa using hd
    rcases h with rfl | rfl | rfl <;> decide

theorem unsigned_number {n : Nat} (hn : n ≤ maxWord) {rest : List Char} (hrest : Follows rest) :
    unsigned (number n ++ rest) = .ok (.natural n, rest) := by
  have hall : ∀ d ∈ number n, d.isDigit := fun d hd =>
    Nat.isDigit_of_mem_toDigits (by decide) (by decide) hd
  have htake := takeDigits_append (n := 0) hall (by simpa [number] using hn) hrest.not_digit
  simp only [number, Nat.ofDigitChars_ten_toDigits] at htake
  cases hds : Nat.toDigits 10 n with
  | nil => exact absurd hds Nat.toDigits_ne_nil
  | cons d ds =>
    have hd : d.isDigit := hall d (by simp [number, hds])
    have hz : ¬(d = '0' ∧ ((ds ++ rest).head?.map Char.isDigit).getD false = true) := by
      rintro ⟨rfl, h⟩
      obtain ⟨-, rfl⟩ := eq_zero_of_toDigits hds
      cases rest with
      | nil => simp at h
      | cons c rest =>
        have := hrest.not_digit c rfl
        simp [this] at h
    rw [hds] at htake
    simp only [number, hds, List.cons_append, unsigned] at htake ⊢
    rw [if_neg (by simp [hd]), if_neg hz, htake]
    cases rest with
    | nil => simp
    | cons c rest =>
      have hc := hrest.not_digit c rfl
      rcases hrest with rfl | rfl | rfl <;> simp

theorem reads_word {n : Nat} (hn : n ≤ maxWord) : Reads readWord (number n) n := by
  have hhead : ∃ d ds, number n = d :: ds ∧ d.isDigit := by
    cases hds : number n with
    | nil => exact absurd hds Nat.toDigits_ne_nil
    | cons d ds =>
      exact ⟨d, ds, rfl, Nat.isDigit_of_mem_toDigits (by decide) (by decide)
        (show d ∈ number n by simp [hds])⟩
  obtain ⟨d, ds, hds, hd⟩ := hhead
  have hstart : isBlank d = false ∧ d ≠ ']' ∧ d ≠ '-' := by
    refine ⟨?_, ?_, ?_⟩
    · rw [Bool.eq_false_iff]
      intro hb
      simp only [isBlank, Bool.or_eq_true, beq_iff_eq] at hb
      rcases hb with ((rfl | rfl) | rfl) | rfl <;> exact absurd hd (by decide)
    · rintro rfl
      exact absurd hd (by decide)
    · rintro rfl
      exact absurd hd (by decide)
  refine ⟨⟨d, ds, hds, hstart.1, hstart.2.1⟩, fun rest hrest => ?_⟩
  have h := unsigned_number hn hrest
  rw [hds, List.cons_append] at h ⊢
  have hnum : numberText (d :: (ds ++ rest)) = .ok (.natural n, rest) := by
    rw [numberText]
    · exact h
    · intro _ he
      exact hstart.2.2 (List.cons.inj he).1
  simp only [readWord, dropBlanks_cons hstart.1]
  rw [if_pos (.inr hd), hnum]

/-! ## Arrays -/

/-- Items behind the first, each with its comma. -/
def commaItems (items : List (List Char)) : List Char := items.flatMap (',' :: ·)

theorem commas_cons (item : List Char) (items : List (List Char)) :
    commas (item :: items) = item ++ commaItems items := by
  induction items generalizing item with
  | nil => simp [commas, commaItems]
  | cons next items ih =>
    have hne : next :: items = [] → False := nofun
    rw [commas, ih next, commaItems, commaItems, List.flatMap_cons, List.cons_append]
    exact hne

theorem follows_bracket (rest : List Char) : Follows (']' :: rest) := .inr (.inl rfl)

theorem follows_brace (rest : List Char) : Follows ('\x7d' :: rest) := .inr (.inr rfl)

theorem follows_comma (rest : List Char) : Follows (',' :: rest) := .inl rfl

theorem follows_commaItems (items : List (List Char)) {rest : List Char} (h : Follows rest) :
    Follows (commaItems items ++ rest) := by
  cases items with
  | nil => exact h
  | cons item items => exact follows_comma _

variable {α : Type} {item : Reader α} {texts : List (List Char)} {as : List α}

theorem items_false (h : List.Forall₂ (Reads item) texts as) {fuel : Nat}
    (hf : texts.length < fuel) (rest : List Char) :
    items item fuel false (commaItems texts ++ ']' :: rest) = .ok (as, rest) := by
  induction h generalizing fuel with
  | nil =>
    cases fuel with
    | zero => simp at hf
    | succ fuel => rfl
  | @cons text a texts as ha _ ih =>
    cases fuel with
    | zero => simp at hf
    | succ fuel =>
      have hrest := ih (by simpa using hf)
      have hfollows := follows_commaItems texts (follows_bracket rest)
      have hread := ha.eq _ hfollows
      have hblank := ha.starts.dropBlanks_append (commaItems texts ++ ']' :: rest)
      obtain ⟨c, tail, rfl, -, hc⟩ := ha.starts
      simp only [commaItems, List.flatMap_cons, List.cons_append, List.append_assoc]
      rw [items]
      simp only [dropBlanks_cons isBlank_comma]
      simp only [commaItems, List.cons_append] at hblank hread hrest ⊢
      simp [hblank, hc, hread, hrest, Except.map]

theorem items_true (h : List.Forall₂ (Reads item) texts as) {fuel : Nat}
    (hf : texts.length < fuel) (rest : List Char) :
    items item fuel true (commas texts ++ ']' :: rest) = .ok (as, rest) := by
  cases fuel with
  | zero => omega
  | succ fuel =>
    cases h with
    | nil => rfl
    | @cons text a texts as ha hitems =>
      have hlength : texts.length < fuel := by simpa using hf
      have hrest := items_false hitems hlength rest
      have hfollows := follows_commaItems texts (follows_bracket rest)
      have hread := ha.eq _ hfollows
      have hblank := ha.starts.dropBlanks_append (commaItems texts ++ ']' :: rest)
      obtain ⟨c, tail, rfl, -, hc⟩ := ha.starts
      rw [commas_cons, List.append_assoc, items]
      simp only [List.cons_append] at hblank hread ⊢
      simp [hblank, hread, hrest, Except.map]

/-- An array of texts is read as the values that the texts are read as. -/
theorem reads_array (h : List.Forall₂ (Reads item) texts as) {fuel : Nat}
    (hf : texts.length < fuel) : Reads (readArray fuel item) (array texts) as := by
  refine ⟨⟨'[', _, rfl, by decide, by decide⟩, fun rest _ => ?_⟩
  simp only [array, List.cons_append, List.append_assoc, List.nil_append, readArray,
    dropBlanks_cons isBlank_bracket]
  exact items_true h hf rest

theorem forall₂_reads_map {text : α → List Char} (h : ∀ a ∈ as, Reads item (text a) a) :
    List.Forall₂ (Reads item) (as.map text) as :=
  List.forall₂_map_left_iff.2 (List.forall₂_same.2 h)

theorem forall₂_reads_mapM {text? : α → Option (List Char)} (htexts : as.mapM text? = some texts)
    (h : ∀ a ∈ as, ∀ text ∈ texts, text? a = some text → Reads item text a) :
    List.Forall₂ (Reads item) texts as := by
  induction as generalizing texts with
  | nil =>
    cases htexts
    exact .nil
  | cons a as ih =>
    rw [List.mapM_cons] at htexts
    obtain ⟨text, ha, htexts⟩ := Option.bind_eq_some_iff.1 htexts
    obtain ⟨others, hothers, heq⟩ := Option.bind_eq_some_iff.1 htexts
    cases heq
    exact .cons (h a (.head _) text (.head _) ha)
      (ih hothers fun b hb other hother => h b (.tail _ hb) other (.tail _ hother))

/-! ## Records -/

/-- A record that has been read up to `s` takes the members in turn and ends as `t`. -/
inductive Takes {σ : Type} (slot : String → σ → Slot σ) : σ → List (String × List Char) → σ → Prop
  | nil (s : σ) : Takes slot s [] s
  | cons {s s' t : σ} {name : String} {text : List Char} {read : Reader σ}
      {members : List (String × List Char)} (known : slot name s = .value read)
      (reads : Reads read text s') (rest : Takes slot s' members t) :
      Takes slot s ((name, text) :: members) t

theorem Takes.value {σ α : Type} {slot : String → σ → Slot σ} {s t : σ} {name : String}
    {text : List Char} {read : Reader α} {put : α → σ} {a : α} {members : List (String × List Char)}
    (known : slot name s = .once none read put) (reads : Reads read text a)
    (rest : Takes slot (put a) members t) : Takes slot s ((name, text) :: members) t :=
  .cons known (reads.map put) rest

def memberText (m : String × List Char) : List Char := string m.1 ++ ':' :: m.2

variable {σ : Type} {slot : String → σ → Slot σ} {s t : σ} {ms : List (String × List Char)}

theorem members_false (h : Takes slot s ms t) {fuel : Nat} (hf : ms.length < fuel)
    (rest : List Char) :
    members slot fuel false s (commaItems (ms.map memberText) ++ '\x7d' :: rest) =
      .ok (t, rest) := by
  induction h generalizing fuel with
  | nil s =>
    cases fuel with
    | zero => simp at hf
    | succ fuel => rfl
  | @cons s s' t name text read ms known reads _ ih =>
    cases fuel with
    | zero => simp at hf
    | succ fuel =>
      have hlength : ms.length < fuel := by simpa using hf
      have hrest := ih hlength
      have hfollows := follows_commaItems (ms.map memberText) (follows_brace rest)
      have hread := reads.eq _ hfollows
      have hname := stringRest_flatMap_escapeChar name.toList []
        (':' :: (text ++ (commaItems (ms.map memberText) ++ '\x7d' :: rest)))
      rw [members]
      simp only [commaItems, List.map_cons, List.flatMap_cons, memberText, string, List.cons_append,
        List.append_assoc, List.nil_append,
        dropBlanks_cons isBlank_comma] at hname hread hrest ⊢
      simp [dropBlanks_cons isBlank_quote, hname, known,
        dropBlanks_cons isBlank_colon, hread, hrest]

theorem members_true (h : Takes slot s ms t) {fuel : Nat} (hf : ms.length < fuel)
    (rest : List Char) :
    members slot fuel true s (commas (ms.map memberText) ++ '\x7d' :: rest) = .ok (t, rest) := by
  cases fuel with
  | zero => omega
  | succ fuel =>
    cases h with
    | nil => rfl
    | @cons _ s' _ name text read ms known reads htakes =>
      have hlength : ms.length < fuel := by simpa using hf
      have hrest := members_false htakes hlength rest
      have hfollows := follows_commaItems (ms.map memberText) (follows_brace rest)
      have hread := reads.eq _ hfollows
      have hname := stringRest_flatMap_escapeChar name.toList []
        (':' :: (text ++ (commaItems (ms.map memberText) ++ '\x7d' :: rest)))
      rw [List.map_cons, commas_cons, members]
      simp only [memberText, string, List.cons_append, List.append_assoc, List.nil_append,
        dropBlanks_cons isBlank_quote] at hname hread hrest ⊢
      simp [hname, known, dropBlanks_cons isBlank_colon, hread, hrest]

theorem reads_object {finish : σ → Option α} {elements : Reader α} {a : α} (h : Takes slot s ms t)
    (hfinish : finish t = some a) {fuel : Nat} (hf : ms.length < fuel) :
    Reads (readRecord fuel slot s finish elements) (object ms) a := by
  refine ⟨⟨'\x7b', _, rfl, by decide, by decide⟩, fun rest _ => ?_⟩
  have hmembers := members_true h hf rest
  have htext : (fun m : String × List Char => string m.1 ++ ':' :: m.2) = memberText := rfl
  simp only [object, List.cons_append, List.append_assoc, List.nil_append, readRecord, htext,
    dropBlanks_cons isBlank_brace, hmembers, hfinish]

end ShaderBuild.Json
