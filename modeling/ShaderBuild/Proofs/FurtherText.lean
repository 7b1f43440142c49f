import ShaderBuild.Include.Pattern.Reader

/-!
Reading the parts of an expression where more text follows. What is read of a text by itself is read
of it as well where a closing parenthesis and an end anchor stand behind. Main statements:
`counts?_further`, `flags?_further`, `groupName?_further`, `escape?_further` and `bracket?_further`,
one for each kind of part.
-/

namespace ShaderBuild.Regex

/-! ## Text behind a text -/

/-- The first text, and behind it what ends a whole match. Where a comment goes on to the end,
nothing is left of that. -/
inductive Further : List Char → List Char → Prop where
  | behind : Further [] [')', '$']
  | swallowed : Further [] []
  | cons (c : Char) {cs cs' : List Char} : Further cs cs' → Further (c :: cs) (c :: cs')

/-- What is read first is read second too, and more of the text is left behind it. -/
def ReadsOn {α : Type} (first second : Option (α × List Char)) : Prop :=
  ∀ a rest, first = some (a, rest) → ∃ rest', second = some (a, rest') ∧ Further rest rest'

namespace ReadsOn

variable {α β : Type}

theorem fail {second : Option (α × List Char)} : ReadsOn none second := nofun

theorem done (a : α) {rest rest' : List Char} (h : Further rest rest') :
    ReadsOn (some (a, rest)) (some (a, rest')) := by
  rintro a rest ⟨⟩
  exact ⟨rest', rfl, h⟩

theorem bind {first second : Option (α × List Char)} (h : ReadsOn first second)
    {next next' : α × List Char → Option (β × List Char)}
    (hnext : ∀ a {rest rest' : List Char}, Further rest rest' → ReadsOn (next (a, rest))
    (next' (a, rest'))) :
    ReadsOn (first.bind next) (second.bind next') := by
  intro b rest hb
  obtain ⟨⟨a, middle⟩, hfirst, hthen⟩ := Option.bind_eq_some_iff.1 hb
  obtain ⟨middle', hsecond, hmiddle⟩ := h a middle hfirst
  rw [hsecond, Option.bind_some]
  exact hnext a hmiddle b rest hthen

theorem value (o : Option α) {rest rest' : List Char} (h : Further rest rest') :
    ReadsOn (o.map (·, rest)) (o.map (·, rest')) := by
  cases o with
  | none => exact .fail
  | some a => exact .done a h

theorem map {first second : Option (α × List Char)} (h : ReadsOn first second) (f : α → β) :
    ReadsOn (first.map fun p => (f p.1, p.2)) (second.map fun p => (f p.1, p.2)) := by
  intro b rest hb
  obtain ⟨⟨a, middle⟩, hfirst, heq⟩ := Option.map_eq_some_iff.1 hb
  obtain ⟨middle', hsecond, hmiddle⟩ := h a middle hfirst
  obtain ⟨rfl, rfl⟩ := Prod.mk.inj heq
  exact ⟨middle', by rw [hsecond]; rfl, hmiddle⟩

end ReadsOn

namespace Further

variable {cs cs' : List Char} {flags : Flags}

theorem length_le (h : Further cs cs') : cs.length ≤ cs'.length := by
  induction h with
  | behind => exact Nat.zero_le 2
  | swallowed => exact Nat.le_refl 0
  | cons c h ih => exact Nat.succ_le_succ ih

theorem head?_eq_some_iff (h : Further cs cs') {c : Char} (hc : c ≠ ')') :
    cs'.head? = some c ↔ cs.head? = some c := by
  cases h with
  | behind => simp [hc.symm]
  | swallowed => exact Iff.rfl
  | cons c h => exact Iff.rfl

/-- Both texts start with the sign, or none does. -/
theorem sign (h : Further cs cs') (k : Char) (hk : k ≠ ')') :
    (∃ rest rest', cs = k :: rest ∧ cs' = k :: rest' ∧ Further rest rest') ∨
      (∀ rest, cs ≠ k :: rest) ∧ ∀ rest, cs' ≠ k :: rest := by
  cases h with
  | behind => exact .inr ⟨nofun, fun rest heq => hk (List.cons_eq_cons.1 heq).1.symm⟩
  | swallowed => exact .inr ⟨nofun, nofun⟩
  | @cons c cs cs' h =>
    by_cases hc : c = k
    · subst hc
      exact .inl ⟨cs, cs', rfl, rfl, h⟩
    · exact .inr ⟨fun rest heq => hc (List.cons_eq_cons.1 heq).1,
        fun rest heq => hc (List.cons_eq_cons.1 heq).1⟩

theorem tail (h : Further cs cs') {c : Char} (hc : cs.head? = some c) :
    Further cs.tail cs'.tail := by
  cases h with
  | behind => cases hc
  | swallowed => cases hc
  | cons c h => exact h

theorem skipFrom (h : Further cs cs') (inComment : Bool) :
    Further (Regex.skipFrom inComment cs) (Regex.skipFrom inComment cs') := by
  induction h generalizing inComment with
  | behind => cases inComment <;> first | exact .behind | exact .swallowed
  | swallowed => cases inComment <;> exact .swallowed
  | cons c h ih =>
    cases inComment with
    | true => exact ih _
    | false =>
      simp only [Regex.skipFrom]
      split
      · exact ih false
      · split
        · exact ih true
        · exact .cons c h

theorem skip (h : Further cs cs') (flags : Flags) :
    Further (Regex.skip flags cs) (Regex.skip flags cs') := by
  unfold Regex.skip
  split
  · exact h.skipFrom false
  · exact h

theorem dropWhile (h : Further cs cs') {p : Char → Bool} (hp : p ')' = false) :
    Further (cs.dropWhile p) (cs'.dropWhile p) := by
  induction h with
  | behind =>
    rw [List.dropWhile_cons_of_neg (by simp [hp])]
    exact .behind
  | swallowed => exact .swallowed
  | cons c h ih =>
    rw [List.dropWhile_cons, List.dropWhile_cons]
    split
    · exact ih
    · exact .cons c h

/-- What a run of characters leaves, unless it goes on to the end of the text. -/
theorem takeWhile_or (h : Further cs cs') (p : Char → Bool) :
    cs.dropWhile p = [] ∨ cs'.takeWhile p = cs.takeWhile p ∧
      Further (cs.dropWhile p) (cs'.dropWhile p) := by
  induction h with
  | behind => exact .inl rfl
  | swallowed => exact .inl rfl
  | cons c h ih =>
    by_cases hc : p c = true
    · simp only [List.takeWhile_cons, List.dropWhile_cons, if_pos hc]
      exact ih.imp_right fun ⟨htake, hdrop⟩ => ⟨congrArg (c :: ·) htake, hdrop⟩
    · simp only [List.takeWhile_cons, List.dropWhile_cons, if_neg hc]
      exact .inr ⟨trivial, .cons c h⟩

theorem dropWhile_eq_nil (h : Further cs cs') {p : Char → Bool} (hclosing : p ')' = true)
    (hend : p '$' = true) (hnone : cs.dropWhile p = []) : cs'.dropWhile p = [] := by
  induction h with
  | behind => simp [hclosing, hend]
  | swallowed => rfl
  | cons c h ih =>
    rw [List.dropWhile_cons] at hnone ⊢
    split at hnone
    · rename_i hc
      rw [if_pos hc]
      exact ih hnone
    · cases hnone

theorem spacedSpan (h : Further cs cs') (flags : Flags) {p : Char → Bool} (hp : p ')' = false) :
    (Regex.spacedSpan flags p cs').1 = (Regex.spacedSpan flags p cs).1 ∧
      Further (Regex.spacedSpan flags p cs).2 (Regex.spacedSpan flags p cs').2 := by
  fun_induction Regex.spacedSpan flags p cs generalizing cs' with
  | case1 =>
    cases h with
    | behind =>
      rw [Regex.spacedSpan, hp]
      exact ⟨rfl, .behind⟩
    | swallowed =>
      rw [Regex.spacedSpan]
      exact ⟨rfl, .swallowed⟩
  | case2 c rest hc found last heq ih =>
    cases h with
    | cons _ h =>
      obtain ⟨hfound, hlast⟩ := ih (h.skip flags)
      rw [Regex.spacedSpan, if_pos hc]
      rw [heq] at hfound hlast
      exact ⟨congrArg (c :: ·) hfound, hlast⟩
  | case3 c rest hc =>
    cases h with
    | cons _ h =>
      rw [Regex.spacedSpan, if_neg hc]
      exact ⟨rfl, .cons c h⟩

/-- What a spaced run leaves, unless it goes on to the end of the text. -/
theorem spacedSpan_or (h : Further cs cs') (flags : Flags) (p : Char → Bool) :
    (Regex.spacedSpan flags p cs).2 = [] ∨
      (Regex.spacedSpan flags p cs').1 = (Regex.spacedSpan flags p cs).1 ∧
        Further (Regex.spacedSpan flags p cs).2 (Regex.spacedSpan flags p cs').2 := by
  fun_induction Regex.spacedSpan flags p cs generalizing cs' with
  | case1 => exact .inl rfl
  | case2 c rest hc found last heq ih =>
    cases h with
    | cons _ h =>
      rw [heq] at ih
      rw [Regex.spacedSpan, if_pos hc]
      exact (ih (h.skip flags)).imp_right fun ⟨hfound, hlast⟩ =>
        ⟨congrArg (c :: ·) hfound, hlast⟩
  | case3 c rest hc =>
    cases h with
    | cons _ h =>
      rw [Regex.spacedSpan, if_neg hc]
      exact .inr ⟨rfl, .cons c h⟩

end Further

/-! ## Repetition counts -/

section Counts

variable {cs cs' : List Char} {flags : Flags}

theorem count?_further (h : Further cs cs') : ReadsOn (count? flags cs) (count? flags cs') := by
  have hdigits :=
    (h.dropWhile (p := Text.isBlank) (by decide)).spacedSpan flags (p := isDigit) (by decide)
  unfold count?
  simp only
  rw [hdigits.1]
  split
  · exact .fail
  · exact .done _ (hdigits.2.dropWhile (by decide))

theorem counts?_further (h : Further cs cs') : ReadsOn (counts? flags cs) (counts? flags cs') := by
  unfold counts?
  refine (count?_further (h.skip flags)).bind fun least {rest rest'} hrest => ?_
  rcases hrest.sign '}' (by decide) with ⟨rest, rest', rfl, rfl, hafter⟩ | ⟨hclose, hclose'⟩
  · exact .done _ hafter
  · rcases hrest.sign ',' (by decide) with ⟨rest, rest', rfl, rfl, hafter⟩ | ⟨hcomma, hcomma'⟩
    · have hskip := hafter.skip flags
      simp only
      generalize Regex.skip flags rest = rest at hskip
      generalize Regex.skip flags rest' = rest' at hskip
      rcases hskip.sign '}' (by decide) with ⟨rest, rest', rfl, rfl, hafter⟩ | ⟨hopen, hopen'⟩
      · exact .done _ hafter
      · simp only
        refine (count?_further hskip).bind fun most {rest rest'} hrest => ?_
        rcases hrest.sign '}' (by decide) with ⟨rest, rest', rfl, rfl, hafter⟩ | ⟨hclose, hclose'⟩
        · simp only
          split
          · exact .done _ hafter
          · exact .fail
        · simp only
          exact .fail
    · simp only
      exact .fail

end Counts

/-! ## Flags and names of groups -/

section Groups

variable {cs cs' : List Char}

theorem flags?_further (h : Further cs cs') (seen : List Char) (on : Bool) (flags : Flags) :
    ReadsOn (flags? seen on flags cs) (flags? seen on flags cs') := by
  induction h generalizing seen on flags with
  | behind => exact .fail
  | swallowed => exact .fail
  | @cons c cs cs' h ih =>
    by_cases hcolon : c = ':'
    · subst hcolon
      simp only [flags?]
      split
      · exact .fail
      · exact .done _ (.cons _ h)
    · by_cases hclose : c = ')'
      · subst hclose
        simp only [flags?]
        split
        · exact .fail
        · exact .done _ (.cons _ h)
      · by_cases hhyphen : c = '-'
        · subst hhyphen
          simp only [flags?]
          split
          · exact ih _ _ _
          · exact .fail
        · simp only [flags?]
          split
          · exact .fail
          · split
            · exact ih _ _ _
            · exact .fail

theorem groupName?_further (h : Further cs cs') : ReadsOn (groupName? cs) (groupName? cs') := by
  unfold groupName?
  simp only
  rcases h.takeWhile_or fun c => decide (c ≠ '>') with hnone | ⟨htake, hdrop⟩
  · rw [hnone]
    split
    · rename_i heq
      cases heq
    · exact .fail
  · rw [htake]
    generalize cs.takeWhile _ = name
    generalize cs.dropWhile _ = rest at hdrop
    generalize cs'.dropWhile _ = rest' at hdrop
    cases name with
    | nil => exact .fail
    | cons first later =>
      rcases hdrop.sign '>' (by decide) with ⟨rest, rest', rfl, rfl, hafter⟩ | ⟨hclose, hclose'⟩
      · simp only
        split
        · exact .done _ hafter
        · exact .fail
      · simp only [hclose, hclose', imp_self, implies_true]
        exact .fail

end Groups

/-! ## Escapes -/

section Escapes

variable {cs cs' : List Char} {flags : Flags}

theorem hexDigits?_further (h : Further cs cs') (flags : Flags) (n : Nat) :
    ReadsOn (hexDigits? flags n cs) (hexDigits? flags n cs') := by
  induction n generalizing cs cs' with
  | zero => exact .done [] h
  | succ n ih =>
    cases h with
    | behind => exact .fail
    | swallowed => exact .fail
    | cons c h =>
      simp only [hexDigits?]
      split
      · exact (ih (h.skip flags)).map (c :: ·)
      · exact .fail

theorem hexEscape?_further (h : Further cs cs') (flags : Flags) (digits : Nat) :
    ReadsOn (hexEscape? flags digits cs) (hexEscape? flags digits cs') := by
  unfold hexEscape?
  have hskip := h.skip flags
  generalize Regex.skip flags cs = cs at hskip
  generalize Regex.skip flags cs' = cs' at hskip
  rcases hskip.sign '{' (by decide) with ⟨body, body', rfl, rfl, hbody⟩ | ⟨hopen, hopen'⟩
  · obtain ⟨hfound, hafter⟩ :=
      (hbody.skip flags).spacedSpan flags (p := fun c => (Hex.value? c).isSome) (by decide)
    simp only [hfound]
    generalize (spacedSpan flags _ (Regex.skip flags body)).2 = after at hafter
    generalize (spacedSpan flags _ (Regex.skip flags body')).2 = after' at hafter
    rcases hafter.sign '}' (by decide) with ⟨rest, rest', rfl, rfl, hrest⟩ | ⟨hclose, hclose'⟩
    · simp only
      split
      · exact .fail
      · cases (hexNumber? _).bind scalar? with
        | none => exact .fail
        | some c => exact .done _ (hrest.skip flags)
    · simp only
      exact .fail
  · simp only
    refine (hexDigits?_further hskip flags digits).bind fun found {rest rest'} hrest => ?_
    simp only
    cases (hexNumber? found).bind scalar? with
    | none => exact .fail
    | some c => exact .done _ hrest

theorem boundary?_further (h : Further cs cs') (flags : Flags) :
    ReadsOn (boundary? flags cs) (boundary? flags cs') := by
  unfold boundary?
  rcases h.sign '{' (by decide) with ⟨body, body', rfl, rfl, hbody⟩ | ⟨hopen, hopen'⟩
  · obtain ⟨hname, hafter⟩ :=
      (hbody.skip flags).spacedSpan flags (p := fun c => c.isAlpha || c == '-') (by decide)
    simp only
    generalize spacedSpan flags _ (Regex.skip flags body) = span at hname hafter
    generalize spacedSpan flags _ (Regex.skip flags body') = span' at hname hafter
    obtain ⟨name, after⟩ := span
    obtain ⟨name', after'⟩ := span'
    obtain rfl : name' = name := hname
    cases name' with
    | nil =>
      cases hafter with
      | behind => exact .fail
      | swallowed => exact .fail
      | cons c hafter => exact .done _ h
    | cons first name =>
      rcases hafter.sign '}' (by decide) with ⟨rest, rest', rfl, rfl, hrest⟩ | ⟨hclose, hclose'⟩
      · simp only
        split <;> first | exact .done _ hrest | exact .fail
      · simp only [Prod.mk.injEq, hclose, hclose', and_false, imp_self, implies_true]
        exact .fail
  · simp only
    exact .done _ h

/-- One character that opens nothing is a property of its own. -/
theorem property?_eq_named {c : Char} {rest : List Char} (hskip : skip flags cs = c :: rest)
    (hslash : c ≠ '\\') (hopen : c ≠ '{') :
    property? flags cs = some (⟨.named (String.singleton c), false⟩, rest) := by
  rw [property?, hskip]
  split
  · rename_i heq
    cases heq
  · rename_i heq
    cases heq
    exact absurd rfl hslash
  · rename_i heq
    cases heq
    exact absurd rfl hopen
  · rename_i heq
    cases heq
    rfl

/-- A property in braces goes on to the brace that closes them. -/
theorem property?_braces {body body' : List Char}
    (hskip : skip flags cs = '{' :: body) (hskip' : skip flags cs' = '{' :: body')
    (hbody : Further body body') : ReadsOn (property? flags cs) (property? flags cs') := by
  simp only [property?, hskip, hskip']
  rcases (hbody.skip flags).spacedSpan_or flags (fun c => decide (c ≠ '}')) with
    hnone | ⟨htext, hafter⟩
  · generalize spacedSpan flags _ (Regex.skip flags body) = span at hnone
    obtain ⟨text, after⟩ := span
    obtain rfl : after = [] := hnone
    exact .fail
  · generalize spacedSpan flags _ (Regex.skip flags body) = span at htext hafter
    generalize spacedSpan flags _ (Regex.skip flags body') = span' at htext hafter
    obtain ⟨text, after⟩ := span
    obtain ⟨text', after'⟩ := span'
    obtain rfl : text' = text := htext
    rcases hafter.sign '}' (by decide) with ⟨rest, rest', rfl, rfl, hrest⟩ | ⟨hclose, hclose'⟩
    · exact .done _ hrest
    · simp only [Prod.mk.injEq, hclose, and_false, imp_self, implies_true]
      exact .fail

theorem property?_further (h : Further cs cs') (flags : Flags) :
    ReadsOn (property? flags cs) (property? flags cs') := by
  have hskip := h.skip flags
  generalize hcs : Regex.skip flags cs = ahead at hskip
  generalize hcs' : Regex.skip flags cs' = ahead' at hskip
  cases hskip with
  | behind =>
    simp only [property?, hcs]
    exact .fail
  | swallowed =>
    simp only [property?, hcs]
    exact .fail
  | @cons c body body' hbody =>
    by_cases hslash : c = '\\'
    · subst hslash
      simp only [property?, hcs]
      exact .fail
    · by_cases hopen : c = '{'
      · subst hopen
        exact property?_braces hcs hcs' hbody
      · rw [property?_eq_named hcs hslash hopen, property?_eq_named hcs' hslash hopen]
        exact .done _ hbody

theorem propertyEscape?_further (h : Further cs cs') (properties : Text.Properties) (flags : Flags)
    (negated : Bool) :
    ReadsOn (propertyEscape? properties flags negated cs)
      (propertyEscape? properties flags negated cs') := by
  unfold propertyEscape?
  refine (property?_further h flags).bind fun term {rest rest'} hrest => ?_
  simp only
  cases propertyClass? properties flags negated term with
  | none => exact .fail
  | some s => exact .done _ hrest

theorem escape?_further (h : Further cs cs') (properties : Text.Properties) (flags : Flags) :
    ReadsOn (escape? properties flags cs) (escape? properties flags cs') := by
  cases h with
  | behind => exact .fail
  | swallowed => exact .fail
  | @cons c rest rest' h =>
    unfold escape?
    simp only
    split
    · rename_i s _
      cases s with
      | none => exact .fail
      | some s => exact .done _ h
    · split
      all_goals first
        | exact hexEscape?_further h flags _
        | exact propertyEscape?_further h properties flags _
        | exact .done _ h
        | exact (boundary?_further h flags).map fun e => Escape.anchor (.word e !flags.unicode)
        | skip
      -- A sign that stands for itself.
      split
      · exact .done _ h
      · exact .fail

end Escapes

/-! ## Brackets -/

section Brackets

variable {cs cs' : List Char}

theorem leadingHyphens_further (h : Further cs cs') (flags : Flags) (b : Bracket) :
    (leadingHyphens flags b cs').1 = (leadingHyphens flags b cs).1 ∧
      Further (leadingHyphens flags b cs).2 (leadingHyphens flags b cs').2 := by
  obtain ⟨hhyphens, hrest⟩ := h.spacedSpan flags (p := (· == '-')) (by decide)
  simp only [leadingHyphens, hhyphens]
  exact ⟨trivial, hrest⟩

/-- A caret negates the class. -/
def afterCaret (flags : Flags) (cs : List Char) : Bool × List Char :=
  if cs.head? = some '^' then (true, skip flags cs.tail) else (false, cs)

/-- A closing bracket stands for itself where nothing has been read before it. -/
def withClosing (b : Bracket) (cs : List Char) : Bracket × List Char :=
  if b.count = 0 ∧ cs.head? = some ']' then (b.add (.ofChar ']') 0, cs.tail) else (b, cs)

theorem withClosing_closing {b : Bracket} (hcount : b.count = 0) (cs : List Char) :
    withClosing b (']' :: cs) = (b.add (.ofChar ']') 0, cs) := if_pos ⟨hcount, rfl⟩

theorem withClosing_other {b : Bracket} {cs : List Char}
    (h : ∀ rest, b.count = 0 → cs = ']' :: rest → False) :
    withClosing b cs = (b, cs) := by
  refine if_neg fun ⟨hcount, hhead⟩ => ?_
  obtain ⟨rest, hrest⟩ := List.head?_eq_some_iff.1 hhead
  exact h rest hcount hrest

theorem openBracket_eq (flags : Flags) (cs : List Char) :
    openBracket flags cs =
      let start := afterCaret flags (skip flags cs)
      let hyphens := leadingHyphens flags ⟨start.1, none, .empty, 0, 0⟩ start.2
      withClosing hyphens.1 hyphens.2 := by
  unfold openBracket afterCaret
  generalize skip flags cs = cs
  by_cases hc : cs.head? = some '^'
  · obtain ⟨rest, rfl⟩ := List.head?_eq_some_iff.1 hc
    simp only [List.head?_cons, if_true, List.tail_cons]
    generalize leadingHyphens flags _ _ = hyphens
    split
    · rename_i hcount hrest
      rw [hrest, withClosing_closing hcount]
    · rename_i hother
      rw [withClosing_other hother]
  · have hne : ∀ rest, cs ≠ '^' :: rest := by
      rintro rest rfl
      exact hc rfl
    simp only [if_neg hc]
    generalize leadingHyphens flags _ _ = hyphens
    split
    · rename_i hcount hrest
      rw [hrest, withClosing_closing hcount]
    · rename_i hother
      rw [withClosing_other hother]

theorem openBracket_further (h : Further cs cs') (flags : Flags) :
    (openBracket flags cs').1 = (openBracket flags cs).1 ∧
      Further (openBracket flags cs).2 (openBracket flags cs').2 := by
  have hskip := h.skip flags
  have hcaret :
    (afterCaret flags (Regex.skip flags cs')).1 = (afterCaret flags (Regex.skip flags cs)).1 ∧
      Further (afterCaret flags (Regex.skip flags cs)).2
        (afterCaret flags (Regex.skip flags cs')).2 := by
    simp only [afterCaret, hskip.head?_eq_some_iff (c := '^') (by decide)]
    split
    · rename_i hhead
      exact ⟨rfl, (hskip.tail hhead).skip flags⟩
    · exact ⟨rfl, hskip⟩
  obtain ⟨hnegated, hstart⟩ := hcaret
  obtain ⟨hhyphens, hrest⟩ := leadingHyphens_further hstart flags
    ⟨(afterCaret flags (Regex.skip flags cs)).1, none, .empty, 0, 0⟩
  simp only [openBracket_eq, hnegated, withClosing, hhyphens,
    hrest.head?_eq_some_iff (c := ']') (by decide)]
  split
  · rename_i hclosing
    exact ⟨rfl, hrest.tail hclosing.2⟩
  · exact ⟨rfl, hrest⟩

/-- The name of a class up to the colon and the bracket that end it. -/
def endedName? (flags : Flags) (negated : Bool) (body : List Char) :
    Option (Option CharSet × List Char) :=
  let rest := body.dropWhile (· ≠ ':')
  if rest.head? = some ':' ∧ rest.tail.head? = some ']' then
    (namedClass? (String.ofList (body.takeWhile (· ≠ ':')))).map fun s =>
      (checked? flags (if negated then (folded flags s).complement else folded flags s),
        rest.tail.tail)
  else none

theorem endedName?_of_end {flags : Flags} {body after : List Char}
    (h : body.dropWhile (· ≠ ':') = ':' :: ']' :: after) (negated : Bool) :
    endedName? flags negated body = (namedClass? (String.ofList (body.takeWhile (· ≠ ':')))).map
      fun s =>
        (checked? flags (if negated then (folded flags s).complement else folded flags s),
          after) := by
  rw [endedName?, h]
  exact if_pos ⟨rfl, rfl⟩

theorem endedName?_of_other {flags : Flags} {body : List Char}
    (h : ∀ after, body.dropWhile (· ≠ ':') = ':' :: ']' :: after → False) (negated : Bool) :
    endedName? flags negated body = none := by
  refine if_neg fun ⟨hcolon, hbracket⟩ => ?_
  obtain ⟨rest, hrest⟩ := List.head?_eq_some_iff.1 hcolon
  rw [hrest] at hbracket
  obtain ⟨after, rfl⟩ := List.head?_eq_some_iff.1 hbracket
  exact h after hrest

theorem bracketName?_eq (flags : Flags) (body : List Char) :
    bracketName? flags (':' :: body) =
      if body.head? = some '^' then endedName? flags true body.tail
      else endedName? flags false body := by
  unfold bracketName?
  by_cases hc : body.head? = some '^'
  · obtain ⟨rest, rfl⟩ := List.head?_eq_some_iff.1 hc
    simp only [List.head?_cons, if_true, List.tail_cons]
    split
    · rename_i hend
      rw [endedName?_of_end hend]
      rfl
    · rename_i hother
      rw [endedName?_of_other hother]
  · have hne : ∀ rest, body ≠ '^' :: rest := by
      rintro rest rfl
      exact hc rfl
    simp only [if_neg hc]
    split
    · rename_i hend
      rw [endedName?_of_end hend]
    · rename_i hother
      rw [endedName?_of_other hother]

theorem endedName?_further (h : Further cs cs') (flags : Flags) (negated : Bool) :
    ReadsOn (endedName? flags negated cs) (endedName? flags negated cs') ∧
      (endedName? flags negated cs = none → endedName? flags negated cs' = none) := by
  unfold endedName?
  simp only
  rcases h.takeWhile_or (fun c => decide (c ≠ ':')) with hnone | ⟨htake, hdrop⟩
  · rw [hnone, h.dropWhile_eq_nil (by decide) (by decide) hnone]
    exact ⟨.fail, fun _ => rfl⟩
  · rw [htake]
    generalize cs.takeWhile _ = name
    generalize cs.dropWhile _ = rest at hdrop
    generalize cs'.dropWhile _ = rest' at hdrop
    by_cases hcolon : rest.head? = some ':'
    · have hbehind := hdrop.tail hcolon
      simp only [hdrop.head?_eq_some_iff (c := ':') (by decide),
        hbehind.head?_eq_some_iff (c := ']') (by decide)]
      split
      · rename_i hends
        cases namedClass? (String.ofList name) with
        | none => exact ⟨.fail, fun _ => rfl⟩
        | some s => exact ⟨.done _ (hbehind.tail hends.2), nofun⟩
      · exact ⟨.fail, fun _ => rfl⟩
    · have hcolon' : ¬ rest'.head? = some ':' := by rwa [hdrop.head?_eq_some_iff (by decide)]
      rw [if_neg (fun h => hcolon h.1), if_neg (fun h => hcolon' h.1)]
      exact ⟨.fail, fun _ => rfl⟩

/-- Here what is not the name of a class is not one either with text behind it. -/
theorem bracketName?_further (h : Further cs cs') (flags : Flags) :
    ReadsOn (bracketName? flags cs) (bracketName? flags cs') ∧
      (bracketName? flags cs = none → bracketName? flags cs' = none) := by
  rcases h.sign ':' (by decide) with ⟨body, body', rfl, rfl, hbody⟩ | ⟨hne, hne'⟩
  · simp only [bracketName?_eq, hbody.head?_eq_some_iff (c := '^') (by decide)]
    split
    · rename_i hhead
      exact endedName?_further (hbody.tail hhead) flags true
    · exact endedName?_further hbody flags false
  · simp only [bracketName?]
    exact ⟨.fail, fun _ => trivial⟩

theorem classItem?_further (h : Further cs cs') (properties : Text.Properties) (flags : Flags) :
    ReadsOn (classItem? properties flags cs) (classItem? properties flags cs') := by
  cases h with
  | behind => exact .fail
  | swallowed => exact .fail
  | @cons c rest rest' h =>
    by_cases hc : c = '\\'
    · subst hc
      intro e left he
      have hread := escape?_further h properties flags
      simp only [classItem?] at he ⊢
      split at he
      · cases he
      · rename_i hanchor
        obtain ⟨left', hleft, hfurther⟩ := hread e left he
        rw [hleft]
        refine ⟨left', ?_, hfurther⟩
        cases e with
        | char c asByte => rfl
        | set s => rfl
        | anchor a => exact absurd he (hanchor a left)
    · simp only [classItem?]
      exact .done _ h

/-- Only blanks are passed over in search of a character that is none and starts no comment. -/
theorem peekAfter_eq_some_iff (flags : Flags) (hverbose : flags.verbose = true) {c : Char}
    (hblank : Text.isBlank c = false) (hcomment : c ≠ '#') :
    peekAfter flags cs = some c ↔ (match cs.dropWhile Text.isBlank with
      | '#' :: comment => (comment.dropWhile Text.isBlank).head?
      | rest => rest.head?) = some c := by
  have hhead : cs.head? = some c → (cs.dropWhile Text.isBlank).head? = some c := by
    cases cs with
    | nil => exact id
    | cons first rest =>
      intro hfirst
      obtain rfl := Option.some.inj hfirst
      rw [List.dropWhile_cons_of_neg (by simp [hblank])]
      rfl
  simp only [peekAfter, hverbose, Bool.not_true, Bool.false_eq_true, if_false]
  generalize cs.dropWhile Text.isBlank = rest at hhead
  cases rest with
  | nil => exact ⟨hhead, nofun⟩
  | cons first rest =>
    by_cases hfirst : first = '#'
    · subst hfirst
      have hnone : ¬ cs.head? = some c := fun h => hcomment (Option.some.inj (hhead h)).symm
      simp only
      cases (rest.dropWhile Text.isBlank).head? with
      | none => exact iff_of_false hnone nofun
      | some d => exact Iff.rfl
    · simp only [List.cons.injEq, hfirst, false_and, imp_self, implies_true]
      exact Iff.rfl

/-- The look ahead for what ends a class or stands for a difference is not misled. -/
theorem peekAfter_further (h : Further cs cs') (flags : Flags) {c : Char} (hc : c = ']' ∨ c = '-') :
    peekAfter flags cs' = some c ↔ peekAfter flags cs = some c := by
  have hclosing : c ≠ ')' := by rcases hc with rfl | rfl <;> decide
  by_cases hverbose : flags.verbose = true
  · have hblank : Text.isBlank c = false := by rcases hc with rfl | rfl <;> decide
    have hsign : c ≠ '#' := by rcases hc with rfl | rfl <;> decide
    rw [peekAfter_eq_some_iff flags hverbose hblank hsign,
      peekAfter_eq_some_iff flags hverbose hblank hsign]
    have hdrop := h.dropWhile (p := Text.isBlank) (by decide)
    generalize cs.dropWhile Text.isBlank = rest at hdrop
    generalize cs'.dropWhile Text.isBlank = rest' at hdrop
    rcases hdrop.sign '#' (by decide) with ⟨comment, comment', rfl, rfl, hcomment⟩ | ⟨hne, hne'⟩
    · exact (hcomment.dropWhile (by decide)).head?_eq_some_iff hclosing
    · simp only
      exact hdrop.head?_eq_some_iff hclosing
  · simp only [peekAfter, Bool.not_eq_true] at hverbose ⊢
    rw [hverbose]
    exact h.head?_eq_some_iff hclosing

theorem classRange?_further (h : Further cs cs') (properties : Text.Properties) (flags : Flags) :
    ReadsOn (classRange? properties flags cs) (classRange? properties flags cs') := by
  unfold classRange?
  refine (classItem?_further h properties flags).bind fun first {rest rest'} hrest => ?_
  have hskip := hrest.skip flags
  simp only
  generalize Regex.skip flags rest = behind at hskip
  generalize Regex.skip flags rest' = behind' at hskip
  cases hskip with
  | behind => exact .fail
  | swallowed => exact .fail
  | @cons c after after' hafter =>
    by_cases hc : c = '-'
    · subst hc
      simp only [peekAfter_further hafter flags (.inl rfl),
        peekAfter_further hafter flags (.inr rfl)]
      split
      · cases first with
        | char c asByte => exact .value _ hrest
        | set s => exact .done s hrest
        | anchor a => exact .fail
      · refine (classItem?_further (hafter.skip flags) properties flags).bind
          fun last {rest rest'} hrest => ?_
        cases first with
        | char c asByte =>
          cases last with
          | char d asByte =>
            simp only
            split
            · exact .value _ hrest
            · exact .fail
          | set s => exact .fail
          | anchor a => exact .fail
        | set s => exact .fail
        | anchor a => exact .fail
    · simp only [List.cons.injEq, hc, false_and, imp_self, implies_true]
      cases first with
      | char c asByte => exact .value _ hrest
      | set s => exact .done s hrest
      | anchor a => exact .fail

/-- Only a sign that is doubled stands for an operation on sets. -/
theorem readBrackets?_eq_range {properties : Text.Properties} {flags : Flags} {c : Char}
    {rest : List Char} (hskip : skip flags cs = c :: rest) (hclose : c ≠ ']') (hopen : c ≠ '[')
    (hsingle : ¬ (rest.head? = some c ∧ (c = '&' ∨ c = '-' ∨ c = '~'))) (fuel : Nat) (b : Bracket)
    (outer : List Bracket) :
    readBrackets? properties flags (fuel + 1) b outer cs =
      match classRange? properties flags (c :: rest) with
      | some (s, rest) => readBrackets? properties flags fuel (b.add s 0) outer rest
      | none => none := by
  rw [readBrackets?, hskip]
  split
  · rename_i heq
    cases heq
  · rename_i heq
    cases heq
    exact absurd rfl hclose
  · rename_i heq
    cases heq
    exact absurd rfl hopen
  · rename_i heq
    cases heq
    exact absurd ⟨rfl, .inl rfl⟩ hsingle
  · rename_i heq
    cases heq
    exact absurd ⟨rfl, .inr (.inl rfl)⟩ hsingle
  · rename_i heq
    cases heq
    exact absurd ⟨rfl, .inr (.inr rfl)⟩ hsingle
  · rfl

section Step

variable {properties : Text.Properties} {flags : Flags} {fuel fuel' : Nat}
  {rest rest' : List Char} (hrest : Further rest rest')
  (ih : ∀ {cs cs' : List Char}, Further cs cs' → ∀ (b : Bracket) (outer : List Bracket),
    ReadsOn (readBrackets? properties flags fuel b outer cs)
      (readBrackets? properties flags fuel' b outer cs'))

include hrest ih

theorem readBrackets?_closing (hcs : skip flags cs = ']' :: rest)
    (hcs' : skip flags cs' = ']' :: rest') (b : Bracket) (outer : List Bracket) :
    ReadsOn (readBrackets? properties flags (fuel + 1) b outer cs)
      (readBrackets? properties flags (fuel' + 1) b outer cs') := by
  simp only [readBrackets?, hcs, hcs']
  cases b.close? flags with
  | none => exact .fail
  | some result =>
    cases outer with
    | nil => exact .done result hrest
    | cons around outer => exact ih hrest _ _

theorem readBrackets?_opening (hcs : skip flags cs = '[' :: rest)
    (hcs' : skip flags cs' = '[' :: rest') (b : Bracket) (outer : List Bracket) :
    ReadsOn (readBrackets? properties flags (fuel + 1) b outer cs)
      (readBrackets? properties flags (fuel' + 1) b outer cs') := by
  obtain ⟨hname, hnone⟩ := bracketName?_further hrest flags
  simp only [readBrackets?, hcs, hcs']
  cases hfirst : bracketName? flags rest with
  | none =>
    rw [hnone hfirst]
    simp only
    split
    · obtain ⟨hb, hbehind⟩ := openBracket_further hrest flags
      rw [hb]
      exact ih hbehind _ _
    · exact .fail
  | some p =>
    obtain ⟨s, behind⟩ := p
    obtain ⟨behind', hsecond, hbehind⟩ := hname s behind hfirst
    rw [hsecond]
    cases s with
    | none => exact .fail
    | some s => exact ih hbehind _ _

theorem readBrackets?_doubled {c : Char} (hsign : c = '&' ∨ c = '-' ∨ c = '~')
    (hcs : skip flags cs = c :: c :: rest) (hcs' : skip flags cs' = c :: c :: rest') (b : Bracket)
    (outer : List Bracket) :
    ReadsOn (readBrackets? properties flags (fuel + 1) b outer cs)
      (readBrackets? properties flags (fuel' + 1) b outer cs') := by
  simp only [readBrackets?, hcs, hcs']
  rcases hsign with rfl | rfl | rfl
  all_goals exact ih hrest _ _

theorem readBrackets?_range {c : Char} (hclose : c ≠ ']') (hopen : c ≠ '[')
    (hsingle : ¬ (rest.head? = some c ∧ (c = '&' ∨ c = '-' ∨ c = '~')))
    (hcs : skip flags cs = c :: rest) (hcs' : skip flags cs' = c :: rest') (b : Bracket)
    (outer : List Bracket) :
    ReadsOn (readBrackets? properties flags (fuel + 1) b outer cs)
      (readBrackets? properties flags (fuel' + 1) b outer cs') := by
  have hsingle' : ¬ (rest'.head? = some c ∧ (c = '&' ∨ c = '-' ∨ c = '~')) := by
    rintro ⟨hhead, hsign⟩
    have hclosing : c ≠ ')' := by rcases hsign with rfl | rfl | rfl <;> decide
    exact hsingle ⟨(hrest.head?_eq_some_iff hclosing).1 hhead, hsign⟩
  rw [readBrackets?_eq_range hcs hclose hopen hsingle,
    readBrackets?_eq_range hcs' hclose hopen hsingle']
  have hread := classRange?_further (.cons c hrest) properties flags
  cases hfirst : classRange? properties flags (c :: rest) with
  | none => exact .fail
  | some p =>
    obtain ⟨behind', hsecond, hbehind⟩ := hread p.1 p.2 hfirst
    rw [hsecond]
    exact ih hbehind _ _

end Step

theorem readBrackets?_further (h : Further cs cs') (properties : Text.Properties) (flags : Flags)
    {fuel fuel' : Nat} (hfuel : fuel ≤ fuel') (b : Bracket) (outer : List Bracket) :
    ReadsOn (readBrackets? properties flags fuel b outer cs)
      (readBrackets? properties flags fuel' b outer cs') := by
  induction fuel generalizing fuel' b outer cs cs' with
  | zero => exact .fail
  | succ fuel ih =>
    obtain ⟨fuel', rfl⟩ := Nat.exists_eq_succ_of_ne_zero (Nat.ne_zero_of_lt hfuel)
    have hless : fuel ≤ fuel' := Nat.le_of_succ_le_succ hfuel
    have hskip := h.skip flags
    generalize hcs : Regex.skip flags cs = ahead at hskip
    generalize hcs' : Regex.skip flags cs' = ahead' at hskip
    cases hskip with
    | behind =>
      simp only [readBrackets?, hcs]
      exact .fail
    | swallowed =>
      simp only [readBrackets?, hcs]
      exact .fail
    | @cons c rest rest' hrest =>
      by_cases hclose : c = ']'
      · subst hclose
        exact readBrackets?_closing hrest (ih · hless) hcs hcs' b outer
      by_cases hopen : c = '['
      · subst hopen
        exact readBrackets?_opening hrest (ih · hless) hcs hcs' b outer
      by_cases hdouble : rest.head? = some c ∧ (c = '&' ∨ c = '-' ∨ c = '~')
      · obtain ⟨hhead, hsign⟩ := hdouble
        cases hrest with
        | behind => cases hhead
        | swallowed => cases hhead
        | @cons d rest rest' hrest =>
          obtain rfl := Option.some.inj hhead
          exact readBrackets?_doubled hrest (ih · hless) hsign hcs hcs' b outer
      · exact readBrackets?_range hrest (ih · hless) hclose hopen hdouble hcs hcs' b outer

theorem bracket?_further (h : Further cs cs') (properties : Text.Properties) (flags : Flags) :
    ReadsOn (bracket? properties flags cs) (bracket? properties flags cs') := by
  obtain ⟨hb, hrest⟩ := openBracket_further h flags
  simp only [bracket?, hb]
  exact readBrackets?_further hrest properties flags (Nat.succ_le_succ h.length_le) _ _

end Brackets

end ShaderBuild.Regex
