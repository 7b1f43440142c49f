import ShaderBuild.Compile.Command

/-!
Filling in argument templates. Main statement: `argument_filled_at_once_iff`. The stage and the
target are put in at once, and then the identifier wherever its mark is spelled. So all three are
put in at once exactly if the target spells no mark of the identifier, alone or with the text around
it.
-/

namespace ShaderBuild

namespace CompilerCommand

/-! ## Marks -/

/-- What a template has places for. -/
inductive Mark where
  | stage
  | target
  | identifier
  deriving DecidableEq, Repr

namespace Mark

def all : List Mark := [stage, target, identifier]

def text : Mark → List Char
  | stage => stageMark
  | target => targetMark
  | identifier => identifierMark

/-- The mark without its braces. -/
def name : Mark → List Char
  | stage => "stage".toList
  | target => "target".toList
  | identifier => "identifier".toList

theorem text_eq (m : Mark) : m.text = '{' :: (m.name ++ ['}']) := by
  cases m <;> rfl

theorem brace_not_mem (m : Mark) : '{' ∉ m.name ++ ['}'] := by
  cases m <;> decide

theorem mem_all (m : Mark) : m ∈ all := by
  cases m <;> decide

/-- No mark is the start of another one. -/
theorem eq_of_prefix {m m' : Mark} {cs : List Char} (h : m.text <+: cs) (h' : m'.text <+: cs) :
    m = m' := by
  have hor := List.prefix_or_prefix_of_prefix h h'
  revert hor
  cases m <;> cases m' <;> decide

/-- A mark starts with its brace only, so it stands nowhere else in another mark. -/
theorem not_prefix_of_ne_brace {c : Char} (h : c ≠ '{') (m : Mark) (cs : List Char) :
    ¬ m.text <+: c :: cs := by
  rw [text_eq, List.cons_prefix_cons]
  exact fun hstart => h hstart.1.symm

end Mark

/-! ## Templates in pieces -/

/-- A character of a template that stands for itself, or a place for something else. -/
inductive Piece where
  | char (c : Char)
  | mark (m : Mark)
  deriving DecidableEq, Repr

/-- The pieces of a template, read from left to right behind some characters that belong to a
mark. -/
def pieces : (skip : Nat) → List Char → List Piece
  | _, [] => []
  | 0, c :: cs =>
    match Mark.all.find? fun m => m.text.isPrefixOf (c :: cs) with
    | some m => .mark m :: pieces (m.text.length - 1) cs
    | none => .char c :: pieces 0 cs
  | skip + 1, _ :: cs => pieces skip cs

/-- The text of a piece with a value for each mark. -/
def Piece.fill (value : Mark → List Char) : Piece → List Char
  | char c => [c]
  | mark m => value m

/-- The template with a value for each of its marks, all put in at once. -/
def substituted (value : Mark → List Char) (template : List Char) : List Char :=
  (pieces 0 template).flatMap (Piece.fill value)

def values (stage target identifier : List Char) : Mark → List Char
  | .stage => stage
  | .target => target
  | .identifier => identifier

/-- The template filled in at once. -/
def fillAtOnce (template : String) (options : CompileOptions) (identifier : String) : String :=
  String.ofList <|
    substituted (values options.stage.shortName.toList options.target.toList identifier.toList)
    template.toList

/-- The number of places at which a word stands in a text. -/
def occurrences (word : List Char) : List Char → Nat
  | [] => 0
  | c :: cs => (if word.isPrefixOf (c :: cs) then 1 else 0) + occurrences word cs

theorem pieces_skip (skipped rest : List Char) :
    pieces skipped.length (skipped ++ rest) = pieces 0 rest := by
  induction skipped with
  | nil => rfl
  | cons c skipped ih => exact ih

theorem pieces_mark (m : Mark) (rest : List Char) :
    pieces 0 (m.text ++ rest) = .mark m :: pieces 0 rest := by
  have hfind : Mark.all.find? (fun m' => m'.text.isPrefixOf (m.text ++ rest)) = some m := by
    cases hfound : Mark.all.find? fun m' => m'.text.isPrefixOf (m.text ++ rest) with
    | none =>
      have hnone := List.find?_eq_none.1 hfound m m.mem_all
      simp at hnone
    | some m' =>
      have hstart : m'.text.isPrefixOf (m.text ++ rest) = true := by
        simpa using List.find?_some hfound
      rw [Mark.eq_of_prefix (List.isPrefixOf_iff_prefix.1 hstart) (List.prefix_append _ _)]
  rw [Mark.text_eq, List.cons_append] at hfind ⊢
  rw [pieces, hfind]
  have hlength : m.text.length - 1 = (m.name ++ ['}']).length := by simp [Mark.text_eq]
  simp only [hlength, pieces_skip]

theorem pieces_char {c : Char} {cs : List Char} (h : ∀ m : Mark, ¬ m.text <+: c :: cs) :
    pieces 0 (c :: cs) = .char c :: pieces 0 cs := by
  have hfind : Mark.all.find? (fun m => m.text.isPrefixOf (c :: cs)) = none :=
    List.find?_eq_none.2 fun m _ hstart => h m (List.isPrefixOf_iff_prefix.1 hstart)
  rw [pieces, hfind]

/-- A text ends, or starts with a mark, or with a character at which no mark stands. -/
theorem template_induction {P : List Char → Prop} (nil : P [])
    (mark : ∀ (m : Mark) rest, P rest → P (m.text ++ rest))
    (char : ∀ c cs, (∀ m : Mark, ¬ m.text <+: c :: cs) → P cs → P (c :: cs))
    (template : List Char) : P template := by
  induction hn : template.length using Nat.strongRecOn generalizing template with
  | ind n ih =>
    cases template with
    | nil => exact nil
    | cons c cs =>
      by_cases h : ∃ m : Mark, m.text <+: c :: cs
      · obtain ⟨m, rest, hrest⟩ := h
        have hlength := congrArg List.length hrest
        rw [List.length_append, hn, Mark.text_eq] at hlength
        rw [← hrest]
        exact mark m rest (ih rest.length (by simp at hlength; omega) rest rfl)
      · exact char c cs (not_exists.1 h) (ih cs.length (by rw [← hn]; simp) cs rfl)

/-! ## What pieces spell -/

def spelled (ps : List Piece) : List Char := ps.flatMap (Piece.fill Mark.text)

/-- Characters next to each other spell no mark. -/
inductive IsReading : List Piece → Prop where
  | nil : IsReading []
  | mark (m : Mark) {ps : List Piece} : IsReading ps → IsReading (.mark m :: ps)
  | char {c : Char} {ps : List Piece} (h : ∀ m : Mark, ¬ m.text <+: c :: spelled ps) :
    IsReading ps → IsReading (.char c :: ps)

theorem spelled_pieces (template : List Char) : spelled (pieces 0 template) = template := by
  induction template using template_induction with
  | nil => rfl
  | mark m rest ih =>
    rw [pieces_mark, spelled, List.flatMap_cons]
    exact congrArg _ ih
  | char c cs h ih =>
    rw [pieces_char h, spelled, List.flatMap_cons]
    exact congrArg _ ih

theorem isReading_pieces (template : List Char) : IsReading (pieces 0 template) := by
  induction template using template_induction with
  | nil => exact .nil
  | mark m rest ih =>
    rw [pieces_mark]
    exact .mark m ih
  | char c cs h ih =>
    rw [pieces_char h]
    refine .char ?_ ih
    rwa [spelled_pieces]

/-! ## Replacing one mark -/

section Replace

variable {word new : List Char}

theorem replaceAll_skip (skipped rest : List Char) :
    Text.replaceAll word new skipped.length (skipped ++ rest) =
      Text.replaceAll word new 0 rest := by
  induction skipped with
  | nil => rfl
  | cons c skipped ih => exact ih

theorem replaceAll_of_not_start {c : Char} {cs : List Char} (h : ¬ word <+: c :: cs) :
    Text.replaceAll word new 0 (c :: cs) = c :: Text.replaceAll word new 0 cs := by
  rw [Text.replaceAll, if_neg (mt List.isPrefixOf_iff_prefix.1 h)]

theorem occurrences_of_not_start {c : Char} {cs : List Char} (h : ¬ word <+: c :: cs) :
    occurrences word (c :: cs) = occurrences word cs := by
  rw [occurrences, if_neg (mt List.isPrefixOf_iff_prefix.1 h), Nat.zero_add]

theorem occurrences_le_cons (c : Char) (cs : List Char) :
    occurrences word cs ≤ occurrences word (c :: cs) :=
  Nat.le_add_left _ _

end Replace

section Text

variable (m : Mark) {new skipped : List Char}

theorem replaceAll_text (rest : List Char) :
    Text.replaceAll m.text new 0 (m.text ++ rest) = new ++ Text.replaceAll m.text new 0 rest := by
  have hstart : m.text.isPrefixOf (m.text ++ rest) = true := by simp
  have hlength : m.text.length - 1 = (m.name ++ ['}']).length := by simp [Mark.text_eq]
  have hskip : Text.replaceAll m.text new (m.name ++ ['}']).length (m.name ++ ['}'] ++ rest) =
      Text.replaceAll m.text new 0 rest := replaceAll_skip _ _
  generalize hword : m.text = word at *
  have hcons : word = '{' :: (m.name ++ ['}']) := hword ▸ m.text_eq
  rw [hcons, List.cons_append] at hstart ⊢
  rw [← hcons] at hstart ⊢
  rw [Text.replaceAll, if_pos hstart, hlength, hskip]

/-- Without an opening brace there is no mark. -/
theorem replaceAll_of_not_mem (h : '{' ∉ skipped) (rest : List Char) :
    Text.replaceAll m.text new 0 (skipped ++ rest) =
      skipped ++ Text.replaceAll m.text new 0 rest := by
  induction skipped with
  | nil => rfl
  | cons c skipped ih =>
    rw [List.mem_cons, not_or] at h
    rw [List.cons_append, replaceAll_of_not_start (m.not_prefix_of_ne_brace (Ne.symm h.1) _),
      ih h.2]
    rfl

theorem occurrences_of_not_mem (h : '{' ∉ skipped) (rest : List Char) :
    occurrences m.text (skipped ++ rest) = occurrences m.text rest := by
  induction skipped with
  | nil => rfl
  | cons c skipped ih =>
    rw [List.mem_cons, not_or] at h
    rw [List.cons_append, occurrences_of_not_start (m.not_prefix_of_ne_brace (Ne.symm h.1) _),
      ih h.2]

theorem replaceAll_other {m' : Mark} (hne : m ≠ m') (rest : List Char) :
    Text.replaceAll m.text new 0 (m'.text ++ rest) =
      m'.text ++ Text.replaceAll m.text new 0 rest := by
  have hnot : ¬ m.text <+: m'.text ++ rest :=
    fun h => hne (Mark.eq_of_prefix h (List.prefix_append _ _))
  rw [m'.text_eq, List.cons_append] at hnot ⊢
  rw [replaceAll_of_not_start hnot, replaceAll_of_not_mem m m'.brace_not_mem]
  rfl

theorem occurrences_text (rest : List Char) :
    occurrences m.text (m.text ++ rest) = occurrences m.text rest + 1 := by
  have hstart : m.text.isPrefixOf (m.text ++ rest) = true := by simp
  have hbody := occurrences_of_not_mem m m.brace_not_mem rest
  generalize hword : m.text = word at *
  have hcons : word = '{' :: (m.name ++ ['}']) := hword ▸ m.text_eq
  rw [hcons, List.cons_append] at hstart ⊢
  rw [← hcons] at hstart ⊢
  rw [occurrences, if_pos hstart, hbody, Nat.add_comm]

theorem occurrences_other {m' : Mark} (hne : m ≠ m') (rest : List Char) :
    occurrences m.text (m'.text ++ rest) = occurrences m.text rest := by
  have hnot : ¬ m.text <+: m'.text ++ rest :=
    fun h => hne (Mark.eq_of_prefix h (List.prefix_append _ _))
  rw [m'.text_eq, List.cons_append] at hnot ⊢
  rw [occurrences_of_not_start hnot, occurrences_of_not_mem m m'.brace_not_mem]

end Text

/-- The marks with a value for one of them. -/
def withValue (m : Mark) (new : List Char) (m' : Mark) : List Char :=
  if m' = m then new else m'.text

namespace IsReading

variable {ps : List Piece}

theorem replaceAll_spelled (h : IsReading ps) (m : Mark) (new : List Char) :
    Text.replaceAll m.text new 0 (spelled ps) = ps.flatMap (Piece.fill (withValue m new)) := by
  induction h with
  | nil => rfl
  | mark m' h ih =>
    rw [spelled, List.flatMap_cons, List.flatMap_cons, Piece.fill, Piece.fill, ← spelled, withValue]
    split
    · rename_i heq
      rw [heq, replaceAll_text, ih]
    · rename_i hne
      rw [replaceAll_other m (Ne.symm hne), ih]
  | char hnot h ih =>
    rw [spelled, List.flatMap_cons, List.flatMap_cons, Piece.fill, Piece.fill, ← spelled,
      List.singleton_append, replaceAll_of_not_start (hnot m), ih]
    rfl

theorem occurrences_spelled (h : IsReading ps) (m : Mark) :
    occurrences m.text (spelled ps) = ps.count (.mark m) := by
  induction h with
  | nil => rfl
  | mark m' h ih =>
    rw [spelled, List.flatMap_cons, Piece.fill, ← spelled]
    by_cases hm : m = m'
    · rw [hm, occurrences_text, ← hm, ih, List.count_cons_self]
    · rw [occurrences_other m hm, ih, List.count_cons_of_ne (by simpa using Ne.symm hm)]
  | char hnot h ih =>
    rw [spelled, List.flatMap_cons, Piece.fill, ← spelled, List.singleton_append,
      occurrences_of_not_start (hnot m), ih, List.count_cons_of_ne (by simp)]

end IsReading

/-! ## Values that spell no mark -/

/-- The piece, with characters in the place of one mark. -/
def Piece.put (m : Mark) (new : List Char) : Piece → List Piece
  | char c => [char c]
  | mark m' => if m' = m then new.map char else [mark m']

theorem spelled_append (ps qs : List Piece) : spelled (ps ++ qs) = spelled ps ++ spelled qs :=
  List.flatMap_append

theorem spelled_chars (cs : List Char) : spelled (cs.map .char) = cs := by
  induction cs with
  | nil => rfl
  | cons c cs ih => exact congrArg (c :: ·) ih

theorem spelled_put (m : Mark) (new : List Char) (ps : List Piece) :
    spelled (ps.flatMap (Piece.put m new)) = ps.flatMap (Piece.fill (withValue m new)) := by
  rw [spelled, List.flatMap_assoc]
  congr 1
  funext p
  cases p with
  | char c => rfl
  | mark m' =>
    rw [Piece.put, Piece.fill, withValue]
    split
    · exact spelled_chars new
    · exact List.append_nil _

/-- A value without braces that is no part of a mark. -/
structure IsInert (new : List Char) : Prop where
  opening_not_mem : '{' ∉ new
  closing_not_mem : '}' ∉ new
  not_infix : ∀ m : Mark, ¬ new <:+: m.text

theorem isInert_shortName (s : Stage) : IsInert s.shortName.toList := by
  constructor
  · cases s <;> decide
  · cases s <;> decide
  · intro m
    cases s <;> cases m <;> decide +kernel

section Inert

variable {m : Mark} {new : List Char} {ps : List Piece}

/-- The end of a mark that is spelled with an inert value put in was spelled before: the value
cannot be inside. -/
theorem IsInert.prefix_of_put (h : IsInert new) {m' : Mark} {ending : List Char}
    (hending : ending <:+ m'.name ++ ['}'])
    (hstart : ending <+: spelled (ps.flatMap (Piece.put m new))) : ending <+: spelled ps := by
  induction ps generalizing ending with
  | nil => exact hstart
  | cons p ps ih =>
    cases ending with
    | nil => exact List.nil_prefix
    | cons c ending =>
      have hbrace : '{' ∉ c :: ending := fun hmem => m'.brace_not_mem (hending.subset hmem)
      have hlast : '}' ∈ c :: ending := by
        obtain hnil | ⟨front, hfront, _⟩ := List.suffix_concat_iff.1 hending
        · cases hnil
        · simp [hfront]
      rw [List.flatMap_cons, spelled_append] at hstart
      cases p with
      | char d =>
        obtain ⟨hc, hbehind⟩ := List.cons_prefix_cons.1 hstart
        exact List.cons_prefix_cons.2 ⟨hc, ih ((List.suffix_cons c ending).trans hending) hbehind⟩
      | mark other =>
        rw [Piece.put] at hstart
        split at hstart
        · -- The value would hold the closing brace, or be part of the mark.
          rw [spelled_chars] at hstart
          exfalso
          rcases List.prefix_or_prefix_of_prefix hstart (List.prefix_append new _) with hin | hover
          · exact h.closing_not_mem (hin.subset hlast)
          · apply h.not_infix m'
            rw [m'.text_eq]
            exact (hover.isInfix.trans hending.isInfix).trans (List.suffix_cons _ _).isInfix
        · exfalso
          have hopening : other.text <+: spelled [.mark other] ++
              spelled (ps.flatMap (Piece.put m new)) := by
            simp [spelled, Piece.fill]
          rw [other.text_eq] at hopening
          obtain ⟨rest, hrest⟩ := hopening
          rw [← hrest] at hstart
          obtain ⟨rfl, _⟩ := List.cons_prefix_cons.1 hstart
          exact hbrace List.mem_cons_self

theorem IsReading.chars_append {cs : List Char} (hbrace : '{' ∉ cs) (h : IsReading ps) :
    IsReading (cs.map .char ++ ps) := by
  induction cs with
  | nil => exact h
  | cons c cs ih =>
    rw [List.mem_cons, not_or] at hbrace
    exact .char (fun m => m.not_prefix_of_ne_brace (Ne.symm hbrace.1) _) (ih hbrace.2)

theorem IsReading.put (h : IsReading ps) (hnew : IsInert new) :
    IsReading (ps.flatMap (Piece.put m new)) := by
  induction h with
  | nil => exact .nil
  | mark m' h ih =>
    rw [List.flatMap_cons, Piece.put]
    split
    · exact .chars_append hnew.opening_not_mem ih
    · exact .mark m' ih
  | @char c ps hnot h ih =>
    refine .char (fun m' hstart => hnot m' ?_) ih
    rw [m'.text_eq] at hstart ⊢
    obtain ⟨hc, hbody⟩ := List.cons_prefix_cons.1 hstart
    exact List.cons_prefix_cons.2 ⟨hc, hnew.prefix_of_put (List.suffix_refl _) hbody⟩

end Inert

/-! ## Marks beside those of the pieces -/

section Count

variable {m : Mark} {new : List Char} {ps : List Piece}

theorem spelled_cons (p : Piece) (ps : List Piece) : spelled (p :: ps) =
    p.fill Mark.text ++ spelled ps := rfl

theorem count_le_occurrences (m : Mark) (ps : List Piece) :
    ps.count (.mark m) ≤ occurrences m.text (spelled ps) := by
  induction ps with
  | nil => exact Nat.zero_le _
  | cons p ps ih =>
    rw [spelled_cons]
    cases p with
    | char c =>
      rw [List.count_cons_of_ne (by simp)]
      exact Nat.le_trans ih (occurrences_le_cons c _)
    | mark m' =>
      rw [Piece.fill]
      by_cases hm : m = m'
      · rw [hm, occurrences_text, ← hm, List.count_cons_self]
        exact Nat.succ_le_succ ih
      · rw [occurrences_other m hm, List.count_cons_of_ne (by simpa using Ne.symm hm)]
        exact ih

theorem length_fill (m : Mark) (new : List Char) (ps : List Piece) :
    (ps.flatMap (Piece.fill (withValue m new))).length + ps.count (.mark m) * m.text.length =
      (spelled ps).length + ps.count (.mark m) * new.length := by
  induction ps with
  | nil => simp [spelled]
  | cons p ps ih =>
    rw [List.flatMap_cons, spelled_cons, List.length_append, List.length_append]
    cases p with
    | char c =>
      rw [List.count_cons_of_ne (by simp), Piece.fill, Piece.fill]
      omega
    | mark m' =>
      by_cases hm : m = m'
      · subst hm
        rw [List.count_cons_self, Piece.fill, Piece.fill, withValue, if_pos rfl,
          Nat.add_mul, Nat.add_mul]
        omega
      · rw [List.count_cons_of_ne (by simpa using Ne.symm hm), Piece.fill, Piece.fill, withValue,
          if_neg (Ne.symm hm)]
        omega

/-- Each mark that is replaced changes the length by the same amount. -/
theorem length_replaceAll (m : Mark) (new cs : List Char) :
    (Text.replaceAll m.text new 0 cs).length + occurrences m.text cs * m.text.length =
      cs.length + occurrences m.text cs * new.length := by
  have h := length_fill m new (pieces 0 cs)
  rwa [← (isReading_pieces cs).replaceAll_spelled, ← (isReading_pieces cs).occurrences_spelled,
    spelled_pieces] at h

/-- A text without an opening brace that is spelled in front is spelled by characters alone. -/
theorem prefix_fill {cs : List Char} (hbrace : '{' ∉ cs) (h : cs <+: spelled ps) :
    cs <+: ps.flatMap (Piece.fill (withValue m new)) := by
  induction ps generalizing cs with
  | nil => exact h
  | cons p ps ih =>
    cases cs with
    | nil => exact List.nil_prefix
    | cons c cs =>
      rw [spelled_cons] at h
      cases p with
      | char d =>
        obtain ⟨hc, h⟩ := List.cons_prefix_cons.1 h
        exact List.cons_prefix_cons.2 ⟨hc, ih (fun hmem => hbrace (.tail _ hmem)) h⟩
      | mark m' =>
        rw [Piece.fill, m'.text_eq] at h
        obtain ⟨rfl, _⟩ := List.cons_prefix_cons.1 h
        exact absurd List.mem_cons_self hbrace

theorem replaceAll_eq_of_count (h : occurrences m.text (spelled ps) = ps.count (.mark m)) :
    Text.replaceAll m.text new 0 (spelled ps) = ps.flatMap (Piece.fill (withValue m new)) := by
  induction ps with
  | nil => rfl
  | cons p ps ih =>
    rw [spelled_cons] at h ⊢
    rw [List.flatMap_cons]
    cases p with
    | char c =>
      rw [List.count_cons_of_ne (by simp)] at h
      have hle := count_le_occurrences m ps
      -- A mark that starts here would be one too many.
      have hnot : ¬ m.text <+: c :: spelled ps := by
        intro hstart
        rw [Piece.fill, List.singleton_append, occurrences,
          if_pos (List.isPrefixOf_iff_prefix.2 hstart)] at h
        omega
      rw [Piece.fill, List.singleton_append, occurrences_of_not_start hnot] at h
      rw [Piece.fill, List.singleton_append, replaceAll_of_not_start hnot, ih h]
      rfl
    | mark m' =>
      rw [Piece.fill] at h ⊢
      by_cases hm : m = m'
      · subst hm
        rw [occurrences_text, List.count_cons_self] at h
        rw [replaceAll_text, ih (Nat.succ.inj h), Piece.fill, withValue, if_pos rfl]
      · rw [occurrences_other m hm, List.count_cons_of_ne (by simpa using Ne.symm hm)] at h
        rw [replaceAll_other m hm, ih h, Piece.fill, withValue, if_neg (Ne.symm hm)]

/-- If a mark that is no piece is replaced and nothing changes, the value is the mark itself. -/
theorem eq_text_of_replaceAll_eq (hcount : ps.count (.mark m) < occurrences m.text (spelled ps))
    (h : Text.replaceAll m.text new 0 (spelled ps) = ps.flatMap (Piece.fill (withValue m new))) :
    new = m.text := by
  have hlengths : m.text.length = new.length := by
    have hreplaced := length_replaceAll m new (spelled ps)
    have hfilled := length_fill m new ps
    obtain ⟨k, hk⟩ := Nat.exists_eq_add_of_lt hcount
    rw [h, hk, Nat.add_assoc, Nat.add_mul (ps.count _), Nat.add_mul (ps.count _)] at hreplaced
    have hproducts : (k + 1) * m.text.length = (k + 1) * new.length := by omega
    exact Nat.eq_of_mul_eq_mul_left (Nat.succ_pos k) hproducts
  induction ps with
  | nil => cases hcount
  | cons p ps ih =>
    rw [spelled_cons] at hcount h
    rw [List.flatMap_cons] at h
    cases p with
    | char c =>
      rw [List.count_cons_of_ne (by simp)] at hcount
      rw [Piece.fill, List.singleton_append] at hcount h
      by_cases hstart : m.text <+: c :: spelled ps
      · -- What is replaced here is spelled by characters, so these are the value.
        have hfilled : m.text <+: c :: ps.flatMap (Piece.fill (withValue m new)) := by
          have hbrace := m.brace_not_mem
          rw [m.text_eq] at hstart ⊢
          obtain ⟨hc, hbody⟩ := List.cons_prefix_cons.1 hstart
          exact List.cons_prefix_cons.2 ⟨hc, prefix_fill hbrace hbody⟩
        obtain ⟨rest, hrest⟩ := hstart
        obtain ⟨rest', hrest'⟩ := hfilled
        rw [← hrest, replaceAll_text] at h
        have hsame : new ++ Text.replaceAll m.text new 0 rest = m.text ++ rest' :=
          h.trans hrest'.symm
        exact (List.append_inj hsame hlengths.symm).1
      · rw [occurrences_of_not_start hstart] at hcount
        rw [replaceAll_of_not_start hstart] at h
        exact ih hcount (List.cons_eq_cons.1 h).2
    | mark m' =>
      rw [Piece.fill] at hcount h
      by_cases hm : m = m'
      · subst hm
        rw [occurrences_text, List.count_cons_self] at hcount
        rw [replaceAll_text, Piece.fill, withValue, if_pos rfl] at h
        exact ih (Nat.lt_of_succ_lt_succ hcount) (List.append_cancel_left h)
      · rw [occurrences_other m hm, List.count_cons_of_ne (by simpa using Ne.symm hm)] at hcount
        rw [replaceAll_other m hm, Piece.fill, withValue, if_neg (Ne.symm hm)] at h
        exact ih hcount (List.append_cancel_left h)

theorem withValue_text (m : Mark) : withValue m m.text = Mark.text := by
  funext m'
  rw [withValue]
  split
  · rename_i h
    rw [h]
  · rfl

/-- The marks that are spelled are replaced. These are the pieces if there are as many, and else
only the mark itself as a value hides the difference. -/
theorem replaceAll_spelled_iff (m : Mark) (new : List Char) (ps : List Piece) :
    Text.replaceAll m.text new 0 (spelled ps) = ps.flatMap (Piece.fill (withValue m new)) ↔
      new = m.text ∨ occurrences m.text (spelled ps) = ps.count (.mark m) := by
  constructor
  · intro h
    rcases Nat.lt_or_eq_of_le (count_le_occurrences m ps) with hlt | heq
    · exact .inl (eq_text_of_replaceAll_eq hlt h)
    · exact .inr heq.symm
  · rintro (rfl | hcount)
    · have hself := (isReading_pieces (spelled ps)).replaceAll_spelled m m.text
      rw [spelled_pieces, withValue_text] at hself
      rw [hself, withValue_text]
      exact spelled_pieces _
    · exact replaceAll_eq_of_count hcount

end Count

/-! ## The three passes -/

/-- The pieces with the stage and the target put in. -/
def Piece.putTwo (stage target : List Char) (p : Piece) : List Piece :=
  (p.put .stage stage).flatMap (Piece.put .target target)

section Passes

variable (stage target identifier template : List Char)

theorem put_chars (m : Mark) (new cs : List Char) :
    (cs.map Piece.char).flatMap (Piece.put m new) = cs.map .char := by
  rw [List.flatMap_map, List.map_eq_flatMap]
  rfl

theorem fill_chars (value : Mark → List Char) (cs : List Char) :
    (cs.map Piece.char).flatMap (Piece.fill value) = cs := by
  rw [List.flatMap_map]
  exact List.flatMap_singleton' cs

theorem fill_putTwo (p : Piece) :
    (p.putTwo stage target).flatMap (Piece.fill (withValue .identifier identifier)) =
      p.fill (values stage target identifier) := by
  cases p with
  | char c => rfl
  | mark m =>
    cases m with
    | stage => exact (congrArg _ (put_chars .target target stage)).trans (fill_chars _ stage)
    | target =>
      show ((target.map Piece.char) ++ []).flatMap _ = _
      rw [List.append_nil]
      exact fill_chars _ target
    | identifier => exact List.append_nil identifier

theorem count_putTwo (p : Piece) :
    (p.putTwo stage target).count (.mark .identifier) = [p].count (.mark .identifier) := by
  cases p with
  | char c => rfl
  | mark m =>
    cases m with
    | stage =>
      show ((stage.map Piece.char).flatMap (Piece.put .target target)).count _ = _
      rw [put_chars]
      simp [List.count_eq_zero]
    | target =>
      show ((target.map Piece.char) ++ []).count _ = _
      simp [List.count_eq_zero]
    | identifier => rfl

theorem fill_pieces : ((pieces 0 template).flatMap (Piece.putTwo stage target)).flatMap
      (Piece.fill (withValue .identifier identifier)) =
        substituted (values stage target identifier) template := by
  rw [List.flatMap_assoc]
  simp only [fill_putTwo]
  rfl

theorem spelled_two : spelled ((pieces 0 template).flatMap (Piece.putTwo stage target)) =
    substituted (values stage target identifierMark) template := by
  rw [← fill_pieces, spelled, ← withValue_text .identifier]
  rfl

theorem count_two :
    ((pieces 0 template).flatMap (Piece.putTwo stage target)).count (.mark .identifier) =
      occurrences identifierMark template := by
  have hspelled := (isReading_pieces template).occurrences_spelled .identifier
  rw [spelled_pieces] at hspelled
  refine Eq.trans ?_ hspelled.symm
  induction pieces 0 template with
  | nil => rfl
  | cons p ps ih =>
    rw [List.flatMap_cons, List.count_append, ih, count_putTwo, ← List.count_append,
      List.singleton_append]

/-- An inert value for the stage leaves the marks of the target as they are. -/
theorem two_passes (hstage : IsInert stage) :
    Text.replaceAll targetMark target 0 (Text.replaceAll stageMark stage 0 template) =
      substituted (values stage target identifierMark) template := by
  have hreading := isReading_pieces template
  have hfirst := hreading.replaceAll_spelled .stage stage
  rw [spelled_pieces, ← spelled_put] at hfirst
  have hsecond := (hreading.put (m := .stage) hstage).replaceAll_spelled .target target
  rw [← hfirst, ← spelled_put, List.flatMap_assoc] at hsecond
  exact hsecond.trans (spelled_two stage target template)

end Passes

/-! ## Main statement -/

section Fill

variable (template : String) (options : CompileOptions) (identifier : String)

/-- The template with the stage and the target put in. -/
def fillTwo : List Char :=
  substituted (values options.stage.shortName.toList options.target.toList identifierMark)
    template.toList

theorem fill_eq :
    fill template options identifier =
      String.ofList
        (Text.replaceAll identifierMark identifier.toList 0 (fillTwo template options)) := by
  rw [fillTwo, ← two_passes _ _ _ (isInert_shortName options.stage)]
  rfl

theorem fill_eq_fillAtOnce_iff :
    fill template options identifier = fillAtOnce template options identifier ↔
      identifier = "\x7bidentifier\x7d" ∨
        occurrences identifierMark (fillTwo template options) =
          occurrences identifierMark template.toList := by
  have hiff :=
    replaceAll_spelled_iff .identifier identifier.toList ((pieces 0 template.toList).flatMap
    (Piece.putTwo options.stage.shortName.toList options.target.toList))
  rw [spelled_two, fill_pieces, count_two] at hiff
  rw [fill_eq, fillAtOnce, String.ofList_inj]
  refine hiff.trans (or_congr_left ?_)
  rw [← String.toList_inj]
  rfl

end Fill

/-- Every argument comes from its template: the stage and the target are put in at once, and then
the identifier for every mark of it that is spelled. No text of the identifier is read again, and
none of the target as a mark of the stage or the target. So all are put in at once exactly if the
target spells no further mark of the identifier, or the identifier is that mark. -/
theorem argument_filled_at_once_iff {c : CompilerCommand} {i : Nat} {template : String}
    (h : c.args[i]? = some template) (options : CompileOptions) (identifier : String) :
    ∃ argument, (c.arguments options identifier)[i]? = some argument ∧
      argument = String.ofList (Text.replaceAll identifierMark identifier.toList 0
        (fillTwo template options)) ∧
          (argument = fillAtOnce template options identifier ↔ identifier = "\x7bidentifier\x7d" ∨
            occurrences identifierMark (fillTwo template options) =
              occurrences identifierMark template.toList) := by
  refine ⟨fill template options identifier, ?_, fill_eq .., fill_eq_fillAtOnce_iff ..⟩
  have hmap : (c.args.map (fill · options identifier))[i]? =
      some (fill template options identifier) := by
    rw [List.getElem?_map, h, Option.map_some]
  have hi := (List.getElem?_eq_some_iff.1 hmap).1
  rw [arguments, List.append_assoc, List.getElem?_append_left hi, hmap]

namespace Templates

/-- The target is a mark of the stage and the start of a mark of the identifier. -/
def marking : CompileOptions := ⟨.fragment, "\x7bstage\x7d\x7bidentif", true, false, []⟩

def command : CompilerCommand :=
  ⟨"glslc", ["-o", "\x7bstage\x7d=\x7btarget\x7d\x7bidentifier\x7d"], ["-g"], []⟩

theorem argument_filled_at_once_iff_marking :
    command.args[1]? = some "\x7bstage\x7d=\x7btarget\x7d\x7bidentifier\x7d" ∧
      (command.arguments marking "\x7btarget\x7dier\x7d")[1]? =
        some "frag=\x7bstage\x7d\x7bidentif\x7btarget\x7dier\x7d" := by
  have htemplate : command.args[1]? = some "\x7bstage\x7d=\x7btarget\x7d\x7bidentifier\x7d" := rfl
  obtain ⟨argument, hargument, _, honce⟩ :=
    argument_filled_at_once_iff htemplate marking "\x7btarget\x7dier\x7d"
  refine ⟨htemplate, ?_⟩
  rw [hargument, honce.2 (.inr (by decide +kernel))]
  decide +kernel

/-- A target that is a mark of the identifier is read as one. -/
theorem targets_can_be_read :
    ¬ ∀ (c : CompilerCommand) (options : CompileOptions) (identifier template : String)
    (i : Nat), c.args[i]? = some template →
      (c.arguments options identifier)[i]? = some (fillAtOnce template options identifier) := by
  intro hall
  have hread := hall ⟨"glslc", ["\x7btarget\x7d"], [], []⟩ ⟨.fragment, "\x7bidentifier\x7d",
    false, true, []⟩ "x"
    "\x7btarget\x7d" 0 rfl
  revert hread
  decide +kernel

end Templates

end CompilerCommand

end ShaderBuild
