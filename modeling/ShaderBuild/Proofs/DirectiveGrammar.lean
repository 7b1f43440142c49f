import ShaderBuild.Proofs.DefineLines
import ShaderBuild.Proofs.DirectiveForm

/-!
The grammar of include directives. Main statement: `ofLine_decides_grammar`, by which every line is
read as what the grammar makes of it: a request, a malformed include or neither. Cutting the name
out of the line at byte offsets comes to the same, and never cuts outside the line or inside a
character.
-/

namespace ShaderBuild

/-! ## Words behind the number sign -/

namespace Text

theorem trimStart_append {space rest : List Char} (hspace : ∀ c ∈ space, isBlank c = true)
    (hrest : ∀ c, rest.head? = some c → isBlank c = false) : trimStart (space ++ rest) = rest := by
  rw [trimStart, List.dropWhile_append_of_pos hspace]
  cases rest with
  | nil => rfl
  | cons c rest => exact List.dropWhile_cons_of_neg (Bool.eq_false_iff.1 (hrest c rfl))

theorem dropPrefix?_append (word rest : List Char) :
    dropPrefix? word (word ++ rest) = some rest := by
  have hprefix : word.isPrefixOf (word ++ rest) = true :=
    List.isPrefixOf_iff_prefix.2 (List.prefix_append word rest)
  rw [dropPrefix?, if_pos hprefix, List.drop_left]

end Text

/-- The line has the word behind its number sign, with blanks at most around the sign, and then
`rest`. -/
def IsDirective (word line rest : List Char) : Prop :=
  ∃ indent gap, line = indent ++ '#' :: (gap ++ (word ++ rest)) ∧
    ∀ c ∈ indent ++ gap, Text.isBlank c = true

theorem directiveBody?_of_blanks {indent gap body : List Char}
    (hblank : ∀ c ∈ indent ++ gap, Text.isBlank c = true)
    (hbody : ∀ c, body.head? = some c → Text.isBlank c = false) :
    directiveBody? (indent ++ '#' :: (gap ++ body)) = some body := by
  obtain ⟨hindent, hgap⟩ := List.forall_mem_append.1 hblank
  have hsign : ∀ c, ('#' :: (gap ++ body)).head? = some c → Text.isBlank c = false := by
    intro c hc
    obtain rfl : '#' = c := Option.some.inj hc
    decide
  rw [directiveBody?, Text.trimStart_append hindent hsign]
  simp only [Text.trimStart_append hgap hbody]

/-- A word that starts without a blank is found behind the number sign exactly if it stands
there. -/
theorem directiveRest_iff {word line rest : List Char}
    (hword : word.head?.any (fun c => !Text.isBlank c) = true) :
    (directiveBody? line).bind (Text.dropPrefix? word) = some rest ↔
      IsDirective word line rest := by
  constructor
  · intro h
    obtain ⟨body, hbody, hprefix⟩ := Option.bind_eq_some_iff.1 h
    obtain rfl := Text.eq_of_dropPrefix? hprefix
    exact exists_of_directiveBody? hbody
  · rintro ⟨indent, gap, rfl, hblank⟩
    obtain ⟨c, hc, hfirst⟩ := (Option.any_eq_true _ _).1 hword
    obtain ⟨more, rfl⟩ := List.head?_eq_some_iff.1 hc
    have hbody : ∀ d, (c :: more ++ rest).head? = some d → Text.isBlank d = false := by
      intro d hd
      obtain rfl : c = d := Option.some.inj hd
      simpa using hfirst
    rw [directiveBody?_of_blanks hblank hbody, Option.bind_some, Text.dropPrefix?_append]

/-! ## The grammar -/

/-- Blanks, a number sign, blanks, the word `include`, blanks, and a name in delimiters. The name is
not empty and has no closing delimiter in it; whatever stands behind is of no account. -/
def IsRequest (line : List Char) (kind : IncludeKind) (name : List Char) : Prop :=
  name ≠ [] ∧ kind.closing ∉ name ∧ ∃ space more, (∀ c ∈ space, Text.isBlank c = true) ∧
    IsDirective "include".toList line (space ++ kind.opening :: (name ++ kind.closing :: more))

/-- Behind the word `include` the line ends, or a blank or an opening delimiter follows. -/
def NamesInclude (line : List Char) : Prop :=
  IsDirective "include".toList line [] ∨
    ∃ c more, (Text.isBlank c = true ∨ c = '<' ∨ c = '"') ∧
      IsDirective "include".toList line (c :: more)

namespace IncludeLine

theorem isRest_iff {line rest : List Char} :
    (directiveBody? line).bind (Text.dropPrefix? "include".toList) = some rest ↔
      IsDirective "include".toList line rest := directiveRest_iff (by decide)

theorem endsWord_cons {c : Char} {more : List Char} :
    endsWord (c :: more) = true ↔ Text.isBlank c = true ∨ c = '<' ∨ c = '"' := by
  simp only [endsWord, Bool.or_eq_true, beq_iff_eq, or_assoc]

theorem namesInclude_iff {line : List Char} :
    NamesInclude line ↔ ∃ rest, IsDirective "include".toList line rest ∧ endsWord rest = true := by
  constructor
  · rintro (hline | ⟨c, more, hc, hline⟩)
    · exact ⟨[], hline, rfl⟩
    · exact ⟨c :: more, hline, endsWord_cons.2 hc⟩
  · rintro ⟨rest, hline, hends⟩
    cases rest with
    | nil => exact .inl hline
    | cons c more => exact .inr ⟨c, more, endsWord_cons.1 hends, hline⟩

theorem not_isBlank_opening (kind : IncludeKind) : Text.isBlank kind.opening = false := by
  cases kind <;> decide

theorem endsWord_operand {space : List Char} (hspace : ∀ c ∈ space, Text.isBlank c = true)
    (kind : IncludeKind) (operand : List Char) :
    endsWord (space ++ kind.opening :: operand) = true := by
  cases space with
  | nil => cases kind <;> exact endsWord_cons.2 (by simp [IncludeKind.opening])
  | cons c space => exact endsWord_cons.2 (.inl (hspace c List.mem_cons_self))

theorem ofLine_eq_ofTrimmed {line rest : List Char} (hline : IsDirective "include".toList line rest)
    (hends : endsWord rest = true) : ofLine line = ofTrimmed (Text.trimStart rest) := by
  rw [ofLine, isRest_iff.2 hline]
  simp only [hends, if_true]
  rfl

theorem ofLine_eq_request_iff {line name : List Char} {kind : IncludeKind} :
    ofLine line = .request kind name ↔ IsRequest line kind name := by
  constructor
  · intro h
    obtain ⟨operand, ⟨indent, gap, space, hline, hblank, _, _⟩, hname, hclosing, more, rfl⟩ :=
      isInclude_of_request h
    obtain ⟨hblank, hspace⟩ := List.forall_mem_append.1 hblank
    exact ⟨hname, hclosing, space, more, hspace, indent, gap, hline, hblank⟩
  · rintro ⟨hname, hclosing, space, more, hspace, hline⟩
    have hopening : ∀ c, (kind.opening :: (name ++ kind.closing :: more)).head? = some c →
        Text.isBlank c = false := by
      intro c hc
      obtain rfl : kind.opening = c := Option.some.inj hc
      exact not_isBlank_opening kind
    rw [ofLine_eq_ofTrimmed hline (endsWord_operand hspace kind _),
      Text.trimStart_append hspace hopening]
    exact ofTrimmed_eq_request_iff.2 ⟨hname, hclosing, more, rfl⟩

theorem ofLine_ne_other_iff {line : List Char} : ofLine line ≠ .other ↔ NamesInclude line := by
  rw [Ne, ofLine_eq_other_iff, namesInclude_iff]
  simp only [isRest_iff, not_forall, Bool.not_eq_false, exists_prop]

/-! ## Cutting at byte offsets -/

/-- The byte offset of the first occurrence of a character. -/
def byteOffset? (sep : Char) : List Char → Option Nat
  | [] => none
  | c :: cs => if c = sep then some 0 else (byteOffset? sep cs).map (c.utf8Size + ·)

/-- The name in the delimiters of an operand, cut out at byte offsets: the opening delimiter takes
one byte, and the name ends at the offset of the closing one. There is no result where an offset is
outside the text or inside a character. -/
def ofOperandAtBytes? (kind : IncludeKind) (operand : List Char) : Option IncludeLine := do
  let (_, inside) ← Define.splitAtByte? [] 1 operand
  match byteOffset? kind.closing inside with
  | none => return malformed
  | some stop =>
    let (name, _) ← Define.splitAtByte? [] stop inside
    return if name = [] then malformed else request kind name

/-- A line read with its name cut out at byte offsets. -/
def ofLineAtBytes? (line : List Char) : Option IncludeLine :=
  match (directiveBody? line).bind (Text.dropPrefix? "include".toList) with
  | none => some other
  | some rest =>
    if endsWord rest then
      let operand := Text.trimStart rest
      match operand.head? with
      | some '<' => ofOperandAtBytes? .standard operand
      | some '"' => ofOperandAtBytes? .relative operand
      | _ => some malformed
    else some other

theorem byteOffset?_eq (sep : Char) (cs : List Char) :
    byteOffset? sep cs = (Text.splitFirst? sep cs).map fun parts => Text.byteLength parts.1 := by
  induction cs with
  | nil => rfl
  | cons c cs ih =>
    rw [byteOffset?, ih, Text.splitFirst?, Text.splitFirst?]
    by_cases hc : c = sep
    · simp [hc, Text.byteLength]
    · have hne : (c != sep) = true := bne_iff_ne.2 hc
      simp only [if_neg hc, List.dropWhile_cons, List.takeWhile_cons, hne, if_true]
      cases List.dropWhile (· != sep) cs with
      | nil => rfl
      | cons d rest => rfl

theorem splitAtByte?_opening (kind : IncludeKind) (inside : List Char) :
    Define.splitAtByte? [] 1 (kind.opening :: inside) = some ([kind.opening], inside) := by
  have hsize : Text.byteLength [kind.opening] = 1 := by cases kind <;> decide
  have hsplit := Define.splitAtByte?_append [] [kind.opening] inside
  rwa [hsize] at hsplit

/-- The offset of the closing delimiter is one between two characters. -/
theorem ofOperandAtBytes?_eq (kind : IncludeKind) (inside : List Char) :
    ofOperandAtBytes? kind (kind.opening :: inside) = some (ofOperand kind inside) := by
  rw [ofOperandAtBytes?, splitAtByte?_opening, ofOperand, Option.bind_eq_bind, Option.bind_some]
  simp only [byteOffset?_eq]
  cases hsplit : Text.splitFirst? kind.closing inside with
  | none => rfl
  | some parts =>
    obtain ⟨name, more⟩ := parts
    have hname := Define.splitAtByte?_append [] name (kind.closing :: more)
    rw [← Text.eq_of_splitFirst? hsplit] at hname
    simp only [Option.map_some, hname, List.reverse_nil, List.nil_append, Option.bind_some]
    cases name <;> rfl

theorem ofLineAtBytes?_eq (line : List Char) : ofLineAtBytes? line = some (ofLine line) := by
  rw [ofLineAtBytes?, ofLine]
  cases (directiveBody? line).bind (Text.dropPrefix? "include".toList) with
  | none => rfl
  | some rest =>
    simp only
    split
    · -- The opening delimiter decides the kind of the include.
      cases Text.trimStart rest with
      | nil => rfl
      | cons c inside =>
        simp only [List.head?_cons]
        split
        · rename_i hc
          cases hc
          exact ofOperandAtBytes?_eq .standard inside
        · rename_i hc
          cases hc
          exact ofOperandAtBytes?_eq .relative inside
        · rename_i hstandard hrelative
          split
          · rename_i h
            cases h
            exact absurd rfl hstandard
          · rename_i h
            cases h
            exact absurd rfl hrelative
          · rfl
    · rfl

/-! ## Main statement -/

/-- Every line falls in exactly one class. It is a request for an include exactly if the grammar
makes it one, with the kind and the name that the grammar gives; a malformed include exactly if it
is no request though it names an include; and no include exactly in all other cases. Cutting the
name out at byte offsets never fails and gives the same. -/
theorem ofLine_decides_grammar (line : List Char) :
    (∀ kind name, ofLine line = .request kind name ↔ IsRequest line kind name) ∧
      (ofLine line = .malformed ↔ (∀ kind name, ¬ IsRequest line kind name) ∧ NamesInclude line) ∧
      (ofLine line = .other ↔ (∀ kind name, ¬ IsRequest line kind name) ∧ ¬ NamesInclude line) ∧
      ofLineAtBytes? line = some (ofLine line) := by
  refine ⟨fun kind name => ofLine_eq_request_iff, ?_, ?_, ofLineAtBytes?_eq line⟩
  · simp only [← ofLine_eq_request_iff, ← ofLine_ne_other_iff]
    cases ofLine line <;> simp
  · simp only [← ofLine_eq_request_iff, ← ofLine_ne_other_iff]
    cases ofLine line <;> simp

end IncludeLine

end ShaderBuild
