import ShaderBuild.Source.Directive

/-!
How an include directive is written. Main statements: `isInclude_of_request`, by which a line that
is read as a request is a directive that names it, and `isInclude_of_malformed`, by which a line
that is read as a malformed include is a directive that names nothing.
-/

namespace ShaderBuild

namespace Text

theorem exists_of_trimStart (cs : List Char) :
    ∃ space, cs = space ++ trimStart cs ∧ ∀ c ∈ space, isBlank c = true :=
  ⟨cs.takeWhile isBlank, List.takeWhile_append_dropWhile.symm,
    List.all_eq_true.1 List.all_takeWhile⟩

theorem isBlank_head?_trimStart {cs : List Char} {c : Char} (h : (trimStart cs).head? = some c) :
    isBlank c = false := by
  have hhead := List.head?_dropWhile_not isBlank cs
  rw [trimStart] at h
  rwa [h] at hhead

theorem eq_of_dropPrefix? {word cs rest : List Char} (h : dropPrefix? word cs = some rest) :
    cs = word ++ rest := by
  rw [dropPrefix?] at h
  split at h
  · obtain rfl := Option.some.inj h
    obtain ⟨rest, rfl⟩ := List.isPrefixOf_iff_prefix.1 ‹_›
    rw [List.drop_left]
  · cases h

end Text

/-- The line is an include directive with an operand: the number sign and the word, a word of its
own, with blanks around the sign and behind the word. The operand starts behind the blanks. -/
def IsInclude (line operand : List Char) : Prop :=
  ∃ indent gap space, line = indent ++ '#' :: (gap ++ ("include".toList ++ (space ++ operand))) ∧
    (∀ c ∈ indent ++ gap ++ space, Text.isBlank c = true) ∧
      IncludeLine.endsWord (space ++ operand) = true ∧
    ∀ c, operand.head? = some c → Text.isBlank c = false

/-- The operand of an include directive names an include. -/
def OperandNames (operand : List Char) (kind : IncludeKind) (name : List Char) : Prop :=
  name ≠ [] ∧ kind.closing ∉ name ∧ ∃ rest, operand = kind.opening :: (name ++ kind.closing :: rest)

theorem exists_of_directiveBody? {line body : List Char} (h : directiveBody? line = some body) :
    ∃ indent gap, line = indent ++ '#' :: (gap ++ body) ∧
      ∀ c ∈ indent ++ gap, Text.isBlank c = true := by
  obtain ⟨indent, hindent, hblank⟩ := Text.exists_of_trimStart line
  rw [directiveBody?] at h
  split at h
  · rename_i rest hrest
    obtain ⟨gap, hgap, hblank'⟩ := Text.exists_of_trimStart rest
    obtain rfl := Option.some.inj h
    refine ⟨indent, gap, ?_, fun c hc => ?_⟩
    · rw [hrest] at hindent
      rw [← hgap]
      exact hindent
    · exact (List.mem_append.1 hc).elim (hblank c) (hblank' c)
  · cases h

namespace IncludeLine

/-- What an operand says that starts without blanks. -/
def ofTrimmed : List Char → IncludeLine
  | '<' :: operand => ofOperand .standard operand
  | '"' :: operand => ofOperand .relative operand
  | _ => malformed

theorem exists_of_ne_other {line : List Char} (h : ofLine line ≠ .other) :
    ∃ operand, IsInclude line operand ∧ ofLine line = ofTrimmed operand := by
  rw [ofLine] at h ⊢
  split at h
  · exact absurd rfl h
  rename_i rest hrest
  split at h
  · rename_i hword
    obtain ⟨body, hbody, hprefix⟩ := Option.bind_eq_some_iff.1 hrest
    obtain ⟨indent, gap, hline, hblank⟩ := exists_of_directiveBody? hbody
    obtain ⟨space, hspace, hblank'⟩ := Text.exists_of_trimStart rest
    have hhead : ∀ c, (Text.trimStart rest).head? = some c → Text.isBlank c = false :=
      fun c => Text.isBlank_head?_trimStart
    refine ⟨Text.trimStart rest, ⟨indent, gap, space, ?_, fun c hc => ?_, ?_, hhead⟩, ?_⟩
    · rw [← hspace, ← Text.eq_of_dropPrefix? hprefix]
      exact hline
    · exact (List.mem_append.1 hc).elim (hblank c) (hblank' c)
    · rwa [← hspace]
    · simp only [hword, if_true]
      rfl
  · exact absurd rfl h

theorem ofOperand_eq_request_iff {kind kind' : IncludeKind} {operand name : List Char} :
    ofOperand kind operand = .request kind' name ↔ kind' = kind ∧ name ≠ [] ∧ kind.closing ∉ name ∧
      ∃ rest, operand = name ++ kind.closing :: rest := by
  rw [ofOperand]
  constructor
  · intro h
    split at h
    · rename_i c identifier rest hsplit
      cases h
      exact ⟨rfl, List.cons_ne_nil _ _, Text.not_mem_of_splitFirst? hsplit, rest,
        Text.eq_of_splitFirst? hsplit⟩
    · cases h
  · rintro ⟨rfl, hname, hclosing, rest, rfl⟩
    rw [Text.splitFirst?_append hclosing]
    obtain ⟨c, identifier, rfl⟩ := List.exists_cons_of_ne_nil hname
    rfl

theorem ofTrimmed_eq_request_iff {operand name : List Char} {kind : IncludeKind} :
    ofTrimmed operand = .request kind name ↔ OperandNames operand kind name := by
  constructor
  · intro h
    rw [ofTrimmed.eq_def] at h
    split at h
    · obtain ⟨rfl, hname, hclosing, rest, rfl⟩ := ofOperand_eq_request_iff.1 h
      exact ⟨hname, hclosing, rest, rfl⟩
    · obtain ⟨rfl, hname, hclosing, rest, rfl⟩ := ofOperand_eq_request_iff.1 h
      exact ⟨hname, hclosing, rest, rfl⟩
    · cases h
  · rintro ⟨hname, hclosing, rest, rfl⟩
    cases kind <;> exact ofOperand_eq_request_iff.2 ⟨rfl, hname, hclosing, rest, rfl⟩

end IncludeLine

theorem isInclude_of_request {line name : List Char} {kind : IncludeKind}
    (h : IncludeLine.ofLine line = .request kind name) :
    ∃ operand, IsInclude line operand ∧ OperandNames operand kind name := by
  obtain ⟨operand, hinclude, hread⟩ := IncludeLine.exists_of_ne_other (by rw [h]; exact nofun)
  exact ⟨operand, hinclude, IncludeLine.ofTrimmed_eq_request_iff.1 (hread ▸ h)⟩

theorem isInclude_of_malformed {line : List Char} (h : IncludeLine.ofLine line = .malformed) :
    ∃ operand, IsInclude line operand ∧ ∀ kind name, ¬ OperandNames operand kind name := by
  obtain ⟨operand, hinclude, hread⟩ := IncludeLine.exists_of_ne_other (by rw [h]; exact nofun)
  refine ⟨operand, hinclude, fun kind name hnames => ?_⟩
  have hrequest := IncludeLine.ofTrimmed_eq_request_iff.2 hnames
  rw [← hread, h] at hrequest
  cases hrequest

end ShaderBuild
