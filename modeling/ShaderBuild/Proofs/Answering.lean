import ShaderBuild.Proofs.Peeling

/-!
Which generators are asked for an identifier, and what they make of it. Main statements:
`mem_homesOf_iff`, by which a directory is asked exactly if the identifier goes on with a slash
behind it before its last dot, and `generated_eq_some_iff`, by which generators that do not
contradict each other answer whatever one of them answers.
-/

namespace ShaderBuild

/-! ## Directories of an identifier -/

theorem parentText_append (parent : List Char) {last : List Char} (h : '/' ∉ last) :
    parentText (parent ++ '/' :: last) = parent := by
  rw [parentText, Text.splitLast?_append parent h]

theorem parentText_of_not_mem {cs : List Char} (h : '/' ∉ cs) : parentText cs = [] := by
  rw [parentText, Text.splitLast?_of_not_mem h]

theorem stemOf_append (stem : List Char) {extension : List Char} (h : '.' ∉ extension) :
    stemOf (stem ++ '.' :: extension) = stem := by
  rw [stemOf, Text.splitLast?_append stem h]

theorem stemOf_of_not_mem {cs : List Char} (h : '.' ∉ cs) : stemOf cs = cs := by
  rw [stemOf, Text.splitLast?_of_not_mem h]

/-- A directory of a text is its parent or a directory of its parent. -/
theorem dir_iff (parent : List Char) {last home : List Char} (h : '/' ∉ last) :
    home ++ ['/'] <+: parent ++ '/' :: last ↔ home = parent ∨ home ++ ['/'] <+: parent := by
  constructor
  · rintro ⟨rest, hrest⟩
    rcases List.append_eq_append_iff.1 hrest with ⟨more, hparent, _⟩ | ⟨more, hhome, hlast⟩
    · exact .inr ⟨more, hparent.symm⟩
    · cases more with
      | nil =>
        rw [List.append_nil] at hhome
        exact .inr ⟨[], by rw [List.append_nil, hhome]⟩
      | cons c more =>
        obtain ⟨rfl, rfl⟩ := List.cons.inj hlast
        rcases List.eq_nil_or_concat more with rfl | ⟨init, c, rfl⟩
        · exact .inl (List.append_cancel_right hhome)
        · -- The slash behind the directory would be in the last part.
          have hends : home ++ ['/'] = (parent ++ '/' :: init) ++ [c] := by simpa using hhome
          obtain rfl : '/' = c := List.singleton_inj.1 (List.append_inj_right' hends rfl)
          simp at h
  · rintro (rfl | hdir)
    · exact ⟨last, by simp⟩
    · exact hdir.trans (List.prefix_append _ _)

theorem dir_iff_parentText {cs home : List Char} (hne : home ≠ []) :
    home ++ ['/'] <+: cs ↔ home = parentText cs ∨ home ++ ['/'] <+: parentText cs := by
  by_cases hslash : '/' ∈ cs
  · obtain ⟨parent, last, rfl, hlast⟩ := Text.exists_last hslash
    rw [parentText_append parent hlast, dir_iff parent hlast]
  · have hnone : ¬ home ++ ['/'] <+: cs := fun hdir => hslash (hdir.subset (by simp))
    rw [parentText_of_not_mem hslash]
    simp [hnone, hne]

/-- The directories of a text are what stands before its slashes, unless that is empty or starts
with a slash. -/
theorem mem_ancestors_iff {cs home : List Char} :
    home ∈ ancestors cs ↔ home ≠ [] ∧ home.head? ≠ some '/' ∧ home ++ ['/'] <+: cs := by
  fun_induction ancestors cs with
  | case1 cs parent hstop =>
    constructor
    · intro hmem
      cases hmem
    · rintro ⟨hne, hhead, hdir⟩
      exfalso
      rcases (dir_iff_parentText hne).1 hdir with hparent | ⟨rest, hparent⟩
      · rcases hstop with hnil | hrooted
        · exact hne (hparent.trans hnil)
        · exact hhead (hparent ▸ hrooted)
      · rcases hstop with hnil | hrooted
        · simp [parent, ← hparent] at hnil
        · obtain ⟨c, more, rfl⟩ := List.exists_cons_of_ne_nil hne
          simp only [parent, ← hparent] at hrooted
          exact hhead hrooted
  | case2 cs parent hgo ih =>
    obtain ⟨hne, hhead⟩ := not_or.1 hgo
    rw [List.mem_cons, ih]
    constructor
    · rintro (rfl | ⟨hne', hhead', hdir⟩)
      · exact ⟨hne, hhead, (dir_iff_parentText hne).2 (.inl rfl)⟩
      · exact ⟨hne', hhead', (dir_iff_parentText hne').2 (.inr hdir)⟩
    · rintro ⟨hne', hhead', hdir⟩
      exact ((dir_iff_parentText hne').1 hdir).imp id fun hdir => ⟨hne', hhead', hdir⟩

theorem mem_homesOf_iff {name home : String} :
    home ∈ homesOf name ↔
      home ≠ "" ∧ home.toList.head? ≠ some '/' ∧ home.toList ++ ['/'] <+: stemOf name.toList := by
  have hmem : home ∈ homesOf name ↔ home.toList ∈ ancestors (stemOf name.toList) := by
    rw [homesOf, List.mem_map]
    constructor
    · rintro ⟨cs, hcs, rfl⟩
      rwa [String.toList_ofList]
    · intro h
      exact ⟨home.toList, h, String.ofList_toList⟩
  rw [hmem, mem_ancestors_iff, ne_eq, ne_eq, String.toList_eq_nil_iff]

/-! ## Mappings -/

theorem Generator.value_firstMatch (home name : String) (mappings : List Mapping) :
    (firstMatch home name mappings).value = mappings.findSome? fun m =>
      if m.pattern.accepts name = true ∧ (m.produce name).value ≠ "" then
        some ⟨⟨name⟩, (m.produce name).value⟩
      else none := by
  induction mappings with
  | nil => rfl
  | cons m rest ih =>
    rw [firstMatch, List.findSome?_cons, ← ih]
    by_cases haccepts : m.pattern.accepts name = true
    · by_cases hempty : (m.produce name).value = ""
      · simp [haccepts, hempty]
      · simp [haccepts, hempty]
    · simp [haccepts]

/-- The mapping makes a text of the identifier. -/
def Mapping.Makes (m : Mapping) (name text : String) : Prop :=
  m.pattern.accepts name = true ∧ (m.produce name).value = text ∧ text ≠ ""

theorem Mapping.Makes.unique {m : Mapping} {name text text' : String} (h : m.Makes name text)
    (h' : m.Makes name text') : text = text' := h.2.1.symm.trans h'.2.1

theorem findSome?_flatMap {α β γ : Type} (answer : β → Option γ) (f : α → List β) (as : List α) :
    (as.flatMap f).findSome? answer = as.findSome? fun a => (f a).findSome? answer := by
  induction as with
  | nil => rfl
  | cons a as ih =>
    rw [List.flatMap_cons, List.findSome?_append, List.findSome?_cons, ih]
    cases (f a).findSome? answer <;> rfl

/-- A search among answers that do not contradict each other finds any of them. -/
theorem findSome?_eq_some_iff_of_agree {α β : Type} {answer : α → Option β} {as : List α}
    (hagree : ∀ a ∈ as, ∀ a' ∈ as, ∀ b b', answer a = some b → answer a' = some b' → b = b')
    {b : β} :
    as.findSome? answer = some b ↔ ∃ a ∈ as, answer a = some b := by
  constructor
  · exact List.exists_of_findSome?_eq_some
  · rintro ⟨a, ha, hanswer⟩
    have hsome : (as.findSome? answer).isSome := List.findSome?_isSome_iff.2 ⟨a, ha, hanswer ▸ rfl⟩
    obtain ⟨b', hfound⟩ := Option.isSome_iff_exists.1 hsome
    obtain ⟨a', ha', hanswer'⟩ := List.exists_of_findSome?_eq_some hfound
    rw [hfound, hagree a' ha' a ha b' b hanswer' hanswer]

/-- Mappings that do not contradict each other make what any of them makes. -/
theorem Generator.firstMatch_eq_some_iff {home name : String} {mappings : List Mapping}
    (hagree : ∀ m ∈ mappings, ∀ m' ∈ mappings, ∀ text text', m.Makes name text →
      m'.Makes name text' → text = text') {t : IncludeText} :
    (firstMatch home name mappings).value = some t ↔
      t.path = ⟨name⟩ ∧ ∃ m ∈ mappings, m.Makes name t.contents := by
  have hanswer : ∀ (m : Mapping) (t : IncludeText),
      (if m.pattern.accepts name = true ∧ (m.produce name).value ≠ "" then
          some (⟨⟨name⟩, (m.produce name).value⟩ : IncludeText) else none) = some t ↔
        t.path = ⟨name⟩ ∧ m.Makes name t.contents := by
    rintro m ⟨path, contents⟩
    simp only [Mapping.Makes, Option.ite_none_right_eq_some, Option.some.injEq,
      IncludeText.mk.injEq]
    grind
  rw [value_firstMatch, findSome?_eq_some_iff_of_agree]
  · simp only [hanswer]
    grind
  · intro m hm m' hm' t t' ht ht'
    obtain ⟨hpath, hmakes⟩ := (hanswer m t).1 ht
    obtain ⟨hpath', hmakes'⟩ := (hanswer m' t').1 ht'
    cases t
    cases t'
    exact IncludeText.mk.injEq .. ▸ ⟨hpath.trans hpath'.symm, hagree m hm m' hm' _ _ hmakes hmakes'⟩

/-! ## Answers -/

namespace Finder

/-- The generators that are asked for an identifier one after the other, until one of them
answers. -/
def asked (changes : List Change) (name : String) : List Generator :=
  (homesOf name).flatMap fun home => (registered false changes).reverse.filter fun g =>
    standardHome g.home = home

theorem mem_asked {changes : List Change} {name : String} {g : Generator} :
    g ∈ asked changes name ↔ g ∈ registered false changes ∧ standardHome g.home ∈ homesOf name := by
  simp only [asked, List.mem_flatMap, List.mem_filter, List.mem_reverse, decide_eq_true_eq]
  constructor
  · rintro ⟨home, hhome, hg, rfl⟩
    exact ⟨hg, hhome⟩
  · rintro ⟨hg, hhome⟩
    exact ⟨_, hhome, hg, rfl⟩

theorem value_generated (changes : List Change) (name : String) :
    ((setUp changes).generated name).value =
      (asked changes name).findSome? fun g => IncludeText.nonEmpty (g.answer name).value := by
  rw [generated_eq_of_registers (registers_setUp changes), peel_eq, Traced.value_firstSome, asked,
    findSome?_flatMap]
  simp only [askAt, Traced.value_firstSome, Traced.value_map]
  rfl

/-- A generator that was registered answers an identifier of which it owns a directory. -/
def Answers (changes : List Change) (name : String) (t : IncludeText) : Prop :=
  ∃ g ∈ registered false changes, standardHome g.home ∈ homesOf name ∧
    (g.answer name).value = some t ∧ t.contents ≠ ""

theorem answers_iff_asked {changes : List Change} {name : String} {t : IncludeText} :
    Answers changes name t ↔
      ∃ g ∈ asked changes name, IncludeText.nonEmpty (g.answer name).value = some t := by
  simp only [Answers, mem_asked, IncludeText.nonEmpty_eq_some_iff, and_assoc]

/-- Generators that do not contradict each other answer what any of them answers. -/
theorem generated_eq_some_iff {changes : List Change} {name : String}
    (hagree : ∀ t t', Answers changes name t → Answers changes name t' → t = t') {t : IncludeText} :
    ((setUp changes).generated name).value = some t ↔ Answers changes name t := by
  rw [value_generated, findSome?_eq_some_iff_of_agree, answers_iff_asked]
  intro g hg g' hg' t t' ht ht'
  exact hagree t t' (answers_iff_asked.2 ⟨g, hg, ht⟩) (answers_iff_asked.2 ⟨g', hg', ht'⟩)

/-- A generator with no others beside it answers in its directory only. -/
theorem value_generated_of_only {changes : List Change} {g : Generator}
    (h : registered false changes = [g]) (name : String) : ((setUp changes).generated name).value =
      if standardHome g.home ∈ homesOf name then IncludeText.nonEmpty (g.answer name).value
      else none := by
  have hanswers : ∀ t, Answers changes name t ↔
      standardHome g.home ∈ homesOf name ∧ (g.answer name).value = some t ∧ t.contents ≠ "" := by
    intro t
    simp only [Answers, h, List.mem_singleton, exists_eq_left]
  have hagree : ∀ t t', Answers changes name t → Answers changes name t' → t = t' := by
    intro t t' ht ht'
    have heq := ((hanswers t).1 ht).2.1.symm.trans ((hanswers t').1 ht').2.1
    exact Option.some.inj heq
  apply Option.ext
  intro t
  rw [generated_eq_some_iff hagree, hanswers]
  split
  · rename_i hhome
    rw [IncludeText.nonEmpty_eq_some_iff]
    exact and_iff_right hhome
  · rename_i hhome
    simp [hhome]

end Finder

end ShaderBuild
