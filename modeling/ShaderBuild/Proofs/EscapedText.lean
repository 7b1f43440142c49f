import ShaderBuild.Include.Pattern.Reader

/-!
Texts that stand for themselves in the text form of expressions. Main statement: `read?_escape`, by
which a text with its special characters escaped, put between the anchors of a whole match, is read
as the expression for exactly that text.
-/

namespace ShaderBuild

namespace Regex

/-- The characters that mean something else than themselves, in a bracket at least. -/
def isSpecial (c : Char) : Bool :=
  ['\\', '.', '+', '*', '?', '(', ')', '|', '[', ']', '{', '}', '^', '$', '#', '&', '-',
    '~'].contains c

def escapedChar (c : Char) : List Char := if isSpecial c then ['\\', c] else [c]

/-- The text with a backslash before each special character. -/
def escape (cs : List Char) : List Char := cs.flatMap escapedChar

theorem length_le_escape (cs : List Char) : cs.length ≤ (escape cs).length := by
  induction cs with
  | nil => exact Nat.le_refl 0
  | cons c cs ih =>
    have hc : 1 ≤ (escapedChar c).length := by
      unfold escapedChar
      split <;> simp
    rw [escape, List.flatMap_cons, List.length_append, List.length_cons]
    rw [escape] at ih
    omega

/-! ## Reading -/

variable {properties : Text.Properties}

theorem escape?_of_special {c : Char} (h : isSpecial c = true) (rest : List Char) :
    escape? properties {} (c :: rest) = some (.char c false, rest) := by
  simp only [isSpecial, List.contains_iff_mem, List.mem_cons, List.not_mem_nil, or_false] at h
  rcases h with
    rfl | rfl | rfl | rfl | rfl | rfl | rfl | rfl | rfl | rfl | rfl | rfl | rfl | rfl | rfl | rfl
      | rfl | rfl <;> rfl

namespace Progress

/-- What has been read after some characters that stand for themselves. -/
def pushChars (p : Progress) (cs : List Char) : Progress :=
  { p with level := { p.level with items := (cs.map fun c => Item.leaf (literal [c])).reverse ++
    p.level.items } }

variable {p : Progress}

theorem step?_of_plain (hflags : p.flags = {}) {c : Char} (hc : isSpecial c = false)
    (rest : List Char) :
    p.step? properties c rest = some (p.pushLeaf (literal [c]), rest) := by
  unfold step?
  split <;> first | cases hc | skip
  rw [hflags]
  rfl

theorem run?_cons {q : Progress} (hflags : p.flags = {}) {c : Char} {rest rest' : List Char}
    (h : p.step? properties c rest = some (q, rest')) (fuel : Nat) :
    p.run? properties (fuel + 1) (c :: rest) = q.run? properties fuel rest' := by
  have hskip : skip p.flags (c :: rest) = c :: rest := by
    rw [hflags]
    rfl
  simp only [run?, hskip, h]

theorem run?_escapedChar (hflags : p.flags = {}) (fuel : Nat) (c : Char) (rest : List Char) :
    p.run? properties (fuel + 1) (escapedChar c ++ rest) =
      (p.pushChars [c]).run? properties fuel rest := by
  unfold escapedChar
  split
  · rename_i hspecial
    have hstep : p.step? properties '\\' (c :: rest) = some (p.pushLeaf (literal [c]), rest) := by
      rw [step?, escaped?, hflags, escape?_of_special hspecial]
      rfl
    exact run?_cons hflags hstep fuel
  · rename_i hplain
    exact run?_cons hflags (step?_of_plain hflags (Bool.eq_false_iff.2 hplain) rest) fuel

theorem run?_escape (hflags : p.flags = {}) (fuel : Nat) (cs rest : List Char) :
    p.run? properties (fuel + cs.length) (escape cs ++ rest) =
      (p.pushChars cs).run? properties fuel rest := by
  induction cs generalizing p with
  | nil => rfl
  | cons c cs ih =>
    have hpush : (p.pushChars [c]).pushChars cs = p.pushChars (c :: cs) := by simp [pushChars]
    rw [escape, List.flatMap_cons, List.append_assoc, List.length_cons, ← Nat.add_assoc,
      run?_escapedChar hflags, ← hpush]
    exact ih hflags

end Progress

/-! ## The expression -/

theorem foldr_joinLiterals_chars (c : Char) (cs : List Char) :
    ((c :: cs).map fun c => literal [c]).foldr joinLiterals [] = [literal (c :: cs)] := by
  induction cs generalizing c with
  | nil => rfl
  | cons d cs ih =>
    rw [List.map_cons, List.foldr_cons, ih d]
    rfl

theorem sequence_chars {cs : List Char} (h : cs ≠ []) :
    sequence (cs.map fun c => literal [c]) = literal cs := by
  obtain ⟨c, cs, rfl⟩ := List.exists_cons_of_ne_nil h
  have hfactors : ((c :: cs).map fun c => literal [c]).flatMap factors = (c :: cs).map fun c =>
      literal [c] := by
    rw [List.flatMap_map]
    exact List.map_eq_flatMap.symm
  rw [sequence, hfactors, foldr_joinLiterals_chars]

theorem depthOf_le {items : List Item} (h : ∀ item ∈ items, item.depth = 0) :
    Item.depthOf items ≤ 1 := by
  have hzero : items.foldl (fun n item => max n item.depth) 0 = 0 := by
    induction items with
    | nil => rfl
    | cons item items ih =>
      rw [List.foldl_cons, h item List.mem_cons_self]
      exact ih fun other hother => h other (.tail _ hother)
  simp only [Item.depthOf, hzero]
  split <;> omega

/-! ## The whole match -/

/-- What is open inside of the group of a whole match. -/
def Progress.inGroup : Progress :=
  ⟨{}, 0, [], .ofGroup {} none, [(Level.ofGroup {} none).push (.leaf (.anchor .textStart))]⟩

theorem close_inGroup {cs : List Char} (h : cs ≠ []) :
    (Progress.inGroup.pushChars cs).level.close =
      ⟨literal cs, Item.depthOf (cs.map fun c => Item.leaf (literal [c])).reverse + 1, true⟩ := by
  have hregex : (((cs.map fun c => Item.leaf (literal [c])).reverse ++ []).reverse.map Item.regex) =
      cs.map fun c => literal [c] := by
    simp [Item.leaf, Function.comp_def]
  simp only [Level.close, Level.content, Level.sequence, Progress.pushChars, Progress.inGroup,
    Level.ofGroup]
  rw [hregex, sequence_chars h, List.append_nil]

theorem content_whole (cs : List Char) (depth : Nat) :
    (((Progress.start.level.push (.leaf (.anchor .textStart))).push ⟨literal cs, depth +
      1, true⟩).push
      (.leaf (.anchor .textEnd))).content =
      ⟨.seq [.anchor .textStart, .literal cs, .anchor .textEnd], depth + 2, true⟩ := by
  simp [Progress.start, Level.content, Level.sequence, Level.push, Level.ofGroup,
    Regex.sequence, factors, joinLiterals, Item.depthOf, Item.leaf]

theorem run?_escape_whole {cs : List Char} (h : cs ≠ []) (fuel : Nat) :
    Progress.start.run? properties (fuel + 1 + 1 + 1 + cs.length + 1 + 1)
        ("^(?:".toList ++ escape cs ++ ")$".toList) =
      some ⟨.seq [.anchor .textStart, .literal cs, .anchor .textEnd],
        Item.depthOf (cs.map fun c => Item.leaf (literal [c])).reverse + 2, true⟩ := by
  have hopen : Progress.start.run? properties (fuel + 1 + 1 + 1 + cs.length + 1 + 1)
        ("^(?:".toList ++ escape cs ++ ")$".toList) =
      Progress.inGroup.run? properties (fuel + 1 + 1 + 1 + cs.length)
        (escape cs ++ ")$".toList) := by
    rw [List.append_assoc]
    exact (Progress.run?_cons rfl rfl _).trans (Progress.run?_cons rfl rfl _)
  have hend : ")$".toList = [')', '$'] := rfl
  rw [hopen, Progress.run?_escape rfl, hend, Progress.run?_cons rfl rfl, Progress.run?_cons rfl rfl,
    close_inGroup h]
  exact congrArg some (content_whole cs _)

theorem read?_escape {cs : List Char} (h : cs ≠ []) :
    read? properties ("^(?:".toList ++ escape cs ++ ")$".toList) =
      some (.seq [.anchor .textStart, .literal cs, .anchor .textEnd]) := by
  obtain ⟨k, hk⟩ := Nat.exists_eq_add_of_le (length_le_escape cs)
  have hfuel : ("^(?:".toList ++ escape cs ++ ")$".toList).length + 1 =
      k + 2 + 1 + 1 + 1 + cs.length + 1 + 1 := by
    rw [List.length_append, List.length_append, hk]
    simp
    omega
  rw [read?, hfuel, run?_escape_whole h]
  have hdepth : Item.depthOf (cs.map fun c => Item.leaf (literal [c])).reverse ≤ 1 := by
    apply depthOf_le
    simp [Item.leaf]
  have hfits : Item.depthOf (cs.map fun c => Item.leaf (literal [c])).reverse + 2 ≤
      Bracket.maxDepth := by
    rw [Bracket.maxDepth]
    omega
  exact if_pos hfits

end Regex

/-- The escaped text is compiled to the pattern for exactly that text, unless its automata are too
large. -/
theorem Pattern.compile?_escape (properties : Text.Properties) {s : String} (h : s ≠ "") :
    compile? properties (String.ofList (Regex.escape s.toList)) = if (exactly s).regex.fits then
      some (exactly s) else none := by
  have htext : (String.ofList (Regex.escape s.toList)).toList = Regex.escape s.toList :=
    String.toList_ofList
  rw [compile?, Regex.ofText?, htext, Regex.read?_escape (mt String.toList_eq_nil_iff.1 h),
    Option.filter_some]
  show Option.map _ (if (exactly s).regex.fits then some (exactly s).regex else none) = _
  split <;> rfl

end ShaderBuild
