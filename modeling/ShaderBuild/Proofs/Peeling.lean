import Mathlib.Data.List.Basic
import Mathlib.Data.String.Basic
import ShaderBuild.Include.Finder

/-!
Which generators are asked for an include. Main statement: `generated_eq_peel`, by which the search
by halving asks the same generators in the same order as plain peeling, which looks through all
registered generators at every directory of the identifier.
-/

namespace ShaderBuild

/-! ## Halving -/

/-- Whether there is an element at a place for which `p` holds. -/
def holdsAt {α : Type} (p : α → Bool) (xs : List α) (i : Nat) : Bool := (xs[i]?.map p).getD false

theorem partitionPoint_eq {α : Type} (p : α → Bool) (xs : List α) {low point high : Nat}
    (hlow : low ≤ point) (hhigh : point ≤ high)
    (hbefore : ∀ i, low ≤ i → i < point → holdsAt p xs i = true)
    (hafter : ∀ i, point ≤ i → i < high → holdsAt p xs i = false) :
    partitionPoint p xs low high = point := by
  fun_induction partitionPoint p xs low high with
  | case1 low high hlt middle hholds ih =>
    have hmiddle : middle < point := by
      apply Nat.lt_of_not_le
      intro hle
      have := hafter middle hle (by omega)
      exact Bool.false_ne_true (this.symm.trans hholds)
    exact ih hmiddle hhigh (fun i hi => hbefore i (by omega)) hafter
  | case2 low high hlt middle hholds ih =>
    have hmiddle : point ≤ middle := by
      apply Nat.le_of_not_lt
      intro hlt'
      exact hholds (hbefore middle (by omega) hlt')
    exact ih hlow hmiddle hbefore fun i hi hi' => hafter i hi (by omega)
  | case3 low high hle => omega

/-- The search starts behind `before`, and finds where the elements for which `p` holds end. -/
theorem partitionPoint_append {α : Type} {p : α → Bool} (before : List α) {here after : List α}
    (hhere : ∀ x ∈ here, p x = true) (hafter : ∀ x ∈ after, p x = false) :
    partitionPoint p (before ++ (here ++ after)) before.length (before ++ (here ++ after)).length =
      before.length + here.length := by
  apply partitionPoint_eq
  · omega
  · simp only [List.length_append]
    omega
  · intro i hi hi'
    have hget : (before ++ (here ++ after))[i]? = here[i - before.length]? := by
      rw [List.getElem?_append_right hi, List.getElem?_append_left (by omega)]
    obtain ⟨x, hx⟩ : ∃ x, here[i - before.length]? = some x :=
      ⟨_, List.getElem?_eq_getElem (by omega)⟩
    simp [holdsAt, hget, hx, hhere x (List.mem_of_getElem? hx)]
  · intro i hi hi'
    have hget : (before ++ (here ++ after))[i]? = after[i - before.length - here.length]? := by
      rw [List.getElem?_append_right (by omega), List.getElem?_append_right (by omega)]
    rw [holdsAt, hget]
    cases hx : after[i - before.length - here.length]? with
    | none => rfl
    | some x => exact hafter x (List.mem_of_getElem? hx)

/-- A list in which the elements for which `p` holds come first. -/
theorem filter_append_filter_not {α : Type} {p : α → Bool} {xs : List α}
    (h : xs.Pairwise fun x y => p y = true → p x = true) :
    xs.filter p ++ xs.filter (fun x => !p x) = xs := by
  induction xs with
  | nil => rfl
  | cons x rest ih =>
    obtain ⟨hx, hrest⟩ := List.pairwise_cons.1 h
    cases hp : p x with
    | true => simp [hp, ih hrest]
    | false =>
      have hnone : rest.filter p = [] := by
        apply List.filter_eq_nil_iff.2
        intro y hy hpy
        exact Bool.false_ne_true (hp.symm.trans (hx y hy hpy))
      have hall : rest.filter (fun y => !p y) = rest := by
        have := ih hrest
        rwa [hnone, List.nil_append] at this
      simp [hp, hnone, hall]

/-! ## Generators in descending order -/

/-- Generators in descending order of their directories. -/
def Descending (es : List Registered) : Prop := es.Pairwise fun a b => b.home ≤ a.home

def larger (home : String) (es : List Registered) : List Registered :=
  es.filter fun e => home < e.home

def equal (home : String) (es : List Registered) : List Registered :=
  es.filter fun e => e.home = home

def smaller (home : String) (es : List Registered) : List Registered :=
  es.filter fun e => e.home < home

theorem home_lt_of_mem_larger {home : String} {es : List Registered} {e : Registered}
    (h : e ∈ larger home es) : home < e.home := of_decide_eq_true (List.mem_filter.1 h).2

theorem home_eq_of_mem_equal {home : String} {es : List Registered} {e : Registered}
    (h : e ∈ equal home es) : e.home = home := of_decide_eq_true (List.mem_filter.1 h).2

theorem home_lt_of_mem_smaller {home : String} {es : List Registered} {e : Registered}
    (h : e ∈ smaller home es) : e.home < home := of_decide_eq_true (List.mem_filter.1 h).2

theorem equal_append (home : String) (es fs : List Registered) :
    equal home (es ++ fs) = equal home es ++ equal home fs := List.filter_append ..

theorem equal_cons (home : String) (e : Registered) (es : List Registered) :
    equal home (e :: es) = if e.home = home then e :: equal home es else equal home es := by
  simp only [equal, List.filter_cons, decide_eq_true_eq]

theorem equal_of_lt {home : String} {es : List Registered} (h : ∀ e ∈ es, home < e.home) :
    equal home es = [] := by
  apply List.filter_eq_nil_iff.2
  intro e he heq
  exact (h e he).ne (of_decide_eq_true heq).symm

namespace Descending

/-- Generators in descending order are those of larger, of equal and of smaller directories. -/
theorem split {es : List Registered} (h : Descending es) (home : String) :
    larger home es ++ (equal home es ++ smaller home es) = es := by
  have hlarger : es.Pairwise fun a b =>
      decide (home < b.home) = true → decide (home < a.home) = true := by
    refine h.imp ?_
    intro a b hab hb
    exact decide_eq_true (lt_of_lt_of_le (of_decide_eq_true hb) hab)
  let rest := es.filter fun e => !decide (home < e.home)
  have hrest : ∀ e ∈ rest, e.home ≤ home := by
    intro e he
    have hnot := (List.mem_filter.1 he).2
    rwa [Bool.not_eq_true', decide_eq_false_iff_not, not_lt] at hnot
  have hequal : rest.Pairwise fun a b =>
      decide (b.home = home) = true → decide (a.home = home) = true := by
    refine (h.filter _).imp_of_mem ?_
    intro a b ha _ hab hb
    have hb := of_decide_eq_true hb
    exact decide_eq_true (le_antisymm (hrest a ha) (hb ▸ hab))
  have hfirst : rest.filter (fun e => decide (e.home = home)) = equal home es := by
    rw [equal, List.filter_filter]
    apply List.filter_congr
    intro e _
    by_cases he : e.home = home
    · simp only [he, lt_irrefl, decide_true, decide_false, Bool.not_false, Bool.and_self]
    · simp only [he, decide_false, Bool.false_and]
  have hsecond : rest.filter (fun e => !decide (e.home = home)) = smaller home es := by
    rw [smaller, List.filter_filter]
    apply List.filter_congr
    intro e _
    rw [Bool.eq_iff_iff]
    simp only [Bool.and_eq_true, Bool.not_eq_true', decide_eq_false_iff_not,
      decide_eq_true_iff, not_lt]
    exact and_comm.trans lt_iff_le_and_ne.symm
  have hinner := filter_append_filter_not hequal
  rw [hfirst, hsecond] at hinner
  rw [hinner]
  exact filter_append_filter_not hlarger

section Run

variable {passed rest : List Registered} {home : String}

/-- Where the run of a directory starts in the part of the list that a search has not passed yet. -/
theorem start_eq (h : Descending rest) :
    partitionPoint (fun e => decide (home < e.home)) (passed ++ rest) passed.length (passed ++
      rest).length = (passed ++ larger home rest).length := by
  have hhere : ∀ e ∈ larger home rest, decide (home < e.home) = true :=
    fun e he => decide_eq_true (home_lt_of_mem_larger he)
  have hafter : ∀ e ∈ equal home rest ++ smaller home rest, decide (home < e.home) = false := by
    intro e he
    apply decide_eq_false
    rcases List.mem_append.1 he with he | he
    · exact (home_eq_of_mem_equal he).not_gt
    · exact (home_lt_of_mem_smaller he).not_gt
  have hpoint := partitionPoint_append passed hhere hafter
  rw [h.split home] at hpoint
  exact hpoint.trans List.length_append.symm

/-- Where the run of a directory stops. -/
theorem stop_eq (h : Descending rest) :
    partitionPoint (fun e => decide (home ≤ e.home)) (passed ++ rest)
      (passed ++ larger home rest).length
        (passed ++ rest).length =
      (passed ++ larger home rest ++ equal home rest).length := by
  have hhere : ∀ e ∈ equal home rest, decide (home ≤ e.home) = true := by
    intro e he
    exact decide_eq_true (home_eq_of_mem_equal he).ge
  have hafter : ∀ e ∈ smaller home rest, decide (home ≤ e.home) = false :=
    fun e he => decide_eq_false (home_lt_of_mem_smaller he).not_ge
  have hpoint := partitionPoint_append (passed ++ larger home rest) hhere hafter
  rw [List.append_assoc, h.split home] at hpoint
  exact hpoint.trans List.length_append.symm

/-- The run is all that there is of a directory, if only larger directories have been passed. -/
theorem run_eq (h : Descending rest) (hpassed : ∀ e ∈ passed, home < e.home) :
    ((passed ++ rest).drop (passed ++ larger home rest).length).take
        ((passed ++ larger home rest ++ equal home rest).length -
          (passed ++ larger home rest).length) =
      equal home (passed ++ rest) := by
  have hsplit :
      passed ++ rest = (passed ++ larger home rest) ++ (equal home rest ++ smaller home rest) := by
    rw [List.append_assoc, h.split home]
  have hlength :
    (passed ++ larger home rest ++ equal home rest).length - (passed ++ larger home rest).length =
      (equal home rest).length := by
    rw [List.length_append, Nat.add_sub_cancel_left]
  rw [equal_append, equal_of_lt hpassed, List.nil_append, hsplit, List.drop_left, hlength,
    List.take_left]

end Run

/-- A generator is put in front of those of its directory. -/
theorem insert {es : List Registered} (h : Descending es) (e : Registered) :
    Descending (larger e.home es ++ e :: (equal e.home es ++ smaller e.home es)) := by
  rw [← h.split e.home, Descending, List.pairwise_append] at h
  obtain ⟨hlarger, hrest, hacross⟩ := h
  refine List.pairwise_append.2 ⟨hlarger, List.pairwise_cons.2 ⟨?_, hrest⟩, ?_⟩
  · intro a ha
    rcases List.mem_append.1 ha with ha | ha
    · exact (home_eq_of_mem_equal ha).le
    · exact (home_lt_of_mem_smaller ha).le
  · intro a ha b hb
    rcases List.mem_cons.1 hb with rfl | hb
    · exact (home_lt_of_mem_larger ha).le
    · exact hacross a ha b hb

/-- It comes first in its directory then, and the other directories are as before. -/
theorem equal_insert {es : List Registered} (h : Descending es) (e : Registered) (home : String) :
    equal home (larger e.home es ++ e :: (equal e.home es ++ smaller e.home es)) =
      if e.home = home then e :: equal home es else equal home es := by
  have hsplit := congrArg (equal home) (h.split e.home)
  rw [equal_append] at hsplit ⊢
  rw [equal_cons]
  split
  · rename_i hhome
    subst hhome
    have hnone : equal e.home (larger e.home es) = [] := equal_of_lt fun _ => home_lt_of_mem_larger
    rw [hnone, List.nil_append] at hsplit ⊢
    rw [hsplit]
  · exact hsplit

end Descending

/-! ## The search -/

namespace Traced

/-- Attempts that neither answer nor leave a trace. -/
theorem firstSome_of_none {α β : Type} {attempt : α → Traced (Option β)} {as : List α}
    (h : ∀ a ∈ as, attempt a = return none) : firstSome attempt as = return none := by
  induction as with
  | nil => rfl
  | cons a rest ih =>
    rw [firstSome, h a List.mem_cons_self, ih fun b hb => h b (.tail _ hb)]
    rfl

theorem firstSome_map {α β γ : Type} (attempt : β → Traced (Option γ)) (f : α → β) (as : List α) :
    firstSome attempt (as.map f) = firstSome (fun a => attempt (f a)) as := by
  induction as with
  | nil => rfl
  | cons a rest ih => rw [List.map_cons, firstSome, firstSome, ih]

end Traced

namespace Finder

/-- Asks the generators of one directory. -/
def askEqual (generators : List Registered) (name home : String) : Traced Found :=
  Traced.firstSome (Registered.ask name) (equal home generators)

/-- The search asks in every directory what a look through all generators finds there. -/
theorem askFrom_eq (name : String) (homes : List String) (hhomes : homes.Pairwise fun a b => b < a)
    (passed rest : List Registered) (hrest : Descending rest)
    (hpassed : ∀ e ∈ passed, ∀ home ∈ homes, home < e.home) :
    askFrom (passed ++ rest) name homes passed.length =
      Traced.firstSome (askEqual (passed ++ rest) name) homes := by
  induction homes generalizing passed rest with
  | nil => rfl
  | cons home homes ih =>
    obtain ⟨hhome, hhomes⟩ := List.pairwise_cons.1 hhomes
    by_cases hend : rest = []
    · -- All generators are of larger directories than those that are left.
      subst hend
      rw [List.append_nil] at *
      rw [askFrom, if_pos rfl, Traced.firstSome_of_none]
      intro home' hhome'
      rw [askEqual, equal_of_lt fun e he => hpassed e he home' hhome']
      rfl
    · have hne : passed.length ≠ (passed ++ rest).length := by
        simpa [List.length_append] using hend
      have hlater : passed ++ rest = (passed ++ larger home rest ++ equal home rest) ++
          smaller home rest := by
        rw [List.append_assoc, List.append_assoc, hrest.split home]
      have hnext := ih hhomes (passed ++ larger home rest ++ equal home rest) (smaller home rest)
        (hrest.filter _) ?_
      · rw [← hlater] at hnext
        rw [askFrom, if_neg hne]
        simp only
        rw [hrest.start_eq, hrest.stop_eq, hrest.run_eq fun e he => hpassed e he home
          List.mem_cons_self, Traced.firstSome, hnext, askEqual]
        congr 1
        funext found
        cases found <;> rfl
      · -- What the search has passed now is of `home` or of a larger directory.
        intro e he home' hhome'
        rcases List.mem_append.1 he with he | he
        · rcases List.mem_append.1 he with he | he
          · exact hpassed e he home' (.tail _ hhome')
          · exact (hhome home' hhome').trans (home_lt_of_mem_larger he)
        · rw [home_eq_of_mem_equal he]
          exact hhome home' hhome'

end Finder

/-! ## Directories -/

theorem standardHome_of_getLast? {home : String} (h : home.toList.getLast? ≠ some '/') :
    standardHome home = home := by
  unfold standardHome
  split
  · rename_i c rest hreverse
    rw [← List.head?_reverse, hreverse] at h
    exact absurd rfl h
  · rfl

theorem lt_of_parentText {cs : List Char} (h : parentText cs ≠ []) :
    String.ofList (parentText cs) < String.ofList cs := by
  rw [parentText] at h ⊢
  split at h
  · rename_i before after hsplit
    rw [String.lt_iff_toList_lt, String.toList_ofList, String.toList_ofList]
    have happend : before ++ [] < before ++ '/' :: after :=
      List.append_left_lt (List.nil_lt_cons _ _)
    rw [List.append_nil] at happend
    simpa [Text.eq_of_splitLast? hsplit] using happend
  · exact absurd rfl h

/-- Every directory of a text is smaller than the text. -/
theorem lt_of_mem_ancestors {cs home : List Char} (h : home ∈ ancestors cs) :
    String.ofList home < String.ofList cs := by
  fun_induction ancestors cs with
  | case1 cs parent hstop => cases h
  | case2 cs parent hgo ih =>
    have hparent : String.ofList parent < String.ofList cs :=
      lt_of_parentText fun hnil => hgo (.inl hnil)
    rcases List.mem_cons.1 h with rfl | h
    · exact hparent
    · exact (ih h).trans hparent

theorem descending_homesOf (name : String) : (homesOf name).Pairwise fun a b => b < a := by
  rw [homesOf, List.pairwise_map]
  generalize stemOf name.toList = cs
  fun_induction ancestors cs with
  | case1 => exact .nil
  | case2 cs parent hgo ih =>
    exact List.pairwise_cons.2 ⟨fun home hhome => lt_of_mem_ancestors hhome, ih⟩

/-! ## Registration -/

/-- Generators as a finder keeps them that were registered one after the other. In `newest` the last
of them comes first. -/
structure Registers (es : List Registered) (newest : List Generator) : Prop where
  descending : Descending es
  equal_eq :
    ∀ home, equal home es = (newest.filter fun g => standardHome g.home = home).map (⟨home, ·⟩)

theorem insertIdx_length_append {α : Type} (before after : List α) (x : α) :
    (before ++ after).insertIdx before.length x = before ++ x :: after := by
  induction before with
  | nil => rfl
  | cons y before ih => simp [ih]

theorem generators_addGenerator {f : Finder} (h : Descending f.generators) (g : Generator) :
    (f.addGenerator g).generators =
      larger (standardHome g.home) f.generators ++ ⟨standardHome g.home, g⟩ ::
        (equal (standardHome g.home) f.generators ++
          smaller (standardHome g.home) f.generators) := by
  have hposition := @Descending.start_eq [] f.generators (standardHome g.home) h
  rw [List.nil_append, List.nil_append, List.length_nil] at hposition
  rw [← insertIdx_length_append, h.split, ← hposition]
  rfl

namespace Registers

theorem addGenerator {f : Finder} {newest : List Generator} (h : Registers f.generators newest)
    (g : Generator) : Registers (f.addGenerator g).generators (g :: newest) := by
  have hgenerators := generators_addGenerator h.descending g
  constructor
  · rw [hgenerators]
    exact h.descending.insert ⟨standardHome g.home, g⟩
  · intro home
    rw [hgenerators, h.descending.equal_insert ⟨standardHome g.home, g⟩, h.equal_eq,
      List.filter_cons]
    by_cases hhome : standardHome g.home = home
    · simp [hhome]
    · simp [hhome]

theorem addGenerators {f : Finder} {newest : List Generator} (h : Registers f.generators newest)
    (gs : List Generator) :
    Registers (gs.foldl Finder.addGenerator f).generators (gs.reverse ++ newest) := by
  induction gs generalizing f newest with
  | nil => exact h
  | cons g gs ih =>
    have hrest := ih (h.addGenerator g)
    rwa [List.reverse_cons, List.append_assoc]

end Registers

namespace Finder

/-- A call that sets up a finder. -/
inductive Change where
  | searchPath (root : Path) (loader : Loader)
  | generator (g : Generator)
  | builtins

def apply (f : Finder) : Change → Finder
  | .searchPath root loader => f.addSearchPath root loader
  | .generator g => f.addGenerator g
  | .builtins => f.ensureBuiltins.value

/-- The finder that some calls make of a new one. -/
def setUp (changes : List Change) : Finder := changes.foldl apply new

/-- The generators that some calls register, in order. Those that come with the program are
registered by the first call for them, unless they are there already. -/
def registered : (hasBuiltins : Bool) → List Change → List Generator
  | _, [] => []
  | b, .searchPath _ _ :: rest => registered b rest
  | b, .generator g :: rest => g :: registered b rest
  | true, .builtins :: rest => registered true rest
  | false, .builtins :: rest => Builtin.generators ++ registered true rest

theorem registers_builtins {f : Finder} {newest : List Generator}
    (h : Registers f.generators newest) (hbuiltins : f.hasBuiltins = false) :
    (f.apply .builtins).hasBuiltins = true ∧
      Registers (f.apply .builtins).generators (Builtin.generators.reverse ++ newest) := by
  have happly :
      f.apply .builtins = { Builtin.generators.foldl addGenerator f with hasBuiltins := true } := by
    simp [apply, ensureBuiltins, hbuiltins]
  rw [happly]
  exact ⟨rfl, h.addGenerators Builtin.generators⟩

theorem registers_foldl {f : Finder} {newest : List Generator} (h : Registers f.generators newest)
    (changes : List Change) :
    Registers (changes.foldl apply f).generators ((registered f.hasBuiltins changes).reverse ++
      newest) := by
  induction changes generalizing f newest with
  | nil => exact h
  | cons change rest ih =>
    rw [List.foldl_cons]
    cases change with
    | searchPath root loader => exact ih (f := f.addSearchPath root loader) h
    | generator g =>
      have hrest := ih (h.addGenerator g)
      rw [registered, List.reverse_cons, List.append_assoc]
      exact hrest
    | builtins =>
      cases hbuiltins : f.hasBuiltins with
      | true =>
        have hsame : f.apply .builtins = f := by simp [apply, ensureBuiltins, hbuiltins]
        have hrest := ih h
        rw [hbuiltins] at hrest
        rw [hsame]
        exact hrest
      | false =>
        obtain ⟨hnow, hregisters⟩ := registers_builtins h hbuiltins
        have hrest := ih hregisters
        rw [hnow] at hrest
        rw [registered, List.reverse_append, List.append_assoc]
        exact hrest

/-- What a finder keeps after some calls. -/
theorem registers_setUp (changes : List Change) :
    Registers (setUp changes).generators (registered false changes).reverse := by
  have hnew : Registers new.generators [] := ⟨.nil, fun _ => rfl⟩
  have hsetUp := registers_foldl hnew changes
  rwa [List.append_nil] at hsetUp

/-! ## Peeling -/

/-- Asks the generators that were registered for a directory, the last of them first. -/
def askAt (newest : List Generator) (name home : String) : Traced Found :=
  Traced.firstSome (fun g => IncludeText.nonEmpty <$> g.answer name)
    (newest.filter fun g => standardHome g.home = home)

/-- Peels one directory after the other off a text and asks the generators of what is left, until
one of them answers, nothing is left or what is left starts with a slash. -/
def peel (newest : List Generator) (name : String) (cs : List Char) : Traced Found :=
  let parent := parentText cs
  if _h : parent = [] ∨ parent.head? = some '/' then return none
  else do
    match ← askAt newest name (String.ofList parent) with
    | some text => return some text
    | none => peel newest name parent
termination_by cs.length
decreasing_by exact length_parentText_lt fun e => _h (.inl e)

theorem peel_eq (newest : List Generator) (name : String) (cs : List Char) :
    peel newest name cs =
      Traced.firstSome (askAt newest name) ((ancestors cs).map String.ofList) := by
  fun_induction ancestors cs with
  | case1 cs parent hstop =>
    rw [peel, dif_pos hstop]
    rfl
  | case2 cs parent hgo ih =>
    rw [peel, dif_neg hgo, List.map_cons, Traced.firstSome, ← ih]
    congr 1
    funext found
    cases found <;> rfl

theorem askEqual_eq_askAt {es : List Registered} {newest : List Generator} (h : Registers es newest)
    (name : String) : askEqual es name = askAt newest name := by
  funext home
  rw [askEqual, h.equal_eq, Traced.firstSome_map]
  rfl

theorem generated_eq_of_registers {f : Finder} {newest : List Generator}
    (h : Registers f.generators newest) (name : String) :
    f.generated name = peel newest name (stemOf name.toList) := by
  have hask :=
    askFrom_eq name (homesOf name) (descending_homesOf name) [] f.generators h.descending nofun
  rw [List.nil_append, List.length_nil, askEqual_eq_askAt h] at hask
  rw [generated, hask, homesOf, peel_eq]

/-! ## Watched generators -/

/-- The generator with an event of its own every time that it is asked. -/
def watchedBy (watch : Generator → String → Traced Unit) (g : Generator) : Generator :=
  ⟨g.home, fun name => do
    watch g name
    g.answer name⟩

/-- The finder with all its generators watched. -/
def watched (watch : Generator → String → Traced Unit) (f : Finder) : Finder :=
  { f with generators := f.generators.map fun e => ⟨e.home, watchedBy watch e.generator⟩ }

end Finder

theorem Registers.map {es : List Registered} {newest : List Generator} (h : Registers es newest)
    (put : Generator → Generator) (hput : ∀ g, (put g).home = g.home) :
    Registers (es.map fun e => ⟨e.home, put e.generator⟩) (newest.map put) := by
  constructor
  · exact List.pairwise_map.2 h.descending
  · intro home
    have hequal :=
      congrArg (List.map fun e : Registered => (⟨e.home, put e.generator⟩ : Registered))
      (h.equal_eq home)
    rw [List.map_map] at hequal
    rw [equal, List.filter_map, List.filter_map, List.map_map]
    simp only [Function.comp_def, hput] at hequal ⊢
    exact hequal

namespace Finder

/-- However a finder has been set up, it asks the generators that peeling asks, in the same order
and with the same identifier, and has the same answer. Watched generators show this call by call:
the events are the same as well. -/
theorem generated_eq_peel (changes : List Change) (name : String) :
    (setUp changes).generated name =
        peel (registered false changes).reverse name (stemOf name.toList) ∧
      ∀ watch, ((setUp changes).watched watch).generated name =
        peel ((registered false changes).reverse.map (watchedBy watch)) name
          (stemOf name.toList) := by
  have hregisters := registers_setUp changes
  constructor
  · exact generated_eq_of_registers hregisters name
  · intro watch
    exact generated_eq_of_registers (hregisters.map (watchedBy watch) fun _ => rfl) name

end Finder

end ShaderBuild
