import ShaderBuild.Proofs.ByteOrder
import ShaderBuild.Proofs.Peeling

/-!
The order in which a finder keeps its generators. Main statement: `generators_stably_sorted`.
However generators were registered, they stand in descending order of their directories, and those
of one directory from the newest to the oldest. That leaves one order only.
-/

namespace ShaderBuild

/-! ## Directories -/

/-- How a generator's directory is kept: without one slash at its end, unless the slash is all of
it. -/
inductive KeptAs : (given kept : String) → Prop
  | shortened {home : String} (ne : home ≠ "") : KeptAs (home ++ "/") home
  | lone : KeptAs "/" "/"
  | plain {home : String} (last : home.toList.getLast? ≠ some '/') : KeptAs home home

theorem standardHome_append_slash {home : String} (h : home ≠ "") :
    standardHome (home ++ "/") = home := by
  obtain ⟨c, rest, hreverse⟩ : ∃ c rest, home.toList.reverse = c :: rest := by
    apply List.exists_cons_of_ne_nil
    rw [ne_eq, List.reverse_eq_nil_iff]
    exact fun hnil => h (String.toList_inj.1 hnil)
  have htext : (home ++ "/").toList.reverse = '/' :: c :: rest := by
    simp [String.toList_append, hreverse]
  simp only [standardHome, htext]
  rw [← hreverse, List.reverse_reverse, String.ofList_toList]

theorem keptAs_iff {home kept : String} : KeptAs home kept ↔ kept = standardHome home := by
  constructor
  · rintro (hne | _ | hlast)
    · exact (standardHome_append_slash hne).symm
    · rfl
    · exact (standardHome_of_getLast? hlast).symm
  · rintro rfl
    by_cases hlast : home.toList.getLast? = some '/'
    · obtain ⟨front, hfront⟩ := List.getLast?_eq_some_iff.1 hlast
      obtain rfl : home = String.ofList front ++ "/" := by
        rw [← String.toList_inj, hfront, String.toList_append, String.toList_ofList]
        rfl
      by_cases hempty : String.ofList front = ""
      · rw [hempty]
        exact .lone
      · rw [standardHome_append_slash hempty]
        exact .shortened hempty
    · rw [standardHome_of_getLast? hlast]
      exact .plain hlast

/-! ## One order only -/

namespace Descending

/-- The first of them has the largest directory. -/
theorem head_le {e f : Registered} {fs : List Registered} (h : Descending (f :: fs))
    (he : e ∈ f :: fs) :
    e.home ≤ f.home := by
  rcases List.mem_cons.1 he with rfl | he
  · exact le_refl _
  · exact (List.pairwise_cons.1 h).1 e he

theorem mem_equal_head (e : Registered) (es : List Registered) : e ∈ equal e.home (e :: es) := by
  simp [equal]

/-- Lists in descending order are the same if they agree on every directory. -/
theorem eq_of_equal {es fs : List Registered} (hes : Descending es) (hfs : Descending fs)
    (h : ∀ home, equal home es = equal home fs) : es = fs := by
  induction es generalizing fs with
  | nil =>
    cases fs with
    | nil => rfl
    | cons f fs =>
      have hmem := mem_equal_head f fs
      rw [← h f.home] at hmem
      cases hmem
  | cons e es ih =>
    cases fs with
    | nil =>
      have hmem := mem_equal_head e es
      rw [h e.home] at hmem
      cases hmem
    | cons f fs =>
      have he : e ∈ f :: fs := List.mem_of_mem_filter (h e.home ▸ mem_equal_head e es)
      have hf : f ∈ e :: es := List.mem_of_mem_filter ((h f.home).symm ▸ mem_equal_head f fs)
      have hhome : e.home = f.home := le_antisymm (hfs.head_le he) (hes.head_le hf)
      have hheads := h f.home
      rw [equal_cons, equal_cons, if_pos hhome, if_pos rfl] at hheads
      obtain ⟨rfl, -⟩ := List.cons.inj hheads
      refine congrArg _ (ih (List.pairwise_cons.1 hes).2 (List.pairwise_cons.1 hfs).2 fun home =>
        ?_)
      have htails := h home
      rw [equal_cons, equal_cons] at htails
      split at htails
      · exact (List.cons.inj htails).2
      · exact htails

theorem iff_bytes {es : List Registered} :
    Descending es ↔ es.Pairwise fun a b => Bytes.ofText b.home ≤ Bytes.ofText a.home := by
  have hle : ∀ a b : Registered, b.home ≤ a.home ↔ Bytes.ofText b.home ≤ Bytes.ofText a.home := by
    intro a b
    rw [← not_lt, ← List.not_lt, Bytes.ofText_lt_ofText_iff]
  simp only [Descending, hle]

end Descending

/-- The generators of a directory, out of some that were registered one after the other, the last of
them first. -/
def newestOf (given : List Generator) (home : String) : List Generator :=
  (given.filter fun g => standardHome g.home = home).reverse

/-- Generators that were registered one after the other, in a stable descending order. -/
structure StablySorted (given : List Generator) (es : List Registered) : Prop where
  perm : (es.map Registered.generator).Perm given
  kept : ∀ e ∈ es, KeptAs e.generator.home e.home
  descending : es.Pairwise fun a b => Bytes.ofText b.home ≤ Bytes.ofText a.home
  newest_first : ∀ home, (es.filter fun e => e.home = home).map Registered.generator =
    newestOf given home

/-- Of one directory, entries differ in their generators only. -/
theorem map_generator_equal (home : String) (es : List Registered) :
    ((equal home es).map Registered.generator).map (⟨home, ·⟩) = equal home es := by
  rw [List.map_map]
  conv_rhs => rw [← List.map_id (equal home es)]
  apply List.map_congr_left
  intro e he
  obtain rfl := home_eq_of_mem_equal he
  rfl

theorem StablySorted.unique {given : List Generator} {es fs : List Registered}
    (hes : StablySorted given es) (hfs : StablySorted given fs) : es = fs := by
  apply (Descending.iff_bytes.2 hes.descending).eq_of_equal (Descending.iff_bytes.2 hfs.descending)
  intro home
  have hsame : (equal home es).map Registered.generator =
      (equal home fs).map Registered.generator :=
    (hes.newest_first home).trans (hfs.newest_first home).symm
  rw [← map_generator_equal, hsame, map_generator_equal]

namespace Registers

variable {es : List Registered} {newest : List Generator}

theorem generators_equal (h : Registers es newest) (home : String) :
    (equal home es).map Registered.generator = newest.filter fun g =>
      standardHome g.home = home := by
  rw [h.equal_eq, List.map_map]
  exact List.map_id _

/-- Every generator is kept under its own directory. -/
theorem home_eq (h : Registers es newest) {e : Registered} (he : e ∈ es) :
    e.home = standardHome e.generator.home := by
  have hmem : e ∈ equal e.home es := List.mem_filter.2 ⟨he, by simp⟩
  rw [h.equal_eq] at hmem
  obtain ⟨g, hg, heq⟩ := List.mem_map.1 hmem
  have hhome : standardHome g.home = e.home := of_decide_eq_true (List.mem_filter.1 hg).2
  rw [← hhome, ← heq]

theorem filter_generators (h : Registers es newest) (home : String) :
    (es.map Registered.generator).filter (fun g => standardHome g.home = home) =
      newest.filter fun g => standardHome g.home = home := by
  have hequal : es.filter (fun e => standardHome e.generator.home = home) = equal home es :=
    List.filter_congr fun e he => by rw [h.home_eq he]
  rw [← h.generators_equal, ← hequal, List.filter_map]
  rfl

/-- There are as many of each generator in the list as in its directory. -/
theorem perm (h : Registers es newest) : (es.map Registered.generator).Perm newest := by
  classical
  refine List.perm_iff_count.2 fun g => ?_
  let own (g' : Generator) : Bool := standardHome g'.home = standardHome g.home
  have hown : own g = true := decide_eq_true rfl
  have hsame : (es.map Registered.generator).filter own = newest.filter own := h.filter_generators _
  rw [← List.count_filter hown, hsame, List.count_filter hown]

theorem stablySorted (h : Registers es newest) : StablySorted newest.reverse es where
  perm := h.perm.trans newest.reverse_perm.symm
  kept _ he := keptAs_iff.2 (h.home_eq he)
  descending := Descending.iff_bytes.1 h.descending
  newest_first home := by
    rw [newestOf, List.filter_reverse, List.reverse_reverse]
    exact h.generators_equal home

end Registers

/-! ## Registration -/

namespace Finder

def Change.isBuiltins : Change → Bool
  | .searchPath _ _ => false
  | .generator _ => false
  | .builtins => true

/-- The generator that a call is given. -/
def Change.generator? : Change → Option Generator
  | .searchPath _ _ => none
  | .generator g => some g
  | .builtins => none

/-- The generators that calls register, in order: those that they are given, and those that come
with the program where these are called for first, and only there. -/
def registrations (changes : List Change) : List Generator :=
  (changes.takeWhile fun c => !c.isBuiltins).filterMap Change.generator? ++
    (if changes.any Change.isBuiltins then Builtin.generators else []) ++
    (changes.dropWhile fun c => !c.isBuiltins).filterMap Change.generator?

theorem registered_true (changes : List Change) :
    registered true changes = changes.filterMap Change.generator? := by
  induction changes with
  | nil => rfl
  | cons change rest ih =>
    cases change <;> simp [registered, List.filterMap_cons, Change.generator?, ih]

theorem registered_eq (changes : List Change) :
    registered false changes = registrations changes := by
  induction changes with
  | nil => rfl
  | cons change rest ih =>
    cases change with
    | searchPath root loader =>
      simpa [registered, registrations, List.filterMap_cons, Change.isBuiltins,
        Change.generator?] using ih
    | generator g =>
      simpa [registered, registrations, List.filterMap_cons, Change.isBuiltins,
        Change.generator?] using ih
    | builtins =>
      simp [registered, registrations, List.filterMap_cons, Change.isBuiltins, Change.generator?,
        registered_true]

/-- However a finder was set up, it keeps the generators that were registered in a stable descending
order, and no other list is one. -/
theorem generators_stably_sorted (changes : List Change) (es : List Registered) :
    StablySorted (registrations changes) es ↔ es = (setUp changes).generators := by
  have hsetUp := (registers_setUp changes).stablySorted
  rw [List.reverse_reverse, registered_eq] at hsetUp
  constructor
  · intro hes
    exact hes.unique hsetUp
  · rintro rfl
    exact hsetUp

end Finder

end ShaderBuild
