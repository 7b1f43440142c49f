import ShaderBuild.Files.Memory
import ShaderBuild.Proofs.Peeling

/-!
What registering one more source of includes changes. A generator is asked only for the includes in
angle brackets of which it owns a directory, wherever it comes in the order of registration, and a
search path behind all others is asked only for what they have left open. Main statement:
`registration_is_local`.
-/

namespace ShaderBuild

namespace Finder

section Requests

variable {f f' : Finder} {files : Files} {name : String}

/-- A request in quotes asks the search paths only if there is nothing beside the requesting
file. -/
theorem relative_congr (dir : Path)
    (h : (beside files dir name).value = none → f'.searched files name = f.searched files name) :
    f'.relative files dir name = f.relative files dir name := Traced.orElse_congr h

/-- A request in angle brackets asks the search paths only if no generator has an answer. -/
theorem standard_congr (dir : Path) (hgenerated : f'.generated name = f.generated name)
    (h : (f.generated name).value = none → f'.searched files name = f.searched files name) :
    f'.standard files dir name = f.standard files dir name := by
  unfold standard
  rw [hgenerated]
  apply Traced.orElse_congr
  intro hnone
  rw [h hnone]

theorem searched_congr (h : f'.searchPaths = f.searchPaths) (files : Files) (name : String) :
    f'.searched files name = f.searched files name := by
  unfold searched
  rw [h]

/-! ## One more search path -/

theorem searched_addSearchPath (root : Path) (loader : Loader)
    (h : (f.searched files name).value.isSome) :
    (f.addSearchPath root loader).searched files name = f.searched files name :=
  Traced.firstSome_append_of_isSome h _

theorem relative_addSearchPath (root : Path) (loader : Loader) {dir : Path}
    (h : (f.relative files dir name).value.isSome) :
    (f.addSearchPath root loader).relative files dir name = f.relative files dir name := by
  apply relative_congr
  intro hbeside
  rw [relative, Traced.value_orElse, hbeside, Option.none_or] at h
  exact searched_addSearchPath root loader h

theorem standard_addSearchPath (root : Path) (loader : Loader) (dir : Path)
    (h : (f.generated name).value.isSome ∨ (f.searched files name).value.isSome) :
    (f.addSearchPath root loader).standard files dir name = f.standard files dir name := by
  apply standard_congr
  · rfl
  · intro hgenerated
    rcases h with h | h
    · simp [hgenerated] at h
    · exact searched_addSearchPath root loader h

end Requests

/-! ## One more generator -/

theorem searchPaths_addGenerators (f : Finder) (gs : List Generator) :
    (gs.foldl addGenerator f).searchPaths = f.searchPaths := by
  induction gs generalizing f with
  | nil => rfl
  | cons g gs ih =>
    rw [List.foldl_cons, ih]
    rfl

theorem searchPaths_builtins (f : Finder) : (f.apply .builtins).searchPaths = f.searchPaths := by
  cases hbuiltins : f.hasBuiltins with
  | true => simp [apply, ensureBuiltins, hbuiltins]
  | false => simp [apply, ensureBuiltins, hbuiltins, searchPaths_addGenerators]

/-- The search path that a call adds. -/
def Change.searchPath? : Change → Option SearchPath
  | .searchPath root loader => some ⟨root, loader⟩
  | .generator _ => none
  | .builtins => none

theorem searchPaths_foldl (f : Finder) (changes : List Change) :
    (changes.foldl apply f).searchPaths =
      f.searchPaths ++ changes.filterMap Change.searchPath? := by
  induction changes generalizing f with
  | nil => simp
  | cons change rest ih =>
    rw [List.foldl_cons, ih]
    cases change with
    | searchPath root loader => simp [apply, addSearchPath, Change.searchPath?]
    | generator g => rfl
    | builtins =>
      rw [searchPaths_builtins]
      rfl

/-- A generator has no part in the search paths. -/
theorem searchPaths_setUp_insert (before after : List Change) (g : Generator) :
    (setUp (before ++ .generator g :: after)).searchPaths =
      (setUp (before ++ after)).searchPaths := by
  rw [setUp, setUp, searchPaths_foldl, searchPaths_foldl, List.filterMap_append,
    List.filterMap_append, List.filterMap_cons]
  rfl

/-- A generator stands among the others where it was registered. -/
theorem exists_registered_insert (hasBuiltins : Bool) (before after : List Change) (g : Generator) :
    ∃ older newer, registered hasBuiltins (before ++ after) = older ++ newer ∧
      registered hasBuiltins (before ++ .generator g :: after) = older ++ g :: newer := by
  induction before generalizing hasBuiltins with
  | nil => exact ⟨[], registered hasBuiltins after, rfl, by simp [registered]⟩
  | cons change before ih =>
    cases change with
    | searchPath root loader => simpa [registered] using ih hasBuiltins
    | generator g' =>
      obtain ⟨older, newer, hwithout, hwith⟩ := ih hasBuiltins
      exact ⟨g' :: older, newer, by simp [registered, hwithout], by simp [registered, hwith]⟩
    | builtins =>
      obtain ⟨older, newer, hwithout, hwith⟩ := ih true
      cases hasBuiltins with
      | true => exact ⟨older, newer, by simp [registered, hwithout], by simp [registered, hwith]⟩
      | false =>
        exact ⟨Builtin.generators ++ older,
          newer, by simp [registered, hwithout], by simp [registered, hwith]⟩

/-- In another directory than its own, a generator is not asked. -/
theorem askAt_insert {g : Generator} {home : String} (h : standardHome g.home ≠ home)
    (newer older : List Generator) (name : String) :
    askAt (newer ++ g :: older) name home = askAt (newer ++ older) name home := by
  simp [askAt, h]

theorem peel_congr {newest newest' : List Generator} {name : String} {cs : List Char}
    (h : ∀ home ∈ (ancestors cs).map String.ofList, askAt newest' name home =
      askAt newest name home) :
    peel newest' name cs = peel newest name cs := by
  rw [peel_eq, peel_eq]
  exact Traced.firstSome_congr h

theorem generated_insert (before after : List Change) {g : Generator} {name : String}
    (h : standardHome g.home ∉ homesOf name) :
    (setUp (before ++ .generator g :: after)).generated name =
      (setUp (before ++ after)).generated name := by
  obtain ⟨older, newer, hwithout, hwith⟩ := exists_registered_insert false before after g
  rw [generated_eq_of_registers (registers_setUp _), generated_eq_of_registers (registers_setUp _),
    hwithout, hwith]
  apply peel_congr
  intro home hhome
  have hne : standardHome g.home ≠ home := by
    rintro rfl
    exact h hhome
  simpa using askAt_insert hne newer.reverse older.reverse name

/-! ## Main statement -/

/-- However a finder is set up, one more generator changes no request in quotes, no search and no
request in angle brackets of which it does not own a directory; and one more search path at the end
changes no request in quotes that was answered, and no request in angle brackets that a generator or
a search path answered. Answers and events are the same. -/
theorem registration_is_local (before after : List Change) (files : Files) (dir : Path)
    (name : String) :
    let f := setUp (before ++ after)
    (∀ g : Generator, let f' := setUp (before ++ .generator g :: after)
      f'.relative files dir name = f.relative files dir name ∧
        f'.searched files name = f.searched files name ∧
        (standardHome g.home ∉ homesOf name →
          f'.standard files dir name = f.standard files dir name)) ∧
    ∀ (root : Path) (loader : Loader), let f' := f.addSearchPath root loader
      ((f.relative files dir name).value.isSome →
        f'.relative files dir name = f.relative files dir name) ∧
          ((f.generated name).value.isSome ∨ (f.searched files name).value.isSome →
            f'.standard files dir name = f.standard files dir name) := by
  intro f
  constructor
  · intro g f'
    have hsearched : f'.searched files name = f.searched files name :=
      searched_congr (searchPaths_setUp_insert before after g) files name
    refine ⟨relative_congr dir fun _ => hsearched, hsearched, ?_⟩
    intro helsewhere
    exact standard_congr dir (generated_insert before after helsewhere) fun _ => hsearched
  · intro root loader f'
    constructor
    · intro hfound
      exact relative_addSearchPath root loader hfound
    · intro hanswered
      exact standard_addSearchPath root loader dir hanswered

/-! ## A directory in a directory -/

namespace Registration

/-- Makes an include of every identifier in a directory. -/
def making (home : String) : Generator := ⟨home, fun name => return some ⟨⟨name⟩, "// " ++ home⟩⟩

/-- Says nothing about the includes that another generator makes one directory further up. -/
def deeper : Generator := making "gen/deep/"

def earlier : List Change := [.searchPath ⟨"lib"⟩ .files, .generator (making "gen")]

def later : List Change := [.builtins, .searchPath ⟨"late"⟩ .files]

def sources : MemoryFiles :=
  .ofTexts [("src/gen/x.glsl", "beside"), ("late/gen/x.glsl", "late")]

theorem registration_is_local_deeper :
    let f := setUp (earlier ++ later)
    let f' := setUp (earlier ++ .generator deeper :: later)
    let files := sources.files
    standardHome deeper.home ∉ homesOf "gen/x.glsl" ∧ homesOf "gen/deep/x.glsl" =
      ["gen/deep", "gen"] ∧ (f.generated "gen/x.glsl").value.isSome ∧
        (f.relative files ⟨"src"⟩ "gen/x.glsl").value.isSome ∧
          f'.standard files ⟨"src"⟩ "gen/x.glsl" = f.standard files ⟨"src"⟩ "gen/x.glsl" ∧
      (f.addSearchPath ⟨"src"⟩ .files).standard files ⟨"src"⟩ "gen/x.glsl" =
        f.standard files ⟨"src"⟩ "gen/x.glsl" ∧
          (f.addSearchPath ⟨"src"⟩ .files).relative files ⟨"src"⟩ "gen/x.glsl" =
            f.relative files ⟨"src"⟩ "gen/x.glsl" := by
  intro f f' files
  have helsewhere : standardHome deeper.home ∉ homesOf "gen/x.glsl" := by decide +kernel
  have hhomes : homesOf "gen/deep/x.glsl" = ["gen/deep", "gen"] := by decide +kernel
  have hgenerated : (f.generated "gen/x.glsl").value.isSome := by decide +kernel
  have hbeside : (f.relative files ⟨"src"⟩ "gen/x.glsl").value.isSome := by decide +kernel
  obtain ⟨hgenerator, hsearchPath⟩ := registration_is_local earlier later files ⟨"src"⟩ "gen/x.glsl"
  obtain ⟨_, _, hstandard⟩ := hgenerator deeper
  obtain ⟨hrelative, hstandard'⟩ := hsearchPath ⟨"src"⟩ .files
  exact ⟨helsewhere, hhomes, hgenerated, hbeside, hstandard helsewhere,
    hstandard' (.inl hgenerated), hrelative hbeside⟩

end Registration

end Finder

end ShaderBuild
