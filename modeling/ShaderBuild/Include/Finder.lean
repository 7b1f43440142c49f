import ShaderBuild.Include.Builtin

/-!
Finding includes. A request in angle brackets asks the generators first, by peeling the
identifier, then the search paths in order, then the directory of the requesting file. A
request in quotes asks that directory first, then the search paths, and never a generator.
-/

namespace ShaderBuild

structure SearchPath where
  root : Path
  loader : Loader

structure Registered where
  /-- The generator's directory without a trailing slash. -/
  home : String
  generator : Generator

structure Finder where
  searchPaths : List SearchPath
  /-- In descending order of their directories; of equal ones the newest comes first. -/
  generators : List Registered
  hasBuiltins : Bool

/-- The number of elements from `low` on, below `high`, for which `p` holds, plus `low`, found by
halving. All of these elements must come before the others. -/
def partitionPoint {α : Type} (p : α → Bool) (xs : List α) (low high : Nat) : Nat :=
  if h : low < high then
    let middle := (low + high) / 2
    if (xs[middle]?.map p).getD false then partitionPoint p xs (middle + 1) high
    else partitionPoint p xs low middle
  else low
termination_by high - low

/-- Drops one trailing slash, except from the lone slash. -/
def standardHome (home : String) : String :=
  match home.toList.reverse with
  | '/' :: c :: rest => String.ofList (c :: rest).reverse
  | _ => home

/-- What comes before the last slash; nothing if there is none. -/
def parentText (cs : List Char) : List Char :=
  match Text.splitLast? '/' cs with
  | some (before, _) => before
  | none => []

/-- The identifier up to its last dot. Parameters after the extension are not directories. -/
def stemOf (name : List Char) : List Char :=
  match Text.splitLast? '.' name with
  | some (before, _) => before
  | none => name

theorem length_parentText_lt {cs : List Char} (h : parentText cs ≠ []) :
    (parentText cs).length < cs.length := by
  unfold parentText at h ⊢
  split at h
  · rename_i before after hs
    simp [Text.eq_of_splitLast? hs]
  · exact absurd rfl h

/-- The successive parents of a text, up to the first that is empty or starts with a slash. -/
def ancestors (cs : List Char) : List (List Char) :=
  let parent := parentText cs
  if _h : parent = [] ∨ parent.head? = some '/' then []
  else parent :: ancestors parent
termination_by cs.length
decreasing_by exact length_parentText_lt fun e => _h (.inl e)

/-- The directories whose generators may answer for an identifier, innermost first. -/
def homesOf (name : String) : List String := (ancestors (stemOf name.toList)).map String.ofList

namespace Finder

def finderChannel : String := "kiln_include::finder"

/-- A finder whose one search path is the empty path on the files themselves. -/
def new : Finder := ⟨[⟨Path.empty, .files⟩], [], false⟩

def addSearchPath (f : Finder) (root : Path) (loader : Loader) : Finder :=
  { f with searchPaths := f.searchPaths ++ [⟨root, loader⟩] }

def addSearchDir (f : Finder) (root : Path) : Finder := f.addSearchPath root .files

/-- Registers a generator before all others whose directory is equal or smaller. -/
def addGenerator (f : Finder) (g : Generator) : Finder :=
  let home := standardHome g.home
  let position :=
    partitionPoint (fun e => decide (home < e.home)) f.generators 0 f.generators.length
  { f with generators := f.generators.insertIdx position ⟨home, g⟩ }

/-- Registers the generators that come with the program, the first time it is called. -/
def ensureBuiltins (f : Finder) : Traced Finder := do
  if f.hasBuiltins then return f
  else
    Traced.log .debug finderChannel "builtin include generators registered"
      [("prefix", Text.quoted Builtin.home)]
    return { Builtin.generators.foldl addGenerator f with hasBuiltins := true }

/-! ## Look-up -/

def Registered.ask (name : String) (e : Registered) : Traced Found :=
  IncludeText.nonEmpty <$> e.generator.answer name

/-- Asks the generators of each directory in turn. Shorter directories stand later in the list, so
the search for each starts where the run of the one before ended. -/
def askFrom (generators : List Registered) (name : String) : (homes : List String) → (start : Nat) →
    Traced Found
  | [], _ => return none
  | home :: homes, start => do
    if start = generators.length then return none
    else
      let first :=
        partitionPoint (fun e => decide (home < e.home)) generators start generators.length
      let stop :=
        partitionPoint (fun e => decide (home ≤ e.home)) generators first generators.length
      match ← Traced.firstSome (Registered.ask name)
        ((generators.drop first).take (stop - first)) with
      | some text => return some text
      | none => askFrom generators name homes stop

/-- The first text that a generator makes for the identifier. -/
def generated (f : Finder) (name : String) : Traced Found :=
  askFrom f.generators name (homesOf name) 0

/-- The first text on the search paths. -/
def searched (f : Finder) (files : Files) (name : String) : Traced Found :=
  Traced.firstSome (fun s => IncludeText.nonEmpty <$> s.loader.load files s.root name) f.searchPaths

/-- The text in the directory of the requesting file. -/
def beside (files : Files) (dir : Path) (name : String) : Traced Found :=
  IncludeText.nonEmpty <$> files.load dir name

/-- Answers a request in angle brackets. -/
def standard (f : Finder) (files : Files) (dir : Path) (name : String) : Traced Found :=
  (f.generated name).orElse fun _ => (f.searched files name).orElse fun _ => beside files dir name

/-- Answers a request in quotes. -/
def relative (f : Finder) (files : Files) (dir : Path) (name : String) : Traced Found :=
  (beside files dir name).orElse fun _ => f.searched files name

/-- The include that every finder with builtins resolves once at the start. -/
def firstInclude : String := Builtin.home ++ "/utils/common.glsl"

def withBuiltins (files : Files) : Traced Finder := do
  let f ← new.ensureBuiltins
  let _ ← f.standard files Path.empty firstInclude
  return f

end Finder

end ShaderBuild
