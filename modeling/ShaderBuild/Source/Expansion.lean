import ShaderBuild.Ending
import ShaderBuild.Include.Dependency
import ShaderBuild.Source.Define

/-!
Expansion of the includes of a source text. The result is the text with every directive
replaced, and every include resolution in the order in which it was made.
-/

namespace ShaderBuild

inductive PreprocessError where
  | notFound (identifier : String) (file : Path) (line : Nat)
  /-- The include is a file that is being expanded already. -/
  | recursive (identifier : String) (file : Path) (line : Nat)
  | tooDeep (identifier : String) (file : Path) (line : Nat) (limit : Nat)
  | malformed (file : Path) (line : Nat)
  deriving DecidableEq, Repr

namespace PreprocessError

def place (file : Path) (line : Nat) : String := file.display ++ ":" ++ toString line ++ ": "

def message : PreprocessError → String
  | notFound identifier file line => place file line ++ "cannot find include '" ++ identifier ++ "'"
  | recursive identifier file line => place file line ++ "'" ++ identifier ++
    "' is recursively included"
  | tooDeep identifier file line limit =>
    place file line ++ "include depth limit of " ++ toString limit ++ " exceeded by '" ++
      identifier ++ "'"
  | malformed file line => place file line ++ "malformed #include directive"

end PreprocessError

/-- The outcome of expanding some lines. -/
structure Expansion where
  /-- The lines to copy, without their ends. -/
  lines : List (List Char)
  dependencies : List Dependency
  /-- The files that are not to be expanded again. -/
  once : List Path

namespace Expansion

def code (e : Expansion) : List Char := e.lines.flatMap (· ++ ['\n'])

/-- Lines put before the rest. -/
def prepend (lines : List (List Char)) (dependencies : List Dependency) (e : Expansion) :
    Expansion :=
  { e with lines := lines ++ e.lines, dependencies := dependencies ++ e.dependencies }

end Expansion

def Path.mem (p : Path) (ps : List Path) : Bool := ps.any p.same

/-- The files to keep from a second expansion once a file with the given text has been entered. -/
def onceAfter (path : Path) (text : List Char) (once : List Path) : List Path :=
  if hasPragmaOnce text then path :: once else once

/-- The file being expanded and the files around it, innermost first. -/
structure Frame where
  file : Path
  dir : Path
  stack : List Path

def Frame.enter (f : Frame) (path : Path) : Frame := ⟨path, path.parentDir, path :: f.stack⟩

/-- Expands the lines of a file from line `number` on. Included texts are expanded by `enter`, which
is not there once the depth limit is reached. -/
def expandLines (r : Resolver) (limit : Nat)
    (enter : Option
    (Frame → List (List Char) → List Path → Traced (Except PreprocessError Expansion)))
    (f : Frame) :
    (number : Nat) → List (List Char) → (once : List Path) →
      Traced (Except PreprocessError Expansion)
  | _, [], once => return .ok ⟨[], [], once⟩
  | number, line :: rest, once =>
    match IncludeLine.ofLine line with
    | .other => do
      if isPragmaOnce line then expandLines r limit enter f (number + 1) rest once
      else return (← expandLines r limit enter f (number + 1) rest once).map (·.prepend [line] [])
    | .malformed => return .error (.malformed f.file number)
    | .request kind identifier => do
      let name := String.ofList identifier
      match ← r.request kind f.dir name with
      | none => return .error (.notFound name f.file number)
      | some text =>
        let dependency := Dependency.record name f.dir kind (some text)
        if text.path.mem f.stack then return .error (.recursive name f.file number)
        else if text.path.mem once then
          return (← expandLines r limit enter f (number + 1) rest once).map
            (·.prepend [] [dependency])
        else match enter with
          | none => return .error (.tooDeep name f.file number limit)
          | some enter =>
            let body := text.contents.toList
            match ← enter (f.enter text.path) (Text.lines body) (onceAfter text.path body once) with
            | .error e => return .error e
            | .ok inner =>
              return (← expandLines r limit (some enter) f (number + 1) rest inner.once).map
                (·.prepend inner.lines (dependency :: inner.dependencies))

/-- Expands the lines of a file that may include others up to `room` levels deep. -/
def expand (r : Resolver) (limit : Nat) : (room : Nat) → Frame → List (List Char) → List Path →
    Traced (Except PreprocessError Expansion)
  | 0, f, lines, once => expandLines r limit none f 1 lines once
  | room + 1, f, lines, once => expandLines r limit (some (expand r limit room)) f 1 lines once

/-- A preprocessed source text. -/
structure Preprocessed where
  code : String
  dependencies : List Dependency
  deriving DecidableEq, Repr

def preprocessChannel : String := "kiln_include::preprocess"

/-- The default limit on the depth of includes. -/
def defaultDepth : Nat := 64

/-- Expands `source`, which was read from `path`, and adds the defines. It panics if the place for
them, counted in bytes, is inside a character. -/
def preprocess (r : Resolver) (limit : Nat) (defines : List Define) (source : String)
    (path : Path) :
    Traced (Ending PreprocessError Preprocessed) := do
  let main := r.resolved path
  let body := source.toList
  match ← expand r limit limit ⟨path, path.parentDir, [main]⟩ (Text.lines body)
    (onceAfter main body []) with
  | .error e => return .error e
  | .ok expansion =>
    match Define.inject? expansion.code defines with
    | none => return .panicked
    | some code =>
      Traced.log .debug preprocessChannel "preprocessed shader"
        [("source", path.display), ("dependencies", toString expansion.dependencies.length)]
      return .ok ⟨String.ofList code, expansion.dependencies⟩

end ShaderBuild
