import ShaderBuild.Path
import ShaderBuild.Shader.Stage

/-!
The command line: options and commands, read from left to right. The first thing that is
wrong, or the first request for help or the version, ends the reading.
-/

namespace ShaderBuild.CommandLine

/-- Options that are known somewhere on the command line. -/
inductive Flag where
  | quiet
  | verbose
  | config
  | help
  | version
  | stage
  | output
  | includeDir
  | define
  | noCache
  deriving DecidableEq, Repr

namespace Flag

def letter? : Flag → Option Char
  | quiet => some 'q'
  | verbose => some 'v'
  | config => none
  | help => some 'h'
  | version => some 'V'
  | stage => some 's'
  | output => some 'o'
  | includeDir => some 'I'
  | define => some 'D'
  | noCache => none

def word : Flag → String
  | quiet => "quiet"
  | verbose => "verbose"
  | config => "config"
  | help => "help"
  | version => "version"
  | stage => "stage"
  | output => "output"
  | includeDir => "include"
  | define => "define"
  | noCache => "no-cache"

def takesValue : Flag → Bool
  | config | stage | output | includeDir | define => true
  | quiet | verbose | help | version | noCache => false

def mayRepeat : Flag → Bool
  | includeDir | define => true
  | _ => false

/-- Whether a value suits the option. Paths must not be empty. -/
def accepts (value : String) : Flag → Bool
  | stage => (Stage.ofName value).toOption.isSome
  | output | includeDir => value ≠ ""
  | _ => true

end Flag

/-- The places on the command line where options may stand. -/
inductive Place where
  | top
  | compile
  | preprocess
  | cache
  | inspect
  | clear
  deriving DecidableEq, Repr

namespace Place

/-- The options of a place. Those of the whole program are known everywhere. -/
def flags : Place → List Flag
  | top => [.quiet, .verbose, .config, .help, .version]
  | compile => [.quiet, .verbose, .config, .help, .stage, .output, .includeDir, .define, .noCache]
  | preprocess => [.quiet, .verbose, .config, .help, .includeDir, .define]
  | cache | inspect | clear => [.quiet, .verbose, .config, .help]

def commands : Place → List (String × Place)
  | top => [("compile", compile), ("preprocess", preprocess), ("cache", cache)]
  | cache => [("inspect", inspect), ("clear", clear)]
  | compile | preprocess | inspect | clear => []

/-- How many operands there may be; nothing where there is no limit. -/
def maxOperands : Place → Option Nat
  | compile => none
  | preprocess | inspect | clear => some 1
  | top | cache => some 0

def minOperands : Place → Nat
  | compile | preprocess => 1
  | _ => 0

def ofLetter? (p : Place) (c : Char) : Option Flag := p.flags.find? fun f => f.letter? == some c

def ofWord? (p : Place) (w : List Char) : Option Flag := p.flags.find? fun f => f.word.toList == w

end Place

/-- Why reading the command line ended early. -/
inductive Stop where
  | help (p : Place)
  | version
  | misuse
  deriving DecidableEq, Repr

/-- The options and operands given in one place, in order. -/
structure Given where
  flags : List (Flag × String)
  operands : List String
  deriving Repr

namespace Given

def empty : Given := ⟨[], []⟩

def has (g : Given) (f : Flag) : Bool := g.flags.any fun x => x.1 == f

def values (g : Given) (f : Flag) : List String :=
  g.flags.filterMap fun x => if x.1 = f then some x.2 else none

def value? (g : Given) (f : Flag) : Option String := (g.values f).head?

/-- Adds an option, or does what it asks for at once. -/
def addFlag (g : Given) (p : Place) (f : Flag) (value : String) : Except Stop Given :=
  if f = .help then .error (.help p)
  else if f = .version then .error .version
  else if g.has f ∧ !f.mayRepeat then .error .misuse
  else if f.accepts value then .ok { g with flags := g.flags ++ [(f, value)] }
  else .error .misuse

def addOperand (g : Given) (p : Place) (operand : String) : Except Stop Given :=
  if operand = "" ∨ p.maxOperands.any (g.operands.length == ·) then .error .misuse
  else .ok { g with operands := g.operands ++ [operand] }

def addOperands (g : Given) (p : Place) (operands : List String) : Except Stop Given :=
  operands.foldlM (fun g operand => g.addOperand p operand) g

end Given

/-- What an argument with a dash in front says: options that are complete, and perhaps one whose
value is the next argument. -/
structure Dashed where
  given : Given
  pending : Option Flag

/-- Letters after one dash. What follows the letter of an option with a value is the value, with or
without an equals sign. -/
def addLetters (p : Place) (g : Given) : List Char → Except Stop Dashed
  | [] => .ok ⟨g, none⟩
  | c :: rest =>
    match p.ofLetter? c with
    | none => .error .misuse
    | some f =>
      if f.takesValue then
        match rest with
        | [] => .ok ⟨g, some f⟩
        | '=' :: value => (g.addFlag p f (String.ofList value)).map (⟨·, none⟩)
        | value => (g.addFlag p f (String.ofList value)).map (⟨·, none⟩)
      else match g.addFlag p f "" with
        | .ok g => addLetters p g rest
        | .error e => .error e

/-- A word after two dashes, perhaps with an equals sign and a value. -/
def addWord (p : Place) (g : Given) (cs : List Char) : Except Stop Dashed :=
  let name := cs.takeWhile (· != '=')
  let attached : Option (List Char) := match cs.dropWhile (· != '=') with
    | [] => none
    | _ :: value => some value
  match p.ofWord? name, attached with
  | none, _ => .error .misuse
  | some f, none =>
    if f.takesValue then .ok ⟨g, some f⟩ else (g.addFlag p f "").map (⟨·, none⟩)
  | some f, some value =>
    if f.takesValue then (g.addFlag p f (String.ofList value)).map (⟨·, none⟩) else .error .misuse

/-- How an argument looks. -/
inductive Shape where
  /-- Two dashes alone: all further arguments are operands. -/
  | separator
  | word (cs : List Char)
  | letters (cs : List Char)
  | plain
  deriving DecidableEq, Repr

/-- A dash alone is plain. -/
def Shape.of (argument : String) : Shape :=
  match argument.toList with
  | ['-', '-'] => separator
  | '-' :: '-' :: cs => word cs
  | '-' :: c :: cs => letters (c :: cs)
  | _ => plain

/-- Where one place ended: with the last argument, or at the name of a command of its own. -/
structure PlaceEnd where
  given : Given
  command : Option (Place × List String)

/-- The words after the help command, down from a place. -/
def helpFor (p : Place) : List String → Stop
  | [] => .help p
  | name :: rest =>
    match p.commands.lookup name with
    | some p => helpFor p rest
    | none => if name = "help" ∧ p.commands ≠ [] ∧ rest = [] then .help p else .misuse

/-- Reads the arguments of one place. -/
def readPlace (p : Place) (g : Given) : List String → Except Stop PlaceEnd
  | [] => .ok ⟨g, none⟩
  | argument :: rest =>
    let continueWith (r : Except Stop Dashed) : Except Stop PlaceEnd :=
      match r with
      | .error e => .error e
      | .ok ⟨g, none⟩ => readPlace p g rest
      | .ok ⟨g, some f⟩ =>
        match rest with
        | [] => .error .misuse
        | value :: rest =>
          if Shape.of value = .plain then
            match g.addFlag p f value with
            | .ok g => readPlace p g rest
            | .error e => .error e
          else .error .misuse
    match p.commands.lookup argument with
    | some command => .ok ⟨g, some (command, rest)⟩
    | none =>
      if argument = "help" ∧ p.commands ≠ [] then .error (helpFor p rest)
      else match Shape.of argument with
        | .separator => (g.addOperands p rest).map (⟨·, none⟩)
        | .word cs => continueWith (addWord p g cs)
        | .letters cs => continueWith (addLetters p g cs)
        | .plain =>
          match g.addOperand p argument with
          | .ok g => readPlace p g rest
          | .error e => .error e

/-! ## Requests -/

structure GlobalOptions where
  quiet : Bool
  verbose : Bool
  /-- A settings file, or a directory with one. -/
  config : Option String
  deriving DecidableEq, Repr

structure CompileCall where
  files : List Path
  stage : Option Stage
  output : Option Path
  includeDirs : List Path
  defines : List String
  useCache : Bool
  deriving DecidableEq, Repr

structure PreprocessCall where
  file : Path
  includeDirs : List Path
  defines : List String
  deriving DecidableEq, Repr

inductive Command where
  | compile (r : CompileCall)
  | preprocess (r : PreprocessCall)
  | inspect (path : Option Path)
  | clear (path : Option Path)
  deriving DecidableEq, Repr

structure Invocation where
  globals : GlobalOptions
  command : Command
  deriving DecidableEq, Repr

/-- The options for the whole program, from all places. The innermost settings file counts. -/
def GlobalOptions.of (places : List Given) : GlobalOptions where
  quiet := places.any (·.has .quiet)
  verbose := places.any (·.has .verbose)
  config := places.reverse.findSome? (·.value? .config)

/-- The command that the operands and options of the last place ask for. -/
def Command.of (p : Place) (g : Given) : Except Stop Command :=
  if g.operands.length < p.minOperands then .error .misuse
  else
    let paths (xs : List String) : List Path := xs.map fun (x : String) => ⟨x⟩
    let first := (paths g.operands).head?
    match p with
    | .top | .cache => .error .misuse
    | .compile => .ok (.compile {
        files := paths g.operands
        stage := (g.value? .stage).bind fun name => (Stage.ofName name).toOption
        output := (g.value? .output).map fun (x : String) => ⟨x⟩
        includeDirs := paths (g.values .includeDir)
        defines := g.values .define
        useCache := !g.has .noCache })
    | .preprocess => .ok (.preprocess {
        file := first.getD Path.empty
        includeDirs := paths (g.values .includeDir)
        defines := g.values .define })
    | .inspect => .ok (.inspect first)
    | .clear => .ok (.clear first)

/-- Reads a command line. Commands nest at most three deep. -/
def Invocation.read (arguments : List String) : Except Stop Invocation :=
  go 3 .top [] arguments
where
  go : (fuel : Nat) → Place → List Given → List String → Except Stop Invocation
    | 0, _, _, _ => .error .misuse
    | fuel + 1, p, places, arguments => do
      let last ← readPlace p .empty arguments
      let places := places ++ [last.given]
      match last.command with
      | some (p, rest) => go fuel p places rest
      | none => return ⟨GlobalOptions.of places, ← Command.of p last.given⟩

end ShaderBuild.CommandLine
