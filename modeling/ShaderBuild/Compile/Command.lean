import ShaderBuild.Compile.Driver
import ShaderBuild.Text.Quoted
import ShaderBuild.Text.Lossy

/-!
External compilers: a program with argument templates, which reads the preprocessed text
and writes the compiled shader.
-/

namespace ShaderBuild

namespace Text

/-- Replaces the occurrences of `word` from left to right. The word must not be empty. -/
def replaceAll (word new : List Char) : (skip : Nat) → List Char → List Char
  | _, [] => []
  | 0, c :: cs =>
    if word.isPrefixOf (c :: cs) then new ++ replaceAll word new (word.length - 1) cs
    else c :: replaceAll word new 0 cs
  | skip + 1, _ :: cs => replaceAll word new skip cs

end Text

/-- How an external compiler is run. -/
structure CompilerCommand where
  program : String
  /-- Templates with places for the stage, the target and the identifier. -/
  args : List String
  /-- Added when debug information is asked for. -/
  debugArgs : List String
  /-- Added when optimization is asked for. -/
  optimizeArgs : List String
  deriving DecidableEq, Repr

namespace CompilerCommand

def stageMark : List Char := "\x7bstage\x7d".toList
def targetMark : List Char := "\x7btarget\x7d".toList
def identifierMark : List Char := "\x7bidentifier\x7d".toList

/-- Fills in a template: first the stage, then the target, then the identifier. -/
def fill (template : String) (options : CompileOptions) (identifier : String) : String :=
  let put (mark : List Char) (value : String) (cs : List Char) : List Char :=
    Text.replaceAll mark value.toList 0 cs
  String.ofList <| put identifierMark identifier <| put targetMark options.target <|
    put stageMark options.stage.shortName template.toList

/-- The arguments for a request. -/
def arguments (c : CompilerCommand) (options : CompileOptions) (identifier : String) :
    List String :=
  c.args.map (fill · options identifier) ++
    (if options.debugInfo then c.debugArgs else []) ++
    (if options.optimize then c.optimizeArgs else [])

end CompilerCommand

/-- What a finished program gives back. -/
structure ProgramResult where
  status : ExitStatus
  output : Bytes
  errors : Bytes
  deriving DecidableEq, Repr

/-- The programs that can be run, from their name, arguments and input. What they do to the disk is
among the events. -/
abbrev Programs :=
  (program : String) → (args : List String) → (input : Bytes) →
    Traced (Except SystemError ProgramResult)

namespace CompilerCommand

def channel : String := "kiln_compiler::compiler"

def run (c : CompilerCommand) (programs : Programs) (request : CompileRequest) :
    Traced (Except CompileError Bytes) := do
  let args := c.arguments request.options request.identifier
  match ← programs c.program args (Bytes.ofText request.source) with
  | .error e => return .error (.spawn c.program e)
  | .ok result =>
    if result.status ≠ .exited 0 then
      let diagnostics := String.ofList (Text.trimEnd (Text.lossy result.errors).toList)
      return .error (.failed request.identifier result.status diagnostics)
    else if result.output = [] then return .error (.emptyOutput request.identifier)
    else
      Traced.log .debug channel "external compiler finished"
        [("program", c.program), ("identifier", Text.quoted request.identifier),
          ("bytes", toString result.output.length)]
      return .ok result.output

def backend (c : CompilerCommand) (programs : Programs) (contentType : ContentType) : Backend :=
  ⟨contentType, c.run programs⟩

end CompilerCommand

end ShaderBuild
