import ShaderBuild.Compile.Command
import ShaderBuild.Toolbox.Shell

/-!
The programs that are always at hand: a shell and the tool that puts out its input. They
let a project be built where no other program can be started.
-/

namespace ShaderBuild.Toolbox

/-- How much input is taken over from a program that does not read it. -/
def pipeCapacity : Nat := 65536

/-- The result of a program that has ended. Success does not count if input was refused. -/
def finish (result : ProgramResult) (unread : Bytes) : Except SystemError ProgramResult :=
  if result.status = .exited 0 ∧ pipeCapacity < unread.length then .error .brokenPipe
  else .ok result

def finishStep (s : Step) : Traced (Except SystemError ProgramResult) :=
  let status : ExitStatus := match s.flow with
    | .killed n name => .signaled n name
    | _ => .exited s.shell.status
  ⟨finish ⟨status, s.written .output, s.written .errors⟩ s.shell.input,
    s.shell.tree.changes.map .change⟩

def syntaxError (name : Bytes) (unread : Bytes) : Except SystemError ProgramResult :=
  finish ⟨.exited 2, [], name ++ Bytes.ofText ": 1: Syntax error\n"⟩ unread

/-- Runs the text of a script. -/
def runScript (disk : Disk) (script : String) (name : Bytes) (parameters : List Bytes)
    (input : Bytes) : Traced (Except SystemError ProgramResult) :=
  match Script.parse? script with
  | none => return syntaxError name input
  | some s => finishStep (Shell.run Shell.maxSteps s ⟨name, parameters, [], input, 0, .ofDisk disk⟩)

/-- The shell: its script is an argument, a file or the input. -/
def shell (disk : Disk) (args : List String) (input : Bytes) :
    Traced (Except SystemError ProgramResult) :=
  let bytes (xs : List String) : List Bytes := xs.map Bytes.ofText
  match args with
  | "-c" :: script :: name :: parameters =>
    runScript disk script (Bytes.ofText name) (bytes parameters) input
  | ["-c", script] => runScript disk script (Bytes.ofText "sh") [] input
  | ["-c"] =>
    return finish ⟨.exited 2, [], Bytes.ofText "sh: 0: -c requires an argument\n"⟩ input
  | file :: parameters =>
    match ((Tree.ofDisk disk).read ⟨file⟩).toOption.bind Bytes.text? with
    | some script => runScript disk script (Bytes.ofText file) (bytes parameters) input
    | none =>
      let message := "sh: 0: cannot open " ++ file ++ ": No such file\n"
      return finish ⟨.exited 2, [], Bytes.ofText message⟩ input
  | [] => runScript disk ((Bytes.text? input).getD "") (Bytes.ofText "sh") [] []

/-- Names under which a program can be started. -/
def startNames (name : String) : List String := [name, "/bin/" ++ name, "/usr/bin/" ++ name]

/-- The failure to start a program that is not at hand. -/
def cannotStart (disk : Disk) (program : String) : SystemError :=
  if program.toList.contains '/' then
    match disk.find true ⟨program⟩ with
    | .ok (.found _ _) => .permission
    | .ok (.free _ _) => .noEntry
    | .error e => e
  else .noEntry

/-- The programs at hand, over a disk that they may read and change. -/
def programs (disk : Disk) : Programs := fun program args input =>
  if (program :: args).any fun s => s.toList.contains '\x00' then
    return .error .zeroByteInCommand
  else if (startNames "cat").contains program then
    let r := cat (Tree.ofDisk disk).read (args.map Bytes.ofText) input
    return finish ⟨.exited r.status, r.output, r.errors⟩ r.unread
  else if (startNames "sh").contains program then shell disk args input
  else return .error (cannotStart disk program)

end ShaderBuild.Toolbox
