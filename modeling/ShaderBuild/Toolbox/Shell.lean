import ShaderBuild.Toolbox.Arithmetic
import ShaderBuild.Toolbox.Cat
import ShaderBuild.Toolbox.LineEdit
import ShaderBuild.Toolbox.Script

/-!
Running shell scripts. What a script puts out is a list of chunks in the order of
writing, each on a stream.
-/

namespace ShaderBuild.Toolbox

/-- Where a chunk goes. -/
inductive Stream where
  | output
  | errors
  | nowhere
  deriving DecidableEq, Repr

abbrev Chunk := Stream × Bytes

/-- What happens after a command. -/
inductive Flow where
  | next
  | exited
  | killed (signal : Nat) (name : String)
  deriving DecidableEq, Repr

structure Shell where
  /-- The name of the script. -/
  name : Bytes
  parameters : List Bytes
  bindings : List (String × Bytes)
  input : Bytes
  status : Nat
  tree : Tree
  deriving Repr

structure Step where
  shell : Shell
  chunks : List Chunk
  flow : Flow

namespace Step

def next (shell : Shell) (status : Nat) (chunks : List Chunk) : Step :=
  ⟨{ shell with status }, chunks, .next⟩

/-- Goes on from a step unless it ended the script. -/
def andThen (s : Step) (f : Shell → Step) : Step :=
  match s.flow with
  | .next =>
    let t := f s.shell
    { t with chunks := s.chunks ++ t.chunks }
  | _ => s

/-- The status as a process that started the script sees it. -/
def exitStatus (s : Step) : Nat :=
  match s.flow with
  | .killed signal _ => 128 + signal
  | _ => s.shell.status

/-- What was written to a stream. -/
def written (s : Step) (stream : Stream) : Bytes :=
  (s.chunks.filter (·.1 = stream)).flatMap Prod.snd

end Step

namespace Shell

/-- The number by which a script knows its own process. -/
def processId : Nat := 4242

def dropNewlines (b : Bytes) : Bytes := (b.reverse.dropWhile (· == newlineByte)).reverse

/-- The fields of a text at blanks, whether it starts with one, and whether it ends with one. -/
def fields (b : Bytes) : Bool × List Bytes × Bool :=
  let isBlank (x : UInt8) : Bool := x == 32 || x == 9 || x == 10
  let words := b.foldr (fun x words =>
    if isBlank x then [] :: words
    else match words with
      | [] => [[x]]
      | w :: rest => (x :: w) :: rest) [[]]
  ((b.head?.map isBlank).getD false, words.filter (· ≠ []), (b.getLast?.map isBlank).getD false)

/-- Fields of a word so far: those that are complete and the one under way. -/
structure Fields where
  complete : List Bytes
  current : Option Bytes

namespace Fields

def none : Fields := ⟨[], .none⟩

def append (f : Fields) (b : Bytes) : Fields := { f with current := some (f.current.getD [] ++ b) }

def close (f : Fields) : Fields := ⟨f.complete ++ f.current.toList, .none⟩

def all (f : Fields) : List Bytes := f.close.complete

/-- Adds a text that is split at blanks. -/
def appendSplit (f : Fields) (b : Bytes) : Fields :=
  let (before, words, after) := fields b
  match words with
  | [] => if before then f.close else f
  | w :: rest =>
    let f := (if before then f.close else f).append w
    let f := rest.foldl (fun f w => f.close.append w) f
    if after then f.close else f

/-- Adds texts that are fields of their own. The first joins the field under way. -/
def appendEach (f : Fields) (bs : List Bytes) : Fields :=
  match bs with
  | [] => f
  | b :: rest => rest.foldl (fun f b => f.close.append b) (f.append b)

end Fields

/-- The value of a parameter, with a word for one that is unset or empty. -/
def value (s : Shell) (name : String) : Bytes :=
  let cs := name.toList
  let plain := cs.takeWhile fun c => Script.isNameChar c || "@*#?$!".toList.contains c
  let found : Bytes := match String.ofList plain with
    | "#" => ofNat s.parameters.length
    | "?" => ofNat s.status
    | "$" => ofNat processId
    | "*" => joinWords s.parameters
    | "@" => joinWords s.parameters
    | "0" => s.name
    | n =>
      match n.toNat? with
      | some i => s.parameters.getD (i - 1) []
      | none => (s.bindings.lookup n).getD []
  match cs.drop plain.length with
  | ':' :: '-' :: word => if found = [] then Bytes.ofText (String.ofList word) else found
  | '-' :: word => if found = [] then Bytes.ofText (String.ofList word) else found
  | _ =>
    match cs with
    | '#' :: c :: rest =>
      let n := String.ofList (c :: rest)
      ofNat
        ((s.bindings.lookup n).getD ((n.toNat?.bind fun i => s.parameters[i - 1]?).getD [])).length
    | _ => found

/-- The value of an arithmetic expression; zero if there is none. -/
def calculate (s : Shell) (expression : List Char) : Bytes :=
  let number (name : String) : Int := ((number? (s.value name)).getD 0 : Nat)
  Bytes.ofText (toString ((Arithmetic.value? number expression).getD 0))

def assign (s : Shell) (name : String) (b : Bytes) : Shell :=
  { s with bindings := (name, b) :: s.bindings.filter (·.1 ≠ name) }

/-- Where the two streams of a command lead after its redirections. -/
def leads (redirections : List Redirection) : Stream × Stream :=
  redirections.foldl (fun (out, err) r =>
    let led (n : Nat) : Stream := if n = 1 then out else if n = 2 then err else .nowhere
    match r with
    | .same 1 target => (led target, err)
    | .same 2 target => (out, led target)
    | .discard 1 => (.nowhere, err)
    | .discard 2 => (out, .nowhere)
    | _ => (out, err)) (.output, .errors)

def redirect (redirections : List Redirection) (chunks : List Chunk) : List Chunk :=
  let (out, err) := leads redirections
  chunks.filterMap fun (stream, b) =>
    let target := match stream with
      | .output => out
      | .errors => err
      | .nowhere => .nowhere
    if target = .nowhere then none else some (target, b)

def signals : List (Nat × String) :=
  [(1, "HUP"), (2, "INT"), (3, "QUIT"), (4, "ILL"), (5, "TRAP"), (6, "ABRT"),
    (7, "BUS"), (8, "FPE"), (9, "KILL"), (10, "USR1"), (11, "SEGV"), (12, "USR2"), (13, "PIPE"),
      (14, "ALRM"), (15, "TERM")]

/-- The signal that the arguments of the kill command name. -/
def signalOf (args : List Bytes) : Option (Nat × String) :=
  let named (b : Bytes) : Option (Nat × String) :=
    match number? b with
    | some n => signals.find? (·.1 == n)
    | none => signals.find? fun s => Bytes.ofText s.2 == b || Bytes.ofText ("SIG" ++ s.2) == b
  match args with
  | [_] => some (15, "TERM")
  | [a, b, _] => if a = Bytes.ofText "-s" then named b else none
  | [a, _] => named (a.drop 1)
  | _ => none

/-- Whether a condition on texts and numbers holds; nothing for one that is not known. -/
def holds? (args : List Bytes) : Option Bool :=
  let compare (op : Nat → Nat → Bool) (a b : Bytes) : Option Bool := do
    return op (← number? a) (← number? b)
  match args with
  | [] => some false
  | [a] => some (a ≠ [])
  | [op, a] =>
    if op = Bytes.ofText "-n" then some (a ≠ [])
    else if op = Bytes.ofText "-z" then some (a = [])
    else if op = Bytes.ofText "!" then some (a = [])
    else none
  | [a, op, b] =>
    if op = Bytes.ofText "=" then some (a = b)
    else if op = Bytes.ofText "!=" then some (a ≠ b)
    else if op = Bytes.ofText "-eq" then compare (· == ·) a b
    else if op = Bytes.ofText "-ne" then compare (· != ·) a b
    else if op = Bytes.ofText "-lt" then compare (fun a b => a < b) a b
    else if op = Bytes.ofText "-le" then compare (fun a b => a ≤ b) a b
    else if op = Bytes.ofText "-gt" then compare (fun a b => a > b) a b
    else if op = Bytes.ofText "-ge" then compare (fun a b => a ≥ b) a b
    else none
  | _ => none

def runTool (s : Shell) (tool : Tool) (args : List Bytes) : Step :=
  let r := tool args s.input
  .next { s with input := r.unread } r.status [(.output, r.output), (.errors, r.errors)]

/-- Changes a file tree at some paths. Each change that cannot be made is reported. -/
def makeAll (s : Shell) (complaint : String) : List (Path × DiskChange) → Step
  | [] => .next s 0 []
  | (p, change) :: rest =>
    match s.tree.change change with
    | .ok tree => makeAll { s with tree } complaint rest
    | .error e =>
      let message := complaint ++ " '" ++ p.display ++ "': " ++ reason e ++ "\n"
      let t := makeAll s complaint rest
      .next t.shell 1 ((.errors, Bytes.ofText message) :: t.chunks)

def makeDirectories (s : Shell) (args : List Bytes) : Step :=
  if args = [] ∨ args.any (·.head? = some (byte '-')) then
    .next s 1 [(.errors, Bytes.ofText "mkdir: unsupported operand\n")]
  else s.makeAll "mkdir: cannot create directory" (args.map fun a => (⟨a⟩, .makeDirectory ⟨a⟩))

/-- Makes a link by a name, or in a directory of that name. -/
def makeLink (s : Shell) (args : List Bytes) : Step :=
  match args with
  | [option, target, name] =>
    if option = Bytes.ofText "-s" then
      let inside : Path := Path.join ⟨name⟩ ⟨(Path.fileName? ⟨target⟩).getD target⟩
      let place : Path := if s.tree.disk.isDirectory ⟨name⟩ then inside else ⟨name⟩
      s.makeAll "ln: failed to create symbolic link" [(place, .makeLink place ⟨target⟩)]
    else .next s 1 [(.errors, Bytes.ofText "ln: unsupported operand\n")]
  | _ => .next s 1 [(.errors, Bytes.ofText "ln: unsupported operand\n")]

def complain (s : Shell) (status : Nat) (message : String) : Step :=
  .next s status [(.errors, s.name ++ Bytes.ofText (": 1: " ++ message ++ "\n"))]

/-- Takes one line of the input into variables. -/
def readLine (s : Shell) (names : List String) : Step :=
  match linesOf s.input with
  | [] => .next s 1 []
  | line :: rest =>
    let complete := line.getLast? = some newlineByte
    let words := (fields line).2.1
    let values := names.zipIdx.map fun (name, i) =>
      (name, if i + 1 = names.length then joinWords (words.drop i) else words.getD i [])
    let s := values.foldl (fun s (name, b) => s.assign name b) { s with input := rest.flatten }
    .next s (if complete then 0 else 1) []

/-- The script that a shell is started with inside a script, and the shell for it. -/
def nested? (s : Shell) (name : Bytes) (args : List Bytes) : Option (Script × Shell) :=
  match args with
  | option :: text :: rest =>
    if name = Bytes.ofText "sh" ∧ option = Bytes.ofText "-c" then do
      let script ← Script.parse? ((Bytes.text? text).getD "")
      some (script, ⟨rest.headD name, rest.tail, [], s.input, 0, s.tree⟩)
    else none
  | _ => none

/-- Runs a command that has a name. -/
def runNamed (s : Shell) (name : Bytes) (args : List Bytes) : Step :=
  let text (b : Bytes) : String := (Bytes.text? b).getD ""
  let condition (args : List Bytes) : Step :=
    match holds? args with
    | some b => .next s (if b then 0 else 1) []
    | none => s.complain 2 (text name ++ ": unexpected operator")
  match text name with
  | ":" | "true" | "sleep" | "set" | "export" | "trap" | "wait" => .next s 0 []
  | "false" => .next s 1 []
  | "exit" =>
    match args with
    | [] => ⟨s, [], .exited⟩
    | a :: _ =>
      match number? a with
      | some n => ⟨{ s with status := n % 256 }, [], .exited⟩
      | none =>
        let t := s.complain 2 ("exit: Illegal number: " ++ text a)
        { t with flow := .exited }
  | "shift" =>
    let n := ((args.head?).bind number?).getD 1
    if n ≤ s.parameters.length then .next { s with parameters := s.parameters.drop n } 0 []
    else { s.complain 2 "shift: can't shift that many" with flow := .exited }
  | "kill" =>
    match signalOf args with
    | some (n, signal) => ⟨s, [], .killed n ("SIG" ++ signal)⟩
    | none => s.complain 2 "kill: Usage"
  | "test" => condition args
  | "[" =>
    if args.getLast? = some (Bytes.ofText "]") then condition args.dropLast
    else s.complain 2 "[: missing ]"
  | "read" => s.readLine ((args.filter fun a => a ≠ Bytes.ofText "-r").map text)
  | "echo" => s.runTool echo args
  | "printf" => s.runTool printf args
  | "cat" => s.runTool (cat s.tree.read) args
  | "wc" => s.runTool count args
  | "head" => s.runTool head args
  | "tail" => s.runTool tail args
  | "tr" => s.runTool translate args
  | "mkdir" => s.makeDirectories args
  | "ln" => s.makeLink args
  | "sed" => s.runTool LineEdit.edit args
  | "grep" => s.runTool LineEdit.search args
  | other => s.complain 127 (other ++ ": not found")

/-- The input after the redirections of a command, or the file that cannot be read. -/
def inputAfter (s : Shell) (redirections : List Redirection) :
    Except String (Option Bytes) :=
  redirections.foldlM (fun found r =>
    match r with
    | .input path =>
      if path = "/dev/stdin" then .ok (some s.input)
      else match s.tree.read ⟨path⟩ with
        | .ok b => .ok (some b)
        | .error _ => .error path
    | _ => .ok found) none

/-- Runs something under redirections. -/
def underRedirections (s : Shell) (redirections : List Redirection)
    (f : Shell → Step) : Step :=
  match s.inputAfter redirections with
  | .error path => s.complain 2 ("cannot open " ++ path ++ ": No such file")
  | .ok input =>
    let t := f { s with input := input.getD s.input }
    let shell := if input.isSome then { t.shell with input := s.input } else t.shell
    { t with shell, chunks := redirect redirections t.chunks }

mutual

/-- The fields that a word stands for. Scripts inside it may put out error messages. -/
def expand : (fuel : Nat) → Shell → Word → Fields →
    Shell × List Chunk × Fields
  | 0, s, _, f => (s, [], f)
  | _, s, [], f => (s, [], f)
  | fuel + 1, s, part :: rest, f =>
    match part with
    | .text b => expand fuel s rest (f.append b)
    | .parameter name quoted =>
      let f := if quoted then
          if name = "@" then f.appendEach s.parameters else f.append (s.value name)
        else if name = "@" ∨ name = "*" then
          s.parameters.foldl (fun f b => f.appendSplit (b ++ [32])) f
        else f.appendSplit (s.value name)
      expand fuel s rest f
    | .arithmetic e => expand fuel s rest (f.append (s.calculate e))
    | .substitution script quoted =>
      let t := run fuel script s
      let b := dropNewlines (t.written .output)
      let s := { s with
        input := t.shell.input, status := t.shell.status, tree := t.shell.tree }
      let (s, chunks, f) := expand fuel s rest (if quoted then f.append b else f.appendSplit b)
      (s, t.chunks.filter (·.1 = .errors) ++ chunks, f)

def expandAll : (fuel : Nat) → Shell → List Word →
    Shell × List Chunk × List Bytes
  | 0, s, _ => (s, [], [])
  | _, s, [] => (s, [], [])
  | fuel + 1, s, w :: rest =>
    let (s, chunks, f) := expand fuel s w .none
    let (s, more, words) := expandAll fuel s rest
    (s, chunks ++ more, f.all ++ words)

/-- Gives variables their values. -/
def assignAll : (fuel : Nat) → Shell → List (String × Word) →
    Shell × List Chunk
  | 0, s, _ => (s, [])
  | _, s, [] => (s, [])
  | fuel + 1, s, (name, w) :: rest =>
    let (s, chunks, f) := expand fuel s (w.map Part.joined) .none
    let (s, more) := assignAll fuel (s.assign name (joinWords f.all)) rest
    (s, chunks ++ more)

/-- Runs a script. -/
def run : (fuel : Nat) → Script → Shell → Step
  | 0, _, s => ⟨{ s with status := 2 }, [], .exited⟩
  | fuel + 1, script, s =>
    match script with
    | .nothing => .next s s.status []
    | .simple assignments words redirections =>
      let (s, chunks, fields) := expandAll fuel s words
      match fields with
      | [] =>
        let (s, more) := assignAll fuel { s with status := 0 } assignments
        .next s s.status (chunks ++ more)
      | name :: args =>
        let (inner, more) := assignAll fuel s assignments
        let t := underRedirections inner redirections fun s =>
          if name = Bytes.ofText "eval" then
            run fuel
              ((Script.parse? (((joinWords args) |> Bytes.text?).getD "")).getD .nothing) s
          else match s.nested? name args with
            | some (script, inner) =>
              let t := run fuel script inner
              .next { s with input := t.shell.input, tree := t.shell.tree } t.exitStatus t.chunks
            | none =>
              match args with
              | first :: others =>
                if name = Bytes.ofText "exec" then
                  { s.runNamed first others with flow := .exited }
                else s.runNamed name args
              | [] => s.runNamed name args
        let bindings := if assignments.isEmpty then t.shell.bindings else s.bindings
        { t with shell := { t.shell with bindings }, chunks := chunks ++ more ++ t.chunks }
    | .sequence first second => (run fuel first s).andThen fun s => run fuel second s
    | .both first second =>
      (run fuel first s).andThen fun s =>
        if s.status = 0 then run fuel second s else .next s s.status []
    | .either first second =>
      (run fuel first s).andThen fun s =>
        if s.status = 0 then .next s 0 [] else run fuel second s
    | .pipe first second =>
      let t := run fuel first s
      let u := run fuel second { s with input := t.written .output, tree := t.shell.tree }
      .next { s with input := t.shell.input, tree := u.shell.tree } u.shell.status
        (t.chunks.filter (·.1 = .errors) ++ u.chunks)
    | .negate inner =>
      (run fuel inner s).andThen fun s => .next s (if s.status = 0 then 1 else 0) []
    | .choose condition yes no =>
      (run fuel condition s).andThen fun s =>
        if s.status = 0 then run fuel yes s else run fuel no { s with status := 0 }
    | .loop condition body =>
      (run fuel condition s).andThen fun s =>
        if s.status = 0 then (run fuel body s).andThen fun s =>
          run fuel (.loop condition body) s
        else .next s 0 []
    | .forEach name words body =>
      match words with
      | none => runEach fuel name body s.parameters { s with status := 0 }
      | some ws =>
        let (s, chunks, values) := expandAll fuel s ws
        let t := runEach fuel name body values { s with status := 0 }
        { t with chunks := chunks ++ t.chunks }
    | .select subject branches =>
      let (s, chunks, f) := expand fuel s (subject.map Part.joined) .none
      let t := match branches.find? fun b => b.1.any (Glob.accepts · (joinWords f.all)) with
        | some (_, body) => run fuel body { s with status := 0 }
        | none => .next s 0 []
      { t with chunks := chunks ++ t.chunks }
    | .redirected inner redirections => underRedirections s redirections fun s =>
      run fuel inner s
    | .inside inner =>
      let t := run fuel inner s
      let shell := { s with
        input := t.shell.input, status := t.shell.status, tree := t.shell.tree }
      match t.flow with
      | .killed n name => ⟨shell, t.chunks, .killed n name⟩
      | _ => ⟨shell, t.chunks, .next⟩

/-- Runs a script once for every value of a variable. -/
def runEach : (fuel : Nat) → String → Script → List Bytes → Shell → Step
  | 0, _, _, _, s => ⟨{ s with status := 2 }, [], .exited⟩
  | _, _, _, [], s => .next s s.status []
  | fuel + 1, name, body, b :: rest, s =>
    (run fuel body (s.assign name b)).andThen fun s => runEach fuel name body rest s

end

/-- How many steps inside each other a script may take. -/
def maxSteps : Nat := 10000

end Shell

end ShaderBuild.Toolbox
