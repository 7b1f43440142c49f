import ShaderBuild.Files.Disk

/-!
Small text tools as functions from arguments and input to output.
-/

namespace ShaderBuild.Toolbox

/-- What a tool leaves behind. -/
structure ToolResult where
  status : Nat
  output : Bytes
  errors : Bytes
  /-- The input that it did not read. -/
  unread : Bytes
  deriving DecidableEq, Repr

/-- The contents of a file by its path. -/
abbrev FileReader := Path → Except SystemError Bytes

/-- A file tree, with what a script did to it so far. -/
structure Tree where
  disk : Disk
  changes : List DiskChange
  deriving Repr

namespace Tree

def ofDisk (disk : Disk) : Tree := ⟨disk, []⟩

/-- Reads a file, or the file that is always empty. -/
def read (t : Tree) : FileReader := fun p =>
  if p = ⟨"/dev/null"⟩ then .ok [] else t.disk.read p

def change (t : Tree) (c : DiskChange) : Except SystemError Tree :=
  (t.disk.change c).map fun disk => ⟨disk, t.changes ++ [c]⟩

end Tree

/-- An error of the system as tools report it. -/
def reason (e : SystemError) : String := (e.message.splitOn " (os error").headD ""

abbrev Tool := (args : List Bytes) → (input : Bytes) → ToolResult

namespace ToolResult

/-- Success with an output. -/
def ok (output unread : Bytes) : ToolResult := ⟨0, output, [], unread⟩

def failed (status : Nat) (message : String) (unread : Bytes) : ToolResult :=
  ⟨status, [], Bytes.ofText message, unread⟩

/-- An option that the tool does not know. -/
def badOption (tool : String) (option : UInt8) (unread : Bytes) : ToolResult :=
  failed 1 (tool ++ ": invalid option -- '" ++ String.ofList [Char.ofNat option.toNat] ++
    "'\nTry '" ++ tool ++ " --help' for more information.\n") unread

end ToolResult

/-! ## Bytes as text -/

/-- The byte of an ASCII character. -/
def byte (c : Char) : UInt8 := c.toNat.toUInt8

def newlineByte : UInt8 := byte '\n'

/-- Lines with their newlines; the last may have none. -/
def linesOf (b : Bytes) : List Bytes :=
  b.foldr (fun x lines =>
    if x = newlineByte then [x] :: lines
    else match lines with
      | [] => [[x]]
      | line :: rest => (x :: line) :: rest) []

/-- A number in decimal digits. -/
def number? (b : Bytes) : Option Nat :=
  if b = [] then none
  else b.foldlM (fun n x =>
    if byte '0' ≤ x ∧ x ≤ byte '9' then some (10 * n + (x.toNat - (byte '0').toNat)) else none) 0

def ofNat (n : Nat) : Bytes := Bytes.ofText (toString n)

/-- Fills up with a byte on the left. -/
def padLeft (width : Nat) (fill : UInt8) (b : Bytes) : Bytes :=
  List.replicate (width - b.length) fill ++ b

def padRight (width : Nat) (fill : UInt8) (b : Bytes) : Bytes :=
  b ++ List.replicate (width - b.length) fill

/-! ## Escapes -/

def octalDigit? (x : UInt8) : Option Nat :=
  if byte '0' ≤ x ∧ x ≤ byte '7' then some (x.toNat - (byte '0').toNat) else none

/-- Takes up to `count` octal digits. -/
def takeOctal : (count value : Nat) → Bytes → Nat × Bytes
  | 0, value, b => (value, b)
  | _, value, [] => (value, [])
  | count + 1, value, x :: rest =>
    match octalDigit? x with
    | some d => takeOctal count (8 * value + d) rest
    | none => (value, x :: rest)

/-- The byte that a letter after a backslash stands for. -/
def escapeLetter? (x : UInt8) : Option UInt8 :=
  [('n', 10), ('t', 9), ('r', 13), ('a', 7), ('b', 8), ('f', 12), ('v', 11), ('\\', 92)].lookup
    (Char.ofNat x.toNat)

/-- What an escape stands for, read after its backslash: bytes and the rest, or nothing where the
output is to end. `zeroFirst` asks for a zero before the octal digits. -/
def readEscape (zeroFirst : Bool) (b : Bytes) : Option (Bytes × Bytes) :=
  match b with
  | [] => some ([byte '\\'], [])
  | x :: rest =>
    if x = byte 'c' ∧ zeroFirst then none
    else match escapeLetter? x with
      | some e => some ([e], rest)
      | none =>
        if x = byte '0' ∧ zeroFirst then
          let (value, rest) := takeOctal 3 0 rest
          some ([value.toUInt8], rest)
        else if (octalDigit? x).isSome ∧ !zeroFirst then
          let (value, rest) := takeOctal 3 0 b
          some ([value.toUInt8], rest)
        else some ([byte '\\', x], rest)

/-- A text with its escapes replaced, and whether the output goes on after it. -/
def unescape : (fuel : Nat) → Bytes → Bytes × Bool
  | 0, _ => ([], true)
  | _, [] => ([], true)
  | fuel + 1, x :: rest =>
    if x = byte '\\' then
      match readEscape true rest with
      | none => ([], false)
      | some (e, rest) =>
        let (out, more) := unescape fuel rest
        (e ++ out, more)
    else
      let (out, more) := unescape fuel rest
      (x :: out, more)

/-! ## Words on the output -/

def joinWords : List Bytes → Bytes
  | [] => []
  | [w] => w
  | w :: rest => w ++ byte ' ' :: joinWords rest

/-- Puts out its arguments, with escapes replaced. -/
def echo : Tool := fun args input =>
  let (withNewline, args) := match args with
    | first :: rest => if first = Bytes.ofText "-n" then (false, rest) else (true, args)
    | [] => (true, args)
  let text := joinWords args
  let (out, more) := unescape (text.length + 1) text
  .ok (out ++ (if withNewline ∧ more then [newlineByte] else [])) input

/-- A place for an argument in a format. -/
structure Conversion where
  left : Bool
  zeros : Bool
  width : Nat
  precision : Option Nat
  kind : UInt8
  deriving DecidableEq, Repr

def takeNumber (b : Bytes) : Nat × Bytes :=
  let isDigit (x : UInt8) : Bool := byte '0' ≤ x && x ≤ byte '9'
  ((number? (b.takeWhile isDigit)).getD 0, b.dropWhile isDigit)

/-- Reads a conversion after its percent sign. -/
def Conversion.read? (b : Bytes) : Option (Conversion × Bytes) :=
  let isFlag (x : UInt8) : Bool := x == byte '-' || x == byte '0'
  let flags := b.takeWhile isFlag
  let (width, rest) := takeNumber (b.dropWhile isFlag)
  let (precision, rest) := match rest with
    | x :: after =>
      if x = byte '.' then
        let (p, rest) := takeNumber after
        (some p, rest)
      else (none, rest)
    | [] => (none, rest)
  match rest with
  | [] => none
  | kind :: rest =>
    some (⟨flags.contains (byte '-'), flags.contains (byte '0'), width, precision, kind⟩, rest)

/-- An argument in the form that a conversion asks for. -/
def Conversion.apply? (c : Conversion) (arg : Bytes) : Option Bytes :=
  let (negative, digits) := match arg with
    | x :: rest => if x = byte '-' then (true, rest) else (false, arg)
    | [] => (false, [])
  let value := (number? digits).getD 0
  let inBase (base : Nat) : Bytes := Bytes.ofText (String.ofList (Nat.toDigits base value))
  let isNumber := (Bytes.ofText "diuxXo").contains c.kind
  let body : Option Bytes :=
    if c.kind = byte 's' then some (match c.precision with | some p => arg.take p | none => arg)
    else if c.kind = byte 'b' then some (unescape (arg.length + 1) arg).1
    else if c.kind = byte 'c' then some (arg.take 1)
    else if c.kind = byte 'x' then some (inBase 16)
    else if c.kind = byte 'X' then
      some ((inBase 16).map fun x => if 97 ≤ x ∧ x ≤ 122 then x - 32 else x)
    else if c.kind = byte 'o' then some (inBase 8)
    else if isNumber then some (if negative then byte '-' :: inBase 10 else inBase 10)
    else none
  body.map fun body =>
    if c.left then padRight c.width (byte ' ') body
    else padLeft c.width (if c.zeros ∧ isNumber then byte '0' else byte ' ') body

/-- One pass over a format: the output, the arguments that are left, and whether any was used. -/
def formatOnce : (fuel : Nat) → (format : Bytes) → (args : List Bytes) → (used : Bool) →
    Option (Bytes × List Bytes × Bool)
  | 0, _, _, _ => none
  | _, [], args, used => some ([], args, used)
  | fuel + 1, x :: rest, args, used =>
    let add (b : Bytes) (r : Option (Bytes × List Bytes × Bool)) :
      Option (Bytes × List Bytes × Bool) :=
      r.map fun (out, args, used) => (b ++ out, args, used)
    if x = byte '\\' then
      match readEscape false rest with
      | some (e, rest) => add e (formatOnce fuel rest args used)
      | none => none
    else if x = byte '%' then
      match rest with
      | y :: rest' =>
        if y = byte '%' then add [y] (formatOnce fuel rest' args used)
        else match Conversion.read? rest with
          | none => none
          | some (c, rest) =>
            match c.apply? (args.headD []) with
            | none => none
            | some b => add b (formatOnce fuel rest args.tail true)
      | [] => none
    else add [x] (formatOnce fuel rest args used)

/-- Uses a format as often as the arguments need it. -/
def formatAll : (fuel : Nat) → (format : Bytes) → (args : List Bytes) → Option Bytes
  | 0, _, _ => none
  | fuel + 1, format, args =>
    match formatOnce (format.length + 1) format args false with
    | none => none
    | some (out, rest, used) =>
      if rest = [] ∨ !used then some out else (formatAll fuel format rest).map (out ++ ·)

def printf : Tool := fun args input =>
  match args with
  | [] => .failed 2 "sh: 1: printf: usage: printf format [arg ...]\n" input
  | format :: args =>
    match formatAll (args.length + 1) format args with
    | some out => .ok out input
    | none => .failed 2 "sh: 1: printf: invalid directive\n" input

/-! ## Parts of the input -/

/-- Counts bytes, lines or words of its input. -/
def count : Tool := fun args input =>
  let isBlank (x : UInt8) : Bool := x == 32 || (9 ≤ x && x ≤ 13)
  let words := (input.foldl (fun (n, inside) x =>
    if isBlank x then (n, false)
    else (if inside then n else n + 1, true)) ((0, false) : Nat × Bool)).1
  let newlines := input.count newlineByte
  let one (n : Nat) : ToolResult := .ok (ofNat n ++ [newlineByte]) []
  match args with
  | [] =>
    let column (n : Nat) : Bytes := padLeft 7 (byte ' ') (ofNat n)
    .ok (column newlines ++ byte ' ' :: column words ++ byte ' ' :: column input.length ++
      [newlineByte]) []
  | [a] =>
    if a = Bytes.ofText "-c" then one input.length
    else if a = Bytes.ofText "-l" then one newlines
    else if a = Bytes.ofText "-w" then one words
    else if a = Bytes.ofText "-m" then
      one (((Bytes.text? input).map String.length).getD input.length)
    else .failed 1 "wc: unsupported operand\n" input
  | _ => .failed 1 "wc: unsupported operand\n" input

/-- How much of the input to take: bytes or lines. -/
inductive Amount where
  | bytes (n : Nat)
  | lines (n : Nat)
  deriving DecidableEq, Repr

def Amount.of? (args : List Bytes) : Option Amount :=
  let attached (a : Bytes) : Option Amount :=
    match a with
    | x :: y :: rest =>
      if x ≠ byte '-' then none
      else if y = byte 'c' then (number? rest).map .bytes
      else if y = byte 'n' then (number? rest).map .lines
      else (number? (y :: rest)).map .lines
    | _ => none
  match args with
  | [] => some (.lines 10)
  | [a] => attached a
  | [a, n] => attached (a ++ n)
  | _ => none

def head : Tool := fun args input =>
  match Amount.of? args with
  | some (.bytes n) => .ok (input.take n) []
  | some (.lines n) => .ok ((linesOf input).take n).flatten []
  | none => .failed 1 "head: unsupported operand\n" input

def tail : Tool := fun args input =>
  match Amount.of? args with
  | some (.bytes n) => .ok (input.drop (input.length - n)) []
  | some (.lines n) =>
    let lines := linesOf input
    .ok (lines.drop (lines.length - n)).flatten []
  | none => .failed 1 "tail: unsupported operand\n" input

/-! ## Bytes for bytes -/

/-- The bytes of a set: single bytes, escapes, ranges and classes. -/
def byteSet : (fuel : Nat) → Bytes → List UInt8
  | 0, _ => []
  | _, [] => []
  | fuel + 1, x :: rest =>
    let classes : List (String × List UInt8) :=
      [("[:lower:]", (List.range 26).map fun i => (97 + i).toUInt8),
        ("[:upper:]", (List.range 26).map fun i => (65 + i).toUInt8),
        ("[:digit:]", (List.range 10).map fun i => (48 + i).toUInt8),
        ("[:space:]", [9, 10, 11, 12, 13, 32])]
    match classes.find? fun c => (Bytes.ofText c.1).isPrefixOf (x :: rest) with
    | some (name, members) => members ++ byteSet fuel ((x :: rest).drop name.length)
    | none =>
      let (first, rest) : UInt8 × Bytes :=
        if x = byte '\\' then
          match readEscape false rest with
          | some ([e], rest) => (e, rest)
          | some (_ :: e :: _, rest) => (e, rest)
          | _ => (x, rest)
        else (x, rest)
      match rest with
      | dash :: last :: after =>
        if dash = byte '-' ∧ first ≤ last then
          (List.range (last.toNat - first.toNat + 1)).map (fun i => first + i.toUInt8) ++
            byteSet fuel after
        else first :: byteSet fuel rest
      | _ => first :: byteSet fuel rest

/-- Replaces bytes of one set by those of another, or deletes them. -/
def translate : Tool := fun args input =>
  let set (b : Bytes) : List UInt8 := byteSet (b.length + 1) b
  match args with
  | [a, b] =>
    if a = Bytes.ofText "-d" then .ok (input.filter fun x => !(set b).contains x) []
    else
      let source := set a
      let target := set b
      let table :=
        source.zip (target ++ List.replicate (source.length - target.length) (target.getLastD 0))
      .ok (input.map fun x => ((table.reverse.lookup x).getD x)) []
  | _ => .failed 1 "tr: unsupported operand\n" input

end ShaderBuild.Toolbox
