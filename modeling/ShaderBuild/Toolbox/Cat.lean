import ShaderBuild.Toolbox.Tool

/-!
Concatenating files, with the input among them.
-/

namespace ShaderBuild.Toolbox

structure CatOptions where
  numberAll : Bool
  numberFilled : Bool
  showEnds : Bool
  showTabs : Bool
  showControls : Bool
  squeeze : Bool
  deriving DecidableEq, Repr

namespace CatOptions

def none : CatOptions := ⟨false, false, false, false, false, false⟩

def add? (o : CatOptions) (x : UInt8) : Option CatOptions :=
  let showAll (o : CatOptions) : CatOptions := { o with showControls := true }
  if x = byte 'n' then some { o with numberAll := true }
  else if x = byte 'b' then some { o with numberFilled := true }
  else if x = byte 'E' then some { o with showEnds := true }
  else if x = byte 'T' then some { o with showTabs := true }
  else if x = byte 's' then some { o with squeeze := true }
  else if x = byte 'v' then some (showAll o)
  else if x = byte 'e' then some (showAll { o with showEnds := true })
  else if x = byte 't' then some (showAll { o with showTabs := true })
  else if x = byte 'A' then some (showAll { o with showEnds := true, showTabs := true })
  else if x = byte 'u' then some o
  else Option.none

/-- Adds options written as letters; the first that is not known is the error. -/
def addAll (o : CatOptions) : Bytes → Except UInt8 CatOptions
  | [] => .ok o
  | x :: rest =>
    match o.add? x with
    | some o => o.addAll rest
    | Option.none => .error x

end CatOptions

/-- A byte with control characters and high bytes made visible. -/
def visibleByte (x : UInt8) : Bytes :=
  let low (x : UInt8) : Bytes :=
    if x < 32 then [byte '^', x + 64] else if x = 127 then [byte '^', byte '?'] else [x]
  if x < 128 then low x else byte 'M' :: byte '-' :: low (x - 128)

def showByte (o : CatOptions) (x : UInt8) : Bytes :=
  if x = newlineByte then (if o.showEnds then [byte '$', x] else [x])
  else if x = byte '\t' then (if o.showTabs then [byte '^', byte 'I'] else [x])
  else if o.showControls then visibleByte x
  else [x]

def squeezeLines : List Bytes → List Bytes
  | a :: b :: rest =>
    if a = [newlineByte] ∧ b = [newlineByte] then squeezeLines (b :: rest)
    else a :: squeezeLines (b :: rest)
  | lines => lines

/-- Lines with their numbers in front. -/
def numberLines (o : CatOptions) : (next : Nat) → List Bytes → List Bytes
  | _, [] => []
  | next, line :: rest =>
    if o.numberFilled ∧ line = [newlineByte] then line :: numberLines o next rest
    else if o.numberAll ∨ o.numberFilled then
      (padLeft 6 (byte ' ') (ofNat next) ++ byte '\t' :: line) :: numberLines o (next + 1) rest
    else line :: numberLines o next rest

def showText (o : CatOptions) (b : Bytes) : Bytes :=
  if o = .none then b
  else
    let lines := if o.squeeze then squeezeLines (linesOf b) else linesOf b
    (numberLines o 1 (lines.map fun line => line.flatMap (showByte o))).flatten

/-- The operands among the arguments, and the options. Operands may stand before options. -/
def splitArguments (o : CatOptions) : List Bytes → Except Bytes (CatOptions × List Bytes)
  | [] => .ok (o, [])
  | a :: rest =>
    if a = Bytes.ofText "--" then .ok (o, rest)
    else if (Bytes.ofText "--").isPrefixOf a then .error a
    else match a with
      | x :: y :: letters =>
        if x = byte '-' then
          match o.addAll (y :: letters) with
          | .ok o => splitArguments o rest
          | .error bad => .error [bad]
        else (splitArguments o rest).map fun (o, operands) => (o, a :: operands)
      | _ => (splitArguments o rest).map fun (o, operands) => (o, a :: operands)

/-- Reads operands one after the other. A dash stands for the input, which is read once. -/
def readOperands (read : FileReader) : List Bytes → Bytes → ToolResult
  | [], input => .ok [] input
  | a :: rest, input =>
    if a = [byte '-'] then
      let r := readOperands read rest []
      { r with output := input ++ r.output }
    else
      let name := (Bytes.text? a).getD ""
      let r := readOperands read rest input
      match read ⟨a⟩ with
      | .ok data => { r with output := data ++ r.output }
      | .error e =>
        let message := "cat: " ++ name ++ ": " ++ reason e ++ "\n"
        { r with status := 1, errors := Bytes.ofText message ++ r.errors }

def cat (read : FileReader) : Tool := fun args input =>
  match splitArguments .none args with
  | .error [bad] => .badOption "cat" bad input
  | .error word =>
    .failed 1 ("cat: unrecognized option '" ++ (Bytes.text? word).getD "" ++
      "'\nTry 'cat --help' for more information.\n") input
  | .ok (o, operands) =>
    let r := readOperands read (if operands = [] then [[byte '-']] else operands) input
    { r with output := showText o r.output }

end ShaderBuild.Toolbox
