import ShaderBuild.Toml.Reader
import ShaderBuild.Toml.Table

/-!
TOML documents: lines with headers and with keys and their values.
-/

namespace ShaderBuild.Toml

open Reader

/-! ## Values with values inside -/

/-- Reads a value with at most `depth` values around what is inside it. -/
def value : (depth fuel : Nat) → Reader Value
  | depth, fuel => fun cs =>
    match cs, depth with
    | '"' :: _, _ => (string cs).map fun (s, rest) => (.text (String.ofList s), rest)
    | '\'' :: _, _ => (string cs).map fun (s, rest) => (.text (String.ofList s), rest)
    | '[' :: rest, depth + 1 => (items (value depth fuel) fuel rest).map fun (vs, rest) =>
      (.array vs, rest)
    | '\x7b' :: rest, depth + 1 => do
      let (keys, rest) ← pairsOrNone (value depth fuel) fuel rest
      return (← tableOf keys, rest)
    | cs, _ => word cs

/-! ## Lines -/

/-- A line that says something. -/
inductive Line where
  | header (h : Header)
  | pair (path : List String) (v : Value)

def headerLine (fuel : Nat) : Reader Header := do
  exactly ['[']
  match ← peek with
  | '[' :: _ =>
    exactly ['[']
    let path ← key fuel
    exactly [']', ']']
    lineEnd
    return .element path
  | _ =>
    let path ← key fuel
    exactly [']']
    lineEnd
    return .table path

def pairLine (fuel : Nat) : Reader (List String × Value) := do
  let path ← key fuel
  exactly ['=']
  blanks
  let v ← value maxDepth fuel
  lineEnd
  return (path, v)

/-- The lines that say something, up to the end of the text. -/
def lines : (fuel : Nat) → Reader (List Line)
  | 0 => fail
  | fuel + 1 => do
    blanks
    match ← peek with
    | [] => return []
    | '#' :: _ =>
      lineEnd
      lines fuel
    | '\n' :: _ =>
      newline
      lines fuel
    | '\r' :: _ =>
      newline
      lines fuel
    | '[' :: cs =>
      let h ← headerLine (cs.length + 1)
      return .header h :: (← lines fuel)
    | cs =>
      let (path, v) ← pairLine cs.length
      return .pair path v :: (← lines fuel)

/-- The keys before the first header, and the other sections. -/
def sectionsOf : List Line → List (List String × Value) × List (Header × List (List String × Value))
  | [] => ([], [])
  | .pair path v :: rest =>
    let (keys, sections) := sectionsOf rest
    ((path, v) :: keys, sections)
  | .header h :: rest =>
    let (keys, sections) := sectionsOf rest
    ([], (h, keys) :: sections)

/-- The table that a text stands for. A byte order mark in front is passed over. -/
def parse? (text : String) : Option Value := do
  let cs := match text.toList with
    | '\uFEFF' :: rest => rest
    | cs => cs
  let (ls, _) ← lines (cs.length + 1) cs
  let (keys, sections) := sectionsOf ls
  let es ← Entries.setAll [] keys
  let es ← sections.foldlM (fun es (h, keys) => es.addSection h keys) es
  return .table (Node.members es)

end ShaderBuild.Toml
