import ShaderBuild.Toml.Value

/-!
Tables as the lines of a TOML document build them up. No key is set twice, and no table
gets two headers.
-/

namespace ShaderBuild.Toml

/-! ## Tables under construction -/

/-- How a table came to be. -/
inductive Origin where
  /-- From a header of its own. -/
  | header
  /-- From the header of a table inside it. -/
  | parent
  /-- From a key with dots. -/
  | dotted
  deriving DecidableEq, Repr

inductive Node where
  | value (v : Value)
  | table (origin : Origin) (entries : List (String × Node))
  /-- The tables of an array of tables, the newest first. -/
  | tables (elements : List (List (String × Node)))
  deriving Inhabited

abbrev Entries := List (String × Node)

namespace Entries

def put (es : Entries) (name : String) (n : Node) : Entries :=
  if (es.lookup name).isSome then es.map fun e => if e.1 = name then (name, n) else e
  else es ++ [(name, n)]

/-- Sets a key with dots in a table. The tables on the way must not have a header of their own, and
the innermost must come from keys with dots alone. -/
def set (v : Value) : (path : List String) → Entries → Option Entries
  | [], _ => none
  | [name], es => if (es.lookup name).isSome then none else some (es.put name (.value v))
  | name :: path, es =>
    let inner (origin : Origin) (entries : Entries) : Option Entries :=
      (set v path entries).map fun entries => es.put name (.table origin entries)
    let isInnermost := path.length = 1
    match es.lookup name with
    | none => inner .dotted []
    | some (.table .dotted entries) => inner .dotted entries
    | some (.table .parent entries) => if isInnermost then none else inner .parent entries
    | some (.tables (newest :: older)) =>
      if isInnermost then none
      else (set v path newest).map fun newest => es.put name (.tables (newest :: older))
    | _ => none

/-- Changes the table that a header's path leads to. Tables on the way are made as needed; an array
of tables stands for its newest table. -/
def change (f : Entries → Option Entries) : (path : List String) → Entries → Option Entries
  | [], es => f es
  | name :: path, es =>
    match es.lookup name with
    | none => (change f path []).map fun entries => es.put name (.table .parent entries)
    | some (.table origin entries) =>
      (change f path entries).map fun entries => es.put name (.table origin entries)
    | some (.tables (newest :: older)) =>
      (change f path newest).map fun newest => es.put name (.tables (newest :: older))
    | _ => none

/-- Sets keys one after the other. -/
def setAll (es : Entries) (keys : List (List String × Value)) : Option Entries :=
  keys.foldlM (fun es (path, v) => set v path es) es

end Entries

/-! ## Sections -/

/-- A header: the path of a table, or of an array of tables that gets a new element. -/
inductive Header where
  | table (path : List String)
  | element (path : List String)
  deriving DecidableEq, Repr

/-- Adds the keys under a header to the document. -/
def Entries.addSection (es : Entries) (h : Header) (keys : List (List String × Value)) :
    Option Entries :=
  match h with
  | .table path =>
    match path.reverse with
    | [] => none
    | name :: before =>
      es.change (fun es =>
        let start : Option Entries := match es.lookup name with
          | none => some []
          | some (.table .parent entries) => some entries
          | _ => none
        do return es.put name (.table .header (← (← start).setAll keys))) before.reverse
  | .element path =>
    match path.reverse with
    | [] => none
    | name :: before =>
      es.change (fun es =>
        let older : Option (List Entries) := match es.lookup name with
          | none => some []
          | some (.tables elements) => some elements
          | _ => none
        do
          let older ← older
          return es.put name (.tables ((← Entries.setAll [] keys) :: older))) before.reverse

/-! ## Finished tables -/

mutual

def Node.toValue : Node → Value
  | .value v => v
  | .table _ entries => .table (Node.members entries)
  | .tables elements => .array (Node.elements elements)

def Node.members : List (String × Node) → List (String × Value)
  | [] => []
  | (name, n) :: rest => (name, n.toValue) :: Node.members rest

/-- Tables in the order of their writing. -/
def Node.elements : List (List (String × Node)) → List Value
  | [] => []
  | newest :: older => Node.elements older ++ [.table (Node.members newest)]

end

/-- The table that keys and values in braces make. -/
def tableOf (keys : List (List String × Value)) : Option Value :=
  (Entries.setAll [] keys).map fun es => .table (Node.members es)

end ShaderBuild.Toml
