import ShaderBuild.CommandLine.LogDirective
import ShaderBuild.Trace

/-!
Which log records are shown. A filter is an ordered list of rules, of which the first that
concerns a record decides: rules with a longer target come first, then those that ask for a
field.
-/

namespace ShaderBuild.CommandLine

/-- A rule gives a level to the records of those channels whose names start with its target, or of
all channels if it has none, and that have the field it asks for. -/
structure LogRule where
  target : Option String
  field : Option String
  /-- The least urgent level that is shown; nothing is shown without one. -/
  level : Option Level
  deriving DecidableEq, Repr

abbrev LogFilter := List LogRule

namespace LogRule

/-- Every record has a message beside its other fields. -/
def concerns (rule : LogRule) (r : Record) : Bool :=
  (rule.target.map fun t => t.toList.isPrefixOf r.channel.toList).getD true &&
    (rule.field.map fun f => f == "message" || r.fields.any fun entry => entry.1 == f).getD true

def length (rule : LogRule) : Nat := (rule.target.map fun t => t.utf8ByteSize + 1).getD 0

/-- Whether a rule stands before another one. -/
def precedes (a b : LogRule) : Bool :=
  b.length < a.length || (a.length == b.length &&
    (let fields (rule : LogRule) := if rule.field.isSome then 1 else 0
    fields b < fields a || (fields a == fields b &&
      (b.target.getD "" < a.target.getD "" || (a.target == b.target &&
        b.field.getD "" < a.field.getD "")))))

end LogRule

namespace LogFilter

def ofLevel (level : Level) : LogFilter := [⟨none, none, some level⟩]

/-- Puts a rule in its place. It takes the place of one that concerns the same records. -/
def insert (rule : LogRule) : LogFilter → LogFilter
  | [] => [rule]
  | other :: rest =>
    if rule.target = other.target ∧ rule.field = other.field then rule :: rest
    else if rule.precedes other then rule :: other :: rest
    else other :: insert rule rest

def shows (filter : LogFilter) (r : Record) : Bool :=
  match (filter.find? fun rule => rule.concerns r).bind LogRule.level with
  | some level => r.level.rank ≤ level.rank
  | none => false

/-! ## Reading -/

/-- A directive with no span and no value is a rule. The program's records stand inside no span, so
directives for spans and values concern none of them. -/
def rule? (d : LogDirective) : Option LogRule :=
  match d.span, d.field with
  | none, none => some ⟨d.target, none, d.level⟩
  | none, some (name, none) => some ⟨d.target, some name, d.level⟩
  | _, _ => none

/-- The rules of directives without fields come first. -/
def ofDirectives (directives : List LogDirective) : LogFilter :=
  let rules := directives.filterMap rule?
  let (plain, asking) := rules.partition fun rule => rule.field.isNone
  (plain ++ asking).foldl (fun filter rule => insert rule filter) []

/-- Reads directives with commas between them. Without any, only errors are shown. -/
def read? (text : String) : Option LogFilter :=
  let pieces := (Text.splitOn ',' text.toList).filter (· ≠ [])
  if pieces = [] then some (ofLevel .error)
  else (pieces.mapM LogDirective.read?).map ofDirectives

end LogFilter

end ShaderBuild.CommandLine
