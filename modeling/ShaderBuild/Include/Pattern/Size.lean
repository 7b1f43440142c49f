import ShaderBuild.Include.Pattern.LiteralStates
import ShaderBuild.Include.Pattern.Normal
import ShaderBuild.Include.Pattern.SetStates

/-!
The size of the two automata for an expression, one for each direction of reading. An
expression is refused if one of them does not fit.
-/

namespace ShaderBuild.Regex

/-! ## States of an expression -/

/-- The bytes of the literals, if there are at least two alternatives and all are literals. -/
def literals? (rs : List Regex) : Option (List Bytes) :=
  if rs.length ≤ 1 then none
  else rs.mapM fun
    | literal cs => some (cs.flatMap String.utf8EncodeChar)
    | _ => none

mutual

def lay (backwards : Bool) : Regex → Footprint → Option Laid
  | empty, f => (f.add 1 0).map .plain
  | literal cs, f => (f.add (cs.foldl (fun n c => n + c.utf8Size) 0) 0).map .plain
  | set s _, f => laySet backwards s f
  | anchor _, f => (f.add 1 0).map .plain
  | group _ r, f =>
    if backwards then lay backwards r f
    else do
      let f ← f.add 1 0
      let f ← (← lay backwards r f).link
      return .plain (← f.add 1 0)
  | seq rs, f => laySequence backwards rs f
  | either rs, f =>
    match literals? rs with
    | some texts => layLiterals backwards texts f
    | none => layEither backwards rs f
  | times r least most _, f => layTimes (lay backwards r) (takesText r) least most f

/-- The factors in the order of reading. -/
def laySequence (backwards : Bool) : List Regex → Footprint → Option Laid
  | [], f => (f.add 1 0).map .plain
  | [r], f => lay backwards r f
  | r :: rs, f =>
    if backwards then do
      let f ← (← laySequence backwards rs f).link
      lay backwards r f
    else do
      let f ← (← lay backwards r f).link
      laySequence backwards rs f

/-- A fork before the alternatives, whose state is made after the first two of them, and an empty
state behind them. -/
def layEither (backwards : Bool) : List Regex → Footprint → Option Laid
  | [], f => (f.add 1 0).map .plain
  | [r], f => lay backwards r f
  | r :: s :: rs, f => do
    let first ← lay backwards r f
    let second ← lay backwards s (← first.link)
    let f ← (← second.link).add 2 (2 * Laid.linkBytes)
    layBranches backwards rs f

def layBranches (backwards : Bool) : List Regex → Footprint → Option Laid
  | [], f => some (.plain f)
  | r :: rs, f => do
    let f ← (← lay backwards r f).link
    layBranches backwards rs (← f.add 0 Laid.linkBytes)

end

/-! ## Where a match must start or end -/

mutual

/-- Whether every match starts at the start of the text. -/
def startsText : Regex → Bool
  | anchor .textStart => true
  | group _ r => startsText r
  | seq rs => sequenceStartsText rs
  | either rs => allStartText rs
  | times r least _ _ => 0 < least && startsText r
  | _ => false

def sequenceStartsText : List Regex → Bool
  | [] => false
  | r :: rs => startsText r || (zeroWidth r && sequenceStartsText rs)

def allStartText : List Regex → Bool
  | [] => true
  | r :: rs => startsText r && allStartText rs

end

mutual

/-- Whether every match ends at the end of the text. -/
def endsText : Regex → Bool
  | anchor .textEnd => true
  | group _ r => endsText r
  | seq rs => sequenceEndsText rs
  | either rs => allEndText rs
  | times r least _ _ => 0 < least && endsText r
  | _ => false

def sequenceEndsText : List Regex → Bool
  | [] => false
  | r :: rs => sequenceEndsText rs || (rs.all zeroWidth && endsText r)

def allEndText : List Regex → Bool
  | [] => true
  | r :: rs => endsText r && allEndText rs

end

/-! ## Whole automata -/

/-- The states before an expression. One that may match anywhere has a loop over all bytes before
it. -/
def layPrefix (r : Regex) (backwards : Bool) : Option Footprint :=
  let anchored := if backwards then endsText r else startsText r
  if anchored then Footprint.none.add 1 0
  else Footprint.none.add 3 (8 + 2 * Laid.linkBytes)

/-- The whole match counts as a group. -/
def layWhole (r : Regex) (backwards : Bool) : Option Footprint := do
  let f ← layPrefix r backwards
  let f ← (← lay backwards (group 0 r) f).link
  f.add 1 0

def fits (r : Regex) : Bool := (layWhole r false).isSome && (layWhole r true).isSome

end ShaderBuild.Regex
