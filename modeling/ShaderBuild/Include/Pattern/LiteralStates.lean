import ShaderBuild.Bytes
import ShaderBuild.Include.Pattern.Footprint

/-!
The states for alternatives that are all literals. The literals share the states of what
they start with, as long as no literal that ends there has come between them.
-/

namespace ShaderBuild.Regex

/-- The texts up to the next one that has ended, those up to the one after it, and so on. -/
def segments : List Bytes → List (List Bytes)
  | [] => [[]]
  | [] :: rest => [] :: segments rest
  | text :: rest =>
    match segments rest with
    | first :: others => (text :: first) :: others
    | [] => [[text]]

/-- Texts that have ended before any other goes on count as one. -/
def mergeEnds : List (List Bytes) → List (List Bytes)
  | [] :: rest => [] :: rest.dropWhile List.isEmpty
  | groups => groups

/-- The texts by their first byte, without it. -/
def byFirst (texts : List Bytes) : List (List Bytes) :=
  (texts.filterMap List.head?).eraseDups.map fun b =>
    texts.filterMap fun text => if text.head? = some b then some text.tail else none

/-- The room for a state that goes on with one of the texts, and for all states behind it. A state
where all texts have ended is not needed. -/
def literalStates : (length : Nat) → List Bytes → Footprint
  | 0, _ => .none
  | length + 1, texts =>
    if texts.all List.isEmpty then .none
    else
      let groups := mergeEnds (segments texts)
      let parts := (groups.filter fun g => !g.isEmpty).map byFirst
      let links := parts.length + (groups.length - 1)
      let start : Footprint := ⟨1, Laid.linkBytes * links⟩
      parts.foldl (fun acc part =>
        let transitions := if part.length = 1 then 0 else 8 * part.length
        part.foldl (fun acc rest =>
          let below := literalStates length rest
          ⟨acc.states + below.states, acc.extra + below.extra⟩)
          ⟨acc.states + 1, acc.extra + transitions⟩) start

def layLiterals (backwards : Bool) (texts : List Bytes) (f : Footprint) : Option Laid :=
  let texts := if backwards then texts.map List.reverse else texts
  let longest := texts.foldl (fun n text => max n text.length) 0
  let room := literalStates (longest + 1) texts
  (f.add (room.states + 1) room.extra).map .plain

end ShaderBuild.Regex
