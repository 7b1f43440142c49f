import ShaderBuild.Include.Pattern

/-!
Building expressions in a normal form: neighbouring literals grow together, sequences and
alternatives are not nested in their own kind, alternatives between characters become a
set, and what all alternatives start with is taken out of them.
-/

namespace ShaderBuild.Regex

/-! ## Lengths -/

mutual

/-- A lower bound on the number of characters of a match; none where a set is empty. -/
def leastLength? : Regex → Option Nat
  | empty => some 0
  | literal cs => some cs.length
  | set s _ => if s.ranges.isEmpty then none else some 1
  | anchor _ => some 0
  | group _ r => leastLength? r
  | seq rs => leastSum? rs
  | either rs => leastOf? rs
  | times r least _ _ => (leastLength? r).map (· * least)

def leastSum? : List Regex → Option Nat
  | [] => some 0
  | r :: rs => (leastLength? r).bind fun n => (leastSum? rs).map (n + ·)

def leastOf? : List Regex → Option Nat
  | [] => none
  | [r] => leastLength? r
  | r :: rs => (leastLength? r).bind fun n => (leastOf? rs).map (min n)

end

mutual

/-- An upper bound on the number of characters of a match; none where a set is empty or there is no
bound. -/
def mostLength? : Regex → Option Nat
  | empty => some 0
  | literal cs => some cs.length
  | set s _ => if s.ranges.isEmpty then none else some 1
  | anchor _ => some 0
  | group _ r => mostLength? r
  | seq rs => mostSum? rs
  | either rs => mostOf? rs
  | times r _ most _ => (mostLength? r).bind fun n => most.map (n * ·)

def mostSum? : List Regex → Option Nat
  | [] => some 0
  | r :: rs => (mostLength? r).bind fun n => (mostSum? rs).map (n + ·)

def mostOf? : List Regex → Option Nat
  | [] => some 0
  | r :: rs => (mostLength? r).bind fun n => (mostOf? rs).map (max n)

end

/-- Whether all matches are empty. -/
def zeroWidth (r : Regex) : Bool := mostLength? r == some 0

/-- Whether no match is empty. -/
def takesText (r : Regex) : Bool :=
  match leastLength? r with
  | some n => 0 < n
  | none => false

/-! ## Equality -/

mutual

def same : Regex → Regex → Bool
  | empty, empty => true
  | literal cs, literal ds => cs == ds
  | set s a, set t b => s == t && a == b
  | anchor a, anchor b => a == b
  | group i r, group j s => i == j && same r s
  | seq rs, seq ss => sameAll rs ss
  | either rs, either ss => sameAll rs ss
  | times r l m g, times s l' m' g' => l == l' && m == m' && g == g' && same r s
  | _, _ => false

def sameAll : List Regex → List Regex → Bool
  | [], [] => true
  | r :: rs, s :: ss => same r s && sameAll rs ss
  | _, _ => false

end

mutual

/-- The number of expressions in an expression. -/
def nodes : Regex → Nat
  | group _ r => nodes r + 1
  | times r _ _ _ => nodes r + 1
  | seq rs => nodesOfAll rs + 1
  | either rs => nodesOfAll rs + 1
  | _ => 1

def nodesOfAll : List Regex → Nat
  | [] => 0
  | r :: rs => nodes r + nodesOfAll rs

end

/-! ## Building -/

/-- A set of one character is that character. -/
def ofSet (s : CharSet) (ascii : Bool) : Regex :=
  if s.ranges.isEmpty then set s true
  else
    match s.single? with
    | some c => literal [c]
    | none => set s ascii

def factors : Regex → List Regex
  | empty => []
  | seq rs => rs
  | r => [r]

def joinLiterals : Regex → List Regex → List Regex
  | literal cs, literal ds :: rest => literal (cs ++ ds) :: rest
  | r, rest => r :: rest

def sequence (rs : List Regex) : Regex :=
  match (rs.flatMap factors).foldr joinLiterals [] with
  | [] => empty
  | [r] => r
  | rs => seq rs

def branches : Regex → List Regex
  | either rs => rs
  | r => [r]

def character? : Regex → Option CharSet
  | literal [c] => some (.ofChar c)
  | _ => none

def set? : Regex → Option CharSet
  | set s _ => some s
  | _ => none

/-- What both lists start with. -/
def commonStart : List Regex → List Regex → List Regex
  | r :: rs, s :: ss => if same r s then r :: commonStart rs ss else []
  | _, _ => []

/-- What all alternatives start with, if all are sequences. -/
def sharedStart : List Regex → List Regex
  | [seq rs] => rs
  | seq rs :: rest => commonStart rs (sharedStart rest)
  | _ => []

def alternativesOf : (fuel : Nat) → List Regex → Regex
  | 0, rs => either rs
  | fuel + 1, rs =>
    match rs.flatMap branches with
    | [] => set .empty true
    | [r] => r
    | rs =>
      match rs.mapM character? <|> rs.mapM set? with
      | some sets => ofSet (sets.foldl CharSet.union .empty) false
      | none =>
        match sharedStart rs with
        | [] => either rs
        | start =>
          sequence (start ++
            [alternativesOf fuel (rs.map fun r => sequence ((factors r).drop start.length))])

/-- Alternatives; every factor that is taken out of them leaves a smaller expression behind. -/
def alternatives (rs : List Regex) : Regex := alternativesOf (nodesOfAll rs + 1) rs

/-- A repetition. An expression without width need not be repeated more than once. -/
def repetition (r : Regex) (least : Nat) (most : Option Nat) (greedy : Bool) : Regex :=
  let (least, most) :=
    if zeroWidth r then (min least 1, some (min (most.getD 1) 1)) else (least, most)
  if most = some 0 then empty
  else if least = 1 ∧ most = some 1 then r
  else times r least most greedy

end ShaderBuild.Regex
