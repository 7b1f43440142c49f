import ShaderBuild.Toolbox.Glob
import ShaderBuild.Toolbox.Tool

/-!
Shell scripts: their structure, and reading them from text.
-/

namespace ShaderBuild.Toolbox

/-- A change of a stream for one command. -/
inductive Redirection where
  /-- The stream with the number leads where another one leads. -/
  | same (stream target : Nat)
  | discard (stream : Nat)
  /-- The input comes from a file. -/
  | input (path : String)
  deriving DecidableEq, Repr

mutual

/-- A part of a word. What is in quotes is not split at blanks. -/
inductive Part where
  | text (b : Bytes)
  | parameter (name : String) (quoted : Bool)
  | substitution (s : Script) (quoted : Bool)
  | arithmetic (expression : List Char)

/-- A command, or commands put together. -/
inductive Script where
  | nothing
  | simple (assignments : List (String × List Part)) (words : List (List Part))
      (redirections : List Redirection)
  | sequence (first second : Script)
  | both (first second : Script)
  | either (first second : Script)
  | pipe (first second : Script)
  | negate (s : Script)
  | choose (condition yes no : Script)
  | loop (condition body : Script)
  | forEach (name : String) (words : Option (List (List Part))) (body : Script)
  /-- Goes on with the script of the first branch that has a pattern for the subject. -/
  | select (subject : List Part) (branches : List (List (List Glob) × Script))
  | redirected (s : Script) (redirections : List Redirection)
  | inside (s : Script)

end

/-- A word is made of parts without blanks between them. -/
abbrev Word := List Part

/-- The part as it is where words are not split. -/
def Part.joined : Part → Part
  | .parameter name _ => .parameter (if name = "@" then "*" else name) true
  | .substitution s _ => .substitution s true
  | p => p

instance : Inhabited Script := ⟨.nothing⟩

namespace Script

/-- Reads something off the front of a script text. -/
abbrev Reading (α : Type) := List Char → Option (α × List Char)

def isNameChar (c : Char) : Bool := c.isAlphanum || c == '_'

def isBlankChar (c : Char) : Bool := c == ' ' || c == '\t'

/-- Blanks, joined lines and a comment. -/
def skipBlanks : List Char → List Char
  | '\\' :: '\n' :: rest => skipBlanks rest
  | c :: rest =>
    if isBlankChar c then skipBlanks rest
    else if c = '#' then rest.dropWhile (· ≠ '\n')
    else c :: rest
  | [] => []

/-- Blanks and ends of lines. -/
def skipLines (fuel : Nat) (cs : List Char) : List Char :=
  match fuel with
  | 0 => cs
  | fuel + 1 =>
    match skipBlanks cs with
    | '\n' :: rest => skipLines fuel rest
    | cs => cs

def isOperatorChar (c : Char) : Bool := ";&|()<>\n".toList.contains c

/-- The names of parameters with one character. -/
def isSpecial (c : Char) : Bool := "@*#?$!0123456789".toList.contains c

/-- A parameter after its dollar sign. -/
def parameter? (cs : List Char) : Option (String × List Char) :=
  match cs with
  | '\x7b' :: rest =>
    let name := rest.takeWhile (· ≠ '\x7d')
    match rest.drop name.length with
    | _ :: after => some (String.ofList name, after)
    | [] => none
  | c :: rest =>
    if isSpecial c then some (String.ofList [c], rest)
    else if isNameChar c then
      some (String.ofList (cs.takeWhile isNameChar), cs.dropWhile isNameChar)
    else none
  | [] => none

/-- The commands that begin or end other commands. -/
def closers : List String := ["then", "else", "elif", "fi", "do", "done", "esac", "\x7d"]

/-- A redirection, with the number of its stream if there is one. -/
def redirection? (cs : List Char) : Option (Redirection × List Char) :=
  let digits := cs.takeWhile Char.isDigit
  let number := (String.ofList digits).toNat?
  match cs.drop digits.length with
  | '>' :: rest =>
    let stream := number.getD 1
    let rest := match rest with
      | '>' :: rest => rest
      | rest => rest
    match rest with
    | '&' :: rest =>
      let target := rest.takeWhile Char.isDigit
      match (String.ofList target).toNat? with
      | some n => some (.same stream n, rest.drop target.length)
      | none => if rest.head? = some '-' then some (.discard stream, rest.drop 1) else none
    | rest =>
      let rest := skipBlanks rest
      let name := rest.takeWhile fun c => !isBlankChar c && !isOperatorChar c
      let after := rest.drop name.length
      if name = [] then none
      else if name = "/dev/stderr".toList then some (.same stream 2, after)
      else if name = "/dev/stdout".toList then some (.same stream 1, after)
      else some (.discard stream, after)
  | '<' :: rest =>
    let rest := skipBlanks rest
    let name := rest.takeWhile fun c => !isBlankChar c && !isOperatorChar c
    if name = [] ∨ name.head? = some '&' then none
    else some (.input (String.ofList name), rest.drop name.length)
  | _ => none

/-- An expression up to the two brackets that close it. -/
def expression? (depth : Nat) : List Char → Option (List Char × List Char)
  | [] => none
  | '(' :: rest => (expression? (depth + 1) rest).map fun (cs, rest) => ('(' :: cs, rest)
  | ')' :: rest =>
    match depth with
    | 0 => if rest.head? = some ')' then some ([], rest.tail) else none
    | depth + 1 => (expression? depth rest).map fun (cs, rest) => (')' :: cs, rest)
  | c :: rest => (expression? depth rest).map fun (cs, rest) => (c :: cs, rest)

/-- Passes over a word that must come next. -/
def closed (word : String) (cs : List Char) : Option (List Char) :=
  let cs := skipLines (cs.length + 1) cs
  let name := cs.takeWhile fun c => !isBlankChar c && !isOperatorChar c
  if name = word.toList then some (cs.drop name.length) else none

/-- Puts a part in front of those read after it. -/
def after (p : Part) (r : Option (Word × List Char)) : Option (Word × List Char) :=
  r.map fun (ps, rest) => (p :: ps, rest)

/-- The part for a text that stands for itself. -/
def plain (cs : List Char) : Part := .text (Bytes.ofText (String.ofList cs))

mutual

/-- The parts inside double quotes, up to the closing one. -/
def quotedParts : (fuel : Nat) → Reading Word
  | 0, _ => none
  | fuel + 1, cs =>
    match cs with
    | [] => none
    | '"' :: rest => some ([], rest)
    | '\\' :: c :: rest =>
      let text := if "$`\"\\".toList.contains c then [c] else if c = '\n' then [] else ['\\', c]
      after (plain text) (quotedParts fuel rest)
    | '$' :: '(' :: '(' :: rest =>
      match expression? 0 rest with
      | some (e, rest) => after (.arithmetic e) (quotedParts fuel rest)
      | none => none
    | '$' :: '(' :: rest =>
      match list fuel rest with
      | some (s, ')' :: rest) => after (.substitution s true) (quotedParts fuel rest)
      | _ => none
    | '\x60' :: rest =>
      let inner := rest.takeWhile (· ≠ '\x60')
      match list fuel inner with
      | some (s, []) =>
        after (.substitution s true) (quotedParts fuel (rest.drop (inner.length + 1)))
      | _ => none
    | '$' :: rest =>
      match parameter? rest with
      | some (name, rest) => after (.parameter name true) (quotedParts fuel rest)
      | none => after (plain ['$']) (quotedParts fuel rest)
    | c :: rest =>
      after (plain [c]) (quotedParts fuel rest)

/-- The parts of a word, up to a blank or an operator. -/
def wordParts : (fuel : Nat) → Reading Word
  | 0, _ => none
  | fuel + 1, cs =>
    match cs with
    | [] => some ([], [])
    | '\'' :: rest =>
      let quoted := rest.takeWhile (· ≠ '\'')
      match rest.drop quoted.length with
      | _ :: rest =>
        after (plain quoted) (wordParts fuel rest)
      | [] => none
    | '"' :: rest =>
      match quotedParts fuel rest with
      | some (quoted, rest) =>
        (if quoted.isEmpty then [plain []] else quoted).foldr after (wordParts fuel rest)
      | none => none
    | '\\' :: '\n' :: rest => wordParts fuel rest
    | '\\' :: c :: rest =>
      after (plain [c]) (wordParts fuel rest)
    | '$' :: '(' :: '(' :: rest =>
      match expression? 0 rest with
      | some (e, rest) => after (.arithmetic e) (wordParts fuel rest)
      | none => none
    | '$' :: '(' :: rest =>
      match list fuel rest with
      | some (s, ')' :: rest) => after (.substitution s false) (wordParts fuel rest)
      | _ => none
    | '\x60' :: rest =>
      let inner := rest.takeWhile (· ≠ '\x60')
      match list fuel inner with
      | some (s, []) =>
        after (.substitution s false) (wordParts fuel (rest.drop (inner.length + 1)))
      | _ => none
    | '$' :: rest =>
      match parameter? rest with
      | some (name, rest) => after (.parameter name false) (wordParts fuel rest)
      | none => after (plain ['$']) (wordParts fuel rest)
    | c :: rest =>
      if isBlankChar c || isOperatorChar c then some ([], c :: rest)
      else after (plain [c]) (wordParts fuel rest)

/-- Words and redirections, up to an operator. -/
def wordsUntil : (fuel : Nat) → Reading (List Word × List Redirection)
  | 0, _ => none
  | fuel + 1, cs =>
    let cs := skipBlanks cs
    match redirection? cs with
    | some (r, rest) => (wordsUntil fuel rest).map fun ((ws, rs), rest) => ((ws, r :: rs), rest)
    | none =>
      match cs with
      | [] => some (([], []), [])
      | c :: _ =>
        if isOperatorChar c then some (([], []), cs)
        else match wordParts fuel cs with
          | some (w, rest) => (wordsUntil fuel rest).map fun ((ws, rs), rest) =>
            ((w :: ws, rs), rest)
          | none => none

/-- A command that is not put together with others. -/
def command : (fuel : Nat) → Reading Script
  | 0, _ => none
  | fuel + 1, cs =>
    let cs := skipBlanks cs
    let name := String.ofList (cs.takeWhile fun c => !isBlankChar c && !isOperatorChar c)
    let rest := cs.drop name.length
    let finish (s : Script) (cs : List Char) : Option (Script × List Char) :=
      match wordsUntil fuel cs with
      | some (([], []), rest) => some (s, rest)
      | some (([], rs), rest) => some (.redirected s rs, rest)
      | _ => none
    match cs with
    | '(' :: rest =>
      match list fuel rest with
      | some (s, ')' :: rest) => finish (.inside s) rest
      | _ => none
    | _ =>
      if name = "!" then (command fuel rest).map fun (s, rest) => (.negate s, rest)
      else if name = "\x7b" then do
        let (s, rest) ← list fuel rest
        finish s (← closed "\x7d" rest)
      else if name = "if" then do
        let (s, rest) ← branches fuel rest
        finish s rest
      else if name = "while" ∨ name = "until" then do
        let (condition, rest) ← list fuel rest
        let (body, rest) ← list fuel (← closed "do" rest)
        finish (.loop (if name = "while" then condition else .negate condition) body)
          (← closed "done" rest)
      else if name = "for" then do
        let rest := skipBlanks rest
        let item := rest.takeWhile isNameChar
        let rest := skipLines rest.length (rest.drop item.length)
        let (words, rest) ← match closed "in" rest with
          | some rest => do
            let ((words, _), rest) ← wordsUntil fuel rest
            some (some words, rest)
          | none => some (none, rest)
        let rest := match skipBlanks rest with
          | ';' :: rest => rest
          | rest => rest
        let (body, rest) ← list fuel (← closed "do" rest)
        finish (.forEach (String.ofList item) words body) (← closed "done" rest)
      else if name = "case" then do
        let (subject, rest) ← wordParts fuel (skipBlanks rest)
        let (branches, rest) ← alternatives fuel (← closed "in" rest)
        finish (.select subject branches) rest
      else if closers.contains name then none
      else do
        let (assignments, cs) ← assigned fuel cs
        let ((words, redirections), rest) ← wordsUntil fuel cs
        if assignments.isEmpty ∧ words.isEmpty ∧ redirections.isEmpty then none
        some (.simple assignments words redirections, rest)

/-- The assignments in front of a command. -/
def assigned : (fuel : Nat) → Reading (List (String × Word))
  | 0, _ => none
  | fuel + 1, cs =>
    let cs := skipBlanks cs
    let name := cs.takeWhile isNameChar
    match cs.drop name.length with
    | '=' :: rest =>
      if name = [] ∨ (name.head?.map Char.isDigit).getD true then some ([], cs)
      else do
        let (value, rest) ← wordParts fuel rest
        let (more, rest) ← assigned fuel rest
        some ((String.ofList name, value) :: more, rest)
    | _ => some ([], cs)

/-- The branches of a choice by patterns. -/
def alternatives : (fuel : Nat) → Reading (List (List (List Glob) × Script))
  | 0, _ => none
  | fuel + 1, cs =>
    match closed "esac" cs with
    | some rest => some ([], rest)
    | none => do
      let cs := skipLines (cs.length + 1) cs
      let inside := if cs.head? = some '(' then cs.tail else cs
      let (patterns, rest) ← Glob.readAll? (cs.length + 1) inside
      let (body, rest) ← list fuel rest
      let rest := skipLines (rest.length + 1) rest
      let (more, rest) ← alternatives fuel (match rest with
        | ';' :: ';' :: rest => rest
        | rest => rest)
      some ((patterns, body) :: more, rest)

/-- What follows the word that opens a choice. -/
def branches : (fuel : Nat) → Reading Script
  | 0, _ => none
  | fuel + 1, cs => do
    let (condition, rest) ← list fuel cs
    let (yes, rest) ← list fuel (← closed "then" rest)
    match closed "elif" rest with
    | some rest => do
      let (no, rest) ← branches fuel rest
      some (.choose condition yes no, rest)
    | none =>
      match closed "else" rest with
      | some rest => do
        let (no, rest) ← list fuel rest
        some (.choose condition yes no, ← closed "fi" rest)
      | none => some (.choose condition yes .nothing, ← closed "fi" rest)

/-- Commands with bars between them. -/
def pipeline : (fuel : Nat) → Reading Script
  | 0, _ => none
  | fuel + 1, cs => do
    let (first, rest) ← command fuel cs
    match skipBlanks rest with
    | '|' :: '|' :: _ => some (first, rest)
    | '|' :: rest => do
      let (second, rest) ← pipeline fuel (skipLines rest.length rest)
      some (.pipe first second, rest)
    | _ => some (first, rest)

/-- What follows a pipeline on the same condition. -/
def conditionals : (fuel : Nat) → Script → Reading Script
  | 0, _, _ => none
  | fuel + 1, first, cs =>
    match skipBlanks cs with
    | '&' :: '&' :: rest => do
      let (second, rest) ← pipeline fuel (skipLines rest.length rest)
      conditionals fuel (.both first second) rest
    | '|' :: '|' :: rest => do
      let (second, rest) ← pipeline fuel (skipLines rest.length rest)
      conditionals fuel (.either first second) rest
    | cs => some (first, cs)

/-- Commands one after the other, up to a word or a bracket that closes them. -/
def list : (fuel : Nat) → Reading Script
  | 0, _ => none
  | fuel + 1, cs =>
    let cs := skipLines (cs.length + 1) cs
    let name := String.ofList (cs.takeWhile fun c => !isBlankChar c && !isOperatorChar c)
    if cs = [] ∨ cs.head? = some ')' ∨ [';', ';'].isPrefixOf cs ∨ closers.contains name then
      some (.nothing, cs)
    else do
      let (first, rest) ← pipeline fuel cs
      let (first, rest) ← conditionals fuel first rest
      match skipBlanks rest with
      | ';' :: ';' :: rest => some (first, ';' :: ';' :: rest)
      | ';' :: rest => do
        let (second, rest) ← list fuel rest
        some (.sequence first second, rest)
      | '\n' :: rest => do
        let (second, rest) ← list fuel rest
        some (.sequence first second, rest)
      | rest => some (first, rest)

end

/-- Reads a whole script. -/
def parse? (text : String) : Option Script :=
  match list (4 * text.length + 16) text.toList with
  | some (s, []) => some s
  | _ => none

end Script

end ShaderBuild.Toolbox
