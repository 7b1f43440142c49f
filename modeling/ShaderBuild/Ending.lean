/-!
How calls end that may panic instead of returning.
-/

namespace ShaderBuild

/-- How a call ends: it returns a value or an error, or it panics and returns nothing. -/
inductive Ending (ε α : Type) where
  | ok (value : α)
  | error (e : ε)
  | panicked
  deriving DecidableEq, Repr

namespace Ending

variable {ε α β : Type}

/-- What a call returned, if it did. -/
def result? : Ending ε α → Option (Except ε α)
  | ok a => some (.ok a)
  | error e => some (.error e)
  | panicked => none

/-- The ending of a call that returns. -/
def ofResult : Except ε α → Ending ε α
  | .ok a => ok a
  | .error e => error e

theorem result?_eq_some_iff {ending : Ending ε α} {result : Except ε α} :
    ending.result? = some result ↔ ending = ofResult result := by
  cases ending <;> cases result <;> simp [result?, ofResult]

theorem mapM_result?_eq_some_iff {endings : List (Ending ε α)} {results : List (Except ε α)} :
    endings.mapM result? = some results ↔ endings = results.map ofResult := by
  induction endings generalizing results with
  | nil => cases results <;> simp
  | cons ending endings ih =>
    cases results with
    | nil => simp [List.mapM_cons, Option.bind_eq_some_iff]
    | cons result results =>
      simp [List.mapM_cons, Option.bind_eq_some_iff, result?_eq_some_iff, ih]

/-- Not all calls return if one of them panics, and only then. -/
theorem mapM_result?_eq_none_iff {endings : List (Ending ε α)} :
    endings.mapM result? = none ↔ panicked ∈ endings := by
  induction endings with
  | nil => simp
  | cons ending endings ih =>
    rw [List.mapM_cons, List.mem_cons, ← ih]
    cases ending with
    | panicked => simp [result?]
    | ok a => cases endings.mapM result? <;> simp [result?]
    | error e => cases endings.mapM result? <;> simp [result?]

def toOption : Ending ε α → Option α
  | ok a => some a
  | _ => none

def isOk : Ending ε α → Bool
  | ok _ => true
  | _ => false

def map (f : α → β) : Ending ε α → Ending ε β
  | ok a => ok (f a)
  | error e => error e
  | panicked => panicked

def mapError {ε' : Type} (f : ε → ε') : Ending ε α → Ending ε' α
  | ok a => ok a
  | error e => error (f e)
  | panicked => panicked

end Ending

end ShaderBuild
