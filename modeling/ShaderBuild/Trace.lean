import ShaderBuild.Path

/-!
Results that carry the events seen on the way to them: log records, notes left by loaders
and generators that a caller supplies, and what programs did to the disk.
-/

namespace ShaderBuild

inductive Level where
  | error
  | warn
  | info
  | debug
  | trace
  deriving DecidableEq, Repr, Inhabited

namespace Level

def rank : Level → Nat
  | error => 1
  | warn => 2
  | info => 3
  | debug => 4
  | trace => 5

def name : Level → String
  | error => "ERROR"
  | warn => "WARN"
  | info => "INFO"
  | debug => "DEBUG"
  | trace => "TRACE"

end Level

/-- A log record. Every field holds its value as it is printed. -/
structure Record where
  level : Level
  /-- The part of the program that speaks, as filters name it. -/
  channel : String
  message : String
  fields : List (String × String)
  deriving DecidableEq, Repr

/-- What a program that is run can do to the files on disk. -/
inductive DiskChange where
  | makeDirectory (path : Path)
  | makeLink (path target : Path)
  deriving DecidableEq, Repr

inductive Event where
  | log (record : Record)
  | call (note : String)
  | change (change : DiskChange)
  deriving DecidableEq, Repr

structure Traced (α : Type) where
  value : α
  events : List Event

namespace Traced

def pure {α : Type} (a : α) : Traced α := ⟨a, []⟩

def bind {α β : Type} (x : Traced α) (f : α → Traced β) : Traced β :=
  ⟨(f x.value).value, x.events ++ (f x.value).events⟩

instance : Monad Traced where
  pure := pure
  bind := bind

@[simp] theorem value_pure {α : Type} (a : α) : (Pure.pure a : Traced α).value = a := rfl

@[simp] theorem events_pure {α : Type} (a : α) : (Pure.pure a : Traced α).events = [] := rfl

@[simp] theorem value_bind {α β : Type} (x : Traced α) (f : α → Traced β) :
    (x >>= f).value = (f x.value).value := rfl

@[simp] theorem events_bind {α β : Type} (x : Traced α) (f : α → Traced β) :
    (x >>= f).events = x.events ++ (f x.value).events := rfl

@[simp] theorem value_map {α β : Type} (f : α → β) (x : Traced α) : (f <$> x).value = f x.value :=
  rfl

@[simp] theorem events_map {α β : Type} (f : α → β) (x : Traced α) :
    (f <$> x).events = x.events := by
  simp [Functor.map, bind, pure]

def emit (e : Event) : Traced Unit := ⟨(), [e]⟩

def log (level : Level) (channel message : String) (fields : List (String × String)) :
    Traced Unit :=
  emit (.log ⟨level, channel, message, fields⟩)

/-- The first answer among the attempts; later attempts are not made. -/
def firstSome {α β : Type} (attempt : α → Traced (Option β)) : List α → Traced (Option β)
  | [] => Pure.pure none
  | a :: rest => do
    match ← attempt a with
    | some b => return some b
    | none => firstSome attempt rest

/-- The second attempt stands in when the first has no answer. -/
def orElse {β : Type} (first : Traced (Option β)) (second : Unit → Traced (Option β)) :
    Traced (Option β) := do
  match ← first with
  | some b => return some b
  | none => second ()

theorem value_firstSome {α β : Type} (attempt : α → Traced (Option β)) (as : List α) :
    (firstSome attempt as).value = as.findSome? fun a => (attempt a).value := by
  induction as with
  | nil => rfl
  | cons a rest ih =>
    simp only [firstSome, value_bind, List.findSome?_cons]
    cases (attempt a).value with
    | none => simpa using ih
    | some b => rfl

theorem value_orElse {β : Type} (first : Traced (Option β)) (second : Unit → Traced (Option β)) :
    (orElse first second).value = first.value.or (second ()).value := by
  simp only [orElse, value_bind]
  cases first.value <;> rfl

/-! ## Attempts that agree -/

/-- What follows an attempt matters only for the value that the attempt has. -/
theorem bind_congr {α β : Type} {x : Traced α} {f g : α → Traced β} (h : f x.value = g x.value) :
    x >>= f = x >>= g := by
  show bind x f = bind x g
  unfold bind
  rw [h]

theorem orElse_congr {β : Type} {first : Traced (Option β)}
    {second second' : Unit → Traced (Option β)} (h : first.value = none → second () = second' ()) :
    orElse first second = orElse first second' := by
  unfold orElse
  apply bind_congr
  cases hfirst : first.value with
  | some b => rfl
  | none => exact h hfirst

theorem firstSome_congr {α β : Type} {attempt attempt' : α → Traced (Option β)} {as : List α}
    (h : ∀ a ∈ as, attempt a = attempt' a) : firstSome attempt as = firstSome attempt' as := by
  induction as with
  | nil => rfl
  | cons a rest ih =>
    rw [firstSome, firstSome, h a List.mem_cons_self, ih fun b hb => h b (.tail _ hb)]

/-- Attempts behind one that has an answer are not made. -/
theorem firstSome_append_of_isSome {α β : Type} {attempt : α → Traced (Option β)} {as : List α}
    (h : (firstSome attempt as).value.isSome) (bs : List α) :
    firstSome attempt (as ++ bs) = firstSome attempt as := by
  induction as with
  | nil => simp [firstSome] at h
  | cons a rest ih =>
    rw [List.cons_append, firstSome, firstSome]
    apply bind_congr
    cases hanswer : (attempt a).value with
    | some b => rfl
    | none =>
      rw [firstSome, value_bind, hanswer] at h
      exact ih h

/-- The notes among the events, in order. -/
def calls {α : Type} (x : Traced α) : List String :=
  x.events.filterMap fun
    | .call note => some note
    | _ => none

/-- The log records among the events, in order. -/
def records {α : Type} (x : Traced α) : List Record :=
  x.events.filterMap fun
    | .log r => some r
    | _ => none

/-- What was done to the disk, in order. -/
def changes {α : Type} (x : Traced α) : List DiskChange :=
  x.events.filterMap fun
    | .change c => some c
    | _ => none

end Traced

end ShaderBuild
