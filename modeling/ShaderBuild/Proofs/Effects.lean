import Mathlib.Data.List.Forall2
import ShaderBuild.Proofs.Workspace

/-!
What calls leave behind. Main statement: `effects_of_acts`. A hit, a failure or a panic can be taken
out of any run and nobody will notice, the backend is asked once for each call that misses and is
preprocessed, and each success that is not a hit is one more entry at the end of the cache.
-/

namespace ShaderBuild

variable {fingerprint : ShaderKey → Hash128}

/-! ## The part of the backend in a call -/

namespace Compiler

/-- What the backend is asked to compile: the preprocessed text of a job that the cache does not
serve. -/
def request? (c : Compiler) (cache : Cache fingerprint) (job : CompileJob) :
    Option CompileRequest :=
  match (cache.find job.key c.resolver).value with
  | some _ => none
  | none =>
    match (preprocess c.resolver c.depth job.options.defines job.source job.path).value with
    | .ok text => some ⟨text.code, job.identifier, job.options⟩
    | _ => none

/-- What happens in a call before the backend is asked. -/
def preparation (c : Compiler) (cache : Cache fingerprint) (job : CompileJob) : List Event :=
  let found := cache.find job.key c.resolver
  found.events ++
    match found.value with
    | some _ => []
    | none => (preprocess c.resolver c.depth job.options.defines job.source job.path).events

theorem events_compileFresh (c : Compiler) (job : CompileJob) :
    (c.compileFresh job).events =
      (preprocess c.resolver c.depth job.options.defines job.source job.path).events ++
        match (preprocess c.resolver c.depth job.options.defines job.source job.path).value with
        | .ok text => (c.backend.compile ⟨text.code, job.identifier, job.options⟩).events
        | _ => [] := by
  rw [compileFresh, Traced.events_bind]
  congr 1
  cases (preprocess c.resolver c.depth job.options.defines job.source job.path).value with
  | error e => rfl
  | panicked => rfl
  | ok text =>
    simp only [Traced.events_bind]
    cases (c.backend.compile ⟨text.code, job.identifier, job.options⟩).value <;> simp

theorem events_compile_of_missed {c : Compiler} {cache : Cache fingerprint} {job : CompileJob}
    (h : (cache.find job.key c.resolver).value = none) :
    (c.compile cache job).events = (cache.find job.key c.resolver).events ++
      (c.compileFresh job).events := by
  rw [compile, Traced.events_bind, h]
  simp only [Traced.events_bind]
  cases (c.compileFresh job).value <;> simp

/-- The backend has the last word in a call, and nothing before depends on it. -/
theorem events_compile (c : Compiler) (cache : Cache fingerprint) (job : CompileJob) :
    (c.compile cache job).events = c.preparation cache job ++
      (c.request? cache job).elim [] fun request => (c.backend.compile request).events := by
  rw [preparation, request?]
  cases hfind : (cache.find job.key c.resolver).value with
  | some shader =>
    rw [compile_of_find hfind]
    simp
  | none =>
    rw [events_compile_of_missed hfind, events_compileFresh, List.append_assoc]
    cases (preprocess c.resolver c.depth job.options.defines job.source job.path).value <;> rfl

end Compiler

/-- The same backend, which leaves a note whenever it is asked. -/
def Backend.noting (note : CompileRequest → String) (b : Backend) : Backend where
  contentType := b.contentType
  compile request := do
    Traced.emit (.call (note request))
    b.compile request

namespace Compiler

def noting (note : CompileRequest → String) (c : Compiler) : Compiler :=
  { c with backend := c.backend.noting note }

variable (note : CompileRequest → String) (c : Compiler) (cache : Cache fingerprint)
    (job : CompileJob)

theorem value_compile_noting :
    ((c.noting note).compile cache job).value = (c.compile cache job).value := by
  rw [value_compile, value_compile, value_compileFresh, value_compileFresh]
  rfl

/-- There is one note for the request, if there is one. -/
theorem events_compile_noting : ((c.noting note).compile cache job).events.Perm
    ((c.request? cache job).toList.map (fun request => .call (note request)) ++
      (c.compile cache job).events) := by
  have hpreparation : (c.noting note).preparation cache job = c.preparation cache job := rfl
  have hrequest : (c.noting note).request? cache job = c.request? cache job := rfl
  -- The note stands between the preparation and what the backend does.
  rw [events_compile, events_compile, hpreparation, hrequest]
  cases c.request? cache job with
  | none => exact .refl _
  | some request => exact List.perm_middle

end Compiler

def CompileCall.noting (note : CompileRequest → String) (call : CompileCall) : CompileCall :=
  { call with backend := call.backend.noting note }

def Act.noting (note : CompileRequest → String) : Act → Act
  | .edit files => .edit files
  | .compile call => .compile (call.noting note)

/-! ## Histories -/

/-- An act, with the workspace before it and what it came to if it is a call. -/
structure Moment (fingerprint : ShaderKey → Hash128) where
  before : Workspace fingerprint
  act : Act
  outcome : Option (Traced (Ending CompileError CompileOutcome))

namespace Moment

def answer? (m : Moment fingerprint) : Option (Ending CompileError CompileOutcome) :=
  m.outcome.map Traced.value

def events (m : Moment fingerprint) : List Event := m.outcome.elim [] Traced.events

/-- A call that the cache serves, that fails or that panics. -/
def Idle (m : Moment fingerprint) : Prop :=
  (∃ shader, m.answer? = some (.ok ⟨shader, true⟩)) ∨ (∃ e, m.answer? = some (.error e)) ∨
    m.answer? = some .panicked

/-- The key and the shader of a call that succeeds without the cache. -/
def added? (m : Moment fingerprint) : Option (ShaderKey × Shader) :=
  match m.act, m.answer? with
  | .compile call, some (.ok ⟨shader, false⟩) => some (call.job.key, shader)
  | _, _ => none

/-- What the backend is asked in a call. -/
def request? (finder : Finder) (m : Moment fingerprint) : Option CompileRequest :=
  match m.act with
  | .edit _ => none
  | .compile call => (m.before.compiler finder call).request? m.before.cache call.job

end Moment

namespace Workspace

def moment (finder : Finder) (w : Workspace fingerprint) : Act → Moment fingerprint
  | .edit files => ⟨w, .edit files, none⟩
  | .compile call => ⟨w, .compile call, some (Prod.snd <$> w.result finder call)⟩

def perform (finder : Finder) (w : Workspace fingerprint) (acts : List Act) :
    Workspace fingerprint :=
  acts.foldl (act finder) w

def history (finder : Finder) (w : Workspace fingerprint) : List Act → List (Moment fingerprint)
  | [] => []
  | a :: acts => w.moment finder a :: history finder (w.act finder a) acts

variable {finder : Finder} {w : Workspace fingerprint}

/-! ## Taking out idle calls -/

/-- Some idle calls of a history are left out. -/
inductive Thinned : List (Moment fingerprint) → List (Moment fingerprint) → Prop
  | nil : Thinned [] []
  | keep (m : Moment fingerprint) {moments kept : List (Moment fingerprint)}
    (rest : Thinned moments kept) :
      Thinned (m :: moments) (m :: kept)
  | drop {m : Moment fingerprint} {moments kept : List (Moment fingerprint)} (idle : m.Idle)
      (rest : Thinned moments kept) : Thinned (m :: moments) kept

theorem act_moment (finder : Finder) (w : Workspace fingerprint) (a : Act) :
    (w.moment finder a).act = a := by
  cases a <;> rfl

theorem answer_moment (finder : Finder) (w : Workspace fingerprint) (call : CompileCall) :
    (w.moment finder (.compile call)).answer? = some (w.answer finder call) := rfl

theorem events_moment (finder : Finder) (w : Workspace fingerprint) (call : CompileCall) :
    (w.moment finder (.compile call)).events = (w.result finder call).events :=
  Traced.events_map _ _

theorem act_of_idle {a : Act} (h : (w.moment finder a).Idle) : w.act finder a = w := by
  cases a with
  | edit files =>
    rcases h with ⟨_, h⟩ | ⟨_, h⟩ | h
    · cases h
    · cases h
    · cases h
  | compile call =>
    rcases w.result_cases finder call with
      ⟨_, _, hresult⟩ | ⟨_, _, _, hresult⟩ | ⟨_, _, hresult⟩ | ⟨_, _, _, hresult⟩
    · rw [act, hresult]
    · rw [act, hresult]
    · rw [act, hresult]
    · rw [Moment.Idle, answer_moment, answer, hresult] at h
      simp at h

theorem history_of_thinned {acts : List Act} {kept : List (Moment fingerprint)}
    (h : Thinned (w.history finder acts) kept) :
    w.history finder (kept.map Moment.act) = kept ∧
      w.perform finder (kept.map Moment.act) = w.perform finder acts := by
  induction acts generalizing w kept with
  | nil =>
    cases h
    exact ⟨rfl, rfl⟩
  | cons a acts ih =>
    cases h with
    | keep m rest =>
      obtain ⟨hhistory, hperform⟩ := ih rest
      rw [List.map_cons, act_moment]
      exact ⟨congrArg _ hhistory, hperform⟩
    | drop idle rest =>
      -- The other acts start from the workspace that there was.
      rw [act_of_idle idle] at rest
      obtain ⟨hhistory, hperform⟩ := ih rest
      refine ⟨hhistory, hperform.trans ?_⟩
      rw [perform, perform, List.foldl_cons, act_of_idle idle]

/-! ## Requests to the backend -/

/-- The same moment, but for a note where the backend is asked. -/
structure Notes (finder : Finder) (note : CompileRequest → String)
    (noted plain : Moment fingerprint) : Prop where
  before_eq : noted.before = plain.before
  act_eq : noted.act = plain.act.noting note
  answer_eq : noted.answer? = plain.answer?
  events_perm : noted.events.Perm
    ((plain.request? finder).toList.map (fun request => .call (note request)) ++ plain.events)

theorem value_result_noting (finder : Finder) (w : Workspace fingerprint)
    (note : CompileRequest → String) (call : CompileCall) :
    (w.result finder (call.noting note)).value = (w.result finder call).value :=
  (w.compiler finder call).value_compile_noting note w.cache call.job

theorem act_noting (finder : Finder) (w : Workspace fingerprint) (note : CompileRequest → String)
    (a : Act) :
    w.act finder (a.noting note) = w.act finder a := by
  cases a with
  | edit files => rfl
  | compile call => rw [Act.noting, act, act, value_result_noting]

theorem notes_moment (finder : Finder) (w : Workspace fingerprint) (note : CompileRequest → String)
    (a : Act) :
    Notes finder note (w.moment finder (a.noting note)) (w.moment finder a) := by
  cases a with
  | edit files => exact ⟨rfl, rfl, rfl, .refl _⟩
  | compile call =>
    refine ⟨rfl, rfl, ?_, ?_⟩
    · rw [Act.noting, answer_moment, answer_moment, answer, answer, value_result_noting]
    · rw [Act.noting, events_moment, events_moment]
      exact (w.compiler finder call).events_compile_noting note w.cache call.job

theorem history_noting (finder : Finder) (w : Workspace fingerprint)
    (note : CompileRequest → String) (acts : List Act) :
    List.Forall₂ (Notes finder note) (w.history finder (acts.map (Act.noting note)))
      (w.history finder acts) := by
  induction acts generalizing w with
  | nil => exact .nil
  | cons a acts ih =>
    rw [List.map_cons, history, history, act_noting]
    exact .cons (w.notes_moment finder note a) (ih _)

/-! ## New entries -/

theorem entries_act (finder : Finder) (w : Workspace fingerprint) (a : Act) :
    ∃ new, (w.act finder a).cache.entries = w.cache.entries ++ new ∧
      new.map (fun e => (e.key, e.shader)) = (w.moment finder a).added?.toList := by
  cases a with
  | edit files => exact ⟨[], (List.append_nil _).symm, rfl⟩
  | compile call =>
    rw [act, Moment.added?, act_moment, answer_moment, answer]
    rcases w.result_cases finder call with
      ⟨_, _, hresult⟩ | ⟨_, _, _, hresult⟩ | ⟨_, _, hresult⟩ | ⟨e, _, hmade, hresult⟩
    · rw [hresult]
      exact ⟨[], (List.append_nil _).symm, rfl⟩
    · rw [hresult]
      exact ⟨[], (List.append_nil _).symm, rfl⟩
    · rw [hresult]
      exact ⟨[], (List.append_nil _).symm, rfl⟩
    · have hkey := Compiler.key_of_fresh hmade
      rw [hresult]
      exact ⟨[e], rfl, by rw [List.map_singleton, hkey]; rfl⟩

theorem entries_perform (finder : Finder) (w : Workspace fingerprint) (acts : List Act) :
    ∃ new, (w.perform finder acts).cache.entries = w.cache.entries ++ new ∧
      new.map (fun e => (e.key, e.shader)) = (w.history finder acts).filterMap Moment.added? := by
  induction acts generalizing w with
  | nil => exact ⟨[], (List.append_nil _).symm, rfl⟩
  | cons a acts ih =>
    obtain ⟨first, hfirst, hadded⟩ := w.entries_act finder a
    obtain ⟨rest, hrest, hothers⟩ := ih (w.act finder a)
    refine ⟨first ++ rest, ?_, ?_⟩
    · rw [← List.append_assoc, ← hfirst]
      exact hrest
    · rw [List.map_append, hadded, hothers, history, List.filterMap_eq_flatMap_toList,
        List.filterMap_eq_flatMap_toList, List.flatMap_cons]

/-- Any calls that were served by the cache, failed or panicked can be left out without a difference
to the others and to the outcome of a run. A call asks the backend just for what it misses and has
preprocessed, once. The run adds the shaders of the successes that missed to the end of the cache,
in their order, and nothing else. -/
theorem effects_of_acts (finder : Finder) (w : Workspace fingerprint) (acts : List Act) :
    (∀ kept, Thinned (w.history finder acts) kept →
      w.history finder (kept.map Moment.act) = kept ∧
        w.perform finder (kept.map Moment.act) = w.perform finder acts) ∧
    (∀ note : CompileRequest → String,
      List.Forall₂ (Notes finder note) (w.history finder (acts.map (Act.noting note)))
        (w.history finder acts)) ∧
    ∃ new, (w.perform finder acts).cache.entries = w.cache.entries ++ new ∧
      new.map (fun e => (e.key, e.shader)) = (w.history finder acts).filterMap Moment.added? :=
  ⟨fun _ h => history_of_thinned h, fun note => w.history_noting finder note acts,
    w.entries_perform finder acts⟩

/-! ## A hit and a failure among other acts -/

section Eventful

open Session

/-- Compiles nothing. -/
def refusing : Backend := ⟨.glsl, fun request => return .error (.emptyOutput request.identifier)⟩

def plainCall : CompileCall := ⟨including "<x>" "m", defaultDepth, echo⟩

def refusedCall : CompileCall := ⟨including "<x>" "n", defaultDepth, refusing⟩

def eventful : List Act :=
  [.compile plainCall, .compile plainCall, .compile refusedCall, .edit edited.files,
    .compile plainCall]

/-- What is left without the hit and the failure. -/
def uneventful : List Act := [.compile plainCall, .edit edited.files, .compile plainCall]

/-- The five moments, of which the second and the third are idle. -/
theorem history_eventful {one other : Workspace fingerprint}
    (hfirst : w.act finder (.compile plainCall) = one)
    (hhit : (one.moment finder (.compile plainCall)).Idle)
    (hfailure : (one.moment finder (.compile refusedCall)).Idle)
    (hedit : one.act finder (.edit edited.files) = other) :
    w.history finder eventful =
      [w.moment finder (.compile plainCall), one.moment finder (.compile plainCall),
        one.moment finder (.compile refusedCall), one.moment finder (.edit edited.files),
        other.moment finder (.compile plainCall)] := by
  simp only [eventful, history, hfirst, act_of_idle hhit, act_of_idle hfailure, hedit]

/-- A library whose header is edited between calls. -/
theorem effects_of_acts_eventful :
    let finder := (searching ["lib"]).finder
    let w : Workspace ShaderKey.fingerprint := ⟨library.files, .empty⟩
    ∃ shader shader',
      (w.history finder eventful).map Moment.answer? =
        [some (.ok ⟨shader, false⟩), some (.ok ⟨shader, true⟩), some (.error (.emptyOutput "n")),
          none, some (.ok ⟨shader', false⟩)] ∧
      (w.history finder uneventful).map Moment.answer? =
        [some (.ok ⟨shader, false⟩), none, some (.ok ⟨shader', false⟩)] ∧
      w.perform finder uneventful = w.perform finder eventful := by
  intro finder w
  have hchecked : makes (searching ["lib"]) library plainCall.job
      (fun e => !sameContents (searching ["lib"]) edited e) = true := by
    decide +kernel
  have hchecked' : makes (searching ["lib"]) edited plainCall.job (fun _ => true) = true := by
    decide +kernel
  have hfailed : ((Compiler.mk (finder.resolver library.files) defaultDepth refusing).compileFresh
      refusedCall.job).value = .error (.emptyOutput "n") := by
    decide +kernel
  obtain ⟨e, hmade, hchanged⟩ := makes_iff.1 hchecked
  obtain ⟨e', hmade', _⟩ := makes_iff.1 hchecked'
  let one : Workspace ShaderKey.fingerprint := ⟨library.files, Cache.empty.insert e⟩
  let other : Workspace ShaderKey.fingerprint := ⟨edited.files, Cache.empty.insert e⟩
  have hkey := Compiler.key_of_fresh hmade
  have hinvalid : Cache.isValid (finder.resolver edited.files) e = false :=
    isValid_of_otherContents (by simpa using hchanged)
  have hnone : (w.cache.find plainCall.job.key (w.resolver finder)).value = none :=
    Cache.find_empty _ _
  have hunseen : (one.cache.find refusedCall.job.key (one.resolver finder)).value = none := by
    rw [Cache.find_only, if_neg fun h => absurd (hkey.symm.trans h.1) (by decide +kernel)]
  have houtdated : (other.cache.find plainCall.job.key (other.resolver finder)).value = none := by
    rw [Cache.find_only, if_neg fun h => absurd (hinvalid.symm.trans h.2) (by decide)]
  have hmiss : w.answer finder plainCall = .ok ⟨e.shader, false⟩ := answer_of_missed hnone hmade
  have hhit : one.answer finder plainCall = .ok ⟨e.shader, true⟩ := answer_again hmade
  have hfailure : one.answer finder refusedCall = .error (.emptyOutput "n") :=
    answer_of_failed hunseen hfailed
  have hlast : other.answer finder plainCall = .ok ⟨e'.shader, false⟩ :=
    answer_of_missed houtdated hmade'
  have hidle : (one.moment finder (.compile plainCall)).Idle := .inl ⟨_, congrArg some hhit⟩
  have hidle' : (one.moment finder (.compile refusedCall)).Idle :=
    .inr (.inl ⟨_, congrArg some hfailure⟩)
  have hfirst : w.act finder (.compile plainCall) = one := act_of_empty hmade
  have hhistory := history_eventful hfirst hidle hidle' (rfl : _ = other)
  have hthinned : Thinned (w.history finder eventful)
      [w.moment finder (.compile plainCall), one.moment finder (.edit edited.files),
        other.moment finder (.compile plainCall)] := by
    rw [hhistory]
    exact .keep _ (.drop hidle (.drop hidle' (.keep _ (.keep _ .nil))))
  obtain ⟨hkept, hperform⟩ := (effects_of_acts finder w eventful).1 _ hthinned
  refine ⟨e.shader, e'.shader, ?_, ?_, hperform⟩
  · rw [hhistory]
    simp only [List.map_cons, List.map_nil, answer_moment, hmiss, hhit, hfailure, hlast]
    rfl
  · refine (congrArg _ hkept).trans ?_
    simp only [List.map_cons, List.map_nil, answer_moment, hmiss, hlast]
    rfl

end Eventful

end Workspace

end ShaderBuild
