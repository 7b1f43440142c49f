import ShaderBuild.Compile.Driver
import ShaderBuild.Files.Memory
import ShaderBuild.Proofs.Lookup
import ShaderBuild.Proofs.StoredForm

/-!
Sessions: files in memory and a cache, changed by one action after the other. Main statement:
`exists_origin`, by which every entry of the cache was made by a compile call that missed.
-/

namespace ShaderBuild

variable {fingerprint : ShaderKey → Hash128}

/-! ## Compiling -/

namespace Compiler

theorem value_compile (c : Compiler) (cache : Cache fingerprint) (job : CompileJob) :
    (c.compile cache job).value =
      match (cache.find job.key c.resolver).value with
      | some shader => (cache, .ok ⟨shader, true⟩)
      | none =>
        match (c.compileFresh job).value with
        | .panicked => (cache, .panicked)
        | .error e => (cache, .error e)
        | .ok entry => (cache.insert entry, .ok ⟨entry.shader, false⟩) := by
  rw [compile, Traced.value_bind]
  cases (cache.find job.key c.resolver).value with
  | some shader => rfl
  | none =>
    simp only [Traced.value_bind]
    cases (c.compileFresh job).value <;> rfl

theorem value_compileFresh (c : Compiler) (job : CompileJob) :
    (c.compileFresh job).value =
      match (preprocess c.resolver c.depth job.options.defines job.source job.path).value with
      | .panicked => .panicked
      | .error e => .error (.preprocess e)
      | .ok text =>
        match (c.backend.compile ⟨text.code, job.identifier, job.options⟩).value with
        | .error e => .error e
        | .ok code => .ok ⟨job.key, text.dependencies,
            ⟨job.options.stage, c.backend.contentType, job.identifier, code⟩⟩ := by
  rw [compileFresh, Traced.value_bind]
  cases (preprocess c.resolver c.depth job.options.defines job.source job.path).value with
  | panicked => rfl
  | error e => rfl
  | ok text =>
    simp only [Traced.value_bind]
    cases (c.backend.compile ⟨text.code, job.identifier, job.options⟩).value <;> rfl

theorem compileFresh_ok_iff {c : Compiler} {job : CompileJob} {e : CacheEntry} :
    (c.compileFresh job).value = .ok e ↔
      ∃ text code, (preprocess c.resolver c.depth job.options.defines job.source job.path).value =
        .ok text ∧ (c.backend.compile ⟨text.code, job.identifier, job.options⟩).value = .ok code ∧
        e = ⟨job.key, text.dependencies,
          ⟨job.options.stage, c.backend.contentType, job.identifier, code⟩⟩ := by
  rw [value_compileFresh]
  constructor
  · intro h
    cases hpreprocess :
      (preprocess c.resolver c.depth job.options.defines job.source job.path).value with
    | panicked =>
      rw [hpreprocess] at h
      cases h
    | error _ =>
      rw [hpreprocess] at h
      cases h
    | ok text =>
      rw [hpreprocess] at h
      cases hbackend : (c.backend.compile ⟨text.code, job.identifier, job.options⟩).value with
      | error _ => simp [hbackend] at h
      | ok code =>
        simp only [hbackend] at h
        cases h
        exact ⟨text, code, rfl, hbackend, rfl⟩
  · rintro ⟨text, code, hpreprocess, hbackend, rfl⟩
    simp only [hpreprocess, hbackend]

theorem key_of_fresh {c : Compiler} {job : CompileJob} {e : CacheEntry}
    (h : (c.compileFresh job).value = .ok e) : e.key = job.key := by
  obtain ⟨_, _, _, _, rfl⟩ := compileFresh_ok_iff.1 h
  rfl

/-- A call is served by the cache, fails, panics, or adds what it makes to the cache. -/
theorem compile_cases (c : Compiler) (cache : Cache fingerprint) (job : CompileJob) :
    (∃ shader, (cache.find job.key c.resolver).value = some shader ∧
      (c.compile cache job).value = (cache, .ok ⟨shader, true⟩)) ∨
    (∃ e, (cache.find job.key c.resolver).value = none ∧ (c.compileFresh job).value = .error e ∧
      (c.compile cache job).value = (cache, .error e)) ∨
    ((cache.find job.key c.resolver).value = none ∧ (c.compileFresh job).value = .panicked ∧
      (c.compile cache job).value = (cache, .panicked)) ∨
    ∃ e, (cache.find job.key c.resolver).value = none ∧ (c.compileFresh job).value = .ok e ∧
      (c.compile cache job).value = (cache.insert e, .ok ⟨e.shader, false⟩) := by
  rw [value_compile]
  cases (cache.find job.key c.resolver).value with
  | some shader => exact .inl ⟨shader, rfl, rfl⟩
  | none =>
    cases (c.compileFresh job).value with
    | error e => exact .inr (.inl ⟨e, rfl, rfl, rfl⟩)
    | panicked => exact .inr (.inr (.inl ⟨rfl, rfl, rfl⟩))
    | ok e => exact .inr (.inr (.inr ⟨e, rfl, rfl, rfl⟩))

theorem compile_hit_iff {c : Compiler} {cache : Cache fingerprint} {job : CompileJob}
    {shader : Shader} :
    (c.compile cache job).value.2 = .ok ⟨shader, true⟩ ↔
      (cache.find job.key c.resolver).value = some shader := by
  rcases c.compile_cases cache job with
    ⟨_, hfind, hvalue⟩ | ⟨_, hfind, _, hvalue⟩ | ⟨hfind, _, hvalue⟩ | ⟨_, hfind, _, hvalue⟩
  · simp [hfind, hvalue]
  · simp [hfind, hvalue]
  · simp [hfind, hvalue]
  · simp [hfind, hvalue]

/-- What a call adds to the cache. -/
def made? (c : Compiler) (cache : Cache fingerprint) (job : CompileJob) : Option CacheEntry :=
  match (cache.find job.key c.resolver).value with
  | some _ => none
  | none => (c.compileFresh job).value.toOption

theorem entries_compile (c : Compiler) (cache : Cache fingerprint) (job : CompileJob) :
    (c.compile cache job).value.1.entries = cache.entries ++ (c.made? cache job).toList := by
  rw [made?]
  rcases c.compile_cases cache job with
    ⟨_, hfind, hvalue⟩ | ⟨_, hfind, hfresh, hvalue⟩ | ⟨hfind, hfresh, hvalue⟩ | ⟨_, hfind,
      hfresh, hvalue⟩
  · simp [hfind, hvalue]
  · simp [hfind, hfresh, hvalue, Ending.toOption]
  · simp [hfind, hfresh, hvalue, Ending.toOption]
  · simp [hfind, hfresh, hvalue, Ending.toOption]

theorem key_of_made {c : Compiler} {cache : Cache fingerprint} {job : CompileJob} {e : CacheEntry}
    (h : c.made? cache job = some e) : e.key = job.key := by
  rw [made?] at h
  split at h
  · cases h
  · cases hfresh : (c.compileFresh job).value with
    | error _ => simp [hfresh, Ending.toOption] at h
    | panicked => simp [hfresh, Ending.toOption] at h
    | ok made =>
      obtain rfl : made = e := by simpa [hfresh, Ending.toOption] using h
      exact key_of_fresh hfresh

/-- With an empty cache, a call is answered with what it makes. -/
theorem compile_empty_ok_iff {c : Compiler} {job : CompileJob} {shader : Shader} :
    (c.compile (Cache.empty : Cache fingerprint) job).value.2 = .ok ⟨shader, false⟩ ↔
      ∃ e, (c.compileFresh job).value = .ok e ∧ e.shader = shader := by
  rw [value_compile, Cache.find_empty]
  cases (c.compileFresh job).value with
  | error e => simp
  | panicked => simp
  | ok e => simp

end Compiler

/-! ## Storing and reading back -/

namespace Cache

instance (c : Cache fingerprint) : Decidable c.InWords :=
  decidable_of_iff ((∀ text ∈ c.metadataText?, (Bytes.ofText text).length < wordLimit) ∧
      c.region.length < wordLimit)
    ⟨fun h => ⟨h.1, h.2⟩, fun h => ⟨h.metadata_lt, h.region_lt⟩⟩

/-- The cache that is read back after storing. A cache that has no stored form, or none that any
memory could hold, or that cannot be read, is kept. -/
def reload (c : Cache fingerprint) : Cache fingerprint :=
  if c.InWords then
    match c.serialize with
    | .error _ => c
    | .ok b =>
      match deserialize b with
      | .ok d => d
      | .error _ => c
  else c

theorem reload_eq (c : Cache fingerprint) : c.reload = c := by
  rw [reload]
  split
  · rename_i h
    cases hb : c.serialize with
    | error _ => rfl
    | ok b => simp only [deserialize_serialize hb h]
  · rfl

end Cache

/-! ## Sessions -/

/-- What stays the same in a session. -/
structure Setup where
  finder : Finder
  depth : Nat
  backend : Backend

namespace Setup

def resolver (setup : Setup) (m : MemoryFiles) : Resolver := setup.finder.resolver m.files

/-- How the setup compiles over the files that there are. -/
def compiler (setup : Setup) (m : MemoryFiles) : Compiler :=
  ⟨setup.resolver m, setup.depth, setup.backend⟩

end Setup

inductive Action where
  | write (path : Path) (data : Bytes)
  | remove (path : Path)
  | compile (job : CompileJob)
  | clear
  | reload
  deriving DecidableEq, Repr

structure Session (fingerprint : ShaderKey → Hash128) where
  memory : MemoryFiles
  cache : Cache fingerprint

namespace Session

def step (setup : Setup) (s : Session fingerprint) : Action → Session fingerprint
  | .write path data => { s with memory := s.memory.insert path data }
  | .remove path => { s with memory := s.memory.erase path }
  | .compile job => { s with cache := ((setup.compiler s.memory).compile s.cache job).value.1 }
  | .clear => { s with cache := .empty }
  | .reload => { s with cache := s.cache.reload }

/-- The session that some actions lead to from an empty cache. -/
def run (fingerprint : ShaderKey → Hash128) (setup : Setup) (m : MemoryFiles)
    (actions : List Action) :
    Session fingerprint :=
  actions.foldl (step setup) ⟨m, .empty⟩

/-- What a compile call is answered. -/
def answer (setup : Setup) (s : Session fingerprint) (job : CompileJob) :
    Ending CompileError CompileOutcome :=
  ((setup.compiler s.memory).compile s.cache job).value.2

/-- What the same call would be answered if the cache were empty. -/
def freshAnswer (setup : Setup) (s : Session fingerprint) (job : CompileJob) :
    Ending CompileError CompileOutcome :=
  answer setup (⟨s.memory, .empty⟩ : Session fingerprint) job

theorem run_append (setup : Setup) (m : MemoryFiles) (actions : List Action) (a : Action) :
    run fingerprint setup m (actions ++ [a]) = (run fingerprint setup m actions).step setup a := by
  rw [run, run, List.foldl_append]
  rfl

theorem answer_hit_iff {setup : Setup} {s : Session fingerprint} {job : CompileJob}
    {shader : Shader} :
    answer setup s job = .ok ⟨shader, true⟩ ↔
      (s.cache.find job.key (setup.resolver s.memory)).value = some shader :=
  Compiler.compile_hit_iff

/-! ## Origins -/

/-- An entry is made by a call: the call misses and succeeds with the entry. -/
structure Makes (setup : Setup) (s : Session fingerprint) (job : CompileJob) (e : CacheEntry) :
    Prop where
  fresh : ((setup.compiler s.memory).compileFresh job).value = .ok e
  missed : answer setup s job = .ok ⟨e.shader, false⟩

/-- What one action does to the entries: each was there and is not cleared, or it is made by the
action. -/
theorem mem_step {setup : Setup} {s : Session fingerprint} {a : Action} {e : CacheEntry}
    (h : e ∈ (s.step setup a).cache.entries) :
    (e ∈ s.cache.entries ∧ a ≠ .clear) ∨ ∃ job, a = .compile job ∧ Makes setup s job e := by
  cases a with
  | write path data => exact .inl ⟨h, nofun⟩
  | remove path => exact .inl ⟨h, nofun⟩
  | clear => simp [step] at h
  | reload =>
    rw [step, Cache.reload_eq] at h
    exact .inl ⟨h, nofun⟩
  | compile job =>
    rw [step] at h
    rcases (setup.compiler s.memory).compile_cases s.cache job with
      ⟨_, _, hvalue⟩ | ⟨_, _, _, hvalue⟩ | ⟨_, _, hvalue⟩ | ⟨entry, _, hfresh, hvalue⟩
    · rw [hvalue] at h
      exact .inl ⟨h, nofun⟩
    · rw [hvalue] at h
      exact .inl ⟨h, nofun⟩
    · rw [hvalue] at h
      exact .inl ⟨h, nofun⟩
    · rw [hvalue] at h
      rcases List.mem_append.1 h with h | h
      · exact .inl ⟨h, nofun⟩
      · obtain rfl := List.mem_singleton.1 h
        exact .inr ⟨job, rfl, hfresh, by rw [answer, hvalue]⟩

/-- The call among some actions that made an entry, with no clearing behind it. -/
structure Origin (fingerprint : ShaderKey → Hash128) (setup : Setup) (m : MemoryFiles)
    (actions : List Action) (e : CacheEntry) (before : List Action) (job : CompileJob)
    (after : List Action) : Prop where
  split : actions = before ++ .compile job :: after
  kept : .clear ∉ after
  makes : Makes setup (run fingerprint setup m before) job e

theorem exists_origin {setup : Setup} {m : MemoryFiles} {actions : List Action} {e : CacheEntry}
    (h : e ∈ (run fingerprint setup m actions).cache.entries) :
    ∃ before job after, Origin fingerprint setup m actions e before job after := by
  induction actions using List.reverseRecOn with
  | nil => simp [run] at h
  | append_singleton actions a ih =>
    rw [run_append] at h
    rcases mem_step h with ⟨hold, hclear⟩ | ⟨job, rfl, hmakes⟩
    · obtain ⟨before, job, after, hsplit, hkept, hmakes⟩ := ih hold
      refine ⟨before, job, after ++ [a], by simp [hsplit], ?_, hmakes⟩
      intro hmem
      rcases List.mem_append.1 hmem with hmem | hmem
      · exact hkept hmem
      · exact hclear (List.mem_singleton.1 hmem).symm
    · exact ⟨actions, job, [], rfl, nofun, hmakes⟩

end Session

end ShaderBuild
