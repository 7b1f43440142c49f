import ShaderBuild.Proofs.Reuse

/-!
Workspaces: any files and a cache, changed one step after the other. What a step may do to the
entries of the cache is said once, in `Becomes`. Main statement: `orderly_run`, by which the entries
of a cache that started empty are well formed whatever was done to it, so that shaders are labelled
as requested and every include of a served entry exists.
-/

namespace ShaderBuild

variable {fingerprint : ShaderKey → Hash128}

/-! ## Workspaces -/

/-- A job with the depth limit and the backend that it is compiled with. -/
structure CompileCall where
  job : CompileJob
  depth : Nat
  backend : Backend

inductive Act where
  /-- The files become others: some are written, removed or linked. -/
  | edit (files : Files)
  | compile (call : CompileCall)

/-- A way to put entries into another order. -/
structure Arrangement where
  arrange : List CacheEntry → List CacheEntry
  perm : ∀ entries, (arrange entries).Perm entries

/-- What may happen to files and a cache. -/
inductive Step where
  | act (a : Act)
  | clear
  /-- The cache is stored and read back. -/
  | reload
  /-- A new cache is made of the entries, in another order. -/
  | rebuild (order : Arrangement)

structure Workspace (fingerprint : ShaderKey → Hash128) where
  files : Files
  cache : Cache fingerprint

namespace Workspace

def resolver (finder : Finder) (w : Workspace fingerprint) : Resolver := finder.resolver w.files

def compiler (finder : Finder) (w : Workspace fingerprint) (call : CompileCall) : Compiler :=
  ⟨w.resolver finder, call.depth, call.backend⟩

@[simp] theorem compiler_resolver (finder : Finder) (w : Workspace fingerprint)
    (call : CompileCall) :
    (w.compiler finder call).resolver = w.resolver finder := rfl

def result (finder : Finder) (w : Workspace fingerprint) (call : CompileCall) :
    Traced (Cache fingerprint × Ending CompileError CompileOutcome) :=
  (w.compiler finder call).compile w.cache call.job

def answer (finder : Finder) (w : Workspace fingerprint) (call : CompileCall) :
    Ending CompileError CompileOutcome := (w.result finder call).value.2

def act (finder : Finder) (w : Workspace fingerprint) : Act → Workspace fingerprint
  | .edit files => { w with files }
  | .compile call => { w with cache := (w.result finder call).value.1 }

def step (finder : Finder) (w : Workspace fingerprint) : Step → Workspace fingerprint
  | .act a => w.act finder a
  | .clear => { w with cache := .empty }
  | .reload => { w with cache := w.cache.reload }
  | .rebuild order => { w with cache := .ofList (order.arrange w.cache.entries) }

def run (finder : Finder) (w : Workspace fingerprint) (steps : List Step) : Workspace fingerprint :=
  steps.foldl (step finder) w

variable {finder : Finder} {w : Workspace fingerprint}

/-- The four outcomes of a call in a workspace. -/
theorem result_cases (finder : Finder) (w : Workspace fingerprint) (call : CompileCall) :
    (∃ shader, (w.cache.find call.job.key (w.resolver finder)).value = some shader ∧
      (w.result finder call).value = (w.cache, .ok ⟨shader, true⟩)) ∨
    (∃ e, (w.cache.find call.job.key (w.resolver finder)).value = none ∧
      ((w.compiler finder call).compileFresh call.job).value = .error e ∧
      (w.result finder call).value = (w.cache, .error e)) ∨
    ((w.cache.find call.job.key (w.resolver finder)).value = none ∧
      ((w.compiler finder call).compileFresh call.job).value = .panicked ∧
      (w.result finder call).value = (w.cache, .panicked)) ∨
    ∃ e, (w.cache.find call.job.key (w.resolver finder)).value = none ∧
      ((w.compiler finder call).compileFresh call.job).value = .ok e ∧
      (w.result finder call).value = (w.cache.insert e, .ok ⟨e.shader, false⟩) :=
  (w.compiler finder call).compile_cases w.cache call.job

theorem act_of_found {call : CompileCall} {shader : Shader}
    (h : (w.cache.find call.job.key (w.resolver finder)).value = some shader) :
    w.act finder (.compile call) = w := by
  rcases w.result_cases finder call with
    ⟨_, _, hresult⟩ | ⟨_, hmissed, _, _⟩ | ⟨hmissed, _, _⟩ | ⟨_, hmissed, _, _⟩
  · rw [act, hresult]
  · rw [h] at hmissed
    cases hmissed
  · rw [h] at hmissed
    cases hmissed
  · rw [h] at hmissed
    cases hmissed

section Missed

variable {call : CompileCall}
    (hmissed : (w.cache.find call.job.key (w.resolver finder)).value = none)

include hmissed

theorem result_of_missed {e : CacheEntry}
    (hmade : ((w.compiler finder call).compileFresh call.job).value = .ok e) :
    (w.result finder call).value = (w.cache.insert e, .ok ⟨e.shader, false⟩) := by
  rw [result, Compiler.value_compile, compiler_resolver, hmissed, hmade]

theorem act_of_missed {e : CacheEntry}
    (hmade : ((w.compiler finder call).compileFresh call.job).value = .ok e) :
    w.act finder (.compile call) = ⟨w.files, w.cache.insert e⟩ := by
  rw [act, result_of_missed hmissed hmade]

theorem answer_of_missed {e : CacheEntry}
    (hmade : ((w.compiler finder call).compileFresh call.job).value = .ok e) :
    w.answer finder call = .ok ⟨e.shader, false⟩ := by
  rw [answer, result_of_missed hmissed hmade]

theorem answer_of_failed {e : CompileError}
    (hfailed : ((w.compiler finder call).compileFresh call.job).value = .error e) :
    w.answer finder call = .error e := by
  rw [answer, result, Compiler.value_compile, compiler_resolver, hmissed, hfailed]

end Missed

/-- What the entries of the cache may become in one step. -/
inductive Becomes (finder : Finder) (w : Workspace fingerprint) : List CacheEntry → Prop
  | clear : Becomes finder w []
  | arrange {entries : List CacheEntry} (perm : entries.Perm w.cache.entries) :
    Becomes finder w entries
  | add {call : CompileCall} {e : CacheEntry}
      (missed : (w.cache.find call.job.key (w.resolver finder)).value = none)
      (made : ((w.compiler finder call).compileFresh call.job).value = .ok e) :
      Becomes finder w (w.cache.entries ++ [e])

theorem becomes_step (finder : Finder) (w : Workspace fingerprint) (s : Step) :
    w.Becomes finder (w.step finder s).cache.entries := by
  cases s with
  | clear => exact .clear
  | reload =>
    rw [step, Cache.reload_eq]
    exact .arrange (.refl _)
  | rebuild order =>
    rw [step, Cache.entries_ofList]
    exact .arrange (order.perm _)
  | act a =>
    cases a with
    | edit files => exact .arrange (.refl _)
    | compile call =>
      simp only [step, act]
      rcases w.result_cases finder call with
        ⟨_, _, hresult⟩ | ⟨_, _, _, hresult⟩ | ⟨_, _, hresult⟩ | ⟨e, hmissed, hmade, hresult⟩
      · rw [hresult]
        exact .arrange (.refl _)
      · rw [hresult]
        exact .arrange (.refl _)
      · rw [hresult]
        exact .arrange (.refl _)
      · rw [hresult]
        exact .add hmissed hmade

end Workspace

/-! ## Well-formed entries -/

/-- The shader is labelled as the key asks for, and every include was found and is recorded with its
digest. -/
structure CacheEntry.WellFormed (e : CacheEntry) : Prop where
  stage_eq : e.shader.stage = e.key.options.stage
  hint_eq : e.shader.hint = e.key.identifier
  contents_ne : ∀ d ∈ e.dependencies, d.contents ≠ ""
  digest_eq : ∀ d ∈ e.dependencies, d.digest = Digest.ofText d.contents

theorem Compiler.wellFormed_of_fresh {finder : Finder} {files : Files} {depth : Nat}
    {backend : Backend} {job : CompileJob} {e : CacheEntry}
    (h : ((Compiler.mk (finder.resolver files) depth backend).compileFresh job).value = .ok e) :
    e.WellFormed := by
  have hrecorded := recordedBy_of_fresh h
  obtain ⟨text, code, _, _, rfl⟩ := compileFresh_ok_iff.1 h
  refine ⟨rfl, rfl, fun d hd => ?_, fun d hd => ?_⟩
  · obtain ⟨t, ht⟩ := (hrecorded d hd).exists_text
    rw [(hrecorded d hd).contents_eq, ht]
    exact Finder.contents_ne_of_request ht
  · rw [(hrecorded d hd).digest_eq, (hrecorded d hd).contents_eq]
    rfl

/-- An include with contents is unchanged only if it is still there. -/
theorem Dependency.exists_text_of_unchanged {d : Dependency} {r : Resolver} (hne : d.contents ≠ "")
    (h : (d.isUnchanged r).value = true) :
    ∃ t, (d.resolve r).value = some t ∧ t.contents = d.contents := by
  have hcontents := (isUnchanged_iff.1 h).2
  cases hfound : (d.resolve r).value with
  | none =>
    rw [hfound] at hcontents
    exact absurd hcontents.symm hne
  | some t =>
    rw [hfound] at hcontents
    exact ⟨t, rfl, hcontents⟩

namespace Workspace

/-- The cache behaves as one that only calls have filled. -/
structure Orderly (finder : Finder) (w : Workspace fingerprint) : Prop where
  wellFormed : ∀ e ∈ w.cache.entries, e.WellFormed
  /-- Hit or miss, the shader is for the requested stage and named after the requested path. -/
  labelled : ∀ call outcome, w.answer finder call = .ok outcome →
    outcome.shader.stage = call.job.options.stage ∧ outcome.shader.hint = call.job.identifier
  /-- On a hit, there is a text for every include of the entry that is served. -/
  present : ∀ call shader, w.answer finder call = .ok ⟨shader, true⟩ →
    ∃ e ∈ w.cache.entries, w.cache.served? call.job.key (w.resolver finder) = some e ∧
      e.shader = shader ∧ ∀ d ∈ e.dependencies, ∃ t, (d.resolve (w.resolver finder)).value =
        some t ∧ t.contents ≠ ""

variable {finder : Finder} {w : Workspace fingerprint}

theorem wellFormed_of_becomes {entries : List CacheEntry} (h : ∀ e ∈ w.cache.entries, e.WellFormed)
    (hentries : w.Becomes finder entries) : ∀ e ∈ entries, e.WellFormed := by
  cases hentries with
  | clear => exact List.forall_mem_nil _
  | arrange perm => exact fun e he => h e (perm.subset he)
  | add _ made =>
    intro e he
    rcases List.mem_append.1 he with he | he
    · exact h e he
    · obtain rfl := List.mem_singleton.1 he
      exact Compiler.wellFormed_of_fresh made

theorem labelled_of_wellFormed {e : CacheEntry} {job : CompileJob} (h : e.WellFormed)
    (hkey : e.key = job.key) :
    e.shader.stage = job.options.stage ∧ e.shader.hint = job.identifier := by
  rw [h.stage_eq, h.hint_eq, hkey]
  exact ⟨rfl, rfl⟩

theorem orderly_of_wellFormed (h : ∀ e ∈ w.cache.entries, e.WellFormed) : w.Orderly finder := by
  refine ⟨h, fun call outcome hanswer => ?_, fun call shader hanswer => ?_⟩
  · rw [answer] at hanswer
    rcases w.result_cases finder call with
      ⟨_, hfound, hresult⟩ | ⟨_, _, _, hresult⟩ | ⟨_, _, hresult⟩ | ⟨_, _, hmade, hresult⟩
    · rw [hresult] at hanswer
      cases hanswer
      obtain ⟨e, hmem, hkey, rfl, _⟩ := Cache.exists_of_find hfound
      exact labelled_of_wellFormed (h e hmem) hkey
    · rw [hresult] at hanswer
      cases hanswer
    · rw [hresult] at hanswer
      cases hanswer
    · rw [hresult] at hanswer
      cases hanswer
      exact labelled_of_wellFormed (Compiler.wellFormed_of_fresh hmade)
        (Compiler.key_of_fresh hmade)
  · have hfound := Compiler.compile_hit_iff.1 hanswer
    rw [Cache.find_eq_served] at hfound
    obtain ⟨e, hserved, rfl⟩ := Option.map_eq_some_iff.1 hfound
    obtain ⟨hmem, _, hvalid⟩ := Cache.mem_of_served hserved
    refine ⟨e, hmem, hserved, rfl, fun d hd => ?_⟩
    have hne := (h e hmem).contents_ne d hd
    obtain ⟨t, ht, hcontents⟩ :=
      Dependency.exists_text_of_unchanged hne (List.all_eq_true.1 hvalid d hd)
    exact ⟨t, ht, hcontents ▸ hne⟩

/-- Whatever is done to a cache that started empty, it stays orderly. -/
theorem orderly_run (finder : Finder) (files : Files) (steps : List Step) :
    ((⟨files, .empty⟩ : Workspace fingerprint).run finder steps).Orderly finder := by
  apply orderly_of_wellFormed
  refine List.foldlRecOn (motive := fun w : Workspace fingerprint => ∀ e ∈
    w.cache.entries, e.WellFormed)
    steps _ (by simp) ?_
  intro w hw s _
  exact wellFormed_of_becomes hw (w.becomes_step finder s)

/-! ## A call that is made again -/

open Session

/-- The library with another text for its header. -/
def edited : MemoryFiles := .ofTexts [("lib/x", "2\n")]

/-- A call, and what happens to the cache before the same call is made again. -/
def betweenCalls (call : CompileCall) : List Step :=
  [.act (.compile call), .rebuild ⟨List.reverse, List.reverse_perm⟩, .reload]

section MadeAgain

variable {files : Files} {call : CompileCall} {e : CacheEntry}
  (hmade : ((Compiler.mk (finder.resolver files) call.depth call.backend).compileFresh
    call.job).value = .ok e)

include hmade

theorem act_of_empty :
    (⟨files, .empty⟩ : Workspace fingerprint).act finder (.compile call) =
      ⟨files, Cache.empty.insert e⟩ := by
  have hmissed :
    ((Cache.empty : Cache fingerprint).find call.job.key (finder.resolver files)).value = none :=
    Cache.find_empty _ _
  exact act_of_missed hmissed hmade

theorem run_betweenCalls :
    (⟨files, .empty⟩ : Workspace fingerprint).run finder (betweenCalls call) =
      ⟨files, Cache.empty.insert e⟩ := by
  simp only [run, betweenCalls, List.foldl_cons, List.foldl_nil, step, act_of_empty hmade,
    Cache.reload_eq]
  rfl

theorem answer_again :
    (⟨files, Cache.empty.insert e⟩ : Workspace fingerprint).answer finder call =
      .ok ⟨e.shader, true⟩ := by
  have hkey := Compiler.key_of_fresh hmade
  have hvalid := Compiler.isValid_of_fresh hmade
  have hfound :
    ((Cache.empty.insert e : Cache fingerprint).find call.job.key (finder.resolver files)).value =
      some e.shader := by
    rw [Cache.find_only, if_pos ⟨hkey, hvalid⟩]
  exact Compiler.compile_hit_iff.2 hfound

end MadeAgain

/-- The call is made again after the cache was rebuilt, stored and read back. -/
theorem orderly_run_betweenCalls :
    let call : CompileCall := ⟨including "<x>" "m", defaultDepth, echo⟩
    let w :=
      (⟨library.files, .empty⟩ : Workspace ShaderKey.fingerprint).run (searching ["lib"]).finder
      (betweenCalls call)
    ∃ shader, w.answer (searching ["lib"]).finder call = .ok ⟨shader, true⟩ ∧
      shader.stage = .fragment ∧ shader.hint = "m" ∧
      ∃ e ∈ w.cache.entries, e.shader = shader ∧ e.dependencies ≠ [] ∧
        ∀ d ∈ e.dependencies, ∃ t,
          (d.resolve (w.resolver (searching ["lib"]).finder)).value = some t ∧ t.contents ≠ "" := by
  intro call w
  have hchecked : makes (searching ["lib"]) library call.job (fun e => !e.dependencies.isEmpty) =
      true := by
    decide +kernel
  obtain ⟨e, hmade, hsome⟩ := makes_iff.1 hchecked
  have hrun : w = ⟨library.files, Cache.empty.insert e⟩ := run_betweenCalls hmade
  have hhit : w.answer (searching ["lib"]).finder call = .ok ⟨e.shader, true⟩ := by
    rw [hrun]
    exact answer_again hmade
  have horderly : w.Orderly (searching ["lib"]).finder := orderly_run _ _ _
  obtain ⟨e', hmem, _, hshader, hpresent⟩ := horderly.present call e.shader hhit
  obtain ⟨hstage, hhint⟩ := horderly.labelled call _ hhit
  have hidentifier : call.job.identifier = "m" := by decide +kernel
  refine ⟨e.shader, hhit, hstage, hhint.trans hidentifier, e', hmem, hshader, ?_, hpresent⟩
  rw [hrun] at hmem
  obtain rfl : e' = e := by simpa using hmem
  simpa using hsome

end Workspace

end ShaderBuild
