import Mathlib.Logic.Relation
import ShaderBuild.Proofs.Batch
import ShaderBuild.Proofs.Deliveries

/-!
Jobs that are compiled at the same time through one cache. They look into it and add to it in any
order; a job that missed compiles, even if another one has added what it needs in the meantime. Main
statements: `Leaves.adds`, by which one entry is added for each job that was compiled anew, and
`leaves_of_inOrder`, by which compiling one job after the other is one of the ways. A job that
panics never ends, and the jobs leave nothing behind then.
-/

namespace ShaderBuild

variable {fingerprint : ShaderKey → Hash128}

/-- How far a job is. -/
inductive JobProgress where
  | waiting
  | missed
  | ended (result : Except CompileError CompileOutcome)

/-- What jobs leave behind: the cache, and what became of each. -/
structure Batch (fingerprint : ShaderKey → Hash128) where
  cache : Cache fingerprint
  files : List JobResult

/-- Jobs under way, and the cache they share. -/
structure Pool (fingerprint : ShaderKey → Hash128) where
  cache : Cache fingerprint
  jobs : List (CompileJob × JobProgress)

/-- What became of a job that has ended. -/
def JobProgress.result? : CompileJob × JobProgress → Option JobResult
  | (job, .ended result) => some (job, result)
  | _ => none

namespace Pool

def start (cache : Cache fingerprint) (jobs : List CompileJob) : Pool fingerprint :=
  ⟨cache, jobs.map fun job => (job, .waiting)⟩

def finished (b : Batch fingerprint) : Pool fingerprint :=
  ⟨b.cache, b.files.map fun file => (file.1, .ended file.2)⟩

def results (p : Pool fingerprint) : List JobResult := p.jobs.filterMap JobProgress.result?

@[simp] theorem results_start (cache : Cache fingerprint) (jobs : List CompileJob) :
    (start cache jobs).results = [] := by
  simp [results, start, JobProgress.result?]

@[simp] theorem results_finished (b : Batch fingerprint) : (finished b).results = b.files := by
  simp [results, finished, JobProgress.result?, List.filterMap_map, Function.comp_def]

theorem map_fst_finished (b : Batch fingerprint) :
    (finished b).jobs.map Prod.fst = b.files.map Prod.fst := by
  simp [finished, Function.comp_def]

end Pool

namespace Compiler

/-- A job gets on: it looks into the cache, or it compiles and adds to the cache. -/
inductive Move (c : Compiler) (cache : Cache fingerprint) (job : CompileJob) :
    JobProgress → Cache fingerprint → JobProgress → Prop
  | hit (shader : Shader) : (cache.find job.key c.resolver).value = some shader →
      Move c cache job .waiting cache (.ended (.ok ⟨shader, true⟩))
  | miss : (cache.find job.key c.resolver).value = none → Move c cache job .waiting cache .missed
  | fail (e : CompileError) : (c.compileFresh job).value = .error e →
      Move c cache job .missed cache (.ended (.error e))
  | add (e : CacheEntry) : (c.compileFresh job).value = .ok e →
      Move c cache job .missed (cache.insert e) (.ended (.ok ⟨e.shader, false⟩))

/-- Some job of a pool gets on. -/
inductive Turn (c : Compiler) : Pool fingerprint → Pool fingerprint → Prop
  | move {cache cache' : Cache fingerprint} {job : CompileJob} {progress progress' : JobProgress}
    (before after : List (CompileJob × JobProgress)) : c.Move cache job progress cache' progress' →
      Turn c ⟨cache, before ++ (job, progress) :: after⟩ ⟨cache', before ++
        (job, progress') :: after⟩

/-- What jobs can leave behind that are compiled at the same time. -/
def Leaves (c : Compiler) (cache : Cache fingerprint) (jobs : List CompileJob)
    (b : Batch fingerprint) : Prop :=
  Relation.ReflTransGen c.Turn (Pool.start cache jobs) (Pool.finished b)

/-! ## What is added -/

/-- Whether a job was neither found in the cache nor failed. -/
def isAnew : JobResult → Bool
  | (_, .ok outcome) => !outcome.cacheHit
  | (_, .error _) => false

/-- An entry is what a job was compiled to and answered with. -/
structure MadeFor (c : Compiler) (file : JobResult) (e : CacheEntry) : Prop where
  fresh : (c.compileFresh file.1).value = .ok e
  key : e.key = file.1.key
  answer : file.2 = .ok ⟨e.shader, false⟩

/-- The entries of a pool are those of the cache it started with, and behind them, in any order, one
for each job that was compiled anew. -/
structure Adds (c : Compiler) (cache : Cache fingerprint) (jobs : List CompileJob)
    (p : Pool fingerprint) : Prop where
  jobs : p.jobs.map Prod.fst = jobs
  entries : ∃ new made, p.cache.entries = cache.entries ++ new ∧ made.Perm new ∧
    List.Forall₂ c.MadeFor (p.results.filter isAnew) made

variable {c : Compiler} {cache : Cache fingerprint} {jobs : List CompileJob}

theorem adds_start (c : Compiler) (cache : Cache fingerprint) (jobs : List CompileJob) :
    c.Adds cache jobs (Pool.start cache jobs) := by
  refine ⟨by simp [Pool.start, Function.comp_def], [], [], (List.append_nil _).symm, .refl _, ?_⟩
  rw [Pool.results_start]
  exact .nil

/-- An entry for one more job takes its place among those for the others. -/
theorem exists_made_middle {front back : List JobResult} {made : List CacheEntry} {file : JobResult}
    {e : CacheEntry} (hmade : List.Forall₂ c.MadeFor (front ++ back) made)
    (hnew : c.MadeFor file e) :
    ∃ made', made'.Perm (e :: made) ∧ List.Forall₂ c.MadeFor (front ++ file :: back) made' := by
  induction front generalizing made with
  | nil => exact ⟨e :: made, .refl _, .cons hnew hmade⟩
  | cons first front ih =>
    obtain _ | ⟨hfirst, hrest⟩ := hmade
    rename_i entry rest
    obtain ⟨made', hperm, hmade'⟩ := ih hrest
    exact ⟨entry :: made', (hperm.cons entry).trans (.swap e entry rest), .cons hfirst hmade'⟩

theorem Turn.adds {p p' : Pool fingerprint} (h : c.Turn p p') (hadds : c.Adds cache jobs p) :
    c.Adds cache jobs p' := by
  obtain ⟨before, after, hmove⟩ := h
  obtain ⟨hjobs, new, made, hentries, hperm, hmade⟩ := hadds
  refine ⟨by simpa using hjobs, ?_⟩
  simp only [Pool.results, List.filterMap_append, List.filterMap_cons,
    List.filter_append] at hmade ⊢
  cases hmove with
  | hit shader _ => exact ⟨new, made, hentries, hperm, hmade⟩
  | miss _ => exact ⟨new, made, hentries, hperm, hmade⟩
  | fail e _ => exact ⟨new, made, hentries, hperm, hmade⟩
  | add e hfresh =>
    rename_i job
    have hnew : c.MadeFor (job, .ok ⟨e.shader, false⟩) e := ⟨hfresh, key_of_fresh hfresh, rfl⟩
    -- The entry goes behind all others, wherever its job stands among the jobs.
    obtain ⟨made', hperm', hmade'⟩ := exists_made_middle hmade hnew
    refine ⟨new ++ [e], made', ?_, ?_, hmade'⟩
    · rw [Cache.entries_insert, ← List.append_assoc]
      exact congrArg (· ++ [e]) hentries
    · exact hperm'.trans ((hperm.cons e).trans (List.perm_append_singleton e new).symm)

/-- However jobs take turns, they add one entry for each that was compiled anew. -/
theorem adds_of_turns {p : Pool fingerprint}
    (h : Relation.ReflTransGen c.Turn (Pool.start cache jobs) p) :
    c.Adds cache jobs p := by
  induction h with
  | refl => exact adds_start c cache jobs
  | tail _ hturn ih => exact hturn.adds ih

theorem Leaves.adds {b : Batch fingerprint} (h : c.Leaves cache jobs b) :
    c.Adds cache jobs (Pool.finished b) :=
  adds_of_turns h

/-! ## One after the other -/

theorem turns_of_compile {job : CompileJob} {result : Except CompileError CompileOutcome}
    (h : (c.compile cache job).value.2 = .ofResult result)
    (before after : List (CompileJob × JobProgress)) :
    Relation.ReflTransGen c.Turn ⟨cache, before ++ (job, .waiting) :: after⟩
      ⟨(c.compile cache job).value.1, before ++ (job, .ended result) :: after⟩ := by
  rw [← Ending.result?_eq_some_iff] at h
  rcases c.compile_cases cache job with
    ⟨shader, hfind, hvalue⟩ | ⟨e, hfind, hfresh, hvalue⟩ | ⟨_, _, hvalue⟩ |
    ⟨e, hfind, hfresh, hvalue⟩
  · rw [hvalue] at h ⊢
    cases h
    exact .single (.move before after (.hit shader hfind))
  · rw [hvalue] at h ⊢
    cases h
    exact .tail (.single (.move before after (.miss hfind))) (.move before after (.fail e hfresh))
  · rw [hvalue] at h
    cases h
  · rw [hvalue] at h ⊢
    cases h
    exact .tail (.single (.move before after (.miss hfind))) (.move before after (.add e hfresh))

/-- What the jobs leave behind that are compiled one after the other, unless one of them panics. -/
def inOrder? (c : Compiler) (cache : Cache fingerprint) (jobs : List CompileJob) :
    Option (Batch fingerprint) :=
  ((c.compileMany cache jobs).value.2.mapM Ending.result?).map fun results =>
    ⟨(c.compileMany cache jobs).value.1, jobs.zip results⟩

theorem inOrder?_eq_some_iff {b : Batch fingerprint} : c.inOrder? cache jobs = some b ↔
    ∃ results, (c.compileMany cache jobs).value.2 = results.map .ofResult ∧
      b = ⟨(c.compileMany cache jobs).value.1, jobs.zip results⟩ := by
  rw [inOrder?, Option.map_eq_some_iff]
  constructor
  · rintro ⟨results, hresults, rfl⟩
    exact ⟨results, Ending.mapM_result?_eq_some_iff.1 hresults, rfl⟩
  · rintro ⟨results, hresults, rfl⟩
    exact ⟨results, Ending.mapM_result?_eq_some_iff.2 hresults, rfl⟩

theorem inOrder?_eq_none_iff : c.inOrder? cache jobs = none ↔
    .panicked ∈ (c.compileMany cache jobs).value.2 := by
  rw [inOrder?, Option.map_eq_none_iff, Ending.mapM_result?_eq_none_iff]

/-- The first job returns, and the others start from what it leaves. -/
theorem inOrder?_cons_eq_some {job : CompileJob} {b : Batch fingerprint}
    (h : c.inOrder? cache (job :: jobs) = some b) :
    ∃ result files, (c.compile cache job).value.2 = .ofResult result ∧
      c.inOrder? (c.compile cache job).value.1 jobs = some ⟨b.cache, files⟩ ∧
      b.files = (job, result) :: files := by
  obtain ⟨results, hresults, rfl⟩ := inOrder?_eq_some_iff.1 h
  rw [value_compileMany_cons] at hresults
  obtain ⟨result, rest, rfl, hfirst, hrest⟩ := List.map_eq_cons_iff.1 hresults.symm
  exact ⟨result, jobs.zip rest, hfirst.symm, inOrder?_eq_some_iff.2 ⟨rest, hrest.symm, rfl⟩, rfl⟩

theorem leaves_of_inOrder {b : Batch fingerprint} (h : c.inOrder? cache jobs = some b) :
    c.Leaves cache jobs b := by
  -- In front of the jobs that wait are those that have ended.
  suffices hturns : ∀ before : List (CompileJob × JobProgress),
      Relation.ReflTransGen c.Turn ⟨cache, before ++ (Pool.start cache jobs).jobs⟩
        ⟨b.cache, before ++ (Pool.finished b).jobs⟩ from
    hturns []
  induction jobs generalizing cache b with
  | nil =>
    cases h
    exact fun before => .refl
  | cons job jobs ih =>
    intro before
    obtain ⟨result, files, hresult, hothers, hfiles⟩ := inOrder?_cons_eq_some h
    have hfirst := turns_of_compile hresult before (Pool.start cache jobs).jobs
    have hrest := ih hothers (before ++ [(job, .ended result)])
    simp only [List.append_assoc, List.singleton_append] at hrest
    rw [Pool.finished, hfiles]
    exact hfirst.trans hrest

/-- One after the other, the entries are in the order of the jobs. -/
theorem entries_of_inOrder {b : Batch fingerprint} (h : c.inOrder? cache jobs = some b) :
    ∃ new, b.cache.entries = cache.entries ++ new ∧
      List.Forall₂ c.MadeFor (b.files.filter isAnew) new := by
  -- For every cache: the jobs behind the first start from what it leaves.
  induction jobs generalizing cache b with
  | nil =>
    cases h
    exact ⟨[], (List.append_nil _).symm, .nil⟩
  | cons job jobs ih =>
    obtain ⟨result, files, hresult, hothers, hfiles⟩ := inOrder?_cons_eq_some h
    obtain ⟨new, hentries, hmade⟩ := ih hothers
    rw [← Ending.result?_eq_some_iff] at hresult
    rw [hentries, hfiles]
    rcases c.compile_cases cache job with
      ⟨shader, _, hvalue⟩ | ⟨e, _, _, hvalue⟩ | ⟨_, _, hvalue⟩ | ⟨e, _, hfresh, hvalue⟩
    · rw [hvalue] at hresult ⊢
      cases hresult
      exact ⟨new, rfl, hmade⟩
    · rw [hvalue] at hresult ⊢
      cases hresult
      exact ⟨new, rfl, hmade⟩
    · rw [hvalue] at hresult
      cases hresult
    · rw [hvalue] at hresult ⊢
      cases hresult
      refine ⟨e :: new, List.append_assoc _ _ _, ?_⟩
      exact .cons ⟨hfresh, key_of_fresh hfresh, rfl⟩ hmade

end Compiler

end ShaderBuild
