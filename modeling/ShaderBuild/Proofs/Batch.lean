import ShaderBuild.Proofs.Workspace

/-!
Batches of jobs. Main statement: `compileMany_of_perm`, by which jobs with distinct keys may be
compiled in any order: each is answered as if it were the only one. A job adds entries with its own
key, and a look-up sees no others, whichever fingerprints the keys have.
-/

namespace ShaderBuild

variable {fingerprint : ShaderKey → Hash128}

/-! ## What a look-up sees -/

namespace Cache

theorem find_congr {cache cache' : Cache fingerprint} {key : ShaderKey}
    (h : cache'.candidates key = cache.candidates key) (r : Resolver) :
    cache'.find key r = cache.find key r := by
  simp only [find, h]

end Cache

namespace Compiler

variable {cache cache' : Cache fingerprint} {job : CompileJob}

theorem answer_congr (c : Compiler) (h : cache'.candidates job.key = cache.candidates job.key) :
    (c.compile cache' job).value.2 = (c.compile cache job).value.2 := by
  rw [value_compile, value_compile, Cache.find_congr h]
  cases (cache.find job.key c.resolver).value with
  | some shader => rfl
  | none => cases (c.compileFresh job).value <;> rfl

theorem made_congr (c : Compiler) (h : cache'.candidates job.key = cache.candidates job.key) :
    c.made? cache' job = c.made? cache job := by
  rw [made?, made?, Cache.find_congr h]

theorem events_congr (c : Compiler) (h : cache'.candidates job.key = cache.candidates job.key) :
    (c.compile cache' job).events = (c.compile cache job).events := by
  rw [compile, compile, Traced.events_bind, Traced.events_bind, Cache.find_congr h]
  cases (cache.find job.key c.resolver).value with
  | some shader => rfl
  | none =>
    simp only [Traced.events_bind]
    cases (c.compileFresh job).value <;> rfl

/-- A job adds nothing to the entries with another key. -/
theorem candidates_compile (c : Compiler) (cache : Cache fingerprint) {key : ShaderKey}
    (h : job.key ≠ key) :
    (c.compile cache job).value.1.candidates key = cache.candidates key := by
  have hother : (c.made? cache job).toList.filter (fun e => e.key = key) = [] := by
    rw [List.filter_eq_nil_iff]
    intro e he hkey
    have hmade := key_of_made (Option.mem_toList.1 he)
    exact h (hmade.symm.trans (of_decide_eq_true hkey))
  rw [Cache.candidates_eq, Cache.candidates_eq, entries_compile, List.filter_append, hother,
    List.append_nil]

/-! ## Batches -/

/-- Every job of a batch is answered what it is answered alone, adds the same entry and leaves the
same events. -/
structure Independent (c : Compiler) (cache : Cache fingerprint) (jobs : List CompileJob) :
    Prop where
  answers : (c.compileMany cache jobs).value.2 = jobs.map fun job => (c.compile cache job).value.2
  entries : (c.compileMany cache jobs).value.1.entries =
    cache.entries ++ jobs.filterMap (c.made? cache)
  events : (c.compileMany cache jobs).events = jobs.flatMap fun job => (c.compile cache job).events

theorem value_compileMany_cons (c : Compiler) (cache : Cache fingerprint) (job : CompileJob)
    (jobs : List CompileJob) :
    (c.compileMany cache (job :: jobs)).value =
      ((c.compileMany (c.compile cache job).value.1 jobs).value.1,
        (c.compile cache job).value.2 ::
          (c.compileMany (c.compile cache job).value.1 jobs).value.2) := rfl

theorem events_compileMany_cons (c : Compiler) (cache : Cache fingerprint) (job : CompileJob)
    (jobs : List CompileJob) :
    (c.compileMany cache (job :: jobs)).events =
      (c.compile cache job).events ++
        (c.compileMany (c.compile cache job).value.1 jobs).events := by
  simp [compileMany]

theorem independent_of_nodup (c : Compiler) (cache : Cache fingerprint) {jobs : List CompileJob}
    (hkeys : (jobs.map CompileJob.key).Nodup) : c.Independent cache jobs := by
  -- For every cache, as the jobs behind the first find what it leaves. Under their keys that is
  -- what there was.
  induction jobs generalizing cache with
  | nil => exact ⟨rfl, (List.append_nil _).symm, rfl⟩
  | cons job jobs ih =>
    rw [List.map_cons, List.nodup_cons] at hkeys
    obtain ⟨hnew, hkeys⟩ := hkeys
    have hsame : ∀ other ∈ jobs,
        (c.compile cache job).value.1.candidates other.key = cache.candidates other.key := by
      intro other hother
      refine c.candidates_compile cache fun hkey => hnew ?_
      exact hkey ▸ List.mem_map_of_mem hother
    obtain ⟨hanswers, hentries, hevents⟩ := ih (c.compile cache job).value.1 hkeys
    refine ⟨?_, ?_, ?_⟩
    · rw [value_compileMany_cons, List.map_cons, hanswers]
      exact congrArg _ (List.map_congr_left fun other hother => c.answer_congr (hsame other hother))
    · have hmade := List.filterMap_congr fun other hother => c.made_congr (hsame other hother)
      rw [value_compileMany_cons, hentries, entries_compile, hmade, List.append_assoc,
        List.filterMap_eq_flatMap_toList, List.filterMap_eq_flatMap_toList, List.flatMap_cons]
    · rw [events_compileMany_cons, List.flatMap_cons, hevents]
      exact congrArg _ (List.flatMap_congr fun other hother => c.events_congr (hsame other hother))

/-- Jobs with distinct keys are answered alike in any order, and all that their order decides is
that of the new entries. -/
theorem compileMany_of_perm (c : Compiler) (cache : Cache fingerprint)
    {jobs jobs' : List CompileJob} (hkeys : (jobs.map CompileJob.key).Nodup)
    (hperm : jobs'.Perm jobs) :
    let batch := (c.compileMany cache jobs).value
    let batch' := (c.compileMany cache jobs').value
    (∀ i j : Nat, jobs'[i]? = jobs[j]? → batch'.2[i]? = batch.2[j]?) ∧
      (∃ new new', batch.1.entries = cache.entries ++ new ∧ batch'.1.entries =
        cache.entries ++ new' ∧ new'.Perm new) ∧
      c.Independent cache jobs ∧ c.Independent cache jobs' := by
  intro batch batch'
  have hapart := c.independent_of_nodup cache hkeys
  have hapart' := c.independent_of_nodup cache ((hperm.map CompileJob.key).nodup_iff.2 hkeys)
  refine ⟨fun i j hsame => ?_, ?_, hapart, hapart'⟩
  · rw [hapart.answers, hapart'.answers, List.getElem?_map, List.getElem?_map, hsame]
  · exact ⟨_, _, hapart.entries, hapart'.entries, hperm.filterMap _⟩

/-! ## A batch with a hit, a failure and a miss -/

section Mixed

open Session

def overLibrary : Compiler := (searching ["lib"]).compiler library

/-- All keys have one fingerprint. -/
def onlyBucket : ShaderKey → Hash128 := fun _ => default

def mixed : List CompileJob := [including "<x>" "m", including "<y>" "n", including "<x>" "o"]

theorem fresh_of_missing : (overLibrary.compileFresh (including "<y>" "n")).value =
    .error (.preprocess (.notFound "y" ⟨"n"⟩ 1)) := by
  decide +kernel

theorem answers_mixed {e e' : CacheEntry}
    (hmade : (overLibrary.compileFresh (including "<x>" "m")).value = .ok e)
    (hmade' : (overLibrary.compileFresh (including "<x>" "o")).value = .ok e') :
    mixed.map (fun job =>
      (overLibrary.compile (Cache.empty.insert e : Cache onlyBucket) job).value.2) =
        [.ok ⟨e.shader, true⟩, .error (.preprocess (.notFound "y" ⟨"n"⟩ 1)),
          .ok ⟨e'.shader, false⟩] := by
  have hkey := key_of_fresh hmade
  have hother : ∀ key, key ≠ (including "<x>" "m").key →
      ((Cache.empty.insert e : Cache onlyBucket).find key overLibrary.resolver).value = none := by
    intro key hne
    rw [Cache.find_only, if_neg fun h => hne (h.1.symm.trans hkey)]
  simp only [mixed, List.map_cons, List.map_nil, value_compile]
  rw [Cache.find_only, if_pos ⟨hkey, isValid_of_fresh hmade⟩, hother _ (by decide +kernel),
    hother _ (by decide +kernel), fresh_of_missing, hmade']

theorem compileMany_of_perm_mixed : ∃ (cache : Cache onlyBucket) (shader shader' : Shader),
    (overLibrary.compileMany cache mixed).value.2 =
      [.ok ⟨shader, true⟩, .error (.preprocess (.notFound "y" ⟨"n"⟩ 1)), .ok ⟨shader', false⟩] ∧
    (overLibrary.compileMany cache mixed.reverse).value.2 =
      [.ok ⟨shader', false⟩, .error (.preprocess (.notFound "y" ⟨"n"⟩ 1)), .ok ⟨shader, true⟩] := by
  have hchecked : makes (searching ["lib"]) library (including "<x>" "m") (fun _ => true) =
      true := by
    decide +kernel
  have hchecked' : makes (searching ["lib"]) library (including "<x>" "o") (fun _ => true) =
      true := by
    decide +kernel
  obtain ⟨e, hmade, _⟩ := makes_iff.1 hchecked
  obtain ⟨e', hmade', _⟩ := makes_iff.1 hchecked'
  have hkeys : (mixed.map CompileJob.key).Nodup := by decide +kernel
  obtain ⟨_, _, hapart, hapart'⟩ :=
    compileMany_of_perm overLibrary (Cache.empty.insert e : Cache onlyBucket)
    hkeys (List.reverse_perm mixed)
  have hanswers := answers_mixed hmade hmade'
  refine ⟨Cache.empty.insert e, e.shader, e'.shader, hapart.answers.trans hanswers, ?_⟩
  rw [hapart'.answers, List.map_reverse, hanswers]
  rfl

end Mixed

end Compiler

end ShaderBuild
