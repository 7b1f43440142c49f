import ShaderBuild.CommandLine.Compile
import Mathlib.Data.List.Induction

/-!
The loop over the files of a compile call. Main statement: `accounted`, by which every file is
counted exactly once, whatever becomes of the files and in whichever order, so that the number of
compiled files is what remains of their number.
-/

namespace ShaderBuild

/-- A job and what became of it. -/
abbrev JobResult := CompileJob × Except CompileError CompileOutcome

namespace CommandLine

/-! ## Counting -/

namespace Delivery

def isCached : Delivery → Bool
  | written _ cacheHit => cacheHit
  | _ => false

def isCompiled : Delivery → Bool
  | written _ cacheHit => !cacheHit
  | _ => false

def isFailed : Delivery → Bool
  | written _ _ => false
  | _ => true

/-- Every file is cached, compiled or failed, and only one of them. -/
theorem countP_add (ds : List Delivery) :
    ds.countP isCached + ds.countP isCompiled + ds.countP isFailed = ds.length := by
  induction ds with
  | nil => rfl
  | cons d ds ih =>
    have hone : (if d.isCached then 1 else 0) + (if d.isCompiled then 1 else 0) +
        (if d.isFailed then 1 else 0) = 1 := by
      rcases d with ⟨_, _ | _⟩ | _ | _ <;> rfl
    rw [List.countP_cons, List.countP_cons, List.countP_cons, List.length_cons]
    omega

end Delivery

namespace Tally

/-- What the counters say after some files. -/
structure Counts (t : Tally) (ds : List Delivery) : Prop where
  cached : t.cached = ds.countP Delivery.isCached
  failed : t.failed = ds.countP Delivery.isFailed

theorem Counts.add {t : Tally} {ds : List Delivery} (h : t.Counts ds) (d : Delivery) :
    (t.add d).Counts (ds ++ [d]) := by
  constructor
  · rw [List.countP_append, ← h.cached]
    rcases d with ⟨_, _ | _⟩ | _ | _ <;> rfl
  · rw [List.countP_append, ← h.failed]
    rcases d with ⟨_, _ | _⟩ | _ | _ <;> rfl

theorem counts_ofDeliveries (ds : List Delivery) : (ofDeliveries ds).Counts ds := by
  -- By the last one: the counters are what they were before it, and one more.
  induction ds using List.reverseRecOn with
  | nil => exact ⟨rfl, rfl⟩
  | append_singleton ds d ih =>
    rw [ofDeliveries, List.foldl_append]
    exact ih.add d

namespace Counts

variable {t : Tally} {ds : List Delivery}

/-- There is room for the files that were compiled. -/
theorem room (h : t.Counts ds) : t.cached + t.failed ≤ ds.length := by
  have hall := Delivery.countP_add ds
  have hcached := h.cached
  have hfailed := h.failed
  omega

theorem compiled (h : t.Counts ds) : t.compiled ds.length = ds.countP Delivery.isCompiled := by
  have hall := Delivery.countP_add ds
  have hcached := h.cached
  have hfailed := h.failed
  rw [Tally.compiled]
  omega

theorem exitCode_iff (h : t.Counts ds) : t.exitCode = 1 ↔ ∃ d ∈ ds, d.isFailed := by
  rw [← List.countP_pos_iff, ← h.failed, exitCode]
  split <;> simp [*]

end Counts

end Tally

/-! ## Deliveries -/

section Delivering

variable {σ : Type} (write : Writer σ) (output : Option Path) (several : Bool) (s : σ)
    (files : List JobResult)

/-- What became of the files, in their order. -/
def deliveries : List Delivery := (deliverAll write output several s files).2.map Prod.snd

/-- What is written before a file's turn comes. -/
def before (i : Nat) : σ := (deliverAll write output several s (files.take i)).1

/-- A file fails: its job did, or its shader cannot be written on what was written before. -/
def FailsAt (i : Nat) : Prop :=
  ∃ job result, files[i]? = some (job, result) ∧
    ((∃ e, result = .error e) ∨ ∃ outcome e, result = .ok outcome ∧
      write (before write output several s files i) (artifactPath job.path output several)
        outcome.shader.code = .error e)

/-- What the counters say of the files: after any number of them, and at the end. -/
structure Accounted (ds : List Delivery) : Prop where
  each : ∀ i : Nat, ds[i]? = files[i]?.map fun file =>
    (deliver write output several (before write output several s files i) file.1 file.2).2
  /-- What is cached or failed never exceeds the files so far. -/
  room : ∀ n ≤ files.length, (Tally.ofDeliveries (ds.take n)).cached +
    (Tally.ofDeliveries (ds.take n)).failed ≤ n
  cached : (Tally.ofDeliveries ds).cached = ds.countP Delivery.isCached
  compiled : (Tally.ofDeliveries ds).compiled files.length = ds.countP Delivery.isCompiled
  failed : (Tally.ofDeliveries ds).failed = ds.countP Delivery.isFailed
  total : (Tally.ofDeliveries ds).cached + (Tally.ofDeliveries ds).compiled files.length +
    (Tally.ofDeliveries ds).failed = files.length
  exit_le : (Tally.ofDeliveries ds).exitCode ≤ 1
  exit_iff : (Tally.ofDeliveries ds).exitCode = 1 ↔ ∃ i, FailsAt write output several s files i

theorem length_deliveries : (deliveries write output several s files).length = files.length := by
  induction files generalizing s with
  | nil => rfl
  | cons file rest ih => exact congrArg _ (ih _)

theorem getElem?_deliveries (i : Nat) :
    (deliveries write output several s files)[i]? = files[i]?.map fun file =>
      (deliver write output several (before write output several s files i) file.1 file.2).2 := by
  induction files generalizing s i with
  | nil => rfl
  | cons file rest ih =>
    cases i with
    | zero => rfl
    | succ i => exact ih _ i

variable {write output several s files}

theorem isFailed_deliver {job : CompileJob} {result : Except CompileError CompileOutcome} :
    (deliver write output several s job result).2.isFailed ↔
      (∃ e, result = .error e) ∨ ∃ outcome e, result = .ok outcome ∧
        write s (artifactPath job.path output several) outcome.shader.code = .error e := by
  cases result with
  | error e => simp [deliver, Delivery.isFailed]
  | ok outcome =>
    cases hwrite : write s (artifactPath job.path output several) outcome.shader.code with
    | error e => simp [deliver, hwrite, Delivery.isFailed]
    | ok s => simp [deliver, hwrite, Delivery.isFailed]

theorem exists_isFailed_iff :
    (∃ d ∈ deliveries write output several s files, d.isFailed) ↔
      ∃ i, FailsAt write output several s files i := by
  constructor
  · rintro ⟨d, hd, hfailed⟩
    obtain ⟨i, hi⟩ := List.mem_iff_getElem?.1 hd
    rw [getElem?_deliveries, Option.map_eq_some_iff] at hi
    obtain ⟨⟨job, result⟩, hfile, rfl⟩ := hi
    exact ⟨i, job, result, hfile, isFailed_deliver.1 hfailed⟩
  · rintro ⟨i, job, result, hfile, hfails⟩
    refine ⟨_, List.mem_iff_getElem?.2 ⟨i, ?_⟩, isFailed_deliver.2 hfails⟩
    rw [getElem?_deliveries, hfile]
    rfl

/-- However files are written and whatever became of their jobs, every file is counted once. -/
theorem accounted :
    Accounted write output several s files (deliveries write output several s files) := by
  have hlength := length_deliveries write output several s files
  have hcounts := Tally.counts_ofDeliveries (deliveries write output several s files)
  have hcompiled := hcounts.compiled
  have hall := Delivery.countP_add (deliveries write output several s files)
  rw [hlength] at hcompiled hall
  refine ⟨getElem?_deliveries write output several s files, ?_, hcounts.cached, hcompiled,
    hcounts.failed, ?_, ?_, ?_⟩
  · intro n hn
    have hroom :=
      (Tally.counts_ofDeliveries ((deliveries write output several s files).take n)).room
    rwa [List.length_take, hlength, Nat.min_eq_left hn] at hroom
  · rw [hcounts.cached, hcompiled, hcounts.failed]
    exact hall
  · rw [Tally.exitCode]
    split <;> omega
  · exact hcounts.exitCode_iff.trans exists_isFailed_iff

end Delivering

end CommandLine

end ShaderBuild
