import ShaderBuild.Proofs.DiskContents
import ShaderBuild.Proofs.Simultaneous

/-!
Runs of the compile command, whose jobs are compiled at the same time. Main statement:
`compile_accounts_for_files`, by which a run counts every file, fails exactly if a file or the
saving of the cache fails, and leaves the entries of all files that were compiled anew behind those
that were loaded, those of files that could not be written among them.
-/

namespace ShaderBuild.CommandLine

/-! ## Runs -/

/-- A compile call whose jobs are read and whose output directory is there. -/
structure ReadyCall where
  disk : Disk
  programs : Programs
  project : Project
  call : CompileCall
  jobs : List CompileJob
  ready : Disk
  ready_eq : makeOutput disk call (1 < jobs.length) = .ok ready

namespace ReadyCall

variable (c : ReadyCall)

/-- The cache that was loaded. -/
def start : ShaderCache :=
  match cacheFileFor c.project c.call with
  | some file => (Cache.loadOrEmpty c.disk file).value
  | none => .empty

def compiler : Compiler :=
  ⟨(c.project.finder c.disk c.call.includeDirs).value.resolver c.ready.files,
    c.project.settings.compiler.depth, c.project.settings.compiler.command.backend
      c.programs .spirv⟩

def several : Bool := 1 < c.jobs.length

end ReadyCall

/-- A call with what its jobs leave behind. -/
structure CompileRun extends ReadyCall where
  batch : Batch ShaderKey.fingerprint
  leaves : toReadyCall.compiler.Leaves toReadyCall.start jobs batch
  /-- The disk once the programs have ended that the jobs ran. -/
  settled : Disk

namespace CompileRun

variable (r : CompileRun)

def deliveries : List Delivery :=
  CommandLine.deliveries Disk.write r.call.output r.several r.settled r.batch.files

/-- The disk after all shaders are written. -/
def delivered : Disk := (deliverAll Disk.write r.call.output r.several r.settled r.batch.files).1

def saved : Disk × Except CommandError Unit :=
  (saveCache r.delivered r.batch.cache (cacheFileFor r.project r.call)).value

/-- What is said of the files on the way. -/
def said (quiet : Bool) : String :=
  if quiet then ""
  else Outcome.lines
    ((deliverAll Disk.write r.call.output r.several r.settled r.batch.files).2.filterMap
      fun (job, d) => d.outputLine? job)

def complaints : String :=
  Outcome.lines
    ((deliverAll Disk.write r.call.output r.several r.settled r.batch.files).2.filterMap
      fun (_, d) => d.errorLine?)

def outcome (quiet : Bool) : Outcome :=
  match r.saved.2 with
  | .error e => .failed r.saved.1 (r.said quiet) r.complaints e
  | .ok () =>
    let tally := Tally.ofDeliveries r.deliveries
    let last := if quiet then "" else Outcome.line (tally.summary r.jobs.length)
    ⟨r.saved.1, tally.exitCode, r.said quiet ++ last, r.complaints⟩

/-- What a run says and leaves. It fails if a file does, or if the cache cannot be saved. -/
structure Reports (quiet : Bool) (outcome : Outcome) : Prop where
  jobs : r.batch.files.map Prod.fst = r.jobs
  accounted : Accounted Disk.write r.call.output r.several r.settled r.batch.files r.deliveries
  code_le : outcome.code ≤ 1
  code_iff : outcome.code = 1 ↔
    (∃ i, FailsAt Disk.write r.call.output r.several r.settled r.batch.files i) ∨
      ∃ e, r.saved.2 = .error e
  summary : r.saved.2 = .ok () → quiet = false →
    ∃ said, outcome.output =
      said ++ Outcome.line ((Tally.ofDeliveries r.deliveries).summary r.jobs.length)
  /-- The cache file is read back as the entries that were loaded, and behind them one for each
  job that was compiled anew, whether or not its shader could be written. -/
  cache : r.saved.2 = .ok () → ∀ file, cacheFileFor r.project r.call = some file →
    r.batch.cache.InWords → ∃ (data : Bytes) (stored : ShaderCache) (new made : List CacheEntry),
      r.delivered.Wrote outcome.disk file data ∧ Cache.deserialize data = .ok stored ∧
        stored.entries = r.start.entries ++ new ∧ made.Perm new ∧
        List.Forall₂ r.compiler.MadeFor (r.batch.files.filter Compiler.isAnew) made

theorem saved_eq {file : Path} (hfile : cacheFileFor r.project r.call = some file) :
    r.saved = ((r.batch.cache.save r.delivered file).value.1,
      (r.batch.cache.save r.delivered file).value.2.mapError .cache) := by
  rw [saved, hfile]
  rfl

theorem saved_ok_iff {file : Path} (hfile : cacheFileFor r.project r.call = some file)
    {after : Disk} :
    r.saved = (after, .ok ()) ↔ (r.batch.cache.save r.delivered file).value = (after, .ok ()) := by
  rw [r.saved_eq hfile]
  rcases (r.batch.cache.save r.delivered file).value with ⟨_, _ | _⟩ <;> simp [Except.mapError]

theorem reports (quiet : Bool) : r.Reports quiet (r.outcome quiet) := by
  have haccounted : Accounted Disk.write r.call.output r.several r.settled r.batch.files
    r.deliveries := accounted
  obtain ⟨hjobs, new, made, hentries, hperm, hmade⟩ := r.leaves.adds
  rw [Pool.map_fst_finished] at hjobs
  rw [Pool.results_finished] at hmade
  cases hsaved : r.saved.2 with
  | error e =>
    rw [outcome, hsaved]
    refine ⟨hjobs, haccounted, Nat.le_refl 1, ⟨fun _ => .inr ⟨e, hsaved⟩, fun _ => rfl⟩, ?_, ?_⟩
    · simp [hsaved]
    · simp [hsaved]
  | ok _ =>
    rw [outcome, hsaved]
    refine ⟨hjobs, haccounted, haccounted.exit_le, ?_, ?_, ?_⟩
    · rw [hsaved]
      simpa using haccounted.exit_iff
    · intro _ hquiet
      exact ⟨_, by rw [hquiet]; rfl⟩
    · intro _ file hfile hwords
      obtain ⟨data, hdata, hwrote⟩ :=
        Cache.wrote_of_save ((r.saved_ok_iff hfile).1 (Prod.ext rfl hsaved))
      exact ⟨data, r.batch.cache, new, made, hwrote, Cache.deserialize_serialize hdata hwords,
        hentries, hperm, hmade⟩

end CompileRun

namespace ReadyCall

variable (c : ReadyCall)

/-- The disk with what the programs do to it if one job is compiled after the other. -/
def settledInOrder : Disk := c.ready.changedBy (c.compiler.compileMany c.start c.jobs).changes

/-- The run that compiles one job after the other, unless one of them panics. -/
def inOrder? : Option CompileRun :=
  (c.compiler.inOrder? c.start c.jobs).attach.map fun b =>
    ⟨c, b.1, Compiler.leaves_of_inOrder b.2, c.settledInOrder⟩

theorem inOrder?_of_some {b : Batch ShaderKey.fingerprint}
    (h : c.compiler.inOrder? c.start c.jobs = some b) :
    c.inOrder? = some ⟨c, b, Compiler.leaves_of_inOrder h, c.settledInOrder⟩ := by
  simp only [inOrder?, Option.map_eq_some_iff, Option.attach_eq_some_iff]
  exact ⟨⟨b, h⟩, h, rfl⟩

theorem inOrder?_eq_none_iff : c.inOrder? = none ↔
    .panicked ∈ (c.compiler.compileMany c.start c.jobs).value.2 := by
  rw [inOrder?, Option.map_eq_none_iff, Option.attach_eq_none_iff, Compiler.inOrder?_eq_none_iff]

theorem value_compileJobs (quiet : Bool) :
    (compileJobs c.disk c.programs c.project quiet c.call c.jobs).value =
      c.inOrder?.elim (.panicked c.settledInOrder) fun r => r.outcome quiet := by
  -- What follows on the cache is written out for either way to have one.
  have hloaded (rest : ShaderCache → Traced Outcome) :
      (match cacheFileFor c.project c.call with
        | some file => Cache.loadOrEmpty c.disk file >>= rest
        | none => pure Cache.empty >>= rest).value = (rest c.start).value := by
    rw [start]
    cases cacheFileFor c.project c.call <;> rfl
  have hended (result : Except CommandError Unit) (failed : CommandError → Outcome)
    (done : Outcome) :
      (match result with
        | .error e => pure (failed e)
        | .ok () => pure done : Traced Outcome).value =
        match result with
        | .error e => failed e
        | .ok () => done := by
    cases result <;> rfl
  rw [compileJobs]
  simp only [c.ready_eq]
  refine (hloaded _).trans ?_
  cases hbatch : c.compiler.inOrder? c.start c.jobs with
  | none =>
    have hpanicked := Ending.mapM_result?_eq_none_iff.2 (Compiler.inOrder?_eq_none_iff.1 hbatch)
    rw [c.inOrder?_eq_none_iff.2 (Compiler.inOrder?_eq_none_iff.1 hbatch)]
    simp only [compiler] at hpanicked
    simp only [Traced.value_bind, hpanicked, Option.elim]
    rfl
  | some b =>
    obtain ⟨results, hresults, rfl⟩ := Compiler.inOrder?_eq_some_iff.1 hbatch
    have hreturned := Ending.mapM_result?_eq_some_iff.2 hresults
    rw [c.inOrder?_of_some hbatch]
    simp only [compiler] at hreturned
    simp only [Traced.value_bind, hreturned]
    exact hended _ _ _

theorem entries_of_inOrder {r : CompileRun} (h : c.inOrder? = some r) :
    r.toReadyCall = c ∧ ∃ new, r.batch.cache.entries = c.start.entries ++ new ∧
      List.Forall₂ c.compiler.MadeFor (r.batch.files.filter Compiler.isAnew) new := by
  obtain ⟨⟨b, hbatch⟩, _, rfl⟩ := Option.map_eq_some_iff.1 h
  exact ⟨rfl, Compiler.entries_of_inOrder hbatch⟩

end ReadyCall

namespace CompileRun

/-! ## A run with a shader that cannot be written -/

section Blocked

/-- A directory is where the shader of `b.vert` should go. -/
def blockedDisk : Disk :=
  ⟨[(["w"], .directory), (["w", "b.vert.spv"], .directory)], ["w"]⟩

def writtenDisk (data : Bytes) : Disk := blockedDisk.put ["w", "a.vert.spv"] (.file data)

def plainProject : Project where
  root := ⟨"/w"⟩
  settings := { Settings.standalone with
    cache := ⟨"cache.bin", true⟩
    compiler := { CompilerSettings.usual with command := ⟨"cat", [], [], []⟩, optimize := false } }

/-- Every program puts out its input. -/
def puttingOut : Programs := fun _ _ input => return .ok ⟨.exited 0, input, []⟩

def vertexJob (name source : String) : CompileJob :=
  ⟨source, ⟨name⟩, plainProject.settings.compileOptions .vertex []⟩

def one : CompileJob := vertexJob "a.vert" "void main() {}\n"
def two : CompileJob := vertexJob "b.vert" "void main() { }\n"
def nothing : CompileJob := vertexJob "c.vert" ""

def entryOf (job : CompileJob) : CacheEntry :=
  ⟨job.key, [], ⟨.vertex, .spirv, job.identifier, Bytes.ofText job.source⟩⟩

/-- A file that is compiled and written, one that is compiled and not written, one that is not
compiled, and the first again. -/
def blockedCall : ReadyCall where
  disk := blockedDisk
  programs := puttingOut
  project := plainProject
  call := ⟨[one.path, two.path, nothing.path, one.path], none, none, [], [], true⟩
  jobs := [one, two, nothing, one]
  ready := blockedDisk
  ready_eq := rfl

/-- What its jobs leave behind. -/
def blockedBatch : Batch ShaderKey.fingerprint :=
  ⟨(Cache.empty.insert (entryOf one)).insert (entryOf two),
    [(one, .ok ⟨(entryOf one).shader, false⟩), (two, .ok ⟨(entryOf two).shader, false⟩),
      (nothing, .error (.emptyOutput "c.vert")), (one, .ok ⟨(entryOf one).shader, true⟩)]⟩

theorem linkless_blockedDisk : blockedDisk.Linkless := Disk.linkless_of_entries (by decide +kernel)

theorem linkless_writtenDisk (data : Bytes) : (writtenDisk data).Linkless :=
  linkless_blockedDisk.put (List.cons_ne_nil _ _) data

theorem start_blocked : blockedCall.start = .empty := by
  have hread : blockedDisk.read ⟨"/w/cache.bin"⟩ = .error .noEntry := by
    simp only [Disk.read, Disk.find, Disk.walk_eq_walkDirectly linkless_blockedDisk]
    rfl
  show (Cache.loadOrEmpty blockedDisk ⟨"/w/cache.bin"⟩).value = .empty
  simp only [Cache.loadOrEmpty, Cache.load, hread, Traced.value_bind, Traced.value_pure]

theorem inOrder_blocked :
    blockedCall.compiler.inOrder? blockedCall.start blockedCall.jobs = some blockedBatch := by
  have hone : (blockedCall.compiler.compileFresh one).value = .ok (entryOf one) := by decide +kernel
  have htwo : (blockedCall.compiler.compileFresh two).value = .ok (entryOf two) := by decide +kernel
  have hnothing : (blockedCall.compiler.compileFresh nothing).value =
      .error (.emptyOutput "c.vert") := by decide +kernel
  let single : ShaderCache := Cache.empty.insert (entryOf one)
  let both : ShaderCache := single.insert (entryOf two)
  have hunseen : both.entries.filter (fun e => e.key = nothing.key) = [] := by decide +kernel
  have hseen : both.entries.filter (fun e => e.key = one.key) = [entryOf one] := by decide +kernel
  have hfirst : (blockedCall.compiler.compile Cache.empty one).value =
      (single, .ok ⟨(entryOf one).shader, false⟩) := by
    rw [Compiler.value_compile, Cache.find_empty, hone]
  have hsecond : (blockedCall.compiler.compile single two).value =
      (both, .ok ⟨(entryOf two).shader, false⟩) := by
    rw [Compiler.value_compile, Cache.find_only, if_neg fun h => absurd h.1 (by decide +kernel),
      htwo]
  have hthird : (blockedCall.compiler.compile both nothing).value =
      (both, .error (.emptyOutput "c.vert")) := by
    rw [Compiler.value_compile, Cache.value_find, hunseen, hnothing]
    rfl
  have hlast : (blockedCall.compiler.compile both one).value =
      (both, .ok ⟨(entryOf one).shader, true⟩) := by
    rw [Compiler.value_compile, Cache.value_find, hseen]
    rfl
  show blockedCall.compiler.inOrder? blockedCall.start [one, two, nothing, one] = _
  rw [start_blocked]
  simp only [Compiler.inOrder?, Compiler.value_compileMany_cons, hfirst, hsecond, hthird, hlast]
  rfl

def blocked : CompileRun :=
  ⟨blockedCall, blockedBatch, Compiler.leaves_of_inOrder inOrder_blocked, blockedDisk⟩

theorem inWords_blocked : blocked.batch.1.InWords := by
  have hentries : blocked.batch.1.entries = [entryOf one, entryOf two] := rfl
  apply Cache.inWords_of_entries hentries
  · decide +kernel
  · decide +kernel

theorem dirsAreTexts_blocked : blocked.batch.1.DirsAreTexts := by
  have hentries : blocked.batch.1.entries = [entryOf one, entryOf two] := rfl
  rw [Cache.DirsAreTexts, hentries]
  simp [entryOf]

theorem delivered_blocked :
    deliverAll Disk.write none blocked.several blockedDisk blocked.batch.files =
      (writtenDisk (Bytes.ofText one.source),
        [(one, .written ⟨"a.vert.spv"⟩ false), (two, .unwritable ⟨"b.vert.spv"⟩ .isDirectory),
          (nothing, .uncompiled (.emptyOutput "c.vert")),
            (one, .written ⟨"a.vert.spv"⟩ true)]) := by
  have hfirst (data : Bytes) : blockedDisk.write ⟨"a.vert.spv"⟩ data = .ok (writtenDisk data) := by
    simp only [Disk.write, Disk.locate, Disk.find, Disk.walk_eq_walkDirectly linkless_blockedDisk]
    rfl
  have hsecond (data data' : Bytes) : (writtenDisk data).write ⟨"b.vert.spv"⟩ data' =
      .error .isDirectory := by
    simp only [Disk.write, Disk.locate, Disk.find,
      Disk.walk_eq_walkDirectly (linkless_writtenDisk data)]
    rfl
  have hlast (data data' : Bytes) : (writtenDisk data).write ⟨"a.vert.spv"⟩ data' =
      .ok (writtenDisk data') := by
    simp only [Disk.write, Disk.locate, Disk.find,
      Disk.walk_eq_walkDirectly (linkless_writtenDisk data)]
    rfl
  have hpath (several : Bool) : artifactPath one.path none several = ⟨"a.vert.spv"⟩ := by
    cases several <;> decide +kernel
  have hpath' (several : Bool) : artifactPath two.path none several = ⟨"b.vert.spv"⟩ := by
    cases several <;> decide +kernel
  show deliverAll Disk.write none _ blockedDisk [(one, _), (two, _), (nothing, _), (one, _)] = _
  simp only [deliverAll, deliver, hpath, hpath', hfirst, hsecond, hlast]
  rfl

theorem saved_blocked : ∃ after, blocked.saved = (after, .ok ()) := by
  let written := writtenDisk (Bytes.ofText one.source)
  have hlinkless : written.Linkless := linkless_writtenDisk _
  have hdelivered : blocked.delivered = written := congrArg Prod.fst delivered_blocked
  have hthere : written.makeDirectory ⟨"/w"⟩ = .error .alreadyExists := by
    simp only [Disk.makeDirectory, Disk.locate, Disk.walk_eq_walkDirectly hlinkless]
    rfl
  have hdirectory : written.isDirectory ⟨"/w"⟩ = true := by
    simp only [Disk.isDirectory, Disk.find, Disk.walk_eq_walkDirectly hlinkless]
    rfl
  have hmade : written.makeDirectories ⟨"/w"⟩ = .ok written := by
    rw [Disk.makeDirectories, Disk.makeDirectories.go, if_neg (by decide), hthere]
    exact if_pos hdirectory
  have hreplaced (data : Bytes) : written.replace ⟨"/w/cache.bin"⟩ data =
      .ok (written.put ["w", "cache.bin"] (.file data)) := by
    simp only [Disk.replace, Disk.locate, Disk.walk_eq_walkDirectly hlinkless]
    rfl
  have hparent : Path.parentDir ⟨"/w/cache.bin"⟩ = ⟨"/w"⟩ := by decide +kernel
  obtain ⟨data, hdata⟩ := Cache.exists_serialize_iff.2 dirsAreTexts_blocked
  have hsave : (blocked.batch.1.save written ⟨"/w/cache.bin"⟩).value =
      (written.put ["w", "cache.bin"] (.file data), .ok ()) := by
    refine Cache.save_ok_iff.2 ⟨written, data, ?_, hdata, hreplaced _⟩
    rw [hparent, if_neg (by decide)]
    exact hmade
  exact ⟨_, (blocked.saved_ok_iff rfl).2 (hdelivered ▸ hsave)⟩

end Blocked

end CompileRun

end ShaderBuild.CommandLine
