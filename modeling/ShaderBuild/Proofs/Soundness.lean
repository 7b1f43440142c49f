import ShaderBuild.Proofs.Replay
import ShaderBuild.Proofs.Session

/-!
What a hit is worth. Main statement: `hit_is_fresh`, by which a shader from the cache is the one
that a call with an empty cache would make, provided that the source text and its includes are where
they were. Without that proviso it need not be: `hits_can_be_stale`.
-/

namespace ShaderBuild

variable {fingerprint : ShaderKey → Hash128}

namespace Compiler

/-- A fresh success is repeated where everything that it recorded resolves alike. -/
theorem compileFresh_replay {c d : Compiler} {job job' : CompileJob} {e : CacheEntry}
    (h : (c.compileFresh job).value = .ok e) (hbackend : d.backend = c.backend)
    (hdepth : d.depth = c.depth) (hkey : job'.key = job.key)
    (hagrees : ∀ x ∈ e.dependencies, x.Agrees c.resolver d.resolver)
    (hdir : job'.path.parentDir = job.path.parentDir)
    (hresolved : d.resolver.resolved job'.path = c.resolver.resolved job.path) :
    (d.compileFresh job').value = .ok e := by
  have hsource : job'.source = job.source := congrArg ShaderKey.source hkey
  have hidentifier : job'.identifier = job.identifier := congrArg ShaderKey.identifier hkey
  have hoptions : job'.options = job.options := congrArg ShaderKey.options hkey
  obtain ⟨text, code, hpreprocess, hcode, rfl⟩ := compileFresh_ok_iff.1 h
  refine compileFresh_ok_iff.2 ⟨text, code, ?_, ?_, ?_⟩
  · rw [hdepth, hoptions, hsource]
    exact preprocess_replay hpreprocess hagrees hdir (hresolved ▸ Path.same_refl _)
  · rw [hbackend, hidentifier, hoptions]
    exact hcode
  · rw [hkey, hbackend, hidentifier, hoptions]

theorem recordedBy_of_fresh {c : Compiler} {job : CompileJob} {e : CacheEntry}
    (h : (c.compileFresh job).value = .ok e) : ∀ d ∈ e.dependencies, d.RecordedBy c.resolver := by
  obtain ⟨text, code, hpreprocess, _, rfl⟩ := compileFresh_ok_iff.1 h
  exact recordedBy_of_preprocess hpreprocess

end Compiler

namespace Session

/-- The source text of a job and the includes of an entry are where they were: the directory of the
text, the path that it is known by, and the path that each include is found at. -/
structure InPlace (setup : Setup) (e : CacheEntry) (old : MemoryFiles) (job : CompileJob)
    (new : MemoryFiles) (job' : CompileJob) : Prop where
  dir : job'.path.parentDir = job.path.parentDir
  resolved : new.files.resolved job'.path = old.files.resolved job.path
  includes : ∀ d ∈ e.dependencies,
    (d.resolve (setup.resolver new)).value.path = (d.resolve (setup.resolver old)).value.path

/-- What stands behind a hit after some actions: the call that made the entry, for the same source
text, options and identifier, and answered with the same shader. All includes that it recorded
resolve to the same digest and text now. If they are in place, the shader is what an empty cache
would lead to. -/
structure Backing (fingerprint : ShaderKey → Hash128) (setup : Setup) (m : MemoryFiles)
    (actions : List Action) (job' : CompileJob) (shader : Shader) (e : CacheEntry)
    (before : List Action) (job : CompileJob) (after : List Action) : Prop where
  origin : Origin fingerprint setup m actions e before job after
  key_eq : job.key = job'.key
  shader_eq : e.shader = shader
  unchanged : ∀ d ∈ e.dependencies,
    (d.isUnchanged (setup.resolver (run fingerprint setup m actions).memory)).value = true
  fresh : InPlace setup e (run fingerprint setup m before).memory job
      (run fingerprint setup m actions).memory job' →
    freshAnswer setup (run fingerprint setup m actions) job' = .ok ⟨shader, false⟩

/-- Behind every hit in every session there is a call that made its entry. -/
theorem hit_is_fresh (setup : Setup) (m : MemoryFiles) (actions : List Action) (job' : CompileJob)
    (shader : Shader)
    (h : answer setup (run fingerprint setup m actions) job' = .ok ⟨shader, true⟩) :
    ∃ e before job after, Backing fingerprint setup m actions job' shader e before job after := by
  obtain ⟨e, hmem, hkey, hshader, hunchanged⟩ := Cache.exists_of_find (answer_hit_iff.1 h)
  obtain ⟨before, job, after, horigin⟩ := exists_origin hmem
  have hfresh := horigin.makes.fresh
  have hkeys : job.key = job'.key := by
    obtain ⟨text, code, _, _, rfl⟩ := Compiler.compileFresh_ok_iff.1 hfresh
    exact hkey
  refine ⟨e, before, job, after, horigin, hkeys, hshader, hunchanged, fun hplace => ?_⟩
  refine Compiler.compile_empty_ok_iff.2 ⟨e, ?_, hshader⟩
  refine Compiler.compileFresh_replay hfresh rfl rfl hkeys.symm ?_ hplace.dir hplace.resolved
  intro d hd
  exact Dependency.agrees_of_unchanged (Compiler.recordedBy_of_fresh hfresh d hd)
    (fun t ht => Finder.contents_ne_of_request ht) (hunchanged d hd) (hplace.includes d hd)

/-! ## A cache of one entry -/

section OneEntry

variable {setup : Setup} {m now : MemoryFiles} {job job' : CompileJob} {e : CacheEntry}
    {edits : List Action}

/-- The session after one call and changes of files. -/
theorem run_compile (hfresh : ((setup.compiler m).compileFresh job).value = .ok e)
    (hedits : ∀ c : Cache fingerprint, edits.foldl (step setup) ⟨m, c⟩ = ⟨now, c⟩) :
    run fingerprint setup m (.compile job :: edits) = ⟨now, Cache.empty.insert e⟩ := by
  rw [run, List.foldl_cons, step, Compiler.value_compile, Cache.find_empty, hfresh]
  exact hedits _

/-- Whether the includes of an entry have the contents that were recorded. -/
def sameContents (setup : Setup) (now : MemoryFiles) (e : CacheEntry) : Bool :=
  e.dependencies.all fun d => (d.resolve (setup.resolver now)).value.contents == d.contents

/-- An entry of which an include has other contents is not valid. -/
theorem isValid_of_otherContents {setup : Setup} {now : MemoryFiles} {e : CacheEntry}
    (h : sameContents setup now e = false) : Cache.isValid (setup.resolver now) e = false := by
  rw [← Bool.not_eq_true] at h ⊢
  refine fun hvalid => h (List.all_eq_true.2 fun d hd => ?_)
  exact beq_iff_eq.2 (Dependency.isUnchanged_iff.1 (List.all_eq_true.1 hvalid d hd)).2

/-- A second call with the same key is a hit if the includes have the same contents. No digest needs
to be computed to see this. -/
theorem answer_of_sameContents (hfresh : ((setup.compiler m).compileFresh job).value = .ok e)
    (hkey : job.key = job'.key) (hsame : sameContents setup now e = true) :
    answer setup (⟨now, Cache.empty.insert e⟩ : Session fingerprint) job' =
      .ok ⟨e.shader, true⟩ := by
  have hrecorded := Compiler.recordedBy_of_fresh hfresh
  have hentry : e.key = job'.key := (Compiler.key_of_fresh hfresh).trans hkey
  have hvalid : Cache.isValid (setup.resolver now) e = true := by
    apply List.all_eq_true.2
    intro d hd
    apply Dependency.unchanged_of_contents (hrecorded d hd)
    rw [← (hrecorded d hd).contents_eq]
    exact eq_of_beq (List.all_eq_true.1 hsame d hd)
  rw [answer_hit_iff, Cache.value_find]
  simp [Cache.entries_insert, hentry, hvalid]

end OneEntry

/-- Whether a call with an empty cache makes an entry that satisfies `p`. -/
def makes (setup : Setup) (m : MemoryFiles) (job : CompileJob) (p : CacheEntry → Bool) : Bool :=
  match ((setup.compiler m).compileFresh job).value with
  | .ok e => p e
  | _ => false

theorem makes_iff {setup : Setup} {m : MemoryFiles} {job : CompileJob} {p : CacheEntry → Bool} :
    makes setup m job p = true ↔ ∃ e, ((setup.compiler m).compileFresh job).value = .ok e ∧
      p e = true := by
  rw [makes]
  cases ((setup.compiler m).compileFresh job).value with
  | error e => simp
  | panicked => simp
  | ok e => simp

/-- Compiles to the preprocessed text itself. -/
def echo : Backend := ⟨.glsl, fun request => return .ok (Bytes.ofText request.source)⟩

/-- Includes from files under some roots. -/
def searching (roots : List String) : Setup :=
  ⟨⟨roots.map fun root => ⟨⟨root⟩, .files⟩, [], false⟩, defaultDepth, echo⟩

/-- A source text with one include. -/
def including (directive path : String) : CompileJob :=
  ⟨"#include " ++ directive ++ "\n", ⟨path⟩, .ofStage .fragment⟩

def library : MemoryFiles := .ofTexts [("lib/x", "1\n")]

def libraryJob : CompileJob := including "<x>" "m"

/-- The library is given another file, and the cache is stored and read back. -/
def throughReload : List Action := [.compile libraryJob, .write ⟨"y"⟩ [], .reload]

/-- Nothing but the first action of the session makes an entry. -/
theorem origin_throughReload {e : CacheEntry} {before after : List Action} {job : CompileJob}
    (h : Origin ShaderKey.fingerprint (searching ["lib"]) library throughReload e before
      job after) :
    before = [] ∧ job = libraryJob := by
  have hsplit := h.split
  cases before with
  | nil =>
    cases hsplit
    exact ⟨rfl, rfl⟩
  | cons first before =>
    have hmem : .compile job ∈ throughReload.tail := by
      rw [hsplit]
      simp
    simp [throughReload] at hmem

/-- Whether the includes of an entry are found at the paths where they were. -/
def samePaths (setup : Setup) (old new : MemoryFiles) (e : CacheEntry) : Bool :=
  e.dependencies.all fun d =>
    (d.resolve (setup.resolver new)).value.path == (d.resolve (setup.resolver old)).value.path

theorem hit_is_fresh_throughReload :
    let session := run ShaderKey.fingerprint (searching ["lib"]) library throughReload
    ∃ shader e before job after,
      answer (searching ["lib"]) session libraryJob = .ok ⟨shader, true⟩ ∧
      Backing ShaderKey.fingerprint (searching ["lib"]) library throughReload libraryJob shader e
        before job after ∧
      e.dependencies ≠ [] ∧
      InPlace (searching ["lib"]) e
        (run ShaderKey.fingerprint (searching ["lib"]) library before).memory job session.memory
        libraryJob ∧
      freshAnswer (searching ["lib"]) session libraryJob = .ok ⟨shader, false⟩ := by
  intro session
  have hmakes : makes (searching ["lib"]) library libraryJob (fun e =>
      sameContents (searching ["lib"]) (library.insert ⟨"y"⟩ []) e &&
        samePaths (searching ["lib"]) library (library.insert ⟨"y"⟩ []) e &&
        !e.dependencies.isEmpty) = true := by
    decide +kernel
  obtain ⟨e, hfresh, hentry⟩ := makes_iff.1 hmakes
  simp only [Bool.and_eq_true, Bool.not_eq_true', List.isEmpty_eq_false_iff] at hentry
  obtain ⟨⟨hcontents, hpaths⟩, hsome⟩ := hentry
  have hrun : session = ⟨library.insert ⟨"y"⟩ [], Cache.empty.insert e⟩ :=
    run_compile hfresh fun c => congrArg (Session.mk _) c.reload_eq
  have hhit : answer (searching ["lib"]) session libraryJob = .ok ⟨e.shader, true⟩ := by
    rw [hrun]
    exact answer_of_sameContents hfresh rfl hcontents
  obtain ⟨made, before, job, after, hbacking⟩ := hit_is_fresh _ _ _ _ _ hhit
  obtain ⟨rfl, rfl⟩ := origin_throughReload hbacking.origin
  have hsame : made = e := Ending.ok.inj (hbacking.origin.makes.fresh.symm.trans hfresh)
  have hplace : InPlace (searching ["lib"]) made library libraryJob session.memory libraryJob := by
    have hresolved : (library.insert ⟨"y"⟩ []).files.resolved libraryJob.path =
        library.files.resolved libraryJob.path := by decide +kernel
    rw [hsame, hrun]
    refine ⟨rfl, hresolved, fun d hd => ?_⟩
    exact eq_of_beq (List.all_eq_true.1 hpaths d hd)
  exact ⟨e.shader, made, [], libraryJob, after, hhit, hbacking, hsame ▸ hsome, hplace,
    hbacking.fresh hplace⟩

/-! ## Hits that are not fresh -/

/-- A call that is a hit, but would not be answered with the same shader if the cache were empty. -/
def Stale (fingerprint : ShaderKey → Hash128) (setup : Setup) (m : MemoryFiles)
    (actions : List Action) (job : CompileJob) : Prop :=
  ∃ shader, answer setup (run fingerprint setup m actions) job = .ok ⟨shader, true⟩ ∧
    freshAnswer setup (run fingerprint setup m actions) job ≠ .ok ⟨shader, false⟩

/-- An entry with includes of the recorded contents is served even if the second call makes other
code. -/
theorem stale_of_makes {setup : Setup} {m : MemoryFiles} (now : MemoryFiles) {job job' : CompileJob}
    {edits : List Action}
    (hmakes : makes setup m job (fun e => sameContents setup now e &&
      !makes setup now job' fun e' => e'.shader.code == e.shader.code) = true)
    (hkey : job.key = job'.key)
    (hedits : ∀ c : Cache fingerprint, edits.foldl (step setup) ⟨m, c⟩ = ⟨now, c⟩) :
    Stale fingerprint setup m (.compile job :: edits) job' := by
  obtain ⟨e, hfresh, hentry⟩ := makes_iff.1 hmakes
  rw [Bool.and_eq_true, Bool.not_eq_true'] at hentry
  rw [Stale, run_compile hfresh hedits]
  refine ⟨e.shader, answer_of_sameContents hfresh hkey hentry.1, ?_⟩
  intro hagain
  obtain ⟨e', hfresh', hshader⟩ := Compiler.compile_empty_ok_iff.1 hagain
  have hcode : makes setup now job' (fun e' => e'.shader.code == e.shader.code) = true :=
    makes_iff.2 ⟨e', hfresh', by simp [hshader]⟩
  exact Bool.false_ne_true (hentry.2.symm.trans hcode)

/-- Includes from one generator only. -/
def generating (home text : String) : Setup :=
  ⟨⟨[], [⟨home, ⟨home, fun name => return some ⟨⟨name⟩, text⟩⟩⟩], false⟩, defaultDepth, echo⟩

def twins : MemoryFiles :=
  .ofTexts [("s/x", "#include \"y\"\n"), ("s/y", "1\n"), ("t/x", "#include \"y\"\n"),
    ("t/y", "2\n")]

def nested : MemoryFiles := .ofTexts [("a/x", "1\n"), ("x", "2\n")]

/-- Includes of the same contents do not suffice if one is found at another path, so that its own
includes are looked for elsewhere; if the source text is in another directory, though its path is
the same but for backslashes; or if a file has appeared by which an include is the source text
itself. -/
theorem hits_can_be_stale :
    Stale ShaderKey.fingerprint (searching ["s", "t"]) twins
        [.compile (including "\"x\"" "m"), .remove ⟨"s/x"⟩] (including "\"x\"" "m") ∧
      Stale ShaderKey.fingerprint (searching []) nested
        [.compile (including "\"x\"" "a/m")] (including "\"x\"" "a\\m") ∧
      Stale ShaderKey.fingerprint (generating "g" "1\n") .empty
        [.compile (including "<g/x>" "h/../g/x"), .write ⟨"g/x"⟩ []]
          (including "<g/x>" "h/../g/x") := by
  refine ⟨?_, ?_, ?_⟩
  · exact stale_of_makes (twins.erase ⟨"s/x"⟩) (by decide +kernel) rfl fun _ => rfl
  · exact stale_of_makes nested (by decide +kernel) (by decide +kernel) fun _ => rfl
  · exact stale_of_makes (MemoryFiles.empty.insert ⟨"g/x"⟩ []) (by decide +kernel) rfl fun _ => rfl

end Session

end ShaderBuild
