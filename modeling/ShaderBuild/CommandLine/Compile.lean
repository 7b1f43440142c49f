import ShaderBuild.CommandLine.Arguments
import ShaderBuild.CommandLine.Outcome

/-!
The compile command: compiles files through the project's cache, writes the compiled
shaders and says what became of each file.
-/

namespace ShaderBuild.CommandLine

/-! ## Delivery -/

/-- What became of one file. -/
inductive Delivery where
  | written (out : Path) (cacheHit : Bool)
  | unwritable (out : Path) (e : SystemError)
  | uncompiled (e : CompileError)
  deriving DecidableEq, Repr

/-- A way to write files somewhere. -/
abbrev Writer (σ : Type) := σ → Path → Bytes → Except SystemError σ

/-- Writes the shader of a job that compiled. -/
def deliver {σ : Type} (write : Writer σ) (output : Option Path) (several : Bool) (s : σ)
    (job : CompileJob) (result : Except CompileError CompileOutcome) : σ × Delivery :=
  match result with
  | .error e => (s, .uncompiled e)
  | .ok outcome =>
    let out := artifactPath job.path output several
    match write s out outcome.shader.code with
    | .error e => (s, .unwritable out e)
    | .ok s => (s, .written out outcome.cacheHit)

def deliverAll {σ : Type} (write : Writer σ) (output : Option Path) (several : Bool) :
    σ → List (CompileJob × Except CompileError CompileOutcome) → σ × List (CompileJob × Delivery)
  | s, [] => (s, [])
  | s, (job, result) :: rest =>
    let (s, delivery) := deliver write output several s job result
    let (s, deliveries) := deliverAll write output several s rest
    (s, (job, delivery) :: deliveries)

/-! ## The tally -/

/-- How many files were served from the cache, and how many failed. -/
structure Tally where
  cached : Nat
  failed : Nat
  deriving DecidableEq, Repr

namespace Tally

def zero : Tally := ⟨0, 0⟩

def add (t : Tally) : Delivery → Tally
  | .written _ true => { t with cached := t.cached + 1 }
  | .written _ false => t
  | .unwritable _ _ => { t with failed := t.failed + 1 }
  | .uncompiled _ => { t with failed := t.failed + 1 }

def ofDeliveries (ds : List Delivery) : Tally := ds.foldl add zero

/-- The number of files that were compiled anew, of `files` in all. -/
def compiled (t : Tally) (files : Nat) : Nat := files - t.cached - t.failed

def summary (t : Tally) (files : Nat) : String :=
  toString files ++ " file(s): " ++ toString t.cached ++ " cached, " ++
    toString (t.compiled files) ++ " compiled, " ++ toString t.failed ++ " failed"

/-- One if any file failed. -/
def exitCode (t : Tally) : Nat := if 0 < t.failed then 1 else 0

end Tally

def Delivery.outputLine? (job : CompileJob) : Delivery → Option String
  | .written out cacheHit =>
    some (padLeft 9 (if cacheHit then "cached" else "compiled") ++ " " ++ job.path.display ++
      " -> " ++ out.display)
  | _ => none

def Delivery.errorLine? : Delivery → Option String
  | .written _ _ => none
  | .unwritable out e =>
    some (Outcome.errorLine ("cannot write " ++ out.display ++ ": " ++ e.message))
  | .uncompiled e => some (Outcome.errorLine e.message)

/-! ## The command -/

/-- The job for a source file. -/
def readJob (disk : Disk) (settings : Settings) (stage : Option Stage)
    (defines : List (String × String)) (file : Path) : Except CommandError CompileJob :=
  match disk.readText file with
  | .error e => .error (.source file e)
  | .ok source =>
    match stageFor file stage with
    | .error e => .error (.stage e)
    | .ok stage => .ok ⟨source, file, settings.compileOptions stage defines⟩

/-- The jobs for all files; the first that cannot be had stops the command. -/
def readJobs (disk : Disk) (settings : Settings) (call : CompileCall) :
    Except CommandError (List CompileJob) := do
  let defines ← (settings.definesWith call.defines).mapError .define
  call.files.mapM (readJob disk settings call.stage defines)

/-- The cache file of a compilation, unless it goes without a cache. -/
def cacheFileFor (p : Project) (call : CompileCall) : Option Path :=
  if call.useCache then p.settings.cacheFile? p.root else none

/-- Creates the directory for several compiled shaders. -/
def makeOutput (disk : Disk) (call : CompileCall) (several : Bool) : Except CommandError Disk :=
  match call.output with
  | some dir => if several then (disk.makeDirectories dir).mapError .outputDirectory else .ok disk
  | none => .ok disk

def saveCache (disk : Disk) (cache : ShaderCache) (file : Option Path) :
    Traced (Disk × Except CommandError Unit) := do
  match file with
  | none => return (disk, .ok ())
  | some file =>
    let (disk, result) ← cache.save disk file
    return (disk, result.mapError .cache)

/-- Compiles and delivers jobs, and saves the cache. A job that panics ends the command before
anything is delivered. What programs do to the disk is not seen by other jobs. -/
def compileJobs (disk : Disk) (programs : Programs) (p : Project) (quiet : Bool)
    (call : CompileCall) (jobs : List CompileJob) : Traced Outcome := do
  let cacheFile := cacheFileFor p call
  let cache : ShaderCache ← match cacheFile with
    | some file => Cache.loadOrEmpty disk file
    | none => pure Cache.empty
  let finder ← p.finder disk call.includeDirs
  let several := 1 < jobs.length
  match makeOutput disk call several with
  | .error e => return .failed disk "" "" e
  | .ok disk =>
    let settings := p.settings.compiler
    let compiler : Compiler :=
      ⟨finder.resolver disk.files, settings.depth, settings.command.backend programs .spirv⟩
    let compiled := compiler.compileMany cache jobs
    let (cache, endings) ← compiled
    let disk := disk.changedBy compiled.changes
    match endings.mapM Ending.result? with
    | none => return .panicked disk
    | some results =>
      let (disk, deliveries) := deliverAll Disk.write call.output several disk (jobs.zip results)
      let tally := Tally.ofDeliveries (deliveries.map Prod.snd)
      let output := Outcome.lines (deliveries.filterMap fun (job, d) => d.outputLine? job)
      let output := if quiet then "" else output
      let errors := Outcome.lines (deliveries.filterMap fun (_, d) => d.errorLine?)
      let (disk, saved) ← saveCache disk cache cacheFile
      match saved with
      | .error e => return .failed disk output errors e
      | .ok () =>
        let last := if quiet then "" else Outcome.line (tally.summary jobs.length)
        return ⟨disk, tally.exitCode, output ++ last, errors⟩

def compile (disk : Disk) (programs : Programs) (globals : GlobalOptions) (call : CompileCall) :
    Traced Outcome := do
  match ← Project.find disk globals.config with
  | .error e => return .failed disk "" "" (.settings e)
  | .ok p =>
    match readJobs disk p.settings call with
    | .error e => return .failed disk "" "" e
    | .ok jobs => compileJobs disk programs p globals.quiet call jobs

end ShaderBuild.CommandLine
