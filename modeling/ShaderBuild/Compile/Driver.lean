import ShaderBuild.Cache.Store
import ShaderBuild.Source.Expansion

/-!
Compiling shaders through the cache. A shader whose includes are unchanged is served from
the cache; any other is preprocessed, compiled and added to it.
-/

namespace ShaderBuild

inductive ExitStatus where
  | exited (code : Nat)
  | signaled (number : Nat) (name : String)
  deriving DecidableEq, Repr

def ExitStatus.text : ExitStatus → String
  | exited code => "exit status: " ++ toString code
  | signaled number name => "signal: " ++ toString number ++ " (" ++ name ++ ")"

inductive CompileError where
  | preprocess (e : PreprocessError)
  | spawn (program : String) (e : SystemError)
  | failed (identifier : String) (status : ExitStatus) (diagnostics : String)
  | emptyOutput (identifier : String)
  deriving DecidableEq, Repr

def CompileError.message : CompileError → String
  | preprocess e => e.message
  | spawn program e => "failed to run '" ++ program ++ "': " ++ e.message
  | failed identifier status diagnostics =>
    identifier ++ ": compilation failed (" ++ status.text ++ ")\n" ++ diagnostics
  | emptyOutput identifier => identifier ++ ": compiler produced no output"

/-- What a compiler is given. -/
structure CompileRequest where
  /-- The preprocessed text. -/
  source : String
  identifier : String
  options : CompileOptions
  deriving DecidableEq, Repr

/-- A compiler for preprocessed texts. -/
structure Backend where
  contentType : ContentType
  compile : CompileRequest → Traced (Except CompileError Bytes)

structure CompileJob where
  source : String
  /-- Where the source was read from. -/
  path : Path
  options : CompileOptions
  deriving DecidableEq, Repr

namespace CompileJob

/-- The path as it is shown, with slashes for backslashes. -/
def identifier (job : CompileJob) : String :=
  String.ofList (job.path.display.toList.map fun c => if c = '\\' then '/' else c)

def key (job : CompileJob) : ShaderKey := ⟨job.source, job.identifier, job.options⟩

end CompileJob

structure CompileOutcome where
  shader : Shader
  cacheHit : Bool
  deriving DecidableEq, Repr

/-- A way to compile: how includes are found, how deep they may go and what compiles the result. -/
structure Compiler where
  resolver : Resolver
  depth : Nat
  backend : Backend

namespace Compiler

variable {fingerprint : ShaderKey → Hash128}

/-- Preprocesses and compiles a job without looking at a cache. -/
def compileFresh (c : Compiler) (job : CompileJob) : Traced (Ending CompileError CacheEntry) := do
  match ← preprocess c.resolver c.depth job.options.defines job.source job.path with
  | .panicked => return .panicked
  | .error e => return .error (.preprocess e)
  | .ok text =>
    match ← c.backend.compile ⟨text.code, job.identifier, job.options⟩ with
    | .error e => return .error e
    | .ok code =>
      return .ok ⟨job.key, text.dependencies,
        ⟨job.options.stage, c.backend.contentType, job.identifier, code⟩⟩

/-- Compiles a job through the cache. Only a fresh success adds to the cache. -/
def compile (c : Compiler) (cache : Cache fingerprint) (job : CompileJob) :
    Traced (Cache fingerprint × Ending CompileError CompileOutcome) := do
  match ← cache.find job.key c.resolver with
  | some shader => return (cache, .ok ⟨shader, true⟩)
  | none =>
    match ← c.compileFresh job with
    | .panicked => return (cache, .panicked)
    | .error e => return (cache, .error e)
    | .ok entry => return (cache.insert entry, .ok ⟨entry.shader, false⟩)

/-- Compiles jobs one after the other through one cache. That one of them panics does not keep the
others from being compiled. -/
def compileMany (c : Compiler) (cache : Cache fingerprint) : List CompileJob →
    Traced (Cache fingerprint × List (Ending CompileError CompileOutcome))
  | [] => return (cache, [])
  | job :: jobs => do
    let (cache, result) ← c.compile cache job
    let (cache, results) ← c.compileMany cache jobs
    return (cache, result :: results)

end Compiler

end ShaderBuild
