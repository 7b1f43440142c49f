import ShaderBuild.Cache.Metadata
import ShaderBuild.Json.Record

/-!
Reading the metadata of a stored cache from its JSON text.
-/

namespace ShaderBuild

open Json

/-! ## Options and keys -/

structure CompileOptions.Draft where
  stage : Option Stage := none
  target : Option String := none
  debugInfo : Option Bool := none
  optimize : Option Bool := none
  defines : Option (List (String × String)) := none

def Json.readStage : Reader Stage := readName Stage.ofLongName?

def Json.readContentType : Reader ContentType := readName ContentType.ofName?

/-- A pair of texts as an array of two. -/
def Json.readPair : Reader (String × String) := fun cs =>
  match dropBlanks cs with
  | '[' :: rest =>
    (do
      let a ← element true readString
      let b ← element false readString
      endOfElements
      pure (a, b) : Reader (String × String)) rest
  | cs => .error (mismatch cs)

namespace CompileOptions

def slot (fuel : Nat) (name : String) (d : Draft) : Slot Draft :=
  match name with
  | "stage" => .once d.stage readStage fun v => { d with stage := some v }
  | "targetEnv" => .once d.target readString fun v => { d with target := some v }
  | "debugInfo" => .once d.debugInfo readBool fun v => { d with debugInfo := some v }
  | "optimize" => .once d.optimize readBool fun v => { d with optimize := some v }
  | "extraDefines" => .once d.defines (readArray fuel readPair) fun v =>
    { d with defines := some v }
  | _ => .unknown

def Draft.finish (d : Draft) : Option CompileOptions := do
  return ⟨← d.stage, ← d.target, ← d.debugInfo, ← d.optimize, ← d.defines⟩

def read (fuel : Nat) : Reader CompileOptions :=
  readRecord fuel (slot fuel) {} Draft.finish do
    let stage ← element true readStage
    let target ← element false readString
    let debugInfo ← element false readBool
    let optimize ← element false readBool
    let defines ← element false (readArray fuel readPair)
    pure ⟨stage, target, debugInfo, optimize, defines⟩

end CompileOptions

structure ShaderKey.Draft where
  source : Option String := none
  identifier : Option String := none
  options : Option CompileOptions := none

namespace ShaderKey

def slot (fuel : Nat) (name : String) (d : Draft) : Slot Draft :=
  match name with
  | "mainSource" => .once d.source readString fun v => { d with source := some v }
  | "sourceIdentifier" => .once d.identifier readString fun v => { d with identifier := some v }
  | "options" => .once d.options (CompileOptions.read fuel) fun v => { d with options := some v }
  | _ => .unknown

def Draft.finish (d : Draft) : Option ShaderKey := do
  return ⟨← d.source, ← d.identifier, ← d.options⟩

def read (fuel : Nat) : Reader ShaderKey :=
  readRecord fuel (slot fuel) {} Draft.finish do
    let source ← element true readString
    let identifier ← element false readString
    let options ← element false (CompileOptions.read fuel)
    pure ⟨source, identifier, options⟩

end ShaderKey

/-! ## Dependencies -/

structure Dependency.Draft where
  identifier : Option String := none
  dir : Option String := none
  standard : Option Bool := none
  digest : Option Digest := none
  contents : Option String := none

/-- A digest in its text form. -/
def Json.readDigest : Reader Digest := do
  let s ← readString
  match Digest.ofHex s with
  | .ok d => pure d
  | .error _ => Reader.fail .badData

namespace Dependency

def slot (name : String) (d : Draft) : Slot Draft :=
  match name with
  | "identifier" => .once d.identifier readString fun v => { d with identifier := some v }
  | "requestingSourceDir" => .once d.dir readString fun v => { d with dir := some v }
  | "standardInclude" => .once d.standard readBool fun v => { d with standard := some v }
  | "hash" => .once d.digest readDigest fun v => { d with digest := some v }
  | "contents" => .once d.contents readString fun v => { d with contents := some v }
  | _ => .unknown

def ofFields (identifier dir : String) (standard : Bool) (digest : Digest) (contents : String) :
    Dependency :=
  ⟨identifier, ⟨dir⟩, if standard then .standard else .relative, digest, contents⟩

def Draft.finish (d : Draft) : Option Dependency := do
  return ofFields (← d.identifier) (← d.dir) (← d.standard) (← d.digest) (← d.contents)

def read (fuel : Nat) : Reader Dependency :=
  readRecord fuel slot {} Draft.finish do
    let identifier ← element true readString
    let dir ← element false readString
    let standard ← element false readBool
    let digest ← element false readDigest
    let contents ← element false readString
    pure (ofFields identifier dir standard digest contents)

end Dependency

/-! ## Entries and code ranges -/

structure EntryRecord.Draft where
  key : Option ShaderKey := none
  dependencies : Option (List Dependency) := none

namespace EntryRecord

def slot (fuel : Nat) (name : String) (d : Draft) : Slot Draft :=
  match name with
  | "key" => .once d.key (ShaderKey.read fuel) fun v => { d with key := some v }
  | "dependencies" =>
    .once d.dependencies (readArray fuel (Dependency.read fuel)) fun v =>
      { d with dependencies := some v }
  | _ => .unknown

def Draft.finish (d : Draft) : Option EntryRecord := do
  return ⟨← d.key, ← d.dependencies⟩

def read (fuel : Nat) : Reader EntryRecord :=
  readRecord fuel (slot fuel) {} Draft.finish do
    let key ← element true (ShaderKey.read fuel)
    let dependencies ← element false (readArray fuel (Dependency.read fuel))
    pure ⟨key, dependencies⟩

end EntryRecord

structure CodeRange.Draft where
  stage : Option Stage := none
  contentType : Option ContentType := none
  hint : Option String := none
  offset : Option Nat := none
  size : Option Nat := none

namespace CodeRange

def slot (name : String) (d : Draft) : Slot Draft :=
  match name with
  | "stage" => .once d.stage readStage fun v => { d with stage := some v }
  | "contentType" => .once d.contentType readContentType fun v => { d with contentType := some v }
  | "filepathHint" => .once d.hint readString fun v => { d with hint := some v }
  | "offset" => .once d.offset readWord fun v => { d with offset := some v }
  | "codeByteSize" => .once d.size readWord fun v => { d with size := some v }
  | _ => .unknown

def Draft.finish (d : Draft) : Option CodeRange := do
  return ⟨← d.stage, ← d.contentType, ← d.hint, ← d.offset, ← d.size⟩

def read (fuel : Nat) : Reader CodeRange :=
  readRecord fuel slot {} Draft.finish do
    let stage ← element true readStage
    let contentType ← element false readContentType
    let hint ← element false readString
    let offset ← element false readWord
    let size ← element false readWord
    pure ⟨stage, contentType, hint, offset, size⟩

end CodeRange

/-! ## The whole -/

structure Metadata.Draft where
  entries : Option (List EntryRecord) := none
  ranges : Option (List CodeRange) := none

namespace Metadata

def slot (fuel : Nat) (name : String) (d : Draft) : Slot Draft :=
  match name with
  | "entries" =>
    .once d.entries (readArray fuel (EntryRecord.read fuel)) fun v => { d with entries := some v }
  | "shaderCreationParams" =>
    .once d.ranges (readArray fuel (CodeRange.read fuel)) fun v => { d with ranges := some v }
  | _ => .unknown

def Draft.finish (d : Draft) : Option Metadata := do
  return ⟨← d.entries, ← d.ranges⟩

def read (fuel : Nat) : Reader Metadata :=
  readRecord fuel (slot fuel) {} Draft.finish do
    let entries ← element true (readArray fuel (EntryRecord.read fuel))
    let ranges ← element false (readArray fuel (CodeRange.read fuel))
    pure ⟨entries, ranges⟩

def ofText (s : String) : Except Fault Metadata :=
  let text := s.toList
  readText (read (text.length + 1)) text

end Metadata

end ShaderBuild
