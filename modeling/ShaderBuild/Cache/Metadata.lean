import ShaderBuild.Cache.Store
import ShaderBuild.Json.Writer

/-!
The metadata of a stored cache and its JSON text.
-/

namespace ShaderBuild

/-- The fields of a stored shader, with the place of its code. -/
structure CodeRange where
  stage : Stage
  contentType : ContentType
  hint : String
  offset : Nat
  size : Nat
  deriving DecidableEq, Repr

/-- What is stored of an entry beside its shader. -/
structure EntryRecord where
  key : ShaderKey
  dependencies : List Dependency
  deriving DecidableEq, Repr

/-- Both lists have one element for each entry. -/
structure Metadata where
  entries : List EntryRecord
  ranges : List CodeRange
  deriving DecidableEq, Repr

namespace Metadata

/-- The ranges of the entries' code when it is laid out from `offset` on without gaps. -/
def layOut : (offset : Nat) → List CacheEntry → List CodeRange
  | _, [] => []
  | offset, e :: rest =>
    ⟨e.shader.stage, e.shader.contentType, e.shader.hint, offset, e.shader.code.length⟩ ::
      layOut (offset + e.shader.code.length) rest

def ofEntries (entries : List CacheEntry) : Metadata :=
  ⟨entries.map fun e => ⟨e.key, e.dependencies⟩, layOut 0 entries⟩

end Metadata

/-! ## JSON text -/

open Json in
def CompileOptions.json (o : CompileOptions) : List Char :=
  object [("stage", string o.stage.longName), ("targetEnv", string o.target),
    ("debugInfo", bool o.debugInfo), ("optimize", bool o.optimize),
    ("extraDefines", array (o.defines.map fun d => array [string d.1, string d.2]))]

open Json in
def ShaderKey.json (k : ShaderKey) : List Char :=
  object [("mainSource", string k.source), ("sourceIdentifier", string k.identifier),
    ("options", k.options.json)]

open Json in
/-- The directory is written as a text, so there is nothing to write if it is none. -/
def Dependency.json? (d : Dependency) : Option (List Char) :=
  d.dir.text?.map fun dir =>
    object [("identifier", string d.identifier), ("requestingSourceDir", string dir),
      ("standardInclude", bool (d.kind == .standard)), ("hash", string d.digest.hex),
      ("contents", string d.contents)]

open Json in
def CodeRange.json (r : CodeRange) : List Char :=
  object [("stage", string r.stage.longName), ("contentType", string r.contentType.name),
    ("filepathHint", string r.hint), ("offset", number r.offset), ("codeByteSize", number r.size)]

open Json in
def EntryRecord.json? (e : EntryRecord) : Option (List Char) :=
  (e.dependencies.mapM Dependency.json?).map fun dependencies =>
    object [("key", e.key.json), ("dependencies", array dependencies)]

open Json in
def Metadata.json? (m : Metadata) : Option (List Char) :=
  (m.entries.mapM EntryRecord.json?).map fun entries =>
    object [("entries", array entries),
      ("shaderCreationParams", array (m.ranges.map CodeRange.json))]

end ShaderBuild
