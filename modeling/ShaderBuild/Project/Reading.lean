import ShaderBuild.Project.Settings
import ShaderBuild.Toml.Document

/-!
Settings from TOML text. A record may be written as a table or as an array of its
members in order, whose end may be left out as far as the members have usual values.
Settings that are not known are passed over.
-/

namespace ShaderBuild

/-- The members of a record: by name from a table, by place from an array. -/
inductive Members where
  | named (entries : List (String × Toml.Value))
  | placed (items : List Toml.Value)

namespace Members

def of? : Toml.Value → Option Members
  | .array items => some (.placed items)
  | v => v.members?.map .named

def get? (m : Members) (place : Nat) (name : String) : Option Toml.Value :=
  match m with
  | named entries => entries.lookup name
  | placed items => items[place]?

/-- A member that must be there. -/
def required {α : Type} (m : Members) (place : Nat) (name : String)
    (read : Toml.Value → Option α) : Option α :=
  (m.get? place name).bind read

/-- A member that has a usual value. -/
def optional {α : Type} (m : Members) (place : Nat) (name : String)
    (read : Toml.Value → Option α) (usual : α) : Option α :=
  match m.get? place name with
  | some v => read v
  | none => some usual

end Members

def ProjectInfo.ofToml? (v : Toml.Value) : Option ProjectInfo := do
  let m ← Members.of? v
  return ⟨← m.required 0 "name" Toml.Value.text?, ← m.optional 1 "description" Toml.Value.text? ""⟩

/-- One search path, or a list of them. -/
def IncludeSettings.searchPaths? : Toml.Value → Option (List String)
  | .text s => some [s]
  | v => v.texts?

def IncludeSettings.ofToml? (v : Toml.Value) : Option IncludeSettings := do
  let m ← Members.of? v
  return ⟨← m.optional 0 "search_paths" searchPaths? usual.searchPaths,
    ← m.optional 1 "builtins" Toml.Value.boolean? usual.builtins⟩

def CacheSettings.ofToml? (v : Toml.Value) : Option CacheSettings := do
  let m ← Members.of? v
  return ⟨← m.optional 0 "path" Toml.Value.text? usual.path,
    ← m.optional 1 "enabled" Toml.Value.boolean? usual.enabled⟩

def CompilerSettings.ofToml? (v : Toml.Value) : Option CompilerSettings := do
  let m ← Members.of? v
  let program ← m.optional 0 "program" Toml.Value.text? usual.command.program
  let args ← m.optional 1 "args" Toml.Value.texts? usual.command.args
  let target ← m.optional 2 "target" Toml.Value.text? usual.target
  let debugInfo ← m.optional 3 "debug_info" Toml.Value.boolean? usual.debugInfo
  let optimize ← m.optional 4 "optimize" Toml.Value.boolean? usual.optimize
  let debugArgs ← m.optional 5 "debug_args" Toml.Value.texts? usual.command.debugArgs
  let optimizeArgs ← m.optional 6 "optimize_args" Toml.Value.texts? usual.command.optimizeArgs
  let depth ← m.optional 7 "max_include_depth" Toml.Value.natural? usual.depth
  return ⟨⟨program, args, debugArgs, optimizeArgs⟩, target, debugInfo, optimize, depth⟩

def DefineTable.ofToml? (v : Toml.Value) : Option DefineTable := do
  let pairs ← (← v.members?).mapM fun (name, v) => do return (name, ← v.text?)
  return ofList pairs

def Settings.ofToml? (v : Toml.Value) : Option Settings := do
  let m ← Members.of? v
  return {
    project := ← m.required 0 "project" ProjectInfo.ofToml?
    includes := ← m.optional 1 "include" IncludeSettings.ofToml? .usual
    cache := ← m.optional 2 "cache" CacheSettings.ofToml? .usual
    compiler := ← m.optional 3 "compiler" CompilerSettings.ofToml? .usual
    defines := ← m.optional 4 "defines" DefineTable.ofToml? .empty }

/-! ## Checked settings -/

inductive SettingsError where
  | unreadable (e : SystemError)
  | badText
  | missing (field : String)
  | invalid (reason : String)
  deriving DecidableEq, Repr

/-- Of a text that cannot be read, the message does not say why. -/
def SettingsError.message : SettingsError → String
  | unreadable e => "failed to read configuration: " ++ e.message
  | badText => "failed to parse configuration:"
  | missing field => "missing required field: " ++ field
  | invalid reason => "validation error: " ++ reason

/-- Whether a name is made of ASCII letters, digits and underscores, and does not start with a
digit. -/
def isIdentifier (name : String) : Bool :=
  match name.toList with
  | [] => false
  | c :: rest => (c.isAlpha || c == '_') && rest.all fun c => c.isAlphanum || c == '_'

namespace Settings

/-- What is wrong with settings, of several things the first. -/
def fault? (s : Settings) : Option SettingsError :=
  if s.project.name = "" then some (.missing "project.name")
  else if s.compiler.command.program = "" then some (.missing "compiler.program")
  else if s.cache.enabled ∧ s.cache.path = "" then
    some (.invalid "cache.path must not be empty when the cache is enabled")
  else if s.compiler.depth = 0 then some (.invalid "compiler.max_include_depth must be at least 1")
  else (s.defines.names.find? (!isIdentifier ·)).map fun name =>
    .invalid ("define '" ++ name ++ "' is not a valid identifier")

/-- Reads and checks the text of a settings file. -/
def ofText (text : String) : Except SettingsError Settings :=
  match (Toml.parse? text).bind ofToml? with
  | none => .error .badText
  | some s =>
    match s.fault? with
    | some e => .error e
    | none => .ok s

end Settings

end ShaderBuild
