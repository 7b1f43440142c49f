import ShaderBuild.CommandLine.CacheReport
import ShaderBuild.CommandLine.Compile
import ShaderBuild.CommandLine.LogFilter
import ShaderBuild.CommandLine.Preprocess

/-!
A run of the program from its arguments: the command, and the log records that are shown.
-/

namespace ShaderBuild.CommandLine

/-- What a run finds around it. -/
structure Surroundings where
  disk : Disk
  programs : Programs
  /-- The log filter that is asked for in the environment. -/
  logFilter : Option String

structure Run where
  outcome : Outcome
  records : List Record

def Command.perform (c : Command) (disk : Disk) (programs : Programs) (globals : GlobalOptions) :
    Traced Outcome :=
  match c with
  | .compile call => CommandLine.compile disk programs globals call
  | .preprocess call => CommandLine.preprocess disk globals call
  | .inspect path => CommandLine.inspect disk globals path
  | .clear path => CommandLine.clear disk globals path

/-- The level down to which records are shown if no filter is asked for. -/
def GlobalOptions.level (g : GlobalOptions) : Level :=
  if g.quiet then .error else if g.verbose then .debug else .warn

/-- The filter asked for, if it can be read, or else the one by level. -/
def filterFor (asked : Option String) (g : GlobalOptions) : LogFilter :=
  (asked.bind LogFilter.read?).getD (.ofLevel g.level)

def versionText : String := "kiln 0.1.0"

/-- The exit code of a command line that cannot be read. -/
def misuseCode : Nat := 2

def usage : Place → String
  | .top => "kiln [OPTIONS] <COMMAND>"
  | .compile => "kiln compile [OPTIONS] <FILES>..."
  | .preprocess => "kiln preprocess [OPTIONS] <FILE>"
  | .cache => "kiln cache [OPTIONS] <COMMAND>"
  | .inspect => "kiln cache inspect [OPTIONS] [PATH]"
  | .clear => "kiln cache clear [OPTIONS] [PATH]"

def usageLine (p : Place) : String := Outcome.line ("Usage: " ++ usage p)

def run (s : Surroundings) (arguments : List String) : Run :=
  match Invocation.read arguments with
  | .error (.help p) => ⟨⟨s.disk, 0, usageLine p, ""⟩, []⟩
  | .error .version => ⟨⟨s.disk, 0, Outcome.line versionText, ""⟩, []⟩
  | .error .misuse => ⟨⟨s.disk, misuseCode, "", usageLine .top⟩, []⟩
  | .ok i =>
    let result := i.command.perform s.disk s.programs i.globals
    ⟨result.value, result.records.filter (filterFor s.logFilter i.globals).shows⟩

/-- A record as one line. -/
def recordLine (r : Record) : String :=
  r.level.name ++ " " ++ r.message ++
    String.join (r.fields.map fun (name, value) => " " ++ name ++ "=" ++ value)

end ShaderBuild.CommandLine
