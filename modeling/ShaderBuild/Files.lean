import ShaderBuild.Bytes
import ShaderBuild.Path

/-!
What is asked of a store of files: contents by path, and the canonical form of the
path of a file that exists.
-/

namespace ShaderBuild

/-- Failures of the operating system's file operations. -/
inductive SystemError where
  | noEntry
  | alreadyExists
  | notDirectory
  | isDirectory
  | nameTooLong
  | notEmpty
  | linkLoop
  | permission
  | busy
  | invalidArgument
  /-- A path with a zero byte, refused before the system sees it. -/
  | zeroByte
  /-- A program's name or argument with a zero byte. -/
  | zeroByteInCommand
  /-- A program ended before it had read its input. -/
  | brokenPipe
  /-- Contents that are not UTF-8 where a text was asked for. -/
  | notText
  deriving DecidableEq, Repr

namespace SystemError

def message : SystemError → String
  | noEntry => "No such file or directory (os error 2)"
  | alreadyExists => "File exists (os error 17)"
  | notDirectory => "Not a directory (os error 20)"
  | isDirectory => "Is a directory (os error 21)"
  | nameTooLong => "File name too long (os error 36)"
  | notEmpty => "Directory not empty (os error 39)"
  | linkLoop => "Too many levels of symbolic links (os error 40)"
  | permission => "Permission denied (os error 13)"
  | busy => "Device or resource busy (os error 16)"
  | invalidArgument => "Invalid argument (os error 22)"
  | zeroByte => "file name contained an unexpected NUL byte"
  | zeroByteInCommand => "nul byte found in provided data"
  | brokenPipe => "Broken pipe (os error 32)"
  | notText => "stream did not contain valid UTF-8"

/-- The name of the kind of failure. -/
def kind : SystemError → String
  | noEntry => "NotFound"
  | alreadyExists => "AlreadyExists"
  | notDirectory => "NotADirectory"
  | isDirectory => "IsADirectory"
  | nameTooLong => "InvalidFilename"
  | notEmpty => "DirectoryNotEmpty"
  | linkLoop => "FilesystemLoop"
  | permission => "PermissionDenied"
  | busy => "ResourceBusy"
  | invalidArgument => "InvalidInput"
  | zeroByte => "InvalidInput"
  | zeroByteInCommand => "InvalidInput"
  | brokenPipe => "BrokenPipe"
  | notText => "InvalidData"

end SystemError

inductive ReadError where
  /-- A store in memory holds nothing at the path. -/
  | absent (path : Path)
  | system (e : SystemError)
  deriving DecidableEq, Repr

namespace ReadError

def message : ReadError → String
  | absent path => path.display ++ " not found"
  | system e => e.message

def kind : ReadError → String
  | absent _ => "NotFound"
  | system e => e.kind

end ReadError

/-- Read access to the files that includes come from. -/
structure Files where
  read : Path → Except ReadError Bytes
  canonical? : Path → Option Path

/-- The canonical path of an existing file; any other path stands for itself. -/
def Files.resolved (files : Files) (p : Path) : Path := (files.canonical? p).getD p

end ShaderBuild
