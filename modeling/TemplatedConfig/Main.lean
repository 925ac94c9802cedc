/-
# The program

The file system of the machine, the standard streams, and `main`.  Everything that is decided is
decided by `Cli.run?`; this module only reads files and writes texts.
-/
import TemplatedConfig.Cli.Run

namespace TemplatedConfig.Machine

open Files

/-- The number of an error; some calls report it with a minus sign. -/
def errorNumber (code : UInt32) : UInt32 := if 0x80000000 ≤ code then 0 - code else code

/-- The reason that the operating system gives by a number and a text. -/
def problemOfCode (code : UInt32) (details : String) : Problem :=
  if errorNumber code = 2 then .notFound
  else if errorNumber code = 20 then .notDirectory
  else if errorNumber code = 21 then .isDirectory
  else .other (details.capitalize ++ " (os error " ++ toString (errorNumber code) ++ ")")

/-- The reason behind a failed call of the operating system. -/
def problemOf : IO.Error → Problem
  | .noFileOrDirectory _ code details | .inappropriateType _ code details
  | .permissionDenied _ code details | .invalidArgument _ code details
  | .resourceExhausted _ code details | .otherError code details
  | .hardwareFault code details => problemOfCode code details
  | error => .other (toString error)

/-- The result of an action, or the reason why there is none. -/
def attempt {α : Type} (action : IO α) : IO (Except Problem α) := do
  match ← action.toBaseIO with
  | .ok a => return .ok a
  | .error error => return .error (problemOf error)

/-- The kind of an entry, from what the operating system calls it. -/
def kindOf (type : IO.FS.FileType) : EntryKind :=
  if type == .dir then .directory else if type == .file then .file else .other

/-- The file system of the machine; paths that are not absolute start in the working
directory. -/
def fileSystem : FileSystem IO where
  kindOf path := attempt do
    if path = "" then throw (IO.Error.noFileOrDirectory path 2 "")
    return kindOf (← ((← IO.currentDir) / path).metadata).type
  children path := attempt do
    return (← ((← IO.currentDir) / path).readDir).toList.map IO.FS.DirEntry.fileName
  read path limit := attempt do
    let handle ← IO.FS.Handle.mk path .read
    handle.read limit.toUSize

/-- What is said to arguments that do not follow the rules. -/
def usage : String := "error: the arguments are not valid\n\n" ++ Cli.overviewText

end TemplatedConfig.Machine

open TemplatedConfig

/-- Runs the command line and returns its exit code. -/
def main (arguments : List String) : IO UInt32 := do
  match ← Cli.run? Machine.fileSystem (← IO.currentDir).toString arguments with
  | none =>
    (← IO.getStderr).putStr Machine.usage
    return 2
  | some report =>
    (← IO.getStdout).putStr report.output
    (← IO.getStderr).putStr report.errors
    return report.code.toUInt32
