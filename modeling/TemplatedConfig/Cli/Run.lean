/-
# Running the commands

Each command loads a directory and reports on it.  A directory that cannot be loaded ends every
command with code 2, and what a command finds fault with ends it with code 1.
-/
import TemplatedConfig.Cli.Report
import TemplatedConfig.Cli.Override
import TemplatedConfig.Config.Loading
import TemplatedConfig.Config.Pass
import TemplatedConfig.Config.Basic
import TemplatedConfig.Yaml.Writer

namespace TemplatedConfig.Cli

/-- The report on a directory that cannot be loaded. -/
def loadFailed (directory : String) (fault : Fault) : Report where
  code := 2
  errors := "Failed to load " ++ directory ++ ": " ++ fault.message ++ "\n"

/-- The report on a valid or invalid configuration. -/
def checkReport (directory : String) (c : Config) : Report :=
  match c.validate Name.Grammar.standard with
  | (checked, none) =>
    { output := linesText ["✓ " ++ directory ++ " is valid", summary checked]
      errors := linesText (ignoredKeyWarnings c) }
  | (_, some fault) =>
    { code := 1
      errors := linesText (ignoredKeyWarnings c ++ ["✗ Validation failed", "", fault.message]) }

/-- The list of the variables of a configuration. -/
def varsReport (format : ListFormat) (c : Config) : Report :=
  match variablesText format c with
  | "" => {}
  | text => { output := text ++ "\n" }

/-- A configuration as a text. -/
def render (format : DumpFormat) (v : Value) : String :=
  match format with
  | .yaml => Yaml.write v
  | .json => Json.pretty v ++ "\n"

/-- The values of an interpolated configuration that are not known. -/
def unresolved (strict : Bool) (c : Config) : List String :=
  c.unresolvedPaths.map fun key =>
    (if strict then "error" else "warning") ++ ": unresolved value at " ++ key

/-- The report on an interpolated configuration; `warnings` come before it. -/
def resolvedReport (format : DumpFormat) (strict : Bool) (warnings : List String) (c : Config) :
    Report :=
  if strict ∧ c.unresolvedPaths ≠ [] then
    { code := 1, errors := linesText (warnings ++ unresolved strict c) }
  else
    { output := render format c.toValue
      errors := linesText (warnings ++ unresolved strict c) }

/-- A configuration, interpolated and written out. -/
def dumpReport (overrides : List String) (format : DumpFormat) (strict : Bool) (c : Config) :
    Report :=
  match bindingsWith decodeYaml c overrides with
  | .error bad =>
    { code := 1, errors := linesText (ignoredKeyWarnings c ++ ["Error: " ++ bad.text]) }
  | .ok bindings =>
    match c.interpolate bindings with
    | (_, some fault) =>
      { code := 1
        errors := linesText
          (ignoredKeyWarnings c ++ ["✗ Interpolation failed", "", fault.message]) }
    | (resolved, none) => resolvedReport format strict (ignoredKeyWarnings c) resolved

/-- The directory of a command. -/
def Command.directory : Command → String
  | check directory | vars directory _ | dump directory .. => directory

/-- What a command reports on a loaded configuration. -/
def Command.report : Command → Config → Report
  | check directory, c => checkReport directory c
  | vars _ format, c => varsReport format c
  | dump _ overrides format strict, c => dumpReport overrides format strict c

/-- Runs a command on a file system. -/
def Command.run {m : Type → Type} [Monad m] (fs : Files.FileSystem m)
    (workingDirectory : String) (command : Command) : m Report := do
  match ← (Config.loadDirectory fs {} workingDirectory command.directory).run with
  | .ok c => return command.report c
  | .error fault => return loadFailed command.directory fault

/-- Runs a list of arguments; arguments that do not follow the rules have no report. -/
def run? {m : Type → Type} [Monad m] (fs : Files.FileSystem m) (workingDirectory : String)
    (arguments : List String) : m (Option Report) := do
  match Request.parse arguments with
  | .run command => return some (← command.run fs workingDirectory)
  | .version => return some { output := versionText }
  | .help none => return some { output := overviewText }
  | .help (some verb) => return some { output := verbText verb }
  | .nothing => return some { code := 2, errors := overviewText }
  | .misused => return none

end TemplatedConfig.Cli
