/-
# What the commands print

The texts of the command line: the overview and the help, the summary of a configuration, and
the lists of its variables.
-/
import TemplatedConfig.Cli.Arguments
import TemplatedConfig.Config.Basic
import TemplatedConfig.Json.Writer

namespace TemplatedConfig.Cli

/-- What the program writes, and the code it ends with. -/
structure Report where
  code : Nat := 0
  output : String := ""
  errors : String := ""

/-- Several lines, each ended. -/
def linesText (lines : List String) : String := String.join (lines.map (· ++ "\n"))

/-! ## 1. Help -/

/-- The name and the version. -/
def versionText : String := "vulcan 0.1.0\n"

/-- The overview of the commands. -/
def overviewText : String :=
  linesText
    ["Command-line interface for loading and resolving vulcan configurations",
     "",
     "Usage: vulcan [OPTIONS] <COMMAND>",
     "",
     "Commands:",
     "  check  Load a config directory and validate it",
     "  vars   List declared variables",
     "  dump   Resolve all interpolations and print the result",
     "  help   Print this message or the help of the given subcommand(s)",
     "",
     "Options:",
     "  -v, --verbose  Enable debug logging (RUST_LOG takes precedence)",
     "  -h, --help     Print help",
     "  -V, --version  Print version"]

/-- The help for a command. -/
def verbText : Verb → String
  | .check => linesText
    ["Load a config directory and validate it",
     "",
     "Usage: vulcan check [OPTIONS] <DIR>",
     "",
     "Arguments:",
     "  <DIR>  Directory containing config files",
     "",
     "Options:",
     "  -v, --verbose  Enable debug logging (RUST_LOG takes precedence)",
     "  -h, --help     Print help"]
  | .vars => linesText
    ["List declared variables",
     "",
     "Usage: vulcan vars [OPTIONS] <DIR>",
     "",
     "Arguments:",
     "  <DIR>  Directory containing config files",
     "",
     "Options:",
     "  -f, --format <FORMAT>  Output format: text, json "
       ++ "[default: text] [possible values: text, json]",
     "  -v, --verbose          Enable debug logging (RUST_LOG takes precedence)",
     "  -h, --help             Print help"]
  | .dump => linesText
    ["Resolve all interpolations and print the result",
     "",
     "Usage: vulcan dump [OPTIONS] <DIR>",
     "",
     "Arguments:",
     "  <DIR>  Directory containing config files",
     "",
     "Options:",
     "      --var <NAME=VALUE>  Set a variable (value is parsed as YAML), may be repeated",
     "  -f, --format <FORMAT>   Output format: yaml, json "
       ++ "[default: yaml] [possible values: yaml, json]",
     "      --strict            Fail if any value is left unresolved",
     "  -v, --verbose           Enable debug logging (RUST_LOG takes precedence)",
     "  -h, --help              Print help"]

/-! ## 2. Configurations -/

/-- How much a configuration declares. -/
def summary (c : Config) : String :=
  "  " ++ toString c.sources.length ++ " files loaded, "
    ++ toString c.inputs.length ++ " variables, "
    ++ toString c.files.length ++ " file blocks, "
    ++ toString c.allResources.length ++ " resources in "
    ++ toString c.resources.length ++ " kinds"

/-- The keys of a document that declare nothing. -/
def ignoredKeyWarnings (c : Config) : List String :=
  c.ignoredKeys.map fun key => "warning: ignored top-level key '" ++ key ++ "'"

/-- A variable on a line, and its description on another. -/
def variableText (v : Variable) : String :=
  v.name ++ " (" ++ v.type.name ++ ")"
    ++ (match v.default with
      | some default => " = " ++ default.print
      | none => " (required)")
    ++ (match v.description with
      | some text => "\n    " ++ text
      | none => "")

mutual

/-- A value with the fields of all mappings in ascending order of their keys. -/
def sortedDeep : Value → Value
  | .sequence items => .sequence (sortedDeepItems items)
  | .mapping fields => .mapping (Fields.sorted (sortedDeepFields fields))
  | v => v

/-- Each item so sorted. -/
def sortedDeepItems : List Value → List Value
  | [] => []
  | v :: rest => sortedDeep v :: sortedDeepItems rest

/-- The value of each field so sorted. -/
def sortedDeepFields : Fields Value → Fields Value
  | [] => []
  | (key, v) :: rest => (key, sortedDeep v) :: sortedDeepFields rest

end

/-- An optional text as a value. -/
def optionalText : Option String → Value
  | some text => .string text
  | none => .null

/-- A variable as a record. -/
def variableRecord (v : Variable) : Value :=
  sortedDeep (.mapping
    [("name", .string v.name), ("type", .string v.type.name),
     ("default", v.default.getD .null), ("description", optionalText v.description)])

/-- The list of the variables. -/
def variablesText (format : ListFormat) (c : Config) : String :=
  match format with
  | .text => "\n".intercalate (c.inputs.map variableText)
  | .json => Json.pretty (.sequence (c.inputs.map variableRecord))

end TemplatedConfig.Cli
