/-
# Faults

A fault says what went wrong (`Cause`), where in the configuration it was found (a key path),
in which file, and what to do about it.  The cause alone decides the kind of the fault and the
wording; path, file and help are attached on the way out, by `atPath`, `inside` and
`inDocument`.  `Fault.message` is the one place where the parts are put together.
-/
import TemplatedConfig.Template.Basic

namespace TemplatedConfig

/-! ## 1. What can go wrong with a file

Each reason has the text that the operating system or the reader gives it. -/

namespace Files

/-- A reason why a file or directory could not be used. -/
inductive Problem where
  | notFound
  | isDirectory
  | notDirectory
  /-- The loader was pointed at something other than a directory. -/
  | directoryExpected
  /-- The bytes are not UTF-8. -/
  | notText
  | tooLarge (limit : Nat)
  /-- A reason of the operating system that has no constructor of its own. -/
  | other (text : String)
  deriving DecidableEq

/-- The wording of a reason. -/
def Problem.text : Problem → String
  | notFound => "No such file or directory (os error 2)"
  | isDirectory => "Is a directory (os error 21)"
  | notDirectory => "Not a directory (os error 20)"
  | directoryExpected => "configuration path must be a directory"
  | notText => "stream did not contain valid UTF-8"
  | tooLarge limit => "file is larger than the maximum of " ++ toString limit ++ " bytes"
  | other text => text

end Files

/-! ## 2. Causes -/

/-- The kinds of fault. -/
inductive FaultKind where
  /-- A document or a template is malformed. -/
  | parse
  /-- A name does not match the grammar of names, or is declared twice. -/
  | name
  /-- A block has keys or values it must not have. -/
  | schema
  /-- A declared type is violated, or a function or operator got the wrong operands. -/
  | type
  /-- A reference is malformed or has no binding. -/
  | reference
  /-- An expression has no value. -/
  | evaluation
  /-- A directory holds no configuration. -/
  | noConfigs (directory : String)
  /-- A file cannot be read. -/
  | io
  /-- The library, or a function registered with it, breaks its own promise. -/
  | internal
  deriving DecidableEq

/-- The first line of a message. -/
def FaultKind.text : FaultKind → String
  | parse => "Parse error"
  | name => "Invalid name"
  | schema => "Schema error"
  | type => "Type error"
  | reference => "Reference error"
  | evaluation => "Evaluation error"
  | noConfigs directory => "No config files found in: " ++ directory
  | io => "I/O error"
  | internal => "Internal error"

/-- What went wrong. -/
inductive Cause where
  /-- A cause worded by the caller, as functions registered from outside have them. -/
  | described (kind : FaultKind) (text : String)
  -- Documents
  | undecodable
  | rootNotMapping (got : Kind)
  | repeatedSection (key : String)
  -- Templates and paths
  | template (problem : Template.Problem) (column : Nat) (source : String)
  | unclosedPathIndex (rest : String)
  | invalidPathIndex (index : String)
  | strayPathBracket
  | pathNotFound (path : String)
  -- Names and blocks
  | invalidPattern (pattern : String)
  | invalidName (block name pattern : String)
  | duplicateName (block name : String)
  | notABlock (block got : String)
  | invalidKeys (block : String) (keys valid : List String)
  | invalidValue (block key expected : String)
  -- Variables and references
  | invalidVariableType (name declared : String) (valid : List String)
  | typeMismatch (name declared inferred : String)
  | unsupportedReference (key : String)
  | dotIndex (name element : String)
  | unknownVariable (key : String)
  -- Calls
  | unknownFunction (name : String)
  | arity (function : String) (required : Nat) (orMore : Bool) (got : Nat)
  | argument (function : String) (position : Nat) (expected : ArgumentType) (got : Kind)
  | result (function : String) (got : Kind) (declared : ArgumentType)
  | argumentMissing (function : String) (type : ArgumentType)
  | lookupArity
  | lookupNotFlat (got : Kind)
  | lookupMissing (key : String)
  | valuesNotFlat (key : String) (got : Kind)
  -- Operators
  | notEmbeddable (expr : String) (got : Kind)
  | notNegatable (got : Kind)
  | notIndexable (expr : String) (got : Kind)
  | listIndex (expr : String) (got : Kind)
  | mapIndex (expr : String) (got : Kind)
  | indexOutOfRange (index : Int64) (expr : String) (length : Nat)
  | missingKey (key expr : String)
  | notNumeric (left right : Kind)
  | moduloOfFloats
  | divisionByZero
  | integerOverflow
  -- Files
  | noConfigs (directory : String)
  | file (problem : Files.Problem)
  | invalidFilePattern (pattern : String)

namespace Cause

/-- The kind of fault that a cause makes. -/
def kind : Cause → FaultKind
  | described kind _ => kind
  | undecodable | rootNotMapping _ | repeatedSection _ | template .. | unclosedPathIndex _
  | invalidPathIndex _ | strayPathBracket | invalidPattern _ => .parse
  | pathNotFound _ | unknownFunction _ | lookupMissing _ | indexOutOfRange .. | missingKey ..
  | divisionByZero | integerOverflow => .evaluation
  | invalidName .. | duplicateName .. => .name
  | notABlock .. | invalidKeys .. | invalidValue .. => .schema
  | invalidVariableType .. | typeMismatch .. | arity .. | argument .. | lookupArity
  | lookupNotFlat _ | valuesNotFlat .. | notEmbeddable .. | notNegatable _ | notIndexable ..
  | listIndex .. | mapIndex .. | notNumeric .. | moduloOfFloats => .type
  | unsupportedReference _ | dotIndex .. | unknownVariable _ => .reference
  | noConfigs directory => .noConfigs directory
  | file _ => .io
  | result .. | argumentMissing .. | invalidFilePattern _ => .internal

/-- A word in single quotes. -/
private def tick (s : String) : String := "'" ++ s ++ "'"

/-- The wording of a cause.  A directory without configuration is described by its kind. -/
def text : Cause → Option String
  | described _ text => some text
  | undecodable => some "the text is not a document of its format"
  | rootNotMapping got => some ("file doesn't contain a root object, got " ++ got.name)
  | repeatedSection key => some ("top-level key " ++ tick key ++ " appears more than once")
  | template problem column source =>
    some (problem.text ++ " at column " ++ toString column ++ " in " ++ tick source)
  | unclosedPathIndex rest => some ("unclosed '[' in path: [" ++ rest)
  | invalidPathIndex index => some ("invalid sequence index in path: [" ++ index ++ "]")
  | strayPathBracket => some "unexpected ']' in path"
  | pathNotFound path => some ("path " ++ tick path ++ " not found")
  | invalidPattern pattern => some ("invalid name pattern " ++ tick pattern)
  | invalidName block name _ => some (tick block ++ " name " ++ tick name ++ " is not valid")
  | duplicateName block name => some (block ++ " " ++ tick name ++ " is declared more than once")
  | notABlock block got => some (tick block ++ " must be a configuration block, got " ++ got)
  | invalidKeys block keys _ =>
    some ("\n  ".intercalate (keys.map fun key => block ++ ": invalid key: " ++ key))
  | invalidValue block key expected => some (block ++ ": " ++ tick key ++ " must be " ++ expected)
  | invalidVariableType name declared valid =>
    some ("Variable " ++ tick name ++ " type must be one of [" ++ ", ".intercalate valid ++ "] - "
      ++ tick declared ++ " is not a valid type")
  | typeMismatch name declared inferred =>
    some (tick name ++ " has a default value which is not of type " ++ tick declared ++ " (got "
      ++ tick inferred ++ ")")
  | unsupportedReference key => some ("unsupported variable reference: " ++ tick key)
  | dotIndex name element =>
    some ("invalid dot index found: " ++ tick ("var." ++ name ++ "." ++ element))
  | unknownVariable key => some ("unknown variable accessed: " ++ key)
  | unknownFunction name => some ("unknown function called: " ++ name)
  | arity function required orMore got =>
    some (function ++ ": expected " ++ (if orMore then "at least " else "") ++ toString required
      ++ " arguments, got " ++ toString got)
  | argument function position expected got =>
    some (function ++ ": argument " ++ toString position ++ " should be type " ++ expected.name
      ++ ", got type " ++ got.name)
  | result function got declared =>
    some (function ++ ": returned type " ++ got.name ++ ", declared " ++ declared.name)
  | argumentMissing function type =>
    some (function ++ ": " ++ type.name ++ " argument missing after check")
  | lookupArity => some "lookup() takes no more than three arguments"
  | lookupNotFlat got =>
    some ("lookup() may only be used with flat maps, this map contains elements of type "
      ++ got.name)
  | lookupMissing key => some ("lookup failed to find " ++ tick key)
  | valuesNotFlat key got =>
    some ("values(): " ++ tick key ++ " has element with bad type " ++ got.name)
  | notEmbeddable expr got =>
    some (tick expr ++ " is a " ++ got.name ++ " and cannot be embedded in a string")
  | notNegatable got => some ("cannot negate a value of type " ++ got.name)
  | notIndexable expr got => some (expr ++ " is a " ++ got.name ++ " and cannot be indexed")
  | listIndex expr got => some ("list " ++ expr ++ " must be indexed by an int, got " ++ got.name)
  | mapIndex expr got => some ("map " ++ expr ++ " must be indexed by a string, got " ++ got.name)
  | indexOutOfRange index expr length =>
    some ("index " ++ toString index.toInt ++ " out of range for list " ++ expr ++ " (length "
      ++ toString length ++ ")")
  | missingKey key expr => some ("key \"" ++ key ++ "\" does not exist in map " ++ expr)
  | notNumeric left right =>
    some ("arithmetic requires numeric operands, got " ++ left.name ++ " and " ++ right.name)
  | moduloOfFloats => some "modulo requires int operands"
  | divisionByZero => some "divide by zero"
  | integerOverflow => some "integer overflow"
  | noConfigs _ => none
  | file problem => some problem.text
  | invalidFilePattern pattern => some ("bad file pattern " ++ tick pattern)

/-- What to do about faults of a kind, whatever the cause. -/
def kindHelp : FaultKind → Option String
  | .internal => some "This is likely a bug in vulcan. Please report it."
  | _ => none

/-- What to do about a cause. -/
def help : Cause → Option String
  | invalidName _ _ pattern => some ("Names must match the regular expression: " ++ pattern)
  | duplicateName .. => some "Names must be unique within each kind"
  | invalidKeys _ _ valid => some ("Valid keys are: " ++ ", ".intercalate valid)
  | typeMismatch _ declared _ =>
    some ("Change the default to a " ++ declared ++ " or remove the declared type")
  | unsupportedReference _ => some "Only user variables ('var.<name>') can be referenced"
  | dotIndex name _ =>
    some ("Values in maps and lists can be referenced using square bracket indexing, like: 'var."
      ++ name ++ "[\"key\"]' or 'var." ++ name ++ "[1]'")
  | unknownVariable _ => some "Declare the variable or supply a value for it"
  | noConfigs _ => some "Add at least one .yaml, .yml or .json config file"
  | cause => kindHelp cause.kind

end Cause

/-! ## 3. Faults -/

/-- A place in a file; line and column count from one where they are known. -/
structure Location where
  file : String
  line : Option Nat := none
  column : Option Nat := none
  deriving DecidableEq

/-- A cause with what is known about its surroundings. -/
structure Fault where
  cause : Cause
  path : Option String := none
  location : Option Location := none
  help : Option String := cause.help

namespace Fault

/-- A fault with nothing known about its surroundings. -/
def of (cause : Cause) : Fault := { cause }

/-- A fault about a file. -/
def ofFile (file : String) (problem : Files.Problem) : Fault :=
  { cause := .file problem, location := some { file } }

/-- The kind of a fault is that of its cause. -/
def kind (fault : Fault) : FaultKind := fault.cause.kind

/-- Says where in the configuration the fault was found. -/
def atPath (fault : Fault) (path : String) : Fault := { fault with path := some path }

/-- Puts a block in front of the path. -/
def inside (fault : Fault) (block : String) : Fault :=
  { fault with path := some (match fault.path with
      | some path => block ++ "." ++ path
      | none => block) }

/-- Says in which place the fault was found. -/
def located (fault : Fault) (location : Location) : Fault :=
  { fault with location := some location }

/-- Says in which file the fault was found and keeps a line that is already known. -/
def inDocument (fault : Fault) (file : String) : Fault :=
  { fault with location := some (match fault.location with
      | some location => { location with file }
      | none => { file }) }

/-- Says what to do about the fault. -/
def advised (fault : Fault) (help : String) : Fault := { fault with help := some help }

/-- The place as it stands in a message. -/
def locationText (location : Location) : String :=
  match location.line with
  | none => location.file
  | some line =>
    location.file ++ ":" ++ toString line ++ (match location.column with
      | none => ""
      | some column => ":" ++ toString column)

/-- The message: the kind, then one line each for the path, the file, the cause and the help,
as far as they are known. -/
def message (fault : Fault) : String :=
  let line (lead : String) (text : Option String) : String :=
    match text with
    | none => ""
    | some text => "\n  " ++ lead ++ text
  fault.kind.text ++ line "Path: " fault.path
    ++ line "File: " (fault.location.map locationText)
    ++ line "" fault.cause.text ++ line "Help: " fault.help

end Fault

end TemplatedConfig
