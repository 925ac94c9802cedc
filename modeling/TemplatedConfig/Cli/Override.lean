/-
# Overriding variables

An argument `NAME=VALUE` gives a variable another value than its default.  The value is read as
YAML; what is no YAML document, or says nothing, is taken as the text it is.  The value of a
declared variable is checked and brought into canonical form as a default would be.
-/
import TemplatedConfig.Config.Basic
import TemplatedConfig.Yaml.Reader
import TemplatedConfig.Text.Classes

namespace TemplatedConfig.Cli

/-- What is wrong with an override. -/
inductive OverrideProblem where
  | noValue
  | noName
  /-- The value is not one for the declared variable. -/
  | refused (fault : Fault)

/-- The wording of a problem. -/
def OverrideProblem.text : OverrideProblem → String
  | noValue => "expected NAME=VALUE"
  | noName => "missing variable name"
  | refused fault => fault.message

/-- An override that is not accepted. -/
structure BadOverride where
  argument : String
  problem : OverrideProblem

/-- The wording of what is wrong with an override. -/
def BadOverride.text (b : BadOverride) : String :=
  "Invalid --var '" ++ b.argument ++ "': " ++ b.problem.text

/-- The text of a value, read by a given decoder. -/
def valueOf (decode : String → Option Value) (text : String) : Value :=
  match decode text with
  | none | some .null => .string text
  | some v => v

/-- The name and the value that an argument gives. -/
def parseOverride (decode : String → Option Value) (argument : String) :
    Except BadOverride (String × Value) :=
  match argument.toList.dropWhile (· ≠ '=') with
  | [] => .error ⟨argument, .noValue⟩
  | _ :: text =>
    let name := Text.trim (String.ofList (argument.toList.takeWhile (· ≠ '=')))
    if name = "" then .error ⟨argument, .noName⟩
    else .ok (name, valueOf decode (String.ofList text))

/-- A value for a variable, in canonical form if the variable is declared. -/
def checkedValue (c : Config) (argument name : String) (value : Value) :
    Except BadOverride Value :=
  match c.findVariable? name with
  | none => .ok value
  | some v =>
    match { v with default := some value }.normalize with
    | .ok normalized => .ok (normalized.default.getD .null)
    | .error fault => .error ⟨argument, .refused fault⟩

/-- Adds an override to bindings. -/
def addOverride (decode : String → Option Value) (c : Config) (b : Bindings)
    (argument : String) : Except BadOverride Bindings := do
  let (name, value) ← parseOverride decode argument
  let value ← checkedValue c argument name value
  return b.insert name value

/-- The bindings of all variables: the defaults with the overrides laid over them. -/
def bindingsWith (decode : String → Option Value) (c : Config) (arguments : List String) :
    Except BadOverride Bindings :=
  arguments.foldlM (addOverride decode c) c.defaults

/-- The value that a YAML text stands for. -/
def decodeYaml (text : String) : Option Value := (Yaml.read? text).map Document.toValue

end TemplatedConfig.Cli
