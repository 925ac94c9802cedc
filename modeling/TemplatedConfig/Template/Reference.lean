/-
# References to variables

A dotted name inside an expression refers to a variable if it has the form `var.name`.  What
is stored inside a list or a map is reached by an index in brackets and never by a further
point, so a second point is a fault of its own.  `Reference.allIn` lists what an expression
reads, in the order in which its nodes are visited.
-/
import TemplatedConfig.Template.Basic
import TemplatedConfig.Fault

namespace TemplatedConfig

/-- A reference to a variable: the name of the variable and the text that refers to it. -/
structure Reference where
  name : String
  key : String
  deriving DecidableEq

namespace Reference

/-- What every reference to a variable starts with. -/
def lead : List Char := ['v', 'a', 'r', '.']

/-- The name of a variable with the lead in front. -/
def keyOf (name : String) : String := String.ofList lead ++ name

/-- The reference in its full form. -/
def fullText (r : Reference) : String := keyOf r.name

/-- Splits a text at its first point; without a point there is no second half. -/
def splitAtPoint (text : List Char) : List Char × Option (List Char) :=
  match text.dropWhile (· ≠ '.') with
  | [] => (text, none)
  | _ :: rest => (text.takeWhile (· ≠ '.'), some rest)

/-- The reference that remains when the lead is taken off `key`. -/
def ofRest (key : String) (rest : List Char) : Except Fault Reference :=
  match splitAtPoint rest with
  | ([], _) => .error (Fault.of (.unsupportedReference key))
  | (name, none) => .ok { name := String.ofList name, key }
  | (name, some element) =>
    .error (Fault.of (.dotIndex (String.ofList name) (String.ofList element)))

/-- Reads a reference. -/
def ofKey (key : String) : Except Fault Reference :=
  match key.toList with
  | 'v' :: 'a' :: 'r' :: '.' :: rest => ofRest key rest
  | _ => .error (Fault.of (.unsupportedReference key))

/-- The key that a node of an expression reports.  An indexed variable is reported by the
index as well as by the variable below it. -/
def reportedKey? : Expr → Option String
  | .variable name => some name
  | .index (.variable name) _ => some name
  | _ => none

/-- The references in an expression, up to the first that is malformed. -/
def allIn (expr : Expr) : Except Fault (List Reference) :=
  (expr.nodes.filterMap reportedKey?).mapM ofKey

end Reference

end TemplatedConfig
