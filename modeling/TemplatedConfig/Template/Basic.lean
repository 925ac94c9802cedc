/-
# Templates and expressions

A string of a document may be a template: literal text with expressions embedded between
`${` and a closing brace, while `$${` stands for the two characters `${` themselves.  This
module holds the trees that parsing produces and the order in which their nodes are visited.

Messages show an expression in a form that the parser reads back: arithmetic in parentheses,
string literals quoted, arguments separated by a comma and a space.

What can be wrong inside `${ }` is a `Problem`, each with its wording.  Where the error was found
is not part of it: the parser hands back the text it had not read yet, and the column follows from
its length.
-/
import TemplatedConfig.Text.Quoted
import TemplatedConfig.Value.Basic

namespace TemplatedConfig

/-! ## 1. Trees -/

/-- A literal inside an expression. -/
inductive Literal where
  | string (text : String)
  | integer (value : Int64)
  | float (value : Float)
  | bool (value : Bool)

/-- The binary operators. -/
inductive Operator where
  | add | sub | mul | div | mod
  deriving DecidableEq

/-- The sign of an operator. -/
def Operator.symbol : Operator → Char
  | add => '+'
  | sub => '-'
  | mul => '*'
  | div => '/'
  | mod => '%'

/-- An expression. -/
inductive Expr where
  | literal (value : Literal)
  /-- A dotted name such as `var.region`. -/
  | variable (name : String)
  /-- `target[key]` -/
  | index (target key : Expr)
  /-- `function(arguments)` -/
  | call (function : String) (arguments : List Expr)
  | arithmetic (op : Operator) (left right : Expr)
  /-- A minus sign before anything but a numeral. -/
  | negate (operand : Expr)

instance : Inhabited Expr := ⟨.variable ""⟩

mutual

/-- The nodes of an expression, each before its parts, and parts from left to right. -/
def Expr.nodes : Expr → List Expr
  | .literal v => [.literal v]
  | .variable name => [.variable name]
  | .index target key => .index target key :: (target.nodes ++ key.nodes)
  | .call function arguments => .call function arguments :: Expr.nodesOfAll arguments
  | .arithmetic op left right => .arithmetic op left right :: (left.nodes ++ right.nodes)
  | .negate operand => .negate operand :: operand.nodes

/-- The nodes of several expressions, one after another. -/
def Expr.nodesOfAll : List Expr → List Expr
  | [] => []
  | e :: rest => e.nodes ++ Expr.nodesOfAll rest

end

/-- Every expression is one of its own nodes. -/
theorem Expr.self_mem_nodes (e : Expr) : e ∈ e.nodes := by
  cases e <;> simp [nodes]

/-- One piece of a template. -/
inductive Part where
  /-- Text, with `$${` already read as `${`. -/
  | literal (text : String)
  | interpolation (expr : Expr)

/-- A parsed template together with the text it was parsed from. -/
structure Template where
  source : String
  parts : List Part

namespace Template

/-- The expression of a template that is one interpolation and nothing else. -/
def singleExpr? (t : Template) : Option Expr :=
  match t.parts with
  | [.interpolation expr] => some expr
  | _ => none

/-- The embedded expressions, in order. -/
def exprs (t : Template) : List Expr :=
  t.parts.filterMap fun
    | .interpolation expr => some expr
    | .literal _ => none

/-- The two characters that open an interpolation. -/
def opening : List Char := ['$', '{']

/-- Whether the opening characters occur in a text. -/
def hasOpening : List Char → Bool
  | '$' :: '{' :: _ => true
  | _ :: rest => hasOpening rest
  | [] => false

/-- Whether a string is a template at all: it holds `${`, be it escaped or not. -/
def isTemplate (text : String) : Bool := hasOpening text.toList

end Template

/-! ## 2. The text of an expression -/

/-- The text of a literal. -/
def Literal.print : Literal → String
  | string text => Text.quoted text
  | integer n => Value.integerText n
  | float x => Decimal.plain x
  | bool b => Value.boolText b

namespace Expr

mutual

/-- The text of an expression. -/
def print : Expr → String
  | .literal v => v.print
  | .variable name => name
  | .index target key => target.print ++ "[" ++ key.print ++ "]"
  | .call function arguments =>
    function ++ "(" ++ ", ".intercalate (printAll arguments) ++ ")"
  | .arithmetic op left right =>
    "(" ++ left.print ++ " " ++ op.symbol.toString ++ " " ++ right.print ++ ")"
  | .negate operand => "-" ++ operand.print

/-- The texts of several expressions. -/
def printAll : List Expr → List String
  | [] => []
  | e :: rest => e.print :: printAll rest

end

end Expr

/-! ## 3. What can be wrong with a template -/

namespace Template

/-- A cause of a syntax error in a template. -/
inductive Problem where
  /-- Nothing but blanks between the braces. -/
  | emptyInterpolation
  | unexpected (c : Char)
  | unexpectedEnd
  /-- More levels of parentheses, indexes, arguments and signs than are allowed. -/
  | tooDeep
  | unclosedIndex
  | unclosedParenthesis
  | integerOutOfRange (digits : String)
  | invalidEscape (c : Char)
  | unterminatedString
  | badArguments (function : String)
  deriving DecidableEq

/-- The wording of a cause. -/
def Problem.text : Problem → String
  | emptyInterpolation => "Empty interpolation expression"
  | unexpected c => "Unexpected character '" ++ c.toString ++ "'"
  | unexpectedEnd => "Unexpected end of input in interpolation"
  | tooDeep => "Expression nested too deeply"
  | unclosedIndex => "Expected ']' to close index"
  | unclosedParenthesis => "Expected ')'"
  | integerOutOfRange digits => "Integer '" ++ digits ++ "' out of range"
  | invalidEscape c => "Invalid escape '\\" ++ c.toString ++ "'"
  | unterminatedString => "Unterminated string"
  | badArguments function => "Expected ',' or ')' in call to " ++ function

end Template

end TemplatedConfig
