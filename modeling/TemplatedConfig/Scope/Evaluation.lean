/-
# Evaluation

A scope pairs bindings with functions and evaluates expressions and templates.  Evaluation is
strict: every operand, every argument and every part of a template is evaluated, from left to
right, even when an earlier one was unknown, so that an unknown value never hides a fault.
An operation with an unknown operand is not carried out and its result is unknown.
-/
import TemplatedConfig.Function.Basic
import TemplatedConfig.Scope.Bindings
import TemplatedConfig.Scope.Operation
import TemplatedConfig.Template.Basic
import TemplatedConfig.Template.Reference

namespace TemplatedConfig

/-- The value of a literal. -/
def Literal.value : Literal → Value
  | string s => .string s
  | integer n => .integer n
  | float x => .float x
  | bool b => .bool b

/-- What expressions are evaluated in. -/
structure Scope where
  bindings : Bindings
  functions : Registry

namespace Scope

/-- Uses the values of two operands if both are known. -/
def withBoth (a b : Except Fault Outcome) (use : Value → Value → Except Fault Outcome) :
    Except Fault Outcome := do
  let left ← a
  let right ← b
  match left, right with
  | .known l, .known r => use l r
  | _, _ => .ok .unknown

/-- The values of several operands if all are known. -/
def allKnown? : List Outcome → Option (List Value)
  | [] => some []
  | .known v :: rest => (allKnown? rest).map (v :: ·)
  | .unknown :: _ => none

/-- The value bound to a reference. -/
def lookup (s : Scope) (key : String) : Except Fault Value := do
  let reference ← Reference.ofKey key
  match s.bindings.get? reference.name with
  | some v => .ok v
  | none => .error (Fault.of (.unknownVariable key))

/-- A well-formed reference reads the binding of its name. -/
theorem lookup_of_ofKey {s : Scope} {key : String} {reference : Reference}
    (h : Reference.ofKey key = .ok reference) :
    s.lookup key = match s.bindings.get? reference.name with
      | some v => .ok v
      | none => .error (Fault.of (.unknownVariable key)) := by
  rw [lookup, h]
  rfl

/-- A malformed reference is a fault whatever is bound. -/
theorem lookup_of_malformed {s : Scope} {key : String} {fault : Fault}
    (h : Reference.ofKey key = .error fault) : s.lookup key = .error fault := by
  rw [lookup, h]
  rfl

/-- Calls a function if all arguments are known. -/
def callWith (s : Scope) (function : String) (arguments : List Outcome) :
    Except Fault Outcome :=
  match allKnown? arguments with
  | some values => (s.functions.call function values).map .ofValue
  | none => .ok .unknown

/-- Negates an operand if it is known. -/
def negated : Outcome → Except Fault Outcome
  | .known v => (Operation.negate v).map .known
  | .unknown => .ok .unknown

mutual

/-- Evaluates an expression.  What comes out of a binding, an index or a call is unknown if it
is the mark; literals and results of operators are what they are. -/
def eval (s : Scope) : Expr → Except Fault Outcome
  | .literal v => .ok (.known v.value)
  | .variable name => (s.lookup name).map .ofValue
  | .index target key =>
    withBoth (eval s target) (eval s key) fun t k =>
      (Operation.index target.print t k).map .ofValue
  | .call function arguments => (evalAll s arguments).bind (s.callWith function)
  | .arithmetic op left right =>
    withBoth (eval s left) (eval s right) fun l r => (Operation.arithmetic op l r).map .known
  | .negate operand => (eval s operand).bind negated

/-- Evaluates expressions one after another. -/
def evalAll (s : Scope) : List Expr → Except Fault (List Outcome)
  | [] => .ok []
  | e :: rest => do
    let v ← eval s e
    let vs ← evalAll s rest
    return v :: vs

end

/-- The text of one part of a template, none if it is unknown. -/
def partText (s : Scope) : Part → Except Fault (Option String)
  | .literal text => .ok (some text)
  | .interpolation e => do
    match ← s.eval e with
    | .known v => (Operation.render e.print v).map some
    | .unknown => .ok none

/-- The texts put together, if none is missing. -/
def joinTexts? : List (Option String) → Option String
  | [] => some ""
  | some text :: rest => (joinTexts? rest).map (text ++ ·)
  | none :: _ => none

/-- The parts of a template put together to one string. -/
def evalParts (s : Scope) (parts : List Part) : Except Fault Outcome := do
  let texts ← parts.mapM s.partText
  match joinTexts? texts with
  | some text => return .known (.string text)
  | none => return .unknown

/-- Evaluates a template.  One expression alone keeps the type of its value. -/
def fill (s : Scope) (t : Template) : Except Fault Outcome :=
  match t.singleExpr? with
  | some e => s.eval e
  | none => s.evalParts t.parts

end Scope

end TemplatedConfig
