/-
# Functions

Expressions call functions by name.  A signature says how many arguments a function takes, of
which types, and what it gives back.  Arguments are checked against it, from left to right and
after their number, before the function sees them, so that the body of a function need not look at
them again.

A registry maps names to functions, one function for each name, the last one registered.  A call
checks the arguments, runs the body and checks the result; a result of the wrong type is the
function's own mistake.

Four functions are always there: the absolute value of a number, and three that read a map.
`keys` and `values` both go through the map in ascending order of its keys, so that the two
lists line up whatever the order of the map itself.
-/
import TemplatedConfig.Fault

namespace TemplatedConfig

/-! ## 1. Signatures -/

/-- The parameters and the result of a function. -/
structure Signature where
  parameters : List ArgumentType
  /-- The type of all arguments after the parameters; without it there are none. -/
  variadic : Option ArgumentType := none
  returns : ArgumentType
  deriving DecidableEq

namespace Signature

/-- Whether a number of arguments is allowed. -/
def acceptsCount (s : Signature) (count : Nat) : Bool :=
  match s.variadic with
  | some _ => s.parameters.length ≤ count
  | none => count = s.parameters.length

/-- The type expected at a position, counted from zero. -/
def typeAt (s : Signature) (position : Nat) : ArgumentType :=
  (s.parameters[position]?.or s.variadic).getD .any

/-- Checks and widens the arguments from a position on. -/
def checkFrom (s : Signature) (function : String) : Nat → List Value →
    Except Fault (List Value)
  | _, [] => .ok []
  | position, v :: rest =>
    if (s.typeAt position).accepts v then
      (checkFrom s function (position + 1) rest).map ((s.typeAt position).widen v :: ·)
    else
      .error (Fault.of (.argument function (position + 1) (s.typeAt position) v.kind))

/-- Checks the arguments of a call and widens integers where a float is expected. -/
def check (s : Signature) (function : String) (arguments : List Value) :
    Except Fault (List Value) :=
  if s.acceptsCount arguments.length then s.checkFrom function 0 arguments
  else
    .error (Fault.of
      (.arity function s.parameters.length s.variadic.isSome arguments.length))

end Signature

/-! ## 2. Registries -/

/-- A function: a signature and a body for arguments that satisfy it. -/
structure Function where
  signature : Signature
  body : List Value → Except Fault Value

/-- Functions by name. -/
structure Registry where
  functions : Fields Function := []

namespace Registry

/-- The registry without functions. -/
def empty : Registry := {}

/-- Registers a function, in place of one of the same name. -/
def register (r : Registry) (name : String) (function : Function) : Registry :=
  { functions := r.functions.insert name function }

/-- The function of a name. -/
def get? (r : Registry) (name : String) : Option Function := r.functions.get? name

/-- Whether a name has a function. -/
def contains (r : Registry) (name : String) : Bool := (r.get? name).isSome

/-- The names, in ascending order. -/
def names (r : Registry) : List String := r.functions.keys.mergeSort

/-- A result that is of the declared type. -/
def checkResult (name : String) (returns : ArgumentType) (result : Value) :
    Except Fault Value :=
  if returns.accepts result then .ok result
  else .error (Fault.of (.result name result.kind returns))

/-- Calls a function by name. -/
def call (r : Registry) (name : String) (arguments : List Value) : Except Fault Value :=
  match r.get? name with
  | none => .error (Fault.of (.unknownFunction name))
  | some function => do
    let checked ← function.signature.check name arguments
    let result ← function.body checked
    checkResult name function.signature.returns result

end Registry

/-! ## 3. Built-in functions -/

namespace Function

/-- The body of a function that takes a map first.  Signatures put one there. -/
def withMap (function : String) (use : Fields Value → List Value → Except Fault Value) :
    List Value → Except Fault Value
  | .mapping fields :: rest => use fields rest
  | _ => .error (Fault.of (.argumentMissing function .map))

/-- The absolute value of a float. -/
def absolute : List Value → Except Fault Value
  | .float x :: _ => .ok (.float x.abs)
  | _ => .error (Fault.of (.argumentMissing "abs" .float))

/-- The string under a key, or the default. -/
def lookupIn (fields : Fields Value) (key : String) (default : Option Value) :
    Except Fault Value :=
  match fields.get? key with
  | some (.string s) => .ok (.string s)
  | some other => .error (Fault.of (.lookupNotFlat other.kind))
  | none =>
    match default with
    | some v => .ok v
    | none => .error (Fault.of (.lookupMissing key))

/-- `lookup(map, key)` and `lookup(map, key, default)`. -/
def lookup (arguments : List Value) : Except Fault Value :=
  if 3 < arguments.length then .error (Fault.of .lookupArity)
  else
    withMap "lookup" (fun fields rest =>
      lookupIn fields ((rest[0]?.bind Value.text?).getD "") rest[1]?) arguments

/-- `keys(map)`: the keys in ascending order. -/
def keys : List Value → Except Fault Value :=
  withMap "keys" fun fields _ => .ok (.sequence (fields.sorted.keys.map .string))

/-- The string under a key, if all of the map is strings. -/
def flatEntry : String × Value → Except Fault Value
  | (_, .string s) => .ok (.string s)
  | (key, other) => .error (Fault.of (.valuesNotFlat key other.kind))

/-- `values(map)`: the values in ascending order of their keys. -/
def values : List Value → Except Fault Value :=
  withMap "values" fun fields _ => (fields.sorted.mapM flatEntry).map .sequence

end Function

/-- The built-in functions. -/
def Registry.builtins : Registry where
  functions :=
    [("abs", { signature := { parameters := [.float], returns := .float }
               body := Function.absolute }),
     ("lookup", { signature := { parameters := [.map, .string], variadic := some .string,
                                 returns := .string }
                  body := Function.lookup }),
     ("keys", { signature := { parameters := [.map], returns := .list }
                body := Function.keys }),
     ("values", { signature := { parameters := [.map], returns := .list }
                  body := Function.values })]

end TemplatedConfig
