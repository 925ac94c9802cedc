/-
# Bodies of blocks

The body of a block is kept exactly as it was loaded, together with the templates in it and
the variables they refer to, which are found once, when the body is made.  Resolving evaluates
a fresh copy of the tree, so it can be repeated with other bindings; `interpolate` remembers
the last resolution that succeeded.
-/
import TemplatedConfig.Traversal.Substitution
import TemplatedConfig.Scope.Evaluation
import TemplatedConfig.Function.Basic

namespace TemplatedConfig

/-- The outcome of resolving a body: the tree without templates, and the paths of the values
not known yet. -/
structure Resolution where
  value : Value
  unknownPaths : List String

/-- The body of a block. -/
structure Body where
  /-- The block that the body belongs to, such as `package.nginx`. -/
  key : String
  raw : Value
  /-- The templates of the body, in the order of all passes over it. -/
  templates : List Template
  /-- What the templates refer to: each variable once, in ascending order. -/
  references : List Reference
  /-- The last resolution that succeeded. -/
  resolution : Option Resolution := none

namespace Body

/-- An absent body is an empty mapping. -/
def normalized : Value → Value
  | .null => .mapping []
  | v => v

/-- The references in all expressions of a template. -/
def referencesIn (t : Template) : Except Fault (List Reference) :=
  (t.exprs.mapM Reference.allIn).map List.flatten

/-- A template with the references in it. -/
def inspect (t : Template) : Except Fault (Template × List Reference) :=
  (referencesIn t).map fun found => (t, found)

/-- Every reference once, in ascending order of the full keys. -/
def collect (found : List Reference) : List Reference :=
  found.eraseDups.mergeSort fun a b => a.fullText ≤ b.fullText

/-- Makes the body of a block; a template that cannot be parsed, or that refers to something
other than a variable, is a fault. -/
def ofValue (key : String) (raw : Value) : Except Fault Body := do
  let found ← Traversal.visitAll (m := Id) (fun _ t => inspect t) (normalized raw)
  return { key, raw := normalized raw, templates := found.map Prod.fst,
           references := collect (found.flatMap Prod.snd) }

/-- Evaluates a copy of the body in a scope. -/
def resolveIn (body : Body) (scope : Scope) : Except Fault Resolution := do
  let replaced ← Traversal.substitute (m := Id) (fun _ t => scope.fill t) body.raw
  return { value := replaced.value, unknownPaths := replaced.unknownPaths }

/-- Evaluates a copy of the body with the built-in functions. -/
def resolve (body : Body) (bindings : Bindings) : Except Fault Resolution :=
  body.resolveIn { bindings, functions := Registry.builtins }

/-- Resolves the body and remembers the result. -/
def interpolate (body : Body) (bindings : Bindings) : Except Fault Body := do
  let resolution ← body.resolve bindings
  return { body with resolution := some resolution }

/-- The resolved body, or the body as it was loaded if it has not been resolved. -/
def current (body : Body) : Value :=
  match body.resolution with
  | some resolution => resolution.value
  | none => body.raw

/-- The paths that the last resolution left unknown. -/
def unknownPaths (body : Body) : List String :=
  match body.resolution with
  | some resolution => resolution.unknownPaths
  | none => []

/-- Bodies are the same if they belong to the same block and were loaded with the same
content. -/
def same (a b : Body) : Bool := a.key == b.key && a.raw.same b.raw

end Body

end TemplatedConfig
