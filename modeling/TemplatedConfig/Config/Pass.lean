/-
# Passes over a configuration

Two operations go through the declarations one by one and stop at the first fault: validation,
which normalizes the defaults of the variables, and interpolation, which resolves the bodies of
the blocks.  What was done before the fault stays done, so both give back a configuration in
any case, with the fault beside it.
-/
import TemplatedConfig.Config.Basic
import TemplatedConfig.Name.Grammar

namespace TemplatedConfig.Config

variable {α : Type}

/-- Takes a step on each element in turn; at a fault that element and the rest stay as they
are. -/
def stepUntilFault (step : α → Except Fault α) : List α → List α × Option Fault
  | [] => ([], none)
  | a :: rest =>
    match step a with
    | .error fault => (a :: rest, some fault)
    | .ok b =>
      match stepUntilFault step rest with
      | (out, fault) => (b :: out, fault)

/-- Takes a step on each element of each group in turn. -/
def stepGroupsUntilFault (step : α → Except Fault α) :
    Fields (List α) → Fields (List α) × Option Fault
  | [] => ([], none)
  | (key, group) :: rest =>
    match stepUntilFault step group with
    | (out, some fault) => ((key, out) :: rest, some fault)
    | (out, none) =>
      match stepGroupsUntilFault step rest with
      | (outs, fault) => ((key, out) :: outs, fault)

/-! ## 1. Validation -/

/-- A declared name, and the document it stands in where that is known. -/
structure DeclaredName where
  name : String
  source : Option String

/-- Adds the document to a fault about the name. -/
def DeclaredName.locate (n : DeclaredName) (fault : Fault) : Fault :=
  match n.source with
  | some source => fault.inDocument source
  | none => fault

/-- Refuses names that are not in the grammar or were seen before. -/
def checkNames (g : Name.Grammar) (block : String) : List String → List DeclaredName →
    Except Fault Unit
  | _, [] => .ok ()
  | seen, n :: rest => do
    (g.check block n.name).mapError n.locate
    if n.name ∈ seen then throw (n.locate (Fault.of (.duplicateName block n.name)))
    checkNames g block (n.name :: seen) rest

/-- Refuses the configuration if a name is not in the grammar or declared twice: variables
first, then files, then resources kind by kind. -/
def checkAllNames (c : Config) (g : Name.Grammar) : Except Fault Unit := do
  checkNames g "variable" [] (c.inputs.map fun v => ⟨v.name, none⟩)
  checkNames g "file" [] (c.files.map fun f => ⟨f.name, some f.source⟩)
  c.resources.forM fun (kind, group) =>
    checkNames g kind [] (group.map fun r => ⟨r.name, some r.source⟩)

/-- Normalizes a variable; a fault names it. -/
def normalizeVariable (v : Variable) : Except Fault Variable :=
  v.normalize.mapError (·.inside ("variable." ++ v.name))

/-- Checks the names, then the variables in turn, which normalizes their defaults. -/
def validate (c : Config) (g : Name.Grammar) : Config × Option Fault :=
  match c.checkAllNames g with
  | .error fault => (c, some fault)
  | .ok () =>
    match stepUntilFault normalizeVariable c.inputs with
    | (inputs, fault) => ({ c with inputs }, fault)

/-! ## 2. Interpolation -/

/-- Resolves the body of a block; a fault names the block and its document. -/
def interpolateBody (bindings : Bindings) (id source : String) (body : Body) :
    Except Fault Body :=
  (body.interpolate bindings).mapError fun fault => (fault.inside id).inDocument source

/-- Resolves the body of a file block. -/
def interpolateFile (bindings : Bindings) (f : File) : Except Fault File := do
  let body ← interpolateBody bindings f.id f.source f.body
  return { f with body }

/-- Resolves the body of a resource. -/
def interpolateResource (bindings : Bindings) (r : Resource) : Except Fault Resource := do
  let body ← interpolateBody bindings r.id r.source r.body
  return { r with body }

/-- Resolves all blocks: the files, then the resources kind by kind. -/
def interpolate (c : Config) (bindings : Bindings) : Config × Option Fault :=
  match stepUntilFault (interpolateFile bindings) c.files with
  | (files, some fault) => ({ c with files }, some fault)
  | (files, none) =>
    match stepGroupsUntilFault (interpolateResource bindings) c.resources with
    | (resources, fault) => ({ c with files, resources }, fault)

end TemplatedConfig.Config
