/-
# Configurations

A configuration is everything that a set of documents declares: variables, file blocks, and
resources grouped by kind, kinds in the order in which they were first seen.

Documents are loaded one after another and folded into one configuration.  A variable declared
again replaces the earlier declaration in its place; blocks accumulate, and declaring the same
one twice is a fault.

A configuration is written out as one mapping with a section for the variables, one for the
files and one for each kind of resource, each block with its current body.
-/
import TemplatedConfig.Config.Block
import TemplatedConfig.Config.Variable

namespace TemplatedConfig

/-! ## 1. Blocks -/

/-- Everything declared in a set of documents. -/
structure Config where
  /-- The directory that the documents were loaded from. -/
  directory : Option String := none
  /-- The loaded documents, in the order of loading. -/
  sources : List String := []
  files : List File := []
  /-- The declared variables. -/
  inputs : List Variable := []
  resources : Fields (List Resource) := []
  /-- Top-level keys that declare nothing. -/
  ignoredKeys : List String := []

namespace Config

/-- The configuration that declares nothing. -/
def empty : Config := {}

/-- The variable of a name. -/
def findVariable? (c : Config) (name : String) : Option Variable :=
  c.inputs.find? (·.name = name)

/-- The file block of a name. -/
def findFile? (c : Config) (name : String) : Option File := c.files.find? (·.name = name)

/-- The resources of a kind, in the order of loading. -/
def group (c : Config) (kind : String) : List Resource := (c.resources.get? kind).getD []

/-- The resource of a kind and name. -/
def findResource? (c : Config) (kind name : String) : Option Resource :=
  (c.group kind).find? (·.name = name)

/-- The resources of all kinds. -/
def allResources (c : Config) : List Resource := c.resources.flatMap Prod.snd

/-- Adds a resource to its kind. -/
def addResource (c : Config) (kind : String) (r : Resource) : Config :=
  { c with resources := c.resources.insert kind (c.group kind ++ [r]) }

/-- The value that a variable has if nothing else is said. -/
def defaultOf (v : Variable) : Value := v.default.getD Value.unknown

/-- The bindings of all variables to their defaults; a variable without one is unknown. -/
def defaults (c : Config) : Bindings :=
  Bindings.ofList (c.inputs.map fun v => (v.name, defaultOf v))

/-- A path below a block in a list of unresolved values. -/
def unresolvedPath (id path : String) : String := id ++ ": " ++ path

/-- The values that the last interpolation left unknown. -/
def unresolvedPaths (c : Config) : List String :=
  (c.files.flatMap fun f => f.body.unknownPaths.map (unresolvedPath f.id))
    ++ (c.allResources.flatMap fun r => r.body.unknownPaths.map (unresolvedPath r.id))

/-! ## 2. Merging -/

/-- Declares a variable, in place of a declaration of the same name. -/
def putVariable : List Variable → Variable → List Variable
  | [], v => [v]
  | w :: rest, v => if w.name = v.name then v :: rest else w :: putVariable rest v

/-- Declares several variables one after another. -/
def putVariables (inputs more : List Variable) : List Variable := more.foldl putVariable inputs

/-- The fault of a block whose name is taken. -/
def duplicateBlock (block name id source : String) : Fault :=
  ((Fault.of (.duplicateName block name)).atPath id).inDocument source

/-- Adds a file block whose name is not taken. -/
def addFile (c : Config) (f : File) : Except Fault Config :=
  if (c.findFile? f.name).isSome then .error (duplicateBlock "file" f.name f.id f.source)
  else .ok { c with files := c.files ++ [f] }

/-- Adds a resource whose name is not taken within its kind. -/
def addNewResource (kind : String) (c : Config) (r : Resource) : Except Fault Config :=
  if (c.findResource? kind r.name).isSome then .error (duplicateBlock kind r.name r.id r.source)
  else .ok (c.addResource kind r)

/-- Adds the resources of a kind. -/
def addGroup (c : Config) (group : String × List Resource) : Except Fault Config :=
  group.2.foldlM (addNewResource group.1) c

/-- Appends what needs no check. -/
def addRest (c other : Config) : Config :=
  { c with
    ignoredKeys := c.ignoredKeys ++ other.ignoredKeys
    sources := c.sources ++ other.sources
    directory := other.directory.or c.directory }

/-- Folds another configuration into this one. -/
def merge (c other : Config) : Except Fault Config := do
  let c := { c with inputs := putVariables c.inputs other.inputs }
  let c ← other.files.foldlM addFile c
  let c ← other.resources.foldlM addGroup c
  return c.addRest other

end Config

/-! ## 3. A configuration as a value -/

/-- What a variable declares; what it does not is left out. -/
def Variable.declaration (v : Variable) : Fields Value :=
  (v.declared.toList.map fun word => ("type", .string word))
    ++ (v.default.toList.map fun default => ("default", default))
    ++ (v.description.toList.map fun text => ("description", .string text))

/-- A declaration as the body of a block. -/
def Variable.toValue (v : Variable) : Value := .mapping v.declaration

/-- A declaration together with its name. -/
def Variable.record (v : Variable) : Value :=
  .mapping (("name", .string v.name) :: v.declaration)

/-- The current body of a resource with its dependencies put back. -/
def Resource.toValue (r : Resource) : Value :=
  let fields := (r.current.fields?).getD []
  .mapping (if r.dependsOn = [] then fields
    else Fields.insert fields "depends_on" (.sequence (r.dependsOn.map .string)))

namespace Config

/-- A section, with nothing in it if it declares nothing. -/
def sectionOf (key : String) (entries : List (String × Value)) : List (String × Value) :=
  if entries = [] then [] else [(key, .mapping (Fields.ofList entries))]

/-- The whole configuration as one mapping. -/
def toValue (c : Config) : Value :=
  .mapping (Fields.ofList
    (sectionOf "variable" (c.inputs.map fun v => (v.name, v.toValue))
      ++ sectionOf "file" (c.files.map fun f => (f.name, f.current))
      ++ c.resources.map fun (kind, group) =>
        (kind, .mapping (Fields.ofList (group.map fun r => (r.name, r.toValue))))))

end Config

end TemplatedConfig
