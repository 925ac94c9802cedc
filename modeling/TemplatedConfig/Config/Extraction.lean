/-
# From a document to a configuration

Each top-level key of a document names a kind of block and maps names to bodies.  `variable`
and `file` are reserved, any other key is a kind of resource, and a key whose content is no
mapping declares nothing and is only noted.

The extraction works on the value of the document, in which repeated keys are settled.
Declaring a kind or a name twice in one document is a fault, so the entries are checked for
repeats first.
-/
import TemplatedConfig.Document.Basic
import TemplatedConfig.Config.Basic
import TemplatedConfig.Name.Grammar

namespace TemplatedConfig.Config

/-! ## 1. Repeated declarations -/

/-- Refuses a name that was declared before in the same section. -/
def checkNamesOnce (kind : String) : List String → List (String × Document) → Except Fault Unit
  | _, [] => .ok ()
  | seen, (name, _) :: rest =>
    if name ∈ seen then
      .error ((Fault.of (.duplicateName kind name)).atPath (kind ++ "." ++ name))
    else checkNamesOnce kind (name :: seen) rest

/-- Refuses a top-level key that occurred before, and names declared twice below a key. -/
def checkSectionsOnce : List String → List (String × Document) → Except Fault Unit
  | _, [] => .ok ()
  | seen, (kind, d) :: rest => do
    if kind ∈ seen then throw ((Fault.of (.repeatedSection kind)).atPath kind)
    checkNamesOnce kind [] d.entries
    checkSectionsOnce (kind :: seen) rest

/-! ## 2. Blocks -/

/-- Where blocks are read from: the name of the document in faults, and the grammar that
declared names have to match. -/
structure Origin where
  label : String
  grammar : Name.Grammar

variable (o : Origin)

/-- A fault at a path in the document. -/
def Origin.faultAt (path : String) (cause : Cause) : Fault :=
  ((Fault.of cause).atPath path).inDocument o.label

/-- The path of a block. -/
def blockPath (kind name : String) : String := kind ++ "." ++ name

/-- The name of a block in messages. -/
def blockLabel (kind name : String) : String := kind ++ "[" ++ name ++ "]"

/-- The names and bodies of a section. -/
def sectionEntries (kind : String) : Value → Except Fault (Fields Value)
  | .null => .ok []
  | .mapping fields => .ok fields
  | other => .error (o.faultAt kind (.notABlock kind other.kind.name))

/-- Refuses a name that is not in the grammar. -/
def requireName (kind name : String) : Except Fault Unit :=
  (o.grammar.check kind name).mapError fun fault =>
    (fault.atPath (blockPath kind name)).inDocument o.label

/-- The fields of a body; an absent body has none. -/
def bodyFields (kind name : String) : Value → Except Fault (Fields Value)
  | .null => .ok []
  | .mapping fields => .ok fields
  | other =>
    .error (o.faultAt (blockPath kind name)
      (.notABlock (blockLabel kind name) other.kind.name))

/-- Refuses a body with keys other than the valid ones, naming them all. -/
def requireKeys (kind name : String) (valid : List String) (fields : Fields Value) :
    Except Fault Unit :=
  match fields.keys.filter (· ∉ valid) with
  | [] => .ok ()
  | invalid =>
    .error (o.faultAt (blockPath kind name)
      (.invalidKeys (blockLabel kind name) invalid valid))

/-- A key that holds a string if it is there. -/
def stringIfGiven (kind name : String) (fields : Fields Value) (key : String) :
    Except Fault (Option String) :=
  match fields.get? key with
  | none | some .null => .ok none
  | some (.string s) => .ok (some s)
  | some _ =>
    .error (o.faultAt (blockPath kind name ++ "." ++ key)
      (.invalidValue (blockLabel kind name) key "a string"))

/-- The keys of a variable declaration. -/
def variableKeyNames : List String := ["type", "default", "description"]

/-- A default that is there; a null is none. -/
def defaultIn (fields : Fields Value) : Option Value :=
  match fields.get? "default" with
  | some .null => none
  | other => other

/-- The declaration of a variable. -/
def extractVariable (name : String) (body : Value) : Except Fault Variable := do
  requireName o "variable" name
  let fields ← bodyFields o "variable" name body
  requireKeys o "variable" name variableKeyNames fields
  let declared ← stringIfGiven o "variable" name fields "type"
  let description ← stringIfGiven o "variable" name fields "description"
  let v : Variable := { name, declared, default := defaultIn fields, description }
  v.normalize.mapError fun fault =>
    (fault.atPath (blockPath "variable" name)).inDocument o.label

/-- The declaration of a file. -/
def extractFile (name : String) (body : Value) : Except Fault File := do
  requireName o "file" name
  let fields ← bodyFields o "file" name body
  requireKeys o "file" name File.keyNames fields
  (File.ofBody name (.mapping fields) o.label).mapError (·.inDocument o.label)

/-- The strings of a list of strings. -/
def strings? (v : Value) : Option (List String) := v.items?.bind fun items => items.mapM Value.text?

/-- The dependencies declared in a body. -/
def dependencies (kind name : String) (fields : Fields Value) : Except Fault (List String) :=
  match fields.get? "depends_on" with
  | none | some .null => .ok []
  | some v =>
    match strings? v with
    | some names => .ok names
    | none =>
      .error (o.faultAt (blockPath kind name ++ ".depends_on")
        (.invalidValue (blockLabel kind name) "depends_on" "a list of strings"))

/-- The declaration of a resource. -/
def extractResource (kind name : String) (body : Value) : Except Fault Resource := do
  requireName o kind name
  let fields ← bodyFields o kind name body
  let dependsOn ← dependencies o kind name fields
  (Resource.ofKeys kind name (.mapping (fields.erase "depends_on")) dependsOn o.label).mapError
    (·.inDocument o.label)

/-! ## 3. Sections -/

/-- The blocks of a section that may be missing. -/
def extractSection {α : Type} (kind : String) (extract : String → Value → Except Fault α)
    (v : Option Value) : Except Fault (List α) :=
  match v with
  | none => .ok []
  | some v => do
    let entries ← sectionEntries o kind v
    entries.mapM fun (name, body) => extract name body

/-- The keys with a meaning of their own. -/
def reserved (key : String) : Bool := key = "variable" || key = "file"

/-- Adds what a top-level key other than the reserved ones declares. -/
def extractKind (c : Config) (kind : String) (v : Value) : Except Fault Config :=
  match v with
  | .mapping _ => do
    let group ← extractSection o kind (extractResource o kind) (some v)
    return { c with resources := c.resources.insert kind (c.group kind ++ group) }
  | _ => return { c with ignoredKeys := c.ignoredKeys ++ [kind] }

/-- The configuration that the fields of a document declare. -/
def ofFields (root : Fields Value) : Except Fault Config := do
  let inputs ← extractSection o "variable" (extractVariable o) (root.get? "variable")
  let files ← extractSection o "file" (extractFile o) (root.get? "file")
  (root.filter fun e => !reserved e.1).foldlM (fun c e => extractKind o c e.1 e.2)
    { inputs, files }

/-- The configuration that a document declares. -/
def ofDocument (d : Document) : Except Fault Config :=
  match d.toValue with
  | .null => .ok empty
  | .mapping root => do
    (checkSectionsOnce [] d.entries).mapError (·.inDocument o.label)
    ofFields o root
  | other => .error ((Fault.of (.rootNotMapping other.kind)).inDocument o.label)

end TemplatedConfig.Config
