/-
# Blocks

A configuration declares blocks of two kinds: files to be written, whose few keys have a
meaning of their own, and resources of any other kind, whose keys are free.  Both keep their
body for interpolation and remember the document they come from.
-/
import TemplatedConfig.Body

namespace TemplatedConfig

/-- A file to be written. -/
structure File where
  name : String
  destination : String
  content : Option String
  user : Option String
  group : Option String
  mode : Option String
  body : Body
  /-- The document that declares the block. -/
  source : String

namespace File

/-- The keys that a file block may have. -/
def keyNames : List String := ["destination", "content", "user", "group", "mode"]

/-- The name of a block in paths. -/
def idOf (name : String) : String := "file." ++ name

/-- The name of a block in messages. -/
def label (name : String) : String := "file[" ++ name ++ "]"

/-- The block in paths. -/
def id (f : File) : String := idOf f.name

/-- The text of an optional scalar. -/
def scalar (name : String) (fields : Fields Value) (key : String) :
    Except Fault (Option String) :=
  match fields.get? key with
  | none | some .null => .ok none
  | some v =>
    if v.isScalar then .ok (some v.print)
    else
      .error ((Fault.of (.invalidValue (label name) key "a string")).atPath
        (idOf name ++ "." ++ key))

/-- The text of the one scalar that has to be there. -/
def requiredScalar (name : String) (fields : Fields Value) (key : String) :
    Except Fault String := do
  match ← scalar name fields key with
  | some text => return text
  | none => throw ((Fault.of (.invalidValue (label name) key "set")).atPath (idOf name))

/-- The fields of the body of a block. -/
def fieldsOf (name : String) (body : Value) : Except Fault (Fields Value) :=
  match body with
  | .mapping fields => .ok fields
  | other =>
    .error ((Fault.of (.notABlock (label name) other.kind.name)).atPath (idOf name))

/-- Makes a file block from its body. -/
def ofBody (name : String) (body : Value) (source : String) : Except Fault File := do
  let fields ← fieldsOf name body
  let destination ← requiredScalar name fields "destination"
  let content ← scalar name fields "content"
  let user ← scalar name fields "user"
  let group ← scalar name fields "group"
  let mode ← scalar name fields "mode"
  let body ← (Body.ofValue (idOf name) body).mapError (·.inside (idOf name))
  return { name, destination, content, user, group, mode, body, source }

/-- The current body: resolved if it has been resolved. -/
def current (f : File) : Value := f.body.current

end File

/-- A resource of some kind. -/
structure Resource where
  kind : String
  name : String
  body : Body
  /-- The resources that this one depends on, as declared. -/
  dependsOn : List String
  /-- The document that declares the block. -/
  source : String

namespace Resource

/-- The name of a block in paths. -/
def idOf (kind name : String) : String := kind ++ "." ++ name

/-- The block in paths. -/
def id (r : Resource) : String := idOf r.kind r.name

/-- Makes a resource from its keys, the dependencies having been taken out. -/
def ofKeys (kind name : String) (keys : Value) (dependsOn : List String) (source : String) :
    Except Fault Resource := do
  let body ← (Body.ofValue (idOf kind name) keys).mapError (·.inside (idOf kind name))
  return { kind, name, body, dependsOn, source }

/-- The body as declared, without the dependencies. -/
def keys (r : Resource) : Value := r.body.raw

/-- The current body: resolved if it has been resolved. -/
def current (r : Resource) : Value := r.body.current

end Resource

end TemplatedConfig
