/-
# The templates in a tree

Every string of a value that holds `${` is a site: a template at a path.  Sites come in the
order in which all passes over a tree meet them, the entries of a mapping in ascending order of
their keys and the items of a sequence by position.  Keys of mappings are never templates.

`Value.sites` is this order as a plain list; `visitAll` hands the sites of a tree, parsed, to a
visitor, and stops at the first fault.
-/
import TemplatedConfig.Value.Path
import TemplatedConfig.Template.Parser

namespace TemplatedConfig

/-- A string that holds a template, and its path. -/
structure Site where
  path : String
  source : String
  deriving DecidableEq

namespace Value

/-- Whether a value is a string that holds a template. -/
def isTemplate : Value → Bool
  | string s => Template.isTemplate s
  | _ => false

mutual

/-- The sites of a value that stands at a path. -/
def sitesAt (path : String) : Value → List Site
  | string s => if Template.isTemplate s then [⟨path, s⟩] else []
  | sequence items => itemSites path 0 items
  | mapping fields => (Fields.sorted (fieldSites path fields)).flatMap Prod.snd
  | _ => []

/-- The sites of the items of a sequence, from a position on. -/
def itemSites (path : String) (position : Nat) : List Value → List Site
  | [] => []
  | v :: rest =>
    sitesAt (Path.item path position) v ++ itemSites path (position + 1) rest

/-- The sites below each key of a mapping. -/
def fieldSites (path : String) : Fields Value → Fields (List Site)
  | [] => []
  | (key, v) :: rest => (key, sitesAt (Path.field path key) v) :: fieldSites path rest

end

/-- The sites of a tree, in the order of all passes over it. -/
def sites (v : Value) : List Site := v.sitesAt ""

end Value

namespace Traversal

variable {m : Type → Type} [Monad m] {α : Type}

/-- Adds a path to a fault that has none; the root has no path to add. -/
def addPath (path : String) (fault : Fault) : Fault :=
  if fault.path.isSome ∨ path = "" then fault else fault.atPath path

/-- A result whose fault carries a path. -/
def located (path : String) (action : ExceptT Fault m α) : ExceptT Fault m α :=
  tryCatchThe Fault action fun fault => throw (addPath path fault)

/-- The parsed template of a site, handed to a visitor. -/
def visitSite (visit : String → Template → ExceptT Fault m α) (site : Site) :
    ExceptT Fault m α :=
  located site.path do
    let template ← liftExcept (Template.parse site.source)
    visit site.path template
where
  /-- A pure result among effects. -/
  liftExcept {β : Type} (x : Except Fault β) : ExceptT Fault m β := ExceptT.mk (pure x)

/-- Hands every template of a tree to a visitor and lists what it answers. -/
def visitAll (visit : String → Template → ExceptT Fault m α) (v : Value) :
    ExceptT Fault m (List α) :=
  v.sites.mapM (visitSite visit)

end Traversal

end TemplatedConfig
