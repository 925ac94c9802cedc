/-
# File systems

What loading needs of a file system: what a path leads to, what a directory contains and the
first bytes of a file.  The loader works over any monad, so the same code runs on the files of
the machine and on a tree in memory.
-/
import TemplatedConfig.Fault

namespace TemplatedConfig.Files

/-- What a path leads to. -/
inductive EntryKind where
  | directory | file | other
  deriving DecidableEq

/-- A file system. -/
structure FileSystem (m : Type → Type) where
  kindOf : String → m (Except Problem EntryKind)
  /-- The names in a directory, in any order. -/
  children : String → m (Except Problem (List String))
  /-- The bytes of a file, up to a number of them. -/
  read : String → Nat → m (Except Problem ByteArray)

namespace FileSystem

variable {m : Type → Type} [Monad m] (fs : FileSystem m)

/-- Whether a path leads anywhere. -/
def leadsAnywhere (path : String) : m Bool := do
  match ← fs.kindOf path with
  | .ok _ => return true
  | .error _ => return false

/-- Whether a path leads to something of a kind. -/
def isKind (kind : EntryKind) (path : String) : m Bool := do
  match ← fs.kindOf path with
  | .ok found => return found = kind
  | .error _ => return false

end FileSystem

/-- A result that may be a problem with a path, as a fault that names the path. -/
def located {m : Type → Type} [Monad m] {α : Type} (path : String)
    (action : m (Except Problem α)) : ExceptT Fault m α := do
  match ← (action : ExceptT Fault m (Except Problem α)) with
  | .ok a => return a
  | .error problem => throw (Fault.ofFile path problem)

end TemplatedConfig.Files
