/-
# Files in memory

A directory tree as a value, with paths resolved as an operating system does it: an empty path
leads nowhere, a point stays in place, two points go up, and nothing is found below a file.
Above the tree lies an empty directory.
-/
import TemplatedConfig.Files.System
import TemplatedConfig.Files.PathName

namespace TemplatedConfig.Files

/-- A file or a directory. -/
inductive Tree where
  | file (content : ByteArray)
  | directory (entries : List (String × Tree))

namespace Tree

instance : Inhabited Tree := ⟨.directory []⟩

/-- The entry of a name, of a directory. -/
def child? (t : Tree) (name : String) : Option Tree :=
  match t with
  | directory entries => entries.lookup name
  | file _ => none

/-- Puts content at a path below, making the directories on the way. -/
def put (content : Tree) : List String → Tree → Tree
  | [], _ => content
  | name :: rest, t =>
    let entries := match t with
      | directory entries => entries
      | file _ => []
    directory (entries.filter (·.1 ≠ name)
      ++ [(name, put content rest ((t.child? name).getD (.directory [])))])

/-- Adds a file or, if the path ends with a slash, a directory. -/
def add (t : Tree) (path : String) (content : ByteArray) : Tree :=
  let steps := (PathName.pieces path).filter (· ≠ "")
  if path.toList.getLast? = some '/' then put (.directory []) steps t
  else put (.file content) steps t

/-- Follows the steps of a path from a directory, given the directories above it.  Every step
has to start in a directory. -/
def follow (outer : List Tree) (here : Tree) : List String → Except Problem Tree
  | [] => .ok here
  | step :: rest =>
    match here with
    | .file _ => .error .notDirectory
    | .directory entries =>
      if step = "" ∨ step = "." then follow outer here rest
      else if step = ".." then
        match outer with
        | [] => follow [] (.directory []) rest
        | above :: outer => follow outer above rest
      else
        match entries.lookup step with
        | some next => follow (here :: outer) next rest
        | none => .error .notFound

/-- What a path leads to. -/
def resolve (t : Tree) (path : String) : Except Problem Tree :=
  if path = "" ∨ PathName.isAbsolute path then .error .notFound
  else follow [] t (PathName.pieces path)

/-- The kind of an entry. -/
def kind : Tree → EntryKind
  | file _ => .file
  | directory _ => .directory

/-- The names in a directory. -/
def names : Tree → Except Problem (List String)
  | directory entries => .ok (entries.map Prod.fst)
  | file _ => .error .notDirectory

/-- The first bytes of a file. -/
def bytes (limit : Nat) : Tree → Except Problem ByteArray
  | file content => .ok (content.extract 0 (min limit content.size))
  | directory _ => .error .isDirectory

/-- The tree as a file system. -/
def system (t : Tree) : FileSystem Id where
  kindOf path := (t.resolve path).map kind
  children path := (t.resolve path).bind names
  read path limit := (t.resolve path).bind (bytes limit)

end Tree

end TemplatedConfig.Files
