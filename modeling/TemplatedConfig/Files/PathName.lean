/-
# Names of files

A path is text in which slashes separate the steps.  Two paths are compared step by step, and
not by their text: an empty step or a point between two others does not count.  A directory
is shown with its absolute path, in which the same steps are left out and `..` stays.
-/

namespace TemplatedConfig.Files.PathName

/-- A step of a path that counts. -/
inductive Component where
  | root
  /-- A point; it counts at the start of a path only. -/
  | current
  | parent
  | name (text : String)
  deriving DecidableEq

/-- Whether a path starts at the root. -/
def isAbsolute (path : String) : Bool := path.toList.head? = some '/'

/-- The pieces of a path between its slashes. -/
def pieces (path : String) : List String := path.splitOn "/"

/-- The step that a piece stands for. -/
def component? (piece : String) : Option Component :=
  if piece = "" ∨ piece = "." then none
  else if piece = ".." then some .parent
  else some (.name piece)

/-- The steps that count at the start of a path. -/
def leadingComponents (path : String) : List Component :=
  if isAbsolute path then [.root]
  else if (pieces path).head? = some "." then [.current]
  else []

/-- The steps of a path that count. -/
def components (path : String) : List Component :=
  leadingComponents path ++ (pieces path).filterMap component?

/-- What steps are ordered by: the special ones come before all names. -/
def Component.key : Component → Nat × String
  | root => (0, "")
  | current => (1, "")
  | parent => (2, "")
  | name text => (3, text)

/-- Whether a step comes before another. -/
def Component.before (a b : Component) : Bool :=
  a.key.1 < b.key.1 || (a.key.1 == b.key.1 && a.key.2 < b.key.2)

/-- Whether steps come before others or are the same. -/
def notAfter : List Component → List Component → Bool
  | [], _ => true
  | _ :: _, [] => false
  | a :: as, b :: bs => a.before b || (a = b && notAfter as bs)

/-- The order of paths. -/
def le (a b : String) : Bool := notAfter (components a) (components b)

/-- Whether two texts are the same path. -/
def same (a b : String) : Bool := components a = components b

/-- The last step of a path, if it is a name. -/
def fileName? (path : String) : Option String :=
  match (components path).getLast? with
  | some (.name text) => some text
  | _ => none

/-- What follows the last point of a name that does not only start with it. -/
def extensionOfName? (name : String) : Option String :=
  let afterPoint := (name.toList.reverse.takeWhile (· ≠ '.')).reverse
  let beforePoint := name.toList.reverse.dropWhile (· ≠ '.')
  if beforePoint.length ≤ 1 then none else some (String.ofList afterPoint)

/-- The extension of a file. -/
def extension? (path : String) : Option String := (fileName? path).bind extensionOfName?

/-- Whether a path is the working directory. -/
def isCurrent (path : String) : Bool := components path = [.current]

/-- A path continued by one piece. -/
def join (path piece : String) : String :=
  if path = "" ∨ path.toList.getLast? = some '/' then path ++ piece else path ++ "/" ++ piece

/-- A path continued by one piece, the working directory being left out. -/
def extend (path piece : String) : String := if isCurrent path then piece else join path piece

/-- The text of a step. -/
def Component.text : Component → String
  | root => "/"
  | current => "."
  | parent => ".."
  | name text => text

/-- The absolute path of a path, given that of the working directory. -/
def absolute (workingDirectory path : String) : String :=
  let steps := (components path).filter fun c => c ≠ .root ∧ c ≠ .current
  let start := if isAbsolute path then "/" else workingDirectory
  let full := steps.foldl (fun done step => join done step.text) start
  if path.toList.getLast? = some '/' then join full "" else full

end TemplatedConfig.Files.PathName
