/-
# File patterns

A pattern is a path in which `?` stands for any character, `*` for any run of characters, a
class in brackets for one of its characters, or for any other if it starts with `!`, and a piece
`**` for any number of directories, which at the end of a pattern leads to directories only.
`Glob.read?` reads a pattern, `Glob.expand` finds the paths
that match it, in no particular order, and `Glob.escape` makes a text a pattern for itself.
-/
import TemplatedConfig.Files.System
import TemplatedConfig.Files.PathName

namespace TemplatedConfig.Files.Glob

/-- An element of a piece of a pattern. -/
inductive Token where
  | char (c : Char)
  | anyChar
  | anyRun
  | oneOf (negated : Bool) (intervals : List (Char × Char))

/-- What stands between two slashes of a pattern. -/
inductive Piece where
  | name (tokens : List Token)
  /-- Any number of directories. -/
  | anyDepth

/-! ## 1. Reading -/

/-- A text as a pattern that matches only itself. -/
def escape (text : String) : String :=
  String.ofList (text.toList.flatMap fun c =>
    if c = '?' ∨ c = '*' ∨ c = '[' ∨ c = ']' then ['[', c, ']'] else [c])

/-- The intervals of a class. -/
def intervals : List Char → List (Char × Char)
  | low :: '-' :: high :: rest => (low, high) :: intervals rest
  | c :: rest => (c, c) :: intervals rest
  | [] => []

/-- A class after its opening bracket, whose first character closes nothing. -/
def readClass? (negated : Bool) (text : List Char) : Option (Token × List Char) :=
  match text with
  | [] => none
  | first :: rest =>
    match rest.dropWhile (· ≠ ']') with
    | [] => none
    | _ :: after =>
      some (.oneOf negated (intervals (first :: rest.takeWhile (· ≠ ']'))), after)

theorem readClass?_length {negated : Bool} {text rest : List Char} {t : Token}
    (h : readClass? negated text = some (t, rest)) : rest.length < text.length := by
  unfold readClass? at h
  split at h
  · cases h
  · rename_i first more
    have hd := (List.dropWhile_sublist (· ≠ ']') (l := more)).length_le
    split at h
    · cases h
    · rename_i c after heq
      cases h
      rw [heq] at hd
      simp only [List.length_cons] at hd ⊢; omega

/-- The elements of a piece. -/
def readTokens? (text : List Char) : Option (List Token) :=
  match text with
  | [] => some []
  | '*' :: '*' :: _ => none
  | '*' :: rest => (readTokens? rest).map (.anyRun :: ·)
  | '?' :: rest => (readTokens? rest).map (.anyChar :: ·)
  | '[' :: '!' :: rest =>
    match _h : readClass? true rest with
    | some (t, rest') => (readTokens? rest').map (t :: ·)
    | none => none
  | '[' :: rest =>
    match _h : readClass? false rest with
    | some (t, rest') => (readTokens? rest').map (t :: ·)
    | none => none
  | c :: rest => (readTokens? rest).map (.char c :: ·)
termination_by text.length
decreasing_by
  all_goals simp only [List.length_cons]
  all_goals first
    | omega
    | (have hlt := readClass?_length _h; omega)

/-- A piece of a pattern.  Two stars in a row have to be the whole piece. -/
def readPiece? (text : String) : Option Piece :=
  if text = "**" then some .anyDepth else (readTokens? text.toList).map .name

/-- Pieces in which no two in a row are for any number of directories. -/
def collapse : List Piece → List Piece
  | .anyDepth :: .anyDepth :: rest => collapse (.anyDepth :: rest)
  | piece :: rest => piece :: collapse rest
  | [] => []

/-- A pattern: where it starts, and its pieces.  A slash at the end leaves an empty last piece,
which continues directories only. -/
def read? (pattern : String) : Option (String × List Piece) :=
  let relative := String.ofList (pattern.toList.dropWhile (· = '/'))
  ((PathName.pieces relative).mapM readPiece?).map fun pieces =>
    (if PathName.isAbsolute pattern then "/" else ".", collapse pieces)

/-! ## 2. Matching -/

/-- Whether an element that stands for one character stands for this one. -/
def Token.matchesChar : Token → Char → Bool
  | char d, c => c = d
  | anyChar, _ => true
  | anyRun, _ => false
  | oneOf negated ranges, c => (ranges.any fun (low, high) => low ≤ c && c ≤ high) != negated

/-- Whether some end of a text satisfies a condition. -/
def someTail (p : List Char → Bool) : List Char → Bool
  | [] => p []
  | c :: rest => p (c :: rest) || someTail p rest

/-- Whether elements match a whole text. -/
def matchesText : List Token → List Char → Bool
  | [], text => text.isEmpty
  | .anyRun :: rest, text => someTail (matchesText rest) text
  | t :: rest, c :: text => t.matchesChar c && matchesText rest text
  | _ :: _, [] => false

/-- Whether a piece matches a name. -/
def Piece.accepts : Piece → String → Bool
  | name tokens, text => matchesText tokens text.toList
  | anyDepth, _ => true

/-- The one character that an element stands for. -/
def Token.char? : Token → Option Char
  | char c => some c
  | _ => none

/-- The one text that a piece matches, if it has no element that stands for several. -/
def Piece.literal? : Piece → Option String
  | name tokens => (tokens.mapM Token.char?).map String.ofList
  | anyDepth => none

/-- Whether a piece starts with a point. -/
def Piece.startsWithPoint : Piece → Bool
  | name (.char '.' :: _) => true
  | _ => false

/-! ## 3. Finding paths -/

variable {m : Type → Type} [Monad m] (fs : FileSystem m)

/-- Whether a path can be continued by a piece of text. -/
def reaches (path piece : String) : m Bool :=
  if piece = "." ∨ piece = ".." then fs.isKind .directory path
  else fs.leadsAnywhere (PathName.extend path piece)

mutual

/-- The paths that continue a path by pieces.  Each step goes one piece on or one directory
down, so the fuel bounds the depth of the directories that are searched. -/
def below : Nat → List Piece → String → ExceptT Fault m (List String)
  | 0, _, _ => return []
  | _ + 1, [], path => return [path]
  | fuel + 1, piece :: rest, path => do
    match piece.literal? with
    | some text =>
      if ← (reaches fs path text : m Bool) then below fuel rest (PathName.extend path text)
      else return []
    | none =>
      if ← (fs.isKind .directory path : m Bool) then do
        let names ← located path (fs.children path)
        let found ← names.mapM fun name =>
          atName fuel (piece :: rest) (PathName.extend path name) name
        let special := if piece.startsWithPoint then [".", ".."].filter piece.accepts else []
        let further ← special.mapM fun name => below fuel rest (PathName.join path name)
        return found.flatten ++ further.flatten
      else return []

/-- The paths that match pieces of which the first is for the last name of a path.  Any number
of directories may also be none, so the name is then tried with the next piece. -/
def atName : Nat → List Piece → String → String → ExceptT Fault m (List String)
  | 0, _, _, _ => return []
  | _ + 1, [], _, _ => return []
  | fuel + 1, .anyDepth :: rest, path, name => do
    let isDirectory ← (fs.isKind .directory path : m Bool)
    let deeper ← if isDirectory then below fuel (.anyDepth :: rest) path else pure []
    let here ← match rest with
      | [] => pure (if isDirectory then [path] else [])
      | rest => atName fuel rest path name
    return deeper ++ here
  | fuel + 1, piece :: rest, path, name =>
    if piece.accepts name then below fuel rest path else return []

end

/-- How deep directories are searched; a path cannot be longer. -/
def maxDepth : Nat := 4096

/-- The paths that match a pattern. -/
def expand (pattern : String) : ExceptT Fault m (List String) :=
  match read? pattern with
  | some (start, pieces) => below fs maxDepth pieces start
  | none => throw (Fault.of (.invalidFilePattern pattern))

end TemplatedConfig.Files.Glob
