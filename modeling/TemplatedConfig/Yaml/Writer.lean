/-
# Writing YAML

A value is written in block style: one line for each item and entry, two spaces of indentation
for each level, except that the list under a key is not indented further than the key.  Empty
collections are written in brackets, and lines are never folded.

A string is written plain if it then reads back as that string, with quotes if it does not, and
as a literal block if it has several lines.  Whether a style can hold a string at all depends on
the blanks, line ends and marks in it; what no other style can hold goes between double quotes,
with escapes.
-/
import TemplatedConfig.Value.Basic
import TemplatedConfig.Yaml.Plain
import TemplatedConfig.Text.Quoted

namespace TemplatedConfig.Yaml

/-! ## 1. What a string contains -/

/-- A character that shows, a line feed included. -/
def shows (c : Char) : Bool :=
  c = '\n' || (' ' ≤ c && c ≤ '~')
    || ('\u00a0' ≤ c && c ≠ '\uFEFF' && c ≠ '\uFFFE' && c ≠ '\uFFFF')

/-- A character that ends a line. -/
def endsLine (c : Char) : Bool :=
  c = '\n' || c = '\r' || c = '\u0085' || c = '\u2028' || c = '\u2029'

/-- White space of any kind. -/
def isWhite (c : Char) : Bool := c = ' ' || c = '\t' || c = '\x00' || endsLine c

/-- A space or the end of a line. -/
def isEdge (c : Char) : Bool := c = ' ' || endsLine c

/-- Whether the text ends here or goes on with white space. -/
def beforeWhite : List Char → Bool
  | [] => true
  | c :: _ => isWhite c

/-- Whether two neighbours satisfy two conditions. -/
def hasPair (first second : Char → Bool) : List Char → Bool
  | c :: d :: rest => (first c && second d) || hasPair first second (d :: rest)
  | _ => false

/-- Marks that no plain scalar starts with. -/
def leadingMarks : List Char := "#,[]\x7b\x7d&*!|>'\"%@\x60".toList

/-- Whether there is a mark of structure after the first character: a colon before white space
or a number sign after it. -/
def hasInnerMark (afterWhite : Bool) : List Char → Bool
  | [] => false
  | c :: rest =>
    (c = ':' && beforeWhite rest) || (c = '#' && afterWhite) || hasInnerMark (isWhite c) rest

/-- Whether the text would be taken for structure if it were written plain. -/
def hasMarks : List Char → Bool
  | [] => false
  | c :: rest =>
    (['-', '-', '-'].isPrefixOf (c :: rest)) || (['.', '.', '.'].isPrefixOf (c :: rest))
      || leadingMarks.contains c || ((c = '?' || c = ':' || c = '-') && beforeWhite rest)
      || hasInnerMark (isWhite c) rest

/-- Whether there is a character that does not show, or a space before the end of a line. -/
def needsEscapes (text : List Char) : Bool :=
  text.any (!shows ·) || hasPair (· = ' ') endsLine text

/-- Whether the text may be written plain. -/
def plainAllowed (text : List Char) : Bool :=
  !needsEscapes text && !text.any endsLine && !hasMarks text
    && !(text.head?.any isEdge) && !(text.getLast?.any isEdge)

/-- Whether the text may be written in single quotes. -/
def singleAllowed (text : List Char) : Bool :=
  !needsEscapes text && !hasPair endsLine (· = ' ') text

/-- Whether the text may be written as a block. -/
def blockAllowed (text : List Char) : Bool :=
  text ≠ [] && !needsEscapes text && text.getLast? ≠ some ' '

/-- Whether the text, written plain, reads back as a string. -/
def readsAsString (text : String) : Bool :=
  match classify text with
  | .string => !isPadded (splitSign text.toList).2
  | _ => false

/-! ## 2. Styles -/

/-- The ways to write a string. -/
inductive StringStyle where
  | plain | single | double | literal
  deriving DecidableEq

/-- The way in which a string is written. -/
def styleOf (text : String) : StringStyle :=
  if text.toList.contains '\n' then
    if blockAllowed text.toList then .literal else .double
  else if readsAsString text ∧ plainAllowed text.toList then .plain
  else if singleAllowed text.toList then .single
  else .double

/-- Spaces at the start of a line. -/
def spaces (indent : Nat) : List Char := List.replicate indent ' '

/-- The digits of a code point in base sixteen, upper case, filled up to a width. -/
def upperHex (width n : Nat) : List Char :=
  let digits := (Text.hexDigits n).map Char.toUpper
  List.replicate (width - digits.length) '0' ++ digits

/-- One character between double quotes. -/
def escapeChar (c : Char) : List Char :=
  if c = '\x22' then ['\\', '\x22']
  else if c = '\\' then ['\\', '\\']
  else if c = '\x00' then ['\\', '0']
  else if c = '\x07' then ['\\', 'a']
  else if c = '\x08' then ['\\', 'b']
  else if c = '\t' then ['\\', 't']
  else if c = '\n' then ['\\', 'n']
  else if c = '\x0b' then ['\\', 'v']
  else if c = '\x0c' then ['\\', 'f']
  else if c = '\r' then ['\\', 'r']
  else if c = '\x1b' then ['\\', 'e']
  else if c = '\u0085' then ['\\', 'N']
  else if c = '\u2028' then ['\\', 'L']
  else if c = '\u2029' then ['\\', 'P']
  else if shows c then [c]
  else if c.toNat ≤ 0xFF then ['\\', 'x'] ++ upperHex 2 c.toNat
  else if c.toNat ≤ 0xFFFF then ['\\', 'u'] ++ upperHex 4 c.toNat
  else ['\\', 'U'] ++ upperHex 8 c.toNat

/-- The text between double quotes. -/
def doubleText (text : List Char) : List Char :=
  '\x22' :: text.flatMap escapeChar ++ ['\x22']

/-- The text between single quotes; after the end of a line comes the indentation. -/
def singleBody (indent : Nat) (afterBreak : Bool) : List Char → List Char
  | [] => if afterBreak then spaces indent else []
  | c :: rest =>
    if endsLine c then c :: singleBody indent true rest
    else
      (if afterBreak then spaces indent else []) ++ (if c = '\x27' then [c, c] else [c])
        ++ singleBody indent false rest

/-- The lines of a block, each with its indentation, empty ones without. -/
def literalBody (indent : Nat) (afterBreak : Bool) : List Char → List Char
  | [] => []
  | c :: rest =>
    if endsLine c then c :: literalBody indent true rest
    else (if afterBreak then spaces indent else []) ++ c :: literalBody indent false rest

/-- The hints of a block: its indentation if that is not clear from the first line, and what
becomes of the line ends at its end. -/
def literalHints (text : List Char) : List Char :=
  (if text.head?.any isEdge then ['2'] else [])
    ++ (match text.reverse with
      | [] => ['-']
      | c :: before =>
        if !endsLine c then ['-']
        else if before.isEmpty || before.head?.any endsLine then ['+']
        else [])

/-- A string whose further lines are indented. -/
def stringText (indent : Nat) (text : String) : List Char :=
  match styleOf text with
  | .plain => text.toList
  | .single => '\x27' :: singleBody indent false text.toList ++ ['\x27']
  | .double => doubleText text.toList
  | .literal =>
    '|' :: literalHints text.toList ++ '\n' :: literalBody indent true text.toList

/-- The layout of doubles: positional from `0.00001` to below `10 ^ 16`, a point in whole
numbers, and no sign before a positive exponent. -/
def numberStyle : Decimal.Style where
  tie := .even
  positional := fun exponent => -6 < exponent && exponent < 16
  keepsPoint := true
  signsExponent := false

/-- The text of a double. -/
def floatText (x : Float) : List Char :=
  match Decimal.parts x with
  | .finite negative v => Decimal.finiteText numberStyle negative v
  | .infinite negative => (if negative then "-.inf" else ".inf").toList
  | .nan => ".nan".toList

/-! ## 3. Values -/

/-- Whether a key stands before its colon on one line; else a question mark announces it. -/
def isSimpleKey (key : String) : Bool :=
  !key.toList.any endsLine && key.utf8ByteSize ≤ 128

/-- Ends the line, unless a block has done so: the last character of a block may end a line in
any way. -/
def endLine (text : List Char) : List Char :=
  if text.getLast?.any endsLine then text else text ++ ['\n']

/-- Pieces each on lines of their own. -/
def lines (indent : Nat) : List (List Char) → List Char
  | [] => []
  | [piece] => piece
  | piece :: rest => endLine piece ++ spaces indent ++ lines indent rest

/-- Where a value stands. -/
inductive Place where
  /-- At the start, or after a mark; a collection goes on in the same line. -/
  | inline
  /-- After a key and its colon; a collection starts on a new line. -/
  | afterKey

/-- The indentation of the list at a place. -/
def listIndent (indent : Nat) : Place → Nat
  | .inline => indent + 2
  | .afterKey => indent

/-- What stands between the mark or the colon and a collection. -/
def lead (indent : Nat) : Place → List Char
  | .inline => [' ']
  | .afterKey => '\n' :: spaces indent

mutual

/-- A value after a mark or a colon that stands at an indentation. -/
def writeAt (indent : Nat) (place : Place) : Value → List Char
  | .null => " null".toList
  | .bool b => ' ' :: (Value.boolText b).toList
  | .integer n => ' ' :: (Value.integerText n).toList
  | .float x => ' ' :: floatText x
  | .string s => ' ' :: stringText (indent + 2) s
  | .sequence items =>
    match writeItems (listIndent indent place) items with
    | [] => " []".toList
    | pieces => lead (listIndent indent place) place ++ lines (listIndent indent place) pieces
  | .mapping fields =>
    match writeFields (indent + 2) fields with
    | [] => " \x7b\x7d".toList
    | pieces => lead (indent + 2) place ++ lines (indent + 2) pieces

/-- The items of a list. -/
def writeItems (indent : Nat) : List Value → List (List Char)
  | [] => []
  | v :: rest => ('-' :: writeAt indent .inline v) :: writeItems indent rest

/-- The entries of a mapping. -/
def writeFields (indent : Nat) : Fields Value → List (List Char)
  | [] => []
  | (key, v) :: rest =>
    (if isSimpleKey key then
      stringText (indent + 2) key ++ ':' :: writeAt indent .afterKey v
    else
      endLine (['?', ' '] ++ stringText (indent + 2) key) ++ spaces indent
        ++ ':' :: writeAt indent .inline v)
      :: writeFields indent rest

end

/-- A value as the whole of a text, not ending its last line. -/
def writeRoot : Value → List Char
  | .sequence (v :: rest) => lines 0 (writeItems 0 (v :: rest))
  | .mapping (e :: rest) => lines 0 (writeFields 0 (e :: rest))
  | v => (writeAt 0 .inline v).drop 1

/-- The text of a value. -/
def write (v : Value) : String := String.ofList (endLine (writeRoot v))

end TemplatedConfig.Yaml
