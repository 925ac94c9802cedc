/-
# YAML text with positions

Indentation makes the column of a character significant in YAML, and a key has to end on the
line on which it starts, so the text is first turned into a list of characters with their
places (`Spot`).  The kinds of line end are made one on the way, except for the two Unicode
separators, which stay what they are inside scalars.  A spot with a zero character closes the
list, so that the place of the end is known too; the text itself may not hold one.
-/

namespace TemplatedConfig.Yaml

/-- A character and its place: how many octets come before it in the UTF-8 form of the text,
its line and its column, all counted from zero. -/
structure Spot where
  char : Char
  index : Nat
  line : Nat
  column : Nat

/-- Text with positions. -/
abbrev Source := List Spot

/-- The character that stands at the end of the text. -/
def endMark : Char := '\x00'

/-- The characters that a text may consist of. -/
def isAllowed (c : Char) : Bool :=
  c = '\t' || c = '\n' || c = '\r' || c = '\u0085' || (' ' ≤ c && c ≤ '~')
    || ('\u00a0' ≤ c && c.toNat ≤ 0xFFFD) || 0x10000 ≤ c.toNat

/-- A character that ends a line. -/
def isBreak (c : Char) : Bool := c = '\n' || c = '\u2028' || c = '\u2029'

/-- A space or a tab. -/
def isBlank (c : Char) : Bool := c = ' ' || c = '\t'

/-- The end of a line or of the text. -/
def isBreakOrEnd (c : Char) : Bool := isBreak c || c = endMark

/-- Anything but a character that is part of a word. -/
def isBlankOrEnd (c : Char) : Bool := isBlank c || isBreakOrEnd c

/-- A text being provided with positions. -/
structure Marking where
  spots : Array Spot := #[]
  index : Nat := 0
  line : Nat := 0
  column : Nat := 0
  /-- A carriage return came last; a line feed after it belongs to the same line end. -/
  afterReturn : Bool := false

/-- Adds a character that ends a line; it stands in the list as `char`. -/
def Marking.endLine (m : Marking) (c char : Char) (afterReturn : Bool) : Marking where
  spots := m.spots.push { char, index := m.index, line := m.line, column := m.column }
  index := m.index + c.utf8Size
  line := m.line + 1
  afterReturn := afterReturn

/-- Adds a character. -/
def Marking.add (m : Marking) (c : Char) : Marking :=
  if c = '\n' ∧ m.afterReturn then
    { m with index := m.index + c.utf8Size, afterReturn := false }
  else if c = '\r' then m.endLine c '\n' true
  else if c = '\n' ∨ c = '\u0085' then m.endLine c '\n' false
  else if isBreak c then m.endLine c c false
  else
    { m with
      spots := m.spots.push { char := c, index := m.index, line := m.line, column := m.column }
      index := m.index + c.utf8Size
      column := m.column + 1
      afterReturn := false }

/-- The text with positions, if it consists of allowed characters. -/
def Source.ofString? (text : String) : Option Source :=
  if text.toList.all isAllowed then
    some ((text.toList.foldl Marking.add {}).endLine endMark endMark false).spots.toList
  else none

namespace Source

/-- The character at a distance; beyond the end stands the end mark. -/
def charAt (text : Source) (distance : Nat) : Char :=
  match text[distance]? with
  | some s => s.char
  | none => endMark

/-- The next character. -/
def char (text : Source) : Char := charAt text 0

/-- The column of the next character. -/
def column (text : Source) : Nat :=
  match text with
  | s :: _ => s.column
  | [] => 0

/-- The characters of a piece of text. -/
def chars (text : Source) : List Char := text.map Spot.char

/-- Splits off the characters at the start that are of a kind. -/
def span (text : Source) (kind : Char → Bool) : List Char × Source :=
  (chars (text.takeWhile fun s => kind s.char), text.dropWhile fun s => kind s.char)

/-- The text without the characters of a kind at its start. -/
def skip (text : Source) (kind : Char → Bool) : Source := text.dropWhile fun s => kind s.char

/-- The text without the rest of the line, its end being left. -/
def skipLine (text : Source) : Source := skip text fun c => !isBreakOrEnd c

/-- The text without a comment, if one is next. -/
def skipComment (text : Source) : Source := if char text = '#' then skipLine text else text

/-- Whether three times a character stands at the start of a line and nothing directly after
it. -/
def isRule (text : Source) (mark : Char) : Bool :=
  column text = 0 && charAt text 0 = mark && charAt text 1 = mark && charAt text 2 = mark
    && isBlankOrEnd (charAt text 3)

/-- Whether a line that starts or ends a document comes next. -/
def isDocumentRule (text : Source) : Bool := isRule text '-' || isRule text '.'

end Source

end TemplatedConfig.Yaml
