/-
# Anchors, tags and directives

The words that YAML puts beside the content: anchors name a node, tags name its type, and
directives at the head of a document give the version and abbreviations for tags.  The readers
take the source after the mark that opens the word.

A tag is a run of octets (`TagText`): an escape in it names an octet, and the octets of several
escapes need not make up a character.  A zero octet ends a tag, whatever follows it.
-/
import TemplatedConfig.Yaml.Scalar

namespace TemplatedConfig.Yaml

/-- A character of a name. -/
def isNameChar (c : Char) : Bool := c.isAlphanum || c = '_' || c = '-'

/-- What may follow the name of an anchor directly. -/
def endsAnchor (c : Char) : Bool :=
  isBlankOrEnd c || c = '?' || c = ':' || c = ',' || c = ']' || c = '}' || c = '%' || c = '@'
    || c = '\x60'

/-- The name of an anchor or of an alias. -/
def readAnchor? (text : Source) : Option (String × Source) :=
  match Source.span text isNameChar with
  | ([], _) => none
  | (name, rest) =>
    if endsAnchor (Source.char rest) then some (String.ofList name, rest) else none

/-! ## 1. Tags -/

/-- The text of a tag, as octets. -/
abbrev TagText := List UInt8

/-- The octets of a text of Basic Latin characters. -/
def octets (text : String) : TagText := text.toList.map fun c => UInt8.ofNat c.toNat

/-- The octets before the first zero octet. -/
def TagText.cut (text : TagText) : TagText := text.takeWhile (· ≠ 0)

/-- A character of a tag that stands for itself. -/
def isTagChar (verbatim : Bool) (c : Char) : Bool :=
  isNameChar c || ";/?:@&=+$.!~*'()".toList.contains c
    || (verbatim && (c = ',' || c = '[' || c = ']'))

/-- The length of a UTF-8 sequence, by its first octet. -/
def sequenceLength? (octet : Nat) : Option Nat :=
  if octet < 0x80 then some 1
  else if octet / 0x20 = 0x6 then some 2
  else if octet / 0x10 = 0xE then some 3
  else if octet / 0x8 = 0x1E then some 4
  else none

/-- An octet of an escape, after the percent sign. -/
def readOctet? : Source → Option (Nat × Source)
  | s :: t :: rest => (hexNumber? [s.char, t.char]).map (·, rest)
  | _ => none

/-- The further octets of a sequence, put before those already read. -/
def readOctets? : Nat → TagText → Source → Option (TagText × Source)
  | 0, done, text => some (done, text)
  | more + 1, done, text =>
    match text with
    | s :: rest =>
      if s.char = '%' then
        match readOctet? rest with
        | some (octet, rest) =>
          if octet / 0x40 = 0x2 then readOctets? more (UInt8.ofNat octet :: done) rest else none
        | none => none
      else none
    | [] => none

/-- A sequence of escapes after the first percent sign, its octets put before those already
read.  The first octet tells their number, and each of the others has the form of a further
one; that together they name a character is not asked for. -/
def readTagEscape? (done : TagText) (text : Source) : Option (TagText × Source) := do
  let (octet, rest) ← readOctet? text
  let length ← sequenceLength? octet
  readOctets? (length - 1) (UInt8.ofNat octet :: done) rest

/-- The octets of a tag, escapes resolved, collected last octet first. -/
def tagOctets? (verbatim : Bool) : Nat → TagText → Source → Option (TagText × Source)
  | 0, _, _ => none
  | rounds + 1, done, text =>
    match text with
    | [] => some (done.reverse, [])
    | s :: rest =>
      if s.char = '%' then
        match readTagEscape? done rest with
        | some (done, rest) => tagOctets? verbatim rounds done rest
        | none => none
      else if isTagChar verbatim s.char then
        tagOctets? verbatim rounds (UInt8.ofNat s.char.toNat :: done) rest
      else some (done.reverse, s :: rest)

/-- The octets of a tag. -/
def readTagText? (verbatim : Bool) (text : Source) : Option (TagText × Source) :=
  tagOctets? verbatim (text.length + 1) [] text

/-- A tag as it is written: an abbreviation, which may be empty, and what follows it. -/
structure WrittenTag where
  handle : String
  suffix : TagText

/-- An abbreviation after its exclamation mark: a name, and the second exclamation mark if
there is one. -/
def readHandle (text : Source) : List Char × Bool × Source :=
  match Source.span text isNameChar with
  | (name, rest) =>
    if Source.char rest = '!' then (name, true, rest.drop 1) else (name, false, rest)

/-- A verbatim tag after its opening bracket. -/
def readVerbatimTag? (text : Source) : Option (WrittenTag × Source) :=
  match readTagText? true text with
  | some (o :: os, rest) =>
    if Source.char rest = '>' then some (⟨"", TagText.cut (o :: os)⟩, rest.drop 1) else none
  | _ => none

/-- An abbreviated tag after its exclamation mark.  The exclamation mark alone is a tag of its
own. -/
def readShortTag? (text : Source) : Option (WrittenTag × Source) :=
  match readHandle text with
  | (name, true, rest) =>
    match readTagText? false rest with
    | some (o :: os, rest) =>
      some (⟨String.ofList ('!' :: name ++ ['!']), TagText.cut (o :: os)⟩, rest)
    | _ => none
  | (name, false, rest) =>
    match readTagText? false rest with
    | some (more, rest) =>
      match TagText.cut (octets (String.ofList name) ++ more) with
      | [] => some (⟨"", octets "!"⟩, rest)
      | suffix => some (⟨"!", suffix⟩, rest)
    | none => none

/-- A tag after its exclamation mark.  A blank has to follow, or a comma inside brackets. -/
def readTag? (flow : Bool) (text : Source) : Option (WrittenTag × Source) := do
  let (tag, rest) ←
    if Source.char text = '<' then readVerbatimTag? (text.drop 1) else readShortTag? text
  if isBlankOrEnd (Source.char rest) || (flow && Source.char rest = ',') then return (tag, rest)
  else none

/-! ## 2. Directives -/

/-- A directive. -/
inductive Directive where
  | version (major minor : Nat)
  /-- An abbreviation of tags and what it stands for. -/
  | tag (handle : String) (lead : TagText)

/-- A version number of at most nine digits. -/
def readVersionNumber? (text : Source) : Option (Nat × Source) :=
  match Source.span text Char.isDigit with
  | ([], _) => none
  | (digits, rest) =>
    if digits.length ≤ 9 then
      some (digits.foldl (fun n c => 10 * n + (c.toNat - '0'.toNat)) 0, rest)
    else none

/-- The version in a directive. -/
def readVersion? (text : Source) : Option (Directive × Source) := do
  let (major, rest) ← readVersionNumber? (Source.skip text isBlank)
  if Source.char rest ≠ '.' then none
  let (minor, rest) ← readVersionNumber? (rest.drop 1)
  return (.version major minor, rest)

/-- The abbreviation in a directive: the exclamation mark alone, or a name between two. -/
def readDeclaredHandle? (text : Source) : Option (String × Source) :=
  if Source.char text = '!' then
    match readHandle (text.drop 1) with
    | (name, true, rest) => some (String.ofList ('!' :: name ++ ['!']), rest)
    | ([], false, rest) => some ("!", rest)
    | _ => none
  else none

/-- The abbreviation and its meaning in a directive. -/
def readTagDirective? (text : Source) : Option (Directive × Source) := do
  let (handle, rest) ← readDeclaredHandle? (Source.skip text isBlank)
  if !isBlank (Source.char rest) then none
  let (lead, rest) ← readTagText? true (Source.skip rest isBlank)
  if lead = [] ∨ !isBlankOrEnd (Source.char rest) then none
  return (.tag handle (TagText.cut lead), rest)

/-- The rest of the line of a directive: blanks and a comment. -/
def endDirective? (text : Source) : Option Source :=
  let rest := Source.skipComment (Source.skip text isBlank)
  if isBreak (Source.char rest) then some (rest.drop 1)
  else if Source.char rest = endMark then some rest
  else none

/-- A directive after its percent sign.  Other names than `YAML` and `TAG` are refused. -/
def readDirective? (text : Source) : Option (Directive × Source) := do
  let (name, rest) := Source.span text isNameChar
  if !isBlankOrEnd (Source.char rest) then none
  let (directive, rest) ←
    if name = ['Y', 'A', 'M', 'L'] then readVersion? rest
    else if name = ['T', 'A', 'G'] then readTagDirective? rest
    else none
  let rest ← endDirective? rest
  return (directive, rest)

end TemplatedConfig.Yaml
