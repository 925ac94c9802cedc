/-
# Writing JSON

A value is written on one line without spaces, or over several lines with an indentation of
two spaces, empty collections staying on their line.  Doubles have the fewest digits that read
back; what is no number in JSON is written as `null`.
-/
import TemplatedConfig.Value.Basic

namespace TemplatedConfig.Json

/-- The layout of doubles: positional from `0.00001` to below `10 ^ 16`, a point in whole
numbers, and a sign before every exponent. -/
def numberStyle : Decimal.Style where
  tie := .even
  positional := fun exponent => -6 < exponent && exponent < 16
  keepsPoint := true
  signsExponent := true

/-- The text of a double. -/
def floatText (x : Float) : String :=
  match Decimal.parts x with
  | .finite negative v => String.ofList (Decimal.finiteText numberStyle negative v)
  | _ => "null"

/-- A digit in base sixteen. -/
def hexDigit (n : Nat) : Char := (Nat.digitChar n)

/-- One character between quotes. -/
def encodeChar (c : Char) : List Char :=
  if c = '\x22' then ['\\', '\x22']
  else if c = '\\' then ['\\', '\\']
  else if c = '\x08' then ['\\', 'b']
  else if c = '\x0c' then ['\\', 'f']
  else if c = '\n' then ['\\', 'n']
  else if c = '\r' then ['\\', 'r']
  else if c = '\t' then ['\\', 't']
  else if c.toNat < 0x20 then
    ['\\', 'u', '0', '0', hexDigit (c.toNat / 16), hexDigit (c.toNat % 16)]
  else [c]

/-- A string in quotes. -/
def quote (s : String) : String :=
  String.ofList ('\x22' :: s.toList.flatMap encodeChar ++ ['\x22'])

/-- How collections are laid out: what stands before each part, before the closing bracket, and
after a key. -/
structure Layout where
  part : Nat → String
  close : Nat → String
  colon : String

/-- Everything on one line. -/
def Layout.compact : Layout where
  part := fun _ => ""
  close := fun _ => ""
  colon := ":"

/-- A new line, indented by two spaces for each level. -/
def newLine (level : Nat) : String := "\n" ++ String.ofList (List.replicate (2 * level) ' ')

/-- Every part on a line of its own. -/
def Layout.pretty : Layout where
  part := fun level => newLine (level + 1)
  close := newLine
  colon := ": "

/-- Brackets around parts. -/
def bracketed (layout : Layout) (level : Nat) (opening closing : String) (parts : List String) :
    String :=
  match parts with
  | [] => opening ++ closing
  | parts =>
    opening ++ ",".intercalate (parts.map (layout.part level ++ ·)) ++ layout.close level
      ++ closing

mutual

/-- The text of a value at a level of nesting. -/
def write (layout : Layout) (level : Nat) : Value → String
  | .null => "null"
  | .bool b => Value.boolText b
  | .integer n => Value.integerText n
  | .float x => floatText x
  | .string s => quote s
  | .sequence items => bracketed layout level "[" "]" (writeItems layout (level + 1) items)
  | .mapping fields =>
    bracketed layout level "\x7b" "\x7d" (writeFields layout (level + 1) fields)

/-- The texts of the items of an array. -/
def writeItems (layout : Layout) (level : Nat) : List Value → List String
  | [] => []
  | v :: rest => write layout level v :: writeItems layout level rest

/-- The texts of the entries of an object. -/
def writeFields (layout : Layout) (level : Nat) : Fields Value → List String
  | [] => []
  | (key, v) :: rest =>
    (quote key ++ layout.colon ++ write layout level v) :: writeFields layout level rest

end

/-- A value on one line. -/
def compact (v : Value) : String := write .compact 0 v

/-- A value over several lines. -/
def pretty (v : Value) : String := write .pretty 0 v

end TemplatedConfig.Json
