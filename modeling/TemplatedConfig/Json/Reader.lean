/-
# Reading JSON

The grammar of JSON without any leniency: no comments, no comma before a closing bracket, no
control characters inside strings, no unpaired surrogate, nothing but white space around the
one value.  Arrays and objects nest at most `maxNesting` deep.  What makes a text unreadable is
not told apart, so the readers give an optional result: a tree and the text that follows it.

The recursion is on the nesting left over.  Every item and every entry takes up a character,
so the length of the whole text bounds the rounds of the loops.
-/
import TemplatedConfig.Json.Number

namespace TemplatedConfig.Json

/-- White space. -/
def isSpace (c : Char) : Bool := c = ' ' || c = '\n' || c = '\t' || c = '\r'

/-- The text without the white space at its start. -/
def skipSpace (text : List Char) : List Char := text.dropWhile isSpace

/-! ## 1. Strings -/

/-- The value of a hexadecimal digit. -/
def hexValue? (c : Char) : Option Nat :=
  if c.isDigit then some (c.toNat - '0'.toNat)
  else if 'a' ≤ c ∧ c ≤ 'f' then some (c.toNat - 'a'.toNat + 10)
  else if 'A' ≤ c ∧ c ≤ 'F' then some (c.toNat - 'A'.toNat + 10)
  else none

/-- Four hexadecimal digits. -/
def hexFour? (a b c d : Char) : Option Nat := do
  let a ← hexValue? a
  let b ← hexValue? b
  let c ← hexValue? c
  let d ← hexValue? d
  return ((a * 16 + b) * 16 + c) * 16 + d

/-- The character that a letter after a backslash stands for. -/
def escape? : Char → Option Char
  | '\x22' => some '\x22'
  | '\\' => some '\\'
  | '/' => some '/'
  | 'b' => some '\x08'
  | 'f' => some '\x0c'
  | 'n' => some '\n'
  | 'r' => some '\r'
  | 't' => some '\t'
  | _ => none

/-- The character of a surrogate pair. -/
def pair? (high low : Nat) : Option Char :=
  if 0xDC00 ≤ low ∧ low ≤ 0xDFFF then
    some (Char.ofNat (0x10000 + (high - 0xD800) * 0x400 + (low - 0xDC00)))
  else none

/-- The rest of a string after its opening quote. -/
def stringBody? : List Char → Option (List Char × List Char)
  | [] => none
  | '\x22' :: rest => some ([], rest)
  | '\\' :: 'u' :: a :: b :: c :: d :: rest =>
    match hexFour? a b c d with
    | none => none
    | some n =>
      if 0xDC00 ≤ n ∧ n ≤ 0xDFFF then none
      else if 0xD800 ≤ n ∧ n ≤ 0xDBFF then
        match rest with
        | '\\' :: 'u' :: e :: f :: g :: h :: rest' =>
          match (hexFour? e f g h).bind (pair? n) with
          | some x => (stringBody? rest').map fun (s, r) => (x :: s, r)
          | none => none
        | _ => none
      else (stringBody? rest).map fun (s, r) => (Char.ofNat n :: s, r)
  | '\\' :: c :: rest =>
    match escape? c with
    | some x => (stringBody? rest).map fun (s, r) => (x :: s, r)
    | none => none
  | c :: rest =>
    if c.toNat < 0x20 ∨ c = '\\' then none
    else (stringBody? rest).map fun (s, r) => (c :: s, r)

/-- A string after its opening quote. -/
def string? (text : List Char) : Option (String × List Char) :=
  (stringBody? text).map fun (s, rest) => (String.ofList s, rest)

/-! ## 2. Values -/

/-- A reader of values. -/
abbrev Reader := List Char → Option (Document × List Char)

/-- The items of an array after its opening bracket or a comma. -/
def items? (value? : Reader) : Nat → List Char → Option (List Document × List Char)
  | 0, _ => none
  | rounds + 1, text =>
    match value? text with
    | none => none
    | some (d, rest) =>
      match skipSpace rest with
      | ',' :: rest => (items? value? rounds rest).map fun (ds, r) => (d :: ds, r)
      | ']' :: rest => some ([d], rest)
      | _ => none

/-- An array after its opening bracket. -/
def array? (value? : Reader) (rounds : Nat) (text : List Char) :
    Option (Document × List Char) :=
  match skipSpace text with
  | ']' :: rest => some (.sequence [], rest)
  | text => (items? value? rounds text).map fun (ds, r) => (.sequence ds, r)

/-- An entry of an object. -/
def entry? (value? : Reader) (text : List Char) : Option ((String × Document) × List Char) :=
  match skipSpace text with
  | '\x22' :: rest =>
    match string? rest with
    | none => none
    | some (key, rest) =>
      match skipSpace rest with
      | ':' :: rest => (value? rest).map fun (d, r) => ((key, d), r)
      | _ => none
  | _ => none

/-- The entries of an object after its opening brace or a comma. -/
def entries? (value? : Reader) :
    Nat → List Char → Option (List (String × Document) × List Char)
  | 0, _ => none
  | rounds + 1, text =>
    match entry? value? text with
    | none => none
    | some (e, rest) =>
      match skipSpace rest with
      | ',' :: rest => (entries? value? rounds rest).map fun (es, r) => (e :: es, r)
      | '}' :: rest => some ([e], rest)
      | _ => none

/-- An object after its opening brace. -/
def object? (value? : Reader) (rounds : Nat) (text : List Char) :
    Option (Document × List Char) :=
  match skipSpace text with
  | '}' :: rest => some (.mapping [], rest)
  | text => (entries? value? rounds text).map fun (es, r) => (.mapping es, r)

/-- A scalar. -/
def scalar? (text : List Char) : Option (Document × List Char) :=
  match text with
  | 'n' :: 'u' :: 'l' :: 'l' :: rest => some (.null, rest)
  | 't' :: 'r' :: 'u' :: 'e' :: rest => some (.bool true, rest)
  | 'f' :: 'a' :: 'l' :: 's' :: 'e' :: rest => some (.bool false, rest)
  | '\x22' :: rest => (string? rest).map fun (s, r) => (.string s, r)
  | '-' :: rest => number? true rest
  | text => number? false text

/-- A value, with `nesting` levels of arrays and objects left over. -/
def value? (rounds : Nat) : Nat → Reader
  | 0, text => scalar? (skipSpace text)
  | nesting + 1, text =>
    match skipSpace text with
    | '[' :: rest => array? (value? rounds nesting) rounds rest
    | '{' :: rest => object? (value? rounds nesting) rounds rest
    | text => scalar? text

/-- The deepest nesting of arrays and objects. -/
def maxNesting : Nat := 127

/-- Reads a text that is one value. -/
def read? (text : String) : Option Document :=
  match value? text.length maxNesting text.toList with
  | some (d, rest) => if skipSpace rest = [] then some d else none
  | none => none

end TemplatedConfig.Json
