/-
# YAML tokens

Indentation, dashes and colons are turned into brackets: each block collection begins with a
token of its own and ends with `blockEnd`, and every key is announced by `key`.  That a piece
of text is a key shows only when the colon after it is reached.  So the place where a key may
have begun is remembered (`PossibleKey`), one for each level of brackets, and the announcing
tokens are put in there later.  A key must end on its line and within 1024 octets.

The tokens are collected last one first; a place among them is the number of tokens before it.
-/
import TemplatedConfig.Yaml.Property

namespace TemplatedConfig.Yaml

/-- A piece of the structure of a text. -/
inductive Token where
  | directive (directive : Directive)
  | documentStart
  | documentEnd
  | blockSequenceStart
  | blockMappingStart
  | blockEnd
  | flowSequenceStart
  | flowSequenceEnd
  | flowMappingStart
  | flowMappingEnd
  | blockEntry
  | flowEntry
  | key
  | value
  | alias (name : String)
  | anchor (name : String)
  | tag (tag : WrittenTag)
  /-- Whether the scalar is plain decides how its text is read. -/
  | scalar (plain : Bool) (text : String)

/-- A place at which a key may have begun. -/
structure PossibleKey where
  /-- Nothing but a key can stand there. -/
  required : Bool
  /-- The number of tokens before it. -/
  place : Nat
  spot : Spot

/-- What has been read of a text. -/
structure Scan where
  text : Source
  /-- The tokens, last one first. -/
  tokens : List Token := []
  count : Nat := 0
  /-- The column of the innermost block collection, `-1` outside of all. -/
  indent : Int := -1
  /-- The columns of the collections around it. -/
  outerIndents : List Int := []
  /-- Whether a key may begin at the next token. -/
  keyAllowed : Bool := true
  possibleKey : Option PossibleKey := none
  /-- The possible keys outside of the open brackets, one for each bracket. -/
  outerKeys : List (Option PossibleKey) := []

namespace Scan

/-- Whether a bracket is open. -/
def inFlow (s : Scan) : Bool := !s.outerKeys.isEmpty

/-- Adds a token at the end. -/
def emit (s : Scan) (t : Token) : Scan :=
  { s with tokens := t :: s.tokens, count := s.count + 1 }

/-- Adds a token after a number of tokens. -/
def emitAt (s : Scan) (place : Nat) (t : Token) : Scan :=
  { s with
    tokens := s.tokens.take (s.count - place) ++ t :: s.tokens.drop (s.count - place)
    count := s.count + 1 }

/-- Goes on at a place further down. -/
def moveTo (s : Scan) (text : Source) : Scan := { s with text }

/-- Leaves out some characters. -/
def skip (s : Scan) (n : Nat) : Scan := { s with text := s.text.drop n }

/-! ## 1. Possible keys -/

/-- Whether a key that began at a place can no longer end in time. -/
def isStale (now : Spot) (k : PossibleKey) : Bool :=
  k.spot.line < now.line || k.spot.index + 1024 < now.index

/-- Forgets a possible key; one that is required is an error. -/
def forget? (k : Option PossibleKey) : Option (Option PossibleKey) :=
  match k with
  | some k => if k.required then none else some none
  | none => some none

/-- Forgets a possible key if it can no longer end in time. -/
def expire? (now : Spot) (k : Option PossibleKey) : Option (Option PossibleKey) :=
  match k with
  | some p => if isStale now p then forget? k else some k
  | none => some none

/-- Forgets all possible keys that can no longer end in time. -/
def dropStaleKeys? (s : Scan) : Option Scan :=
  match s.text with
  | [] => some s
  | now :: _ => do
    let possibleKey ← expire? now s.possibleKey
    let outerKeys ← s.outerKeys.mapM (expire? now)
    return { s with possibleKey, outerKeys }

/-- Forgets the possible key of the current level. -/
def dropKey? (s : Scan) : Option Scan :=
  (forget? s.possibleKey).map fun possibleKey => { s with possibleKey }

/-- Remembers that a key may begin here.  At the indentation of the current block nothing but a
key can stand. -/
def markKey? (s : Scan) : Option Scan :=
  match s.keyAllowed, s.text with
  | true, spot :: _ => do
    let s ← s.dropKey?
    return { s with possibleKey := some {
      required := !s.inFlow && s.indent == spot.column, place := s.count, spot } }
  | _, _ => some s

/-! ## 2. Indentation -/

/-- Opens a block collection at a column if it is further in than the current one; the opening
token goes after a number of tokens. -/
def openBlock (s : Scan) (column place : Nat) (t : Token) : Scan :=
  if !s.inFlow ∧ s.indent < column then
    { s.emitAt place t with indent := column, outerIndents := s.indent :: s.outerIndents }
  else s

/-- Closes block collections one by one, as long as they are further in than a column. -/
def closeFrom (column : Int) : List Int → Scan → Scan
  | [], s => s
  | outer :: rest, s =>
    if column < s.indent then
      closeFrom column rest { s.emit .blockEnd with indent := outer, outerIndents := rest }
    else s

/-- Closes the block collections that are further in than a column. -/
def closeBlocks (s : Scan) (column : Int) : Scan :=
  if s.inFlow then s else closeFrom column s.outerIndents s

/-! ## 3. White space -/

/-- Skips white space and comments.  Tabs count as white space only where no key may begin, or
inside brackets; a line end outside of brackets allows a key to begin. -/
def skipSpace (s : Scan) : Nat → Scan
  | 0 => s
  | rounds + 1 =>
    let start := if Source.column s.text = 0 ∧ Source.char s.text = '\uFEFF' then s.text.drop 1
      else s.text
    let tabs := s.inFlow || !s.keyAllowed
    let rest := Source.skipComment (Source.skip start fun c => c = ' ' || (tabs && c = '\t'))
    if isBreak (Source.char rest) then
      skipSpace { s with text := rest.drop 1, keyAllowed := s.keyAllowed || !s.inFlow } rounds
    else s.moveTo rest

/-! ## 4. Tokens one by one -/

/-- The end of the text. -/
def finish? (s : Scan) : Option Scan := (s.closeBlocks (-1)).dropKey?

/-- A directive. -/
def directive? (s : Scan) : Option Scan := do
  let s ← (s.closeBlocks (-1)).dropKey?
  let (directive, rest) ← readDirective? (s.text.drop 1)
  return { s.emit (.directive directive) with keyAllowed := false, text := rest }

/-- A line that starts or ends a document. -/
def documentRule? (s : Scan) (t : Token) : Option Scan := do
  let s ← (s.closeBlocks (-1)).dropKey?
  return { (s.emit t).skip 3 with keyAllowed := false }

/-- An opening bracket. -/
def openFlow? (s : Scan) (t : Token) : Option Scan := do
  let s ← s.markKey?
  return { (s.emit t).skip 1 with
    keyAllowed := true, possibleKey := none, outerKeys := s.possibleKey :: s.outerKeys }

/-- A closing bracket. -/
def closeFlow? (s : Scan) (t : Token) : Option Scan := do
  let s ← s.dropKey?
  let s := { (s.emit t).skip 1 with keyAllowed := false }
  match s.outerKeys with
  | [] => return s
  | possibleKey :: outerKeys => return { s with possibleKey, outerKeys }

/-- A comma inside brackets. -/
def flowEntry? (s : Scan) : Option Scan := do
  let s ← s.dropKey?
  return { (s.emit .flowEntry).skip 1 with keyAllowed := true }

/-- A dash that starts an item. -/
def blockEntry? (s : Scan) : Option Scan := do
  if !s.inFlow && !s.keyAllowed then none
  let s ← (s.openBlock (Source.column s.text) s.count .blockSequenceStart).dropKey?
  return { (s.emit .blockEntry).skip 1 with keyAllowed := true }

/-- A question mark that starts a key. -/
def explicitKey? (s : Scan) : Option Scan := do
  if !s.inFlow && !s.keyAllowed then none
  let s ← (s.openBlock (Source.column s.text) s.count .blockMappingStart).dropKey?
  return { (s.emit .key).skip 1 with keyAllowed := !s.inFlow }

/-- A colon after a key: the key that may have begun has begun. -/
def value? (s : Scan) : Option Scan :=
  match s.possibleKey with
  | some k =>
    let s := (s.emitAt k.place .key).openBlock k.spot.column k.place .blockMappingStart
    some { (s.emit .value).skip 1 with possibleKey := none, keyAllowed := false }
  | none =>
    if !s.inFlow && !s.keyAllowed then none
    else
      let s := s.openBlock (Source.column s.text) s.count .blockMappingStart
      some { (s.emit .value).skip 1 with keyAllowed := !s.inFlow }

/-- A token that may begin a key and after which none may begin on the line. -/
def keyPart? (s : Scan) (read? : Source → Option (Token × Source)) : Option Scan := do
  let s ← s.markKey?
  let (t, rest) ← read? s.text
  return { s.emit t with keyAllowed := false, text := rest }

/-- An anchor or an alias. -/
def anchor? (s : Scan) (t : String → Token) : Option Scan :=
  s.keyPart? fun text => (readAnchor? (text.drop 1)).map fun (name, rest) => (t name, rest)

/-- A tag. -/
def tag? (s : Scan) : Option Scan :=
  s.keyPart? fun text =>
    (readTag? s.inFlow (text.drop 1)).map fun (tag, rest) => (.tag tag, rest)

/-- A quoted scalar. -/
def quoted? (s : Scan) (quote : Char) : Option Scan :=
  s.keyPart? fun text =>
    (readQuoted? quote (text.drop 1)).map fun (chars, rest) =>
      (.scalar false (String.ofList chars), rest)

/-- A block scalar. -/
def block? (s : Scan) (literal : Bool) : Option Scan := do
  let s ← s.dropKey?
  let (chars, rest) ← readBlock? literal s.indent (s.text.drop 1)
  return { s.emit (.scalar false (String.ofList chars)) with keyAllowed := true, text := rest }

/-- A plain scalar.  If its last line has ended, a key may begin. -/
def plain? (s : Scan) : Option Scan := do
  let s ← s.markKey?
  let p ← readPlain? s.inFlow (s.indent + 1).toNat s.text
  return { s.emit (.scalar true (String.ofList p.text)) with
    keyAllowed := p.endsLine, text := p.rest }

/-- Whether a plain scalar may start with a character, given the one after it. -/
def startsPlain (flow : Bool) (c next : Char) : Bool :=
  if c = '-' then !isBlank next
  else if c = '?' || c = ':' then !flow && !isBlankOrEnd next
  else !(isBlankOrEnd c || ",[]\x7b\x7d#&*!|>'\"%@\x60".toList.contains c)

/-- The next token, white space having been skipped. -/
def next? (s : Scan) : Option Scan :=
  let c := Source.char s.text
  let afterC := Source.charAt s.text 1
  let atStart := Source.column s.text = 0
  if atStart ∧ c = '%' then s.directive?
  else if Source.isRule s.text '-' then s.documentRule? .documentStart
  else if Source.isRule s.text '.' then s.documentRule? .documentEnd
  else if c = '[' then s.openFlow? .flowSequenceStart
  else if c = '{' then s.openFlow? .flowMappingStart
  else if c = ']' then s.closeFlow? .flowSequenceEnd
  else if c = '}' then s.closeFlow? .flowMappingEnd
  else if c = ',' then s.flowEntry?
  else if c = '-' ∧ isBlankOrEnd afterC then s.blockEntry?
  else if c = '?' ∧ (s.inFlow ∨ isBlankOrEnd afterC) then s.explicitKey?
  else if c = ':' ∧ (s.inFlow ∨ isBlankOrEnd afterC) then s.value?
  else if c = '*' then s.anchor? .alias
  else if c = '&' then s.anchor? .anchor
  else if c = '!' then s.tag?
  else if c = '|' ∧ !s.inFlow then s.block? true
  else if c = '>' ∧ !s.inFlow then s.block? false
  else if c = '\x27' ∨ c = '\x22' then s.quoted? c
  else if startsPlain s.inFlow c afterC then s.plain?
  else none

/-- Reads tokens to the end of the text.  Every token takes up a character. -/
def run? : Nat → Scan → Option Scan
  | 0, _ => none
  | rounds + 1, s => do
    let s ← (s.skipSpace (s.text.length + 1)).dropStaleKeys?
    let s := s.closeBlocks (Source.column s.text)
    if Source.char s.text = endMark then s.finish?
    else
      let s ← s.next?
      run? rounds s

end Scan

/-- The tokens of a text. -/
def Token.ofSource? (text : Source) : Option (List Token) :=
  (Scan.run? (text.length + 1) { text }).map fun s => s.tokens.reverse

end TemplatedConfig.Yaml
