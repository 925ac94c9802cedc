/-
# The text of YAML scalars

A scalar is written in one of three ways: plain, between quotes, or as a block of indented
lines.  In the first two, line ends among the text are folded: one of them counts as a space,
and of several the first is dropped.  A block keeps its lines, or folds them too, and says in
its header what becomes of the line ends at its end.

The readers here take the source after the mark that opens the scalar and give back the text
and the source that follows.  Each round of their loops takes up a character, so the length of
the source bounds the rounds.
-/
import TemplatedConfig.Yaml.Source

namespace TemplatedConfig.Yaml

/-! ## 1. Gaps between words -/

/-- White space between two words of a plain or quoted scalar. -/
structure Gap where
  /-- The blanks, last first, as long as no line has ended. -/
  blanks : List Char := []
  /-- The first line end. -/
  first : List Char := []
  /-- The other line ends, last first. -/
  others : List Char := []
  /-- Whether a line has ended. -/
  broken : Bool := false

/-- What a gap counts as. -/
def Gap.text (g : Gap) : List Char :=
  if g.broken then
    if g.first = ['\n'] then
      if g.others = [] then [' '] else g.others.reverse
    else g.first ++ g.others.reverse
  else g.blanks.reverse

/-- Adds a blank; those at the start of a line do not count. -/
def Gap.addBlank (g : Gap) (c : Char) : Gap :=
  if g.broken then g else { g with blanks := c :: g.blanks }

/-- Adds a line end. -/
def Gap.addBreak (g : Gap) (c : Char) : Gap :=
  if g.broken then { g with others := c :: g.others } else { first := [c], broken := true }

/-- Reads white space.  A tab may not stand where indentation is due. -/
def readGap? (indent : Nat) (g : Gap) : Source → Option (Gap × Source)
  | [] => some (g, [])
  | s :: rest =>
    if isBlank s.char then
      if g.broken ∧ s.column < indent ∧ s.char = '\t' then none
      else readGap? indent (g.addBlank s.char) rest
    else if isBreak s.char then readGap? indent (g.addBreak s.char) rest
    else some (g, s :: rest)

/-! ## 2. Plain scalars -/

/-- A character that ends a plain scalar inside brackets. -/
def isFlowMark (c : Char) : Bool := c = ',' || c = '[' || c = ']' || c = '{' || c = '}'

/-- Adds one word of a plain scalar to the text, which is kept last character first. -/
def plainWord? (flow : Bool) (word : List Char) : Source → Option (List Char × Source)
  | [] => some (word, [])
  | s :: rest =>
    if isBlankOrEnd s.char then some (word, s :: rest)
    else if flow ∧ s.char = ':'
        ∧ (isFlowMark (Source.char rest) ∨ Source.char rest = '?') then none
    else if s.char = ':' ∧ isBlankOrEnd (Source.char rest) then some (word, s :: rest)
    else if flow ∧ isFlowMark s.char then some (word, s :: rest)
    else plainWord? flow (s.char :: word) rest

/-- A plain scalar, and whether a line ended after its last word. -/
structure PlainText where
  text : List Char
  endsLine : Bool
  rest : Source

/-- Adds words to a plain scalar as long as they belong to it. -/
def plainWords? (flow : Bool) (indent : Nat) :
    Nat → List Char → Gap → Source → Option PlainText
  | 0, _, _, _ => none
  | rounds + 1, done, gap, text =>
    if Source.isDocumentRule text ∨ Source.char text = '#' then
      some ⟨done.reverse, gap.broken, text⟩
    else
      match plainWord? flow [] text with
      | none => none
      | some ([], rest) => some ⟨done.reverse, gap.broken, rest⟩
      | some (word, rest) =>
        let done := word ++ gap.text.reverse ++ done
        if isBlank (Source.char rest) ∨ isBreak (Source.char rest) then
          match readGap? indent {} rest with
          | none => none
          | some (gap, rest) =>
            if !flow ∧ Source.column rest < indent then
              some ⟨done.reverse, gap.broken, rest⟩
            else plainWords? flow indent rounds done gap rest
        else some ⟨done.reverse, false, rest⟩

/-- A plain scalar; outside of brackets its lines have to be indented by `indent`. -/
def readPlain? (flow : Bool) (indent : Nat) (text : Source) : Option PlainText :=
  plainWords? flow indent (text.length + 1) [] {} text

/-! ## 3. Quoted scalars -/

/-- The value of a hexadecimal digit. -/
def hexDigit? (c : Char) : Option Nat :=
  if c.isDigit then some (c.toNat - '0'.toNat)
  else if 'a' ≤ c ∧ c ≤ 'f' then some (c.toNat - 'a'.toNat + 10)
  else if 'A' ≤ c ∧ c ≤ 'F' then some (c.toNat - 'A'.toNat + 10)
  else none

/-- The number that hexadecimal digits stand for. -/
def hexNumber? (digits : List Char) : Option Nat :=
  digits.foldlM (fun n c => (hexDigit? c).map (16 * n + ·)) 0

/-- The character of a code point; surrogates are none. -/
def codePoint? (n : Nat) : Option Char :=
  if n ≤ 0x10FFFF ∧ ¬(0xD800 ≤ n ∧ n ≤ 0xDFFF) then some (Char.ofNat n) else none

/-- The character that a letter after a backslash stands for. -/
def escape? : Char → Option Char
  | '0' => some '\x00'
  | 'a' => some '\x07'
  | 'b' => some '\x08'
  | 't' | '\t' => some '\t'
  | 'n' => some '\n'
  | 'v' => some '\x0b'
  | 'f' => some '\x0c'
  | 'r' => some '\r'
  | 'e' => some '\x1b'
  | ' ' => some ' '
  | '\x22' => some '\x22'
  | '/' => some '/'
  | '\\' => some '\\'
  | 'N' => some '\u0085'
  | '_' => some '\u00a0'
  | 'L' => some '\u2028'
  | 'P' => some '\u2029'
  | _ => none

/-- How many hexadecimal digits follow a letter after a backslash. -/
def escapeWidth? : Char → Option Nat
  | 'x' => some 2
  | 'u' => some 4
  | 'U' => some 8
  | _ => none

/-- An escape after its backslash. -/
def readEscape? (c : Char) (rest : Source) : Option (Char × Source) :=
  match escapeWidth? c with
  | some width =>
    if width ≤ rest.length then
      ((hexNumber? (Source.chars (rest.take width))).bind codePoint?).map (·, rest.drop width)
    else none
  | none => (escape? c).map (·, rest)

theorem readEscape?_length {c x : Char} {text rest : Source}
    (h : readEscape? c text = some (x, rest)) : rest.length ≤ text.length := by
  unfold readEscape? at h
  split at h
  · split at h
    · simp only [Option.map_eq_some_iff] at h
      obtain ⟨_, _, h⟩ := h
      cases h
      simp
    · cases h
  · simp only [Option.map_eq_some_iff] at h
    obtain ⟨_, _, h⟩ := h
    cases h
    exact Nat.le_refl _

/-- One word of a scalar in single quotes, in which a quote is written twice. -/
def singleWord (word : List Char) : Source → List Char × Source
  | [] => (word, [])
  | [s] => (word, [s])
  | s :: t :: rest =>
    if isBlankOrEnd s.char then (word, s :: t :: rest)
    else if s.char = '\x27' then
      if t.char = '\x27' then singleWord ('\x27' :: word) rest else (word, s :: t :: rest)
    else singleWord (s.char :: word) (t :: rest)

/-- One word of a scalar in double quotes, and whether a line end after a backslash ended
it. -/
def doubleWord? (word : List Char) (text : Source) : Option (List Char × Bool × Source) :=
  match text with
  | [] => some (word, false, [])
  | s :: rest =>
    if isBlankOrEnd s.char ∨ s.char = '\x22' then some (word, false, s :: rest)
    else if s.char = '\\' then
      match rest with
      | [] => none
      | t :: rest =>
        if isBreak t.char then some (word, true, rest)
        else
          match _h : readEscape? t.char rest with
          | none => none
          | some (x, rest') => doubleWord? (x :: word) rest'
    else doubleWord? (s.char :: word) rest
termination_by text.length
decreasing_by
  · have := readEscape?_length _h
    simp only [List.length_cons]; omega
  · simp only [List.length_cons]; omega

/-- One word of a quoted scalar. -/
def quotedWord? (quote : Char) (word : List Char) (text : Source) :
    Option (List Char × Bool × Source) :=
  if quote = '\x27' then
    match singleWord word text with
    | (word, rest) => some (word, false, rest)
  else doubleWord? word text

/-- Words of a quoted scalar up to the closing quote, collected last character first. -/
def quotedWords? (quote : Char) : Nat → List Char → Source → Option (List Char × Source)
  | 0, _, _ => none
  | rounds + 1, done, text =>
    if Source.isDocumentRule text ∨ Source.char text = endMark then none
    else
      match quotedWord? quote done text with
      | none => none
      | some (done, joined, rest) =>
        if Source.char rest = quote then some (done.reverse, rest.drop 1)
        else
          match readGap? 0 { broken := joined } rest with
          | none => none
          | some (gap, rest) => quotedWords? quote rounds (gap.text.reverse ++ done) rest

/-- A quoted scalar after its opening quote. -/
def readQuoted? (quote : Char) (text : Source) : Option (List Char × Source) :=
  quotedWords? quote (text.length + 1) [] text

/-! ## 4. Block scalars -/

/-- What becomes of the line ends at the end of a block. -/
inductive Chomping where
  | strip | clip | keep
  deriving DecidableEq

/-- The header of a block: what becomes of the last line ends, and by how much the lines are
indented, if that is said. -/
structure BlockHeader where
  chomping : Chomping := .clip
  increment : Option Nat := none

/-- The mark of a way of chomping. -/
def chompingMark? : Char → Option Chomping
  | '+' => some .keep
  | '-' => some .strip
  | _ => none

/-- A digit for the indentation; zero is refused. -/
def incrementAfter? (h : BlockHeader) (text : Source) : Option (BlockHeader × Source) :=
  if (Source.char text).isDigit then
    if Source.char text = '0' then none
    else
      some ({ h with increment := some ((Source.char text).toNat - '0'.toNat) }, text.drop 1)
  else some (h, text)

/-- The header of a block after its opening mark: the two hints in either order. -/
def readHeader? (text : Source) : Option (BlockHeader × Source) :=
  match chompingMark? (Source.char text) with
  | some chomping => incrementAfter? { chomping } (text.drop 1)
  | none =>
    match incrementAfter? {} text with
    | none => none
    | some (h, rest) =>
      match h.increment, chompingMark? (Source.char rest) with
      | some _, some chomping => some ({ h with chomping }, rest.drop 1)
      | _, _ => some (h, rest)

/-- Lines without content: their ends, last first, the widest indentation among them and of
the line after them, and the source from the first character that is not indentation.  With an
indentation of zero every space counts as indentation. -/
structure EmptyLines where
  breaks : List Char
  widest : Nat
  rest : Source

/-- Skips lines without content.  A tab may not stand where indentation is due. -/
def emptyLines? (indent : Nat) (breaks : List Char) (widest : Nat) :
    Source → Option EmptyLines
  | [] => some ⟨breaks, widest, []⟩
  | s :: rest =>
    if s.char = ' ' ∧ (indent = 0 ∨ s.column < indent) then
      emptyLines? indent breaks widest rest
    else if s.char = '\t' ∧ (indent = 0 ∨ s.column < indent) then none
    else if isBreak s.char then
      emptyLines? indent (s.char :: breaks) (max widest s.column) rest
    else some ⟨breaks, max widest s.column, s :: rest⟩

/-- A block of which some lines have been read. -/
structure BlockText where
  /-- The text up to the last line, last character first. -/
  done : List Char := []
  /-- The end of the last line. -/
  lineEnd : List Char := []
  /-- The ends of the empty lines after it, in order. -/
  emptyEnds : List Char
  /-- Whether the last line starts with a blank. -/
  blankStart : Bool := false

/-- What stands between the last line and the next one.  Folding turns the end of a line into
a space, or drops it before empty lines, unless one of the two lines starts with a blank. -/
def BlockText.joint (b : BlockText) (literal startsBlank : Bool) : List Char :=
  if !literal ∧ b.lineEnd = ['\n'] ∧ !b.blankStart ∧ !startsBlank then
    if b.emptyEnds = [] then [' '] else b.emptyEnds
  else b.lineEnd ++ b.emptyEnds

/-- Reads lines as long as they are indented. -/
def blockLines? (literal : Bool) (indent : Nat) :
    Nat → BlockText → Source → Option (BlockText × Source)
  | 0, _, _ => none
  | rounds + 1, b, text =>
    if Source.column text = indent ∧ Source.char text ≠ endMark then
      let startsBlank := isBlank (Source.char text)
      let (line, rest) := Source.span text fun c => !isBreakOrEnd c
      let lineEnd := if isBreak (Source.char rest) then [Source.char rest] else []
      match emptyLines? indent [] 0 (rest.drop lineEnd.length) with
      | none => none
      | some lines =>
        blockLines? literal indent rounds
          { done := line.reverse ++ (b.joint literal startsBlank).reverse ++ b.done
            lineEnd, emptyEnds := lines.breaks.reverse, blankStart := startsBlank }
          lines.rest
    else some (b, text)

/-- The whole text of a block. -/
def BlockText.text (b : BlockText) (chomping : Chomping) : List Char :=
  b.done.reverse ++ (match chomping with
    | .strip => []
    | .clip => b.lineEnd
    | .keep => b.lineEnd ++ b.emptyEnds)

/-- The indentation of a block inside a collection that is indented by `parent`, or by `-1` if
there is none: as the header says, or that of the widest line before the content. -/
def blockIndent (parent : Int) (increment : Option Nat) (widest : Nat) : Nat :=
  match increment with
  | some n => (max parent 0).toNat + n
  | none => max (max widest (parent + 1).toNat) 1

/-- A block after its opening mark. -/
def readBlock? (literal : Bool) (parent : Int) (text : Source) :
    Option (List Char × Source) := do
  let (h, rest) ← readHeader? text
  let rest := Source.skipComment (Source.skip rest isBlank)
  if !isBreakOrEnd (Source.char rest) then none
  let rest := if isBreak (Source.char rest) then rest.drop 1 else rest
  let due := match h.increment with
    | some _ => blockIndent parent h.increment 0
    | none => 0
  let lines ← emptyLines? due [] 0 rest
  let indent := blockIndent parent h.increment lines.widest
  let (b, rest) ← blockLines? literal indent (rest.length + 1)
    { emptyEnds := lines.breaks.reverse } lines.rest
  return (b.text h.chomping, rest)

end TemplatedConfig.Yaml
