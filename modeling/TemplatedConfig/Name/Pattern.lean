/-
# Patterns for names

Which names a configuration may declare can be given as a regular expression.  `Pattern` is
the expression as a tree, `Pattern.read?` its usual notation (characters, `.`, classes in
brackets, `^` and `$`, groups, `|`, and `*`, `+`, `?`), and `Pattern.occursIn` says whether it
matches somewhere in a text.

Matching is by positions: `ends p i` lists where a match of `p` that starts at `i` can end.
For a repetition the positions reached are closed under one more round, and as many rounds as
the text has positions are enough.
-/

namespace TemplatedConfig.Name

/-- A regular expression. -/
inductive Pattern where
  /-- The empty text. -/
  | nothing
  | atStart
  | atEnd
  /-- One character inside the intervals, or outside them all if `negated`. -/
  | oneOf (negated : Bool) (intervals : List (Char × Char))
  | both (first second : Pattern)
  | either (first second : Pattern)
  /-- Any number of rounds. -/
  | many (round : Pattern)

namespace Pattern

/-! ## 1. Matching -/

/-- Whether a class holds a character. -/
def holds (negated : Bool) (intervals : List (Char × Char)) (c : Char) : Bool :=
  (intervals.any fun (low, high) => low ≤ c && c ≤ high) != negated

/-- The positions reached from some positions by at most `rounds` rounds. -/
def closure (step : Nat → List Nat) : Nat → List Nat → List Nat
  | 0, reached => reached
  | rounds + 1, reached =>
    closure step rounds ((reached ++ reached.flatMap step).eraseDups)

/-- Where the matches that start at a position end. -/
def ends (text : Array Char) : Pattern → Nat → List Nat
  | nothing, i => [i]
  | atStart, i => if i = 0 then [i] else []
  | atEnd, i => if i = text.size then [i] else []
  | oneOf negated intervals, i =>
    match text[i]? with
    | some c => if holds negated intervals c then [i + 1] else []
    | none => []
  | both p q, i => ((ends text p i).flatMap (ends text q)).eraseDups
  | either p q, i => ends text p i ++ ends text q i
  | many p, i => closure (ends text p) (text.size + 1) [i]

/-- Whether a pattern matches somewhere in a text. -/
def occursIn (p : Pattern) (text : String) : Bool :=
  let chars := text.toList.toArray
  (List.range (chars.size + 1)).any fun i => !(ends chars p i).isEmpty

/-! ## 2. Reading -/

/-- A character that stands for itself after a backslash. -/
def escapable (c : Char) : Bool :=
  c.toNat < 0x80 && !c.isAlphanum && 0x20 < c.toNat && c != '<' && c != '>'

/-- One character of a class, with its escape. -/
def classChar? : List Char → Option (Char × List Char)
  | '\\' :: c :: rest => if escapable c then some (c, rest) else none
  | '\\' :: [] => none
  | '[' :: _ => none
  | c :: rest => some (c, rest)
  | [] => none

/-- The intervals of a class after its opening bracket. -/
def intervals? : Nat → Bool → List Char → Option (List (Char × Char) × List Char)
  | 0, _, _ => none
  | fuel + 1, first, text =>
    match text, first with
    | ']' :: rest, false => some ([], rest)
    | text, _ =>
      match classChar? text with
      | none => none
      | some (low, '-' :: ']' :: rest) => some ([(low, low), ('-', '-')], rest)
      | some (low, '-' :: rest) =>
        match classChar? rest with
        | some (high, rest) =>
          if low ≤ high then
            (intervals? fuel false rest).map fun (more, rest) => ((low, high) :: more, rest)
          else none
        | none => none
      | some (c, rest) =>
        (intervals? fuel false rest).map fun (more, rest) => ((c, c) :: more, rest)

/-- The marks of repetition after an expression. -/
def repeated (p : Pattern) : List Char → Pattern × List Char
  | '*' :: '?' :: rest => repeated (many p) rest
  | '*' :: rest => repeated (many p) rest
  | '+' :: '?' :: rest => repeated (both p (many p)) rest
  | '+' :: rest => repeated (both p (many p)) rest
  | '?' :: '?' :: rest => repeated (either p nothing) rest
  | '?' :: rest => repeated (either p nothing) rest
  | rest => (p, rest)

mutual

/-- Alternatives, up to a closing parenthesis or the end. -/
def alternatives? : Nat → List Char → Option (Pattern × List Char)
  | 0, _ => none
  | fuel + 1, text =>
    match run? fuel text with
    | some (p, '|' :: rest) =>
      (alternatives? fuel rest).map fun (q, rest) => (either p q, rest)
    | other => other

/-- Expressions in a row. -/
def run? : Nat → List Char → Option (Pattern × List Char)
  | 0, _ => none
  | _ + 1, [] => some (nothing, [])
  | fuel + 1, c :: text =>
    if c = '|' ∨ c = ')' then some (nothing, c :: text)
    else
      match single? fuel c text with
      | none => none
      | some (p, rest) =>
        match run? fuel (repeated p rest).2 with
        | none => none
        | some (q, rest') => some (both (repeated p rest).1 q, rest')

/-- One expression without marks of repetition, given its first character. -/
def single? : Nat → Char → List Char → Option (Pattern × List Char)
  | 0, _, _ => none
  | fuel + 1, c, text =>
    match c with
    | '(' =>
      match alternatives? fuel text with
      | some (p, ')' :: rest) => some (p, rest)
      | _ => none
    | '[' =>
      match text with
      | '^' :: rest =>
        (intervals? fuel true rest).map fun (ranges, rest) => (oneOf true ranges, rest)
      | rest =>
        (intervals? fuel true rest).map fun (ranges, rest) => (oneOf false ranges, rest)
    | '.' => some (oneOf true [('\n', '\n')], text)
    | '^' => some (atStart, text)
    | '$' => some (atEnd, text)
    | '\\' =>
      match text with
      | e :: rest => if escapable e then some (oneOf false [(e, e)], rest) else none
      | [] => none
    | '*' | '+' | '?' | '{' => none
    | c => some (oneOf false [(c, c)], text)

end

/-- The pattern that a text denotes.  Every rule takes up a character at the latest two calls
further down, which bounds the calls. -/
def read? (text : String) : Option Pattern :=
  match alternatives? (3 * text.length + 3) text.toList with
  | some (p, []) => some p
  | _ => none

end Pattern

end TemplatedConfig.Name
