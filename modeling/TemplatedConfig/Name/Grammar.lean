/-
# Grammars of names

The names of variables, files and resources have to match a grammar.  Everything that checks
names takes one as a parameter; `Grammar.standard` is the one that is used if nothing else is
said: letters, digits, underscores and hyphens, and no hyphen first.
-/
import TemplatedConfig.Name.Pattern
import TemplatedConfig.Fault

namespace TemplatedConfig.Name

/-- A grammar of names, with the pattern that messages show for it. -/
structure Grammar where
  pattern : String
  accepts : String → Bool

namespace Grammar

/-- A letter, whatever its case: besides the letters of Basic Latin there are two characters
that fold to one of them, the long s and the Kelvin sign. -/
def isLetter (c : Char) : Bool := c.isAlpha || c = '\u017F' || c = '\u212A'

/-- A character that a name starts with. -/
def startsName (c : Char) : Bool := isLetter c || c.isDigit || c = '_'

/-- A character inside a name. -/
def continuesName (c : Char) : Bool := startsName c || c = '-'

/-- A name of the standard grammar. -/
def isStandardName (name : String) : Bool :=
  match name.toList with
  | [] => false
  | c :: rest => startsName c && rest.all continuesName

/-- The grammar that is used if nothing else is said. -/
def standard : Grammar where
  pattern := "(?i)^[A-Z0-9_][A-Z0-9\\-_]*$"
  accepts := isStandardName

/-- The grammar of a pattern: a name is accepted if the pattern matches somewhere in it. -/
def ofPattern (pattern : String) : Except Fault Grammar :=
  match Pattern.read? pattern with
  | some p => .ok { pattern, accepts := p.occursIn }
  | none => .error (Fault.of (.invalidPattern pattern))

/-- Refuses a name that is not in the grammar. -/
def check (g : Grammar) (block name : String) : Except Fault Unit :=
  if g.accepts name then .ok ()
  else .error (Fault.of (.invalidName block name g.pattern))

end Grammar

end TemplatedConfig.Name
