/-
# Arguments of the command line

A command is a word and its arguments: the directory, and options that may stand before it or
after it.  An option with a value takes it from the next argument or after an equals sign, and
letters for options may be run together.  Two hyphens alone end the options.

`Request.parse` says what a list of arguments asks for; what does not follow the rules is
`misused`.  The arguments are read from the first to the last, so that of a request for help and
a mistake the earlier one counts; only what is missing altogether shows at the end.
-/

namespace TemplatedConfig.Cli

/-- How the variables of a configuration are listed. -/
inductive ListFormat where
  | text | json
  deriving DecidableEq

/-- How a configuration is written out. -/
inductive DumpFormat where
  | yaml | json
  deriving DecidableEq

/-- The way of listing variables that a word stands for. -/
def ListFormat.ofWord? (word : String) : Option ListFormat :=
  if word = "text" then some text else if word = "json" then some json else none

/-- The way of writing a configuration that a word stands for. -/
def DumpFormat.ofWord? (word : String) : Option DumpFormat :=
  if word = "yaml" then some yaml else if word = "json" then some json else none

/-- The commands. -/
inductive Command where
  | check (directory : String)
  | vars (directory : String) (format : ListFormat)
  | dump (directory : String) (overrides : List String) (format : DumpFormat) (strict : Bool)

/-- The words for the commands. -/
inductive Verb where
  | check | vars | dump
  deriving DecidableEq

/-- What a list of arguments asks for. -/
inductive Request where
  | run (command : Command)
  | version
  /-- The overview of the commands, or the help for one of them. -/
  | help (verb : Option Verb)
  /-- Nothing is asked for, which is answered with the overview. -/
  | nothing
  /-- The arguments do not follow the rules. -/
  | misused

/-- The command that a word stands for. -/
def Verb.ofWord? (word : String) : Option Verb :=
  if word = "check" then some check
  else if word = "vars" then some vars
  else if word = "dump" then some dump
  else none

/-! ## 1. Options -/

/-- The options of the commands. -/
inductive OptionName where
  | verbose | help | format | var | strict
  deriving DecidableEq

/-- Whether an option is followed by a value. -/
def OptionName.takesValue : OptionName → Bool
  | format | var => true
  | verbose | help | strict => false

/-- Whether an option may be given several times. -/
def OptionName.repeats : OptionName → Bool
  | var => true
  | _ => false

/-- Whether a word may be the value of an option of a command. -/
def OptionName.accepts (verb : Verb) (name : OptionName) (word : String) : Bool :=
  match verb, name with
  | .vars, format => (ListFormat.ofWord? word).isSome
  | .dump, format => (DumpFormat.ofWord? word).isSome
  | _, _ => true

/-- The option with a long name, if the command has it. -/
def OptionName.ofLong? (verb : Verb) (word : String) : Option OptionName :=
  if word = "verbose" then some verbose
  else if word = "help" then some help
  else if word = "format" ∧ verb ≠ .check then some format
  else if word = "var" ∧ verb = .dump then some var
  else if word = "strict" ∧ verb = .dump then some strict
  else none

/-- The option with a letter, if the command has it. -/
def OptionName.ofLetter? (verb : Verb) (letter : Char) : Option OptionName :=
  if letter = 'v' then some verbose
  else if letter = 'h' then some help
  else if letter = 'f' ∧ verb ≠ .check then some format
  else none

/-- What the arguments of a command say so far. -/
structure Given where
  directory : Option String := none
  options : List (OptionName × String) := []

/-- The values given for an option, in order. -/
def Given.values (g : Given) (name : OptionName) : List String :=
  (g.options.filter (·.1 = name)).map Prod.snd

/-- Adds an option; most must not be given twice, and some take certain values only. -/
def Given.addOption? (verb : Verb) (g : Given) (name : OptionName) (value : String) :
    Option Given :=
  if (!name.repeats ∧ g.values name ≠ []) ∨ !name.accepts verb value then none
  else some { g with options := g.options ++ [(name, value)] }

/-- Adds the directory, of which there is one, with a name. -/
def Given.addDirectory? (g : Given) (word : String) : Option Given :=
  if g.directory.isSome ∨ word = "" then none else some { g with directory := some word }

/-- Whether an argument is an option rather than a value. -/
def looksLikeOption (word : String) : Bool :=
  match word.toList with
  | '-' :: _ :: _ => true
  | _ => false

/-- How far the arguments of a command have been read. -/
inductive Progress where
  /-- Help was asked for. -/
  | help
  | misused
  | given (g : Given)
  /-- The last argument was an option whose value comes next. -/
  | expecting (g : Given) (name : OptionName)

/-- A step that may fail. -/
def Progress.ofOption : Option Given → Progress
  | some g => given g
  | none => misused

/-- Letters of options after their hyphen. -/
def readLetters (verb : Verb) (g : Given) : List Char → Progress
  | [] => .given g
  | letter :: rest =>
    match OptionName.ofLetter? verb letter with
    | none => .misused
    | some .help => .help
    | some name =>
      if name.takesValue then
        match rest with
        | [] => .expecting g name
        | '=' :: value => .ofOption (g.addOption? verb name (String.ofList value))
        | value => .ofOption (g.addOption? verb name (String.ofList value))
      else
        match g.addOption? verb name "" with
        | some g => readLetters verb g rest
        | none => .misused

/-- A long option after its hyphens. -/
def readLong (verb : Verb) (g : Given) (word : List Char) : Progress :=
  let name := String.ofList (word.takeWhile (· ≠ '='))
  match OptionName.ofLong? verb name, word.dropWhile (· ≠ '=') with
  | none, _ => .misused
  | some .help, [] => .help
  | some name, [] =>
    if name.takesValue then .expecting g name else .ofOption (g.addOption? verb name "")
  | some name, _ :: value =>
    if name.takesValue then .ofOption (g.addOption? verb name (String.ofList value))
    else .misused

/-- One argument of a command. -/
def readArgument (verb : Verb) (g : Given) (word : String) : Progress :=
  match word.toList with
  | '-' :: '-' :: rest => readLong verb g rest
  | '-' :: c :: rest => readLetters verb g (c :: rest)
  | _ => .ofOption (g.addDirectory? word)

/-- Arguments that are no options. -/
def readPlain (g : Given) : List String → Progress
  | [] => .given g
  | word :: rest =>
    match g.addDirectory? word with
    | some g => readPlain g rest
    | none => .misused

/-- The arguments of a command; `pending` is an option that waits for its value. -/
def readArguments (verb : Verb) : Given → Option OptionName → List String → Progress
  | g, none, [] => .given g
  | _, some _, [] => .misused
  | g, some name, word :: rest =>
    if looksLikeOption word then .misused
    else
      match g.addOption? verb name word with
      | some g => readArguments verb g none rest
      | none => .misused
  | g, none, word :: rest =>
    if word = "--" then readPlain g rest
    else
      match readArgument verb g word with
      | .given g => readArguments verb g none rest
      | .expecting g name => readArguments verb g (some name) rest
      | other => other

/-! ## 2. Requests -/

/-- The format for a list of variables. -/
def listFormat? : List String → Option ListFormat
  | [] => some .text
  | word :: _ => ListFormat.ofWord? word

/-- The format for a whole configuration. -/
def dumpFormat? : List String → Option DumpFormat
  | [] => some .yaml
  | word :: _ => DumpFormat.ofWord? word

/-- The command that is given, if nothing is missing. -/
def commandOf? (verb : Verb) (g : Given) : Option Command := do
  let directory ← g.directory
  match verb with
  | .check => return .check directory
  | .vars => return .vars directory (← listFormat? (g.values .format))
  | .dump =>
    return .dump directory (g.values .var) (← dumpFormat? (g.values .format))
      (!(g.values .strict).isEmpty)

/-- What a command and its arguments ask for. -/
def requestOf (verb : Verb) (arguments : List String) : Request :=
  match readArguments verb {} none arguments with
  | .help => .help (some verb)
  | .given g =>
    match commandOf? verb g with
    | some command => .run command
    | none => .misused
  | _ => .misused

/-- What is asked for after the word for help. -/
def helpRequest : List String → Request
  | [] => .help none
  | [word] =>
    match Verb.ofWord? word with
    | some verb => .help (some verb)
    | none => if word = "help" then .help none else .misused
  | _ => .misused

/-- Letters of options before the command; `verbose` says whether the one that is no request
was given. -/
def leadingLetters (verbose : Bool) : List Char → Option Bool ⊕ Request
  | [] => .inl (some verbose)
  | letter :: rest =>
    if letter = 'h' then .inr (.help none)
    else if letter = 'V' then .inr .version
    else if letter = 'v' ∧ !verbose then leadingLetters true rest
    else .inl none

/-- What a list of arguments asks for, options before the command included.  After two hyphens
alone no command can follow. -/
def parseFrom (verbose : Bool) : List String → Request
  | [] => if verbose then .misused else .nothing
  | word :: rest =>
    if word = "--" then if verbose ∨ rest ≠ [] then .misused else .nothing
    else if word = "--help" then .help none
    else if word = "--version" then .version
    else if word = "--verbose" then if verbose then .misused else parseFrom true rest
    else if word = "help" then helpRequest rest
    else
      match Verb.ofWord? word with
      | some verb => requestOf verb rest
      | none =>
        match word.toList with
        | '-' :: c :: letters =>
          match leadingLetters verbose (c :: letters) with
          | .inl (some verbose) => parseFrom verbose rest
          | .inl none => .misused
          | .inr request => request
        | _ => .misused

/-- What a list of arguments asks for. -/
def Request.parse (arguments : List String) : Request := parseFrom false arguments

end TemplatedConfig.Cli
