/-
# YAML nodes

The tokens of a text form a tree of nodes: scalars, sequences, mappings, and aliases of nodes
that carry an anchor.  A node may have an anchor and a tag before its content; the content may
be missing, in a block and in brackets alike, and then is an empty plain scalar.

Collections nest at most `maxNesting` deep, which is what the recursion is on.  Every round of
a loop takes up a token, so the number of tokens bounds the rounds.  A key without content
would be a null and not a string, which no document has, so it is refused here already.
-/
import TemplatedConfig.Yaml.Token

namespace TemplatedConfig.Yaml

/-- A node; `α` names the anchors. -/
inductive Node (α : Type) where
  | scalar (anchor : Option α) (tag : Option TagText) (plain : Bool) (text : String)
  | sequence (anchor : Option α) (tag : Option TagText) (items : List (Node α))
  | mapping (anchor : Option α) (tag : Option TagText) (entries : List (Node α × Node α))
  | alias (target : α)

/-- The abbreviations of tags: what is declared, most recent first, and the two that always
are. -/
abbrev Handles := List (String × TagText)

/-- The abbreviations that need no declaration. -/
def standardHandles : Handles := [("!", octets "!"), ("!!", octets "tag:yaml.org,2002:")]

/-- A tag in full. -/
def WrittenTag.resolve? (handles : Handles) (t : WrittenTag) : Option TagText :=
  if t.handle = "" then some t.suffix
  else (handles.lookup t.handle).map (· ++ t.suffix)

/-- What stands before the content of a node. -/
structure Properties where
  anchor : Option String := none
  tag : Option TagText := none

/-- A reader of nodes, or of parts of nodes. -/
abbrev NodeReader (α : Type) := List Token → Option (α × List Token)

/-- An anchor. -/
def readAnchorToken (text : List Token) : Option String × List Token :=
  match text with
  | .anchor name :: rest => (some name, rest)
  | rest => (none, rest)

/-- An anchor and a tag, in either order. -/
def readProperties? (handles : Handles) : NodeReader Properties
  | .anchor name :: .tag t :: rest =>
    (t.resolve? handles).map fun tag => ({ anchor := some name, tag := some tag }, rest)
  | .anchor name :: rest => some ({ anchor := some name }, rest)
  | .tag t :: rest =>
    (t.resolve? handles).map fun tag =>
      ({ anchor := (readAnchorToken rest).1, tag := some tag }, (readAnchorToken rest).2)
  | rest => some ({}, rest)

namespace Node

/-- A missing content. -/
def empty : Node String := .scalar none none true ""

/-- Whether a token ends an item or a key of a block collection, or comes in its place. -/
def isBlockGap : Token → Bool
  | .key | .value | .blockEnd => true
  | _ => false

/-- Whether a token ends an item of a list of dashes that is not indented further than the
mapping around it. -/
def isIndentlessGap : Token → Bool
  | .blockEntry | .key | .value | .blockEnd => true
  | _ => false

/-- Whether a token ends an item of a block sequence. -/
def isItemGap : Token → Bool
  | .blockEntry | .blockEnd => true
  | _ => false

/-- Whether a token ends a value inside brackets. -/
def isFlowGap : Token → Bool
  | .flowEntry | .flowSequenceEnd | .flowMappingEnd => true
  | _ => false

/-- A node, or a missing content if one of certain tokens comes next. -/
def orEmpty (gap : Token → Bool) (node? : NodeReader (Node String)) :
    NodeReader (Node String)
  | t :: rest => if gap t then some (empty, t :: rest) else node? (t :: rest)
  | [] => none

/-- A node whose content has to be there. -/
def present (gap : Token → Bool) (node? : NodeReader (Node String)) : NodeReader (Node String)
  | t :: rest => if gap t then none else node? (t :: rest)
  | [] => none

variable (node? : Bool → Bool → NodeReader (Node String))

/-- The items of a block sequence after its opening token. -/
def blockItems? : Nat → NodeReader (List (Node String))
  | 0, _ => none
  | rounds + 1, text =>
    match text with
    | .blockEntry :: rest => do
      let (item, rest) ← orEmpty isItemGap (node? true false) rest
      let (items, rest) ← blockItems? rounds rest
      return (item :: items, rest)
    | .blockEnd :: rest => some ([], rest)
    | _ => none

/-- The items of a sequence that is not indented further than the mapping around it. -/
def indentlessItems? : Nat → NodeReader (List (Node String))
  | 0, _ => none
  | rounds + 1, text =>
    match text with
    | .blockEntry :: rest => do
      let (item, rest) ← orEmpty isIndentlessGap (node? true false) rest
      let (items, rest) ← indentlessItems? rounds rest
      return (item :: items, rest)
    | rest => some ([], rest)

/-- The value of an entry of a block mapping, which may be missing. -/
def blockValue? : NodeReader (Node String)
  | .value :: rest => orEmpty isBlockGap (node? true true) rest
  | rest => some (empty, rest)

/-- The entries of a block mapping after its opening token. -/
def blockEntries? : Nat → NodeReader (List (Node String × Node String))
  | 0, _ => none
  | rounds + 1, text =>
    match text with
    | .key :: rest => do
      let (key, rest) ← present isBlockGap (node? true true) rest
      let (value, rest) ← blockValue? node? rest
      let (entries, rest) ← blockEntries? rounds rest
      return ((key, value) :: entries, rest)
    | .blockEnd :: rest => some ([], rest)
    | _ => none

/-- The value of an entry inside brackets, which may be missing. -/
def flowValue? : NodeReader (Node String)
  | .value :: rest => orEmpty isFlowGap (node? false false) rest
  | rest => some (empty, rest)

/-- The comma before an item or an entry other than the first. -/
def separator? (first : Bool) (text : List Token) : Option (List Token) :=
  if first then some text
  else match text with
    | .flowEntry :: rest => some rest
    | _ => none

/-- An entry of a mapping in brackets, with a key that was announced or without a value. -/
def flowEntry? : NodeReader (Node String × Node String)
  | .key :: rest => do
    let (key, rest) ← present (fun t => isFlowGap t || isBlockGap t) (node? false false) rest
    let (value, rest) ← flowValue? node? rest
    return ((key, value), rest)
  | rest => do
    let (key, rest) ← node? false false rest
    return ((key, empty), rest)

/-- The entries of a mapping in brackets. -/
def flowEntries? : Nat → Bool → NodeReader (List (Node String × Node String))
  | 0, _, _ => none
  | rounds + 1, first, text =>
    match text with
    | .flowMappingEnd :: rest => some ([], rest)
    | text => do
      let text ← separator? first text
      match text with
      | .flowMappingEnd :: rest => some ([], rest)
      | text => do
        let (entry, rest) ← flowEntry? node? text
        let (entries, rest) ← flowEntries? rounds false rest
        return (entry :: entries, rest)

/-- An item of a sequence in brackets.  An announced key makes it a mapping of one entry. -/
def flowItem? : NodeReader (Node String)
  | .key :: rest => do
    let (entry, rest) ← flowEntry? node? (.key :: rest)
    return (.mapping none none [entry], rest)
  | rest => node? false false rest

/-- The items of a sequence in brackets. -/
def flowItems? : Nat → Bool → NodeReader (List (Node String))
  | 0, _, _ => none
  | rounds + 1, first, text =>
    match text with
    | .flowSequenceEnd :: rest => some ([], rest)
    | text => do
      let text ← separator? first text
      match text with
      | .flowSequenceEnd :: rest => some ([], rest)
      | text => do
        let (item, rest) ← flowItem? node? text
        let (items, rest) ← flowItems? rounds false rest
        return (item :: items, rest)

/-- A sequence with properties. -/
def sequenceWith (p : Properties) (r : List (Node String) × List Token) :
    Node String × List Token :=
  (.sequence p.anchor p.tag r.1, r.2)

/-- A mapping with properties. -/
def mappingWith (p : Properties) (r : List (Node String × Node String) × List Token) :
    Node String × List Token :=
  (.mapping p.anchor p.tag r.1, r.2)

/-- A collection after its properties, with a reader for the nodes in it. -/
def collection? (rounds : Nat) (block indentless : Bool) (p : Properties) :
    NodeReader (Node String)
  | .flowSequenceStart :: rest => (flowItems? node? rounds true rest).map (sequenceWith p)
  | .flowMappingStart :: rest => (flowEntries? node? rounds true rest).map (mappingWith p)
  | .blockSequenceStart :: rest =>
    if block then (blockItems? node? rounds rest).map (sequenceWith p) else none
  | .blockMappingStart :: rest =>
    if block then (blockEntries? node? rounds rest).map (mappingWith p) else none
  | .blockEntry :: rest =>
    if indentless then
      (indentlessItems? node? rounds (.blockEntry :: rest)).map (sequenceWith p)
    else none
  | _ => none

/-- Whether a collection starts. -/
def startsCollection (block indentless : Bool) : List Token → Bool
  | .flowSequenceStart :: _ | .flowMappingStart :: _ => true
  | .blockSequenceStart :: _ | .blockMappingStart :: _ => block
  | .blockEntry :: _ => indentless
  | _ => false

/-- A scalar after its properties.  Without content there have to be properties. -/
def scalar? (p : Properties) : NodeReader (Node String)
  | .scalar plain text :: rest => some (.scalar p.anchor p.tag plain text, rest)
  | rest =>
    if p.anchor.isSome ∨ p.tag.isSome then some (.scalar p.anchor p.tag true "", rest) else none

/-- A node, with `nesting` levels of collections left over; `block` says whether it may be a
block collection, and `indentless` whether it may be a list of dashes at the indentation of the
mapping around it. -/
def read? (handles : Handles) (rounds : Nat) : Nat → Bool → Bool → NodeReader (Node String)
  | _, _, _, .alias name :: rest => some (.alias name, rest)
  | nesting, block, indentless, text => do
    let (p, rest) ← readProperties? handles text
    if startsCollection block indentless rest then
      match nesting with
      | 0 => none
      | nesting + 1 => collection? (read? handles rounds nesting) rounds block indentless p rest
    else scalar? p rest

/-- The deepest nesting of collections. -/
def maxNesting : Nat := 128

/-! ## Documents -/

/-- Whether a version is one of those understood. -/
def isKnownVersion (major minor : Nat) : Bool := major = 1 && (minor = 1 || minor = 2)

/-- The directives at the head of a document: at most one version, and no abbreviation
twice. -/
def readDirectives? (versioned : Bool) (declared : Handles) :
    List Token → Option (Handles × List Token)
  | .directive (.version major minor) :: rest =>
    if !versioned ∧ isKnownVersion major minor then readDirectives? true declared rest
    else none
  | .directive (.tag handle lead) :: rest =>
    if declared.any (·.1 = handle) then none
    else readDirectives? versioned ((handle, lead) :: declared) rest
  | rest => some (declared ++ standardHandles, rest)

/-- The content of a document that starts with a line of its own. -/
def explicitContent? (handles : Handles) (text : List Token) :
    Option (Node String × List Token) :=
  match text with
  | [] => some (empty, [])
  | .documentStart :: _ | .documentEnd :: _ | .directive _ :: _ => some (empty, text)
  | text => read? handles text.length maxNesting true false text

/-- The tokens after the lines that end a document. -/
def skipDocumentEnds : List Token → List Token
  | .documentEnd :: rest => skipDocumentEnds rest
  | rest => rest

/-- The one document of a text.  Nothing may follow it but lines that end it. -/
def ofTokens? (text : List Token) : Option (Node String) := do
  let (node, rest) ← match text with
    | [] => some (empty, [])
    | .documentStart :: rest => explicitContent? standardHandles rest
    | .directive _ :: _ =>
      match readDirectives? false [] text with
      | some (handles, .documentStart :: rest) => explicitContent? handles rest
      | _ => none
    | text => read? standardHandles text.length maxNesting true false text
  if skipDocumentEnds rest = [] then some node else none

end Node

end TemplatedConfig.Yaml
