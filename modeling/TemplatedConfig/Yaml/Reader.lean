/-
# Reading YAML

A tree of nodes becomes a document in two steps.  Anchors and aliases are numbered first: a
definition gets as its number how many different names have been defined before it, and an
alias the number of the definition that its name had last.  A name defined again therefore may
take a number that a later name takes too, and of several definitions of a number the last in
the text counts, for all aliases.

Then aliases are replaced by what they stand for and scalars by what they say.  An alias may
lie inside the node it stands for; such a tree never ends and is stopped by the limit on
nesting, and a tree that grows by repeated aliases is stopped by a limit on their number.
-/
import TemplatedConfig.Yaml.Node
import TemplatedConfig.Yaml.Plain
import TemplatedConfig.Document.Basic

namespace TemplatedConfig.Yaml

/-! ## 1. Numbers for anchors -/

/-- The numbers of the names defined so far. -/
abbrev Names := List (String × Nat)

/-- Defines a name, if there is one. -/
def define (names : Names) : Option String → Names × Option Nat
  | none => (names, none)
  | some name =>
    ((name, names.length) :: names.filter (·.1 ≠ name), some names.length)

namespace Node

mutual

/-- Numbers the anchors and aliases of a node. -/
def number? (names : Names) : Node String → Option (Names × Node Nat)
  | .scalar anchor tag plain text =>
    some ((define names anchor).1, .scalar (define names anchor).2 tag plain text)
  | .sequence anchor tag items =>
    (numberItems? (define names anchor).1 items).map fun (names', items) =>
      (names', .sequence (define names anchor).2 tag items)
  | .mapping anchor tag entries =>
    (numberEntries? (define names anchor).1 entries).map fun (names', entries) =>
      (names', .mapping (define names anchor).2 tag entries)
  | .alias name => (names.lookup name).map fun n => (names, .alias n)

/-- Numbers the anchors and aliases of nodes one after another. -/
def numberItems? (names : Names) : List (Node String) → Option (Names × List (Node Nat))
  | [] => some (names, [])
  | n :: rest => do
    let (names, n) ← number? names n
    let (names, rest) ← numberItems? names rest
    return (names, n :: rest)

/-- Numbers the anchors and aliases of keys and values one after another. -/
def numberEntries? (names : Names) :
    List (Node String × Node String) → Option (Names × List (Node Nat × Node Nat))
  | [] => some (names, [])
  | (k, v) :: rest => do
    let (names, k) ← number? names k
    let (names, v) ← number? names v
    let (names, rest) ← numberEntries? names rest
    return (names, (k, v) :: rest)

end

/-- The number of a node itself. -/
def anchorOf (n : Node Nat) : Option Nat :=
  match n with
  | .scalar anchor .. | .sequence anchor .. | .mapping anchor .. => anchor
  | .alias _ => none

mutual

/-- The nodes of a tree, each before its parts. -/
def all : Node Nat → List (Node Nat)
  | .sequence anchor tag items => .sequence anchor tag items :: allItems items
  | .mapping anchor tag entries => .mapping anchor tag entries :: allEntries entries
  | n => [n]

/-- The nodes of several trees. -/
def allItems : List (Node Nat) → List (Node Nat)
  | [] => []
  | n :: rest => n.all ++ allItems rest

/-- The nodes of keys and values. -/
def allEntries : List (Node Nat × Node Nat) → List (Node Nat)
  | [] => []
  | (k, v) :: rest => k.all ++ v.all ++ allEntries rest

end

/-- The nodes that aliases stand for: the last one for each number. -/
def definitions (nodes : List (Node Nat)) : List (Nat × Node Nat) :=
  (nodes.filterMap fun n => n.anchorOf.map (·, n)).reverse

/-- How much a node counts toward the limit on aliases: the beginnings and ends of collections,
the scalars and the aliases. -/
def weight : Node Nat → Nat
  | .sequence .. | .mapping .. => 2
  | _ => 1

/-- How much all nodes of a tree count together. -/
def totalWeight (n : Node Nat) : Nat := n.all.foldl (fun total part => total + part.weight) 0

end Node

/-! ## 2. Scalars -/

/-- The document of an integer.  One beyond 64 bits with a sign is a double, and one beyond
those without is refused. -/
def wholeDocument? (n : Int) : Option Document :=
  if Value.Fits n then some (.integer (Int64.ofInt n))
  else if 0 ≤ n ∧ n.toNat < Nat.pow 2 64 then some (.float (Decimal.nearest n.toNat 0))
  else none

/-- A plain scalar without a tag. -/
def plainDocument? (text : String) : Option Document :=
  match classify text with
  | .null => some .null
  | .bool b => some (.bool b)
  | .whole n => wholeDocument? n
  | .double x => some (.float x)
  | .string => some (.string text)

/-- The tag of a standard type. -/
def standardTag (name : String) : TagText := octets ("tag:yaml.org,2002:" ++ name)

/-- Whether a tag starts with an exclamation mark. -/
def isMarkedTag (tag : TagText) : Bool := (octets "!").isPrefixOf tag

/-- Whether a tag names one of a document's own types, which have no meaning here.  A name is
text; what follows the exclamation mark otherwise names nothing. -/
def isLocalTag : Option TagText → Bool
  | some tag => isMarkedTag tag && (List.toByteArray (tag.drop 1)).validateUTF8
  | none => false

/-- A scalar without quotes is read by its text, and one with quotes is a string. -/
def untaggedDocument? (plain : Bool) (text : String) : Option Document :=
  if plain then plainDocument? text else some (.string text)

/-- A scalar with a tag: one of four standard types, whose form is then required, or else a
string.  A tag that names nothing is as none. -/
def taggedDocument? (tag : TagText) (plain : Bool) (text : String) : Option Document :=
  if tag = standardTag "bool" then (boolWord? text).map .bool
  else if tag = standardTag "int" then (whole? text.toList).bind wholeDocument?
  else if tag = standardTag "float" then (double? text.toList).map .float
  else if tag = standardTag "null" then if isNullWord text then some .null else none
  else if isMarkedTag tag then untaggedDocument? plain text
  else some (.string text)

/-- What a scalar says. -/
def scalarDocument? (tag : Option TagText) (plain : Bool) (text : String) : Option Document :=
  match tag with
  | some t => if isLocalTag tag then none else taggedDocument? t plain text
  | none => untaggedDocument? plain text

/-! ## 3. Documents -/

/-- What is needed to follow aliases: the nodes that they stand for. -/
abbrev Targets := List (Nat × Node Nat)

/-- A decoder of nodes: it takes and gives back how many more aliases may be followed. -/
abbrev Decoder := Nat → Node Nat → Option (Document × Nat)

/-- Decodes the items of a sequence. -/
def decodeItems (decode : Decoder) (budget : Nat) :
    List (Node Nat) → Option (List Document × Nat)
  | [] => some ([], budget)
  | n :: rest => do
    let (d, budget) ← decode budget n
    let (ds, budget) ← decodeItems decode budget rest
    return (d :: ds, budget)

/-- The text of a key, which has to be a string. -/
def stringKey? : Document → Option String
  | .string key => some key
  | _ => none

/-- Decodes the entries of a mapping. -/
def decodeEntries (decode : Decoder) (budget : Nat) :
    List (Node Nat × Node Nat) → Option (List (String × Document) × Nat)
  | [] => some ([], budget)
  | (k, v) :: rest => do
    let (key, budget) ← decode budget k
    let key ← stringKey? key
    let (d, budget) ← decode budget v
    let (ds, budget) ← decodeEntries decode budget rest
    return ((key, d) :: ds, budget)

/-- Decodes a node that is not an alias, given a decoder for its parts if it may have any. -/
def decodeContent (decode : Option Decoder) (budget : Nat) : Node Nat → Option (Document × Nat)
  | .scalar _ tag plain text => (scalarDocument? tag plain text).map (·, budget)
  | .sequence _ tag items =>
    match decode with
    | some decode =>
      if isLocalTag tag then none
      else (decodeItems decode budget items).map fun (ds, b) => (.sequence ds, b)
    | none => none
  | .mapping _ tag entries =>
    match decode with
    | some decode =>
      if isLocalTag tag then none
      else (decodeEntries decode budget entries).map fun (ds, b) => (.mapping ds, b)
    | none => none
  | .alias _ => none

/-- Decodes a node or what it stands for, given a decoder for the parts. -/
def decodeWith (targets : Targets) (decode : Option Decoder) : Decoder
  | budget, .alias n =>
    match budget, targets.lookup n with
    | budget + 1, some target => decodeContent decode budget target
    | _, _ => none
  | budget, n => decodeContent decode budget n

/-- Decodes a node, with `nesting` levels of collections left over. -/
def decode (targets : Targets) : Nat → Decoder
  | 0 => decodeWith targets none
  | nesting + 1 => decodeWith targets (some (decode targets nesting))

/-- How many aliases may be followed for each unit of weight of a document. -/
def aliasesPerWeight : Nat := 100

/-- The document of a tree of nodes. -/
def ofNode? (root : Node String) : Option Document := do
  let (_, root) ← root.number? []
  let (d, _) ← decode (Node.definitions root.all) Node.maxNesting
    (aliasesPerWeight * root.totalWeight) root
  return d

/-- Reads a text that is one YAML document. -/
def read? (text : String) : Option Document := do
  let source ← Source.ofString? text
  let tokens ← Token.ofSource? source
  let root ← Node.ofTokens? tokens
  ofNode? root

end TemplatedConfig.Yaml
