/-
# Loading configurations

A document is written in YAML or in JSON, which the name of its file tells.

A directory is loaded by reading the files in it that have one of the wanted extensions, in
ascending order of their paths, and merging what they declare.  The search for files is a
pattern for each extension, so an extension may hold wildcards; a file that several of them
match is loaded once.
-/
import TemplatedConfig.Config.Extraction
import TemplatedConfig.Files.Glob
import TemplatedConfig.Json.Reader
import TemplatedConfig.Yaml.Reader

namespace TemplatedConfig

/-! ## 1. Documents -/

/-- The syntax of a document. -/
inductive Format where
  | yaml | json
  deriving DecidableEq

namespace Format

/-- Files with the extension `json`, in any case of its letters, are JSON; all others are
YAML. -/
def ofPath (path : String) : Format :=
  match Files.PathName.extension? path with
  | some ext => if ext.map Char.toLower = "json" then json else yaml
  | none => yaml

/-- Reads a text. -/
def read? : Format → String → Option Document
  | yaml, text => Yaml.read? text
  | json, text => Json.read? text

end Format

namespace Config

/-- What is loaded, and how it is checked. -/
structure LoadOptions where
  /-- The extensions of the files to load from a directory, without the point. -/
  extensions : List String := ["yaml", "yml", "json"]
  /-- Files with more bytes are refused. -/
  sizeLimit : Nat := 8 * 1024 * 1024
  /-- What declared names have to match. -/
  grammar : Name.Grammar := Name.Grammar.standard

/-- The configuration that a text declares, given how the text is read; `label` stands for the
text in faults. -/
def parseWith (read? : String → Option Document) (text label : String) (grammar : Name.Grammar) :
    Except Fault Config :=
  match read? text with
  | some d => ofDocument { label, grammar } d
  | none => .error ((Fault.of .undecodable).inDocument label)

/-- The configuration that a text of a format declares. -/
def parse (text : String) (format : Format) (label : String) (grammar : Name.Grammar) :
    Except Fault Config :=
  parseWith format.read? text label grammar

/-! ## 2. One file -/

/-- The text of the first bytes of a file, if the file has no more bytes than allowed.  The
bytes are looked at as text first, one more than allowed included, so a character that is cut
off there makes the file no text. -/
def boundedText (limit : Nat) (bytes : ByteArray) : Except Files.Problem String :=
  match String.fromUTF8? bytes with
  | none => .error .notText
  | some text => if limit < bytes.size then .error (.tooLarge limit) else .ok text

/-- How many bytes are asked for: one more than allowed shows that a file is too large.  Numbers
of bytes have 64 bits, and the largest of them is as far as a file can go. -/
def bytesToRead (limit : Nat) : Nat := min (limit + 1) (Nat.pow 2 64 - 1)

variable {m : Type → Type} [Monad m] (fs : Files.FileSystem m) (options : LoadOptions)

/-- Reads a file that is not too large. -/
def readText (path : String) (limit : Nat) : ExceptT Fault m String :=
  Files.located path do
    let bytes ← fs.read path (bytesToRead limit)
    return bytes.bind (boundedText limit)

/-- Loads one file. -/
def loadFile (path : String) : ExceptT Fault m Config := do
  let text ← readText fs path options.sizeLimit
  let c ← ExceptT.mk (pure (parse text (Format.ofPath path) path options.grammar))
  return { c with sources := c.sources ++ [path] }

/-! ## 3. Directories -/

/-- The pattern of the files with an extension directly inside a directory. -/
def filePattern (directory ext : String) : String :=
  Files.Glob.escape directory ++ "/*." ++ ext

/-- Every path once, in ascending order. -/
def sortPaths (paths : List String) : List String :=
  dropRepeats (paths.mergeSort Files.PathName.le)
where
  /-- Leaves out paths that are the same as the one before. -/
  dropRepeats : List String → List String
    | a :: b :: rest =>
      if Files.PathName.same a b then dropRepeats (a :: rest) else a :: dropRepeats (b :: rest)
    | paths => paths
  termination_by paths => paths.length

/-- The files among the paths that a pattern matches. -/
def filesMatching (expand : String → ExceptT Fault m (List String)) (pattern : String) :
    ExceptT Fault m (List String) := do
  let paths ← expand pattern
  let kinds ← paths.mapM fun path => (fs.isKind .file path : m Bool)
  return (paths.zip kinds).filterMap fun (path, isFile) => if isFile then some path else none

/-- The files of a directory that have one of the extensions. -/
def filesIn (expand : String → ExceptT Fault m (List String)) (extensions : List String)
    (directory : String) : ExceptT Fault m (List String) := do
  let found ← extensions.mapM fun ext => filesMatching fs expand (filePattern directory ext)
  return sortPaths found.flatten

/-- Refuses what is no directory. -/
def requireDirectory (directory : String) : ExceptT Fault m Unit := do
  let kind ← Files.located directory (fs.kindOf directory)
  if kind ≠ .directory then throw (Fault.ofFile directory .directoryExpected)

/-- Loads files one after another onto a configuration. -/
def loadOnto (c : Config) (paths : List String) : ExceptT Fault m Config :=
  paths.foldlM (fun c path => do
    let next ← loadFile fs options path
    ExceptT.mk (pure (c.merge next))) c

/-- Loads the files of a directory, of which there has to be one, given what patterns lead to.  The
working directory is needed to say where the directory lies. -/
def loadFrom (expand : String → ExceptT Fault m (List String))
    (workingDirectory directory : String) : ExceptT Fault m Config := do
  requireDirectory fs directory
  match ← filesIn fs expand options.extensions directory with
  | [] => throw (Fault.of (.noConfigs directory))
  | path :: rest =>
    let first ← loadFile fs options path
    let c ← loadOnto fs options first rest
    return { c with directory := some (Files.PathName.absolute workingDirectory directory) }

/-- Loads the files of a directory that patterns lead to on the file system. -/
def loadDirectory (workingDirectory directory : String) : ExceptT Fault m Config :=
  loadFrom fs options (Files.Glob.expand fs) workingDirectory directory

end Config

end TemplatedConfig
