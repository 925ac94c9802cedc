/-
# What loads, validates

A configuration is loaded by parsing documents and merging what they declare.  Each document
declares something valid (`Config.valid_of_ofDocument`), and merging keeps it so
(`Config.Valid.merge`), so validation finds nothing to do on what was loaded.

Loading a directory does the same among effects: what it gives is assembled from what texts declare
(`Config.Assembled`).  `Yields P action` says of an action in any monad that all its results have
the property `P`; it goes along with `do` (`Yields.bind`), and a program that runs the action may
rely on the property (`Yields.map_run_congr`).  So `check` reports on a directory whether it can be
loaded, and nothing else.

Main statement: `what_loads_validates`.
-/
import TemplatedConfig.Proofs.Config.Enumeration
import TemplatedConfig.Cli.Run

namespace TemplatedConfig

/-! ## 1. Results among effects -/

variable {m : Type → Type} [Monad m] {α β : Type}

/-- Every result of the action has the property: the action gives its results together with proofs
of it. -/
def Yields (P : α → Prop) (action : ExceptT Fault m α) : Prop :=
  ∃ checked : ExceptT Fault m { a // P a }, action = Subtype.val <$> checked

section

variable [LawfulMonad m] {P : α → Prop} {Q : β → Prop}

theorem yields_pure {a : α} (h : P a) : Yields (m := m) P (pure a) :=
  ⟨pure ⟨a, h⟩, by rw [map_pure]⟩

theorem yields_throw (fault : Fault) : Yields (m := m) P (throw fault) :=
  ⟨throw fault, by apply ExceptT.ext; simp⟩

/-- An action with no effects but its result. -/
theorem yields_result {x : Except Fault α} (h : ∀ a, x = .ok a → P a) :
    Yields (m := m) P (ExceptT.mk (pure x)) := by
  cases x with
  | error fault => exact yields_throw fault
  | ok a => exact yields_pure (h a rfl)

/-- **What follows may rely on what was yielded.** -/
theorem Yields.bind {action : ExceptT Fault m α} {next : α → ExceptT Fault m β}
    (h : Yields P action) (hnext : ∀ a, P a → Yields Q (next a)) :
    Yields Q (action >>= next) := by
  obtain ⟨checked, rfl⟩ := h
  refine ⟨checked >>= fun a => (hnext a.1 a.2).choose, ?_⟩
  rw [bind_map_left, map_bind]
  exact bind_congr fun a => (hnext a.1 a.2).choose_spec

/-- Nothing has to be known of what comes before. -/
theorem yields_bind {action : ExceptT Fault m α} {next : α → ExceptT Fault m β}
    (hnext : ∀ a, Yields Q (next a)) : Yields Q (action >>= next) := by
  have hany : Yields (fun _ => True) action := ⟨(fun a => ⟨a, trivial⟩) <$> action, by simp⟩
  exact hany.bind fun a _ => hnext a

/-- **What every step yields again, a fold yields.** -/
theorem yields_foldlM {step : β → α → ExceptT Fault m β} (hstep : ∀ b a, Q b → Yields Q (step b a))
    (l : List α) {b : β} (hb : Q b) : Yields Q (l.foldlM step b) := by
  induction l generalizing b with
  | nil => exact yields_pure hb
  | cons a rest ih =>
    rw [List.foldlM_cons]
    exact (hstep b a hb).bind fun _ hnext => ih hnext

/-- **Who runs the action may rely on what it yields.** -/
theorem Yields.map_run_congr {action : ExceptT Fault m α} (h : Yields P action)
    {f g : Except Fault α → β} (hok : ∀ a, P a → f (.ok a) = g (.ok a))
    (herror : ∀ fault, f (.error fault) = g (.error fault)) :
    f <$> action.run = g <$> action.run := by
  obtain ⟨checked, rfl⟩ := h
  rw [ExceptT.run_map, Functor.map_map, Functor.map_map]
  refine congrArg (· <$> checked.run) (funext fun result => ?_)
  cases result with
  | error fault => exact herror fault
  | ok a => exact hok a.1 a.2

end

/-! ## 2. Directories -/

namespace Config

/-- A configuration as loading makes it: a text declares it, in whatever way texts are read, it is
merged from two others, or what is noted of where it comes from is another. -/
inductive Assembled (g : Name.Grammar) : Config → Prop
  | parsed {read? : String → Option Document} {text label : String} {c : Config} :
    parseWith read? text label g = .ok c → Assembled g c
  | merged {c other both : Config} :
    Assembled g c → Assembled g other → c.merge other = .ok both → Assembled g both
  | placed {c : Config} (directory : Option String) (sources : List String) :
    Assembled g c → Assembled g { c with directory, sources }

/-- What is assembled is valid. -/
theorem Assembled.valid {g : Name.Grammar} {c : Config} (h : c.Assembled g) : c.Valid g := by
  induction h with
  | parsed hparse => exact valid_of_parseWith hparse
  | merged _ _ hmerge hc hother => exact hc.merge hother hmerge
  | placed _ _ _ hc => exact hc.of_declarations rfl rfl rfl

variable [LawfulMonad m] (fs : Files.FileSystem m) (options : LoadOptions)

/-- A file that is loaded is assembled. -/
theorem yields_loadFile (path : String) :
    Yields (Assembled options.grammar) (loadFile fs options path) :=
  yields_bind fun _ =>
    (yields_result fun _ => Assembled.parsed).bind fun c hc =>
      yields_pure (hc.placed c.directory (c.sources ++ [path]))

/-- Files that are loaded one after another are assembled. -/
theorem yields_loadOnto {c : Config} (hc : c.Assembled options.grammar) (paths : List String) :
    Yields (Assembled options.grammar) (loadOnto fs options c paths) :=
  yields_foldlM (fun _ path hb =>
    (yields_loadFile fs options path).bind fun _ hnext =>
      yields_result fun _ => hb.merged hnext) paths hc

/-- **A directory that is loaded is assembled** from what its files declare, whatever patterns
lead to. -/
theorem yields_loadFrom (expand : String → ExceptT Fault m (List String))
    (workingDirectory directory : String) :
    Yields (Assembled options.grammar)
      (loadFrom fs options expand workingDirectory directory) := by
  refine yields_bind fun _ => yields_bind fun paths => ?_
  cases paths with
  | nil => exact yields_throw _
  | cons path rest =>
    exact (yields_loadFile fs options path).bind fun first hfirst =>
      (yields_loadOnto fs options hfirst rest).bind fun c hc =>
        yields_pure (hc.placed _ c.sources)

end Config

/-! ## 3. Loading and checking -/

/-- A document as it is handed over: its text, how the text is read and what faults call it. -/
structure NamedText where
  text : String
  read? : String → Option Document
  label : String

/-- The configuration that a document declares. -/
def NamedText.parse (g : Name.Grammar) (t : NamedText) : Except Fault Config :=
  Config.parseWith t.read? t.text t.label g

/-- The configurations that documents declare, merged, are valid. -/
theorem valid_of_foldlM_merge {g : Name.Grammar} {texts : List NamedText} {first c : Config}
    {rest : List Config} (hparse : texts.mapM (NamedText.parse g) = .ok (first :: rest))
    (hmerge : rest.foldlM Config.merge first = .ok c) : c.Valid g := by
  have hvalid : ∀ c ∈ first :: rest, c.Valid g := by
    intro c hc
    obtain ⟨t, -, ht⟩ := (mem_of_mapM_eq_ok hparse).2 c hc
    exact Config.valid_of_parseWith ht
  obtain ⟨hfirst, hrest⟩ := List.forall_mem_cons.mp hvalid
  exact foldlM_preserves (fun next hnext _ _ hb hstep => hb.merge (hrest next hnext) hstep)
    hfirst hmerge

namespace Cli

/-- What `check` reports if it depends on loading alone. -/
def loadReport (directory : String) : Except Fault Config → Report
  | .ok c =>
    { output := linesText ["✓ " ++ directory ++ " is valid", summary c]
      errors := linesText (ignoredKeyWarnings c) }
  | .error fault => loadFailed directory fault

/-- A valid configuration passes the check. -/
theorem checkReport_of_valid {directory : String} {c : Config}
    (h : c.Valid Name.Grammar.standard) :
    checkReport directory c = loadReport directory (.ok c) := by
  rw [checkReport, Config.validate_eq_self_iff.mpr h]
  rfl

/-- **`check` reports on loading alone**, on every file system. -/
theorem run_check [LawfulMonad m] (fs : Files.FileSystem m) (workingDirectory directory : String) :
    (Command.check directory).run fs workingDirectory
      = loadReport directory <$> (Config.loadDirectory fs {} workingDirectory directory).run := by
  have hrun : (Command.check directory).run fs workingDirectory
      = (fun result => match result with
          | .ok c => checkReport directory c
          | .error fault => loadFailed directory fault)
        <$> (Config.loadDirectory fs {} workingDirectory directory).run := by
    rw [← bind_pure_comp]
    refine bind_congr fun result => ?_
    cases result <;> rfl
  rw [hrun]
  exact (Config.yields_loadFrom fs {} _ workingDirectory directory).map_run_congr
    (fun c hc => checkReport_of_valid hc.valid) fun _ => rfl

end Cli

/-- **What loads, validates.**  Texts that are accepted with a grammar, in whatever way they are
read, and can be merged, one onto another, make up a configuration in which validation with that
grammar finds no fault and changes nothing.  So a directory that can be loaded passes `check`. -/
theorem what_loads_validates :
    (∀ (g : Name.Grammar) (texts : List NamedText) (first : Config) (rest : List Config)
      (c : Config), texts.mapM (NamedText.parse g) = .ok (first :: rest) →
        rest.foldlM Config.merge first = .ok c → c.validate g = (c, none))
    ∧ ∀ {m : Type → Type} [Monad m] [LawfulMonad m] (fs : Files.FileSystem m)
      (workingDirectory directory : String),
      (Cli.Command.check directory).run fs workingDirectory
        = Cli.loadReport directory
          <$> (Config.loadDirectory fs {} workingDirectory directory).run :=
  ⟨fun _ _ _ _ _ hparse hmerge =>
      Config.validate_eq_self_iff.mpr (valid_of_foldlM_merge hparse hmerge),
    fun fs workingDirectory directory => Cli.run_check fs workingDirectory directory⟩

namespace Example

/-- A document that declares a variable, on by default. -/
def switchedOn : NamedText where
  text := "\x7b\"variable\":\x7b\"debug\":\x7b\"default\":true\x7d\x7d\x7d"
  read? := Format.json.read?
  label := "cfg/a.json"

/-- A document that declares it again, off by default. -/
def switchedOff : NamedText where
  text := "\x7b\"variable\":\x7b\"debug\":\x7b\"default\":false\x7d\x7d\x7d"
  read? := Format.json.read?
  label := "cfg/b.json"

/-- The variable alone, with its default as the string that it counts as. -/
def switch (default : String) : Config where
  inputs := [{ name := "debug", default := some (.string default) }]

/-- A file system in which no path leads anywhere. -/
def nowhere : Files.FileSystem Id where
  kindOf _ := .error .notFound
  children _ := .error .notFound
  read _ _ := .error .notFound

theorem parse_switchedOn : switchedOn.parse Name.Grammar.standard = .ok (switch "1") := by
  refine Config.parseWith_eq_ok_iff.mpr ⟨?document, ?read, ?kept⟩
  case read => cbv; rfl
  case kept => with_unfolding_all rfl

theorem parse_switchedOff : switchedOff.parse Name.Grammar.standard = .ok (switch "0") := by
  refine Config.parseWith_eq_ok_iff.mpr ⟨?document, ?read, ?kept⟩
  case read => cbv; rfl
  case kept => with_unfolding_all rfl

/-- A directory with a file that holds the first document. -/
def oneFile : Files.Tree :=
  .directory [("cfg", .directory [("a.json", .file switchedOn.text.toUTF8)])]

theorem resolve_oneFile :
    oneFile.resolve "cfg" = .ok (.directory [("a.json", .file switchedOn.text.toUTF8)])
      ∧ oneFile.resolve "cfg/a.json" = .ok (.file switchedOn.text.toUTF8) := by
  simp only [Files.Tree.resolve, Files.PathName.pieces_eq]
  exact ⟨rfl, rfl⟩

/-- What stands for the name of a file with an extension. -/
def anyNameWith (ext : String) : List Files.Glob.Token :=
  .anyRun :: (".".toList ++ ext.toList).map .char

theorem read_filePattern : ∀ ext ∈ ["yaml", "yml", "json"],
    Files.Glob.read? (Config.filePattern "cfg" ext)
      = some (".", [.name ("cfg".toList.map .char), .name (anyNameWith ext)]) := by
  simp only [List.forall_mem_cons, Files.Glob.read?, Files.PathName.pieces_eq]
  refine ⟨?_, ?_, ?_, fun _ h => (List.not_mem_nil h).elim⟩
  all_goals with_unfolding_all rfl

/-- What the pattern of an extension finds. -/
def foundIn (ext : String) : List String := if ext = "json" then ["cfg/a.json"] else []

theorem expand_oneFile : ∀ ext ∈ ["yaml", "yml", "json"],
    Files.Glob.expand oneFile.system (Config.filePattern "cfg" ext)
      = (.ok (foundIn ext) : Except Fault (List String)) := by
  intro ext hext
  have hdirectory : oneFile.system.kindOf "cfg" = .ok .directory :=
    congrArg (Except.map Files.Tree.kind) resolve_oneFile.1
  have hnames : oneFile.system.children "cfg" = .ok ["a.json"] :=
    congrArg (Except.bind · Files.Tree.names) resolve_oneFile.1
  have hextend : Files.PathName.extend "." "cfg" = "cfg"
      ∧ Files.PathName.extend "cfg" "a.json" = "cfg/a.json" := by
    simp only [Files.PathName.extend, Files.PathName.isCurrent, Files.PathName.components,
      Files.PathName.leadingComponents, Files.PathName.pieces_eq]
    decide
  have hchosen : (["a.json"].filter (Files.Glob.Piece.name (anyNameWith ext)).accepts).map
      (Files.PathName.extend "cfg") = foundIn ext := by
    simp only [List.mem_cons, List.not_mem_nil, or_false] at hext
    have haccepts : (Files.Glob.Piece.name (anyNameWith ext)).accepts "a.json"
        = decide (ext = "json") := by
      rcases hext with rfl | rfl | rfl <;> with_unfolding_all rfl
    rw [List.filter_cons, haccepts, foundIn]
    by_cases h : ext = "json" <;> simp [h, hextend.2]
  rw [← hchosen]
  exact Config.expand_eq (read_filePattern ext hext) (by with_unfolding_all rfl)
    ⟨hextend.1, by decide⟩ rfl rfl hdirectory hnames

theorem filesIn_oneFile :
    Config.filesIn oneFile.system (Files.Glob.expand oneFile.system) ["yaml", "yml", "json"] "cfg"
      = (.ok ["cfg/a.json"] : Except Fault (List String)) := by
  have hfile : Config.isFile oneFile.system "cfg/a.json" = true :=
    (Config.isFile_eq (congrArg (Except.map Files.Tree.kind) resolve_oneFile.2)).trans
      (decide_eq_true rfl)
  have hmatched : Config.matchedFiles oneFile.system foundIn ["yaml", "yml", "json"]
      = ["cfg/a.json"] := by
    simp [Config.matchedFiles, foundIn, hfile]
  refine (Config.filesIn_eq expand_oneFile).trans ?_
  rw [hmatched, Config.sortPaths_spellings fun _ h => (List.not_mem_nil h).elim]

/-- The variable with the directory and the file that it was loaded from. -/
def loadedSwitch : Config := { switch "1" with directory := some "/cfg", sources := ["cfg/a.json"] }

theorem loadDirectory_oneFile :
    Config.loadDirectory oneFile.system {} "/" "cfg"
      = (.ok loadedSwitch : Except Fault Config) := by
  have hcomponents : Files.PathName.components "cfg/a.json" = [.name "cfg", .name "a.json"]
      ∧ Files.PathName.absolute "/" "cfg" = "/cfg" := by
    simp only [Files.PathName.absolute, Files.PathName.components,
      Files.PathName.leadingComponents, Files.PathName.pieces_eq]
    decide
  have hformat : Format.ofPath "cfg/a.json" = .json := by
    rw [Format.ofPath, Files.PathName.extension?, Files.PathName.fileName?, hcomponents.1]
    with_unfolding_all rfl
  have hread : Config.readText oneFile.system "cfg/a.json" (8 * 1024 * 1024)
      = (.ok switchedOn.text : Except Fault String) := by
    have hfile := Files.Tree.hasFile (by decide) resolve_oneFile.2
    refine (Config.run_readText hfile _).trans ?_
    rw [Config.boundedText_of_size_le hfile.size_lt (by decide)]
    rfl
  have hload : Config.loadFile oneFile.system {} "cfg/a.json"
      = (.ok { switch "1" with sources := ["cfg/a.json"] } : Except Fault Config) := by
    refine (Config.loadFile_eq hread).trans ?_
    have hparse : Config.parse switchedOn.text (Format.ofPath "cfg/a.json") "cfg/a.json"
        Name.Grammar.standard = .ok (switch "1") := by
      rw [hformat]
      exact parse_switchedOn
    rw [hparse]
    rfl
  rw [loadedSwitch, ← hcomponents.2]
  exact Config.loadFrom_eq_of_filesIn (congrArg (Except.map Files.Tree.kind) resolve_oneFile.1)
    filesIn_oneFile hload

/-- What it counts up to. -/
def counts : String :=
  "  1 files loaded, 1 variables, 0 file blocks, 0 resources in 0 kinds"

theorem summary_loadedSwitch : Cli.summary loadedSwitch = counts := by
  rw [Cli.summary, counts]
  decide

/-- The later declaration wins, and its default is canonical already.  The directory with one of
the documents can be loaded and passes the check.  A directory that is not there cannot be loaded,
which is all that the check has to say. -/
theorem switchedOff_validates :
    [switchedOn, switchedOff].mapM (NamedText.parse Name.Grammar.standard)
        = .ok [switch "1", switch "0"]
      ∧ [switch "0"].foldlM Config.merge (switch "1") = .ok (switch "0")
      ∧ (switch "0").validate Name.Grammar.standard = (switch "0", none)
      ∧ (Cli.Command.check "cfg").run oneFile.system "/"
        = ({ output := "✓ cfg is valid\n" ++ counts ++ "\n" } : Cli.Report)
      ∧ ((Cli.Command.check "cfg").run nowhere "/").code = 2 := by
  have hparse : [switchedOn, switchedOff].mapM (NamedText.parse Name.Grammar.standard)
      = .ok [switch "1", switch "0"] :=
    mapM_eq_ok_iff.mpr (congr (congrArg (fun a b => [a, b]) parse_switchedOn) parse_switchedOff)
  have hmerge : [switch "0"].foldlM Config.merge (switch "1") = .ok (switch "0") := rfl
  refine ⟨hparse, hmerge, what_loads_validates.1 _ _ _ _ _ hparse hmerge, ?_, ?_⟩
  · rw [what_loads_validates.2 oneFile.system "/" "cfg", loadDirectory_oneFile]
    show Cli.loadReport "cfg" (.ok loadedSwitch) = _
    rw [Cli.loadReport, summary_loadedSwitch]
    rfl
  · rw [what_loads_validates.2 nowhere "/" "cfg"]
    rfl

end Example

end TemplatedConfig
