/-
# The files of a directory

The files of a directory are searched with one pattern for each extension, so a file may be found
more than once, in any order, and spelled in more than one way: `d/./x.json` is the path
`d/x.json`.  Sorting puts the same paths next to each other, and then all but the first are left
out.  What remains ascends strictly (`pairwise_sortPaths`), so as a list of paths it is determined
by what was found (`map_components_sortPaths`).

As a list of texts it is not.  Sorting is stable, so of each path the spelling that was found first
remains (`mem_sortPaths_iff`), and the blocks of the file keep it as their source
(`spelling_is_kept`).  Where each path is spelled in one way, the texts are determined as well, and
so is what is loaded.

What patterns lead to is a parameter here (`loadFrom`).  On a file system, a pattern for the files
of a directory leads to the names in it that its last piece accepts (`expand_eq`).

Main statement: `listing_is_independent`.
-/
import Mathlib.Data.List.Sort
import TemplatedConfig.Proofs.Files.PathName
import TemplatedConfig.Proofs.Config.Extraction
import TemplatedConfig.Proofs.Config.SizeLimit
import TemplatedConfig.Files.Tree
import TemplatedConfig.Proofs.Results
import TemplatedConfig.Proofs.Traversal.Order

namespace TemplatedConfig.Config

open Files.PathName (Component components le le_iff le_or_le le_transitive same_iff)

variable {paths paths' : List String}

/-! ## 1. Sorting -/

/-- Leaving out repeats adds nothing. -/
theorem dropRepeats_sublist (paths : List String) :
    (sortPaths.dropRepeats paths).Sublist paths := by
  fun_induction sortPaths.dropRepeats paths with
  | case1 a b rest hsame ih => exact ih.trans ((List.sublist_cons_self b rest).cons_cons a)
  | case2 a b rest hsame ih => exact ih.cons_cons a
  | case3 paths => exact List.Sublist.refl paths

/-- **An ascending list without repeats ascends strictly.** -/
theorem pairwise_dropRepeats (h : paths.Pairwise fun a b => le a b = true) :
    (sortPaths.dropRepeats paths).Pairwise fun a b => components a < components b := by
  fun_induction sortPaths.dropRepeats paths with
  | case1 a b rest hsame ih => exact ih (h.sublist ((List.sublist_cons_self b rest).cons_cons a))
  | case2 a b rest hsame ih =>
    obtain ⟨ha, hrest⟩ := List.pairwise_cons.mp h
    refine List.pairwise_cons.mpr ⟨fun c hc => ?_, ih hrest⟩
    have hab : components a < components b :=
      lt_of_le_of_ne (le_iff.mp (ha b List.mem_cons_self)) fun heq => hsame (same_iff.mpr heq)
    -- The rest is not below `b`, since it ascends.
    rcases List.mem_cons.mp ((dropRepeats_sublist _).subset hc) with rfl | hc
    · exact hab
    · exact hab.trans_le (le_iff.mp ((List.pairwise_cons.mp hrest).1 c hc))
  | case3 paths hshort =>
    match paths with
    | [] => exact .nil
    | [a] => exact List.pairwise_singleton _ a
    | a :: b :: rest => exact (hshort a b rest rfl).elim

/-- Sorting adds nothing. -/
theorem mem_of_mem_sortPaths {path : String} (h : path ∈ sortPaths paths) : path ∈ paths :=
  List.mem_mergeSort.mp ((dropRepeats_sublist _).subset h)

/-- **Sorted paths ascend strictly.** -/
theorem pairwise_sortPaths (paths : List String) :
    (sortPaths paths).Pairwise fun a b => components a < components b :=
  pairwise_dropRepeats (List.pairwise_mergeSort le_transitive le_or_le paths)

/-- No path remains twice. -/
theorem nodup_components_sortPaths (paths : List String) :
    ((sortPaths paths).map components).Nodup :=
  List.pairwise_map.mpr ((pairwise_sortPaths paths).imp LT.lt.ne)

/-! ## 2. Spellings -/

/-- The first of the paths that has these steps. -/
def spelling? (paths : List String) (steps : List Component) : Option String :=
  paths.find? fun path => components path = steps

theorem spelling?_cons (path : String) (rest : List String) (steps : List Component) :
    spelling? (path :: rest) steps
      = if components path = steps then some path else spelling? rest steps := by
  by_cases h : components path = steps
  · simp [spelling?, h]
  · simp [spelling?, h]

theorem of_spelling?_eq_some {steps : List Component} {path : String}
    (h : spelling? paths steps = some path) : path ∈ paths ∧ components path = steps :=
  ⟨List.mem_of_find?_eq_some h, of_decide_eq_true (List.find?_some h :)⟩

/-- Each path has a first spelling. -/
theorem exists_spelling? {path : String} (h : path ∈ paths) :
    ∃ first, spelling? paths (components path) = some first :=
  Option.isSome_iff_exists.mp (List.find?_isSome.mpr ⟨path, h, decide_eq_true rfl⟩)

/-- What is left out is spelled by the path before it. -/
theorem spelling?_dropRepeats (paths : List String) (steps : List Component) :
    spelling? (sortPaths.dropRepeats paths) steps = spelling? paths steps := by
  fun_induction sortPaths.dropRepeats paths with
  | case1 a b rest hsame ih =>
    rw [ih, spelling?_cons, spelling?_cons, spelling?_cons, same_iff.mp hsame]
    split <;> rfl
  | case2 a b rest hsame ih => rw [spelling?_cons, ih, spelling?_cons a]
  | case3 paths => rfl

/-- **Sorting is stable**, so the spellings of one path keep their order. -/
theorem spelling?_mergeSort (paths : List String) (steps : List Component) :
    spelling? (paths.mergeSort le) steps = spelling? paths steps := by
  let spelled (path : String) : Bool := components path = steps
  have hordered : (paths.filter spelled).Pairwise fun a b => le a b = true := by
    refine List.pairwise_of_forall_mem_list ?_
    intro a ha b hb
    rw [le_iff, of_decide_eq_true (List.mem_filter.mp ha).2,
      of_decide_eq_true (List.mem_filter.mp hb).2]
  have hsublist := (List.sublist_mergeSort le_transitive le_or_le hordered
    List.filter_sublist).filter spelled
  rw [List.filter_filter] at hsublist
  simp only [Bool.and_self] at hsublist
  -- No spelling is lost or added, so the sublist is the whole.
  have hsame : paths.filter spelled = (paths.mergeSort le).filter spelled :=
    hsublist.eq_of_length ((List.mergeSort_perm paths le).filter spelled).length_eq.symm
  rw [spelling?, spelling?, ← List.head?_filter, ← List.head?_filter, hsame]

/-- **Of every path the spelling that was found first remains.** -/
theorem spelling?_sortPaths (paths : List String) (steps : List Component) :
    spelling? (sortPaths paths) steps = spelling? paths steps :=
  (spelling?_dropRepeats _ steps).trans (spelling?_mergeSort paths steps)

/-- Each path remains, in some spelling. -/
theorem exists_mem_sortPaths {path : String} (h : path ∈ paths) :
    ∃ kept ∈ sortPaths paths, components kept = components path := by
  obtain ⟨kept, hkept⟩ := exists_spelling? h
  rw [← spelling?_sortPaths] at hkept
  exact ⟨kept, of_spelling?_eq_some hkept⟩

/-- **First spellings are what remains**, and nothing else. -/
theorem mem_sortPaths_iff {path : String} :
    path ∈ sortPaths paths ↔ spelling? paths (components path) = some path := by
  rw [← spelling?_sortPaths]
  refine ⟨fun hpath => ?_, fun hfirst => (of_spelling?_eq_some hfirst).1⟩
  obtain ⟨first, hfirst⟩ := exists_spelling? hpath
  obtain ⟨hmem, hsame⟩ := of_spelling?_eq_some hfirst
  rwa [List.inj_on_of_nodup_map (nodup_components_sortPaths paths) hmem hpath hsame] at hfirst

/-- **What is sorted decides which paths there are**, step by step. -/
theorem map_components_sortPaths (h : ∀ path, path ∈ paths ↔ path ∈ paths') :
    (sortPaths paths).map components = (sortPaths paths').map components := by
  have hsub : ∀ {paths paths' : List String}, (∀ path, path ∈ paths → path ∈ paths') →
      ∀ steps ∈ (sortPaths paths).map components, steps ∈ (sortPaths paths').map components := by
    intro paths paths' hmem steps hsteps
    obtain ⟨path, hpath, rfl⟩ := List.mem_map.mp hsteps
    obtain ⟨kept, hkept, hsame⟩ := exists_mem_sortPaths (hmem _ (mem_of_mem_sortPaths hpath))
    exact hsame ▸ List.mem_map_of_mem hkept
  exact List.Pairwise.eq_of_mem_iff (List.pairwise_map.mpr (pairwise_sortPaths paths))
    (List.pairwise_map.mpr (pairwise_sortPaths paths')) fun steps =>
      ⟨hsub (fun path => (h path).mp) steps, hsub (fun path => (h path).mpr) steps⟩

/-- **First spellings decide the texts** that remain. -/
theorem sortPaths_congr (h : ∀ steps, spelling? paths steps = spelling? paths' steps) :
    sortPaths paths = sortPaths paths' := by
  have hnodup : ∀ paths, (sortPaths paths).Nodup := fun paths =>
    (nodup_components_sortPaths paths).of_map components
  refine List.Perm.eq_of_pairwise (fun a b _ _ hab hba => (hab.trans hba).false.elim)
    (pairwise_sortPaths paths) (pairwise_sortPaths paths')
    ((List.perm_ext_iff_of_nodup (hnodup paths) (hnodup paths')).mpr fun path => ?_)
  rw [mem_sortPaths_iff, mem_sortPaths_iff, h]

/-- If no path is spelled in two ways, it does not matter what is found first. -/
theorem sortPaths_eq (h : ∀ path, path ∈ paths ↔ path ∈ paths')
    (hspelling : ∀ a ∈ paths, ∀ b ∈ paths, components a = components b → a = b) :
    sortPaths paths = sortPaths paths' := by
  refine sortPaths_congr fun steps => Option.ext fun path => ?_
  have honly : ∀ {paths : List String},
      (∀ a ∈ paths, ∀ b ∈ paths, components a = components b → a = b) →
        (spelling? paths steps = some path ↔ path ∈ paths ∧ components path = steps) := by
    intro paths hspelling
    refine ⟨of_spelling?_eq_some, ?_⟩
    rintro ⟨hpath, rfl⟩
    obtain ⟨first, hfirst⟩ := exists_spelling? hpath
    obtain ⟨hmem, hsame⟩ := of_spelling?_eq_some hfirst
    rwa [hspelling first hmem path hpath hsame] at hfirst
  rw [honly hspelling, h, honly fun a ha b hb => hspelling a ((h a).mpr ha) b ((h b).mpr hb)]

/-- Of the spellings of one path, the first remains. -/
theorem sortPaths_spellings {first : String} {others : List String}
    (h : ∀ other ∈ others, components other = components first) :
    sortPaths (first :: others) = [first] := by
  have hone : sortPaths [first] = [first] := by
    rw [sortPaths, List.mergeSort_singleton, sortPaths.dropRepeats]
    rintro a b rest ⟨⟩
  rw [← hone]
  refine sortPaths_congr fun steps => ?_
  rw [spelling?_cons, spelling?_cons]
  split
  · rfl
  · rename_i hother
    refine List.find?_eq_none.mpr fun other hmem hsteps => hother ?_
    rw [← h other hmem, of_decide_eq_true hsteps]

/-! ## 3. Patterns -/

open Files (FileSystem)

section

open Files Files.Glob

variable {fs : FileSystem Id} {directory : String} {names : List String} {tokens : List Token}

theorem ok_bind {α β : Type} (a : α) (f : α → ExceptT Fault Id β) :
    bind (m := ExceptT Fault Id) (Except.ok a : Except Fault α) f = f a := rfl

/-- A last piece finds a path if it accepts its last name. -/
theorem atName_eq (fuel : Nat) (path name : String) :
    atName fs (fuel + 2) [.name tokens] path name
      = (.ok (if (Piece.name tokens).accepts name then [path] else [])
        : Except Fault (List String)) := by
  rw [atName]
  · cases (Piece.name tokens).accepts name <;> rfl
  · exact fun h => nomatch h

/-- What is chosen one by one, put in a row. -/
theorem flatten_map_chosen (p : String → Bool) (f : String → String) (names : List String) :
    (names.map fun name => if p name then [f name] else []).flatten = (names.filter p).map f := by
  induction names with
  | nil => rfl
  | cons name rest ih =>
    rw [List.map_cons, List.flatten_cons, ih, List.filter_cons]
    split <;> rfl

/-- A last piece for several names finds the names in a directory that it accepts. -/
theorem below_eq (hliteral : (Piece.name tokens).literal? = none)
    (hpoint : (Piece.name tokens).startsWithPoint = false)
    (hkind : fs.kindOf directory = .ok .directory) (hnames : fs.children directory = .ok names)
    (fuel : Nat) :
    below fs (fuel + 3) [.name tokens] directory
      = (.ok ((names.filter (Piece.name tokens).accepts).map (PathName.extend directory))
        : Except Fault (List String)) := by
  have hdirectory : (fs.isKind .directory directory : Id Bool) = true := by
    rw [FileSystem.isKind, hkind]
    rfl
  have hchildren : located directory (fs.children directory)
      = (.ok names : Except Fault (List String)) := by
    rw [hnames]
    rfl
  have hfound : names.mapM (m := ExceptT Fault Id) (fun name =>
      atName fs (fuel + 2) [.name tokens] (PathName.extend directory name) name)
      = (.ok (names.map fun name => if (Piece.name tokens).accepts name
          then [PathName.extend directory name] else [])
        : Except Fault (List (List String))) := by
    rw [Traversal.mapM_pure, mapM_eq_ok_iff, List.map_map]
    exact List.map_congr_left fun name _ => atName_eq fuel _ name
  rw [below, hliteral]
  refine (if_pos hdirectory).trans ?_
  rw [hchildren, ok_bind, hfound, ok_bind, hpoint, flatten_map_chosen]
  exact congrArg Except.ok (List.append_nil _)

/-- **A pattern for the files of a directory** finds the names in it that its last piece accepts. -/
theorem expand_eq {pattern : String} {first : Piece}
    (hread : read? pattern = some (".", [first, .name tokens]))
    (hfirst : first.literal? = some directory)
    (hname : PathName.extend "." directory = directory ∧ ¬ (directory = "." ∨ directory = ".."))
    (hliteral : (Piece.name tokens).literal? = none)
    (hpoint : (Piece.name tokens).startsWithPoint = false)
    (hkind : fs.kindOf directory = .ok .directory) (hnames : fs.children directory = .ok names) :
    expand fs pattern
      = (.ok ((names.filter (Piece.name tokens).accepts).map (PathName.extend directory))
        : Except Fault (List String)) := by
  have hreaches : (reaches fs "." directory : Id Bool) = true := by
    rw [reaches, if_neg hname.2, hname.1, FileSystem.leadsAnywhere, hkind]
    rfl
  rw [expand, hread]
  show below fs (4092 + 4) _ _ = _
  rw [below, hfirst]
  refine (if_pos hreaches).trans ?_
  rw [hname.1]
  exact below_eq hliteral hpoint hkind hnames 4092

end

/-! ## 4. Searching -/

variable {fs : FileSystem Id} {expand expand' : String → ExceptT Fault Id (List String)}

/-- Whether a path leads to a regular file. -/
def isFile (fs : FileSystem Id) (path : String) : Bool := (fs.isKind .file path).run

theorem isFile_eq {path : String} {kind : Files.EntryKind} (h : fs.kindOf path = .ok kind) :
    isFile fs path = decide (kind = .file) := by
  rw [isFile, FileSystem.isKind, h]
  rfl

/-- Paths that are listed with an answer are chosen by the answer. -/
theorem filterMap_zip_map (p : String → Bool) (paths : List String) :
    (paths.zip (paths.map p)).filterMap (fun found => if found.2 then some found.1 else none)
      = paths.filter p := by
  induction paths with
  | nil => rfl
  | cons path rest ih =>
    rw [List.map_cons, List.zip_cons_cons, List.filterMap_cons, List.filter_cons, ih]
    cases p path <;> rfl

/-- The files among the paths that a pattern leads to. -/
theorem filesMatching_eq {pattern : String} (h : expand pattern = .ok paths) :
    filesMatching fs expand pattern
      = (Except.ok (paths.filter (isFile fs)) : Except Fault (List String)) := by
  have hkinds : paths.mapM (fun path => (fs.isKind .file path : ExceptT Fault Id Bool))
      = (Except.ok (paths.map (isFile fs)) : Except Fault (List Bool)) := by
    rw [Traversal.mapM_pure, mapM_eq_ok_iff, List.map_map]
    rfl
  calc filesMatching fs expand pattern
    _ = (paths.mapM (fun path => (fs.isKind .file path : ExceptT Fault Id Bool)) >>= fun kinds =>
          pure ((paths.zip kinds).filterMap fun found => if found.2 then some found.1 else none)
        : ExceptT Fault Id (List String)) := by
        rw [filesMatching, h]
        rfl
    _ = (Except.ok _ : Except Fault (List String)) := by
        rw [hkinds]
        rfl
    _ = _ := by rw [filterMap_zip_map]

/-- The files that the patterns of the extensions lead to. -/
def matchedFiles (fs : FileSystem Id) (found : String → List String) (extensions : List String) :
    List String :=
  extensions.flatMap fun ext => (found ext).filter (isFile fs)

/-- **The files of a directory** are those that the patterns lead to, sorted. -/
theorem filesIn_eq {directory : String} {extensions : List String} {found : String → List String}
    (h : ∀ ext ∈ extensions, expand (filePattern directory ext) = .ok (found ext)) :
    filesIn fs expand extensions directory
      = (Except.ok (sortPaths (matchedFiles fs found extensions))
        : Except Fault (List String)) := by
  have hfound : extensions.mapM (m := Except Fault)
      (fun ext => filesMatching (m := Id) fs expand (filePattern directory ext))
      = .ok (extensions.map fun ext => (found ext).filter (isFile fs)) := by
    rw [mapM_eq_ok_iff, List.map_map]
    exact List.map_congr_left fun ext hext => filesMatching_eq (h ext hext)
  rw [filesIn, Traversal.mapM_pure, hfound, matchedFiles, List.flatMap]
  rfl

/-! ## 5. Loading -/

/-- **What is loaded depends on the extensions through the files that they lead to.** -/
theorem loadFrom_congr {extensions extensions' : List String} {directory : String}
    (h : filesIn fs expand extensions directory = filesIn fs expand' extensions' directory)
    (options : LoadOptions) (workingDirectory : String) :
    loadFrom fs { options with extensions } expand workingDirectory directory
      = loadFrom fs { options with extensions := extensions' } expand' workingDirectory
        directory := by
  rw [loadFrom, loadFrom, h]
  rfl

/-- A file is loaded from its text. -/
theorem loadFile_eq {options : LoadOptions} {path text : String}
    (h : readText fs path options.sizeLimit = (.ok text : Except Fault String)) :
    loadFile fs options path
      = (parse text (Format.ofPath path) path options.grammar).map fun c =>
          { c with sources := c.sources ++ [path] } := by
  rw [loadFile, h]
  show (ExceptT.mk (m := Id) (pure (parse text (Format.ofPath path) path options.grammar))
    >>= fun c => pure { c with sources := c.sources ++ [path] }) = _
  cases parse text (Format.ofPath path) path options.grammar <;> rfl

/-- A directory in which one file is found is loaded from the file. -/
theorem loadFrom_eq_of_filesIn {options : LoadOptions} {workingDirectory directory path : String}
    {c : Config} (hdirectory : fs.kindOf directory = .ok .directory)
    (hfiles : filesIn fs expand options.extensions directory
      = (.ok [path] : Except Fault (List String)))
    (hload : loadFile fs options path = (.ok c : Except Fault Config)) :
    loadFrom fs options expand workingDirectory directory
      = (.ok { c with directory := some (Files.PathName.absolute workingDirectory directory) }
        : Except Fault Config) := by
  have hrequired : requireDirectory fs directory = (.ok () : Except Fault Unit) := by
    rw [requireDirectory, hdirectory]
    rfl
  rw [loadFrom, hrequired, ok_bind, hfiles, ok_bind]
  simp only [hload, ok_bind]
  rfl

/-- A path that one of the patterns leads to, and that leads to a regular file. -/
def Matched (fs : FileSystem Id) (found : String → List String) (extensions : List String)
    (path : String) : Prop :=
  isFile fs path = true ∧ ∃ ext ∈ extensions, path ∈ found ext

theorem mem_matchedFiles_iff {found : String → List String} {extensions : List String}
    {path : String} :
    path ∈ matchedFiles fs found extensions ↔ Matched fs found extensions path := by
  simp only [matchedFiles, Matched, List.mem_flatMap, List.mem_filter]
  constructor
  · rintro ⟨ext, hext, hpath, hfile⟩
    exact ⟨hfile, ext, hext, hpath⟩
  · rintro ⟨hfile, ext, hext, hpath⟩
    exact ⟨ext, hext, hpath, hfile⟩

/-- **Listing a directory does not depend on the enumeration of its files.**  Extensions in another
order, or some of them twice, list the same paths, and so does an expansion that finds the same
paths in another order: each path to a matched file once, the paths ascending.  Each is listed in
the spelling in which it was found first.  If no path is found in two spellings, the texts are the
same, and with them the config or the fault. -/
theorem listing_is_independent {fs : FileSystem Id}
    {expand expand' : String → ExceptT Fault Id (List String)} {directory : String}
    {extensions extensions' : List String} {found found' : String → List String}
    (hexpand : ∀ ext ∈ extensions, expand (filePattern directory ext) = .ok (found ext))
    (hexpand' : ∀ ext ∈ extensions', expand' (filePattern directory ext) = .ok (found' ext))
    (hextensions : ∀ ext, ext ∈ extensions ↔ ext ∈ extensions')
    (hfound : ∀ ext ∈ extensions, ∀ path, path ∈ found ext ↔ path ∈ found' ext) :
    ∃ files files' : List String,
      filesIn fs expand extensions directory = .ok files
      ∧ filesIn fs expand' extensions' directory = .ok files'
      ∧ files.map components = files'.map components
      ∧ files.Pairwise (fun a b => components a < components b)
      ∧ (∀ path ∈ files, Matched fs found extensions path)
      ∧ (∀ path, Matched fs found extensions path →
        ∃! listed, listed ∈ files ∧ components listed = components path)
      ∧ (∀ path ∈ files,
        spelling? (matchedFiles fs found extensions) (components path) = some path)
      ∧ (∀ path ∈ files',
        spelling? (matchedFiles fs found' extensions') (components path) = some path)
      ∧ ((∀ a b, Matched fs found extensions a → Matched fs found extensions b →
          components a = components b → a = b) →
        files = files' ∧ ∀ (options : LoadOptions) (workingDirectory : String),
          loadFrom fs { options with extensions } expand workingDirectory directory
            = loadFrom fs { options with extensions := extensions' } expand' workingDirectory
              directory) := by
  have hmatched : ∀ path, path ∈ matchedFiles fs found extensions
      ↔ path ∈ matchedFiles fs found' extensions' := fun path => by
    rw [mem_matchedFiles_iff, mem_matchedFiles_iff]
    refine and_congr_right fun _ => exists_congr fun ext => ?_
    rw [← hextensions]
    exact and_congr_right fun hext => hfound ext hext path
  refine ⟨_, _, filesIn_eq hexpand, filesIn_eq hexpand', map_components_sortPaths hmatched,
    pairwise_sortPaths _, fun path hpath => ?_, fun path hpath => ?_,
    fun path hpath => mem_sortPaths_iff.mp hpath, fun path hpath => mem_sortPaths_iff.mp hpath,
    fun hspelling => ?_⟩
  · exact mem_matchedFiles_iff.mp (mem_of_mem_sortPaths hpath)
  · obtain ⟨listed, hlisted, hsame⟩ := exists_mem_sortPaths (mem_matchedFiles_iff.mpr hpath)
    refine ⟨listed, ⟨hlisted, hsame⟩, fun other ⟨hother, hsame'⟩ => ?_⟩
    exact List.inj_on_of_nodup_map (nodup_components_sortPaths _) hother hlisted
      (hsame'.trans hsame.symm)
  · have hsame := sortPaths_eq hmatched fun a ha b hb =>
      hspelling a b (mem_matchedFiles_iff.mp ha) (mem_matchedFiles_iff.mp hb)
    refine ⟨hsame, loadFrom_congr ?_⟩
    rw [filesIn_eq hexpand, filesIn_eq hexpand', hsame]

namespace Example

/-- The text of a file that declares a package. -/
def packageText : String := "\x7b\"package\":\x7b\"n\":\x7b\x7d\x7d\x7d"

/-- The file in a directory of a directory. -/
def nested : Files.Tree :=
  .directory [("cfg", .directory [("a.d", .directory [("x.json", .file packageText.toUTF8)])])]

/-- Two spellings of its path. -/
def spellings : List String := ["cfg/a.d/./x.json", "cfg/a.d/x.json"]

theorem components_spellings :
    ∀ path ∈ spellings, components path = [.name "cfg", .name "a.d", .name "x.json"] := by
  simp only [spellings, List.forall_mem_cons, components, Files.PathName.leadingComponents,
    Files.PathName.pieces_eq]
  decide

theorem resolve_spellings :
    ∀ path ∈ spellings, nested.resolve path = .ok (.file packageText.toUTF8) := by
  simp only [spellings, List.forall_mem_cons, Files.Tree.resolve, Files.PathName.pieces_eq]
  exact ⟨rfl, rfl, fun _ h => (List.not_mem_nil h).elim⟩

/-- The package that the file declares, the document being called by a path. -/
def packageOf (path : String) : Config where
  sources := [path]
  resources := [("package",
    [{ kind := "package", name := "n", dependsOn := [], source := path
       body := { key := "package.n", raw := .mapping [], templates := [], references := [] } }])]

theorem parse_packageText (path : String) :
    parse packageText .json path Name.Grammar.standard
      = .ok { packageOf path with sources := [] } := by
  refine parseWith_eq_ok_iff.mpr ⟨?document, ?read, ?kept⟩
  case read => cbv; rfl
  case kept => with_unfolding_all rfl

theorem loadFile_nested (extensions : List String) :
    ∀ path ∈ spellings, loadFile nested.system { extensions } path
      = (.ok (packageOf path) : Except Fault Config) := by
  intro path hpath
  have hformat : Format.ofPath path = .json := by
    rw [Format.ofPath, Files.PathName.extension?, Files.PathName.fileName?,
      components_spellings path hpath]
    with_unfolding_all rfl
  have hfile : nested.system.HasFile path packageText :=
    Files.Tree.hasFile (by decide) (resolve_spellings path hpath)
  have hread : readText nested.system path (8 * 1024 * 1024)
      = (.ok packageText : Except Fault String) := by
    refine (run_readText hfile _).trans ?_
    rw [boundedText_of_size_le hfile.size_lt (by decide)]
    rfl
  rw [loadFile_eq hread, hformat, parse_packageText]
  rfl

/-- What the pattern of an extension leads to, if one extension leads to these paths and each other
one to the others. -/
def findsFor (ext : String) (these others : List String) (other : String) : List String :=
  if other = ext then these else others

/-- The same as a map from patterns. -/
def expandsFor (ext : String) (these others : List String) (pattern : String) :
    ExceptT Fault Id (List String) :=
  ExceptT.mk (pure (.ok (if pattern = filePattern "cfg" ext then these else others)))

theorem expandsFor_filePattern (ext : String) (these others : List String) (other : String) :
    expandsFor ext these others (filePattern "cfg" other)
      = .ok (findsFor ext these others other) := by
  have hpattern : filePattern "cfg" other = filePattern "cfg" ext ↔ other = ext := by
    rw [filePattern, filePattern]
    generalize Files.Glob.escape "cfg" ++ "/*." = front
    rw [← String.toList_inj, String.toList_append, String.toList_append, List.append_right_inj,
      String.toList_inj]
  exact congrArg Except.ok (if_congr hpattern rfl rfl)

/-- A file system with a directory of two files and a directory. -/
def twoFiles : Files.Tree :=
  .directory [("cfg", .directory
    [("b.json", .file packageText.toUTF8), ("a.json", .file packageText.toUTF8),
      ("c.d", .directory [])])]

theorem kindOf_twoFiles :
    twoFiles.system.kindOf "cfg/a.json" = .ok .file
      ∧ twoFiles.system.kindOf "cfg/b.json" = .ok .file
      ∧ twoFiles.system.kindOf "cfg/c.d" = .ok .directory := by
  show (twoFiles.resolve _).map _ = _ ∧ (twoFiles.resolve _).map _ = _
    ∧ (twoFiles.resolve _).map _ = _
  simp only [Files.Tree.resolve, Files.PathName.pieces_eq]
  exact ⟨rfl, rfl, rfl⟩

/-- What the patterns find, in the first of two orders. -/
def foundFirst : String → List String :=
  findsFor "json" ["cfg/b.json", "cfg/a.json"] ["cfg/b.json", "cfg/c.d", "cfg/a.json"]

/-- An extension twice and the other order, of the extensions and of the paths, make no
difference to what is listed, in the spelling that is found first, and to what is loaded.  The
directory among the paths is not listed. -/
theorem twoFiles_are_listed :
    let expand := expandsFor "json" ["cfg/b.json", "cfg/a.json"]
      ["cfg/b.json", "cfg/c.d", "cfg/a.json"]
    let expand' := expandsFor "json" ["cfg/a.json", "cfg/b.json"]
      ["cfg/a.json", "cfg/b.json", "cfg/c.d"]
    (∃ files, filesIn twoFiles.system expand ["json", "*"] "cfg" = .ok files
        ∧ filesIn twoFiles.system expand' ["*", "json", "json"] "cfg" = .ok files
        ∧ files.Pairwise (fun a b => components a < components b)
        ∧ (∀ path, path ∈ files ↔ path = "cfg/a.json" ∨ path = "cfg/b.json")
        ∧ ∀ path ∈ files, spelling? (matchedFiles twoFiles.system foundFirst ["json", "*"])
          (components path) = some path)
      ∧ loadFrom twoFiles.system { extensions := ["json", "*"] } expand "/" "cfg"
        = loadFrom twoFiles.system { extensions := ["*", "json", "json"] } expand' "/" "cfg" := by
  intro expand expand'
  have hfound : ∀ ext ∈ ["json", "*"], ∀ path, path ∈ foundFirst ext
      ↔ path ∈ findsFor "json" ["cfg/a.json", "cfg/b.json"]
        ["cfg/a.json", "cfg/b.json", "cfg/c.d"] ext := by
    intro ext hext path
    rcases List.mem_pair.mp hext with rfl | rfl
    · simp [foundFirst, findsFor, or_comm]
    · simp [foundFirst, findsFor]
      tauto
  have hspelled : ∀ a ∈ ["cfg/b.json", "cfg/c.d", "cfg/a.json"],
      ∀ b ∈ ["cfg/b.json", "cfg/c.d", "cfg/a.json"], components a = components b → a = b := by
    simp only [components, Files.PathName.leadingComponents, Files.PathName.pieces_eq]
    decide
  obtain ⟨files, files', hfiles, hfiles', -, hascending, hlisted, honce, hfirst, -, hsame⟩ :=
    @listing_is_independent twoFiles.system _ _ "cfg" ["json", "*"] ["*", "json", "json"] _ _
      (fun ext _ => expandsFor_filePattern _ _ _ ext)
      (fun ext _ => expandsFor_filePattern _ _ _ ext) (by simp [or_comm]) hfound
  have hmember : ∀ path, Matched twoFiles.system foundFirst ["json", "*"] path →
      path ∈ ["cfg/b.json", "cfg/c.d", "cfg/a.json"] := by
    rintro path ⟨-, ext, hext, hpath⟩
    rcases List.mem_pair.mp hext with rfl | rfl
    · have hpath : path ∈ ["cfg/b.json", "cfg/a.json"] := hpath
      exact (by decide : ["cfg/b.json", "cfg/a.json"] ⊆ _) hpath
    · exact hpath
  obtain ⟨rfl, hload⟩ := hsame fun a b ha hb => hspelled a (hmember a ha) b (hmember b hb)
  obtain ⟨ha, hb, hc⟩ := kindOf_twoFiles
  refine ⟨⟨files, hfiles, hfiles', hascending, fun path => ⟨fun hpath => ?_, fun hpath => ?_⟩,
    hfirst⟩, hload {} "/"⟩
  · have hmatched := hlisted path hpath
    have hpath := hmember path hmatched
    simp only [List.mem_cons, List.not_mem_nil, or_false] at hpath
    rcases hpath with rfl | rfl | rfl
    · exact .inr rfl
    · exact absurd ((isFile_eq hc).symm.trans hmatched.1) (by decide)
    · exact .inl rfl
  · have hmatched : Matched twoFiles.system foundFirst ["json", "*"] path := by
      rcases hpath with rfl | rfl
      · exact ⟨isFile_eq ha, "json", by decide, by decide⟩
      · exact ⟨isFile_eq hb, "json", by decide, by decide⟩
    obtain ⟨listed, ⟨hlists, hsteps⟩, -⟩ := honce path hmatched
    have heq := hspelled listed (hmember listed (hlisted listed hlists)) path
      (hmember path hmatched) hsteps
    rwa [heq] at hlists

/-- **The first spelling is kept.**  The same extensions the other way round give the block of the
file another source. -/
theorem spelling_is_kept :
    let expand := expandsFor "d/x.json" ["cfg/a.d/x.json"] ["cfg/a.d/./x.json"]
    let first := loadFrom nested.system { extensions := ["d/./x.json", "d/x.json"] } expand
      "/" "cfg"
    let second := loadFrom nested.system { extensions := ["d/x.json", "d/./x.json"] } expand
      "/" "cfg"
    first = (.ok { packageOf "cfg/a.d/./x.json" with
        directory := some (Files.PathName.absolute "/" "cfg") } : Except Fault Config)
      ∧ second = (.ok { packageOf "cfg/a.d/x.json" with
        directory := some (Files.PathName.absolute "/" "cfg") } : Except Fault Config)
      ∧ first ≠ second := by
  intro expand first second
  have hdirectory : nested.system.kindOf "cfg" = .ok .directory := by
    show (nested.resolve "cfg").map Files.Tree.kind = _
    rw [Files.Tree.resolve, Files.PathName.pieces_eq]
    rfl
  have hload : ∀ path ∈ spellings, ∀ other ∈ spellings, ∀ extensions : List String,
      matchedFiles nested.system (findsFor "d/x.json" ["cfg/a.d/x.json"] ["cfg/a.d/./x.json"])
        extensions = [path, other] →
      loadFrom nested.system { extensions } expand "/" "cfg"
        = (.ok { packageOf path with directory := some (Files.PathName.absolute "/" "cfg") }
          : Except Fault Config) := by
    intro path hpath other hother extensions hmatched
    refine loadFrom_eq_of_filesIn hdirectory ?_ (loadFile_nested extensions path hpath)
    refine (filesIn_eq fun ext _ => expandsFor_filePattern _ _ _ ext).trans ?_
    have hspelled : ∀ spelled ∈ [other], components spelled = components path :=
      List.forall_mem_singleton.mpr
        ((components_spellings other hother).trans (components_spellings path hpath).symm)
    rw [hmatched, sortPaths_spellings hspelled]
  have hfile : ∀ path ∈ spellings, isFile nested.system path = true := by
    intro path hpath
    have hkind : nested.system.kindOf path = .ok .file :=
      congrArg (Except.map Files.Tree.kind) (resolve_spellings path hpath)
    exact (isFile_eq hkind).trans (decide_eq_true rfl)
  have hone := hfile "cfg/a.d/./x.json" (by decide)
  have hother := hfile "cfg/a.d/x.json" (by decide)
  have hfirst := hload "cfg/a.d/./x.json" (by decide) "cfg/a.d/x.json" (by decide)
    ["d/./x.json", "d/x.json"] (by simp [matchedFiles, findsFor, hone, hother])
  have hsecond := hload "cfg/a.d/x.json" (by decide) "cfg/a.d/./x.json" (by decide)
    ["d/x.json", "d/./x.json"] (by simp [matchedFiles, findsFor, hone, hother])
  refine ⟨hfirst, hsecond, fun hsame => ?_⟩
  have hsources := congrArg (fun c : Config => c.allResources.map Resource.source)
    (Except.ok.inj (hfirst.symm.trans (hsame.trans hsecond)))
  exact absurd hsources (by decide)

end Example

end TemplatedConfig.Config
