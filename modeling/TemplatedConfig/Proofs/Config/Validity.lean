/-
# Valid configurations

Validation checks the names of a configuration and normalizes its variables.  A configuration is
`Valid` if this finds no fault and changes nothing (`validate_eq_self_iff`): all names are in the
grammar, none is declared twice among the variables, among the files or within one kind, and every
variable is as normalizing leaves it.

Extraction and merging check the same things one declaration at a time, each in its own way.
Extraction relies on the keys of a section being distinct, a variable that is declared again
replaces the earlier one when configurations are merged, and blocks that are declared again are
refused.  All of them keep a configuration valid (`valid_of_parseWith`, `Valid.merge`).
-/
import TemplatedConfig.Proofs.Config.Normalization
import TemplatedConfig.Proofs.Config.Pass
import TemplatedConfig.Config.Loading

namespace TemplatedConfig

/-! ## 1. Names -/

/-- The names of the declarations of one section: all are in the grammar, and none is repeated. -/
structure Name.Grammar.Admits (g : Name.Grammar) (names : List String) : Prop where
  accepted : ∀ name ∈ names, g.accepts name = true
  distinct : names.Nodup

namespace Name.Grammar

variable {g : Name.Grammar} {names : List String}

theorem admits_nil : g.Admits [] := ⟨fun _ h => (List.not_mem_nil h).elim, List.nodup_nil⟩

theorem admits_cons {name : String} :
    g.Admits (name :: names) ↔ g.accepts name = true ∧ name ∉ names ∧ g.Admits names := by
  constructor
  · rintro ⟨haccepted, hdistinct⟩
    obtain ⟨hname, hnames⟩ := List.forall_mem_cons.mp haccepted
    obtain ⟨hnew, hrest⟩ := List.nodup_cons.mp hdistinct
    exact ⟨hname, hnew, hnames, hrest⟩
  · rintro ⟨hname, hnew, hnames, hrest⟩
    exact ⟨List.forall_mem_cons.mpr ⟨hname, hnames⟩, List.nodup_cons.mpr ⟨hnew, hrest⟩⟩

/-- A new name in the grammar may be added. -/
theorem Admits.concat {name : String} (h : g.Admits names) (hname : g.accepts name = true)
    (hnew : name ∉ names) : g.Admits (names ++ [name]) where
  accepted := by
    intro n hn
    rcases List.mem_append.mp hn with hn | hn
    · exact h.accepted n hn
    · rw [List.mem_singleton.mp hn]
      exact hname
  distinct := by
    rw [List.nodup_append]
    refine ⟨h.distinct, List.nodup_cons.mpr ⟨List.not_mem_nil, List.nodup_nil⟩, ?_⟩
    rintro n hn _ hsame rfl
    rw [List.mem_singleton.mp hsame] at hn
    exact hnew hn

theorem check_eq_ok_iff {block name : String} :
    g.check block name = .ok () ↔ g.accepts name = true := by
  unfold check
  split <;> simp_all

end Name.Grammar

namespace Config

open Name.Grammar (check_eq_ok_iff admits_cons)

variable {g : Name.Grammar}

/-- A name is checked against the grammar and against the names seen before. -/
theorem checkNames_cons_eq_ok_iff {block : String} {seen : List String} {n : DeclaredName}
    {rest : List DeclaredName} :
    checkNames g block seen (n :: rest) = .ok ()
      ↔ g.accepts n.name = true ∧ n.name ∉ seen
        ∧ checkNames g block (n.name :: seen) rest = .ok () := by
  constructor
  · intro h
    obtain ⟨_, hcheck, h⟩ := exists_of_bind_eq_ok h
    have haccepted := check_eq_ok_iff.mp (mapError_eq_ok_iff.mp hcheck)
    by_cases hseen : n.name ∈ seen
    · rw [if_pos hseen] at h
      cases h
    · rw [if_neg hseen] at h
      exact ⟨haccepted, hseen, h⟩
  · rintro ⟨haccepted, hseen, hrest⟩
    rw [checkNames, check_eq_ok_iff.mpr haccepted, if_neg hseen]
    exact hrest

/-- **Checking the names of a section** finds out whether the grammar admits them. -/
theorem checkNames_eq_ok_iff {block : String} {seen : List String} {names : List DeclaredName} :
    checkNames g block seen names = .ok ()
      ↔ g.Admits (names.map DeclaredName.name) ∧ ∀ n ∈ names, n.name ∉ seen := by
  induction names generalizing seen with
  | nil => simpa [checkNames] using Name.Grammar.admits_nil
  | cons n rest ih =>
    rw [checkNames_cons_eq_ok_iff, ih, List.map_cons, admits_cons, List.forall_mem_cons]
    simp only [List.mem_cons, not_or, List.mem_map, not_exists, not_and]
    grind

/-- The names of all sections are admitted. -/
structure NamesAdmitted (g : Name.Grammar) (c : Config) : Prop where
  inputs : g.Admits (c.inputs.map Variable.name)
  files : g.Admits (c.files.map File.name)
  resources : ∀ group ∈ c.resources, g.Admits (group.2.map Resource.name)

/-- **Checking all names** finds out whether they are admitted. -/
theorem checkAllNames_eq_ok_iff {c : Config} : c.checkAllNames g = .ok () ↔ c.NamesAdmitted g := by
  have hcheck : ∀ (block : String) (names : List DeclaredName),
      checkNames g block [] names = .ok () ↔ g.Admits (names.map DeclaredName.name) :=
    fun block names => checkNames_eq_ok_iff.trans (and_iff_left fun _ _ => List.not_mem_nil)
  have hinputs : checkNames g "variable" [] (c.inputs.map fun v => ⟨v.name, none⟩) = .ok ()
      ↔ g.Admits (c.inputs.map Variable.name) := by
    rw [hcheck, List.map_map]
    rfl
  have hfiles : checkNames g "file" [] (c.files.map fun f => ⟨f.name, some f.source⟩) = .ok ()
      ↔ g.Admits (c.files.map File.name) := by
    rw [hcheck, List.map_map]
    rfl
  have hgroup : ∀ group : String × List Resource,
      checkNames g group.1 [] (group.2.map fun r => ⟨r.name, some r.source⟩) = .ok ()
        ↔ g.Admits (group.2.map Resource.name) := by
    intro group
    rw [hcheck, List.map_map]
    rfl
  constructor
  · intro h
    obtain ⟨_, hok, h⟩ := exists_of_bind_eq_ok h
    obtain ⟨_, hok', h⟩ := exists_of_bind_eq_ok h
    exact ⟨hinputs.mp hok, hfiles.mp hok', fun group hmem =>
      (hgroup group).mp (forM_eq_ok_iff.mp h group hmem)⟩
  · intro h
    rw [checkAllNames, hinputs.mpr h.inputs, hfiles.mpr h.files]
    exact forM_eq_ok_iff.mpr fun group hmem => (hgroup group).mpr (h.resources group hmem)

/-! ## 2. Validation -/

/-- Validation finds no fault in the configuration and changes nothing. -/
structure Valid (g : Name.Grammar) (c : Config) : Prop where
  names : c.NamesAdmitted g
  normal : ∀ v ∈ c.inputs, v.normalize = .ok v

/-- A pass over the variables changes nothing if normalizing leaves each as it is. -/
theorem mapM_normalizeVariable_iff {inputs : List Variable} :
    inputs.mapM normalizeVariable = .ok inputs ↔ ∀ v ∈ inputs, v.normalize = .ok v := by
  rw [mapM_eq_ok_iff, List.map_inj_left]
  exact forall₂_congr fun v _ => mapError_eq_ok_iff

/-- Names that are not admitted are refused, and nothing is changed. -/
theorem validate_of_not_namesAdmitted {c : Config} (h : ¬ c.NamesAdmitted g) :
    ∃ fault, c.validate g = (c, some fault) := by
  obtain ⟨fault, hfault⟩ := exists_error_of_not_ok fun _ hok => h (checkAllNames_eq_ok_iff.mp hok)
  exact ⟨fault, by rw [validate, hfault]⟩

/-- If the names are admitted, validation is a pass over the variables. -/
theorem validate_of_namesAdmitted {c : Config} (h : c.NamesAdmitted g) :
    c.validate g = ({ c with inputs := (stepUntilFault normalizeVariable c.inputs).1 },
      (stepUntilFault normalizeVariable c.inputs).2) := by
  rw [validate, checkAllNames_eq_ok_iff.mpr h]

/-- **Valid configurations are those that validation leaves as they are.** -/
theorem validate_eq_self_iff {c : Config} : c.validate g = (c, none) ↔ c.Valid g := by
  constructor
  · intro h
    by_cases hadmitted : c.NamesAdmitted g
    · rw [validate_of_namesAdmitted hadmitted] at h
      obtain ⟨hself, hfault⟩ := Prod.mk.inj h
      have hpass : stepUntilFault normalizeVariable c.inputs = (c.inputs, none) :=
        Prod.ext (congrArg Config.inputs hself) hfault
      rw [stepUntilFault_eq_none_iff, mapM_normalizeVariable_iff] at hpass
      exact ⟨hadmitted, hpass⟩
    · obtain ⟨fault, hfault⟩ := validate_of_not_namesAdmitted hadmitted
      rw [hfault] at h
      exact nomatch (Prod.mk.inj h).2
  · intro h
    rw [validate_of_namesAdmitted h.names,
      stepUntilFault_eq_none_iff.mpr (mapM_normalizeVariable_iff.mpr h.normal)]

/-- Validity is about what is declared, not about where it was found. -/
theorem Valid.of_declarations {c c' : Config} (h : c.Valid g) (hinputs : c'.inputs = c.inputs)
    (hfiles : c'.files = c.files) (hresources : c'.resources = c.resources) : c'.Valid g where
  names := {
    inputs := hinputs ▸ h.names.inputs
    files := hfiles ▸ h.names.files
    resources := hresources ▸ h.names.resources }
  normal := hinputs ▸ h.normal

/-! ## 3. Merging -/

/-- A variable declared again takes the place of the earlier one. -/
theorem map_name_putVariable (inputs : List Variable) (v : Variable) :
    (putVariable inputs v).map Variable.name
      = if v.name ∈ inputs.map Variable.name then inputs.map Variable.name
        else inputs.map Variable.name ++ [v.name] := by
  induction inputs with
  | nil => simp [putVariable]
  | cons w rest ih =>
    rw [putVariable]
    by_cases hsame : w.name = v.name
    · simp [hsame]
    · simp only [if_neg hsame, List.map_cons, ih, List.mem_cons, Ne.symm hsame, false_or]
      split <;> rfl

theorem mem_putVariable {inputs : List Variable} {v w : Variable}
    (h : w ∈ putVariable inputs v) : w = v ∨ w ∈ inputs := by
  induction inputs with
  | nil => exact .inl (List.mem_singleton.mp h)
  | cons first rest ih =>
    rw [putVariable] at h
    split at h
    · exact (List.mem_cons.mp h).imp_right (List.mem_cons_of_mem _)
    · rcases List.mem_cons.mp h with rfl | h
      · exact .inr List.mem_cons_self
      · exact (ih h).imp_right (List.mem_cons_of_mem _)

theorem mem_putVariables {inputs more : List Variable} {v : Variable}
    (h : v ∈ putVariables inputs more) : v ∈ inputs ∨ v ∈ more := by
  induction more generalizing inputs with
  | nil => exact .inl h
  | cons w rest ih =>
    rcases ih h with h | h
    · rcases mem_putVariable h with rfl | h
      · exact .inr List.mem_cons_self
      · exact .inl h
    · exact .inr (List.mem_cons_of_mem w h)

variable {c : Config}

/-- Declaring a variable keeps a configuration valid. -/
theorem Valid.putVariable (h : c.Valid g) {v : Variable} (hname : g.accepts v.name = true)
    (hnormal : v.normalize = .ok v) :
    Valid g { c with inputs := putVariable c.inputs v } where
  names := {
    inputs := by
      rw [map_name_putVariable]
      split
      · exact h.names.inputs
      · rename_i hnew
        exact h.names.inputs.concat hname hnew
    files := h.names.files
    resources := h.names.resources }
  normal := by
    intro w hw
    rcases mem_putVariable hw with rfl | hw
    · exact hnormal
    · exact h.normal w hw

/-- Declaring the variables of a valid configuration keeps a configuration valid. -/
theorem Valid.putVariables (h : c.Valid g) {more : List Variable}
    (hmore : ∀ v ∈ more, g.accepts v.name = true ∧ v.normalize = .ok v) :
    Valid g { c with inputs := putVariables c.inputs more } := by
  induction more generalizing c with
  | nil => exact h
  | cons v rest ih =>
    obtain ⟨⟨hname, hnormal⟩, hrest⟩ := List.forall_mem_cons.mp hmore
    exact ih (h.putVariable hname hnormal) hrest

/-- The resources of one kind are admitted, also of a kind that there is not. -/
theorem NamesAdmitted.group (h : c.NamesAdmitted g) (kind : String) :
    g.Admits ((c.group kind).map Resource.name) := by
  rw [Config.group]
  cases hget : c.resources.get? kind with
  | none => exact Name.Grammar.admits_nil
  | some group => exact h.resources (kind, group) (Fields.mem_of_get? hget)

/-- The resources of one kind may change if their names stay admitted. -/
theorem Valid.insertGroup (h : c.Valid g) {kind : String} {group : List Resource}
    (hgroup : g.Admits (group.map Resource.name)) :
    Valid g { c with resources := c.resources.insert kind group } where
  names := {
    inputs := h.names.inputs
    files := h.names.files
    resources := by
      intro e he
      rcases Fields.mem_insert he with he | rfl
      · exact h.names.resources e he
      · exact hgroup }
  normal := h.normal

/-- Adding a file keeps a configuration valid. -/
theorem Valid.addFile (h : c.Valid g) {f : File} (hname : g.accepts f.name = true) {c' : Config}
    (hadd : c.addFile f = .ok c') : c'.Valid g := by
  unfold Config.addFile at hadd
  split at hadd
  · cases hadd
  · rename_i hfree
    cases hadd
    have hnew : f.name ∉ c.files.map File.name := by
      simpa [findFile?, List.find?_isSome] using hfree
    have hfiles : g.Admits ((c.files ++ [f]).map File.name) := by
      rw [List.map_append]
      exact h.names.files.concat hname hnew
    exact ⟨⟨h.names.inputs, hfiles, h.names.resources⟩, h.normal⟩

/-- Adding a resource keeps a configuration valid. -/
theorem Valid.addNewResource (h : c.Valid g) {kind : String} {r : Resource}
    (hname : g.accepts r.name = true) {c' : Config}
    (hadd : addNewResource kind c r = .ok c') : c'.Valid g := by
  unfold Config.addNewResource at hadd
  split at hadd
  · cases hadd
  · rename_i hfree
    cases hadd
    have hnew : r.name ∉ (c.group kind).map Resource.name := by
      simpa [findResource?, List.find?_isSome] using hfree
    refine h.insertGroup ?_
    rw [List.map_append]
    exact (h.names.group kind).concat hname hnew

/-- **Merging valid configurations gives a valid configuration.** -/
theorem Valid.merge {other c' : Config} (h : c.Valid g) (hother : other.Valid g)
    (hmerge : c.merge other = .ok c') : c'.Valid g := by
  have hinputs : Valid g { c with inputs := Config.putVariables c.inputs other.inputs } :=
    h.putVariables fun v hv =>
      ⟨hother.names.inputs.accepted _ (List.mem_map_of_mem hv), hother.normal v hv⟩
  obtain ⟨withFiles, hfiles, hmerge⟩ := exists_of_bind_eq_ok hmerge
  obtain ⟨withResources, hresources, hmerge⟩ := exists_of_bind_eq_ok hmerge
  cases hmerge
  have hvalid : withFiles.Valid g :=
    foldlM_preserves (fun f hf _ _ hb hadd =>
      hb.addFile (hother.names.files.accepted _ (List.mem_map_of_mem hf)) hadd) hinputs hfiles
  have hvalid' : withResources.Valid g :=
    foldlM_preserves (fun group hgroup _ _ hb hadd =>
      foldlM_preserves (fun r hr _ _ hb' hadd' =>
        hb'.addNewResource
          ((hother.names.resources group hgroup).accepted _ (List.mem_map_of_mem hr)) hadd')
        hb hadd) hvalid hresources
  exact hvalid'.of_declarations rfl rfl rfl

end Config

end TemplatedConfig
