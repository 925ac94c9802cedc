/-
# Merging two configurations

Merging replaces variables in place and adds the blocks of one configuration to the other.  It comes
down to two questions: whether the configurations share a block (`SharesBlock`), and what their
union is (`joined`).  If they share one, merging fails and blames it (`exists_of_merge_eq_error`);
if not, it gives the union (`merge_eq_ok_iff`), whose fields are described one by one in section 2.
-/
import TemplatedConfig.Proofs.Config.Blocks

namespace TemplatedConfig.Config

variable {c c' other : Config}

/-! ## 1. Merging -/

/-- Whether two configurations have a block of the same name. -/
def SharesBlock (c other : Config) : Prop := ∃ name, c.Declares name ∧ other.Declares name

/-- What merging gives if no block is shared. -/
def joined (c other : Config) : Config :=
  (other.blocks.foldl addBlock
    { c with inputs := putVariables c.inputs other.inputs }).addRest other

/-- **Merging adds blocks one after another**, the files first and then the resources. -/
theorem merge_eq (c other : Config) :
    c.merge other
      = (other.blocks.foldlM addNewBlock
          { c with inputs := putVariables c.inputs other.inputs }).map (·.addRest other) := by
  have hgroups : ∀ (groups : Fields (List Resource)) (c : Config),
      groups.foldlM addGroup c
        = (groups.flatMap fun group => group.2.map (.resource group.1)).foldlM addNewBlock c := by
    intro groups
    induction groups with
    | nil => exact fun _ => rfl
    | cons group rest ih =>
      intro c
      rw [List.foldlM_cons, List.flatMap_cons, List.foldlM_append, List.foldlM_map]
      exact bind_congr fun c => ih c
  rw [blocks, List.foldlM_append, List.foldlM_map]
  simp only [← hgroups]
  show (other.files.foldlM addFile _ >>= fun c =>
      other.resources.foldlM addGroup c >>= fun c => .ok (c.addRest other))
    = (other.files.foldlM addFile _ >>= fun c => other.resources.foldlM addGroup c).map _
  cases other.files.foldlM addFile { c with inputs := putVariables c.inputs other.inputs } with
  | error fault => rfl
  | ok withFiles =>
    show (other.resources.foldlM addGroup withFiles >>= fun c => .ok (c.addRest other))
      = (other.resources.foldlM addGroup withFiles).map _
    cases other.resources.foldlM addGroup withFiles <;> rfl

theorem sharesBlock_iff (h : other.Distinct) :
    c.SharesBlock other ↔ ∃ b ∈ other.blocks, c.Declares b.name := by
  constructor
  · rintro ⟨name, hname, hother⟩
    obtain ⟨b, hb, rfl⟩ := (declares_iff h.kinds).mp hother
    exact ⟨b, hb, hname⟩
  · rintro ⟨b, hb, hname⟩
    exact ⟨b.name, hname, (declares_iff h.kinds).mpr ⟨b, hb, rfl⟩⟩

/-- What the variables are makes no difference to the names of blocks. -/
theorem declares_withInputs {inputs : List Variable} {name : BlockName} :
    Declares { c with inputs } name ↔ c.Declares name := by
  cases name <;> exact Iff.rfl

/-- **Merging gives the union** exactly if no block is shared. -/
theorem merge_eq_ok_iff (h : other.Distinct) :
    c.merge other = .ok c' ↔ ¬ c.SharesBlock other ∧ c' = c.joined other := by
  rw [merge_eq, map_eq_ok_iff, sharesBlock_iff h]
  simp only [addBlocks_eq_ok_iff, declares_withInputs, not_exists, not_and]
  constructor
  · rintro ⟨_, ⟨hfree, -, rfl⟩, rfl⟩
    exact ⟨hfree, rfl⟩
  · rintro ⟨hfree, rfl⟩
    exact ⟨_, ⟨hfree, h.blocks, rfl⟩, rfl⟩

/-- **Merging that fails** blames a block whose name was declared before. -/
theorem exists_of_merge_eq_error (h : other.Distinct) {fault : Fault}
    (hmerge : c.merge other = .error fault) :
    ∃ b ∈ other.blocks, c.Declares b.name ∧ fault = b.duplicate := by
  rw [merge_eq, map_eq_error_iff] at hmerge
  obtain ⟨b, hb, htaken, hfault⟩ := exists_of_addBlocks_eq_error h.blocks hmerge
  exact ⟨b, hb, declares_withInputs.mp htaken, hfault⟩

/-! ## 2. The union of two configurations -/

theorem inputs_joined (c other : Config) :
    (c.joined other).inputs = putVariables c.inputs other.inputs := by
  rw [joined, addBlocks_eq]
  rfl

theorem files_joined (c other : Config) :
    (c.joined other).files = c.files ++ other.files := by
  rw [joined, addBlocks_eq, filterMap_file?_blocks]
  rfl

theorem group_joined (h : other.resources.keys.Nodup) (kind : String) :
    (c.joined other).group kind = c.group kind ++ other.group kind := by
  show (other.blocks.foldl addBlock _).group kind = _
  rw [group_addBlocks, filterMap_resource?_blocks h]
  rfl

/-- Kinds that are added stand behind those that there are, if they have resources. -/
theorem kinds_joined (hc : c.resources.keys.Nodup) (h : other.resources.keys.Nodup) :
    (c.joined other).resources.keys = (c.resources.keys ++ other.usedKinds).eraseDups := by
  show (other.blocks.foldl addBlock _).resources.keys = _
  rw [kinds_addBlocks (c := { c with inputs := putVariables c.inputs other.inputs }) hc,
    ← eraseDups_filterMap_kind?_blocks h, eraseDups_append_eraseDups]

theorem ignoredKeys_joined (c other : Config) :
    (c.joined other).ignoredKeys = c.ignoredKeys ++ other.ignoredKeys := by
  rw [joined, addBlocks_eq]
  rfl

theorem sources_joined (c other : Config) :
    (c.joined other).sources = c.sources ++ other.sources := by
  rw [joined, addBlocks_eq]
  rfl

theorem directory_joined (c other : Config) :
    (c.joined other).directory = other.directory.or c.directory := by
  rw [joined, addBlocks_eq]
  rfl

/-- A union declares what its parts declare. -/
theorem declares_joined (h : other.resources.keys.Nodup) {name : BlockName} :
    (c.joined other).Declares name ↔ c.Declares name ∨ other.Declares name := by
  cases name with
  | file n => simp only [Declares, files_joined, List.map_append, List.mem_append]
  | resource kind n => simp only [Declares, group_joined h, List.map_append, List.mem_append]

/-- Whether the union of two configurations shares a block with a third. -/
theorem sharesBlock_joined_left (h : other.Distinct) {third : Config} :
    (c.joined other).SharesBlock third ↔ c.SharesBlock third ∨ other.SharesBlock third := by
  simp only [SharesBlock, declares_joined h.kinds, or_and_right, exists_or]

/-- The same with the third first. -/
theorem sharesBlock_joined_right (h : other.Distinct) {third : Config} :
    third.SharesBlock (c.joined other) ↔ third.SharesBlock c ∨ third.SharesBlock other := by
  simp only [SharesBlock, declares_joined h.kinds, and_or_left, exists_or]

/-! ## 3. Variables -/

/-- Variables by name. -/
def variableFields (inputs : List Variable) : Fields Variable := inputs.map fun v => (v.name, v)

theorem variableFields_injective {inputs other : List Variable}
    (h : variableFields inputs = variableFields other) : inputs = other := by
  have hmap := congrArg (List.map Prod.snd) h
  simpa [variableFields, Function.comp_def] using hmap

theorem keys_variableFields (inputs : List Variable) :
    (variableFields inputs).keys = inputs.map Variable.name := by
  simp [variableFields, Fields.keys, Function.comp_def]

/-- Declaring variables sets them by their names. -/
theorem variableFields_putVariables (inputs more : List Variable) :
    variableFields (putVariables inputs more)
      = (variableFields inputs).insertAll (variableFields more) := by
  have hput : ∀ (inputs : List Variable) (v : Variable),
      variableFields (putVariable inputs v) = (variableFields inputs).insert v.name v := by
    intro inputs v
    induction inputs with
    | nil => rfl
    | cons w rest ih =>
      show variableFields (putVariable (w :: rest) v)
        = Fields.insert ((w.name, w) :: variableFields rest) v.name v
      rw [putVariable, Fields.insert]
      split
      · rename_i hsame
        rw [hsame]
        rfl
      · rw [← ih]
        rfl
  induction more generalizing inputs with
  | nil => rfl
  | cons v rest ih =>
    show variableFields (putVariables (putVariable inputs v) rest) = _
    rw [ih, hput]
    rfl

/-- The union of distinct configurations that share no block is distinct. -/
theorem Distinct.joined (hc : c.Distinct) (h : other.Distinct) (hfree : ¬ c.SharesBlock other) :
    (c.joined other).Distinct where
  inputs := by
    rw [inputs_joined, ← keys_variableFields, variableFields_putVariables]
    exact Fields.nodup_keys_insertAll _ (by rw [keys_variableFields]; exact hc.inputs)
  files := by
    rw [files_joined, List.map_append]
    refine List.nodup_append.mpr ⟨hc.files, h.files, ?_⟩
    rintro name hname _ hother rfl
    exact hfree ⟨.file name, hname, hother⟩
  kinds := by
    rw [kinds_joined hc.kinds h.kinds]
    exact nodup_eraseDups _
  groups kind := by
    rw [group_joined h.kinds, List.map_append]
    refine List.nodup_append.mpr ⟨hc.groups kind, h.groups kind, ?_⟩
    rintro name hname _ hother rfl
    exact hfree ⟨.resource kind name, hname, hother⟩

end TemplatedConfig.Config
