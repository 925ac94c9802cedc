/-
# Configurations block by block

A configuration consists of blocks, which have names of their own: a file is named among the files,
a resource within its kind.  Merging goes through the blocks of a configuration, the files first
and then the resources kind by kind (`blocks`), and adds each to another configuration unless its
name is taken.  Where no name is repeated among them (`Distinct`), the names that are taken are
those that were taken before (`addBlocks_eq_ok_iff`, `exists_of_addBlocks_eq_error`), and what is
added is described field by field (`addBlocks_eq`, `group_addBlocks`, `kinds_addBlocks`).
-/
import TemplatedConfig.Proofs.Config.Sections
import TemplatedConfig.Proofs.Config.Extraction
import TemplatedConfig.Config.Basic

namespace TemplatedConfig

/-! ## 1. Blocks -/

/-- What no two blocks may have in common. -/
inductive BlockName where
  | file (name : String)
  | resource (kind name : String)

/-- A block of a configuration. -/
inductive Block where
  | file (f : File)
  /-- A resource and the kind that it is declared under. -/
  | resource (kind : String) (r : Resource)

namespace Block

def name : Block → BlockName
  | file f => .file f.name
  | resource kind r => .resource kind r.name

/-- The block in paths. -/
def id : Block → String
  | file f => f.id
  | resource _ r => r.id

/-- The document that declares the block. -/
def source : Block → String
  | file f => f.source
  | resource _ r => r.source

/-- The fault of a block whose name is taken. -/
def duplicate : Block → Fault
  | file f => Config.duplicateBlock "file" f.name f.id f.source
  | resource kind r => Config.duplicateBlock kind r.name r.id r.source

/-- The file, of a file. -/
def file? : Block → Option File
  | file f => some f
  | resource .. => none

/-- The resource, of a resource of a kind. -/
def resource? (kind : String) : Block → Option Resource
  | file _ => none
  | resource k r => if k = kind then some r else none

/-- The kind, of a resource. -/
def kind? : Block → Option String
  | file _ => none
  | resource kind _ => some kind

end Block

namespace Config

/-- Whether a configuration has a block of a name. -/
def Declares (c : Config) : BlockName → Prop
  | .file name => name ∈ c.files.map File.name
  | .resource kind name => name ∈ (c.group kind).map Resource.name

instance (c : Config) : (name : BlockName) → Decidable (c.Declares name)
  | .file _ => inferInstanceAs (Decidable (_ ∈ _))
  | .resource .. => inferInstanceAs (Decidable (_ ∈ _))

/-- The blocks of a configuration in the order in which merging adds them. -/
def blocks (c : Config) : List Block :=
  c.files.map .file ++ c.resources.flatMap fun group => group.2.map (.resource group.1)

/-- Adds a block. -/
def addBlock (c : Config) : Block → Config
  | .file f => { c with files := c.files ++ [f] }
  | .resource kind r => c.addResource kind r

/-- Adds a block whose name is not taken. -/
def addNewBlock (c : Config) : Block → Except Fault Config
  | .file f => c.addFile f
  | .resource kind r => addNewResource kind c r

variable {c c' other : Config}

/-- **A block is added** unless its name is taken. -/
theorem addNewBlock_eq (c : Config) (b : Block) :
    c.addNewBlock b
      = if c.Declares b.name then .error b.duplicate else .ok (c.addBlock b) := by
  cases b with
  | file f =>
    rw [addNewBlock, addFile]
    refine if_congr ?_ rfl rfl
    simp [findFile?, List.find?_isSome, Declares, Block.name]
  | resource kind r =>
    rw [addNewBlock, addNewResource]
    refine if_congr ?_ rfl rfl
    simp [findResource?, List.find?_isSome, Declares, Block.name]

/-- A resource is added to its kind and to no other. -/
theorem group_addResource (c : Config) (kind k : String) (r : Resource) :
    (c.addResource kind r).group k = if kind = k then c.group k ++ [r] else c.group k := by
  unfold addResource group
  rw [Fields.get?_insert]
  split
  · rename_i hsame
    rw [hsame]
    rfl
  · rfl

/-- Adding a block takes its name, and no other. -/
theorem declares_addBlock {b : Block} {name : BlockName} :
    (c.addBlock b).Declares name ↔ c.Declares name ∨ name = b.name := by
  cases b with
  | file f =>
    cases name with
    | file n => simp [addBlock, Declares, Block.name]
    | resource kind n =>
      show n ∈ (c.group kind).map Resource.name ↔ _
      simp [Declares, Block.name]
  | resource kind r =>
    cases name with
    | file n =>
      show n ∈ c.files.map File.name ↔ _
      simp [Declares, Block.name]
    | resource k n =>
      simp only [addBlock, Declares, group_addResource, Block.name, BlockName.resource.injEq]
      by_cases hsame : kind = k
      · simp [hsame]
      · simp [hsame, Ne.symm hsame]

/-! ## 2. Blocks in a row -/

/-- **Blocks are added one after another** if their names are neither taken nor repeated. -/
theorem addBlocks_eq_ok_iff {bs : List Block} :
    bs.foldlM addNewBlock c = .ok c'
      ↔ (∀ b ∈ bs, ¬ c.Declares b.name) ∧ (bs.map Block.name).Nodup
        ∧ c' = bs.foldl addBlock c := by
  induction bs generalizing c with
  | nil =>
    constructor
    · intro h
      cases h
      exact ⟨fun _ hb => (List.not_mem_nil hb).elim, List.nodup_nil, rfl⟩
    · rintro ⟨-, -, rfl⟩
      rfl
  | cons b rest ih =>
    rw [List.foldlM_cons, addNewBlock_eq, List.forall_mem_cons, List.map_cons, List.nodup_cons]
    by_cases htaken : c.Declares b.name
    · rw [if_pos htaken]
      exact ⟨fun h => (nomatch h), fun h => (h.1.1 htaken).elim⟩
    · rw [if_neg htaken]
      show rest.foldlM addNewBlock (c.addBlock b) = .ok c' ↔ _
      rw [ih]
      simp only [declares_addBlock, not_or]
      constructor
      · rintro ⟨hfree, hdistinct, hc'⟩
        refine ⟨⟨htaken, fun b' hb' => (hfree b' hb').1⟩, ⟨fun hmem => ?_, hdistinct⟩, hc'⟩
        obtain ⟨b', hb', hsame⟩ := List.mem_map.mp hmem
        exact (hfree b' hb').2 hsame
      · rintro ⟨⟨-, hfree⟩, ⟨hfirst, hdistinct⟩, hc'⟩
        exact ⟨fun b' hb' => ⟨hfree b' hb', fun hsame => hfirst (hsame ▸ List.mem_map_of_mem hb')⟩,
          hdistinct, hc'⟩

/-- If names are not repeated, a block that is refused has a name that was taken before. -/
theorem exists_of_addBlocks_eq_error {bs : List Block} {fault : Fault}
    (hdistinct : (bs.map Block.name).Nodup) (h : bs.foldlM addNewBlock c = .error fault) :
    ∃ b ∈ bs, c.Declares b.name ∧ fault = b.duplicate := by
  induction bs generalizing c with
  | nil => cases h
  | cons b rest ih =>
    obtain ⟨hfirst, hdistinct⟩ := List.nodup_cons.mp hdistinct
    rw [List.foldlM_cons, addNewBlock_eq] at h
    by_cases htaken : c.Declares b.name
    · rw [if_pos htaken] at h
      cases h
      exact ⟨b, List.mem_cons_self, htaken, rfl⟩
    · rw [if_neg htaken] at h
      obtain ⟨b', hb', htaken', hfault⟩ := ih hdistinct h
      refine ⟨b', List.mem_cons_of_mem _ hb', ?_, hfault⟩
      rcases declares_addBlock.mp htaken' with htaken' | hsame
      · exact htaken'
      · exact (hfirst (hsame ▸ List.mem_map_of_mem hb')).elim

/-- What adding blocks leaves as it is, and the files. -/
theorem addBlocks_eq (bs : List Block) :
    bs.foldl addBlock c
      = { c with
          files := c.files ++ bs.filterMap Block.file?
          resources := (bs.foldl addBlock c).resources } := by
  induction bs generalizing c with
  | nil => rw [List.filterMap_nil, List.append_nil]; rfl
  | cons b rest ih =>
    rw [List.foldl_cons, ih]
    cases b with
    | file f => simp [addBlock, Block.file?]
    | resource kind r => simp [addBlock, addResource, Block.file?, List.filterMap_cons]

/-- Resources are added to their kinds, in their order. -/
theorem group_addBlocks (bs : List Block) (kind : String) :
    (bs.foldl addBlock c).group kind = c.group kind ++ bs.filterMap (Block.resource? kind) := by
  induction bs generalizing c with
  | nil => exact (List.append_nil _).symm
  | cons b rest ih =>
    rw [List.foldl_cons, ih]
    cases b with
    | file f => rfl
    | resource k r =>
      show (c.addResource k r).group kind ++ _ = _
      rw [group_addResource, List.filterMap_cons, Block.resource?]
      by_cases hsame : k = kind
      · simp [hsame]
      · simp [hsame]

/-- A kind stands where it first appears. -/
theorem kinds_addBlocks (h : c.resources.keys.Nodup) (bs : List Block) :
    (bs.foldl addBlock c).resources.keys
      = (c.resources.keys ++ bs.filterMap Block.kind?).eraseDups := by
  induction bs generalizing c with
  | nil => rw [List.filterMap_nil, List.append_nil, eraseDups_eq_self h]; rfl
  | cons b rest ih =>
    cases b with
    | file f => exact ih (c := c.addBlock (.file f)) h
    | resource kind r =>
      have hkinds : (c.addResource kind r).resources.keys
          = (c.resources.keys ++ [kind]).eraseDups := by
        rw [addResource, Fields.keys_insert, eraseDups_concat, eraseDups_eq_self h]
      rw [List.foldl_cons, ih (Fields.nodup_keys_insert h _ _)]
      show ((c.addResource kind r).resources.keys ++ _).eraseDups = _
      rw [hkinds, eraseDups_eraseDups_append, List.append_assoc]
      rfl

/-! ## 3. The blocks of a configuration -/

/-- No name is declared twice in a configuration. -/
structure Distinct (c : Config) : Prop where
  inputs : (c.inputs.map Variable.name).Nodup
  files : (c.files.map File.name).Nodup
  kinds : c.resources.keys.Nodup
  groups : ∀ kind, ((c.group kind).map Resource.name).Nodup

/-- What a text declares, it declares once. -/
theorem distinct_of_ofDocument {o : Origin} {d : Document} (h : ofDocument o d = .ok c) :
    c.Distinct where
  inputs := (valid_of_ofDocument h).names.inputs.distinct
  files := (valid_of_ofDocument h).names.files.distinct
  kinds := nodup_kinds_of_ofDocument h
  groups kind := ((valid_of_ofDocument h).names.group kind).distinct

/-- A configuration that some text declares, in whatever way texts are read. -/
def IsParsed (c : Config) : Prop :=
  ∃ read? text label g, parseWith read? text label g = .ok c

theorem IsParsed.distinct {c : Config} (h : c.IsParsed) : c.Distinct := by
  obtain ⟨_, _, _, _, h⟩ := h
  obtain ⟨d, -, hd⟩ := parseWith_eq_ok_iff.mp h
  exact distinct_of_ofDocument hd

/-- A group of resources is what is found under its kind. -/
theorem group_of_mem (h : c.resources.keys.Nodup) {group : String × List Resource}
    (hmem : group ∈ c.resources) : c.group group.1 = group.2 := by
  rw [Config.group, Fields.get?_of_mem h hmem]
  rfl

/-- A resource is declared under its kind. -/
theorem resource_mem_blocks (h : c.resources.keys.Nodup) {kind : String} {r : Resource} :
    .resource kind r ∈ c.blocks ↔ r ∈ c.group kind := by
  constructor
  · intro hmem
    rcases List.mem_append.mp hmem with hmem | hmem
    · obtain ⟨_, -, hfile⟩ := List.mem_map.mp hmem
      cases hfile
    · obtain ⟨group, hgroup, hmem⟩ := List.mem_flatMap.mp hmem
      obtain ⟨r', hr', hsame⟩ := List.mem_map.mp hmem
      cases hsame
      rw [group_of_mem h hgroup]
      exact hr'
  · intro hmem
    rw [group] at hmem
    cases hget : c.resources.get? kind with
    | none => rw [hget] at hmem; cases hmem
    | some rs =>
      rw [hget] at hmem
      exact List.mem_append_right _ (List.mem_flatMap.mpr
        ⟨(kind, rs), Fields.mem_of_get? hget, List.mem_map_of_mem hmem⟩)

/-- A configuration declares the names of its blocks. -/
theorem declares_iff (h : c.resources.keys.Nodup) {name : BlockName} :
    c.Declares name ↔ ∃ b ∈ c.blocks, b.name = name := by
  constructor
  · intro hname
    cases name with
    | file n =>
      obtain ⟨f, hf, rfl⟩ := List.mem_map.mp hname
      exact ⟨.file f, List.mem_append_left _ (List.mem_map_of_mem hf), rfl⟩
    | resource kind n =>
      obtain ⟨r, hr, rfl⟩ := List.mem_map.mp hname
      exact ⟨.resource kind r, (resource_mem_blocks h).mpr hr, rfl⟩
  · rintro ⟨b, hb, rfl⟩
    cases b with
    | file f =>
      rcases List.mem_append.mp hb with hb | hb
      · obtain ⟨f', hf', hsame⟩ := List.mem_map.mp hb
        cases hsame
        exact List.mem_map_of_mem hf'
      · obtain ⟨_, -, hb⟩ := List.mem_flatMap.mp hb
        obtain ⟨_, -, hresource⟩ := List.mem_map.mp hb
        cases hresource
    | resource kind r => exact List.mem_map_of_mem ((resource_mem_blocks h).mp hb)

/-- **No two blocks have the same name.** -/
theorem Distinct.blocks (h : c.Distinct) : (c.blocks.map Block.name).Nodup := by
  rw [Config.blocks, List.map_append, List.map_map, List.map_flatMap]
  refine List.nodup_append.mpr ⟨?files, List.nodup_flatMap.mpr ⟨?groups, ?kinds⟩, ?apart⟩
  case files =>
    have hname : Block.name ∘ .file = BlockName.file ∘ File.name := rfl
    rw [hname, ← List.map_map]
    exact h.files.map fun _ _ => BlockName.file.inj
  case groups =>
    intro group hgroup
    have hname : Block.name ∘ .resource group.1 = BlockName.resource group.1 ∘ Resource.name := rfl
    rw [List.map_map, hname, ← List.map_map, ← group_of_mem h.kinds hgroup]
    exact (h.groups group.1).map fun _ _ hsame => (BlockName.resource.inj hsame).2
  case kinds =>
    refine (List.pairwise_map.mp h.kinds).imp fun hne => ?_
    intro name hfirst hsecond
    simp only [List.map_map, List.mem_map] at hfirst hsecond
    obtain ⟨_, -, rfl⟩ := hfirst
    obtain ⟨_, -, hsame⟩ := hsecond
    exact hne (BlockName.resource.inj hsame).1.symm
  case apart =>
    intro name hfile name' hresource hsame
    simp only [List.mem_map, List.mem_flatMap] at hfile hresource
    obtain ⟨_, -, rfl⟩ := hfile
    obtain ⟨_, -, _, ⟨_, -, rfl⟩, rfl⟩ := hresource
    cases hsame

theorem filterMap_file?_blocks (c : Config) : c.blocks.filterMap Block.file? = c.files := by
  have hfiles : Block.file? ∘ Block.file = some := rfl
  have hresources : ∀ group : String × List Resource,
      (group.2.map (Block.resource group.1)).filterMap Block.file? = [] := fun group => by
    rw [List.filterMap_eq_nil_iff]
    intro b hb
    obtain ⟨_, -, rfl⟩ := List.mem_map.mp hb
    rfl
  rw [blocks, List.filterMap_append, List.filterMap_map, hfiles, List.filterMap_some,
    List.filterMap_flatMap, List.flatMap_eq_nil_iff.mpr fun group _ => hresources group,
    List.append_nil]

theorem filterMap_resource?_blocks (h : c.resources.keys.Nodup) (kind : String) :
    c.blocks.filterMap (Block.resource? kind) = c.group kind := by
  have hfiles : (c.files.map Block.file).filterMap (Block.resource? kind) = [] := by
    rw [List.filterMap_eq_nil_iff]
    intro b hb
    obtain ⟨_, -, rfl⟩ := List.mem_map.mp hb
    rfl
  have hresources : ∀ group : String × List Resource,
      (group.2.map (Block.resource group.1)).filterMap (Block.resource? kind)
        = if group.1 = kind then group.2 else [] := by
    intro group
    rw [List.filterMap_map]
    split
    · rename_i hsame
      have hsome : Block.resource? kind ∘ Block.resource group.1 = some :=
        funext fun _ => if_pos hsame
      rw [hsome, List.filterMap_some]
    · rename_i hne
      exact List.filterMap_eq_nil_iff.mpr fun _ _ => if_neg hne
  rw [blocks, List.filterMap_append, hfiles, List.nil_append, List.filterMap_flatMap, group,
    Fields.getD_get?_eq_flatMap h]
  exact congrArg (List.flatMap · c.resources) (funext hresources)

/-- The kinds that have resources. -/
def usedKinds (c : Config) : List String := Fields.keys (c.resources.filter fun g => !g.2.isEmpty)

theorem eraseDups_filterMap_kind?_blocks (h : c.resources.keys.Nodup) :
    (c.blocks.filterMap Block.kind?).eraseDups = c.usedKinds := by
  have hfiles : (c.files.map Block.file).filterMap Block.kind? = [] := by
    rw [List.filterMap_eq_nil_iff]
    intro b hb
    obtain ⟨_, -, rfl⟩ := List.mem_map.mp hb
    rfl
  have hresources : ∀ group : String × List Resource,
      (group.2.map (Block.resource group.1)).filterMap Block.kind?
        = group.2.map fun _ => group.1 := by
    intro group
    rw [List.filterMap_map]
    exact congrFun (List.filterMap_eq_map (f := fun _ => group.1)) group.2
  rw [blocks, List.filterMap_append, hfiles, List.nil_append, List.filterMap_flatMap, usedKinds,
    ← Fields.eraseDups_flatMap_keys h, funext hresources]

end Config

end TemplatedConfig
