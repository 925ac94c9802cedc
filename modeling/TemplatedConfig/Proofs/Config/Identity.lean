/-
# Ids of blocks

A block is called by one text in what is reported: `file.motd` for a file, the kind and the name
with a point between them for a resource.  A kind may be any text and have points of its own, and it
is never checked.  But names are, and no name of the standard grammar has a point, so the last point
of an id parts the name from the kind (`Resource.idOf_inj`).  A file has the id that a resource of
the kind `file` would have, and no resource is of that kind because the section is taken.

So blocks with the same id have the same name (`Block.Identified.name_eq`), and no two blocks have
the same name.  Interpolation leaves the ids as they are (`map_id_run`), also if it fails.

An id is told from other ids, but not from the beginning of a longer path: what a fault in a key `c`
of the block `a.b` is found at begins with `a.b.c`, which may be another block.

Main statement: `ids_identify_blocks`.
-/
import TemplatedConfig.Proofs.Config.Exporting
import TemplatedConfig.Proofs.Config.Locating
import TemplatedConfig.Proofs.Scope.Naming

namespace TemplatedConfig

/-! ## 1. Ids -/

/-- A text that begins with its only point has nothing before the point. -/
theorem eq_nil_of_point {name name' more : List Char} (hname : '.' ∉ name)
    (h : '.' :: name = more ++ '.' :: name') : more = [] := by
  cases more with
  | nil => rfl
  | cons c rest =>
    obtain ⟨-, hrest⟩ := List.cons.inj h
    exact (hname (hrest ▸ List.mem_append_right rest List.mem_cons_self)).elim

/-- **The last point of a text parts it.** -/
theorem append_point_inj {kind kind' name name' : List Char} (hname : '.' ∉ name)
    (hname' : '.' ∉ name') (h : kind ++ '.' :: name = kind' ++ '.' :: name') :
    kind = kind' ∧ name = name' := by
  rcases List.append_eq_append_iff.mp h with ⟨more, hkind, hrest⟩ | ⟨more, hkind, hrest⟩
  · obtain rfl := eq_nil_of_point hname hrest
    exact ⟨(hkind.trans (List.append_nil kind)).symm, (List.cons.inj hrest).2⟩
  · obtain rfl := eq_nil_of_point hname' hrest
    exact ⟨hkind.trans (List.append_nil kind'), (List.cons.inj hrest).2.symm⟩

/-- **An id determines the kind and the name**, if names have no points. -/
theorem Resource.idOf_inj {kind kind' name name' : String} (hname : '.' ∉ name.toList)
    (hname' : '.' ∉ name'.toList) (h : idOf kind name = idOf kind' name') :
    kind = kind' ∧ name = name' := by
  have htexts : kind.toList ++ '.' :: name.toList = kind'.toList ++ '.' :: name'.toList := by
    simpa [idOf] using congrArg String.toList h
  obtain ⟨hkind, hsame⟩ := append_point_inj hname hname' htexts
  exact ⟨String.toList_inj.mp hkind, String.toList_inj.mp hsame⟩

namespace Block

/-- The section that a block stands in. -/
def heading : Block → String
  | file _ => "file"
  | resource kind _ => kind

/-- What a block is called in its section. -/
def title : Block → String
  | file f => f.name
  | resource _ r => r.name

/-- A block is called by its section and its name, the name is in the grammar, and the section of
the files has no resource. -/
structure Identified (g : Name.Grammar) (block : Block) : Prop where
  id : block.id = Resource.idOf block.heading block.title
  accepted : g.accepts block.title = true
  file : block.heading = "file" → ∃ f, block = .file f

/-- **Blocks with the same id have the same name**, if names have no points. -/
theorem Identified.name_eq {g : Name.Grammar}
    (hpoint : ∀ name, g.accepts name = true → '.' ∉ name.toList) {block other : Block}
    (h : block.Identified g) (hother : other.Identified g) (hid : block.id = other.id) :
    block.name = other.name := by
  rw [h.id, hother.id] at hid
  obtain ⟨hheading, htitle⟩ :=
    Resource.idOf_inj (hpoint _ h.accepted) (hpoint _ hother.accepted) hid
  cases block with
  | file f =>
    obtain ⟨f', rfl⟩ := hother.file hheading.symm
    exact congrArg BlockName.file htitle
  | resource kind r =>
    cases other with
    | file f' =>
      obtain ⟨_, hfile⟩ := h.file hheading
      cases hfile
    | resource kind' r' => exact congrArg₂ BlockName.resource hheading htitle

@[simp] theorem id_loaded (block : Block) : block.loaded.id = block.id := by
  cases block <;> rfl

end Block

namespace Config

variable {g : Name.Grammar} {c : Config}

/-- **The blocks of a configuration are called by their sections and names.** -/
theorem Restorable.identified (h : c.Restorable g) (hnames : c.NamesAdmitted g) {block : Block}
    (hblock : block ∈ c.blocks) : block.Identified g := by
  rcases List.mem_append.mp hblock with hfile | hresource
  · obtain ⟨f, hf, rfl⟩ := List.mem_map.mp hfile
    exact ⟨rfl, hnames.files.accepted _ (List.mem_map_of_mem hf), fun _ => ⟨f, rfl⟩⟩
  · obtain ⟨group, hgroup, hresource⟩ := List.mem_flatMap.mp hresource
    obtain ⟨r, hr, rfl⟩ := List.mem_map.mp hresource
    refine ⟨?_, (hnames.resources group hgroup).accepted _ (List.mem_map_of_mem hr), ?_⟩
    · rw [← group_of_mem h.distinct.kinds hgroup] at hr
      exact congrArg (Resource.idOf · r.name) (h.unresolved_resource hr).1
    · intro hkind
      have hfree : reserved group.1 = false := h.kinds _ (List.mem_map_of_mem hgroup)
      rw [show group.1 = "file" from hkind] at hfree
      cases hfree

/-- The ids of the blocks of a configuration, as it declares them. -/
def declaredIds (c : Config) : List String :=
  c.files.map (fun f => File.idOf f.name)
    ++ c.resources.flatMap fun group => group.2.map fun r => Resource.idOf group.1 r.name

/-- The blocks are called so. -/
theorem Restorable.map_id_blocks (h : c.Restorable g) (hnames : c.NamesAdmitted g) :
    c.blocks.map Block.id = c.declaredIds := by
  rw [List.map_congr_left fun block hblock => (h.identified hnames hblock).id, blocks,
    List.map_append, List.map_map, List.map_flatMap, declaredIds]
  refine congrArg₂ _ rfl (List.flatMap_congr fun group _ => ?_)
  rw [List.map_map]
  rfl

/-- **No two blocks have the same id.** -/
theorem Restorable.nodup_ids (h : c.Restorable g) (hnames : c.NamesAdmitted g)
    (hpoint : ∀ name, g.accepts name = true → '.' ∉ name.toList) :
    (c.blocks.map Block.id).Nodup := by
  refine List.pairwise_map.mpr
    ((List.pairwise_map.mp h.distinct.blocks).imp_of_mem fun hblock hother hne hid => ?_)
  exact hne ((h.identified hnames hblock).name_eq hpoint (h.identified hnames hother) hid)

/-! ## 2. Where ids are reported -/

/-- A run leaves the blocks as they were loaded. -/
theorem loadedBlocks_run (c : Config) (calls : List Bindings) :
    (c.run calls).1.loadedBlocks = c.loadedBlocks := by
  induction calls generalizing c with
  | nil => rfl
  | cons bindings rest ih => exact (ih _).trans (c.loadedBlocks_interpolate bindings)

/-- **A run leaves the ids.** -/
theorem map_id_run (c : Config) (calls : List Bindings) :
    (c.run calls).1.blocks.map Block.id = c.blocks.map Block.id := by
  have hloaded : ∀ c : Config, c.blocks.map Block.id = c.loadedBlocks.map Block.id := fun c => by
    rw [loadedBlocks, List.map_map]
    exact List.map_congr_left fun block _ => block.id_loaded.symm
  rw [hloaded, hloaded c, loadedBlocks_run]

/-- What is reported as unresolved, block by block. -/
theorem unresolvedPaths_eq (c : Config) :
    c.unresolvedPaths
      = c.blocks.flatMap fun block => block.body.unknownPaths.map (unresolvedPath block.id) := by
  rw [unresolvedPaths, allResources, blocks, List.flatMap_append, List.flatMap_map,
    List.flatMap_assoc, List.flatMap_assoc]
  refine congrArg₂ _ rfl (List.flatMap_congr fun group _ => ?_)
  rw [List.flatMap_map]
  rfl

/-- A fault of the interpolation names the document of a block and lies in the block. -/
theorem exists_block_of_snd_interpolate {bindings : Bindings} {fault : Fault}
    (h : (c.interpolate bindings).2 = some fault) :
    ∃ block ∈ c.blocks, fault.LiesIn block.source block.id := by
  rw [snd_interpolate] at h
  obtain ⟨block, hblock, hfault⟩ := List.exists_of_findSome?_eq_some h
  rw [Block.error?_interpolate] at hfault
  obtain ⟨cause, -, rfl⟩ := Option.map_eq_some_iff.mp hfault
  exact ⟨block, hblock, (Fault.liesBelow_inside cause (.self block.id)).inDocument block.source⟩

/-- A block is the only one with its id. -/
def IsOnly (c : Config) (block : Block) : Prop :=
  block ∈ c.blocks ∧ ∀ other ∈ c.blocks, other.id = block.id → other = block

/-- **Ids identify blocks.**  In a configuration that was loaded with the standard grammar, whatever
its kinds are, the ids of all files and resources are different.  They stay as they are when the
configuration is interpolated, and then as well everything that is reported as unresolved, and every
fault of another call, begins with the id of a block that no other block has. -/
theorem ids_identify_blocks (h : c.Assembled Name.Grammar.standard) (calls : List Bindings) :
    let after := (c.run calls).1
    after.blocks.map Block.id = c.declaredIds
      ∧ c.declaredIds.Nodup
      ∧ (∀ entry ∈ after.unresolvedPaths, ∃ block path, after.IsOnly block
        ∧ path ∈ block.body.unknownPaths ∧ entry = unresolvedPath block.id path)
      ∧ ∀ bindings fault, (after.interpolate bindings).2 = some fault →
        ∃ block, after.IsOnly block ∧ fault.LiesIn block.source block.id := by
  intro after
  have hids : after.blocks.map Block.id = c.declaredIds :=
    (c.map_id_run calls).trans (h.restorable.map_id_blocks h.valid.names)
  have hdistinct : c.declaredIds.Nodup := by
    rw [← h.restorable.map_id_blocks h.valid.names]
    exact h.restorable.nodup_ids h.valid.names fun name hname hpoint =>
      (Reference.referable_of_accepts hname).no_point _ hpoint rfl
  have honly : ∀ block ∈ after.blocks, after.IsOnly block := fun block hblock =>
    ⟨hblock, fun other hother hid =>
      List.inj_on_of_nodup_map (hids ▸ hdistinct) hother hblock hid⟩
  refine ⟨hids, hdistinct, fun entry hentry => ?_, fun bindings fault hfault => ?_⟩
  · rw [unresolvedPaths_eq] at hentry
    obtain ⟨block, hblock, hentry⟩ := List.mem_flatMap.mp hentry
    obtain ⟨path, hpath, rfl⟩ := List.mem_map.mp hentry
    exact ⟨block, path, honly block hblock, hpath, rfl⟩
  · obtain ⟨block, hblock, hlies⟩ := exists_block_of_snd_interpolate hfault
    exact ⟨block, honly block hblock, hlies⟩

namespace Example

/-- A file and two resources of the same name, the kind of one resource with a point. -/
def gatewayFields : Fields Document :=
  [("file", .mapping [("web", .mapping [("destination", .string "web")])]),
    ("site", .mapping [("web", .mapping [("port", .string "${var.b}")])]),
    ("site.web", .mapping [("web", .mapping [])])]

/-- The document as a text. -/
def gatewayText : String :=
  "\x7b\"file\":\x7b\"web\":\x7b\"destination\":\"web\"\x7d\x7d," ++
    "\"site\":\x7b\"web\":\x7b\"port\":\"$\x7bvar.b\x7d\"\x7d\x7d," ++
    "\"site.web\":\x7b\"web\":\x7b\x7d\x7d\x7d"

/-- The file. -/
def page : File where
  name := "web"
  destination := "web"
  content := none
  user := none
  group := none
  mode := none
  source := "gateway.json"
  body := { key := "file.web", raw := .mapping [("destination", .string "web")]
            templates := [], references := [] }

/-- The resource with a variable. -/
def portal : Resource := { web with source := "gateway.json" }

/-- The resource whose kind has a point. -/
def plain : Resource where
  kind := "site.web"
  name := "web"
  dependsOn := []
  source := "gateway.json"
  body := { key := "site.web.web", raw := .mapping [], templates := [], references := [] }

/-- What the document declares. -/
def gateway : Config where
  files := [page]
  resources := [("site", [portal]), ("site.web", [plain])]

theorem read_gatewayText : Format.json.read? gatewayText = some (.mapping gatewayFields) := by cbv

theorem parse_gatewayText :
    parse gatewayText .json "gateway.json" Name.Grammar.standard = .ok gateway := by
  have honce : DeclaredOnce gatewayFields := ⟨by decide, by decide⟩
  have hweb : extractResource { label := "gateway.json", grammar := Name.Grammar.standard } "site"
      "web" (.mapping [("port", .string "${var.b}")]) = .ok portal :=
    extractResource_eq_ok_iff.mpr ⟨by with_unfolding_all rfl, _, _, _, rfl,
      by with_unfolding_all rfl, ofValue_web, rfl⟩
  have hplain : extractGroup { label := "gateway.json", grammar := Name.Grammar.standard }
      ("site.web", .mapping [("web", .mapping [])]) = .ok ("site.web", [plain]) := by
    with_unfolding_all rfl
  rw [parse, parseWith, read_gatewayText]
  refine ofDocument_mapping_eq_ok_iff.mpr ⟨honce, (ofFields_eq_ok_iff (by decide)).mpr
    ⟨[], gateway.files, gateway.resources, rfl, by with_unfolding_all rfl, ?_, rfl⟩⟩
  exact mapM_eq_ok_iff.mpr (congrArg₂ (fun r s => [r, s]) (extractGroup_singleton hweb) hplain)

/-- The port is not known yet. -/
def pending : Bindings := ⟨[("b", Value.unknown)]⟩

theorem resolve_page (b : Bindings) :
    page.body.resolve b = .ok ⟨.mapping [("destination", .string "web")], []⟩ := by
  have hentry : Traversal.substituteAt (m := Id) (fun _ t => Scope.fill ⟨b, .builtins⟩ t)
      "destination" (.string "web") = .ok ⟨.string "web", []⟩ :=
    Traversal.substituteAt_scalar rfl (by decide +kernel)
  rw [Body.resolve, Body.resolveIn, page, Traversal.substitute_singleton hentry]
  rfl

theorem resolve_plain (b : Bindings) : plain.body.resolve b = .ok ⟨.mapping [], []⟩ := by
  with_unfolding_all rfl

theorem resolve_pending :
    web.body.resolve pending = .ok ⟨.mapping [("port", Value.unknown)], ["port"]⟩ :=
  resolve_outcome rfl (by decide +kernel) (answer_port pending)

theorem unresolvedPaths_gateway :
    (gateway.run [pending]).1.unresolvedPaths = ["site.web: port"] := by
  have hresolutions : gateway.resolutions pending
      = [.ok ⟨.mapping [("destination", .string "web")], []⟩,
        .ok ⟨.mapping [("port", Value.unknown)], ["port"]⟩, .ok ⟨.mapping [], []⟩] := by
    show [page.body.resolve pending, web.body.resolve pending, plain.body.resolve pending] = _
    rw [resolve_page, resolve_pending, resolve_plain]
  rw [unresolvedPaths_eq, blocks_run]
  simp only [List.filterMap_cons, answer, reaches, hresolutions]
  rfl

theorem fresh_gateway : gateway.Fresh := by
  have hblocks : ∀ block ∈ gateway.blocks,
      block = .file page ∨ block = .resource "site" portal ∨ block = .resource "site.web" plain :=
    fun block hblock => by simpa using (show block ∈ [_, _, _] from hblock)
  constructor
  · intro block hblock
    rcases hblocks block hblock with rfl | rfl | rfl <;> rfl
  · intro block hblock
    rcases hblocks block hblock with rfl | rfl | rfl <;> exact ⟨_, rfl, by decide⟩

/-- What is wrong without the port. -/
def noPort : Fault :=
  { Fault.of (.unknownVariable "var.b") with
    path := some "site.web.port", location := some { file := "gateway.json" } }

theorem interpolate_gateway : ((gateway.run [pending]).1.interpolate first).2 = some noPort := by
  rw [snd_interpolate_congr (loadedBlocks_run gateway [pending])]
  refine fresh_gateway.snd_interpolate_eq_some_iff.mpr ⟨.resource "site" portal, _, _,
    ⟨[.file page], [.resource "site.web" plain], rfl, ?_, firstFails_web⟩, rfl⟩
  exact List.forall_mem_singleton.mpr ⟨_, resolve_page first⟩

/-- The ids stay apart, also after a call.  What the call leaves unresolved, and what another call
fails with, begin with the id of one block. -/
theorem gateway_is_identified :
    let after := (gateway.run [pending]).1
    after.blocks.map Block.id = ["file.web", "site.web", "site.web.web"]
      ∧ ["file.web", "site.web", "site.web.web"].Nodup
      ∧ after.unresolvedPaths = ["site.web: port"]
      ∧ (∃ block path, after.IsOnly block ∧ path ∈ block.body.unknownPaths
        ∧ "site.web: port" = unresolvedPath block.id path)
      ∧ (after.interpolate first).2 = some noPort
      ∧ ∃ block, after.IsOnly block ∧ noPort.LiesIn block.source block.id := by
  intro after
  obtain ⟨hids, hdistinct, hreported, hfaults⟩ :=
    ids_identify_blocks (.parsed parse_gatewayText) [pending]
  exact ⟨hids, hdistinct, unresolvedPaths_gateway,
    hreported _ (unresolvedPaths_gateway ▸ List.mem_singleton_self _), interpolate_gateway,
    hfaults _ _ interpolate_gateway⟩

end Example

end Config

end TemplatedConfig
