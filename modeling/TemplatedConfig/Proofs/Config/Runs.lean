/-
# Interpolating again and again

A configuration may be interpolated with one set of bindings after another.  Every call goes through
the blocks, the files first and then the resources kind by kind, and stops at the first that fails,
so a call leaves new resolutions in some blocks and old ones in others.  Which resolution a block
has in the end is nevertheless easy to say, because a call changes nothing that another call looks
at: blocks are resolved from their bodies as they were loaded (`Block.loaded`).  So what a call does
to a block (`Config.answer`) and what it fails with depend on the configuration as it was before
all calls, and a block keeps the last answer.

One call is a pass over the blocks (`pass_blocks`), and what a run of calls leaves is proved
by induction on the calls, for a configuration that may have been interpolated before
(`blocks_run`).

Main statement: `interpolation_keeps_the_last`.
-/
import TemplatedConfig.Proofs.Body.Failing
import TemplatedConfig.Proofs.Config.Blocks
import TemplatedConfig.Proofs.Config.Pass
import TemplatedConfig.Proofs.Traversal.Shape

namespace TemplatedConfig

/-! ## 1. Blocks -/

namespace Block

def body : Block → Body
  | file f => f.body
  | resource _ r => r.body

/-- The block with another resolution, or with none. -/
def withResolution (resolution : Option Resolution) : Block → Block
  | file f => file { f with body := { f.body with resolution } }
  | resource kind r => resource kind { r with body := { r.body with resolution } }

/-- The block as it was loaded. -/
def loaded (block : Block) : Block := block.withResolution none

/-- Resolves the body of a block. -/
def interpolate (bindings : Bindings) : Block → Except Fault Block
  | file f => (Config.interpolateFile bindings f).map .file
  | resource kind r => (Config.interpolateResource bindings r).map (.resource kind)

/-- A fault in the body of a block, as a fault of the configuration. -/
def placed (block : Block) (fault : Fault) : Fault :=
  (fault.inside block.id).inDocument block.source

variable (block : Block) (resolution other : Option Resolution)

@[simp] theorem body_withResolution :
    (block.withResolution resolution).body = { block.body with resolution } := by
  cases block <;> rfl

@[simp] theorem loaded_withResolution :
    (block.withResolution resolution).loaded = block.loaded := by
  cases block <;> rfl

@[simp] theorem withResolution_withResolution :
    (block.withResolution other).withResolution resolution = block.withResolution resolution := by
  cases block <;> rfl

@[simp] theorem withResolution_self : block.withResolution block.body.resolution = block := by
  cases block <;> rfl

/-- **Interpolating a block** resolves its body and keeps the resolution. -/
theorem interpolate_eq (bindings : Bindings) :
    block.interpolate bindings
      = ((block.body.resolve bindings).mapError block.placed).map fun resolution =>
          block.withResolution (some resolution) := by
  cases block with
  | file f =>
    rw [interpolate, Config.interpolateFile, Config.interpolateBody, Body.interpolate]
    show _ = ((f.body.resolve bindings).mapError _).map _
    cases f.body.resolve bindings <;> rfl
  | resource kind r =>
    rw [interpolate, Config.interpolateResource, Config.interpolateBody, Body.interpolate]
    show _ = ((r.body.resolve bindings).mapError _).map _
    cases r.body.resolve bindings <;> rfl

/-- A block fails as its body does. -/
theorem error?_interpolate (bindings : Bindings) :
    error? (block.interpolate bindings)
      = (error? (block.body.resolve bindings)).map block.placed := by
  rw [interpolate_eq, error?_map, error?_mapError]

/-- It can be interpolated if its body can be resolved. -/
theorem exists_interpolate_eq_ok_iff (bindings : Bindings) :
    (∃ next, block.interpolate bindings = .ok next)
      ↔ ∃ resolution, block.body.resolve bindings = .ok resolution := by
  rw [← error?_eq_none_iff, error?_interpolate, Option.map_eq_none_iff, error?_eq_none_iff]

/-- It makes no difference to a call what earlier calls have left in a block. -/
theorem resolve_loaded (bindings : Bindings) :
    block.loaded.body.resolve bindings = block.body.resolve bindings := by
  cases block <;> rfl

theorem error?_interpolate_loaded (bindings : Bindings) :
    error? (block.loaded.interpolate bindings) = error? (block.interpolate bindings) := by
  rw [error?_interpolate, error?_interpolate, resolve_loaded]
  cases block <;> rfl

end Block

namespace Config

variable {c : Config}

/-! ## 2. One call -/

/-- What the bodies of all blocks resolve to. -/
def resolutions (c : Config) (bindings : Bindings) : List (Except Fault Resolution) :=
  c.blocks.map fun block => block.body.resolve bindings

/-- Whether a call reaches the block at a place: all blocks before it can be resolved. -/
def reaches (c : Config) (place : Nat) (bindings : Bindings) : Bool :=
  ((c.resolutions bindings).take place).all Except.isOk

/-- The resolution that a call puts in the block at a place: none if the call does not reach the
block or fails there. -/
def answer (c : Config) (place : Nat) (bindings : Bindings) : Option Resolution :=
  if c.reaches place bindings then (c.resolutions bindings)[place]?.bind Except.toOption else none

/-- **A call is a pass over the blocks.** -/
theorem pass_blocks (c : Config) (bindings : Bindings) :
    stepUntilFault (Block.interpolate bindings) c.blocks
      = ((c.interpolate bindings).1.blocks, (c.interpolate bindings).2) := by
  have hfiles : stepUntilFault (Block.interpolate bindings) (c.files.map .file)
      = ((stepUntilFault (interpolateFile bindings) c.files).1.map .file,
          (stepUntilFault (interpolateFile bindings) c.files).2) :=
    stepUntilFault_map (by intro f; rfl) c.files
  have hresources : stepUntilFault (Block.interpolate bindings)
        (c.resources.flatMap fun group => group.2.map (.resource group.1))
      = ((stepGroupsUntilFault (interpolateResource bindings) c.resources).1.flatMap fun group =>
            group.2.map (.resource group.1),
          (stepGroupsUntilFault (interpolateResource bindings) c.resources).2) :=
    stepUntilFault_flatMap (by intro kind r; rfl) c.resources
  rw [blocks, stepUntilFault_append, hfiles, hresources, interpolate]
  rcases stepUntilFault (interpolateFile bindings) c.files with ⟨files, _ | fault⟩ <;> rfl

/-- **What a call leaves**: in each block the resolution that it puts there, or else the old one. -/
theorem blocks_interpolate (c : Config) (bindings : Bindings) :
    (c.interpolate bindings).1.blocks = c.blocks.mapIdx fun place block =>
      block.withResolution ((c.answer place bindings).or block.body.resolution) := by
  have hpass := congrArg Prod.fst (c.pass_blocks bindings)
  refine hpass.symm.trans (List.ext_getElem? fun place => ?_)
  have hreaches : c.reaches place bindings = (c.blocks.take place).all fun earlier =>
      (earlier.interpolate bindings).isOk := by
    rw [reaches, resolutions, ← List.map_take, List.all_map]
    congr 1
    funext earlier
    rw [Function.comp_apply, Block.interpolate_eq]
    cases earlier.body.resolve bindings <;> rfl
  rw [getElem?_stepUntilFault, List.getElem?_mapIdx, ← hreaches]
  cases hblock : c.blocks[place]? with
  | none => rfl
  | some block =>
    have hresolution : (c.resolutions bindings)[place]? = some (block.body.resolve bindings) := by
      rw [resolutions, List.getElem?_map, hblock]
      rfl
    rw [Option.map_some, Option.map_some, answer, hresolution, Option.bind_some,
      Block.interpolate_eq]
    cases c.reaches place bindings with
    | false => exact congrArg some block.withResolution_self.symm
    | true =>
      cases block.body.resolve bindings with
      | error fault => exact congrArg some block.withResolution_self.symm
      | ok resolution => rfl

/-- **What a call fails with** is the fault of the first block that fails. -/
theorem snd_interpolate (c : Config) (bindings : Bindings) :
    (c.interpolate bindings).2
      = c.blocks.findSome? fun block => error? (block.interpolate bindings) := by
  rw [← snd_stepUntilFault, pass_blocks]

/-- A call changes nothing but the blocks. -/
theorem exists_interpolate_eq (c : Config) (bindings : Bindings) :
    ∃ files resources, (c.interpolate bindings).1 = { c with files, resources } := by
  rw [interpolate]
  rcases stepUntilFault (interpolateFile bindings) c.files with ⟨files, _ | fault⟩
  · exact ⟨_, _, rfl⟩
  · exact ⟨_, _, rfl⟩

/-! ## 3. One call after another -/

/-- Interpolates with one set of bindings after another, and lists what the calls fail with. -/
def run (c : Config) : List Bindings → Config × List (Option Fault)
  | [] => (c, [])
  | bindings :: rest =>
    let (next, fault) := c.interpolate bindings
    let (last, faults) := next.run rest
    (last, fault :: faults)

/-- The blocks as they were loaded. -/
def loadedBlocks (c : Config) : List Block := c.blocks.map Block.loaded

/-- A call leaves the blocks as they were loaded. -/
theorem loadedBlocks_interpolate (c : Config) (bindings : Bindings) :
    (c.interpolate bindings).1.loadedBlocks = c.loadedBlocks := by
  refine List.ext_getElem? fun place => ?_
  rw [loadedBlocks, loadedBlocks, blocks_interpolate, List.getElem?_map, List.getElem?_map,
    List.getElem?_mapIdx, Option.map_map]
  cases c.blocks[place]? with
  | none => rfl
  | some block => exact congrArg some (block.loaded_withResolution _)

/-- **What a call does depends on the blocks as they were loaded.** -/
theorem answer_congr {c' : Config} (h : c'.loadedBlocks = c.loadedBlocks) (place : Nat)
    (bindings : Bindings) : c'.answer place bindings = c.answer place bindings := by
  have hresolutions : ∀ c : Config, c.resolutions bindings
      = c.loadedBlocks.map fun block => block.body.resolve bindings := fun c => by
    rw [loadedBlocks, List.map_map]
    exact List.map_congr_left fun block _ => (block.resolve_loaded bindings).symm
  have hsame : c'.resolutions bindings = c.resolutions bindings := by
    rw [hresolutions, hresolutions, h]
  rw [answer, answer, reaches, reaches, hsame]

/-- So does what it fails with. -/
theorem snd_interpolate_congr {c' : Config} (h : c'.loadedBlocks = c.loadedBlocks)
    (bindings : Bindings) : (c'.interpolate bindings).2 = (c.interpolate bindings).2 := by
  have hfault : ∀ c : Config, (c.interpolate bindings).2
      = c.loadedBlocks.findSome? fun block => error? (block.interpolate bindings) := fun c => by
    rw [snd_interpolate, loadedBlocks, List.findSome?_map]
    congr 1
    funext block
    exact (block.error?_interpolate_loaded bindings).symm
  rw [hfault, hfault, h]

/-- **A run fails call by call** as each call would at the start. -/
theorem snd_run (c : Config) (calls : List Bindings) :
    (c.run calls).2 = calls.map fun bindings => (c.interpolate bindings).2 := by
  induction calls generalizing c with
  | nil => rfl
  | cons bindings rest ih =>
    show (c.interpolate bindings).2 :: ((c.interpolate bindings).1.run rest).2 = _
    rw [ih, List.map_cons]
    refine congrArg _ (List.map_congr_left fun later _ => ?_)
    exact snd_interpolate_congr (c.loadedBlocks_interpolate bindings) later

/-- **After a run, a block has the last answer**, or what it had before. -/
theorem blocks_run (c : Config) (calls : List Bindings) :
    (c.run calls).1.blocks = c.blocks.mapIdx fun place block =>
      block.withResolution
        ((calls.filterMap (c.answer place)).getLast?.or block.body.resolution) := by
  induction calls generalizing c with
  | nil =>
    refine List.ext_getElem? fun place => ?_
    rw [List.getElem?_mapIdx]
    cases hblock : c.blocks[place]? with
    | none => exact hblock
    | some block => exact hblock.trans (congrArg some block.withResolution_self.symm)
  | cons bindings rest ih =>
    -- The later calls start from what the first has left, which they take no notice of: they answer
    -- as at the start, and what they leave open is what the first call put there.
    show ((c.interpolate bindings).1.run rest).1.blocks = _
    rw [ih, blocks_interpolate, List.mapIdx_mapIdx, List.mapIdx_eq_mapIdx_iff]
    intro place _
    have hanswer : (c.interpolate bindings).1.answer place = c.answer place :=
      funext (answer_congr (c.loadedBlocks_interpolate bindings) place)
    rw [Function.comp_apply, hanswer, Block.withResolution_withResolution,
      Block.body_withResolution, List.filterMap_cons]
    cases c.answer place bindings with
    | none => rfl
    | some resolution =>
      rw [List.getLast?_cons]
      cases (rest.filterMap (c.answer place)).getLast? <;> rfl

/-- A run changes nothing but the blocks either. -/
theorem exists_run_eq (c : Config) (calls : List Bindings) :
    ∃ files resources, (c.run calls).1 = { c with files, resources } := by
  induction calls generalizing c with
  | nil => exact ⟨c.files, c.resources, rfl⟩
  | cons bindings rest ih =>
    obtain ⟨files, resources, hrest⟩ := ih (c.interpolate bindings).1
    obtain ⟨files', resources', hfirst⟩ := c.exists_interpolate_eq bindings
    refine ⟨files, resources, hrest.trans ?_⟩
    rw [hfirst]

/-! ## 4. Runs from the start -/

/-- A configuration that has not been interpolated, in which every body is a mapping whose entries
have keys. -/
structure Fresh (c : Config) : Prop where
  unresolved : ∀ block ∈ c.blocks, block.body.resolution = none
  keyed : ∀ block ∈ c.blocks, block.body.raw.Keyed

/-- The first block of a configuration that cannot be resolved, the template in it that fails, and
the cause. -/
def FirstFails (c : Config) (bindings : Bindings) (block : Block) (site : Site) (cause : Cause) :
    Prop :=
  ∃ before after, c.blocks = before ++ block :: after
    ∧ (∀ earlier ∈ before, ∃ resolution, earlier.body.resolve bindings = .ok resolution)
    ∧ block.body.FirstFails bindings site cause

/-- A call that fails blames the first template that fails in the first block that fails, with the
path of the template behind that of the block, and the document of the block. -/
theorem Fresh.snd_interpolate_eq_some_iff (h : c.Fresh) {bindings : Bindings} {fault : Fault} :
    (c.interpolate bindings).2 = some fault
      ↔ ∃ block site cause, c.FirstFails bindings block site cause
        ∧ fault = { Fault.of cause with
            path := some (block.id ++ "." ++ site.path)
            location := some { file := block.source } } := by
  have hfails : ∀ block ∈ c.blocks, block.interpolate bindings = .error fault
      ↔ ∃ site cause, block.body.FirstFails bindings site cause
        ∧ fault = { Fault.of cause with
            path := some (block.id ++ "." ++ site.path)
            location := some { file := block.source } } := by
    intro block hblock
    rw [← error?_eq_some_iff, Block.error?_interpolate, Option.map_eq_some_iff]
    simp only [error?_eq_some_iff, Body.resolve_eq_error_iff (h.keyed block hblock)]
    constructor
    · rintro ⟨_, ⟨site, cause, hfirst, rfl⟩, rfl⟩
      exact ⟨site, cause, hfirst, rfl⟩
    · rintro ⟨site, cause, hfirst, rfl⟩
      exact ⟨_, ⟨site, cause, hfirst, rfl⟩, rfl⟩
  rw [snd_interpolate, findSome?_error?_eq_some_iff]
  simp only [Block.exists_interpolate_eq_ok_iff]
  constructor
  · rintro ⟨before, block, after, hblocks, hbefore, hfault⟩
    have hblock : block ∈ c.blocks := hblocks ▸ List.mem_append_right _ List.mem_cons_self
    obtain ⟨site, cause, hfirst, rfl⟩ := (hfails block hblock).mp hfault
    exact ⟨block, site, cause, ⟨before, after, hblocks, hbefore, hfirst⟩, rfl⟩
  · rintro ⟨block, site, cause, ⟨before, after, hblocks, hbefore, hfirst⟩, hfault⟩
    have hblock : block ∈ c.blocks := hblocks ▸ List.mem_append_right _ List.mem_cons_self
    exact ⟨before, block, after, hblocks, hbefore,
      (hfails block hblock).mpr ⟨site, cause, hfirst, hfault⟩⟩

/-- A call succeeds if all blocks can be resolved. -/
theorem snd_interpolate_eq_none_iff {bindings : Bindings} :
    (c.interpolate bindings).2 = none
      ↔ ∀ block ∈ c.blocks, ∃ resolution, block.body.resolve bindings = .ok resolution := by
  simp only [snd_interpolate, List.findSome?_eq_none_iff, error?_eq_none_iff,
    Block.exists_interpolate_eq_ok_iff]

/-- **Interpolation keeps the last resolution of each block**, whatever calls succeed or fail in
between.  After a run of calls each block is as it was loaded, with the resolution that the last
call gave it that reached it and could resolve it, or with none.  A call succeeds if all blocks can
be resolved.  It fails with the cause that the first template fails with in the first block that
cannot be resolved, at the path of that template in that block, and in the document of that
block. -/
theorem interpolation_keeps_the_last (h : c.Fresh) (calls : List Bindings) :
    (c.run calls).1.blocks
        = c.blocks.mapIdx (fun place block =>
            block.withResolution (calls.filterMap (c.answer place)).getLast?)
      ∧ (∃ files resources, (c.run calls).1 = { c with files, resources })
      ∧ (c.run calls).2.length = calls.length
      ∧ ∀ (call : Nat) (bindings : Bindings), calls[call]? = some bindings →
        ((c.run calls).2[call]? = some none
          ↔ ∀ block ∈ c.blocks, ∃ resolution, block.body.resolve bindings = .ok resolution)
        ∧ ∀ fault, (c.run calls).2[call]? = some (some fault)
          ↔ ∃ block site cause, c.FirstFails bindings block site cause
            ∧ fault = { Fault.of cause with
                path := some (block.id ++ "." ++ site.path)
                location := some { file := block.source } } := by
  refine ⟨?_, c.exists_run_eq calls, ?_, fun call bindings hcall => ?_⟩
  · rw [blocks_run, List.mapIdx_eq_mapIdx_iff]
    intro place hplace
    rw [h.unresolved _ (List.getElem_mem hplace), Option.or_none]
  · rw [snd_run, List.length_map]
  · rw [snd_run, List.getElem?_map, hcall, Option.map_some]
    simp only [Option.some.injEq]
    exact ⟨snd_interpolate_eq_none_iff, fun fault => h.snd_interpolate_eq_some_iff⟩

namespace Example

/-- A file whose content is a variable. -/
def motd : File where
  name := "motd"
  destination := "motd"
  content := some "${var.a}"
  user := none
  group := none
  mode := none
  source := "files.yaml"
  body := {
    key := "file.motd"
    raw := .mapping [("content", .string "${var.a}")]
    templates := [⟨"${var.a}", [.interpolation (.variable "var.a")]⟩]
    references := [⟨"a", "var.a"⟩] }

/-- A resource with another variable. -/
def web : Resource where
  kind := "site"
  name := "web"
  dependsOn := []
  source := "sites.yaml"
  body := {
    key := "site.web"
    raw := .mapping [("port", .string "${var.b}")]
    templates := [⟨"${var.b}", [.interpolation (.variable "var.b")]⟩]
    references := [⟨"b", "var.b"⟩] }

/-- Both of them. -/
def host : Config where
  files := [motd]
  resources := [("site", [web])]

/-- Both variables are bound. -/
def both : Bindings := ⟨[("a", .string "hi"), ("b", .string "80")]⟩

/-- One of them is bound to something else, and the other is missing. -/
def first : Bindings := ⟨[("a", .string "ho")]⟩

theorem answer_content (b : Bindings) : Site.answer b ⟨"content", "${var.a}"⟩
    = (Scope.lookup ⟨b, .builtins⟩ "var.a").map .ofValue := by
  have hparse : Template.parse "${var.a}"
      = .ok ⟨"${var.a}", [.interpolation (.variable "var.a")]⟩ := by
    with_unfolding_all rfl
  rw [Site.answer, hparse]
  rfl

theorem answer_port (b : Bindings) : Site.answer b ⟨"port", "${var.b}"⟩
    = (Scope.lookup ⟨b, .builtins⟩ "var.b").map .ofValue := by
  have hparse : Template.parse "${var.b}"
      = .ok ⟨"${var.b}", [.interpolation (.variable "var.b")]⟩ := by
    with_unfolding_all rfl
  rw [Site.answer, hparse]
  rfl

theorem fresh_host : host.Fresh := by
  constructor
  · intro block hblock
    rcases List.mem_cons.mp hblock with rfl | hblock
    · rfl
    · obtain rfl := List.mem_singleton.mp hblock
      rfl
  · intro block hblock
    rcases List.mem_cons.mp hblock with rfl | hblock
    · exact ⟨_, rfl, by decide⟩
    · obtain rfl := List.mem_singleton.mp hblock
      exact ⟨_, rfl, by decide⟩

/-- A body with one template is resolved to what the template comes to. -/
theorem resolve_outcome {body : Body} {b : Bindings} {key text : String} {outcome : Outcome}
    (hraw : body.raw = .mapping [(key, .string text)]) (htemplate : Template.isTemplate text = true)
    (hanswer : Site.answer b ⟨key, text⟩ = .ok outcome) :
    body.resolve b = .ok ⟨.mapping [(key, (Traversal.ofOutcome key outcome).value)],
      (Traversal.ofOutcome key outcome).unknownPaths⟩ := by
  have hentry : Traversal.substituteAt (m := Id) (fun _ t => Scope.fill ⟨b, .builtins⟩ t) key
      (.string text) = .ok (Traversal.ofOutcome key outcome) :=
    (Traversal.substituteAt_template_eq_ok_iff htemplate).mpr ⟨_, hanswer, rfl⟩
  rw [Body.resolve, Body.resolveIn, hraw, Traversal.substitute_singleton hentry]
  rfl

/-- If it comes to a text, nothing is reported. -/
theorem resolve_singleton {body : Body} {b : Bindings} {key text result : String}
    (hraw : body.raw = .mapping [(key, .string text)]) (htemplate : Template.isTemplate text = true)
    (hanswer : Site.answer b ⟨key, text⟩ = .ok (.known (.string result)))
    (hknown : Value.hasUnknown (.string result) = false) :
    body.resolve b = .ok ⟨.mapping [(key, .string result)], []⟩ := by
  rw [resolve_outcome hraw htemplate hanswer, Traversal.ofOutcome, hknown]
  rfl

theorem sites_web : web.body.raw.sites = [⟨"port", "${var.b}"⟩] := by
  rw [Value.sites, Value.sitesAt_eq_parts rfl, web, Value.parts, Fields.sorted,
    List.mergeSort_singleton]
  exact (List.append_nil _).trans (Value.sitesAt_template (by decide +kernel) "port")

/-- The resource cannot be resolved without its variable. -/
theorem firstFails_web :
    web.body.FirstFails first ⟨"port", "${var.b}"⟩ (.unknownVariable "var.b") := by
  exact ⟨[], [], sites_web, fun _ h => (List.not_mem_nil h).elim, answer_port first⟩

/-- The file can. -/
theorem resolve_motd :
    motd.body.resolve first = .ok ⟨.mapping [("content", .string "ho")], []⟩ :=
  resolve_singleton rfl (by decide +kernel) (answer_content first) (by decide +kernel)

theorem resolutions_both : host.resolutions both
    = [.ok ⟨.mapping [("content", .string "hi")], []⟩,
      .ok ⟨.mapping [("port", .string "80")], []⟩] := by
  have hmotd : motd.body.resolve both = _ :=
    resolve_singleton rfl (by decide +kernel) (answer_content both) (by decide +kernel)
  have hweb : web.body.resolve both = _ :=
    resolve_singleton rfl (by decide +kernel) (answer_port both) (by decide +kernel)
  exact congrArg₂ (fun x y => [x, y]) hmotd hweb

theorem resolutions_first : host.resolutions first
    = [.ok ⟨.mapping [("content", .string "ho")], []⟩,
      .error ((Fault.of (.unknownVariable "var.b")).atPath "port")] := by
  have hweb : web.body.resolve first = _ :=
    (Body.resolve_eq_error_iff ⟨_, rfl, by decide⟩).mpr ⟨_, _, firstFails_web, rfl⟩
  exact congrArg₂ (fun x y => [x, y]) resolve_motd hweb

/-- The second call reaches both blocks and fails at the resource, which keeps what the first call
put there. -/
theorem host_keeps_the_last :
    (host.run [both, first]).1.blocks
        = [Block.withResolution (some ⟨.mapping [("content", .string "ho")], []⟩) (.file motd),
          Block.withResolution (some ⟨.mapping [("port", .string "80")], []⟩)
            (.resource "site" web)]
      ∧ (host.run [both, first]).2[1]? = some (some
          { Fault.of (.unknownVariable "var.b") with
            path := some "site.web.port", location := some { file := "sites.yaml" } }) := by
  obtain ⟨hblocks, -, -, hcalls⟩ := interpolation_keeps_the_last fresh_host [both, first]
  constructor
  · rw [hblocks]
    simp only [List.filterMap_cons, answer, reaches, resolutions_both, resolutions_first]
    rfl
  · refine ((hcalls 1 first rfl).2 _).mpr ⟨.resource "site" web, _, _,
      ⟨[.file motd], [], rfl, ?_, firstFails_web⟩, rfl⟩
    intro earlier hearlier
    obtain rfl := List.mem_singleton.mp hearlier
    exact ⟨_, resolve_motd⟩

end Example

end Config

end TemplatedConfig
