/-
# What an export keeps

A configuration may be written out at any time, also when some of its blocks have been resolved and
others have not, because a call of the interpolation failed in between.  A resource is written out
with the fields of its current body, and with none if that is no mapping.  So whether an export is
complete depends on what a body may turn into.

It is loaded as a mapping without dependencies (`Restorable.unresolved_file`,
`Restorable.unresolved_resource`), and substituting in a mapping keeps its keys.  A call therefore
keeps the name, the dependencies and the keys of each block (`Keeps.interpolate`), a run of calls
does so by induction (`Keeps.run`), and the sections of the export list the blocks as they were
loaded, whatever the calls have left in them (`Keeps.writtenIn`).

Main statement: `export_keeps_every_key`.
-/
import TemplatedConfig.Proofs.Config.Rereading
import TemplatedConfig.Proofs.Config.Runs

namespace TemplatedConfig

/-! ## 1. Bodies -/

/-- **Substituting in a mapping keeps its keys.** -/
theorem Traversal.keys_of_substituteAt {eval : String → Template → Except Fault Outcome}
    {path : String} {fields : Fields Value} {r : Substituted}
    (h : substituteAt (m := Id) eval path (.mapping fields) = .ok r) :
    ∃ filled : Fields Value, r.value = .mapping filled ∧ filled.keys = fields.keys := by
  obtain ⟨results, hresults, rfl⟩ := substituteAt_mapping_eq_ok_iff.mp h
  refine ⟨_, rfl, ?_⟩
  rw [Fields.keys_mapValues]
  exact (map_eq_map_of_mapM_eq_ok (fun _ _ => key_of_substituteEntry) hresults).symm

/-- A body as loading leaves it: a mapping that declares no dependencies, and has not been
resolved. -/
structure Body.Unresolved (body : Body) : Prop where
  resolution : body.resolution = none
  mapping : ∃ fields : Fields Value, body.raw = .mapping fields ∧ "depends_on" ∉ fields.keys

/-- A body as it was loaded, and as it is now: still loaded as the same mapping, and at present a
mapping with the same keys. -/
structure Body.Keeps (loaded body : Body) : Prop where
  raw : body.raw = loaded.raw
  keys : ∃ declared fields : Fields Value,
    loaded.raw = .mapping declared ∧ "depends_on" ∉ declared.keys
    ∧ body.current = .mapping fields ∧ fields.keys = declared.keys

theorem Body.Unresolved.keeps {body : Body} (h : body.Unresolved) : body.Keeps body where
  raw := rfl
  keys := by
    obtain ⟨declared, hraw, hfree⟩ := h.mapping
    have hcurrent : body.current = .mapping declared := by
      rw [Body.current, h.resolution, hraw]
    exact ⟨declared, declared, hraw, hfree, hcurrent, rfl⟩

/-- **Resolving a body keeps its keys.** -/
theorem Body.Keeps.interpolate {loaded body next : Body} {bindings : Bindings}
    (h : loaded.Keeps body) (hstep : body.interpolate bindings = .ok next) :
    loaded.Keeps next := by
  obtain ⟨resolution, hresolve, hnext⟩ := exists_of_bind_eq_ok hstep
  obtain ⟨replaced, hreplaced, hresolution⟩ := exists_of_bind_eq_ok hresolve
  obtain ⟨declared, -, hraw, hfree, -, -⟩ := h.keys
  rw [h.raw, hraw] at hreplaced
  obtain ⟨filled, hvalue, hkeys⟩ := Traversal.keys_of_substituteAt hreplaced
  cases hresolution
  cases hnext
  exact ⟨h.raw, declared, filled, hraw, hfree, hvalue, hkeys⟩

namespace Config

variable {g : Name.Grammar} {c loaded : Config}

/-! ## 2. Loading -/

/-- A file that can be restored has not been resolved. -/
theorem Restorable.unresolved_file (h : c.Restorable g) {f : File} (hf : f ∈ c.files) :
    f.body.Unresolved := by
  obtain ⟨-, fields, -, hkeys, hbody⟩ := extractFile_eq_ok_iff.mp ((h.files f hf).extracted "")
  obtain ⟨hraw, hresolution⟩ := Body.of_ofValue (File.ofValue_of_ofBody hbody)
  have hfree : "depends_on" ∉ fields.keys := fun hmem => by
    simpa [File.keyNames] using hkeys _ hmem
  exact ⟨hresolution, fields, hraw, hfree⟩

/-- Nor has a resource that can be restored, and it is of the kind that it is declared under. -/
theorem Restorable.unresolved_resource (h : c.Restorable g) {kind : String} {r : Resource}
    (hr : r ∈ c.group kind) : r.kind = kind ∧ r.body.Unresolved := by
  obtain ⟨-, fields, _, kept, -, -, hkept, hagain⟩ :=
    extractResource_eq_ok_iff.mp ((h.groups kind r hr).extracted "")
  obtain ⟨hraw, hresolution⟩ := Body.of_ofValue hkept
  have hkind : r.kind = kind := congrArg Resource.kind hagain
  have hbody : r.body = kept := congrArg Resource.body hagain
  rw [hbody]
  exact ⟨hkind, hresolution, _, hraw, Fields.not_mem_keys_erase fields _⟩

/-! ## 3. Runs -/

/-- A file as it was loaded, and as it is now. -/
structure KeepsFile (loaded f : File) : Prop where
  name : f.name = loaded.name
  body : loaded.body.Keeps f.body

/-- A resource as it was loaded, and as it is now. -/
structure KeepsResource (loaded r : Resource) : Prop where
  name : r.name = loaded.name
  dependsOn : r.dependsOn = loaded.dependsOn
  body : loaded.body.Keeps r.body

/-- A configuration as it was loaded, and as it is now: the same blocks in the same order, each with
the keys that it was loaded with. -/
structure Keeps (loaded c : Config) : Prop where
  inputs : c.inputs = loaded.inputs
  files : List.Forall₂ KeepsFile loaded.files c.files
  resources : List.Forall₂ (GroupFrom KeepsResource) loaded.resources c.resources

theorem Restorable.keeps (h : c.Restorable g) : c.Keeps c where
  inputs := rfl
  files := List.forall₂_same.mpr fun _ hf => ⟨rfl, (h.unresolved_file hf).keeps⟩
  resources := List.forall₂_same.mpr fun group hgroup => by
    refine ⟨rfl, List.forall₂_same.mpr fun r hr => ?_⟩
    rw [← group_of_mem h.distinct.kinds hgroup] at hr
    exact ⟨rfl, rfl, (h.unresolved_resource hr).2.keeps⟩

theorem KeepsFile.interpolate {loaded f next : File} {bindings : Bindings}
    (h : KeepsFile loaded f) (hstep : interpolateFile bindings f = .ok next) :
    KeepsFile loaded next := by
  obtain ⟨body, hbody, hnext⟩ := exists_of_bind_eq_ok hstep
  cases hnext
  exact ⟨h.name, h.body.interpolate (mapError_eq_ok_iff.mp hbody)⟩

theorem KeepsResource.interpolate {loaded r next : Resource} {bindings : Bindings}
    (h : KeepsResource loaded r) (hstep : interpolateResource bindings r = .ok next) :
    KeepsResource loaded next := by
  obtain ⟨body, hbody, hnext⟩ := exists_of_bind_eq_ok hstep
  cases hnext
  exact ⟨h.name, h.dependsOn, h.body.interpolate (mapError_eq_ok_iff.mp hbody)⟩

/-- **A call keeps the blocks and their keys**, whether it succeeds or not. -/
theorem Keeps.interpolate (h : loaded.Keeps c) (bindings : Bindings) :
    loaded.Keeps (c.interpolate bindings).1 := by
  have hfile : ∀ loaded f next, KeepsFile loaded f → interpolateFile bindings f = .ok next →
      KeepsFile loaded next := fun _ _ _ hkept hstep => hkept.interpolate hstep
  have hresource : ∀ loaded r next, KeepsResource loaded r →
      interpolateResource bindings r = .ok next → KeepsResource loaded next :=
    fun _ _ _ hkept hstep => hkept.interpolate hstep
  have hfiles := forall₂_stepUntilFault hfile h.files
  have hresources := forall₂_stepGroupsUntilFault hresource h.resources
  rw [Config.interpolate]
  rcases hpass : stepUntilFault (interpolateFile bindings) c.files with ⟨files, _ | fault⟩
  · rw [hpass] at hfiles
    exact ⟨h.inputs, hfiles, hresources⟩
  · rw [hpass] at hfiles
    exact ⟨h.inputs, hfiles, h.resources⟩

/-- **So does a run of calls.** -/
theorem Keeps.run (h : loaded.Keeps c) (calls : List Bindings) :
    loaded.Keeps (c.run calls).1 := by
  induction calls generalizing c with
  | nil => exact h
  | cons bindings rest ih => exact ih (h.interpolate bindings)

/-! ## 4. Exports -/

/-- The entry that a block is written as: its name, and a mapping with the keys that the block was
loaded with, behind which stand the dependencies if there are any. -/
def WrittenAs (name : String) (body : Body) (dependsOn : List String) (entry : String × Value) :
    Prop :=
  ∃ declared fields : Fields Value, body.raw = .mapping declared ∧ "depends_on" ∉ declared.keys
    ∧ entry = (name, .mapping fields)
    ∧ fields.keys = declared.keys ++ if dependsOn = [] then [] else ["depends_on"]

/-- A section in which blocks are listed: one entry for each in the same order, and none under the
name of another. -/
def ListsAll {α : Type} (writtenAs : α → String × Value → Prop) (blocks : List α) (v : Value) :
    Prop :=
  ∃ entries : Fields Value, v = .mapping entries ∧ entries.keys.Nodup
    ∧ List.Forall₂ writtenAs blocks entries

/-- The sections that list the blocks of a configuration as they were loaded. -/
structure WrittenIn (c : Config) (sections : Fields Value) : Prop where
  keys : sections.keys = (if c.inputs = [] then [] else ["variable"])
    ++ ((if c.files = [] then [] else ["file"]) ++ c.resources.keys)
  distinct : sections.keys.Nodup
  files : c.files ≠ [] → ∃ v, sections.get? "file" = some v
    ∧ ListsAll (fun f => WrittenAs f.name f.body []) c.files v
  resources : ∀ kind ∈ c.resources.keys, ∃ v, sections.get? kind = some v
    ∧ ListsAll (fun r => WrittenAs r.name r.body r.dependsOn) (c.group kind) v

/-- Entries that are written one by one list the blocks if the blocks have different names. -/
theorem listsAll_ofList {α β : Type} {R : α → β → Prop} {nameOf : α → String}
    {entryOf : β → String × Value} {writtenAs : α → String × Value → Prop} {blocks : List α}
    {now : List β} (hnames : (blocks.map nameOf).Nodup) (h : List.Forall₂ R blocks now)
    (hname : ∀ a b, R a b → (entryOf b).1 = nameOf a)
    (hentry : ∀ a b, R a b → writtenAs a (entryOf b)) :
    ListsAll writtenAs blocks (.mapping (Fields.ofList (now.map entryOf))) := by
  have hkeys : Fields.keys (now.map entryOf) = blocks.map nameOf := by
    rw [Fields.keys, List.map_map]
    clear hnames
    induction h with
    | nil => rfl
    | cons hfirst _ ih => exact congrArg₂ _ (hname _ _ hfirst) ih
  have hdistinct : (Fields.keys (now.map entryOf)).Nodup := hkeys ▸ hnames
  rw [Fields.ofList_eq_self hdistinct]
  exact ⟨_, rfl, hdistinct, List.forall₂_map_right_iff.mpr (h.imp hentry)⟩

/-- A file is written with its current body. -/
theorem KeepsFile.writtenAs {loaded f : File} (h : KeepsFile loaded f) :
    WrittenAs loaded.name loaded.body [] (f.name, f.current) := by
  obtain ⟨declared, fields, hraw, hfree, hcurrent, hkeys⟩ := h.body.keys
  exact ⟨declared, fields, hraw, hfree, Prod.ext h.name hcurrent,
    hkeys.trans (List.append_nil _).symm⟩

/-- A resource is written with its current body, and its dependencies are put back behind it. -/
theorem KeepsResource.writtenAs {loaded r : Resource} (h : KeepsResource loaded r) :
    WrittenAs loaded.name loaded.body loaded.dependsOn (r.name, r.toValue) := by
  obtain ⟨declared, fields, hraw, hfree, hcurrent, hkeys⟩ := h.body.keys
  refine ⟨declared, _, hraw, hfree, Prod.ext h.name rfl, ?_⟩
  have hfields : (r.current.fields?).getD [] = fields := by
    rw [Resource.current, hcurrent]
    rfl
  rw [hfields, h.dependsOn, ← hkeys]
  split
  · exact (List.append_nil _).symm
  · rw [Fields.insert_of_not_mem (hkeys ▸ hfree), Fields.keys, List.map_append]
    rfl

/-- The keys of the sections that a configuration is written out in. -/
theorem keys_sections (c : Config) :
    c.sections.keys = (if c.inputs = [] then [] else ["variable"])
      ++ ((if c.files = [] then [] else ["file"]) ++ c.resources.keys) := by
  have hsection : ∀ {α : Type} (key : String) (blocks : List α) (entryOf : α → String × Value),
      Fields.keys (sectionOf key (blocks.map entryOf)) = if blocks = [] then [] else [key] := by
    intro _ key blocks entryOf
    cases blocks <;> rfl
  have hkinds : (c.resources.mapValues writtenGroup).keys = c.resources.keys :=
    Fields.keys_mapValues _ _
  rw [sections, Fields.keys, List.map_append, List.map_append]
  exact congrArg₂ _ (hsection _ _ _) (congrArg₂ _ (hsection _ _ _) hkinds)

/-- What a configuration keeps is found under the same kinds. -/
theorem Keeps.kinds (h : loaded.Keeps c) : c.resources.keys = loaded.resources.keys := by
  have hkinds : ∀ {origins groups : Fields (List Resource)},
      List.Forall₂ (GroupFrom KeepsResource) origins groups → groups.keys = origins.keys := by
    intro _ _ hgroups
    induction hgroups with
    | nil => rfl
    | cons hfirst _ ih => exact congrArg₂ List.cons hfirst.1 ih
  exact hkinds h.resources

/-- The resources of a kind are those that were loaded. -/
theorem Keeps.group (h : loaded.Keeps c) (kind : String) :
    List.Forall₂ KeepsResource (loaded.group kind) (c.group kind) := by
  have hgroup : ∀ {origins groups : Fields (List Resource)},
      List.Forall₂ (GroupFrom KeepsResource) origins groups →
        List.Forall₂ KeepsResource ((origins.get? kind).getD []) ((groups.get? kind).getD []) := by
    intro _ _ hgroups
    induction hgroups with
    | nil => exact .nil
    | cons hfirst _ ih =>
      rw [Fields.get?, Fields.get?, hfirst.1]
      split
      · exact hfirst.2
      · exact ih
  exact hgroup h.resources

/-- **Every resource has fields to be written out with.** -/
theorem Keeps.exists_fields (h : loaded.Keeps c) {r : Resource} (hr : r ∈ c.allResources) :
    ∃ fields, r.current.fields? = some fields := by
  have hall : List.Forall₂ KeepsResource loaded.allResources c.allResources :=
    List.rel_flatMap h.resources fun _ _ hgroup => hgroup.2
  have hfields : ∀ a b, KeepsResource a b →
      (∃ fields, b.current.fields? = some fields) ∧ KeepsResource a b := fun _ b hkept => by
    obtain ⟨-, fields, -, -, hcurrent, -⟩ := hkept.body.keys
    exact ⟨⟨fields, congrArg Value.fields? hcurrent⟩, hkept⟩
  exact ((List.forall₂_and_left _ _).mp (hall.imp hfields).flip).1 r hr

/-- **What is kept is written out.** -/
theorem Keeps.writtenIn (h : loaded.Keeps c) (hloaded : loaded.Restorable g) :
    loaded.WrittenIn c.sections := by
  have hapart : c.KindsApart := by
    refine ⟨?_, ?_⟩
    · rw [h.kinds]
      exact hloaded.distinct.kinds
    · rw [h.kinds]
      exact hloaded.kinds
  refine ⟨?keys, hapart.nodup_sections, fun hfiles => ?files, fun kind hkind => ?resources⟩
  case keys =>
    have hnone : c.files = [] ↔ loaded.files = [] := by
      rw [← List.length_eq_zero_iff, ← List.length_eq_zero_iff, h.files.length_eq]
    rw [keys_sections, h.inputs, h.kinds]
    simp only [hnone]
  case files =>
    refine ⟨_, ?_, listsAll_ofList hloaded.distinct.files h.files (fun _ _ hkept => hkept.name)
      fun _ _ hkept => hkept.writtenAs⟩
    have hsome : c.files ≠ [] := fun hnone =>
      hfiles (List.length_eq_zero_iff.mp (h.files.length_eq.trans (congrArg _ hnone)))
    rw [hapart.get?_sections_file, sectionOf, if_neg (List.map_eq_nil_iff.not.mpr hsome),
      Fields.get?, if_pos rfl]
  case resources =>
    refine ⟨_, hapart.get?_sections_kind (h.kinds ▸ hkind), ?_⟩
    exact listsAll_ofList (hloaded.distinct.groups kind) (h.group kind)
      (fun _ _ hkept => hkept.name) fun _ _ hkept => hkept.writtenAs

/-- **An export keeps every block and every key.**  However a configuration was loaded, and whatever
calls of the interpolation succeeded or failed since, it is written out in a section for its
variables, one for its files and one for each kind of resource, those of the variables and the files
being left out if there are none.  Each section lists the blocks that were loaded, in their order
and one entry for each.  The entry is a mapping with the keys of the body as it was declared, behind
which stand the dependencies if there are any.  Every resource has fields to be written out, so none
is written as an empty mapping in place of something else. -/
theorem export_keeps_every_key (h : c.Assembled g) (calls : List Bindings) :
    (∃ sections, (c.run calls).1.toValue = .mapping sections ∧ c.WrittenIn sections)
      ∧ ∀ r ∈ (c.run calls).1.allResources, ∃ fields, r.current.fields? = some fields := by
  have hloaded := h.restorable
  have hkept := hloaded.keeps.run calls
  have hwritten := hkept.writtenIn hloaded
  refine ⟨⟨_, toValue_eq _, ?_⟩, fun r hr => hkept.exists_fields hr⟩
  rw [Fields.ofList_eq_self hwritten.distinct]
  exact hwritten

namespace Example

/-- A file, and a resource with a variable that depends on the file. -/
def greeter : Fields Document :=
  [("file", .mapping [("motd", .mapping [("destination", .string "motd")])]),
    ("site", .mapping [("web", .mapping
      [("depends_on", .sequence [.string "file.motd"]), ("port", .string "${var.b}")])])]

/-- The document as a text. -/
def greeterText : String :=
  "\x7b\"file\":\x7b\"motd\":\x7b\"destination\":\"motd\"\x7d\x7d," ++
    "\"site\":\x7b\"web\":\x7b\"depends_on\":[\"file.motd\"]," ++
    "\"port\":\"$\x7bvar.b\x7d\"\x7d\x7d\x7d"

/-- What it declares. -/
def greeting : Config where
  files := [{ motd with
    content := none
    source := "greeter.json"
    body := { key := "file.motd", raw := .mapping [("destination", .string "motd")]
              templates := [], references := [] } }]
  resources := [("site", [{ web with dependsOn := ["file.motd"], source := "greeter.json" }])]

theorem read_greeterText : Format.json.read? greeterText = some (.mapping greeter) := by cbv

theorem ofValue_web : Body.ofValue "site.web" (.mapping [("port", .string "${var.b}")])
    = .ok web.body := by
  have hparse : Template.parse "${var.b}"
      = .ok ⟨"${var.b}", [.interpolation (.variable "var.b")]⟩ := by
    with_unfolding_all rfl
  have hvisit : Traversal.visitSite (m := Id) (fun _ t => Body.inspect t) ⟨"port", "${var.b}"⟩
      = (.ok (⟨"${var.b}", [.interpolation (.variable "var.b")]⟩, [⟨"b", "var.b"⟩])
        : Except Fault (Template × List Reference)) := by
    rw [Traversal.visitSite_pure, hparse]
    rfl
  have hfound : Traversal.visitAll (m := Id) (fun _ t => Body.inspect t)
      (.mapping [("port", .string "${var.b}")])
      = (.ok [(⟨"${var.b}", [.interpolation (.variable "var.b")]⟩, [⟨"b", "var.b"⟩])]
        : Except Fault (List (Template × List Reference))) := by
    have hsites : (Value.mapping [("port", .string "${var.b}")]).sites = _ := sites_web
    rw [Traversal.visitAll, hsites, Traversal.mapM_pure, List.mapM_cons, hvisit]
    rfl
  have honce : [(⟨"b", "var.b"⟩ : Reference)].eraseDups = [⟨"b", "var.b"⟩] := by decide
  have hcollect : Body.collect [⟨"b", "var.b"⟩] = [⟨"b", "var.b"⟩] := by
    rw [Body.collect, honce, List.mergeSort_singleton]
  simp only [Body.ofValue, Body.normalized, hfound]
  exact congrArg (fun references => Except.ok { web.body with references }) hcollect

/-- A section with one resource declares the resource. -/
theorem extractGroup_singleton {o : Origin} {kind name : String} {v : Value} {r : Resource}
    (h : extractResource o kind name v = .ok r) :
    extractGroup o (kind, .mapping [(name, v)]) = .ok (kind, [r]) :=
  map_eq_ok_iff.mpr ⟨[_], mapM_eq_ok_iff.mpr (congrArg (fun r => [r]) h), rfl⟩

theorem parse_greeterText :
    parse greeterText .json "greeter.json" Name.Grammar.standard = .ok greeting := by
  have honce : DeclaredOnce greeter := ⟨by decide, by decide⟩
  have hweb : extractResource { label := "greeter.json", grammar := Name.Grammar.standard } "site"
      "web" (.mapping [("depends_on", .sequence [.string "file.motd"]),
        ("port", .string "${var.b}")])
      = .ok { web with dependsOn := ["file.motd"], source := "greeter.json" } :=
    extractResource_eq_ok_iff.mpr ⟨by with_unfolding_all rfl, _, _, _, rfl,
      by with_unfolding_all rfl, ofValue_web, rfl⟩
  rw [parse, parseWith, read_greeterText]
  refine ofDocument_mapping_eq_ok_iff.mpr ⟨honce, (ofFields_eq_ok_iff (by decide)).mpr
    ⟨[], greeting.files, greeting.resources, rfl, by with_unfolding_all rfl, ?_, rfl⟩⟩
  exact mapM_eq_ok_iff.mpr (congrArg (fun r => [r]) (extractGroup_singleton hweb))

/-- Without the variable of the resource, the file is resolved and the resource is not.  Both are
written out, the resource with its dependencies. -/
theorem greeting_is_exported :
    ∃ sections fields : Fields Value, (greeting.run [first]).1.toValue = .mapping sections
      ∧ sections.keys = ["file", "site"]
      ∧ sections.get? "site" = some (.mapping [("web", .mapping fields)])
      ∧ fields.keys = ["port", "depends_on"] := by
  obtain ⟨⟨sections, hvalue, hwritten⟩, -⟩ :=
    export_keeps_every_key (.parsed parse_greeterText) [first]
  obtain ⟨_, hsite, entries, rfl, -, hentries⟩ := hwritten.resources "site" (by decide)
  obtain ⟨entry, _, hentry, hnone, rfl⟩ := (List.forall₂_cons_left_iff).mp hentries
  obtain rfl := List.forall₂_nil_left_iff.mp hnone
  obtain ⟨_, fields, hraw, -, rfl, hkeys⟩ := hentry
  cases hraw
  exact ⟨sections, fields, hvalue, hwritten.keys, hsite, hkeys⟩

end Example

end Config

end TemplatedConfig
