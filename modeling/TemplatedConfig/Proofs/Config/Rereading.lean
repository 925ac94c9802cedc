/-
# A configuration that is written out and read back

A configuration is written out as a value, and the value is a document like any other.  Reading it
gives what was written out, except that every block now comes from the one document that was read
(`rereading_restores`).

This is a property of one declaration at a time.  From the body that it is written with, each is
extracted again (`Restores`): a variable because its default is in canonical form, a file because it
keeps its body, a resource because its dependencies are put back where they were taken out.
Merging only collects declarations, so what it gives is restored too.  What remains is that the
sections do not get into each other's way, which they could only do if a name was declared twice.
-/
import TemplatedConfig.Proofs.Config.Coverage
import TemplatedConfig.Proofs.Config.Gathering
import TemplatedConfig.Proofs.Config.Loading
import TemplatedConfig.Config.Basic

namespace TemplatedConfig

/-- The file as another document declares it. -/
def File.withSource (f : File) (label : String) : File := { f with source := label }

/-- The resource as another document declares it. -/
def Resource.withSource (r : Resource) (label : String) : Resource := { r with source := label }

namespace Config

/-! ## 1. Declarations -/

/-- A declaration is restored from a body: the body repeats no key, and whatever document it is
found in, the declaration is extracted from it, as one of that document. -/
structure Restores {α : Type} (g : Name.Grammar) (body : Value) (extract : Origin → Except Fault α)
    (again : String → α) : Prop where
  keys : body.KeysDistinct
  extracted : ∀ label, extract { label, grammar := g } = .ok (again label)

variable {o : Origin} {g : Name.Grammar}

/-- The keys that a declaration of a variable is written with. -/
theorem keys_declaration (v : Variable) : v.declaration.keys.Sublist variableKeyNames := by
  have hpart : ∀ {α : Type} (key : String) (f : α → Value) (given : Option α),
      (Fields.keys (given.toList.map fun a => (key, f a))).Sublist [key] := by
    intro _ key f given
    cases given with
    | none => exact List.nil_sublist _
    | some a => exact List.Sublist.refl _
  rw [Variable.declaration, Fields.keys, List.map_append, List.map_append]
  exact ((hpart "type" _ _).append (hpart "default" _ _)).append (hpart "description" _ _)

/-- What a declaration says about a variable is found under its keys. -/
theorem get?_declaration (v : Variable) :
    v.declaration.get? "type" = v.declared.map .string
      ∧ v.declaration.get? "default" = v.default
      ∧ v.declaration.get? "description" = v.description.map .string := by
  rcases v with ⟨name, _ | word, _ | default, _ | text⟩ <;> exact ⟨rfl, rfl, rfl⟩

/-- A string that is written under a key is found there. -/
theorem stringIfGiven_eq_ok {kind name key : String} {fields : Fields Value} {text : Option String}
    (h : fields.get? key = text.map .string) : stringIfGiven o kind name fields key = .ok text := by
  rw [stringIfGiven, h]
  cases text <;> rfl

/-- A default that is found is not null. -/
theorem of_defaultIn_eq_some {fields : Fields Value} {default : Value}
    (h : defaultIn fields = some default) :
    default ≠ .null ∧ fields.get? "default" = some default := by
  unfold defaultIn at h
  split at h
  · cases h
  · rename_i hnull
    exact ⟨fun hsame => hnull (by rw [h, hsame]), h⟩

/-- **A variable is restored** from its declaration if it is normalized and its default is not
null. -/
theorem restores_of_normalize {v : Variable} (hname : g.accepts v.name = true)
    (hnormal : v.normalize = .ok v)
    (hdefault : ∀ default, v.default = some default → default ≠ .null ∧ default.KeysDistinct) :
    Restores g v.toValue (extractVariable · v.name v.toValue) fun _ => v := by
  obtain ⟨htype, hwritten, htext⟩ := get?_declaration v
  refine ⟨⟨(by decide : variableKeyNames.Nodup).sublist (keys_declaration v), ?_⟩, fun label => ?_⟩
  · rw [Value.fieldsKeysDistinct_iff]
    intro e he
    simp only [Variable.declaration, List.mem_append, List.mem_map, Option.mem_toList] at he
    rcases he with (⟨word, -, rfl⟩ | ⟨default, hsome, rfl⟩) | ⟨text, -, rfl⟩
    · trivial
    · exact (hdefault default hsome).2
    · trivial
  · have hread : defaultIn v.declaration = v.default := by
      rw [defaultIn, hwritten]
      split
      · rename_i hnull
        exact ((hdefault _ hnull).1 rfl).elim
      · rfl
    refine extractVariable_eq_ok_iff.mpr ⟨hname, v.declaration, v.declared, v.description, rfl,
      fun key hkey => (keys_declaration v).subset hkey, stringIfGiven_eq_ok htype,
      stringIfGiven_eq_ok htext, ?_⟩
    rw [hread]
    exact hnormal

/-- The default of a variable that has been extracted is the canonical form of what is written,
which is not null. -/
theorem exists_default_of_extractVariable {name : String} {body : Value} {v : Variable}
    (h : extractVariable o name body = .ok v) {default : Value} (hsome : v.default = some default) :
    ∃ fields written, bodyFields o "variable" name body = .ok fields
      ∧ fields.get? "default" = some written ∧ written ≠ .null ∧ default = written.canonical := by
  obtain ⟨-, fields, declared, description, hfields, -, -, -, hv⟩ := extractVariable_eq_ok_iff.mp h
  rw [(Variable.normalize_eq_ok_iff.mp hv).2.2] at hsome
  obtain ⟨written, hwritten, rfl⟩ := Option.map_eq_some_iff.mp hsome
  obtain ⟨hnull, hget⟩ := of_defaultIn_eq_some hwritten
  exact ⟨fields, written, hfields, hget, hnull, rfl⟩

/-- A variable that has been extracted is so. -/
theorem restores_variable {name : String} {body : Value} {v : Variable}
    (hbody : body.KeysDistinct) (h : extractVariable o name body = .ok v) :
    Restores o.grammar v.toValue (extractVariable · v.name v.toValue) fun _ => v := by
  obtain ⟨⟨rfl, hname⟩, hnormal⟩ := of_extractVariable h
  refine restores_of_normalize hname hnormal fun default hsome => ?_
  obtain ⟨fields, written, hfields, hget, hnull, rfl⟩ := exists_default_of_extractVariable h hsome
  refine ⟨Value.canonical_ne_null hnull, Value.KeysDistinct.canonical ?_⟩
  rcases bodyFields_eq_ok_iff.mp hfields with ⟨-, rfl⟩ | rfl
  · cases hget
  · exact hbody.get? hget

/-- **A file is restored** from its body. -/
theorem restores_file {name : String} {body : Value} {f : File} (hbody : body.KeysDistinct)
    (h : extractFile o name body = .ok f) :
    Restores o.grammar f.current (extractFile · f.name f.current) f.withSource := by
  obtain ⟨hname, fields, hfields, hkeys, hf⟩ := extractFile_eq_ok_iff.mp h
  obtain ⟨rfl, hcurrent, hagain⟩ := File.of_ofBody hf
  rw [hcurrent]
  refine ⟨?_, fun label => extractFile_eq_ok_iff.mpr ⟨hname, fields, rfl, hkeys, hagain label⟩⟩
  rcases bodyFields_eq_ok_iff.mp hfields with ⟨-, rfl⟩ | rfl
  · exact ⟨List.nodup_nil, trivial⟩
  · exact hbody

/-- Strings that are put in a list are the strings of the list. -/
theorem strings?_sequence (names : List String) :
    strings? (.sequence (names.map .string)) = some names := by
  show (names.map Value.string).mapM Value.text? = some names
  induction names with
  | nil => rfl
  | cons name rest ih =>
    rw [List.map_cons, List.mapM_cons, ih]
    rfl

/-- Dependencies that are put back are found again. -/
theorem dependencies_insert {kind name : String} {fields : Fields Value} {names : List String} :
    dependencies o kind name
      (fields.insert "depends_on" (.sequence (names.map .string))) = .ok names := by
  rw [dependencies, Fields.get?_insert, if_pos rfl]
  simp only [strings?_sequence]

/-- **A resource is restored** from its body, with its dependencies put back. -/
theorem restores_resource {kind name : String} {body : Value} {r : Resource}
    (hbody : body.KeysDistinct) (h : extractResource o kind name body = .ok r) :
    Restores o.grammar r.toValue (extractResource · kind r.name r.toValue) r.withSource := by
  obtain ⟨hname, fields, dependsOn, kept, hfields, -, hkept, rfl⟩ := extractResource_eq_ok_iff.mp h
  have hkeys : (Value.mapping (fields.erase "depends_on")).KeysDistinct := by
    rcases bodyFields_eq_ok_iff.mp hfields with ⟨-, rfl⟩ | rfl
    · exact ⟨List.nodup_nil, trivial⟩
    · exact hbody.filter _
  have hgone := Fields.not_mem_keys_erase fields "depends_on"
  have hwritten : Resource.toValue { kind, name, body := kept, dependsOn, source := o.label }
      = .mapping (if dependsOn = [] then fields.erase "depends_on"
        else (fields.erase "depends_on").insert "depends_on"
          (.sequence (dependsOn.map .string))) := by
    rw [Resource.toValue, Resource.current, Body.current_of_ofValue hkept]
    rfl
  rw [hwritten]
  split
  · rename_i hnone
    subst hnone
    refine ⟨hkeys, fun label => extractResource_eq_ok_iff.mpr
      ⟨hname, _, [], kept, rfl, ?_, ?_, rfl⟩⟩
    · rw [dependencies, Fields.get?_eq_none hgone]
    · rwa [Fields.erase_eq_self hgone]
  · have hnames : (Value.sequence (dependsOn.map .string)).KeysDistinct := by
      refine Value.itemsKeysDistinct_iff.mpr fun v hv => ?_
      obtain ⟨_, -, rfl⟩ := List.mem_map.mp hv
      trivial
    refine ⟨hkeys.insert _ hnames, fun label => extractResource_eq_ok_iff.mpr
      ⟨hname, _, dependsOn, kept, rfl, dependencies_insert, ?_, rfl⟩⟩
    rwa [Fields.erase_insert hgone]

/-! ## 2. Sections -/

section

variable {α : Type} {kind : String} {extract : String → Value → Except Fault α}
  {nameOf : α → String} {bodyOf : α → Value} {again : α → α} {blocks : List α}

/-- **The blocks of a section are extracted again** if no two have the same name. -/
theorem extractSection_written (hnames : (blocks.map nameOf).Nodup)
    (h : ∀ a ∈ blocks, extract (nameOf a) (bodyOf a) = .ok (again a)) :
    extractSection o kind extract
      (some (.mapping (Fields.ofList (blocks.map fun a => (nameOf a, bodyOf a)))))
      = .ok (blocks.map again) := by
  have hkeys : Fields.keys (blocks.map fun a => (nameOf a, bodyOf a)) = blocks.map nameOf := by
    rw [Fields.keys, List.map_map]
    rfl
  rw [Fields.ofList_eq_self (hkeys ▸ hnames)]
  show (blocks.map fun a => (nameOf a, bodyOf a)).mapM
    (fun e : String × Value => extract e.1 e.2) = _
  rw [mapM_eq_ok_iff, List.map_map, List.map_map]
  exact List.map_congr_left h

/-- The same for a section that is left out if there is nothing in it. -/
theorem extractSection_sectionOf (hnames : (blocks.map nameOf).Nodup)
    (h : ∀ a ∈ blocks, extract (nameOf a) (bodyOf a) = .ok (again a)) :
    extractSection o kind extract
      (Fields.get? (sectionOf kind (blocks.map fun a => (nameOf a, bodyOf a))) kind)
      = .ok (blocks.map again) := by
  cases blocks with
  | nil => rfl
  | cons a rest =>
    rw [sectionOf, if_neg (List.map_eq_nil_iff.not.mpr (List.cons_ne_nil a rest)), Fields.get?,
      if_pos rfl]
    exact extractSection_written hnames h

end

/-- A section has the key that it is written under. -/
theorem keys_sectionOf (key : String) (entries : List (String × Value)) :
    (Fields.keys (sectionOf key entries)).Sublist [key] := by
  unfold sectionOf
  split
  · exact List.nil_sublist _
  · exact List.Sublist.refl _

variable {c other : Config}

/-- The section of a kind of resources. -/
def writtenGroup (group : List Resource) : Value :=
  .mapping (Fields.ofList (group.map fun r => (r.name, r.toValue)))

/-- The sections that a configuration is written out in. -/
def sections (c : Config) : Fields Value :=
  sectionOf "variable" (c.inputs.map fun v => (v.name, v.toValue))
    ++ (sectionOf "file" (c.files.map fun f => (f.name, f.current))
      ++ c.resources.mapValues writtenGroup)

theorem toValue_eq (c : Config) : c.toValue = .mapping (Fields.ofList c.sections) := by
  rw [toValue, List.append_assoc]
  rfl

/-- The sections of the resources have keys of their own: no two kinds are the same, and none is
reserved. -/
structure KindsApart (c : Config) : Prop where
  distinct : c.resources.keys.Nodup
  free : ∀ kind ∈ c.resources.keys, reserved kind = false

/-- Then the sections of a configuration do not get into each other's way. -/
theorem KindsApart.nodup_sections (h : c.KindsApart) : c.sections.keys.Nodup := by
  have hkinds : (c.resources.mapValues writtenGroup).keys = c.resources.keys :=
    Fields.keys_mapValues _ _
  have hreserved : (["variable"] ++ (["file"] ++ c.resources.keys)).Nodup := by
    have hnot : ∀ key, reserved key = true → key ∉ c.resources.keys := fun key hkey hmem => by
      rw [h.free _ hmem] at hkey
      cases hkey
    simpa [hnot "variable" rfl, hnot "file" rfl] using h.distinct
  refine hreserved.sublist ?_
  rw [sections, Fields.keys, List.map_append, List.map_append]
  exact (keys_sectionOf _ _).append ((keys_sectionOf _ _).append (hkinds ▸ List.Sublist.refl _))

/-- The groups of resources have no section under a reserved key. -/
theorem KindsApart.get?_writtenGroups (h : c.KindsApart) {key : String}
    (hkey : reserved key = true) : (c.resources.mapValues writtenGroup).get? key = none := by
  refine Fields.get?_eq_none fun hmem => ?_
  rw [Fields.keys_mapValues] at hmem
  rw [h.free key hmem] at hkey
  cases hkey

/-- A section is found under its key alone. -/
theorem get?_sectionOf_of_ne {key other : String} (hne : other ≠ key)
    (entries : List (String × Value)) : Fields.get? (sectionOf key entries) other = none :=
  Fields.get?_eq_none fun hmem => hne (List.mem_singleton.mp ((keys_sectionOf _ _).subset hmem))

/-- The variables are found under their key. -/
theorem KindsApart.get?_sections_variable (h : c.KindsApart) :
    c.sections.get? "variable"
      = Fields.get? (sectionOf "variable" (c.inputs.map fun v => (v.name, v.toValue)))
          "variable" := by
  have hfile := get?_sectionOf_of_ne (by decide : "variable" ≠ "file")
  rw [sections, Fields.get?_append, Fields.get?_append, hfile, h.get?_writtenGroups rfl,
    Option.or_none, Option.or_none]

/-- The files are found under theirs. -/
theorem KindsApart.get?_sections_file (h : c.KindsApart) :
    c.sections.get? "file"
      = Fields.get? (sectionOf "file" (c.files.map fun f => (f.name, f.current))) "file" := by
  have hvariable := get?_sectionOf_of_ne (by decide : "file" ≠ "variable")
  rw [sections, Fields.get?_append, Fields.get?_append, hvariable, h.get?_writtenGroups rfl,
    Option.or_none, Option.none_or]

/-- The resources of a kind are found under the kind. -/
theorem KindsApart.get?_sections_kind (h : c.KindsApart) {kind : String}
    (hkind : kind ∈ c.resources.keys) :
    c.sections.get? kind = some (writtenGroup (c.group kind)) := by
  have hfree : kind ≠ "variable" ∧ kind ≠ "file" := by
    simpa [reserved] using h.free kind hkind
  obtain ⟨group, hgroup⟩ := Option.isSome_iff_exists.mp (Fields.isSome_get?_iff.mpr hkind)
  rw [sections, Fields.get?_append, Fields.get?_append, get?_sectionOf_of_ne hfree.1,
    get?_sectionOf_of_ne hfree.2, Option.none_or, Option.none_or, Fields.get?_mapValues,
    Config.group, hgroup]
  rfl

/-- A configuration of which everything that is declared can be restored: nothing is declared
twice, each declaration is restored from its body, and no resource is of a reserved kind. -/
structure Restorable (g : Name.Grammar) (c : Config) : Prop where
  distinct : c.Distinct
  inputs : ∀ v ∈ c.inputs, Restores g v.toValue (extractVariable · v.name v.toValue) fun _ => v
  files : ∀ f ∈ c.files, Restores g f.current (extractFile · f.name f.current) f.withSource
  groups : ∀ kind, ∀ r ∈ c.group kind,
    Restores g r.toValue (extractResource · kind r.name r.toValue) r.withSource
  kinds : ∀ kind ∈ c.resources.keys, reserved kind = false

theorem Restorable.kindsApart (h : c.Restorable g) : c.KindsApart := ⟨h.distinct.kinds, h.kinds⟩

theorem Restorable.nodup_sections (h : c.Restorable g) : c.sections.keys.Nodup :=
  h.kindsApart.nodup_sections

/-- A section under a reserved key is not among the others. -/
theorem filter_sectionOf {key : String} (hkey : reserved key = true)
    (entries : List (String × Value)) (p : String × Value → Bool) :
    (sectionOf key entries).filter (fun e => p e && !reserved e.1) = [] := by
  unfold sectionOf
  split
  · rfl
  · simp [hkey]

/-- The other sections are those of the kinds of resources. -/
theorem Restorable.filter_declaresKind_sections (h : c.Restorable g) :
    c.sections.filter declaresKind = c.resources.mapValues writtenGroup := by
  have hgroups : (c.resources.mapValues writtenGroup).filter declaresKind
      = c.resources.mapValues writtenGroup := by
    refine List.filter_eq_self.mpr fun e he => ?_
    obtain ⟨group, hgroup, rfl⟩ := List.mem_map.mp he
    have hkind : reserved group.1 = false := h.kinds _ (List.mem_map_of_mem hgroup)
    show (true && !reserved group.1) = true
    rw [hkind]
    rfl
  rw [sections, List.filter_append, List.filter_append, hgroups]
  exact congrArg₂ _ (filter_sectionOf rfl _ _) (congrArg (· ++ _) (filter_sectionOf rfl _ _))

/-- None of them declares nothing. -/
theorem filter_declaresNothing_sections (c : Config) :
    c.sections.filter declaresNothing = [] := by
  have hgroups : (c.resources.mapValues writtenGroup).filter declaresNothing = [] := by
    refine List.filter_eq_nil_iff.mpr fun e he => ?_
    obtain ⟨group, -, rfl⟩ := List.mem_map.mp he
    exact Bool.noConfusion
  rw [sections, List.filter_append, List.filter_append, hgroups]
  exact congrArg₂ _ (filter_sectionOf rfl _ _) (congrArg (· ++ _) (filter_sectionOf rfl _ _))

/-- A configuration that can be restored is written out without repeated keys. -/
theorem Restorable.keysDistinct (h : c.Restorable g) : c.toValue.KeysDistinct := by
  have hsection : ∀ (key : String) (entries : List (String × Value)),
      (∀ e ∈ entries, e.2.KeysDistinct) → ∀ e ∈ sectionOf key entries, e.2.KeysDistinct := by
    intro key entries hentries e he
    unfold sectionOf at he
    split at he
    · exact (List.not_mem_nil he).elim
    · rw [List.mem_singleton.mp he]
      exact Value.keysDistinct_ofList hentries
  rw [toValue_eq]
  refine Value.keysDistinct_ofList fun e he => ?_
  rcases List.mem_append.mp he with he | he
  · refine hsection _ _ (fun e he => ?_) e he
    obtain ⟨v, hv, rfl⟩ := List.mem_map.mp he
    exact (h.inputs v hv).keys
  rcases List.mem_append.mp he with he | he
  · refine hsection _ _ (fun e he => ?_) e he
    obtain ⟨f, hf, rfl⟩ := List.mem_map.mp he
    exact (h.files f hf).keys
  · obtain ⟨group, hgroup, rfl⟩ := List.mem_map.mp he
    refine Value.keysDistinct_ofList fun e he => ?_
    obtain ⟨r, hr, rfl⟩ := List.mem_map.mp he
    rw [← group_of_mem h.distinct.kinds hgroup] at hr
    exact (h.groups group.1 r hr).keys

/-! ## 3. Configurations -/

/-- What a configuration declares, as a single document declares it. -/
def declaredIn (c : Config) (label : String) : Config where
  files := c.files.map (·.withSource label)
  inputs := c.inputs
  resources := c.resources.mapValues fun group => group.map (·.withSource label)

/-- **The sections that are written out are extracted again.** -/
theorem Restorable.ofFields_sections (h : c.Restorable g) (label : String) :
    ofFields { label, grammar := g } c.sections = .ok (c.declaredIn label) := by
  refine (ofFields_eq_ok_iff h.nodup_sections).mpr
    ⟨c.inputs, c.files.map (·.withSource label), (c.declaredIn label).resources,
      ?inputs, ?files, ?resources, ?rest⟩
  case inputs =>
    rw [h.kindsApart.get?_sections_variable]
    refine (extractSection_sectionOf h.distinct.inputs fun v hv =>
      (h.inputs v hv).extracted label).trans ?_
    rw [List.map_id']
  case files =>
    rw [h.kindsApart.get?_sections_file]
    exact extractSection_sectionOf h.distinct.files fun f hf => (h.files f hf).extracted label
  case resources =>
    rw [h.filter_declaresKind_sections, mapM_eq_ok_iff, Fields.mapValues, List.map_map, declaredIn,
      Fields.mapValues, List.map_map]
    refine List.map_congr_left fun group hmem => map_eq_ok_iff.mpr
      ⟨_, extractSection_written ?_ fun r hr => ?_, rfl⟩
    · rw [← group_of_mem h.distinct.kinds hmem]
      exact h.distinct.groups group.1
    · rw [← group_of_mem h.distinct.kinds hmem] at hr
      exact (h.groups group.1 r hr).extracted label
  case rest =>
    rw [filter_declaresNothing_sections]
    rfl

/-! ## 4. Loading -/

/-- **What a document declares can be restored.** -/
theorem restorable_of_ofDocument {d : Document} (h : ofDocument o d = .ok c)
    (hdistinct : c.Distinct) : c.Restorable o.grammar := by
  cases d with
  | null =>
    cases h
    exact ⟨hdistinct, fun _ hv => (nomatch hv), fun _ hf => (nomatch hf),
      fun _ _ hr => (nomatch hr), fun _ hk => (nomatch hk)⟩
  | mapping entries =>
    obtain ⟨honce, h⟩ := ofDocument_mapping_eq_ok_iff.mp h
    have hroot := honce.keysDistinct
    obtain ⟨inputs, files, resources, hinputs, hfiles, hresources, rfl⟩ :=
      (ofFields_eq_ok_iff hroot.1).mp h
    refine ⟨hdistinct, fun v hv => ?inputs, fun f hf => ?files, fun kind r hr => ?groups,
      fun kind hkind => ?kinds⟩
    case inputs =>
      obtain ⟨_, _, hbody, hv⟩ := exists_of_mem_extractSection (fun _ => hroot.get?) hinputs hv
      exact restores_variable hbody hv
    case files =>
      obtain ⟨_, _, hbody, hf⟩ := exists_of_mem_extractSection (fun _ => hroot.get?) hfiles hf
      exact restores_file hbody hf
    case groups =>
      have hgroup := extractSection_group hresources kind
      obtain ⟨_, _, hbody, hr⟩ := exists_of_mem_extractSection
        (fun _ => (hroot.filter declaresKind).get?) hgroup hr
      exact restores_resource hbody hr
    case kinds =>
      have hkind : kind ∈ Fields.keys resources := hkind
      rw [← keys_of_mapM_extractGroup hresources] at hkind
      obtain ⟨e, he, rfl⟩ := List.mem_map.mp hkind
      have hgiven : e.2.isMapping = true ∧ reserved e.1 = false := by
        simpa [declaresKind] using (List.mem_filter.mp he).2
      exact hgiven.2
  | _ => cases h

/-- **Merging keeps what can be restored.** -/
theorem Restorable.joined (h : c.Restorable g) (hother : other.Restorable g)
    (hfree : ¬ c.SharesBlock other) : (c.joined other).Restorable g where
  distinct := h.distinct.joined hother.distinct hfree
  inputs v hv := by
    rw [inputs_joined] at hv
    rcases mem_putVariables hv with hv | hv
    · exact h.inputs v hv
    · exact hother.inputs v hv
  files f hf := by
    rw [files_joined, List.mem_append] at hf
    rcases hf with hf | hf
    · exact h.files f hf
    · exact hother.files f hf
  groups kind r hr := by
    rw [group_joined hother.distinct.kinds, List.mem_append] at hr
    rcases hr with hr | hr
    · exact h.groups kind r hr
    · exact hother.groups kind r hr
  kinds kind hkind := by
    rw [kinds_joined h.distinct.kinds hother.distinct.kinds, List.mem_eraseDups,
      List.mem_append] at hkind
    rcases hkind with hkind | hkind
    · exact h.kinds kind hkind
    · exact hother.kinds kind ((Fields.keys_filter_sublist _ _).subset hkind)

/-- **What is assembled can be restored.** -/
theorem Assembled.restorable (h : c.Assembled g) : c.Restorable g := by
  induction h with
  | parsed hparse =>
    obtain ⟨d, -, hd⟩ := parseWith_eq_ok_iff.mp hparse
    exact restorable_of_ofDocument hd (distinct_of_ofDocument hd)
  | merged _ _ hmerge hc hother =>
    obtain ⟨hfree, rfl⟩ := (merge_eq_ok_iff hother.distinct).mp hmerge
    exact hc.joined hother hfree
  | placed _ _ _ hc =>
    obtain ⟨⟨hfiles, hinputs, hgroups, hkinds⟩, hvariables, hbodies, hresources, hreserved⟩ := hc
    exact ⟨⟨hfiles, hinputs, hgroups, hkinds⟩, hvariables, hbodies, hresources, hreserved⟩

/-- A configuration that texts declare with a grammar, in whatever way they are read, by itself or
merged from others. -/
inductive Loaded (g : Name.Grammar) : Config → Prop
  | parsed {read? : String → Option Document} {text label : String} {c : Config} :
    parseWith read? text label g = .ok c → Loaded g c
  | merged {c other both : Config} :
    Loaded g c → Loaded g other → c.merge other = .ok both → Loaded g both

theorem Loaded.assembled (h : c.Loaded g) : c.Assembled g := by
  induction h with
  | parsed hparse => exact .parsed hparse
  | merged _ _ hmerge hc hother => exact hc.merged hother hmerge

/-- **Rereading restores what was written out.**  A configuration that was loaded with a grammar is
written out as the value of a document.  Under any label, what the document declares with that
grammar is what the configuration declares: the same variables, files and resources in the same
order and under the same kinds, all of them as declared in that document. -/
theorem rereading_restores (h : c.Loaded g) (label : String) :
    c.toValue.toDocument.toValue = c.toValue
    ∧ ofDocument { label, grammar := g } c.toValue.toDocument = .ok (c.declaredIn label) := by
  have hc := h.assembled.restorable
  have hwritten := hc.keysDistinct
  refine ⟨Value.toValue_toDocument hwritten, ?_⟩
  rw [toValue_eq, Fields.ofList_eq_self hc.nodup_sections] at hwritten ⊢
  exact (ofDocument_toDocument hwritten).mpr (hc.ofFields_sections label)

namespace Example

/-- What the document of a server declares: a file, a package with a dependency, and no user. -/
def server : Config where
  files := [
    { name := "motd", destination := "motd", content := none, user := none, group := none
      mode := none, source := "server.json"
      body := { key := "file.motd", raw := .mapping [("destination", .string "motd")]
                templates := [], references := [] } }]
  resources := [
    ("package",
      [{ kind := "package", name := "curl", dependsOn := ["package.nginx"], source := "server.json"
         body := { key := "package.curl", raw := .mapping [("hold", .bool true)]
                   templates := [], references := [] } }]),
    ("user", [])]

/-- The document that declares it. -/
def serverText : String :=
  "\x7b\"file\":\x7b\"motd\":\x7b\"destination\":\"motd\"\x7d\x7d," ++
    "\"package\":\x7b\"curl\":\x7b\"depends_on\":[\"package.nginx\"],\"hold\":true\x7d\x7d," ++
    "\"user\":\x7b\x7d\x7d"

theorem parse_serverText :
    parse serverText .json "server.json" Name.Grammar.standard = .ok server := by
  refine parseWith_eq_ok_iff.mpr ⟨?document, ?read, ?kept⟩
  case read => cbv; rfl
  case kept => with_unfolding_all rfl

/-- The server may be merged with what every site starts from, written out and read back, and has
both kinds of resources then. -/
theorem server_is_restored :
    ∃ both, server.merge base = .ok both ∧ both.Loaded Name.Grammar.standard
      ∧ ofDocument { label := "export.json", grammar := Name.Grammar.standard }
          both.toValue.toDocument = .ok (both.declaredIn "export.json")
      ∧ (both.declaredIn "export.json").resources.keys = ["package", "user"] := by
  have hloaded : ∀ both, server.merge base = .ok both → both.Loaded Name.Grammar.standard :=
    fun _ => .merged (.parsed parse_serverText) (.parsed parse_baseText)
  exact ⟨_, rfl, hloaded _ rfl, (rereading_restores (hloaded _ rfl) "export.json").2, rfl⟩

end Example

end Config

end TemplatedConfig
