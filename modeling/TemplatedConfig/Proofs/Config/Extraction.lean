/-
# What a document declares is valid

Extraction goes through the sections of a document.  Each block is checked when it is made
(`extractVariable_eq_ok_iff`, `extractFile_eq_ok_iff`, `extractResource_eq_ok_iff`): its name
against the grammar, and a variable by normalizing it.  That no name is repeated within a
section is not checked there at all.  It holds because the sections are values of a document, in
which repeated keys are settled (`Document.keysDistinct_toValue`), and each kind of resource comes
from one section.

Main statements: `valid_of_ofDocument`, `valid_of_parseWith`.
-/
import TemplatedConfig.Proofs.Config.Sections
import TemplatedConfig.Proofs.Config.Validity
import TemplatedConfig.Config.Loading

namespace TemplatedConfig

/-! ## 1. Blocks -/

/-- A body keeps what it is made from. -/
theorem Body.of_ofValue {key : String} {raw : Value} {body : Body}
    (h : Body.ofValue key raw = .ok body) :
    body.raw = Body.normalized raw ∧ body.resolution = none := by
  obtain ⟨_, -, h⟩ := exists_of_bind_eq_ok h
  cases h
  exact ⟨rfl, rfl⟩

/-- A body that is made from a mapping is that mapping until it is resolved. -/
theorem Body.current_of_ofValue {key : String} {fields : Fields Value} {body : Body}
    (h : Body.ofValue key (.mapping fields) = .ok body) : body.current = .mapping fields := by
  obtain ⟨hraw, hresolution⟩ := Body.of_ofValue h
  rw [Body.current, hresolution, hraw]
  rfl

/-- A file block is named as it is declared, has the body that is declared, and is made in the same
way whatever document it comes from. -/
theorem File.of_ofBody {name source : String} {fields : Fields Value} {f : File}
    (h : File.ofBody name (.mapping fields) source = .ok f) :
    f.name = name ∧ f.current = .mapping fields
      ∧ ∀ other, File.ofBody name (.mapping fields) other = .ok { f with source := other } := by
  obtain ⟨_, hfields, h⟩ := exists_of_bind_eq_ok h
  obtain ⟨_, hdestination, h⟩ := exists_of_bind_eq_ok h
  obtain ⟨_, hcontent, h⟩ := exists_of_bind_eq_ok h
  obtain ⟨_, huser, h⟩ := exists_of_bind_eq_ok h
  obtain ⟨_, hgroup, h⟩ := exists_of_bind_eq_ok h
  obtain ⟨_, hmode, h⟩ := exists_of_bind_eq_ok h
  obtain ⟨body, hbody, h⟩ := exists_of_bind_eq_ok h
  cases h
  refine ⟨rfl, Body.current_of_ofValue (mapError_eq_ok_iff.mp hbody), fun other => ?_⟩
  rw [File.ofBody, hfields, hbody]
  simp only [bind_eq_ok_iff]
  exact ⟨_, rfl, _, hdestination, _, hcontent, _, huser, _, hgroup, _, hmode, _, rfl, rfl⟩

/-- The body of a file block is made from the fields of the block. -/
theorem File.ofValue_of_ofBody {name source : String} {fields : Fields Value} {f : File}
    (h : File.ofBody name (.mapping fields) source = .ok f) :
    Body.ofValue (File.idOf name) (.mapping fields) = .ok f.body := by
  simp only [File.ofBody, bind_eq_ok_iff] at h
  obtain ⟨_, -, _, -, _, -, _, -, _, -, _, -, body, hbody, h⟩ := h
  cases h
  exact mapError_eq_ok_iff.mp hbody

namespace Config

variable {o : Origin}

theorem requireName_eq_ok_iff {kind name : String} :
    requireName o kind name = .ok () ↔ o.grammar.accepts name = true :=
  mapError_eq_ok_iff.trans Name.Grammar.check_eq_ok_iff

/-- A body has fields if it is a mapping, or if it is absent. -/
theorem bodyFields_eq_ok_iff {kind name : String} {body : Value} {fields : Fields Value} :
    bodyFields o kind name body = .ok fields
      ↔ (body = .null ∧ fields = []) ∨ body = .mapping fields := by
  cases body <;> simp [bodyFields, eq_comm]

theorem requireKeys_eq_ok_iff {kind name : String} {valid : List String} {fields : Fields Value} :
    requireKeys o kind name valid fields = .ok () ↔ ∀ key ∈ fields.keys, key ∈ valid := by
  have hnone : (∀ key ∈ fields.keys, key ∈ valid) ↔ fields.keys.filter (· ∉ valid) = [] := by
    simp [List.filter_eq_nil_iff]
  rw [hnone, requireKeys]
  cases fields.keys.filter (· ∉ valid) <;> simp

/-- **The declaration of a variable**: its name is in the grammar, its body has no keys but the
three that a variable may have, and what they say is normalized. -/
theorem extractVariable_eq_ok_iff {name : String} {body : Value} {v : Variable} :
    extractVariable o name body = .ok v
      ↔ o.grammar.accepts name = true ∧ ∃ fields declared description,
        bodyFields o "variable" name body = .ok fields
        ∧ (∀ key ∈ fields.keys, key ∈ variableKeyNames)
        ∧ stringIfGiven o "variable" name fields "type" = .ok declared
        ∧ stringIfGiven o "variable" name fields "description" = .ok description
        ∧ Variable.normalize { name, declared, default := defaultIn fields, description }
          = .ok v := by
  rw [extractVariable, check_bind_eq_ok_iff, requireName_eq_ok_iff]
  simp only [↓check_bind_eq_ok_iff, bind_eq_ok_iff, requireKeys_eq_ok_iff, mapError_eq_ok_iff]
  constructor
  · rintro ⟨hname, fields, hfields, hkeys, declared, hdeclared, description, hdescription, hv⟩
    exact ⟨hname, fields, declared, description, hfields, hkeys, hdeclared, hdescription, hv⟩
  · rintro ⟨hname, fields, declared, description, hfields, hkeys, hdeclared, hdescription, hv⟩
    exact ⟨hname, fields, hfields, hkeys, declared, hdeclared, description, hdescription, hv⟩

/-- **The declaration of a file**: its name is in the grammar, and a file is made from its body. -/
theorem extractFile_eq_ok_iff {name : String} {body : Value} {f : File} :
    extractFile o name body = .ok f
      ↔ o.grammar.accepts name = true ∧ ∃ fields, bodyFields o "file" name body = .ok fields
        ∧ (∀ key ∈ fields.keys, key ∈ File.keyNames)
        ∧ File.ofBody name (.mapping fields) o.label = .ok f := by
  rw [extractFile, check_bind_eq_ok_iff, requireName_eq_ok_iff]
  simp only [↓check_bind_eq_ok_iff, bind_eq_ok_iff, requireKeys_eq_ok_iff, mapError_eq_ok_iff]

/-- **The declaration of a resource**: its name is in the grammar, and its body is what is left when
the dependencies are taken out. -/
theorem extractResource_eq_ok_iff {kind name : String} {body : Value} {r : Resource} :
    extractResource o kind name body = .ok r
      ↔ o.grammar.accepts name = true ∧ ∃ fields dependsOn kept,
        bodyFields o kind name body = .ok fields
        ∧ dependencies o kind name fields = .ok dependsOn
        ∧ Body.ofValue (Resource.idOf kind name) (.mapping (fields.erase "depends_on")) = .ok kept
        ∧ r = { kind, name, body := kept, dependsOn, source := o.label } := by
  rw [extractResource, check_bind_eq_ok_iff, requireName_eq_ok_iff]
  simp only [Resource.ofKeys, bind_eq_ok_iff, mapError_eq_ok_iff]
  constructor
  · rintro ⟨hname, fields, hfields, dependsOn, hdependencies, kept, hkept, hr⟩
    exact ⟨hname, fields, dependsOn, kept, hfields, hdependencies, hkept, (Except.ok.inj hr).symm⟩
  · rintro ⟨hname, fields, dependsOn, kept, hfields, hdependencies, hkept, rfl⟩
    exact ⟨hname, fields, hfields, dependsOn, hdependencies, kept, hkept, rfl⟩

/-- A variable is declared under its name, which is in the grammar, and it is normalized. -/
theorem of_extractVariable {name : String} {body : Value} {v : Variable}
    (h : extractVariable o name body = .ok v) :
    (v.name = name ∧ o.grammar.accepts name = true) ∧ v.normalize = .ok v := by
  obtain ⟨hname, _, _, _, -, -, -, -, hnormal⟩ := extractVariable_eq_ok_iff.mp h
  refine ⟨⟨?_, hname⟩, Variable.normalize_normalized hnormal⟩
  rw [(Variable.normalize_eq_ok_iff.mp hnormal).2.2]
  rfl

/-- A file is declared under its name, which is in the grammar. -/
theorem of_extractFile {name : String} {body : Value} {f : File}
    (h : extractFile o name body = .ok f) : f.name = name ∧ o.grammar.accepts name = true := by
  obtain ⟨hname, _, -, -, hf⟩ := extractFile_eq_ok_iff.mp h
  exact ⟨(File.of_ofBody hf).1, hname⟩

/-- A resource is declared under its name, which is in the grammar. -/
theorem of_extractResource {kind name : String} {body : Value} {r : Resource}
    (h : extractResource o kind name body = .ok r) :
    r.name = name ∧ o.grammar.accepts name = true := by
  obtain ⟨hname, _, _, _, -, -, -, rfl⟩ := extractResource_eq_ok_iff.mp h
  exact ⟨rfl, hname⟩

/-! ## 2. Sections -/

/-- The blocks of a section come from its entries, one from each. -/
theorem exists_of_extractSection {α : Type} {kind : String}
    {extract : String → Value → Except Fault α} {v : Option Value} {blocks : List α}
    (hv : ∀ w, v = some w → w.KeysDistinct) (h : extractSection o kind extract v = .ok blocks) :
    ∃ entries : Fields Value, (Value.mapping entries).KeysDistinct
      ∧ entries.mapM (fun e => extract e.1 e.2) = .ok blocks := by
  have hnil : (Value.mapping []).KeysDistinct := ⟨List.nodup_nil, trivial⟩
  cases v with
  | none =>
    cases h
    exact ⟨[], hnil, rfl⟩
  | some w =>
    obtain ⟨entries, hentries, h⟩ := exists_of_bind_eq_ok h
    refine ⟨entries, ?_, h⟩
    cases w with
    | null =>
      cases hentries
      exact hnil
    | mapping fields =>
      cases hentries
      exact hv _ rfl
    | _ => cases hentries

/-- A block of a section comes from one of its entries. -/
theorem exists_of_mem_extractSection {α : Type} {kind : String}
    {extract : String → Value → Except Fault α} {v : Option Value} {blocks : List α}
    (hv : ∀ w, v = some w → w.KeysDistinct) (h : extractSection o kind extract v = .ok blocks)
    {a : α} (ha : a ∈ blocks) :
    ∃ (name : String) (body : Value), body.KeysDistinct ∧ extract name body = .ok a := by
  obtain ⟨entries, hdistinct, hblocks⟩ := exists_of_extractSection hv h
  obtain ⟨e, he, ha⟩ := (mem_of_mapM_eq_ok hblocks).2 a ha
  exact ⟨e.1, e.2, Value.fieldsKeysDistinct_iff.mp hdistinct.2 e he, ha⟩

/-- **The names of a section are admitted** if each block has the name it is declared under. -/
theorem admits_of_extractSection {α : Type} {kind : String}
    {extract : String → Value → Except Fault α} {nameOf : α → String} {v : Option Value}
    {blocks : List α} (hv : ∀ w, v = some w → w.KeysDistinct)
    (hextract : ∀ name body a, extract name body = .ok a →
      nameOf a = name ∧ o.grammar.accepts name = true)
    (h : extractSection o kind extract v = .ok blocks) :
    o.grammar.Admits (blocks.map nameOf) := by
  obtain ⟨entries, hdistinct, hblocks⟩ := exists_of_extractSection hv h
  have hnames : entries.keys = blocks.map nameOf :=
    map_eq_map_of_mapM_eq_ok (fun e a he => (hextract e.1 e.2 a he).1.symm) hblocks
  rw [← hnames]
  refine ⟨fun name hname => ?_, hdistinct.1⟩
  obtain ⟨e, he, rfl⟩ := List.mem_map.mp hname
  obtain ⟨a, -, ha⟩ := (mem_of_mapM_eq_ok hblocks).1 e he
  exact (hextract e.1 e.2 a ha).2

/-! ## 3. Documents -/

variable {c : Config}

/-- **What a document declares is valid.** -/
theorem valid_of_ofDocument {d : Document} (h : ofDocument o d = .ok c) : c.Valid o.grammar := by
  cases d with
  | null =>
    cases h
    exact ⟨⟨Name.Grammar.admits_nil, Name.Grammar.admits_nil, fun _ hg => nomatch hg⟩,
      fun _ hv => nomatch hv⟩
  | mapping entries =>
    obtain ⟨honce, h⟩ := ofDocument_mapping_eq_ok_iff.mp h
    have hroot := honce.keysDistinct
    obtain ⟨inputs, files, resources, hinputs, hfiles, hresources, rfl⟩ :=
      (ofFields_eq_ok_iff hroot.1).mp h
    refine ⟨⟨?inputs, ?files, fun group hgroup => ?resources⟩, fun v hv => ?normal⟩
    case inputs =>
      exact admits_of_extractSection (fun _ => hroot.get?)
        (fun _ _ _ hv => (of_extractVariable hv).1) hinputs
    case files =>
      exact admits_of_extractSection (fun _ => hroot.get?) (fun _ _ _ => of_extractFile) hfiles
    case resources =>
      obtain ⟨e, he, hsection⟩ := (mem_of_mapM_eq_ok hresources).2 group hgroup
      obtain ⟨group, hblocks, rfl⟩ := map_eq_ok_iff.mp hsection
      have hvalue := Value.fieldsKeysDistinct_iff.mp hroot.2 e (List.filter_sublist.subset he)
      exact admits_of_extractSection (fun w hw => Option.some.inj hw ▸ hvalue)
        (fun _ _ _ => of_extractResource) hblocks
    case normal =>
      obtain ⟨_, _, -, hv⟩ := exists_of_mem_extractSection (fun _ => hroot.get?) hinputs hv
      exact (of_extractVariable hv).2
  | _ => cases h

/-- A text declares what its document declares, however it is read. -/
theorem parseWith_eq_ok_iff {read? : String → Option Document} {g : Name.Grammar}
    {text label : String} :
    parseWith read? text label g = .ok c
      ↔ ∃ d, read? text = some d ∧ ofDocument { label, grammar := g } d = .ok c := by
  unfold parseWith
  cases read? text <;> simp

/-- The same for a text. -/
theorem valid_of_parseWith {read? : String → Option Document} {g : Name.Grammar}
    {text label : String} (h : parseWith read? text label g = .ok c) : c.Valid g := by
  obtain ⟨d, -, hd⟩ := parseWith_eq_ok_iff.mp h
  exact valid_of_ofDocument hd

end Config

end TemplatedConfig
