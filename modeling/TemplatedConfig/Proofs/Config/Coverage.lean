/-
# A document is covered by what it declares

A document is read twice.  Its entries are looked at as they stand in the text, to find names that
are declared again, and what it declares is extracted from its value, in which only the last of the
entries with the same key is left.  The first reading makes up for what the second does not see: a
document with repeated sections or names is refused, and in one without them each entry has a block
to its name (`Covers`).

Main statement: `extraction_drops_nothing`.
-/
import TemplatedConfig.Proofs.Config.Sections
import TemplatedConfig.Proofs.Config.Extraction

namespace TemplatedConfig.Config

variable {o : Origin} {c : Config} {entries : Fields Document}

/-! ## 1. One section -/

/-- The names and bodies that stand below a top-level key. -/
def entriesBelow (entries : Fields Document) (key : String) : Fields Document :=
  ((entries.get? key).getD .null).entries

/-- A section may be taken for missing if it is no mapping. -/
theorem extractSection_filter {α : Type} {kind : String}
    {extract : String → Value → Except Fault α} {v : Option Value} {blocks : List α}
    (h : extractSection o kind extract v = .ok blocks) :
    extractSection o kind extract (v.filter Value.isMapping) = .ok blocks := by
  cases v with
  | none => exact h
  | some w =>
    cases w with
    | null => exact h
    | mapping fields => exact h
    | _ => cases h

/-- **The blocks of a section** are made from the names and bodies in it, one by one. -/
theorem mapM_entriesBelow (honce : DeclaredOnce entries) {α : Type} {kind : String}
    {extract : String → Value → Except Fault α} {blocks : List α}
    (h : extractSection o kind extract
      (((entries.mapValues Document.toValue).get? kind).filter Value.isMapping) = .ok blocks) :
    (entriesBelow entries kind).mapM (fun e => extract e.1 e.2.toValue) = .ok blocks := by
  rw [Fields.get?_mapValues] at h
  unfold entriesBelow
  cases hget : entries.get? kind with
  | none =>
    rw [hget] at h
    exact h
  | some d =>
    rw [hget] at h
    cases d with
    | mapping below =>
      have hnames : (Fields.keys below).Nodup := honce.names _ (Fields.mem_of_get? hget)
      rw [Option.map_some, Document.toValue_mapping hnames] at h
      have h : (Fields.mapValues Document.toValue below).mapM (fun e => extract e.1 e.2)
          = .ok blocks := h
      rwa [Fields.mapValues, List.mapM_map] at h
    | _ => exact h

/-! ## 2. Resources -/

/-- A group of resources is what the section of its kind declares. -/
theorem extractSection_group {sections : Fields Value} {resources : Fields (List Resource)}
    (h : sections.mapM (extractGroup o) = .ok resources) (kind : String) :
    extractSection o kind (extractResource o kind) (sections.get? kind)
      = .ok ((resources.get? kind).getD []) := by
  induction sections generalizing resources with
  | nil =>
    cases h
    rfl
  | cons e rest ih =>
    obtain ⟨_, more, hgroup, hmore, rfl⟩ := mapM_cons_eq_ok_iff.mp h
    obtain ⟨group, hsection, rfl⟩ := map_eq_ok_iff.mp hgroup
    rw [Fields.get?, Fields.get?]
    by_cases hsame : e.1 = kind
    · rw [if_pos hsame, if_pos hsame, ← hsame]
      exact hsection
    · rw [if_neg hsame, if_neg hsame]
      exact ih hmore

/-- What a resource keeps of a body: everything but the dependencies. -/
def keptKeys (body : Value) : Value := .mapping ((body.fields?.getD []).erase "depends_on")

/-- A resource keeps the keys of its body. -/
theorem keys_of_extractResource {kind name : String} {body : Value} {r : Resource}
    (h : extractResource o kind name body = .ok r) : r.keys = keptKeys body := by
  obtain ⟨-, fields, _, kept, hfields, -, hkept, rfl⟩ := extractResource_eq_ok_iff.mp h
  have hraw : kept.raw = .mapping (fields.erase "depends_on") := (Body.of_ofValue hkept).1
  rw [Resource.keys, hraw]
  rcases bodyFields_eq_ok_iff.mp hfields with ⟨rfl, rfl⟩ | rfl
  · rfl
  · rfl

/-! ## 3. Documents -/

/-- A configuration has what the entries of a document declare, each once and in their order: the
variables and the files by their names, the kinds of resources, the resources of each kind with
what they keep of their bodies, and the keys that declare nothing. -/
structure Covers (c : Config) (entries : Fields Document) : Prop where
  once : DeclaredOnce entries
  inputs : c.inputs.map Variable.name = (entriesBelow entries "variable").keys
  files : c.files.map File.name = (entriesBelow entries "file").keys
  kinds : c.resources.keys = Fields.keys ((entries.mapValues Document.toValue).filter declaresKind)
  groups : ∀ kind, reserved kind = false →
    (c.group kind).map (fun r => (r.name, r.keys))
      = (entriesBelow entries kind).map fun e => (e.1, keptKeys e.2.toValue)
  ignoredKeys : c.ignoredKeys
    = Fields.keys ((entries.mapValues Document.toValue).filter declaresNothing)

/-- **What is extracted covers the document.** -/
theorem covers_of_ofDocument (h : ofDocument o (.mapping entries) = .ok c) : c.Covers entries := by
  obtain ⟨honce, hfields⟩ := ofDocument_mapping_eq_ok_iff.mp h
  have hdistinct := honce.keysDistinct.1
  obtain ⟨inputs, files, resources, hinputs, hfiles, hresources, rfl⟩ :=
    (ofFields_eq_ok_iff hdistinct).mp hfields
  refine ⟨honce, ?inputs, ?files, ?kinds, fun kind hkind => ?groups, rfl⟩
  case inputs =>
    exact (map_eq_map_of_mapM_eq_ok (fun _ _ hv => (of_extractVariable hv).1.1.symm)
      (mapM_entriesBelow honce (extractSection_filter hinputs))).symm
  case files =>
    exact (map_eq_map_of_mapM_eq_ok (fun _ _ hf => (of_extractFile hf).1.symm)
      (mapM_entriesBelow honce (extractSection_filter hfiles))).symm
  case kinds => exact (keys_of_mapM_extractGroup hresources).symm
  case groups =>
    have hsection := extractSection_group hresources kind
    have hgiven : (fun v => declaresKind (kind, v)) = Value.isMapping := by
      funext v
      rw [declaresKind, hkind, Bool.not_false, Bool.and_true]
    rw [Fields.get?_filter hdistinct, hgiven] at hsection
    refine (map_eq_map_of_mapM_eq_ok (fun e r hr => ?_) (mapM_entriesBelow honce hsection)).symm
    rw [(of_extractResource hr).1, keys_of_extractResource hr]

/-- **Extraction drops nothing.**  A document that declares a section twice, or a name twice within
a section, is refused.  One that does not has all its entries in the fields that are extracted from
it.  If it is accepted, the configuration has all that the entries declare.  The same is true of
every text that is read as the document, in whatever way. -/
theorem extraction_drops_nothing (o : Origin) (entries : Fields Document) :
    (¬ DeclaredOnce entries → ∃ fault, ofDocument o (.mapping entries) = .error fault)
    ∧ (DeclaredOnce entries →
        ofDocument o (.mapping entries) = ofFields o (entries.mapValues Document.toValue))
    ∧ (∀ c, ofDocument o (.mapping entries) = .ok c → c.Covers entries)
    ∧ ∀ (read? : String → Option Document) (text : String), read? text = some (.mapping entries) →
        parseWith read? text o.label o.grammar = ofDocument o (.mapping entries) := by
  refine ⟨fun htwice => exists_error_of_not_ok fun c hc => ?_,
    fun honce => honce.ofDocument_mapping, fun c => covers_of_ofDocument, ?_⟩
  · exact htwice (ofDocument_mapping_eq_ok_iff.mp hc).1
  · intro read? text hread
    rw [parseWith, hread]

namespace Example

/-- Where the documents below are read from. -/
def origin : Origin where
  label := "site.json"
  grammar := Name.Grammar.standard

/-- A document with a note, and two packages of which one depends on the other. -/
def packages : Fields Document :=
  [("note", .bool true),
    ("package", .mapping
      [("curl", .null),
        ("nginx", .mapping [("port", .string "80"), ("depends_on", .sequence [.string "curl"])])])]

/-- The document as a text. -/
def packagesText : String :=
  "\x7b\"note\":true,\"package\":\x7b\"curl\":null," ++
    "\"nginx\":\x7b\"port\":\"80\",\"depends_on\":[\"curl\"]\x7d\x7d\x7d"

/-- What it declares. -/
def installed : Config where
  resources := [("package",
    [{ kind := "package", name := "curl", dependsOn := [], source := "site.json"
       body := { key := "package.curl", raw := .mapping [], templates := [], references := [] } },
      { kind := "package", name := "nginx", dependsOn := ["curl"], source := "site.json"
        body := { key := "package.nginx", raw := .mapping [("port", .string "80")], templates := []
                  references := [] } }])]
  ignoredKeys := ["note"]

theorem read_packagesText : Format.json.read? packagesText = some (.mapping packages) := by cbv

theorem ofDocument_packages : ofDocument origin (.mapping packages) = .ok installed := by
  with_unfolding_all rfl

/-- The document is covered; with the same sections a second time, it is refused. -/
theorem packages_are_covered :
    parse packagesText .json "site.json" Name.Grammar.standard = .ok installed
      ∧ DeclaredOnce packages
      ∧ ofFields origin (packages.mapValues Document.toValue) = .ok installed
      ∧ installed.Covers packages
      ∧ ¬ DeclaredOnce (packages ++ packages)
      ∧ ∃ fault, ofDocument origin (.mapping (packages ++ packages)) = .error fault := by
  obtain ⟨-, hfields, hcovers, hread⟩ := extraction_drops_nothing origin packages
  have honce : DeclaredOnce packages := (hcovers _ ofDocument_packages).once
  have htwice : ¬ DeclaredOnce (packages ++ packages) := fun honce => by
    have hsections := honce.sections
    revert hsections
    decide
  exact ⟨(hread _ packagesText read_packagesText).trans ofDocument_packages, honce,
    (hfields honce).symm.trans ofDocument_packages, hcovers _ ofDocument_packages, htwice,
    (extraction_drops_nothing origin _).1 htwice⟩

end Example

end TemplatedConfig.Config
