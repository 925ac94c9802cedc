/-
# What the sections of a document become

Extraction folds the sections of a document into a configuration, one after another.  No two of
them have the same key, so each adds something of its own, and the whole can be said at once
(`ofFields_eq_ok_iff`): the variables and the files come from the two reserved sections, every
other mapping is a kind of resource, and the remaining keys are noted.

`ofDocument_mapping_eq_ok_iff` says the same of a document, in which keys may be repeated as far
as the decoder is concerned: it declares something only if no section is repeated and no name
within a section.
-/
import TemplatedConfig.Proofs.Results
import TemplatedConfig.Proofs.Value.Keys
import TemplatedConfig.Config.Extraction

namespace TemplatedConfig

/-- Whether a value is a mapping. -/
def Value.isMapping : Value → Bool
  | mapping _ => true
  | _ => false

namespace Config

variable {o : Origin}

/-! ## 1. Kinds of resources -/

/-- A section that declares a kind of resource. -/
def declaresKind (e : String × Value) : Bool := e.2.isMapping && !reserved e.1

/-- A section that declares nothing. -/
def declaresNothing (e : String × Value) : Bool := !e.2.isMapping && !reserved e.1

variable (o) in
/-- The resources that a section declares, with their kind. -/
def extractGroup (e : String × Value) : Except Fault (String × List Resource) :=
  (extractSection o e.1 (extractResource o e.1) (some e.2)).map fun group => (e.1, group)

theorem fst_of_extractGroup {e : String × Value} {group : String × List Resource}
    (h : extractGroup o e = .ok group) : e.1 = group.1 := by
  obtain ⟨_, -, rfl⟩ := exists_of_map_eq_ok h
  rfl

/-- Groups have the kinds of the sections that declare them. -/
theorem keys_of_mapM_extractGroup {sections : Fields Value} {resources : Fields (List Resource)}
    (h : sections.mapM (extractGroup o) = .ok resources) : sections.keys = resources.keys :=
  map_eq_map_of_mapM_eq_ok (fun _ _ => fst_of_extractGroup) h

variable {c c' : Config}

/-- A mapping under a new key adds a kind. -/
theorem extractKind_of_isMapping {kind : String} {v : Value} (hv : v.isMapping = true)
    (hnew : kind ∉ c.resources.keys) :
    extractKind o c kind v
      = (extractGroup o (kind, v)).map fun group =>
          { c with resources := c.resources ++ [group] } := by
  cases v with
  | mapping fields =>
    have hfirst : c.group kind = [] := by rw [group, Fields.get?_eq_none hnew]; rfl
    rw [extractKind, extractGroup, hfirst]
    cases extractSection o kind (extractResource o kind) (some (.mapping fields)) with
    | error fault => rfl
    | ok group =>
      show Except.ok { c with resources := c.resources.insert kind ([] ++ group) } = _
      rw [Fields.insert_of_not_mem hnew]
      rfl
  | _ => cases hv

/-- Anything else is noted. -/
theorem extractKind_of_not_isMapping {kind : String} {v : Value} (hv : v.isMapping = false) :
    extractKind o c kind v = .ok { c with ignoredKeys := c.ignoredKeys ++ [kind] } := by
  cases v with
  | mapping _ => cases hv
  | _ => rfl

/-- A configuration with more kinds and more keys that declare nothing. -/
def withSections (c : Config) (groups : Fields (List Resource)) (ignored : List String) : Config :=
  { c with resources := c.resources ++ groups, ignoredKeys := c.ignoredKeys ++ ignored }

/-- **The sections of resources, all at once.**  Each mapping adds a kind, in the order of the
document, and the keys of the others are noted. -/
theorem extractKinds_eq {sections : Fields Value} (hdistinct : sections.keys.Nodup)
    (hnew : ∀ kind ∈ sections.keys, kind ∉ c.resources.keys) :
    sections.foldlM (fun c e => extractKind o c e.1 e.2) c
      = ((sections.filter (·.2.isMapping)).mapM (extractGroup o)).map fun groups =>
          c.withSections groups (Fields.keys (sections.filter (!·.2.isMapping))) := by
  induction sections generalizing c with
  | nil =>
    show Except.ok c = Except.ok (c.withSections [] [])
    rw [withSections, List.append_nil, List.append_nil]
  | cons e rest ih =>
    obtain ⟨hfirst, hdistinct⟩ := List.nodup_cons.mp hdistinct
    obtain ⟨hkind, hnew⟩ := List.forall_mem_cons.mp hnew
    rw [List.foldlM_cons]
    cases hv : e.2.isMapping with
    | true =>
      rw [extractKind_of_isMapping hv hkind]
      simp only [List.filter_cons, hv, Bool.not_true, if_true, Bool.false_eq_true, if_false,
        List.mapM_cons]
      cases hgroup : extractGroup o e with
      | error fault => rfl
      | ok group =>
        have hkinds : ∀ kind ∈ Fields.keys rest, kind ∉ Fields.keys (c.resources ++ [group]) := by
          intro kind hmem hkinds
          rw [Fields.keys, List.map_append, List.mem_append] at hkinds
          rcases hkinds with hkinds | hkinds
          · exact hnew kind hmem hkinds
          · rw [List.map_singleton, List.mem_singleton, ← fst_of_extractGroup hgroup] at hkinds
            exact hfirst (hkinds ▸ hmem)
        show rest.foldlM (fun c e => extractKind o c e.1 e.2)
          { c with resources := c.resources ++ [group] } = _
        rw [ih hdistinct hkinds]
        cases (rest.filter (·.2.isMapping)).mapM (extractGroup o) with
        | error fault => rfl
        | ok groups =>
          show Except.ok (withSections _ groups _) = Except.ok (c.withSections (group :: groups) _)
          simp only [withSections, List.append_assoc, List.singleton_append]
    | false =>
      rw [extractKind_of_not_isMapping hv]
      simp only [List.filter_cons, hv, Bool.not_false, if_true, Bool.false_eq_true, if_false,
        Fields.keys_cons]
      show rest.foldlM (fun c e => extractKind o c e.1 e.2)
        { c with ignoredKeys := c.ignoredKeys ++ [e.1] } = _
      rw [ih (c := { c with ignoredKeys := c.ignoredKeys ++ [e.1] }) hdistinct hnew]
      simp only [withSections, List.append_assoc, List.singleton_append]

/-! ## 2. Fields -/

/-- **What the fields of a document declare**: the variables and the files of the reserved
sections, the kinds of resources in the order of the document, and the keys that are left. -/
theorem ofFields_eq_ok_iff {root : Fields Value} (h : root.keys.Nodup) :
    ofFields o root = .ok c ↔ ∃ inputs files resources,
      extractSection o "variable" (extractVariable o) (root.get? "variable") = .ok inputs
      ∧ extractSection o "file" (extractFile o) (root.get? "file") = .ok files
      ∧ (root.filter declaresKind).mapM (extractGroup o) = .ok resources
      ∧ c = { inputs, files, resources
              ignoredKeys := Fields.keys (root.filter declaresNothing) } := by
  have hkinds : ∀ inputs files,
      (root.filter fun e => !reserved e.1).foldlM (fun c e => extractKind o c e.1 e.2)
          ({ inputs, files } : Config)
        = ((root.filter declaresKind).mapM (extractGroup o)).map fun resources =>
            { inputs, files, resources
              ignoredKeys := Fields.keys (root.filter declaresNothing) } := by
    intro inputs files
    rw [extractKinds_eq (h.sublist (Fields.keys_filter_sublist root _))
      (fun _ _ hmem => List.not_mem_nil hmem), List.filter_filter, List.filter_filter]
    rfl
  unfold ofFields
  simp only [bind_eq_ok_iff, hkinds, map_eq_ok_iff]
  constructor
  · rintro ⟨inputs, hinputs, files, hfiles, resources, hresources, rfl⟩
    exact ⟨inputs, files, resources, hinputs, hfiles, hresources, rfl⟩
  · rintro ⟨inputs, files, resources, hinputs, hfiles, hresources, rfl⟩
    exact ⟨inputs, hinputs, files, hfiles, resources, hresources, rfl⟩

/-- Each kind of resource has one section. -/
theorem nodup_kinds_of_ofFields {root : Fields Value} (h : root.keys.Nodup)
    (hfields : ofFields o root = .ok c) : c.resources.keys.Nodup := by
  obtain ⟨_, _, resources, -, -, hresources, rfl⟩ := (ofFields_eq_ok_iff h).mp hfields
  show (Fields.keys resources).Nodup
  rw [← keys_of_mapM_extractGroup hresources]
  exact h.sublist (Fields.keys_filter_sublist root _)

/-! ## 3. Documents -/

/-- **Names are checked** against each other and against those seen before. -/
theorem checkNamesOnce_eq_ok_iff {kind : String} {seen : List String}
    {entries : Fields Document} :
    checkNamesOnce kind seen entries = .ok ()
      ↔ entries.keys.Nodup ∧ ∀ name ∈ entries.keys, name ∉ seen := by
  induction entries generalizing seen with
  | nil => exact ⟨fun _ => ⟨List.nodup_nil, fun _ h => (List.not_mem_nil h).elim⟩, fun _ => rfl⟩
  | cons e rest ih =>
    rw [checkNamesOnce, Fields.keys_cons, List.nodup_cons, List.forall_mem_cons]
    by_cases hseen : e.1 ∈ seen
    · rw [if_pos hseen]
      exact ⟨fun h => (nomatch h), fun h => (h.2.1 hseen).elim⟩
    · rw [if_neg hseen, ih]
      simp only [List.mem_cons, not_or]
      constructor
      · rintro ⟨hdistinct, hnew⟩
        exact ⟨⟨fun hmem => (hnew _ hmem).1 rfl, hdistinct⟩, hseen,
          fun name hname => (hnew name hname).2⟩
      · rintro ⟨⟨hfirst, hdistinct⟩, -, hnew⟩
        exact ⟨hdistinct, fun name hname => ⟨fun hsame => hfirst (hsame ▸ hname), hnew name hname⟩⟩

/-- Nothing is declared twice in the entries of a document: no section, and no name within a
section. -/
structure DeclaredOnce (entries : Fields Document) : Prop where
  sections : entries.keys.Nodup
  names : ∀ e ∈ entries, (Fields.keys e.2.entries).Nodup

theorem declaredOnce_cons {e : String × Document} {rest : Fields Document} :
    DeclaredOnce (e :: rest)
      ↔ e.1 ∉ rest.keys ∧ (Fields.keys e.2.entries).Nodup ∧ DeclaredOnce rest := by
  constructor
  · rintro ⟨hsections, hnames⟩
    obtain ⟨hfirst, hsections⟩ := List.nodup_cons.mp hsections
    obtain ⟨hname, hnames⟩ := List.forall_mem_cons.mp hnames
    exact ⟨hfirst, hname, hsections, hnames⟩
  · rintro ⟨hfirst, hname, hsections, hnames⟩
    exact ⟨List.nodup_cons.mpr ⟨hfirst, hsections⟩, List.forall_mem_cons.mpr ⟨hname, hnames⟩⟩

/-- **Sections are checked** against those seen before, and the names within each. -/
theorem checkSectionsOnce_eq_ok_iff {seen : List String} {entries : Fields Document} :
    checkSectionsOnce seen entries = .ok ()
      ↔ DeclaredOnce entries ∧ ∀ kind ∈ entries.keys, kind ∉ seen := by
  induction entries generalizing seen with
  | nil =>
    exact ⟨fun _ => ⟨⟨List.nodup_nil, fun _ h => (List.not_mem_nil h).elim⟩,
      fun _ h => (List.not_mem_nil h).elim⟩, fun _ => rfl⟩
  | cons e rest ih =>
    rw [checkSectionsOnce, Fields.keys_cons, List.forall_mem_cons, declaredOnce_cons]
    by_cases hseen : e.1 ∈ seen
    · rw [if_pos hseen]
      exact ⟨fun h => (nomatch h), fun h => (h.2.1 hseen).elim⟩
    · rw [if_neg hseen]
      show (checkNamesOnce e.1 [] e.2.entries >>= fun _ => checkSectionsOnce (e.1 :: seen) rest)
        = .ok () ↔ _
      simp only [check_bind_eq_ok_iff, checkNamesOnce_eq_ok_iff, ih, List.mem_cons, not_or]
      constructor
      · rintro ⟨⟨hnames, -⟩, hrest, hnew⟩
        exact ⟨⟨fun hmem => (hnew _ hmem).1 rfl, hnames, hrest⟩, hseen,
          fun kind hkind => (hnew kind hkind).2⟩
      · rintro ⟨⟨hfirst, hnames, hrest⟩, -, hnew⟩
        exact ⟨⟨hnames, fun _ _ => List.not_mem_nil⟩, hrest,
          fun kind hkind => ⟨fun hsame => hfirst (hsame ▸ hkind), hnew kind hkind⟩⟩

/-- The values of sections that are declared once repeat no key. -/
theorem DeclaredOnce.keysDistinct {entries : Fields Document} (h : DeclaredOnce entries) :
    (Value.mapping (entries.mapValues Document.toValue)).KeysDistinct :=
  Document.toValue_mapping h.sections ▸ Document.keysDistinct_toValue (.mapping entries)

/-- **A document that declares nothing twice** is what its entries say, one by one. -/
theorem DeclaredOnce.ofDocument_mapping {entries : Fields Document} (h : DeclaredOnce entries) :
    ofDocument o (.mapping entries) = ofFields o (entries.mapValues Document.toValue) := by
  have hcheck : checkSectionsOnce [] entries = .ok () :=
    checkSectionsOnce_eq_ok_iff.mpr ⟨h, fun _ _ => List.not_mem_nil⟩
  rw [ofDocument, Document.toValue_mapping h.sections]
  show ((checkSectionsOnce [] entries).mapError (·.inDocument o.label) >>= fun _ => _) = _
  rw [hcheck]
  rfl

/-- **A document declares something** only if it declares nothing twice; then every entry
counts. -/
theorem ofDocument_mapping_eq_ok_iff {entries : Fields Document} :
    ofDocument o (.mapping entries) = .ok c
      ↔ DeclaredOnce entries ∧ ofFields o (entries.mapValues Document.toValue) = .ok c := by
  constructor
  · intro h
    have hcheck : (checkSectionsOnce [] entries).mapError (·.inDocument o.label) = .ok () :=
      (check_bind_eq_ok_iff.mp h).1
    obtain ⟨honce, -⟩ := checkSectionsOnce_eq_ok_iff.mp (mapError_eq_ok_iff.mp hcheck)
    exact ⟨honce, honce.ofDocument_mapping ▸ h⟩
  · rintro ⟨honce, h⟩
    rw [honce.ofDocument_mapping, h]

/-- The document of a mapping declares what the fields of the mapping declare. -/
theorem ofDocument_toDocument {root : Fields Value} (h : (Value.mapping root).KeysDistinct) :
    ofDocument o (Value.mapping root).toDocument = .ok c ↔ ofFields o root = .ok c := by
  have honce : DeclaredOnce (root.mapValues Value.toDocument) := by
    refine ⟨by rw [Fields.keys_mapValues]; exact h.1, fun e he => ?_⟩
    obtain ⟨e, hmem, rfl⟩ := List.mem_map.mp he
    have hbody := Value.fieldsKeysDistinct_iff.mp h.2 e hmem
    cases hvalue : e.2 with
    | mapping fields =>
      rw [hvalue] at hbody
      show (Fields.keys (Value.fieldDocuments fields)).Nodup
      rw [Value.fieldDocuments_eq, Fields.keys_mapValues]
      exact hbody.1
    | _ => exact List.nodup_nil
  rw [Value.toDocument, Value.fieldDocuments_eq, ofDocument_mapping_eq_ok_iff,
    Fields.mapValues_mapValues_eq_self fun e he =>
      Value.toValue_toDocument (Value.fieldsKeysDistinct_iff.mp h.2 e he)]
  exact and_iff_right honce

/-- What a document declares has each kind once. -/
theorem nodup_kinds_of_ofDocument {d : Document} (h : ofDocument o d = .ok c) :
    c.resources.keys.Nodup := by
  cases d with
  | null =>
    cases h
    exact List.nodup_nil
  | mapping entries =>
    obtain ⟨honce, h⟩ := ofDocument_mapping_eq_ok_iff.mp h
    exact nodup_kinds_of_ofFields honce.keysDistinct.1 h
  | _ => cases h

end Config

end TemplatedConfig
