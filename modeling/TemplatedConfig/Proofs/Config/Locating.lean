/-
# Faults of a document say where they were found

Parsing a document can fail in many places: keys that are repeated, names, keys and values that a
block must not have, a type that does not fit, templates and references deep inside a body.  Each
place attaches the path and the document by hand, some paths as a whole (`Fault.atPath`), others by
putting the block in front of what is known already (`Fault.inside`).  This file shows that none of
them forgets either: a fault names the document, and unless the text cannot be decoded or is no
mapping, it has a path that begins with a top-level key of the document (`faults_say_where`).

There is one lemma for each function of the extraction.  It says which section the faults of the
function lie in (`Fault.LiesIn`), and the functions that call it use nothing else.
-/
import TemplatedConfig.Proofs.Function.Admission
import TemplatedConfig.Proofs.Config.Sections
import TemplatedConfig.Config.Loading

namespace TemplatedConfig

/-! ## 1. Places in a section -/

/-- A path that is a key or goes on behind it. -/
def Path.BeginsWith (key path : String) : Prop := path = key ∨ ∃ more, path = key ++ "." ++ more

namespace Path.BeginsWith

theorem self (key : String) : BeginsWith key key := .inl rfl

theorem extend {key path : String} (h : BeginsWith key path) (more : String) :
    BeginsWith key (path ++ "." ++ more) := by
  rcases h with rfl | ⟨rest, rfl⟩
  · exact .inr ⟨more, rfl⟩
  · exact .inr ⟨rest ++ "." ++ more, by simp only [String.append_assoc]⟩

/-- The path of a block begins with its kind. -/
theorem block (kind name : String) : BeginsWith kind (Config.blockPath kind name) :=
  .inr ⟨name, rfl⟩

/-- So does the path of a file. -/
theorem file (name : String) : BeginsWith "file" (File.idOf name) := .inr ⟨name, rfl⟩

end Path.BeginsWith

namespace Fault

/-- The fault has a path, which begins with a key. -/
def LiesBelow (key : String) (fault : Fault) : Prop :=
  ∃ path, fault.path = some path ∧ Path.BeginsWith key path

/-- The fault names a document, and a place in a section of it. -/
structure LiesIn (label key : String) (fault : Fault) : Prop where
  document : fault.location.map Location.file = some label
  below : fault.LiesBelow key

variable {fault : Fault} {key path : String}

theorem liesBelow_atPath (fault : Fault) (h : Path.BeginsWith key path) :
    (fault.atPath path).LiesBelow key := ⟨path, rfl, h⟩

/-- A block in front of the path, whatever the path was. -/
theorem liesBelow_inside (fault : Fault) (h : Path.BeginsWith key path) :
    (fault.inside path).LiesBelow key := by
  cases hpath : fault.path with
  | none => exact ⟨path, by simp only [inside, hpath], h⟩
  | some more => exact ⟨path ++ "." ++ more, by simp only [inside, hpath], h.extend more⟩

/-- Naming the document leaves the path as it is. -/
theorem LiesBelow.inDocument (h : fault.LiesBelow key) (label : String) :
    (fault.inDocument label).LiesIn label key := by
  refine ⟨?_, h⟩
  cases hlocation : fault.location with
  | none => simp only [Fault.inDocument, hlocation, Option.map_some]
  | some location => simp only [Fault.inDocument, hlocation, Option.map_some]

end Fault

/-! ## 2. Blocks -/

/-- Making a file fails at the file or below it. -/
theorem File.ofBody_failsWith (name : String) (body : Value) (source : String) :
    FailsWith (Fault.LiesBelow "file") (File.ofBody name body source) := by
  have hfile := Path.BeginsWith.file name
  have hfields : FailsWith (Fault.LiesBelow "file") (fieldsOf name body) := by
    unfold fieldsOf
    split
    · exact .ok _
    · exact .error (Fault.liesBelow_atPath _ hfile)
  have hscalar : ∀ fields key, FailsWith (Fault.LiesBelow "file") (scalar name fields key) := by
    intro fields key
    unfold scalar
    split
    · exact .ok _
    · exact .ok _
    · split
      · exact .ok _
      · exact .error (Fault.liesBelow_atPath _ (hfile.extend key))
  refine hfields.bind fun fields _ => ?_
  refine FailsWith.bind ?_ fun destination _ => ?_
  · refine (hscalar fields "destination").bind fun text _ => ?_
    cases text with
    | none => exact .error (Fault.liesBelow_atPath _ hfile)
    | some text => exact .ok _
  · refine (hscalar fields "content").bind fun content _ => ?_
    refine (hscalar fields "user").bind fun user _ => ?_
    refine (hscalar fields "group").bind fun group _ => ?_
    refine (hscalar fields "mode").bind fun mode _ => ?_
    refine FailsWith.bind ?_ fun body _ => .ok _
    exact (FailsWith.any _).mapError fun fault _ => fault.liesBelow_inside hfile

/-- Making a resource fails inside the block. -/
theorem Resource.ofKeys_failsWith (kind name : String) (keys : Value) (dependsOn : List String)
    (source : String) :
    FailsWith (Fault.LiesBelow kind) (Resource.ofKeys kind name keys dependsOn source) := by
  refine FailsWith.bind ?_ fun body _ => .ok _
  exact (FailsWith.any _).mapError fun fault _ => fault.liesBelow_inside (.block kind name)

namespace Config

variable (o : Origin) (kind name : String)

/-- A fault at a path in the document lies in the section that the path begins with. -/
theorem liesIn_faultAt {key path : String} (h : Path.BeginsWith key path) (cause : Cause) :
    (o.faultAt path cause).LiesIn o.label key :=
  (Fault.liesBelow_atPath _ h).inDocument o.label

theorem requireName_failsWith : FailsWith (Fault.LiesIn o.label kind) (requireName o kind name) :=
  (FailsWith.any _).mapError fun fault _ =>
    (fault.liesBelow_atPath (.block kind name)).inDocument o.label

theorem bodyFields_failsWith (body : Value) :
    FailsWith (Fault.LiesIn o.label kind) (bodyFields o kind name body) := by
  unfold bodyFields
  split
  · exact .ok _
  · exact .ok _
  · exact .error (liesIn_faultAt o (.block kind name) _)

theorem requireKeys_failsWith (valid : List String) (fields : Fields Value) :
    FailsWith (Fault.LiesIn o.label kind) (requireKeys o kind name valid fields) := by
  unfold requireKeys
  split
  · exact .ok _
  · exact .error (liesIn_faultAt o (.block kind name) _)

theorem stringIfGiven_failsWith (fields : Fields Value) (key : String) :
    FailsWith (Fault.LiesIn o.label kind) (stringIfGiven o kind name fields key) := by
  unfold stringIfGiven
  split
  · exact .ok _
  · exact .ok _
  · exact .ok _
  · exact .error (liesIn_faultAt o ((Path.BeginsWith.block kind name).extend key) _)

theorem dependencies_failsWith (fields : Fields Value) :
    FailsWith (Fault.LiesIn o.label kind) (dependencies o kind name fields) := by
  have hpath : Path.BeginsWith kind (blockPath kind name ++ ".depends_on") :=
    .inr ⟨name ++ ".depends_on", String.append_assoc⟩
  unfold dependencies
  split
  · exact .ok _
  · exact .ok _
  · split
    · exact .ok _
    · exact .error (liesIn_faultAt o hpath _)

/-- **Variables** fail in their section, -/
theorem extractVariable_failsWith (body : Value) :
    FailsWith (Fault.LiesIn o.label "variable") (extractVariable o name body) := by
  refine (requireName_failsWith o "variable" name).bind fun _ _ => ?_
  refine (bodyFields_failsWith o "variable" name body).bind fun fields _ => ?_
  refine (requireKeys_failsWith o "variable" name _ fields).bind fun _ _ => ?_
  refine (stringIfGiven_failsWith o "variable" name fields "type").bind fun declared _ => ?_
  refine (stringIfGiven_failsWith o "variable" name fields "description").bind fun _ _ => ?_
  exact (FailsWith.any _).mapError fun fault _ =>
    (fault.liesBelow_atPath (.block "variable" name)).inDocument o.label

/-- **files** in theirs, -/
theorem extractFile_failsWith (body : Value) :
    FailsWith (Fault.LiesIn o.label "file") (extractFile o name body) := by
  refine (requireName_failsWith o "file" name).bind fun _ _ => ?_
  refine (bodyFields_failsWith o "file" name body).bind fun fields _ => ?_
  refine (requireKeys_failsWith o "file" name _ fields).bind fun _ _ => ?_
  exact (File.ofBody_failsWith name _ o.label).mapError fun _ h => h.inDocument o.label

/-- **and resources** in the section of their kind. -/
theorem extractResource_failsWith (body : Value) :
    FailsWith (Fault.LiesIn o.label kind) (extractResource o kind name body) := by
  refine (requireName_failsWith o kind name).bind fun _ _ => ?_
  refine (bodyFields_failsWith o kind name body).bind fun fields _ => ?_
  refine (dependencies_failsWith o kind name fields).bind fun dependsOn _ => ?_
  exact (Resource.ofKeys_failsWith kind name _ dependsOn o.label).mapError fun _ h =>
    h.inDocument o.label

/-! ## 3. Sections -/

/-- A section fails where one of its blocks does, or because it is none. -/
theorem extractSection_failsWith {α : Type} {extract : String → Value → Except Fault α}
    (hextract : ∀ name body, FailsWith (Fault.LiesIn o.label kind) (extract name body))
    (v : Option Value) :
    FailsWith (Fault.LiesIn o.label kind) (extractSection o kind extract v) := by
  have hentries : ∀ w, FailsWith (Fault.LiesIn o.label kind) (sectionEntries o kind w) := by
    intro w
    unfold sectionEntries
    split
    · exact .ok _
    · exact .ok _
    · exact .error (liesIn_faultAt o (.self kind) _)
  cases v with
  | none => exact .ok _
  | some w => exact (hentries w).bind fun entries _ => .mapM fun e _ => hextract e.1 e.2

/-- A section of resources fails in itself. -/
theorem extractKind_failsWith (c : Config) (v : Value) :
    FailsWith (Fault.LiesIn o.label kind) (extractKind o c kind v) := by
  unfold extractKind
  split
  · exact (extractSection_failsWith o kind (extractResource_failsWith o kind) _).bind
      fun _ _ => .ok _
  · exact .ok _

/-- A fault that lies in one of several sections. -/
def LiesInOneOf (label : String) (keys : List String) (fault : Fault) : Prop :=
  ∃ key ∈ keys, fault.LiesIn label key

/-- A section that is not there does not fail, so the section of a fault is one of those that are
there. -/
theorem extractSection_get?_failsWith {α : Type} {extract : String → Value → Except Fault α}
    (hextract : ∀ name body, FailsWith (Fault.LiesIn o.label kind) (extract name body))
    (root : Fields Value) :
    FailsWith (LiesInOneOf o.label root.keys)
      (extractSection o kind extract (root.get? kind)) := by
  cases hkind : root.get? kind with
  | none => exact .ok _
  | some w =>
    have hmem : kind ∈ root.keys := List.mem_map_of_mem (Fields.mem_of_get? hkind)
    exact (extractSection_failsWith o kind hextract (some w)).mono fun _ h => ⟨kind, hmem, h⟩

/-- **Fields** fail in one of their sections. -/
theorem ofFields_failsWith (root : Fields Value) :
    FailsWith (LiesInOneOf o.label root.keys) (ofFields o root) := by
  refine (extractSection_get?_failsWith o "variable" (extractVariable_failsWith o) root).bind
    fun inputs _ => ?_
  refine (extractSection_get?_failsWith o "file" (extractFile_failsWith o) root).bind
    fun files _ => ?_
  refine FailsWith.foldlM (fun e he c => ?_) _
  have hmem : e.1 ∈ root.keys := List.mem_map_of_mem (List.mem_of_mem_filter he)
  exact (extractKind_failsWith o e.1 c e.2).mono fun _ h => ⟨e.1, hmem, h⟩

/-! ## 4. Documents -/

/-- A name is repeated below its kind. -/
theorem checkNamesOnce_failsWith (seen : List String) (entries : Fields Document) :
    FailsWith (Fault.LiesBelow kind) (checkNamesOnce kind seen entries) := by
  induction entries generalizing seen with
  | nil => exact .ok _
  | cons e rest ih =>
    rw [checkNamesOnce]
    split
    · exact .error (Fault.liesBelow_atPath _ (.block kind e.1))
    · exact ih _

/-- A repeated section is one of those that are there, and so is the one in which a name is
repeated. -/
theorem checkSectionsOnce_failsWith (seen : List String) (entries : Fields Document) :
    FailsWith (fun fault => ∃ key ∈ entries.keys, fault.LiesBelow key)
      (checkSectionsOnce seen entries) := by
  induction entries generalizing seen with
  | nil => exact .ok _
  | cons e rest ih =>
    have hfirst : e.1 ∈ Fields.keys (e :: rest) := List.mem_cons_self
    rw [checkSectionsOnce]
    split
    · exact .error ⟨e.1, hfirst, Fault.liesBelow_atPath _ (.self e.1)⟩
    · refine FailsWith.bind ?_ fun _ _ => ?_
      · exact (checkNamesOnce_failsWith e.1 [] _).mono fun _ h => ⟨e.1, hfirst, h⟩
      · refine (ih _).mono fun fault hfault => ?_
        obtain ⟨key, hkey, h⟩ := hfault
        exact ⟨key, List.mem_cons_of_mem _ hkey, h⟩

/-- The keys of the value of a mapping are keys of the mapping. -/
theorem mem_keys_of_mem_keys_ofList {entries : Fields Document} {key : String}
    (h : key ∈ Fields.keys (Fields.ofList (Document.entryValues entries))) :
    key ∈ entries.keys := by
  obtain ⟨e, he, rfl⟩ := List.mem_map.mp h
  have hvalue := Fields.mem_ofList he
  rw [Document.entryValues_eq] at hvalue
  obtain ⟨e', he', rfl⟩ := List.mem_map.mp hvalue
  exact List.mem_map_of_mem he'

/-- **A document that is a mapping** fails in one of its sections. -/
theorem ofDocument_mapping_failsWith (entries : Fields Document) :
    FailsWith (LiesInOneOf o.label entries.keys) (ofDocument o (.mapping entries)) := by
  rw [ofDocument, Document.toValue]
  refine FailsWith.bind ?_ fun _ _ => ?_
  · refine (checkSectionsOnce_failsWith [] entries).mapError fun fault hfault => ?_
    obtain ⟨key, hkey, h⟩ := hfault
    exact ⟨key, hkey, h.inDocument o.label⟩
  · refine (ofFields_failsWith o _).mono fun fault hfault => ?_
    obtain ⟨key, hkey, h⟩ := hfault
    exact ⟨key, mem_keys_of_mem_keys_ofList hkey, h⟩

/-- **Every fault of a document says where it was found**, in whatever way texts are read.  It names
the document.  If the text cannot be decoded or the document is no mapping, that is its cause;
otherwise it has a path, and the path is a top-level key of the document or goes on behind one. -/
theorem faults_say_where {read? : String → Option Document} {text label : String}
    {g : Name.Grammar} {fault : Fault} (h : parseWith read? text label g = .error fault) :
    fault.location.map Location.file = some label
    ∧ ((read? text = none ∧ fault.cause = .undecodable)
      ∨ (∃ d, read? text = some d ∧ (∀ entries, d ≠ .mapping entries)
        ∧ fault.cause = .rootNotMapping d.toValue.kind)
      ∨ ∃ entries path, read? text = some (.mapping entries) ∧ fault.path = some path
        ∧ ∃ key ∈ Fields.keys entries, Path.BeginsWith key path) := by
  unfold parseWith at h
  cases hread : read? text with
  | none =>
    rw [hread] at h
    cases h
    exact ⟨rfl, .inl ⟨rfl, rfl⟩⟩
  | some d =>
    rw [hread] at h
    cases d with
    | null => cases h
    | mapping entries =>
      obtain ⟨key, hkey, hdocument, path, hpath, hbegins⟩ :=
        ofDocument_mapping_failsWith { label, grammar := g } entries fault h
      exact ⟨hdocument, .inr (.inr ⟨entries, path, rfl, hpath, key, hkey, hbegins⟩)⟩
    | _ =>
      cases h
      exact ⟨rfl, .inr (.inl ⟨_, rfl, fun _ => nofun, rfl⟩)⟩

namespace Example

/-- A document with a note, and a package that refers to something other than a variable. -/
def strayEntries : Fields Document :=
  [("note", .bool true),
    ("package", .mapping
      [("web", .mapping [("hosts", .sequence [.string "db", .string "$\x7bregion\x7d"])])])]

/-- The document as a text. -/
def strayText : String :=
  "\x7b\"note\":true,\"package\":\x7b\"web\":\x7b\"hosts\":[\"db\",\"$\x7bregion\x7d\"]\x7d\x7d\x7d"

/-- Its fault. -/
def stray : Fault :=
  ((Fault.of (.unsupportedReference "region")).atPath "package.web.hosts[1]").inDocument "site.json"

theorem read_strayText : Format.json.read? strayText = some (.mapping strayEntries) := by cbv

theorem ofDocument_stray :
    ofDocument { label := "site.json", grammar := Name.Grammar.standard } (.mapping strayEntries)
      = .error stray := by
  with_unfolding_all rfl

/-- The template stands three steps below its section, and its fault says so. -/
theorem stray_is_located :
    parse strayText .json "site.json" Name.Grammar.standard = .error stray
      ∧ stray.location.map Location.file = some "site.json"
      ∧ stray.path = some "package.web.hosts[1]"
      ∧ ∃ entries path, Format.json.read? strayText = some (.mapping entries)
        ∧ stray.path = some path
        ∧ ∃ key ∈ Fields.keys entries, Path.BeginsWith key path := by
  have hparse : parse strayText .json "site.json" Name.Grammar.standard = .error stray := by
    rw [parse, parseWith, read_strayText]
    exact ofDocument_stray
  obtain ⟨hdocument, ⟨-, hcause⟩ | ⟨_, -, -, hcause⟩ | hplace⟩ := faults_say_where hparse
  · cases hcause
  · cases hcause
  · exact ⟨hparse, hdocument, rfl, hplace⟩

end Example

end Config

end TemplatedConfig
