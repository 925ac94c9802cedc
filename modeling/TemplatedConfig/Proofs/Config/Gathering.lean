/-
# Merging one configuration after another

The documents of a directory are merged from left to right.  Each step looks at what has been
gathered so far, but what comes of it can be said in terms of the documents themselves: merging
fails exactly if two of them share a block (`merges_eq_ok_iff`), it then blames a block of the later
one (`exists_of_merges_eq_error`), and otherwise everything that is declared is there, in the order
of the documents (`Gathers`).

Main statement: `merging_gathers_all`.
-/
import TemplatedConfig.Proofs.Config.Merging

namespace TemplatedConfig.Config

/-! ## 1. Whether merging succeeds -/

variable {first c : Config} {rest : List Config}

/-- **Merging many configurations gives their union** exactly if no two share a block. -/
theorem merges_eq_ok_iff (h : ∀ d ∈ rest, d.Distinct) :
    rest.foldlM merge first = .ok c
      ↔ (first :: rest).Pairwise (fun earlier later => ¬ earlier.SharesBlock later)
        ∧ c = rest.foldl joined first := by
  induction rest generalizing first with
  | nil =>
    constructor
    · intro hok
      cases hok
      exact ⟨List.pairwise_singleton _ _, rfl⟩
    · rintro ⟨-, rfl⟩
      rfl
  | cons next rest ih =>
    obtain ⟨hnext, hrest⟩ := List.forall_mem_cons.mp h
    rw [List.foldlM_cons, bind_eq_ok_iff]
    simp only [merge_eq_ok_iff hnext, ih hrest, List.pairwise_cons, List.forall_mem_cons]
    constructor
    · rintro ⟨_, ⟨hfirst, rfl⟩, ⟨hshared, hpairs⟩, rfl⟩
      have hboth : ∀ later ∈ rest, ¬ first.SharesBlock later ∧ ¬ next.SharesBlock later :=
        fun later hlater =>
          not_or.mp (mt (sharesBlock_joined_left hnext).mpr (hshared later hlater))
      exact ⟨⟨⟨hfirst, fun later hlater => (hboth later hlater).1⟩,
        fun later hlater => (hboth later hlater).2, hpairs⟩, rfl⟩
    · rintro ⟨⟨⟨hfirst, hshared⟩, hnext', hpairs⟩, rfl⟩
      refine ⟨_, ⟨hfirst, rfl⟩, ⟨fun later hlater hshares => ?_, hpairs⟩, rfl⟩
      rcases (sharesBlock_joined_left hnext).mp hshares with hshares | hshares
      · exact hshared later hlater hshares
      · exact hnext' later hlater hshares

/-- **Merging that fails** blames a block of a configuration whose name an earlier one declares. -/
theorem exists_of_merges_eq_error (h : ∀ d ∈ rest, d.Distinct) {fault : Fault}
    (hfault : rest.foldlM merge first = .error fault) :
    ∃ earlier later, [earlier, later].Sublist (first :: rest)
      ∧ ∃ b ∈ later.blocks, earlier.Declares b.name ∧ fault = b.duplicate := by
  induction rest generalizing first with
  | nil => cases hfault
  | cons next rest ih =>
    obtain ⟨hnext, hrest⟩ := List.forall_mem_cons.mp h
    rw [List.foldlM_cons] at hfault
    cases hmerge : first.merge next with
    | error fault' =>
      rw [hmerge] at hfault
      cases hfault
      exact ⟨first, next, (List.nil_sublist rest).cons_cons next |>.cons_cons first,
        exists_of_merge_eq_error hnext hmerge⟩
    | ok both =>
      rw [hmerge] at hfault
      obtain ⟨-, rfl⟩ := (merge_eq_ok_iff hnext).mp hmerge
      obtain ⟨earlier, later, hpair, b, hb, htaken, hblamed⟩ := ih hrest hfault
      -- What was gathered stands for the first two configurations.
      rcases List.sublist_cons_iff.mp hpair with hpair | ⟨_, hsame, hlater⟩
      · exact ⟨earlier, later, (hpair.cons next).cons first, b, hb, htaken, hblamed⟩
      · obtain ⟨rfl, rfl⟩ := List.cons.inj hsame
        rcases (declares_joined hnext.kinds).mp htaken with htaken | htaken
        · exact ⟨first, later, (hlater.cons next).cons_cons first, b, hb, htaken, hblamed⟩
        · exact ⟨next, later, (hlater.cons_cons next).cons first, b, hb, htaken, hblamed⟩

/-! ## 2. What is gathered -/

/-- What every union appends, all of them append. -/
theorem field_foldl_joined {α : Type} (field : Config → List α)
    (happend : ∀ d ∈ rest, ∀ c, field (c.joined d) = field c ++ field d) :
    field (rest.foldl joined first) = (first :: rest).flatMap field := by
  induction rest generalizing first with
  | nil => exact (List.append_nil _).symm
  | cons next rest ih =>
    obtain ⟨hnext, hrest⟩ := List.forall_mem_cons.mp happend
    rw [List.foldl_cons, ih hrest]
    simp only [List.flatMap_cons, hnext, List.append_assoc]

/-- Variables are put onto those of the first configuration, one after another. -/
theorem inputs_foldl_joined (first : Config) (rest : List Config) :
    (rest.foldl joined first).inputs = putVariables first.inputs (rest.flatMap Config.inputs) := by
  induction rest generalizing first with
  | nil => rfl
  | cons next rest ih =>
    rw [List.foldl_cons, ih, inputs_joined, List.flatMap_cons, putVariables, putVariables,
      putVariables, List.foldl_append]

/-- The last of several declarations that declares a variable. -/
def lastDeclaration (declared : List Variable) (name : String) : Option Variable :=
  declared.reverse.find? (·.name = name)

theorem get?_variableFields (inputs : List Variable) (name : String) :
    (variableFields inputs).get? name = inputs.find? (·.name = name) := by
  induction inputs with
  | nil => rfl
  | cons v rest ih =>
    show (if v.name = name then some v else (variableFields rest).get? name) = _
    rw [ih, List.find?_cons]
    by_cases hsame : v.name = name <;> simp [hsame]

/-- Where no name is repeated, the variables are those that are found under their names. -/
theorem map_some_inputs {inputs : List Variable} (h : (inputs.map Variable.name).Nodup) :
    inputs.map some
      = (inputs.map Variable.name).map fun name => inputs.find? (·.name = name) := by
  rw [List.map_map]
  refine List.map_congr_left fun v hv => ?_
  have hmem : (v.name, v) ∈ variableFields inputs := List.mem_map_of_mem hv
  rw [← keys_variableFields] at h
  rw [Function.comp_apply, ← get?_variableFields, Fields.get?_of_mem h hmem]

/-- **Variables that are declared again and again** stand where they were first declared, as they
were last declared. -/
theorem map_some_putVariables {inputs : List Variable} (h : (inputs.map Variable.name).Nodup)
    (more : List Variable) :
    (putVariables inputs more).map some
      = ((inputs ++ more).map Variable.name).eraseDups.map (lastDeclaration (inputs ++ more)) := by
  have hfirst : (variableFields inputs).keys.Nodup := by rwa [keys_variableFields]
  have hnames : (putVariables inputs more).map Variable.name
      = ((inputs ++ more).map Variable.name).eraseDups := by
    rw [← keys_variableFields, variableFields_putVariables, Fields.keys_insertAll hfirst,
      keys_variableFields, keys_variableFields, List.map_append]
  have hfound : ∀ name, (putVariables inputs more).find? (·.name = name)
      = lastDeclaration (inputs ++ more) name := by
    intro name
    have hreverse : ∀ declared : List Variable,
        Fields.get? (variableFields declared).reverse name
          = declared.reverse.find? (·.name = name) := by
      intro declared
      rw [variableFields, ← List.map_reverse]
      exact get?_variableFields declared.reverse name
    -- Among variables with distinct names, the first of a name is the last.
    rw [← get?_variableFields, variableFields_putVariables, Fields.get?_insertAll,
      Fields.get?_perm hfirst (List.reverse_perm _).symm, hreverse, hreverse, lastDeclaration,
      List.reverse_append, List.find?_append]
  rw [map_some_inputs (hnames ▸ nodup_eraseDups _), hnames]
  exact List.map_congr_left fun name _ => hfound name

/-- A configuration is made up of others: it has their declarations, one configuration after
another, and of several declarations of a variable the last, in the place of the first. -/
structure Gathers (c : Config) (all : List Config) : Prop where
  inputs : c.inputs.map some
    = ((all.flatMap Config.inputs).map Variable.name).eraseDups.map
        (lastDeclaration (all.flatMap Config.inputs))
  files : c.files = all.flatMap Config.files
  groups : ∀ kind, c.group kind = all.flatMap (·.group kind)
  ignoredKeys : c.ignoredKeys = all.flatMap Config.ignoredKeys
  sources : c.sources = all.flatMap Config.sources

/-- **The union of configurations** gathers what they declare. -/
theorem gathers_foldl_joined (hfirst : first.Distinct) (h : ∀ d ∈ rest, d.Distinct) :
    (rest.foldl joined first).Gathers (first :: rest) where
  inputs := by
    rw [inputs_foldl_joined, List.flatMap_cons]
    exact map_some_putVariables hfirst.inputs _
  files := field_foldl_joined _ fun d _ c => files_joined c d
  groups kind := field_foldl_joined (·.group kind) fun d hd _ => group_joined (h d hd).kinds kind
  ignoredKeys := field_foldl_joined _ fun d _ c => ignoredKeys_joined c d
  sources := field_foldl_joined _ fun d _ c => sources_joined c d

/-! ## 3. Both together -/

/-- Two of the configurations share a block exactly if there is an earlier and a later one that
do. -/
theorem exists_sharesBlock_iff {all : List Config} :
    (∃ earlier later, [earlier, later].Sublist all ∧ earlier.SharesBlock later)
      ↔ ¬ all.Pairwise fun earlier later => ¬ earlier.SharesBlock later := by
  rw [List.pairwise_iff_forall_sublist]
  constructor
  · rintro ⟨earlier, later, hpair, hshares⟩ hnone
    exact hnone hpair hshares
  · intro hsome
    by_contra hnone
    exact hsome fun {earlier later} hpair hshares => hnone ⟨earlier, later, hpair, hshares⟩

/-- **Merging loses and invents nothing.**  Configurations that texts declare, merged one after
another, fail to merge exactly if an earlier and a later one share a block.  If they merge, the
result gathers what they declare.  If not, the fault is about the name of a block of a later one
that an earlier one has declared; it names the block and the document that it is in. -/
theorem merging_gathers_all (h : ∀ d ∈ first :: rest, d.IsParsed) :
    ((∃ fault, rest.foldlM merge first = .error fault)
      ↔ ∃ earlier later, [earlier, later].Sublist (first :: rest) ∧ earlier.SharesBlock later)
    ∧ (∀ c, rest.foldlM merge first = .ok c → c.Gathers (first :: rest))
    ∧ ∀ fault, rest.foldlM merge first = .error fault →
        fault.kind = .name
        ∧ ∃ earlier later, [earlier, later].Sublist (first :: rest)
          ∧ ∃ b ∈ later.blocks, earlier.Declares b.name
            ∧ fault.path = some b.id ∧ fault.location = some { file := b.source } := by
  obtain ⟨hfirst, hrest⟩ := List.forall_mem_cons.mp h
  have hdistinct : ∀ d ∈ rest, d.Distinct := fun d hd => (hrest d hd).distinct
  refine ⟨?fails, fun c hc => ?merged, fun fault hfault => ?blamed⟩
  case fails =>
    rw [exists_sharesBlock_iff]
    constructor
    · rintro ⟨fault, hfault⟩ hnone
      rw [(merges_eq_ok_iff hdistinct).mpr ⟨hnone, rfl⟩] at hfault
      cases hfault
    · intro hsome
      exact exists_error_of_not_ok fun c hc => hsome ((merges_eq_ok_iff hdistinct).mp hc).1
  case merged =>
    obtain ⟨-, rfl⟩ := (merges_eq_ok_iff hdistinct).mp hc
    exact gathers_foldl_joined hfirst.distinct hdistinct
  case blamed =>
    obtain ⟨earlier, later, hpair, b, hb, htaken, rfl⟩ := exists_of_merges_eq_error hdistinct hfault
    refine ⟨?_, earlier, later, hpair, b, hb, htaken, ?_, ?_⟩ <;> cases b <;> rfl

namespace Example

/-- A resource with an empty body. -/
def bare (kind name source : String) : Resource where
  kind := kind
  name := name
  body := { key := Resource.idOf kind name, raw := .mapping [], templates := [], references := [] }
  dependsOn := []
  source := source

/-- What a document declares that every site starts from. -/
def base : Config where
  inputs := [{ name := "region", default := some (.string "eu") }]
  resources := [("package", [bare "package" "nginx" "base.json"])]

/-- The document that declares it. -/
def baseText : String :=
  "\x7b\"variable\":\x7b\"region\":\x7b\"default\":\"eu\"\x7d\x7d," ++
    "\"package\":\x7b\"nginx\":\x7b\x7d\x7d\x7d"

theorem parse_baseText : parse baseText .json "base.json" Name.Grammar.standard = .ok base := by
  refine parseWith_eq_ok_iff.mpr ⟨?document, ?read, ?kept⟩
  case read => cbv; rfl
  case kept => with_unfolding_all rfl

theorem isParsed_base : base.IsParsed := ⟨_, _, _, _, parse_baseText⟩

/-- What the document of a site declares: a variable of its own, another default and a package. -/
def site : Config where
  inputs := [{ name := "port" },
    { name := "region", default := some (.string "us") }]
  resources := [("package", [bare "package" "curl" "site.json"])]

/-- The document that declares it. -/
def siteText : String :=
  "\x7b\"variable\":\x7b\"port\":null,\"region\":\x7b\"default\":\"us\"\x7d\x7d," ++
    "\"package\":\x7b\"curl\":\x7b\x7d\x7d\x7d"

theorem parse_siteText : parse siteText .json "site.json" Name.Grammar.standard = .ok site := by
  refine parseWith_eq_ok_iff.mpr ⟨?document, ?read, ?kept⟩
  case read => cbv; rfl
  case kept => with_unfolding_all rfl

theorem isParsed_site : site.IsParsed := ⟨_, _, _, _, parse_siteText⟩

/-- The site may be merged to what it starts from, and then has both packages; the base may not be
merged twice. -/
theorem site_after_base :
    base.IsParsed ∧ site.IsParsed
      ∧ (∃ c, [site].foldlM merge base = .ok c ∧ c.Gathers [base, site]
        ∧ (c.group "package").map Resource.name = ["nginx", "curl"])
      ∧ ∃ fault, [site, base].foldlM merge base = .error fault ∧ fault.kind = .name
        ∧ fault.path = some "package.nginx" := by
  have honce : ∀ d ∈ [base, site], d.IsParsed :=
    List.forall_mem_cons.mpr ⟨isParsed_base, List.forall_mem_singleton.mpr isParsed_site⟩
  have htwice : ∀ d ∈ [base, site, base], d.IsParsed :=
    List.forall_mem_cons.mpr ⟨isParsed_base,
      List.forall_mem_cons.mpr ⟨isParsed_site, List.forall_mem_singleton.mpr isParsed_base⟩⟩
  refine ⟨isParsed_base, isParsed_site, ⟨_, rfl, (merging_gathers_all honce).2.1 _ rfl, rfl⟩,
    _, rfl, ((merging_gathers_all htwice).2.2 _ rfl).1, rfl⟩

end Example

end TemplatedConfig.Config
