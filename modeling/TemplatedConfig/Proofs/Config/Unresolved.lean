/-
# The reports of unresolved values are exact

Resolving a body reports the paths of the templates whose values are not known.  The mark can get
into the resolved body in many ways: as the whole result of a template, inside a list or a map
that a template gives, among the items of a list that is put into another, or because a template
spells it out.  However it gets there, a path is reported, and no path is reported without the
mark being there (`Traversal.unknownPaths_eq_nil_iff`).  The only other source of the mark would
be the loaded body itself, so bodies are taken to be free of it.

The statement goes from one tree to bodies (`Body.unknownPaths_eq_nil_iff`) and from there to
whole configurations and to the strict dump.

Main statement: `unresolved_reports_are_exact`.
-/
import TemplatedConfig.Proofs.Traversal.Shape
import TemplatedConfig.Proofs.Config.Pass
import TemplatedConfig.Cli.Run

namespace TemplatedConfig

/-! ## 1. Trees -/

namespace Traversal

variable {eval : String → Template → Except Fault Outcome}

/-- What a template leaves behind is reported exactly if it holds the mark. -/
theorem unknownPaths_ofOutcome_eq_nil_iff (path : String) (outcome : Outcome) :
    (ofOutcome path outcome).unknownPaths = []
      ↔ (ofOutcome path outcome).value.hasUnknown = false := by
  simp [List.eq_nil_iff_forall_not_mem, mem_unknownPaths_ofOutcome]

/-- Putting a list among other items leaves the mark where it is. -/
theorem any_hasUnknown_splice (item result : Value) :
    (splice item result).any Value.hasUnknown = result.hasUnknown := by
  unfold splice
  split
  · rename_i items
    split
    · rw [Value.hasUnknown_sequence]
    · simp
  · simp

/-- The mark stands in a sequence if it stands in the result of one of the items. -/
theorem hasUnknown_ofItems {items : List Value} {results : List Substituted}
    (h : results.length = items.length) :
    (ofItems items results).value.hasUnknown = results.any fun r => r.value.hasUnknown := by
  have hresults : (items.zip results).map Prod.snd = results := List.map_snd_zip (by omega)
  rw [ofItems, Value.hasUnknown_sequence, List.any_flatMap]
  simp only [any_hasUnknown_splice]
  have hany := List.any_map (f := Prod.snd) (p := fun r : Substituted => r.value.hasUnknown)
    (l := items.zip results)
  rw [hresults] at hany
  exact hany.symm

/-- The mark stands in a mapping if it stands in the result of one of the entries. -/
theorem hasUnknown_ofFields (results : Fields Substituted) :
    (ofFields results).value.hasUnknown = results.any fun e => e.2.value.hasUnknown := by
  rw [ofFields, Value.hasUnknown_mapping, Fields.mapValues, List.any_map]
  rfl

/-- **Nothing is reported exactly if the mark is nowhere**, in a tree that did not hold it. -/
theorem unknownPaths_eq_nil_iff {v : Value} (hfree : v.hasUnknown = false) {path : String}
    {r : Substituted} (h : substituteAt (m := Id) eval path v = .ok r) :
    r.unknownPaths = [] ↔ r.value.hasUnknown = false := by
  induction v using Value.inductionOn generalizing path r with
  | scalar v hscalar =>
    by_cases htemplate : v.isTemplate = true
    · cases v with
      | string text =>
        obtain ⟨outcome, -, rfl⟩ := (substituteAt_template_eq_ok_iff htemplate).mp h
        exact unknownPaths_ofOutcome_eq_nil_iff path outcome
      | _ => cases htemplate
    · rw [substituteAt_scalar hscalar (Bool.eq_false_iff.mpr htemplate)] at h
      cases h
      simp [hfree]
  | sequence items ih =>
    obtain ⟨results, hresults, rfl⟩ := substituteAt_sequence_eq_ok_iff.mp h
    have hlength : results.length = items.length := by
      simpa using length_of_mapM_eq_ok hresults
    rw [Value.hasUnknown_sequence, List.any_eq_false] at hfree
    have hmember : ∀ r ∈ results, r.unknownPaths = [] ↔ r.value.hasUnknown = false := by
      intro r hr
      obtain ⟨e, he, hitem⟩ := (mem_of_mapM_eq_ok hresults).2 r hr
      have hv : e.1 ∈ items := List.fst_mem_of_mem_zipIdx he
      exact ih e.1 hv (Bool.eq_false_iff.mpr (hfree e.1 hv)) hitem
    rw [hasUnknown_ofItems hlength, ofItems, List.flatMap_eq_nil_iff, List.any_eq_false]
    simp only [Bool.not_eq_true]
    exact forall₂_congr hmember
  | mapping fields ih =>
    obtain ⟨results, hresults, rfl⟩ := substituteAt_mapping_eq_ok_iff.mp h
    rw [Value.hasUnknown_mapping, List.any_eq_false] at hfree
    have hmember : ∀ e ∈ results, e.2.unknownPaths = [] ↔ e.2.value.hasUnknown = false := by
      intro e he
      obtain ⟨entry, hentry, hresult⟩ := (mem_of_mapM_eq_ok hresults).2 e he
      obtain ⟨result, hvalue, rfl⟩ := exists_of_map_eq_ok hresult
      exact ih entry hentry (Bool.eq_false_iff.mpr (hfree entry hentry)) hvalue
    rw [hasUnknown_ofFields, ofFields, List.flatMap_eq_nil_iff, List.any_eq_false]
    simp only [Bool.not_eq_true, Fields.sorted, List.mem_mergeSort]
    exact forall₂_congr hmember

end Traversal

/-! ## 2. Bodies -/

/-- **The report on a body is exact.** -/
theorem Body.unknownPaths_eq_nil_iff {body body' : Body} {bindings : Bindings}
    (hfree : body.raw.hasUnknown = false) (h : body.interpolate bindings = .ok body') :
    body'.unknownPaths = [] ↔ body'.current.hasUnknown = false := by
  obtain ⟨resolution, hresolve, hbody⟩ := exists_of_bind_eq_ok h
  cases hbody
  obtain ⟨replaced, hreplaced, hresolution⟩ := exists_of_bind_eq_ok hresolve
  cases hresolution
  exact Traversal.unknownPaths_eq_nil_iff hfree hreplaced

/-! ## 3. Configurations -/

namespace Config

/-- The mark stands in no body as it was loaded. -/
structure MarkFree (c : Config) : Prop where
  files : ∀ f ∈ c.files, f.body.raw.hasUnknown = false
  resources : ∀ r ∈ c.allResources, r.keys.hasUnknown = false

/-- The mark stands in no body as it is now. -/
structure Resolved (c : Config) : Prop where
  files : ∀ f ∈ c.files, f.current.hasUnknown = false
  resources : ∀ r ∈ c.allResources, r.current.hasUnknown = false

/-- An interpolated file block has an interpolated body. -/
theorem exists_of_interpolateFile {bindings : Bindings} {f f' : File}
    (h : interpolateFile bindings f = .ok f') :
    ∃ body, f.body.interpolate bindings = .ok body ∧ f' = { f with body } := by
  obtain ⟨body, hbody, hf⟩ := exists_of_bind_eq_ok h
  exact ⟨body, mapError_eq_ok_iff.mp hbody, (Except.ok.inj hf).symm⟩

/-- An interpolated resource has an interpolated body. -/
theorem exists_of_interpolateResource {bindings : Bindings} {r r' : Resource}
    (h : interpolateResource bindings r = .ok r') :
    ∃ body, r.body.interpolate bindings = .ok body ∧ r' = { r with body } := by
  obtain ⟨body, hbody, hr⟩ := exists_of_bind_eq_ok h
  exact ⟨body, mapError_eq_ok_iff.mp hbody, (Except.ok.inj hr).symm⟩

/-- The interpolated resources come from the resources, whatever kinds they stand under. -/
theorem exists_of_mem_allResources {bindings : Bindings} {c : Config}
    {resources : Fields (List Resource)}
    (h : c.resources.mapM (stepGroup (interpolateResource bindings)) = .ok resources)
    {r' : Resource} (hr' : r' ∈ { c with resources }.allResources) :
    ∃ r ∈ c.allResources, interpolateResource bindings r = .ok r' := by
  obtain ⟨group', hgroup', hr'⟩ := List.mem_flatMap.mp hr'
  obtain ⟨group, hgroup, hstep⟩ := (mem_of_mapM_eq_ok h).2 group' hgroup'
  obtain ⟨out, hout, rfl⟩ := exists_of_map_eq_ok hstep
  obtain ⟨r, hr, hstep⟩ := (mem_of_mapM_eq_ok hout).2 r' hr'
  exact ⟨r, List.mem_flatMap.mpr ⟨group, hgroup, hr⟩, hstep⟩

/-- A configuration reports what its bodies report. -/
theorem unresolvedPaths_eq_nil_iff_bodies (c : Config) :
    c.unresolvedPaths = [] ↔ (∀ f ∈ c.files, f.body.unknownPaths = [])
      ∧ ∀ r ∈ c.allResources, r.body.unknownPaths = [] := by
  simp [unresolvedPaths, List.flatMap_eq_nil_iff]

/-- **The report on a configuration is exact.** -/
theorem unresolvedPaths_eq_nil_iff {c c' : Config} (hfree : c.MarkFree) {bindings : Bindings}
    (h : c.interpolate bindings = (c', none)) : c'.unresolvedPaths = [] ↔ c'.Resolved := by
  obtain ⟨files, resources, hfiles, hresources, rfl⟩ := interpolate_eq_none_iff.mp h
  have hfile : ∀ f ∈ files, f.body.unknownPaths = [] ↔ f.current.hasUnknown = false := by
    intro f' hf'
    obtain ⟨f, hf, hstep⟩ := (mem_of_mapM_eq_ok hfiles).2 f' hf'
    obtain ⟨body, hbody, rfl⟩ := exists_of_interpolateFile hstep
    exact Body.unknownPaths_eq_nil_iff (hfree.files f hf) hbody
  have hresource : ∀ r ∈ { c with files, resources }.allResources,
      r.body.unknownPaths = [] ↔ r.current.hasUnknown = false := by
    intro r' hr'
    obtain ⟨r, hr, hstep⟩ := exists_of_mem_allResources hresources hr'
    obtain ⟨body, hbody, rfl⟩ := exists_of_interpolateResource hstep
    exact Body.unknownPaths_eq_nil_iff (hfree.resources r hr) hbody
  rw [unresolvedPaths_eq_nil_iff_bodies]
  constructor
  · rintro ⟨hnone, hnone'⟩
    exact ⟨fun f hf => (hfile f hf).mp (hnone f hf),
      fun r hr => (hresource r hr).mp (hnone' r hr)⟩
  · rintro ⟨hresolved, hresolved'⟩
    exact ⟨fun f hf => (hfile f hf).mpr (hresolved f hf),
      fun r hr => (hresource r hr).mpr (hresolved' r hr)⟩

end Config

/-! ## 4. The strict dump -/

namespace Cli

/-- **A strict dump prints all or nothing.**  It ends with code 1 and prints nothing, or the
interpolated configuration reports nothing and is what it prints. -/
theorem strict_dumpReport (overrides : List String) (format : DumpFormat) (c : Config) :
    ((dumpReport overrides format true c).code = 1
        ∧ (dumpReport overrides format true c).output = "")
      ∨ ∃ bindings c', bindingsWith decodeYaml c overrides = .ok bindings
        ∧ c.interpolate bindings = (c', none)
        ∧ c'.unresolvedPaths = []
        ∧ (dumpReport overrides format true c).code = 0
        ∧ (dumpReport overrides format true c).output = render format c'.toValue := by
  unfold dumpReport
  split
  · exact .inl ⟨rfl, rfl⟩
  · rename_i bindings hbindings
    split
    · exact .inl ⟨rfl, rfl⟩
    · rename_i c' hrun
      unfold resolvedReport
      split
      · exact .inl ⟨rfl, rfl⟩
      · rename_i hnone
        exact .inr ⟨bindings, c', hbindings, hrun, by simpa using hnone, rfl, rfl⟩

end Cli

/-- **The reports of unresolved values are exact.**  After an interpolation without a fault there
is a report exactly if the mark is in some body.  So a strict dump prints a configuration only if
all its bodies are resolved, and nothing otherwise. -/
theorem unresolved_reports_are_exact {c : Config} (hfree : c.MarkFree) :
    (∀ bindings c', c.interpolate bindings = (c', none) →
      (c'.unresolvedPaths = [] ↔ c'.Resolved))
    ∧ ∀ overrides format,
      ((Cli.dumpReport overrides format true c).code = 1
        ∧ (Cli.dumpReport overrides format true c).output = "")
      ∨ ∃ bindings c', Cli.bindingsWith Cli.decodeYaml c overrides = .ok bindings
        ∧ c.interpolate bindings = (c', none)
        ∧ c'.Resolved
        ∧ (Cli.dumpReport overrides format true c).code = 0
        ∧ (Cli.dumpReport overrides format true c).output = Cli.render format c'.toValue := by
  refine ⟨fun bindings c' h => Config.unresolvedPaths_eq_nil_iff hfree h,
    fun overrides format => ?_⟩
  rcases Cli.strict_dumpReport overrides format c with
    hnothing | ⟨bindings, c', hbindings, hrun, hnone, hcode, houtput⟩
  · exact .inl hnothing
  · exact .inr ⟨bindings, c', hbindings, hrun,
      (Config.unresolvedPaths_eq_nil_iff hfree hrun).mp hnone, hcode, houtput⟩

namespace Example

/-- Hosts to bind. -/
def bound (hosts : List Value) : Bindings := ⟨[("hosts", .sequence hosts)]⟩

/-- A pool of the hosts. -/
def pool : Resource where
  kind := "pool"
  name := "web"
  body := {
    key := "pool.web"
    raw := .mapping [("nodes", .sequence [.string "${var.hosts}"])]
    templates := [⟨"${var.hosts}", [.interpolation (.variable "var.hosts")]⟩]
    references := [⟨"hosts", "var.hosts"⟩] }
  dependsOn := []
  source := "pool.yaml"

/-- The body of the pool with the hosts put in. -/
def nodes (hosts : List Value) : Resolution where
  value := .mapping [("nodes", .sequence hosts)]
  unknownPaths := if (Value.sequence hosts).hasUnknown then ["nodes[0]"] else []

/-- The pool, and the hosts as a variable with a default. -/
def pools (hosts : List Value) : Config where
  inputs := [{ name := "hosts", default := some (.sequence hosts) }]
  resources := [("pool", [pool])]

/-- The pool with the hosts put in. -/
def pooled (hosts : List Value) : Config :=
  { pools hosts with
    resources := [("pool",
      [{ pool with body := { pool.body with resolution := some (nodes hosts) } }])] }

theorem interpolate_pools (hosts : List Value) :
    (pools hosts).interpolate (bound hosts) = (pooled hosts, none) := by
  have htemplate : Template.isTemplate "${var.hosts}" = true := by decide +kernel
  have hparse : Template.parse "${var.hosts}"
      = .ok ⟨"${var.hosts}", [.interpolation (.variable "var.hosts")]⟩ := by
    with_unfolding_all rfl
  have hitem : Traversal.substituteAt (m := Id)
      (fun _ t => Scope.fill ⟨bound hosts, .builtins⟩ t) "nodes[0]" (.string "${var.hosts}")
      = .ok (Traversal.ofOutcome "nodes[0]" (.known (.sequence hosts))) := by
    refine (Traversal.substituteAt_template_eq_ok_iff htemplate).mpr ⟨_, ?_, rfl⟩
    rw [hparse]
    rfl
  have hnodes : Traversal.substituteAt (m := Id)
      (fun _ t => Scope.fill ⟨bound hosts, .builtins⟩ t) "nodes"
      (.sequence [.string "${var.hosts}"])
      = .ok ⟨.sequence hosts, (nodes hosts).unknownPaths⟩ := by
    refine Traversal.substituteAt_sequence_eq_ok_iff.mpr
      ⟨[Traversal.ofOutcome "nodes[0]" (.known (.sequence hosts))], ?_, ?_⟩
    · exact mapM_eq_ok_iff.mpr (congrArg (fun r => [r]) hitem)
    · simp [Traversal.ofItems, Traversal.ofOutcome, Traversal.splice, Value.isTemplate, htemplate,
        nodes]
  have hraw : Traversal.substitute (m := Id) (fun _ t => Scope.fill ⟨bound hosts, .builtins⟩ t)
      pool.body.raw = .ok ⟨(nodes hosts).value, (nodes hosts).unknownPaths⟩ :=
    Traversal.substitute_singleton hnodes
  have hstep : Config.interpolateResource (bound hosts) pool
      = .ok { pool with body := { pool.body with resolution := some (nodes hosts) } } := by
    rw [Config.interpolateResource, Config.interpolateBody, Body.interpolate, Body.resolve,
      Body.resolveIn, hraw]
    rfl
  refine Config.interpolate_eq_none_iff.mpr ⟨[], (pooled hosts).resources, rfl, ?_, rfl⟩
  rw [pools, List.mapM_cons, Config.stepGroup, List.mapM_cons, hstep]
  rfl

theorem markFree_pools (hosts : List Value) : (pools hosts).MarkFree :=
  ⟨fun f hf => (List.not_mem_nil hf).elim,
    fun r hr => by rw [List.mem_singleton.mp hr]; decide +kernel⟩

theorem bindingsWith_pools (hosts : List Value) :
    Cli.bindingsWith Cli.decodeYaml (pools hosts) [] = .ok (bound hosts) := rfl

/-- What is interpolated without overrides. -/
theorem eq_pooled {hosts : List Value} {b : Bindings} {c : Config}
    (hb : Cli.bindingsWith Cli.decodeYaml (pools hosts) [] = .ok b)
    (hrun : (pools hosts).interpolate b = (c, none)) : c = pooled hosts := by
  obtain rfl := Except.ok.inj ((bindingsWith_pools hosts).symm.trans hb)
  rw [interpolate_pools] at hrun
  exact (Prod.mk.inj hrun).1.symm

/-- Two hosts, one of which is not known yet. -/
def partly : List Value := [.string "a", Value.unknown]

/-- A host that is known. -/
def wholly : List Value := [.string "a"]

/-- The mark gets in with an item of a list, which is reported as a whole, and a strict dump prints
nothing then.  It prints the pool if all hosts are known. -/
theorem pool_is_reported :
    (pools partly).MarkFree ∧ (pools wholly).MarkFree
      ∧ (pools partly).interpolate (bound partly) = (pooled partly, none)
      ∧ (pooled partly).unresolvedPaths = ["pool.web: nodes[0]"]
      ∧ ¬ (pooled partly).Resolved
      ∧ (pooled wholly).unresolvedPaths = []
      ∧ (pooled wholly).Resolved
      ∧ (Cli.dumpReport [] .json true (pools partly)).code = 1
      ∧ (Cli.dumpReport [] .json true (pools partly)).output = ""
      ∧ (Cli.dumpReport [] .json true (pools wholly)).code = 0
      ∧ (Cli.dumpReport [] .json true (pools wholly)).output
        = Cli.render .json (pooled wholly).toValue := by
  obtain ⟨hexact, hdump⟩ := unresolved_reports_are_exact (markFree_pools partly)
  obtain ⟨hexact', hdump'⟩ := unresolved_reports_are_exact (markFree_pools wholly)
  have hreport : (pooled partly).unresolvedPaths = ["pool.web: nodes[0]"] := by decide +kernel
  have hnone : (pooled wholly).unresolvedPaths = [] := by decide +kernel
  have hunresolved : ¬ (pooled partly).Resolved := fun hresolved => by
    have hnone := (hexact _ _ (interpolate_pools partly)).mpr hresolved
    rw [hreport] at hnone
    cases hnone
  have hresolved : (pooled wholly).Resolved := (hexact' _ _ (interpolate_pools wholly)).mp hnone
  refine ⟨markFree_pools _, markFree_pools _, interpolate_pools _, hreport, hunresolved, hnone,
    hresolved, and_assoc.mp ⟨?_, ?_⟩⟩
  · rcases hdump [] .json with hnothing | ⟨b, c', hb, hrun, hprinted, -⟩
    · exact hnothing
    · exact absurd (eq_pooled hb hrun ▸ hprinted) hunresolved
  · rcases hdump' [] .json with ⟨hcode, -⟩ | ⟨b, c', hb, hrun, -, hcode, houtput⟩
    · simp [Cli.dumpReport, bindingsWith_pools, interpolate_pools, Cli.resolvedReport,
        hnone] at hcode
    · exact ⟨hcode, eq_pooled hb hrun ▸ houtput⟩

end Example

end TemplatedConfig
