/-
# The references of a body are what resolving it reads

When a body is made, its templates are parsed and the variables in them are collected, once
(`Body.references`).  When it is resolved, the templates are parsed again and evaluated.  The two
traversals are written separately, and this file ties them together.

`Inspected` states what making a body establishes: every site parses, every variable in it is a
well-formed reference that was collected, and every collected reference comes from a variable at
some site.  It follows from `Body.ofValue` alone (`inspected_of_ofValue`).  What resolving does
follows from `Inspected` and the three statements on evaluation in `Proofs.Scope.Strictness`:

* bindings that agree on the references give the same result (`Inspected.resolveIn_congr`);
* bindings that lack one of them give a fault (`Inspected.resolveIn_error`);
* with all of them bound and sound functions, a fault lies in the values
  (`Inspected.resolveIn_blameless`).

Main statement: `references_are_what_is_read`.
-/
import TemplatedConfig.Proofs.Traversal.Order
import TemplatedConfig.Proofs.Scope.Strictness

namespace TemplatedConfig

/-! ## 1. References in expressions -/

namespace Expr

mutual

/-- The target of an index is a node wherever the index is. -/
theorem target_mem_nodes {target key : Expr} : ∀ e : Expr,
    .index target key ∈ e.nodes → target ∈ e.nodes
  | .literal _, h => by simp [nodes] at h
  | .variable _, h => by simp [nodes] at h
  | .index target' key', h => by
    have hparts : (target = target' ∧ key = key') ∨ .index target key ∈ target'.nodes
        ∨ .index target key ∈ key'.nodes := by
      simpa [nodes] using h
    rcases hparts with ⟨rfl, -⟩ | ht | hk
    · simp [nodes, self_mem_nodes]
    · simp [nodes, target_mem_nodes target' ht]
    · simp [nodes, target_mem_nodes key' hk]
  | .call _ arguments, h => by
    have harguments : .index target key ∈ nodesOfAll arguments := by simpa [nodes] using h
    simp [nodes, target_mem_nodesOfAll arguments harguments]
  | .arithmetic _ left right, h => by
    have hparts : .index target key ∈ left.nodes ∨ .index target key ∈ right.nodes := by
      simpa [nodes] using h
    rcases hparts with hl | hr
    · simp [nodes, target_mem_nodes left hl]
    · simp [nodes, target_mem_nodes right hr]
  | .negate operand, h => by
    have hoperand : .index target key ∈ operand.nodes := by simpa [nodes] using h
    simp [nodes, target_mem_nodes operand hoperand]

theorem target_mem_nodesOfAll {target key : Expr} : ∀ es : List Expr,
    .index target key ∈ nodesOfAll es → target ∈ nodesOfAll es
  | [], h => by simp [nodesOfAll] at h
  | e :: rest, h => by
    have hparts : .index target key ∈ e.nodes ∨ .index target key ∈ nodesOfAll rest := by
      simpa [nodesOfAll] using h
    rcases hparts with he | hrest
    · simp [nodesOfAll, target_mem_nodes e he]
    · simp [nodesOfAll, target_mem_nodesOfAll rest hrest]

end

end Expr

namespace Reference

/-- The keys that an expression reports are those of its variables. -/
theorem mem_reported_iff {e : Expr} {key : String} :
    key ∈ e.nodes.filterMap reportedKey? ↔ .variable key ∈ e.nodes := by
  rw [List.mem_filterMap]
  constructor
  · rintro ⟨node, hnode, hkey⟩
    unfold reportedKey? at hkey
    split at hkey
    · cases hkey
      exact hnode
    · cases hkey
      exact Expr.target_mem_nodes e hnode
    · cases hkey
  · exact fun h => ⟨_, h, rfl⟩

/-- **The references found in an expression** are those of its variables, and each variable has
one. -/
theorem mem_of_allIn {e : Expr} {references : List Reference} (h : allIn e = .ok references) :
    (∀ key, .variable key ∈ e.nodes → ∃ r ∈ references, ofKey key = .ok r)
      ∧ ∀ r ∈ references, ∃ key, .variable key ∈ e.nodes ∧ ofKey key = .ok r := by
  obtain ⟨hto, hfrom⟩ := mem_of_mapM_eq_ok h
  constructor
  · exact fun key hkey => hto key (mem_reported_iff.mpr hkey)
  · intro r hr
    obtain ⟨key, hkey, hf⟩ := hfrom r hr
    exact ⟨key, mem_reported_iff.mp hkey, hf⟩

/-- The full text of a reference determines its name. -/
theorem fullText_eq_keyOf_iff {r : Reference} {name : String} :
    r.fullText = keyOf name ↔ r.name = name := by
  rw [fullText, keyOf, keyOf, String.append_right_inj]

end Reference

namespace Body

/-- The references found in a template are those of its variables. -/
theorem mem_of_referencesIn {t : Template} {references : List Reference}
    (h : referencesIn t = .ok references) :
    (∀ e ∈ t.exprs, ∀ key, .variable key ∈ e.nodes → ∃ r ∈ references, Reference.ofKey key = .ok r)
      ∧ ∀ r ∈ references, ∃ e ∈ t.exprs, ∃ key, .variable key ∈ e.nodes
        ∧ Reference.ofKey key = .ok r := by
  obtain ⟨lists, hlists, rfl⟩ := exists_of_map_eq_ok h
  obtain ⟨hto, hfrom⟩ := mem_of_mapM_eq_ok hlists
  constructor
  · intro e he key hkey
    obtain ⟨list, hlist, hall⟩ := hto e he
    obtain ⟨r, hr, hofKey⟩ := (Reference.mem_of_allIn hall).1 key hkey
    exact ⟨r, List.mem_flatten.mpr ⟨list, hlist, hr⟩, hofKey⟩
  · intro r hr
    obtain ⟨list, hlist, hr⟩ := List.mem_flatten.mp hr
    obtain ⟨e, he, hall⟩ := hfrom list hlist
    obtain ⟨key, hkey, hofKey⟩ := (Reference.mem_of_allIn hall).2 r hr
    exact ⟨e, he, key, hkey, hofKey⟩

/-- Collecting keeps every reference that was found. -/
theorem mem_collect {found : List Reference} {r : Reference} : r ∈ collect found ↔ r ∈ found := by
  rw [collect, List.mem_mergeSort, List.mem_eraseDups]

/-! ## 2. What making a body establishes -/

/-- Every template of the body parses and refers to collected references only, and every
collected reference is referred to in one of them. -/
structure Inspected (body : Body) : Prop where
  parsed : ∀ site ∈ body.raw.sites, ∃ t, Template.parse site.source = .ok t
    ∧ ∀ e ∈ t.exprs, ∀ key, .variable key ∈ e.nodes →
      ∃ r ∈ body.references, Reference.ofKey key = .ok r
  read : ∀ r ∈ body.references, ∃ site ∈ body.raw.sites, ∃ t, Template.parse site.source = .ok t
    ∧ ∃ e ∈ t.exprs, ∃ key, .variable key ∈ e.nodes ∧ Reference.ofKey key = .ok r

/-- A site that was inspected parses, and its references were found. -/
theorem of_visitSite_inspect {site : Site} {t : Template} {references : List Reference}
    (h : Traversal.visitSite (m := Id) (fun _ t => inspect t) site
      = (.ok (t, references) : Except Fault (Template × List Reference))) :
    Template.parse site.source = .ok t ∧ referencesIn t = .ok references := by
  rw [Traversal.visitSite_pure] at h
  cases hparse : Template.parse site.source with
  | error fault => rw [hparse] at h; cases h
  | ok t' =>
    rw [hparse] at h
    cases hinspect : inspect t' with
    | error fault => simp only [hinspect] at h; cases h
    | ok found =>
      simp only [hinspect] at h
      cases h
      obtain ⟨references', hreferences, hfound⟩ := exists_of_map_eq_ok hinspect
      cases hfound
      exact ⟨rfl, hreferences⟩

/-- **A body that could be made has been inspected.** -/
theorem inspected_of_ofValue {key : String} {raw : Value} {body : Body}
    (h : ofValue key raw = .ok body) : body.Inspected := by
  obtain ⟨found, hfound, h⟩ := exists_of_bind_eq_ok h
  cases h
  obtain ⟨hto, hfrom⟩ := mem_of_mapM_eq_ok ((Traversal.mapM_pure _ _).symm.trans hfound)
  constructor
  · intro site hsite
    obtain ⟨⟨t, references⟩, hmem, hvisit⟩ := hto site hsite
    obtain ⟨hparse, hreferences⟩ := of_visitSite_inspect hvisit
    refine ⟨t, hparse, fun e he key hkey => ?_⟩
    obtain ⟨r, hr, hofKey⟩ := (mem_of_referencesIn hreferences).1 e he key hkey
    exact ⟨r, mem_collect.mpr (List.mem_flatMap.mpr ⟨_, hmem, hr⟩), hofKey⟩
  · intro r hr
    obtain ⟨⟨t, references⟩, hmem, hr⟩ := List.mem_flatMap.mp (mem_collect.mp hr)
    obtain ⟨site, hsite, hvisit⟩ := hfrom _ hmem
    obtain ⟨hparse, hreferences⟩ := of_visitSite_inspect hvisit
    obtain ⟨e, he, key, hkey, hofKey⟩ := (mem_of_referencesIn hreferences).2 r hr
    exact ⟨site, hsite, t, hparse, e, he, key, hkey, hofKey⟩

/-! ## 3. What resolving a body reads -/

variable {body : Body} {functions : Registry} {b b' : Bindings}

/-- **A body fails as the first of its sites that fails.** -/
theorem resolveIn_eq_error_iff {s : Scope} {fault : Fault} :
    body.resolveIn s = .error fault ↔ body.raw.sites.findSome? (fun site =>
      error? (Traversal.visitSite (m := Id) (fun _ t => s.fill t) site : Except Fault Outcome))
        = some fault := by
  rw [← map_eq_error_iff (f := Resolution.unknownPaths), unknownPaths_resolveIn,
    Traversal.reports_pure, map_eq_error_iff, mapM_eq_error_iff]
  simp only [error?_map]

/-- A body fails with a fault that one of its sites fails with. -/
theorem exists_site_of_resolveIn_error {s : Scope} {fault : Fault}
    (h : body.resolveIn s = .error fault) : ∃ site ∈ body.raw.sites,
      Traversal.visitSite (m := Id) (fun _ t => s.fill t) site
        = (.error fault : Except Fault Outcome) := by
  obtain ⟨site, hsite, hfault⟩ := List.exists_of_findSome?_eq_some (resolveIn_eq_error_iff.mp h)
  exact ⟨site, hsite, error?_eq_some_iff.mp hfault⟩

/-- A body fails if one of its sites does. -/
theorem resolveIn_error_of_site {s : Scope} {site : Site} (hsite : site ∈ body.raw.sites)
    (h : ∃ fault, Traversal.visitSite (m := Id) (fun _ t => s.fill t) site
      = (.error fault : Except Fault Outcome)) : ∃ fault, body.resolveIn s = .error fault := by
  have hreports : ∃ fault, (body.resolveIn s).map Resolution.unknownPaths = .error fault := by
    simp only [unknownPaths_resolveIn, Traversal.reports_pure, map_eq_error_iff]
    refine mapM_error hsite ?_
    simpa only [map_eq_error_iff] using h
  simpa only [map_eq_error_iff] using hreports

/-- **Bindings that agree on the references give the same result.** -/
theorem Inspected.resolveIn_congr (h : body.Inspected)
    (hb : ∀ r ∈ body.references, b.get? r.name = b'.get? r.name) :
    body.resolveIn ⟨b, functions⟩ = body.resolveIn ⟨b', functions⟩ := by
  unfold resolveIn Traversal.substitute
  rw [Traversal.substituteAt_congr "" body.raw]
  intro site hsite
  obtain ⟨t, hparse, hkeys⟩ := h.parsed site hsite
  rw [Traversal.visitSite_pure, Traversal.visitSite_pure, hparse]
  have hfill : Scope.fill ⟨b, functions⟩ t = Scope.fill ⟨b', functions⟩ t := by
    have hcall : (Scope.mk b functions).functions.call
        = (Scope.mk b' functions).functions.call := rfl
    refine Scope.fill_congr hcall fun e he key hkey => ?_
    obtain ⟨r, hr, hofKey⟩ := hkeys e he key hkey
    rw [Scope.lookup_of_ofKey hofKey, Scope.lookup_of_ofKey hofKey, hb r hr]
  simp only [hfill]

/-- **Bindings that lack a reference give a fault.** -/
theorem Inspected.resolveIn_error (h : body.Inspected) {r : Reference}
    (hr : r ∈ body.references) (hb : b.get? r.name = none) :
    ∃ fault, body.resolveIn ⟨b, functions⟩ = .error fault := by
  obtain ⟨site, hsite, t, hparse, e, he, key, hkey, hofKey⟩ := h.read r hr
  have hlookup : Scope.lookup ⟨b, functions⟩ key = .error (Fault.of (.unknownVariable key)) := by
    rw [Scope.lookup_of_ofKey hofKey, hb]
  obtain ⟨fault, hfill⟩ := Scope.fill_error_of_lookup ⟨_, hlookup⟩ he hkey
  refine resolveIn_error_of_site hsite ⟨Traversal.addPath site.path fault, ?_⟩
  rw [Traversal.visitSite_pure, hparse]
  simp only [hfill]
  rfl

/-- **With all references bound and sound functions, a fault lies in the values.** -/
theorem Inspected.resolveIn_blameless (h : body.Inspected)
    (hf : ∀ name f, functions.get? name = some f → f.Sound)
    (hb : ∀ r ∈ body.references, ∃ v, b.get? r.name = some v) :
    Blameless (body.resolveIn ⟨b, functions⟩) := by
  intro fault hfault
  obtain ⟨site, hsite, hvisit⟩ := exists_site_of_resolveIn_error hfault
  obtain ⟨t, hparse, hkeys⟩ := h.parsed site hsite
  have hfill : Blameless (Scope.fill ⟨b, functions⟩ t) := by
    refine Scope.fill_blameless hf fun e he key hkey => ?_
    obtain ⟨r, hr, hofKey⟩ := hkeys e he key hkey
    obtain ⟨v, hv⟩ := hb r hr
    exact ⟨v, by rw [Scope.lookup_of_ofKey hofKey, hv]⟩
  rw [Traversal.visitSite_pure, hparse] at hvisit
  cases hresult : Scope.fill ⟨b, functions⟩ t with
  | ok outcome => simp only [hresult] at hvisit; cases hvisit
  | error fault' =>
    simp only [hresult] at hvisit
    cases hvisit
    rw [Fault.IsBlameless, Traversal.kind_addPath]
    exact hfill fault' hresult

/-- The names of the references of a body are those whose full text is among theirs. -/
theorem keyOf_mem_references {name : String} :
    Reference.keyOf name ∈ body.references.map Reference.fullText
      ↔ ∃ r ∈ body.references, r.name = name := by
  simp only [List.mem_map, Reference.fullText_eq_keyOf_iff]

end Body

/-- **The references of a body are exactly what resolving it reads.**  Bindings that agree on
them, a missing binding included, give the same result, be it a resolved body or a fault.
Bindings that lack one of them give a fault.  If all of them are bound, resolving with the
built-in functions fails only with an error of type or of evaluation: whatever is wrong with a
template or a reference is found when the body is made. -/
theorem references_are_what_is_read {key : String} {raw : Value} {body : Body}
    (h : Body.ofValue key raw = .ok body) :
    (∀ (functions : Registry) (b b' : Bindings),
      (∀ name, Reference.keyOf name ∈ body.references.map Reference.fullText →
        b.get? name = b'.get? name) →
      body.resolveIn ⟨b, functions⟩ = body.resolveIn ⟨b', functions⟩)
    ∧ (∀ (functions : Registry) (b : Bindings) (name : String),
      Reference.keyOf name ∈ body.references.map Reference.fullText → b.get? name = none →
      ∃ fault, body.resolveIn ⟨b, functions⟩ = .error fault)
    ∧ ∀ b : Bindings,
      (∀ name, Reference.keyOf name ∈ body.references.map Reference.fullText →
        ∃ v, b.get? name = some v) →
      ∀ fault, body.resolve b = .error fault → fault.kind = .type ∨ fault.kind = .evaluation := by
  have hbody := Body.inspected_of_ofValue h
  refine ⟨fun functions b b' hb => ?_, fun functions b name hname hb => ?_, fun b hb => ?_⟩
  · exact hbody.resolveIn_congr fun r hr => hb _ (Body.keyOf_mem_references.mpr ⟨r, hr, rfl⟩)
  · obtain ⟨r, hr, rfl⟩ := Body.keyOf_mem_references.mp hname
    exact hbody.resolveIn_error hr hb
  · exact hbody.resolveIn_blameless builtins_sound fun r hr =>
      hb _ (Body.keyOf_mem_references.mpr ⟨r, hr, rfl⟩)

namespace Example

/-- A body with one template, which refers to one variable. -/
def address : Body where
  key := "package.web"
  raw := .string "${var.host}"
  templates := [⟨"${var.host}", [.interpolation (.variable "var.host")]⟩]
  references := [⟨"host", "var.host"⟩]

theorem ofValue_address : Body.ofValue "package.web" (.string "${var.host}") = .ok address := by
  have hsites : (Value.string "${var.host}").sites = [⟨"", "${var.host}"⟩] := by decide +kernel
  have hparse : Template.parse "${var.host}"
      = .ok ⟨"${var.host}", [.interpolation (.variable "var.host")]⟩ := by
    with_unfolding_all rfl
  have hvisit : Traversal.visitSite (m := Id) (fun _ t => Body.inspect t) ⟨"", "${var.host}"⟩
      = (.ok (⟨"${var.host}", [.interpolation (.variable "var.host")]⟩, [⟨"host", "var.host"⟩])
        : Except Fault (Template × List Reference)) := by
    rw [Traversal.visitSite_pure, hparse]
    rfl
  have hfound : Traversal.visitAll (m := Id) (fun _ t => Body.inspect t) (.string "${var.host}")
      = (.ok [(⟨"${var.host}", [.interpolation (.variable "var.host")]⟩, [⟨"host", "var.host"⟩])]
        : Except Fault (List (Template × List Reference))) := by
    rw [Traversal.visitAll, hsites, Traversal.mapM_pure, List.mapM_cons, hvisit]
    rfl
  have honce : [(⟨"host", "var.host"⟩ : Reference)].eraseDups = [⟨"host", "var.host"⟩] := by
    decide
  have hcollect : Body.collect [⟨"host", "var.host"⟩] = [⟨"host", "var.host"⟩] := by
    rw [Body.collect, honce, List.mergeSort_singleton]
  simp only [Body.ofValue, Body.normalized, hfound]
  exact congrArg (fun references => Except.ok { address with references }) hcollect

/-- Without its variable the body cannot be resolved, and what else is bound does not matter. -/
theorem address_reads_host :
    Body.ofValue "package.web" (.string "${var.host}") = .ok address
      ∧ (∃ fault, address.resolveIn ⟨.empty, Registry.builtins⟩ = .error fault)
      ∧ address.resolveIn ⟨⟨[("host", .string "a"), ("port", .null)]⟩, Registry.builtins⟩
        = address.resolveIn ⟨⟨[("host", .string "a")]⟩, Registry.builtins⟩ := by
  obtain ⟨hcongr, herror, -⟩ := references_are_what_is_read ofValue_address
  refine ⟨ofValue_address, herror _ _ "host" (List.mem_singleton.mpr rfl) rfl,
    hcongr _ _ _ fun name hname => ?_⟩
  obtain ⟨r, hr, hrname⟩ := Body.keyOf_mem_references.mp hname
  rw [← hrname, List.mem_singleton.mp hr]
  rfl

end Example

end TemplatedConfig
