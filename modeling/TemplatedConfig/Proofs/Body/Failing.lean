/-
# How a body fails

Resolving a body goes through its templates one after another and stops at the first that fails.
The fault of that template does not say where it was found: neither parsing nor evaluating a
template knows where it stands (`Site.answer_bare`).  The walk adds the path of the template, if it
has one.  So a body whose entries all have a key fails with the fault of its first failing template,
at the path of that template (`Body.resolve_eq_error_iff`).
-/
import TemplatedConfig.Proofs.Body.References
import TemplatedConfig.Proofs.Traversal.Sites

namespace TemplatedConfig

/-! ## 1. The paths of sites -/

namespace Value

/-- Below a path there is no site without one. -/
theorem path_ne_root_of_ne {path : String} (hpath : path ≠ "") {v : Value} {site : Site}
    (h : site ∈ v.sitesAt path) : site.path ≠ "" := by
  induction v using Value.inductionOnParts generalizing path with
  | parts v ih =>
    by_cases htemplate : v.isTemplate = true
    · cases v with
      | string text =>
        rw [sitesAt_template htemplate, List.mem_singleton] at h
        rw [h]
        exact hpath
      | _ => cases htemplate
    · rw [sitesAt_eq_parts (Bool.eq_false_iff.mpr htemplate), List.mem_flatMap] at h
      obtain ⟨e, he, hsite⟩ := h
      exact ih e he (Path.extend_ne_root_of_ne hpath e.1) hsite

/-- A mapping in which every entry has a key. -/
def Keyed (v : Value) : Prop := ∃ fields, v = .mapping fields ∧ "" ∉ Fields.keys fields

/-- **In a mapping whose entries have keys, every site has a path.** -/
theorem Keyed.path_ne_root {v : Value} (h : v.Keyed) {site : Site} (hsite : site ∈ v.sites) :
    site.path ≠ "" := by
  obtain ⟨fields, rfl, hkeys⟩ := h
  rw [sites, sitesAt_eq_parts rfl, List.mem_flatMap] at hsite
  obtain ⟨⟨step, w⟩, hpart, hsite⟩ := hsite
  obtain ⟨key, hentry, hstep⟩ := mem_parts_mapping.mp hpart
  obtain rfl : step = .key key := hstep
  have hkey : key ∈ Fields.keys fields := List.mem_map_of_mem hentry
  exact path_ne_root_of_ne (fun hroot : key = "" => hkeys (hroot ▸ hkey)) hsite

end Value

/-! ## 2. What the template of a site comes to -/

/-- What the template of a site comes to with the built-in functions. -/
def Site.answer (b : Bindings) (site : Site) : Except Fault Outcome :=
  (Template.parse site.source).bind (Scope.fill { bindings := b, functions := Registry.builtins })

namespace Site

/-- **The fault of a template does not say where it stands.** -/
theorem answer_bare (b : Bindings) (site : Site) : FailsWith Fault.IsBare (site.answer b) := by
  have hparse : FailsWith Fault.IsBare (Template.parse site.source) := by
    intro fault hfault
    obtain ⟨problem, column, rfl⟩ := Template.exists_cause_of_parse_error hfault
    rfl
  exact hparse.bind fun t _ => Scope.fill_bare b t

/-- The walk adds the path of the site. -/
theorem visitSite_eq_answer (b : Bindings) (site : Site) :
    Traversal.visitSite (m := Id) (fun _ t => Scope.fill ⟨b, .builtins⟩ t) site
      = (site.answer b).mapError (Traversal.addPath site.path) := by
  rw [Traversal.visitSite_pure, answer]
  cases Template.parse site.source <;> rfl

/-- A site with a path fails with a cause, at its path. -/
theorem visitSite_eq_error_iff {b : Bindings} {site : Site} (hpath : site.path ≠ "")
    {fault : Fault} :
    Traversal.visitSite (m := Id) (fun _ t => Scope.fill ⟨b, .builtins⟩ t) site
        = (.error fault : Except Fault Outcome)
      ↔ ∃ cause, site.answer b = .error (Fault.of cause)
        ∧ fault = (Fault.of cause).atPath site.path := by
  rw [visitSite_eq_answer]
  have hbare := site.answer_bare b
  cases hanswer : site.answer b with
  | ok outcome => exact ⟨fun h => (nomatch h), fun ⟨_, h, _⟩ => (nomatch h)⟩
  | error f =>
    have hf : f = Fault.of f.cause := hbare f hanswer
    have hadd : Traversal.addPath site.path f = (Fault.of f.cause).atPath site.path := by
      rw [hf, Traversal.addPath, if_neg]
      · rfl
      · rintro (hsome | hroot)
        · cases hsome
        · exact hpath hroot
    show Except.error (Traversal.addPath site.path f) = .error fault ↔ _
    rw [hadd]
    constructor
    · intro h
      exact ⟨f.cause, congrArg _ hf, (Except.error.inj h).symm⟩
    · rintro ⟨cause, hcause, rfl⟩
      rw [Except.error.inj hcause]
      rfl

end Site

/-! ## 3. The first template that fails -/

namespace Body

/-- A template of a body fails with a cause, and none before it fails. -/
def FirstFails (body : Body) (b : Bindings) (site : Site) (cause : Cause) : Prop :=
  ∃ before after, body.raw.sites = before ++ site :: after
    ∧ (∀ earlier ∈ before, ∃ outcome, earlier.answer b = .ok outcome)
    ∧ site.answer b = .error (Fault.of cause)

/-- **A body fails with the fault of its first failing template**, at the path of the template. -/
theorem resolve_eq_error_iff {body : Body} (h : body.raw.Keyed) {b : Bindings} {fault : Fault} :
    body.resolve b = .error fault
      ↔ ∃ site cause, body.FirstFails b site cause
        ∧ fault = (Fault.of cause).atPath site.path := by
  rw [resolve, resolveIn_eq_error_iff, findSome?_error?_eq_some_iff]
  have hok : ∀ site : Site, (∃ outcome, Traversal.visitSite (m := Id)
        (fun _ t => Scope.fill ⟨b, .builtins⟩ t) site = (.ok outcome : Except Fault Outcome))
      ↔ ∃ outcome, site.answer b = .ok outcome := by
    intro site
    rw [Site.visitSite_eq_answer]
    exact exists_congr fun _ => mapError_eq_ok_iff
  simp only [hok]
  constructor
  · rintro ⟨before, site, after, hsites, hbefore, hfault⟩
    have hmem : site ∈ body.raw.sites := hsites ▸ List.mem_append_right _ List.mem_cons_self
    obtain ⟨cause, hcause, rfl⟩ := (Site.visitSite_eq_error_iff (h.path_ne_root hmem)).mp hfault
    exact ⟨site, cause, ⟨before, after, hsites, hbefore, hcause⟩, rfl⟩
  · rintro ⟨site, cause, ⟨before, after, hsites, hbefore, hcause⟩, rfl⟩
    have hmem : site ∈ body.raw.sites := hsites ▸ List.mem_append_right _ List.mem_cons_self
    exact ⟨before, site, after, hsites, hbefore,
      (Site.visitSite_eq_error_iff (h.path_ne_root hmem)).mpr ⟨cause, hcause, rfl⟩⟩

end Body

end TemplatedConfig
