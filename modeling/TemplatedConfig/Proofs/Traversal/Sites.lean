/-
# The sites of a tree are its templates

A walk over a tree meets its templates one after another and writes a path for each.  This file
says which paths these are.  A site stands wherever a template can be reached by steps from the
root, its path is that of the steps (`mem_sitesAt_iff`), and where all parts of the tree can be
named no path is written twice (`nodup_paths_sitesAt`).  So a path that is handed to a visitor can
be read back: it leads to the very template that came with it.

Both facts are inductions over the tree.  What carries them is that a path determines the steps it
was written from (`Path.extendAll_inj`): the sites below different items or entries start with
different steps, so their paths differ.

Main statement: `visited_paths_are_addresses`.
-/
import Mathlib.Data.List.Nodup
import TemplatedConfig.Proofs.Traversal.Calls
import TemplatedConfig.Proofs.Value.Path

namespace TemplatedConfig

/-! ## 1. Paths determine steps -/

namespace Path

/-- **A path is written by one list of steps only**, from wherever it starts. -/
theorem extendAll_inj {parent : String} {steps others : List Step}
    (hsteps : ∀ step ∈ steps, Nameable step) (hothers : ∀ step ∈ others, Nameable step)
    (h : extendAll parent steps = extendAll parent others) : steps = others := by
  have hspelled : Path.steps (steps.flatMap spelled) = Path.steps (others.flatMap spelled) := by
    have htext := congrArg String.toList h
    by_cases hparent : parent = ""
    · subst hparent
      have hread := congrArg Path.steps htext
      rwa [steps_extendAll hsteps, steps_extendAll hothers, ← steps_spelled hsteps,
        ← steps_spelled hothers] at hread
    · rw [toList_extendAll_of_ne hsteps hparent, toList_extendAll_of_ne hothers hparent] at htext
      rw [List.append_cancel_left htext]
  rw [steps_spelled hsteps, steps_spelled hothers] at hspelled
  exact (List.map_inj_right fun _ _ hok => Except.ok.inj hok).mp hspelled

end Path

/-! ## 2. The parts of a value -/

namespace Value

/-- The parts of a value with the steps that lead to them, in the order of a walk: items by
position, entries by key. -/
def parts : Value → List (Step × Value)
  | sequence items => items.zipIdx.map fun e => (.index e.2, e.1)
  | mapping fields => (Fields.sorted fields).map fun e => (.key e.1, e.2)
  | _ => []

theorem mem_parts_sequence {items : List Value} {e : Step × Value} :
    e ∈ (sequence items).parts
      ↔ ∃ position, items[position]? = some e.2 ∧ e.1 = .index position := by
  rw [parts, List.mem_map]
  constructor
  · rintro ⟨e, he, rfl⟩
    exact ⟨e.2, List.mk_mem_zipIdx_iff_getElem?.mp he, rfl⟩
  · rintro ⟨position, hitem, hstep⟩
    exact ⟨(e.2, position), List.mk_mem_zipIdx_iff_getElem?.mpr hitem, Prod.ext hstep.symm rfl⟩

theorem mem_parts_mapping {fields : Fields Value} {e : Step × Value} :
    e ∈ (mapping fields).parts ↔ ∃ key, (key, e.2) ∈ fields ∧ e.1 = .key key := by
  rw [parts, List.mem_map]
  simp only [Fields.sorted, List.mem_mergeSort]
  constructor
  · rintro ⟨e, he, rfl⟩
    exact ⟨e.1, he, rfl⟩
  · rintro ⟨key, hentry, hstep⟩
    exact ⟨(key, e.2), hentry, Prod.ext hstep.symm rfl⟩

/-- **Induction over the parts of a value.** -/
@[elab_as_elim]
theorem inductionOnParts {P : Value → Prop} (v : Value)
    (parts : ∀ v, (∀ e ∈ v.parts, P e.2) → P v) : P v := by
  induction v using Value.inductionOn with
  | scalar v hscalar =>
    refine parts v fun e he => ?_
    cases v with
    | sequence items => cases hscalar
    | mapping fields => cases hscalar
    | _ => cases he
  | sequence items ih =>
    refine parts _ fun e he => ?_
    obtain ⟨position, hitem, -⟩ := mem_parts_sequence.mp he
    exact ih e.2 (List.mem_of_getElem? hitem)
  | mapping fields ih =>
    refine parts _ fun e he => ?_
    obtain ⟨key, hentry, -⟩ := mem_parts_mapping.mp he
    exact ih _ hentry

/-- The parts of a tree whose parts can be named can be named. -/
theorem Addressable.part {v : Value} (h : v.Addressable) {e : Step × Value} (he : e ∈ v.parts) :
    Path.Nameable e.1 ∧ e.2.Addressable := by
  obtain ⟨step, w⟩ := e
  cases v with
  | sequence items =>
    obtain ⟨hlength, hitems⟩ := h
    obtain ⟨position, hitem, rfl⟩ := mem_parts_sequence.mp he
    exact ⟨Nat.lt_of_lt_of_le (List.getElem?_eq_some_iff.mp hitem).1 hlength,
      itemsAddressable_iff.mp hitems _ (List.mem_of_getElem? hitem)⟩
  | mapping fields =>
    obtain ⟨-, hplain, hfields⟩ := h
    obtain ⟨key, hentry, rfl⟩ := mem_parts_mapping.mp he
    exact ⟨hplain key (List.mem_map_of_mem hentry), fieldsAddressable_iff.mp hfields _ hentry⟩
  | _ => cases he

/-- The parts are what steps lead to. -/
theorem Addressable.mem_parts_iff {v w : Value} (h : v.Addressable) {step : Step} :
    (step, w) ∈ v.parts ↔ v.child? step = some w := by
  cases v with
  | sequence items =>
    rw [mem_parts_sequence]
    cases step with
    | index position => exact ⟨by rintro ⟨_, hitem, ⟨⟩⟩; exact hitem, fun hitem => ⟨_, hitem, rfl⟩⟩
    | key name => exact ⟨by rintro ⟨_, -, ⟨⟩⟩, nofun⟩
  | mapping fields =>
    rw [mem_parts_mapping]
    cases step with
    | index position => exact ⟨by rintro ⟨_, -, ⟨⟩⟩, nofun⟩
    | key name =>
      constructor
      · rintro ⟨_, hentry, ⟨⟩⟩
        exact Fields.get?_of_mem h.1 hentry
      · exact fun hentry => ⟨name, Fields.mem_of_get? hentry, rfl⟩
  | _ => cases step <;> exact ⟨nofun, nofun⟩

/-- Steps that lead anywhere can be named. -/
theorem Addressable.nameable {v w : Value} (h : v.Addressable) {steps : List Step}
    (hsteps : v.descend? steps = some w) : ∀ step ∈ steps, Path.Nameable step := by
  induction steps generalizing v with
  | nil => exact fun _ hstep => (List.not_mem_nil hstep).elim
  | cons step rest ih =>
    obtain ⟨u, hchild, hrest⟩ := Option.bind_eq_some_iff.mp hsteps
    obtain ⟨hstep, hu⟩ := h.part (h.mem_parts_iff.mpr hchild)
    exact List.forall_mem_cons.mpr ⟨hstep, ih hu hrest⟩

/-- No two parts are reached by the same step. -/
theorem Addressable.nodup_steps {v : Value} (h : v.Addressable) :
    (v.parts.map Prod.fst).Nodup := by
  cases v with
  | sequence items =>
    have hsteps : (sequence items).parts.map Prod.fst
        = (List.range' 0 items.length).map .index := by
      rw [← List.zipIdx_map_snd 0 items, parts, List.map_map, List.map_map]
      rfl
    rw [hsteps]
    exact List.Nodup.map (fun _ _ => Step.index.inj) (List.nodup_range' 1)
  | mapping fields =>
    have hsteps : (mapping fields).parts.map Prod.fst
        = ((Fields.sorted fields).map Prod.fst).map .key := by
      rw [parts, List.map_map, List.map_map]
      rfl
    rw [hsteps]
    refine List.Nodup.map (fun _ _ => Step.key.inj) ?_
    exact ((List.mergeSort_perm fields _).map Prod.fst).nodup_iff.mpr h.1
  | _ => exact List.nodup_nil

/-- Nothing can be reached below a template. -/
theorem eq_nil_of_descend? {v : Value} {steps : List Step} (htemplate : v.isTemplate = true)
    {w : Value} (h : v.descend? steps = some w) : steps = [] := by
  cases v with
  | string text =>
    cases steps with
    | nil => rfl
    | cons step rest => cases step <;> cases h
  | _ => cases htemplate

/-! ## 3. The sites below a value -/

theorem itemSites_eq (path : String) (position : Nat) (items : List Value) :
    itemSites path position items
      = (items.zipIdx position).flatMap fun e => e.1.sitesAt (Path.item path e.2) := by
  induction items generalizing position with
  | nil => rfl
  | cons v rest ih => rw [itemSites, ih (position + 1), List.zipIdx_cons, List.flatMap_cons]

theorem fieldSites_eq (path : String) (fields : Fields Value) :
    fieldSites path fields = fields.map fun e => (e.1, e.2.sitesAt (Path.field path e.1)) := by
  induction fields with
  | nil => rfl
  | cons e rest ih => rw [fieldSites, ih, List.map_cons]

/-- **A value that is no template has the sites of its parts**, one part after another. -/
theorem sitesAt_eq_parts {v : Value} (h : v.isTemplate = false) (path : String) :
    v.sitesAt path = v.parts.flatMap fun e => e.2.sitesAt (Path.extend path e.1) := by
  cases v with
  | string text => exact if_neg (Bool.eq_false_iff.mp h)
  | sequence items => rw [sitesAt, itemSites_eq, parts, List.flatMap_map]; rfl
  | mapping fields =>
    let below (e : String × Value) : String × List Site := (e.1, e.2.sitesAt (Path.field path e.1))
    -- Sorting looks at the keys alone, and `below` keeps them.
    have hsorted : Fields.sorted (fields.map below) = (Fields.sorted fields).map below :=
      (List.map_mergeSort (f := below) fun _ _ _ _ => rfl).symm
    rw [sitesAt, fieldSites_eq, hsorted, parts, List.flatMap_map, List.flatMap_map]
    rfl
  | _ => rfl

/-- The sites of a part are sites of the whole. -/
theorem mem_sitesAt_of_part {v : Value} {e : Step × Value} (he : e ∈ v.parts) {path : String}
    {site : Site} (hsite : site ∈ e.2.sitesAt (Path.extend path e.1)) : site ∈ v.sitesAt path := by
  have hplain : v.isTemplate = false := by
    cases v with
    | string text => cases he
    | _ => rfl
  rw [sitesAt_eq_parts hplain]
  exact List.mem_flatMap.mpr ⟨e, he, hsite⟩

/-- A template is its own site. -/
theorem sitesAt_template {text : String} (h : Template.isTemplate text = true) (path : String) :
    (string text).sitesAt path = [⟨path, text⟩] := if_pos h

/-- Steps that lead from a value at `path` to the template of a site. -/
structure Reaches (v : Value) (path : String) (steps : List Step) (site : Site) : Prop where
  path_eq : site.path = Path.extendAll path steps
  template : Template.isTemplate site.source = true
  found : v.descend? steps = some (.string site.source)

/-- **The sites of a tree are the templates in it**, each at the path of the steps that lead
there. -/
theorem mem_sitesAt_iff {v : Value} (hv : v.Addressable) {path : String} {site : Site} :
    site ∈ v.sitesAt path ↔ ∃ steps, v.Reaches path steps site := by
  induction v using Value.inductionOnParts generalizing path with
  | parts v ih =>
    by_cases htemplate : v.isTemplate = true
    · cases v with
      | string text =>
        rw [sitesAt_template htemplate, List.mem_singleton]
        constructor
        · rintro rfl
          exact ⟨[], rfl, htemplate, rfl⟩
        · rintro ⟨steps, hreaches⟩
          obtain rfl := eq_nil_of_descend? htemplate hreaches.found
          obtain rfl := string.inj (Option.some.inj hreaches.found)
          exact congrArg (Site.mk · _) hreaches.path_eq
      | _ => cases htemplate
    · rw [sitesAt_eq_parts (Bool.eq_false_iff.mpr htemplate), List.mem_flatMap]
      constructor
      · rintro ⟨⟨step, w⟩, hpart, hsite⟩
        obtain ⟨steps, hreaches⟩ := (ih _ hpart (hv.part hpart).2).mp hsite
        exact ⟨step :: steps, hreaches.path_eq, hreaches.template,
          Option.bind_eq_some_iff.mpr ⟨w, hv.mem_parts_iff.mp hpart, hreaches.found⟩⟩
      · rintro ⟨steps, hreaches⟩
        cases steps with
        | nil =>
          cases hreaches.found
          exact (htemplate hreaches.template).elim
        | cons step rest =>
          obtain ⟨w, hchild, hfound⟩ := Option.bind_eq_some_iff.mp hreaches.found
          have hpart : (step, w) ∈ v.parts := hv.mem_parts_iff.mpr hchild
          exact ⟨_, hpart, (ih _ hpart (hv.part hpart).2).mpr
            ⟨rest, hreaches.path_eq, hreaches.template, hfound⟩⟩

/-- **No path is written twice.** -/
theorem nodup_paths_sitesAt {v : Value} (hv : v.Addressable) (path : String) :
    ((v.sitesAt path).map Site.path).Nodup := by
  induction v using Value.inductionOnParts generalizing path with
  | parts v ih =>
    by_cases htemplate : v.isTemplate = true
    · cases v with
      | string text =>
        rw [sitesAt_template htemplate]
        exact List.nodup_singleton _
      | _ => cases htemplate
    · rw [sitesAt_eq_parts (Bool.eq_false_iff.mpr htemplate), List.map_flatMap, List.nodup_flatMap]
      refine ⟨fun e he => ih e he (hv.part he).2 _, ?_⟩
      refine (List.pairwise_map.mp hv.nodup_steps).imp_of_mem fun {a b} ha hb hne => ?_
      intro p hpa hpb
      obtain ⟨site, hsite, rfl⟩ := List.mem_map.mp hpa
      obtain ⟨site', hsite', hsame⟩ := List.mem_map.mp hpb
      obtain ⟨steps, hreaches⟩ := (mem_sitesAt_iff (hv.part ha).2).mp hsite
      obtain ⟨steps', hreaches'⟩ := (mem_sitesAt_iff (hv.part hb).2).mp hsite'
      have hpaths : Path.extendAll path (a.1 :: steps) = Path.extendAll path (b.1 :: steps') :=
        hreaches.path_eq.symm.trans (hsame.symm.trans hreaches'.path_eq)
      have hsteps := Path.extendAll_inj
        (List.forall_mem_cons.mpr ⟨(hv.part ha).1, (hv.part ha).2.nameable hreaches.found⟩)
        (List.forall_mem_cons.mpr ⟨(hv.part hb).1, (hv.part hb).2.nameable hreaches'.found⟩) hpaths
      exact hne (List.cons.inj hsteps).1

end Value

/-! ## 4. Visits -/

namespace Traversal

variable {σ α : Type}

namespace Ended

variable {sites : List Site} {calls : List (Call α)} {result : Except Fault Unit}

/-- The calls of a walk go along the sites. -/
theorem paths_prefix (h : Ended sites calls result) :
    calls.map Call.path <+: sites.map Site.path := by
  induction h with
  | done => exact List.nil_prefix
  | unparsed => exact List.nil_prefix
  | refused => exact (List.prefix_cons_inj _).mpr List.nil_prefix
  | answered _ _ ih => exact (List.prefix_cons_inj _).mpr ih

/-- A call is handed the template of a site. -/
theorem exists_site (h : Ended sites calls result) {call : Call α} (hcall : call ∈ calls) :
    ∃ site ∈ sites, call.path = site.path ∧ Template.parse site.source = .ok call.template := by
  induction h with
  | done => cases hcall
  | unparsed => cases hcall
  | refused hp =>
    rw [List.mem_singleton.mp hcall]
    exact ⟨_, List.mem_cons_self, rfl, hp⟩
  | answered hp _ ih =>
    rcases List.mem_cons.mp hcall with rfl | hcall
    · exact ⟨_, List.mem_cons_self, rfl, hp⟩
    · obtain ⟨site, hsite, hsame⟩ := ih hcall
      exact ⟨site, List.mem_cons_of_mem _ hsite, hsame⟩

/-- A walk that goes through makes a call for each site. -/
theorem exists_call (h : Ended sites calls (.ok ())) {site : Site} (hsite : site ∈ sites) :
    ∃ call ∈ calls, call.path = site.path ∧ Template.parse site.source = .ok call.template := by
  generalize hresult : (Except.ok () : Except Fault Unit) = result at h
  induction h with
  | done => cases hsite
  | unparsed => cases hresult
  | refused => cases hresult
  | answered hp _ ih =>
    rcases List.mem_cons.mp hsite with rfl | hsite
    · exact ⟨_, List.mem_cons_self, rfl, hp⟩
    · obtain ⟨call, hcall, hsame⟩ := ih hsite hresult
      exact ⟨call, List.mem_cons_of_mem _ hcall, hsame⟩

end Ended

/-- **Visited paths are addresses.**  Let a tree be searched whose mappings have plain keys and
repeat none, with any visitor.  Every path that the visitor is handed leads to the string of the
template that comes with it, and no path is handed twice.  If the search goes through, nothing is
missing: wherever steps lead to a template, its path is handed over with it. -/
theorem visited_paths_are_addresses {v : Value} (hv : v.Addressable)
    (visit : String → Template → ExceptT Fault (StateM σ) α) (s : σ) :
    let pass := Pass.ofRun s (visitAll (recorded visit) v)
    (∀ path template, (path, template) ∈ pass.handed →
        v.atPath path = .ok (.string template.source))
    ∧ (pass.handed.map Prod.fst).Nodup
    ∧ ((∃ answers, pass.result = .ok answers) → ∀ steps text,
        v.descend? steps = some (.string text) → Template.isTemplate text = true →
        ∃ template, (Path.extendAll "" steps, template) ∈ pass.handed
          ∧ template.source = text) := by
  intro pass
  obtain ⟨hended, -⟩ := visitAll_ended visit v s
  refine ⟨fun path template hhanded => ?_, ?_, ?_⟩
  · obtain ⟨call, hcall, hsame⟩ := List.mem_map.mp hhanded
    cases hsame
    obtain ⟨site, hsite, hpath, hparse⟩ := hended.exists_site hcall
    obtain ⟨steps, hreaches⟩ := (Value.mem_sitesAt_iff hv).mp hsite
    rw [hpath, hreaches.path_eq, Template.source_of_parse hparse]
    exact Value.atPath_extendAll (hv.nameable hreaches.found) hreaches.found
  · rw [Pass.handed, List.map_map]
    exact (Value.nodup_paths_sitesAt hv "").sublist hended.paths_prefix.sublist
  · rintro ⟨answers, hanswers⟩ steps text hfound htemplate
    have hsite : ⟨Path.extendAll "" steps, text⟩ ∈ v.sites :=
      (Value.mem_sitesAt_iff hv).mpr ⟨steps, rfl, htemplate, hfound⟩
    rw [hanswers] at hended
    obtain ⟨call, hcall, hpath, hparse⟩ := hended.exists_call hsite
    exact ⟨call.template, List.mem_map.mpr ⟨call, hcall, Prod.ext hpath rfl⟩,
      Template.source_of_parse hparse⟩

namespace Example

/-- A list with a template in it, and one in a list of a mapping in it. -/
def nested : Value :=
  .sequence [.string "${a}", .mapping [("hosts", .sequence [.string "plain", .string "${b}"])]]

theorem addressable_nested : nested.Addressable := by
  refine ⟨?_, trivial, ⟨by decide +kernel, ?_, ⟨?_, trivial, trivial, trivial⟩, trivial⟩, trivial⟩
  · show 2 ≤ Nat.pow 2 64
    decide +kernel
  · intro key hkey
    rw [List.mem_singleton.mp hkey]
    exact ⟨by decide, by simp [Path.endsKey]⟩
  · show 2 ≤ Nat.pow 2 64
    decide +kernel

/-- What a visitor of the list is handed. -/
def nestedVisits : List (String × Template) :=
  [("[0]", ⟨"${a}", [.interpolation (.variable "a")]⟩),
    ("[1].hosts[1]", ⟨"${b}", [.interpolation (.variable "b")]⟩)]

/-- The search goes through, its paths lead back to the two templates, and the template in the
mapping is among those that were handed over. -/
theorem nested_paths_lead_back :
    nested.Addressable
    ∧ (Pass.ofRun () (visitAll (recorded (unfailing looksOnly)) nested)).handed = nestedVisits
    ∧ nested.atPath "[1].hosts[1]" = .ok (.string "${b}")
    ∧ (nestedVisits.map Prod.fst).Nodup
    ∧ ∃ template, (Path.extendAll "" [.index 1, .key "hosts", .index 1], template) ∈ nestedVisits
      ∧ template.source = "${b}" := by
  have hhanded : (Pass.ofRun () (visitAll (recorded (unfailing looksOnly)) nested)).handed
      = nestedVisits := by
    with_unfolding_all rfl
  have hthrough : ∃ answers,
      (Pass.ofRun () (visitAll (recorded (unfailing looksOnly)) nested)).result = .ok answers :=
    ⟨[(), ()], by with_unfolding_all rfl⟩
  obtain ⟨hlead, hdistinct, hall⟩ :=
    visited_paths_are_addresses addressable_nested (unfailing looksOnly) ()
  have hfound := hall hthrough [.index 1, .key "hosts", .index 1] "${b}" rfl (by decide +kernel)
  rw [hhanded] at hlead hdistinct hfound
  exact ⟨addressable_nested, hhanded, hlead _ _ (List.mem_cons_of_mem _ List.mem_cons_self),
    hdistinct, hfound⟩

end Example

end Traversal

end TemplatedConfig
