/-
# What a substitution builds

`Proofs.Traversal.Order` keeps the paths that a substitution reports and forgets the tree that it
builds.  This file is about the tree.  A substitution without effects succeeds if it has a result
for each item of a sequence (`substituteAt_sequence_eq_ok_iff`) and for each entry of a mapping
(`substituteAt_mapping_eq_ok_iff`), and both the tree and the paths are put together from these.

The entries of a mapping are evaluated in another order than they stand in.  They carry their
places along, and sorting by the places puts any rearrangement back (`mergeSort_place`).
-/
import TemplatedConfig.Proofs.Results
import TemplatedConfig.Proofs.Traversal.Order

namespace TemplatedConfig.Traversal

variable {eval : String → Template → Except Fault Outcome}

/-! ## 1. Strings -/

/-- What happens at a site is what the callback says of the template once it is parsed. -/
theorem visitSite_eq_ok_iff {site : Site} {outcome : Outcome} :
    (visitSite (m := Id) eval site : Except Fault Outcome) = .ok outcome
      ↔ (Template.parse site.source).bind (eval site.path) = .ok outcome := by
  rw [visitSite_pure]
  cases Template.parse site.source with
  | error fault => simp [Except.bind]
  | ok template => exact mapError_eq_ok_iff

/-- **The result for a template** is what it evaluates to. -/
theorem substituteAt_template_eq_ok_iff {path text : String} {r : Substituted}
    (htemplate : Template.isTemplate text = true) :
    substituteAt (m := Id) eval path (.string text) = .ok r
      ↔ ∃ outcome, (Template.parse text).bind (eval path) = .ok outcome
        ∧ r = ofOutcome path outcome := by
  have hsite : substituteAt (m := Id) eval path (.string text)
      = Except.map (ofOutcome path) (visitSite (m := Id) eval ⟨path, text⟩) := by
    rw [substituteAt, if_pos htemplate, ← map_result_pure]
    rfl
  rw [hsite]
  constructor
  · intro h
    obtain ⟨outcome, hvisit, hr⟩ := exists_of_map_eq_ok h
    exact ⟨outcome, visitSite_eq_ok_iff.mp hvisit, hr.symm⟩
  · rintro ⟨outcome, hvisit, rfl⟩
    rw [visitSite_eq_ok_iff.mpr hvisit]
    rfl

/-- A template reports its own path, and does so if it leaves the mark behind. -/
theorem mem_unknownPaths_ofOutcome {path p : String} {outcome : Outcome} :
    p ∈ (ofOutcome path outcome).unknownPaths
      ↔ p = path ∧ (ofOutcome path outcome).value.hasUnknown = true := by
  cases outcome with
  | unknown => simp [ofOutcome, Value.unknown, Value.hasUnknown]
  | known v => cases h : v.hasUnknown <;> simp [ofOutcome, h]

/-- A scalar that is no template stays. -/
theorem substituteAt_scalar {path : String} {v : Value} (hscalar : v.isScalar = true)
    (htemplate : v.isTemplate = false) :
    substituteAt (m := Id) eval path v = .ok { value := v } := by
  cases v with
  | sequence items => cases hscalar
  | mapping fields => cases hscalar
  | string text =>
    have hplain : ¬ Template.isTemplate text = true := Bool.eq_false_iff.mp htemplate
    rw [substituteAt, if_neg hplain]
    rfl
  | _ => rfl

/-! ## 2. Sequences -/

/-- The items of a sequence are substituted one by one, each at its position. -/
theorem substituteItems_eq (path : String) (position : Nat) (items : List Value) :
    substituteItems (m := Id) eval path position items
      = Except.map
          (fun results : List Substituted =>
            ((items.zip results).flatMap fun e => splice e.1 e.2.value,
              results.flatMap Substituted.unknownPaths))
          ((items.zipIdx position).mapM (m := Except Fault) fun e =>
            substituteAt (m := Id) eval (Path.item path e.2) e.1) := by
  induction items generalizing position with
  | nil => rfl
  | cons v rest ih =>
    rw [substituteItems, ih, List.zipIdx_cons, List.mapM_cons]
    cases (substituteAt (m := Id) eval (Path.item path position) v : Except Fault Substituted) with
    | error fault => rfl
    | ok first =>
      cases ((rest.zipIdx (position + 1)).mapM (m := Except Fault) fun e =>
        substituteAt (m := Id) eval (Path.item path e.2) e.1) <;> rfl

/-- What a sequence is put together to from a result for each item. -/
def ofItems (items : List Value) (results : List Substituted) : Substituted where
  value := .sequence ((items.zip results).flatMap fun e => splice e.1 e.2.value)
  unknownPaths := results.flatMap Substituted.unknownPaths

/-- **The result for a sequence** is put together from one result for each item. -/
theorem substituteAt_sequence_eq_ok_iff {path : String} {items : List Value} {r : Substituted} :
    substituteAt (m := Id) eval path (.sequence items) = .ok r
      ↔ ∃ results : List Substituted,
        items.zipIdx.mapM (m := Except Fault)
            (fun e => substituteAt (m := Id) eval (Path.item path e.2) e.1) = .ok results
          ∧ r = ofItems items results := by
  rw [substituteAt, substituteItems_eq]
  cases hresults : (items.zipIdx.mapM (m := Except Fault) fun e =>
      substituteAt (m := Id) eval (Path.item path e.2) e.1) with
  | error fault =>
    constructor
    · intro h
      cases h
    · rintro ⟨results, h, -⟩
      cases h
  | ok results =>
    constructor
    · intro h
      cases h
      exact ⟨results, rfl, rfl⟩
    · rintro ⟨results', h, rfl⟩
      cases h
      rfl

/-- Each result is that of the item at its position. -/
theorem exists_item_of_getElem? {path : String} {items : List Value} {results : List Substituted}
    (h : items.zipIdx.mapM (m := Except Fault)
      (fun e => substituteAt (m := Id) eval (Path.item path e.2) e.1) = .ok results)
    {position : Nat} {r : Substituted} (hr : results[position]? = some r) :
    ∃ v, items[position]? = some v
      ∧ substituteAt (m := Id) eval (Path.item path position) v = .ok r := by
  have hget := congrArg (fun l : List (Except Fault Substituted) => l[position]?)
    (mapM_eq_ok_iff.mp h)
  simp only [List.getElem?_map, List.getElem?_zipIdx, hr, Option.map_some, Nat.zero_add] at hget
  cases hitem : items[position]? with
  | none => rw [hitem] at hget; cases hget
  | some v =>
    rw [hitem] at hget
    exact ⟨v, rfl, Option.some.inj hget⟩

/-! ## 3. Mappings -/

/-- Sorting by place puts numbered members back in order. -/
theorem mergeSort_place {α : Type} {l : List α} {entries : List (α × Nat)}
    (h : entries.Perm l.zipIdx) : (entries.mergeSort fun a b => a.2 ≤ b.2) = l.zipIdx := by
  have hperm := (List.mergeSort_perm entries fun a b => decide (a.2 ≤ b.2)).trans h
  have hsorted : (entries.mergeSort fun a b => a.2 ≤ b.2).Pairwise fun a b => a.2 ≤ b.2 :=
    (List.pairwise_mergeSort (fun a b c hab hbc => by simp at *; omega)
      (fun a b => by simp; omega) entries).imp fun hab => of_decide_eq_true hab
  have hplaces : (l.zipIdx).Pairwise fun a b => a.2 ≤ b.2 := by
    have hrange := List.pairwise_lt_range' (s := 0) (n := l.length) 1
    rw [← List.zipIdx_map_snd 0 l, List.pairwise_map] at hrange
    exact hrange.imp Nat.le_of_lt
  refine List.Perm.eq_of_pairwise (fun a b ha hb hab hba => ?_) hsorted hplaces hperm
  have hgeta := List.mk_mem_zipIdx_iff_getElem?.mp (hperm.mem_iff.mp ha)
  have hgetb := List.mk_mem_zipIdx_iff_getElem?.mp hb
  have hplace : a.2 = b.2 := Nat.le_antisymm hab hba
  rw [hplace, hgetb] at hgeta
  exact Prod.ext (Option.some.inj hgeta).symm hplace

/-- An entry that has been evaluated, as it was before. -/
def unfinished (entry : Finished) : Pending Id :=
  ((entry.1.1, (Except.ok entry.1.2 : Except Fault Substituted)), entry.2)

/-- Running an entry keeps its key and its place. -/
theorem eq_unfinished {entry : Pending Id} {finished : Finished}
    (h : finish entry = (.ok finished : Except Fault Finished)) : entry = unfinished finished := by
  obtain ⟨⟨key, action⟩, place⟩ := entry
  cases (action : Except Fault Substituted) with
  | error fault => cases h
  | ok result =>
    cases h
    rfl

/-- What a mapping is put together to from a result for each entry. -/
def ofFields (results : Fields Substituted) : Substituted where
  value := .mapping (results.mapValues Substituted.value)
  unknownPaths := results.sorted.flatMap fun e => e.2.unknownPaths

/-- A mapping is evaluated by running its entries in the order of their keys. -/
theorem inKeyOrder_eq (actions : Fields (ExceptT Fault Id Substituted)) :
    inKeyOrder (m := Id) actions
      = Except.map assemble
          ((actions.zipIdx.mergeSort fun a b => a.1.1 ≤ b.1.1).mapM (m := Except Fault)
            (finish (m := Id))) := by
  rw [inKeyOrder, mapM_pure]
  cases ((actions.zipIdx.mergeSort fun a b => a.1.1 ≤ b.1.1).mapM (m := Except Fault)
    (finish (m := Id))) <;> rfl

/-- **Entries run in the order of their keys stand where they stood.** -/
theorem exists_of_inKeyOrder {actions : Fields (ExceptT Fault Id Substituted)} {r : Substituted}
    (h : inKeyOrder (m := Id) actions = (.ok r : Except Fault Substituted)) :
    ∃ results : Fields Substituted, actions = results.mapValues .ok ∧ r = ofFields results := by
  rw [inKeyOrder_eq] at h
  obtain ⟨finished, hrun, rfl⟩ := exists_of_map_eq_ok h
  have hpending : (actions.zipIdx.mergeSort fun a b => a.1.1 ≤ b.1.1)
      = finished.map unfinished :=
    (List.map_id _).symm.trans (map_eq_map_of_mapM_eq_ok (fun _ _ => eq_unfinished) hrun)
  have hplaced : actions.zipIdx = (finished.mergeSort fun a b => a.2 ≤ b.2).map unfinished := by
    rw [List.map_mergeSort (f := unfinished) (r := fun a b => decide (a.2 ≤ b.2))
      (s := fun a b => decide (a.2 ≤ b.2)) fun _ _ _ _ => rfl, ← hpending,
      mergeSort_place (List.mergeSort_perm _ _)]
  have hactions : actions
      = Fields.mapValues .ok ((finished.mergeSort fun a b => a.2 ≤ b.2).map Prod.fst) := by
    rw [← List.zipIdx_map_fst 0 actions, hplaced, Fields.mapValues, List.map_map, List.map_map]
    rfl
  have hsorted : finished.map Prod.fst
      = Fields.sorted ((finished.mergeSort fun a b => a.2 ≤ b.2).map Prod.fst) := by
    have hkeys := map_fst_mergeSort_zipIdx actions
    rw [hpending, hactions, Fields.sorted_mapValues, Fields.mapValues] at hkeys
    refine (List.map_inj_right fun a b hab => ?_).mp
      (Eq.trans (by rw [List.map_map, List.map_map]; rfl) hkeys)
    obtain ⟨hkey, hresult⟩ := Prod.mk.inj hab
    exact Prod.ext hkey (Except.ok.inj hresult)
  refine ⟨_, hactions, ?_⟩
  rw [ofFields, ← hsorted, assemble, Fields.mapValues, List.map_map, List.flatMap_map]
  rfl

/-- Substitutes in one entry of the mapping at a path. -/
def substituteEntry (eval : String → Template → Except Fault Outcome) (path : String)
    (entry : String × Value) : Except Fault (String × Substituted) :=
  Except.map (fun result => (entry.1, result))
    (substituteAt (m := Id) eval (Path.field path entry.1) entry.2)

/-- An entry keeps its key. -/
theorem key_of_substituteEntry {path : String} {entry : String × Value}
    {e : String × Substituted} (h : substituteEntry eval path entry = .ok e) : entry.1 = e.1 := by
  obtain ⟨result, -, rfl⟩ := exists_of_map_eq_ok h
  rfl

/-- There is one action for each entry. -/
theorem fieldActions_eq (path : String) (fields : Fields Value) :
    fieldActions (m := Id) eval path fields
      = fields.map fun e => (e.1, substituteAt (m := Id) eval (Path.field path e.1) e.2) := by
  induction fields with
  | nil => rfl
  | cons e rest ih => rw [fieldActions, ih, List.map_cons]

/-- The result for a mapping comes from one result for each entry. -/
theorem exists_of_substituteAt_mapping {path : String} {fields : Fields Value} {r : Substituted}
    (h : substituteAt (m := Id) eval path (.mapping fields) = .ok r) :
    ∃ results : Fields Substituted,
      fields.mapM (m := Except Fault) (substituteEntry eval path) = .ok results
        ∧ r = ofFields results := by
  rw [substituteAt] at h
  obtain ⟨results, hactions, hr⟩ := exists_of_inKeyOrder h
  refine ⟨results, mapM_eq_ok_iff.mpr ?_, hr⟩
  rw [fieldActions_eq] at hactions
  have hentries := congrArg (List.map fun action : String × Except Fault Substituted =>
    Except.map (fun result => (action.1, result)) action.2) hactions
  rw [Fields.mapValues, List.map_map, List.map_map] at hentries
  exact hentries

/-- If each entry has a result, so has the mapping. -/
theorem exists_substituteAt_mapping {path : String} {fields : Fields Value}
    {results : Fields Substituted}
    (h : fields.mapM (m := Except Fault) (substituteEntry eval path) = .ok results) :
    ∃ r, substituteAt (m := Id) eval path (.mapping fields) = .ok r := by
  rw [substituteAt, inKeyOrder_eq, fieldActions_eq]
  cases hrun : ((fields.map fun e =>
      (e.1, substituteAt (m := Id) eval (Path.field path e.1) e.2)).zipIdx.mergeSort
        fun a b => a.1.1 ≤ b.1.1).mapM (m := Except Fault) (finish (m := Id)) with
  | ok finished => exact ⟨_, rfl⟩
  | error fault =>
    obtain ⟨⟨action, place⟩, hpending, hfail⟩ := exists_of_mapM_eq_error hrun
    obtain ⟨e, he, rfl⟩ := List.mem_map.mp
      (List.fst_mem_of_mem_zipIdx (List.mem_mergeSort.mp hpending))
    obtain ⟨_, -, hentry⟩ := (mem_of_mapM_eq_ok h).1 e he
    obtain ⟨result, hresult, -⟩ := exists_of_map_eq_ok hentry
    rw [finish, hresult] at hfail
    cases hfail

/-- **The result for a mapping** is put together from one result for each entry, whatever the order
in which they are evaluated. -/
theorem substituteAt_mapping_eq_ok_iff {path : String} {fields : Fields Value} {r : Substituted} :
    substituteAt (m := Id) eval path (.mapping fields) = .ok r
      ↔ ∃ results : Fields Substituted,
        fields.mapM (m := Except Fault) (substituteEntry eval path) = .ok results
          ∧ r = ofFields results := by
  refine ⟨exists_of_substituteAt_mapping, ?_⟩
  rintro ⟨results, hresults, rfl⟩
  obtain ⟨r, hr⟩ := exists_substituteAt_mapping hresults
  obtain ⟨results', hresults', rfl⟩ := exists_of_substituteAt_mapping hr
  rw [hresults] at hresults'
  cases hresults'
  exact hr

/-- The result for a whole tree with one entry has the result for its value. -/
theorem substitute_singleton {key : String} {v : Value} {result : Substituted}
    (h : substituteAt (m := Id) eval key v = .ok result) :
    substitute (m := Id) eval (.mapping [(key, v)])
      = .ok ⟨.mapping [(key, result.value)], result.unknownPaths⟩ := by
  refine substituteAt_mapping_eq_ok_iff.mpr ⟨[(key, result)], ?_, ?_⟩
  · have hfield : Path.field "" key = key := if_pos rfl
    rw [List.mapM_cons, substituteEntry, hfield, h]
    rfl
  · rw [ofFields, Fields.sorted, List.mergeSort_singleton, List.flatMap_singleton]
    rfl

end TemplatedConfig.Traversal
