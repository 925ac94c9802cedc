/-
# Substitution goes through the sites in order

`Traversal.visitAll` is a plain walk over the list `Value.sites`.  `Traversal.substitute` is
not: it recurses over the tree, builds one action for each entry of a mapping, runs the actions
in the order of the keys and puts the results back where the entries stood.  This file proves
that the two are the same walk.

* `unknownPaths_substituteAt`: forgetting the tree that a substitution builds and keeping the
  paths it reports leaves a walk over the sites in which each site reports for itself
  (`report`).  So the callback is called for the same sites, in the same order, with the same
  effects, and the first fault is the same.
* `substituteAt_congr`: a substitution depends on the callback only through what it answers at
  the sites of the tree.

Both go by recursion over the tree.  The case of a mapping is `unknownPaths_inKeyOrder`: sorting
the actions with their places and sorting the lists of sites give the same order, because both
sorts are stable and look at the keys alone.  `Body.unknownPaths_resolveIn` is the first
statement for a body that is resolved.
-/
import TemplatedConfig.Body

namespace TemplatedConfig

namespace Traversal

variable {m : Type → Type} [Monad m] {α : Type}

/-! ## 1. One site -/

/-- A located action is the action with a path added to its faults. -/
theorem located_eq_adapt [LawfulMonad m] (path : String) (action : ExceptT Fault m α) :
    located path action = ExceptT.adapt (addPath path) action := by
  apply ExceptT.ext
  change (action.run >>= _) = Except.mapError (addPath path) <$> action.run
  rw [← bind_pure_comp]
  refine bind_congr fun result => ?_
  cases result <;> rfl

/-- **What happens at a site.**  A string that does not parse is a fault at its path, and the
callback is not called.  Otherwise the callback gets the template, and a fault of its own gets
the path too. -/
theorem run_visitSite [LawfulMonad m] (visit : String → Template → ExceptT Fault m α)
    (site : Site) :
    (visitSite visit site).run = match Template.parse site.source with
      | .error fault => pure (.error (addPath site.path fault))
      | .ok template =>
        Except.mapError (addPath site.path) <$> (visit site.path template).run := by
  rw [visitSite, located_eq_adapt]
  change Except.mapError (addPath site.path)
    <$> (visitSite.liftExcept (Template.parse site.source) >>= visit site.path).run = _
  rw [ExceptT.run_bind, visitSite.liftExcept, ExceptT.run_mk, pure_bind]
  cases Template.parse site.source with
  | error fault => exact map_pure _ _
  | ok template => rfl

/-- What happens at a site when the callback has no effects. -/
theorem visitSite_pure (visit : String → Template → Except Fault α) (site : Site) :
    visitSite (m := Id) visit site = match Template.parse site.source with
      | .error fault => .error (addPath site.path fault)
      | .ok template => (visit site.path template).mapError (addPath site.path) :=
  run_visitSite (m := Id) visit site

/-- Without effects, actions in a row are results in a row. -/
theorem mapM_pure {γ : Type} (f : γ → Except Fault α) (l : List γ) :
    l.mapM (m := ExceptT Fault Id) f = l.mapM (m := Except Fault) f := by
  induction l with
  | nil => rfl
  | cons c rest ih =>
    rw [List.mapM_cons, List.mapM_cons, ih]
    cases f c with
    | error fault => rfl
    | ok a => cases rest.mapM (m := Except Fault) f <;> rfl

theorem map_result_pure {β : Type} (f : α → β) (result : Except Fault α) :
    (f <$> result : ExceptT Fault Id β) = Except.map f result := by
  cases result <;> rfl

/-- A path says where a fault was found, not what kind of fault it is. -/
@[simp] theorem kind_addPath (path : String) (fault : Fault) :
    (addPath path fault).kind = fault.kind := by
  unfold addPath
  split <;> rfl

/-! ## 2. The walk that a substitution amounts to -/

/-- What a site reports: its path, if what stands there afterwards is not known. -/
def report (eval : String → Template → ExceptT Fault m Outcome) (site : Site) :
    ExceptT Fault m (List String) :=
  (fun e => (ofOutcome site.path e).unknownPaths) <$> visitSite eval site

/-- The paths that several sites report, one after another. -/
def reports (eval : String → Template → ExceptT Fault m Outcome) (sites : List Site) :
    ExceptT Fault m (List String) :=
  List.flatten <$> sites.mapM (report eval)

variable {eval : String → Template → ExceptT Fault m Outcome}

section

variable [LawfulMonad m]

@[simp] theorem reports_nil : reports eval [] = pure [] := by
  simp [reports]

theorem reports_singleton (site : Site) : reports eval [site] = report eval site := by
  simp [reports]

/-- Reporting goes through a list part by part. -/
theorem reports_append (first second : List Site) :
    reports eval (first ++ second)
      = (do return (← reports eval first) ++ (← reports eval second)) := by
  simp [reports, List.mapM_append]

/-- What several sites report when the callback has no effects. -/
theorem reports_cons_pure (eval : String → Template → Except Fault Outcome) (site : Site)
    (rest : List Site) :
    reports (m := Id) eval (site :: rest)
      = (do
          let outcome ← visitSite (m := Id) eval site
          let paths ← reports (m := Id) eval rest
          return (ofOutcome site.path outcome).unknownPaths ++ paths
          : Except Fault (List String)) := by
  rw [← List.singleton_append, reports_append, reports_singleton, report]
  cases (visitSite (m := Id) eval site : Except Fault Outcome) with
  | error fault => rfl
  | ok outcome =>
    cases (reports (m := Id) eval rest : Except Fault (List String)) <;> rfl

/-- The same for all sites at once. -/
theorem reports_pure (eval : String → Template → Except Fault Outcome) (sites : List Site) :
    reports (m := Id) eval sites
      = Except.map List.flatten (sites.mapM (m := Except Fault) fun site =>
          Except.map (fun outcome => (ofOutcome site.path outcome).unknownPaths)
            (visitSite (m := Id) eval site)) := by
  have hreport : report (m := Id) eval = fun site =>
      Except.map (fun outcome => (ofOutcome site.path outcome).unknownPaths)
        (visitSite (m := Id) eval site) :=
    funext fun site => map_result_pure _ _
  rw [reports, hreport, map_result_pure, mapM_pure]

/-- A list of lists of sites is reported list by list. -/
theorem reports_flatMap (f : α → List Site) (l : List α) :
    reports eval (l.flatMap f) = List.flatten <$> l.mapM fun a => reports eval (f a) := by
  induction l with
  | nil => simp
  | cons a rest ih => simp [reports_append, ih]

/-! ## 3. The entries of a mapping -/

/-- The paths that an action reports. -/
def pathsOf (action : ExceptT Fault m Substituted) : ExceptT Fault m (List String) :=
  Substituted.unknownPaths <$> action

/-- Sorting entries with their places by the keys is sorting the entries. -/
theorem map_fst_mergeSort_zipIdx (entries : Fields α) :
    (entries.zipIdx.mergeSort fun a b => a.1.1 ≤ b.1.1).map Prod.fst = entries.sorted := by
  rw [List.map_mergeSort (s := fun a b : String × α => decide (a.1 ≤ b.1))
    fun _ _ _ _ => rfl, List.zipIdx_map_fst, Fields.sorted]

/-- Running the values of a mapping in the order of the keys, each made into an action. -/
theorem mapM_sorted_mapValues {β : Type} (f : α → ExceptT Fault m β) (fields : Fields α) :
    (fields.mapValues f).sorted.mapM Prod.snd = fields.sorted.mapM fun e => f e.2 := by
  rw [Fields.sorted_mapValues, Fields.mapValues, List.mapM_map]
  rfl

/-- The paths in the results of some actions are the paths that the actions report. -/
theorem flatMap_unknownPaths_finish (entries : List (Pending m)) :
    (fun finished : List Finished => finished.flatMap fun e => e.1.2.unknownPaths)
        <$> entries.mapM finish
      = List.flatten <$> (entries.map Prod.fst).mapM fun a => pathsOf a.2 := by
  induction entries with
  | nil => simp
  | cons e rest ih =>
    simp only [pathsOf, List.mapM_map] at ih
    simp only [finish, pathsOf, List.map_cons, List.mapM_cons, List.mapM_map, bind_pure_comp,
      map_bind, Functor.map_map, bind_map_left, List.flatMap_cons, List.flatten_cons]
    refine bind_congr fun first => ?_
    have hrest := congrArg (Functor.map (first.unknownPaths ++ ·)) ih
    simpa only [Functor.map_map] using hrest

/-- **A mapping reports its entries in the order of their keys**, and where the entries stand
makes no difference. -/
theorem unknownPaths_inKeyOrder (actions : Fields (ExceptT Fault m Substituted)) :
    pathsOf (inKeyOrder actions)
      = List.flatten <$> (actions.mapValues pathsOf).sorted.mapM Prod.snd := by
  rw [mapM_sorted_mapValues, ← map_fst_mergeSort_zipIdx, ← flatMap_unknownPaths_finish]
  simp [pathsOf, inKeyOrder, assemble]

/-- The sites below the entries of a mapping, in the order of the keys. -/
theorem reports_sorted (sites : Fields (List Site)) :
    reports eval (sites.sorted.flatMap Prod.snd)
      = List.flatten <$> (sites.mapValues (reports eval)).sorted.mapM Prod.snd := by
  rw [reports_flatMap, mapM_sorted_mapValues]

end

/-! ## 4. The walk over the tree -/

mutual

/-- **Substitution goes through the sites in order.** -/
theorem unknownPaths_substituteAt [LawfulMonad m] (path : String) : ∀ v : Value,
    pathsOf (substituteAt eval path v) = reports eval (v.sitesAt path)
  | .null => by simp [pathsOf, substituteAt, Value.sitesAt]
  | .bool _ => by simp [pathsOf, substituteAt, Value.sitesAt]
  | .integer _ => by simp [pathsOf, substituteAt, Value.sitesAt]
  | .float _ => by simp [pathsOf, substituteAt, Value.sitesAt]
  | .string s => by
    rw [substituteAt, Value.sitesAt]
    split
    · rw [reports_singleton]; simp [pathsOf, report]
    · simp [pathsOf]
  | .sequence items => by
    rw [substituteAt, Value.sitesAt, ← unknownPaths_substituteItems path 0 items]
    simp [pathsOf]
  | .mapping fields => by
    rw [substituteAt, Value.sitesAt, unknownPaths_inKeyOrder, reports_sorted,
      unknownPaths_fieldActions path fields]

theorem unknownPaths_substituteItems [LawfulMonad m] (path : String) (position : Nat) :
    ∀ items : List Value, Prod.snd <$> substituteItems eval path position items
      = reports eval (Value.itemSites path position items)
  | [] => by simp [substituteItems, Value.itemSites]
  | v :: rest => by
    rw [substituteItems, Value.itemSites, reports_append,
      ← unknownPaths_substituteAt (Path.item path position) v,
      ← unknownPaths_substituteItems path (position + 1) rest]
    simp [pathsOf]

theorem unknownPaths_fieldActions [LawfulMonad m] (path : String) : ∀ fields : Fields Value,
    Fields.mapValues pathsOf (fieldActions eval path fields)
      = Fields.mapValues (reports eval) (Value.fieldSites path fields)
  | [] => rfl
  | (key, v) :: rest => by
    have hv := unknownPaths_substituteAt (Path.field path key) v
    have hrest := unknownPaths_fieldActions path rest
    simp only [fieldActions, Value.fieldSites, Fields.mapValues, List.map_cons] at hrest ⊢
    rw [hv, hrest]

end

/-- **A substitution is a walk over the sites.** -/
theorem unknownPaths_substitute [LawfulMonad m] (v : Value) :
    pathsOf (substitute eval v) = reports eval v.sites :=
  unknownPaths_substituteAt "" v

/-! ## 5. What a substitution depends on -/

/-- The sites of a mapping are those below its entries. -/
theorem mem_sitesAt_mapping {path : String} {fields : Fields Value} {site : Site} :
    site ∈ (Value.mapping fields).sitesAt path
      ↔ ∃ entry ∈ Value.fieldSites path fields, site ∈ entry.2 := by
  simp [Value.sitesAt, Fields.sorted, List.mem_flatMap]

mutual

/-- **A substitution depends on the callback only through its answers at the sites.** -/
theorem substituteAt_congr {first second : String → Template → ExceptT Fault m Outcome}
    (path : String) : ∀ v : Value,
    (∀ site ∈ v.sitesAt path, visitSite first site = visitSite second site) →
      substituteAt first path v = substituteAt second path v
  | .null, _ => rfl
  | .bool _, _ => rfl
  | .integer _, _ => rfl
  | .float _, _ => rfl
  | .string s, h => by
    rw [substituteAt, substituteAt]
    split
    · rename_i ht
      rw [h ⟨path, s⟩ (by simp [Value.sitesAt, ht])]
    · rfl
  | .sequence items, h => by
    rw [substituteAt, substituteAt, substituteItems_congr path 0 items h]
  | .mapping fields, h => by
    rw [substituteAt, substituteAt, fieldActions_congr path fields]
    intro entry hentry site hsite
    exact h site (mem_sitesAt_mapping.mpr ⟨entry, hentry, hsite⟩)

theorem substituteItems_congr {first second : String → Template → ExceptT Fault m Outcome}
    (path : String) (position : Nat) : ∀ items : List Value,
    (∀ site ∈ Value.itemSites path position items,
      visitSite first site = visitSite second site) →
      substituteItems first path position items = substituteItems second path position items
  | [], _ => rfl
  | v :: rest, h => by
    rw [substituteItems, substituteItems,
      substituteAt_congr _ v fun site hsite => h site (List.mem_append_left _ hsite),
      substituteItems_congr path (position + 1) rest fun site hsite =>
        h site (List.mem_append_right _ hsite)]

theorem fieldActions_congr {first second : String → Template → ExceptT Fault m Outcome}
    (path : String) : ∀ fields : Fields Value,
    (∀ entry ∈ Value.fieldSites path fields, ∀ site ∈ entry.2,
      visitSite first site = visitSite second site) →
      fieldActions first path fields = fieldActions second path fields
  | [], _ => rfl
  | (key, v) :: rest, h => by
    rw [fieldActions, fieldActions, substituteAt_congr _ v (h _ List.mem_cons_self),
      fieldActions_congr path rest fun entry hentry => h entry (List.mem_cons_of_mem _ hentry)]

end

end Traversal

/-! ## 6. Bodies -/

namespace Body

/-- The paths that a resolved body reports are those of the walk over its sites. -/
theorem unknownPaths_resolveIn (body : Body) (scope : Scope) :
    (body.resolveIn scope).map Resolution.unknownPaths
      = Traversal.reports (m := Id) (fun _ t => scope.fill t) body.raw.sites := by
  have hpaths : _ = Traversal.reports (m := Id) (fun _ t => scope.fill t) body.raw.sites :=
    Traversal.unknownPaths_substitute body.raw
  rw [← hpaths]
  unfold resolveIn
  cases (Traversal.substitute (m := Id) (fun _ t => scope.fill t) body.raw :
    Except Fault Substituted) <;> rfl

end Body

end TemplatedConfig
