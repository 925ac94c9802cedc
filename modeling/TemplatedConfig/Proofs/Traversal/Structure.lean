/-
# Substitution is plain recursion over the tree

`Traversal.substitute` evaluates the entries of a mapping in the order of their keys, puts them back
by the places they carry and collects reports on the way.  `Value.filledAt` does none of that.  It
is given an answer for each site and goes over the tree as the document has it: a template becomes
its answer, a list that answers an item of a list becomes part of that list, and everything else
stays where it stands.

This file proves the two equal, for every callback without effects.  A substitution succeeds exactly
if every site has an answer (`exists_substituteAt_iff`).  The tree that it builds is then the filled
tree (`value_substituteAt`), by induction over the tree with one lemma for the items of a sequence
and one for the entries of a mapping.  The reports are those of the walk over the sites
(`unknownPaths_of_answers`).

Main statement: `substitution_is_structural`.
-/
import TemplatedConfig.Proofs.Traversal.Shape
import TemplatedConfig.Proofs.Traversal.Sites

namespace TemplatedConfig

/-! ## 1. Filling in answers -/

/-- Whether an answer is not known, or holds the mark. -/
def Outcome.isOpen : Outcome → Bool
  | unknown => true
  | known v => v.hasUnknown

namespace Value

/-- What the items of a sequence gain from one item: the items of a list that answers a template,
and otherwise the one value that the item has become. -/
def itemsFrom (item filled : Value) : List Value :=
  if item.isTemplate then filled.items?.getD [filled] else [filled]

mutual

/-- The value at a path with an answer in the place of each template. -/
def filledAt (answer : Site → Outcome) (path : String) : Value → Value
  | string s => if Template.isTemplate s then (answer ⟨path, s⟩).toValue else string s
  | sequence items => sequence (filledItems answer path 0 items)
  | mapping fields => mapping (filledFields answer path fields)
  | v => v

/-- The items of a sequence, from a position on, with the answers put in. -/
def filledItems (answer : Site → Outcome) (path : String) (position : Nat) :
    List Value → List Value
  | [] => []
  | v :: rest =>
    itemsFrom v (filledAt answer (Path.item path position) v)
      ++ filledItems answer path (position + 1) rest

/-- The entries of a mapping with the answers put in, where they stand. -/
def filledFields (answer : Site → Outcome) (path : String) : Fields Value → Fields Value
  | [] => []
  | (key, v) :: rest =>
    (key, filledAt answer (Path.field path key) v) :: filledFields answer path rest

end

/-- A whole tree with an answer in the place of each template. -/
def filled (answer : Site → Outcome) (v : Value) : Value := v.filledAt answer ""

/-- A scalar that is no template stays. -/
theorem filledAt_scalar (answer : Site → Outcome) (path : String) {v : Value}
    (hscalar : v.isScalar = true) (htemplate : v.isTemplate = false) :
    v.filledAt answer path = v := by
  cases v with
  | sequence items => cases hscalar
  | mapping fields => cases hscalar
  | string text => exact if_neg (Bool.eq_false_iff.mp htemplate)
  | _ => rfl

end Value

namespace Traversal

variable {eval : String → Template → Except Fault Outcome} {answer : Site → Outcome}

/-! ## 2. Answers -/

/-- The template at a site parses, and the callback answers it. -/
def Answers (eval : String → Template → Except Fault Outcome) (site : Site) (outcome : Outcome) :
    Prop :=
  ∃ t, Template.parse site.source = .ok t ∧ eval site.path t = .ok outcome

/-- What happens at a site is its answer. -/
theorem visitSite_eq_ok_iff_answers {site : Site} {outcome : Outcome} :
    (visitSite (m := Id) eval site : Except Fault Outcome) = .ok outcome
      ↔ Answers eval site outcome :=
  visitSite_eq_ok_iff.trans bind_eq_ok_iff

/-- The reports of a substitution are put together from what the sites report. -/
theorem map_unknownPaths_substituteAt (eval : String → Template → Except Fault Outcome)
    (path : String) (v : Value) :
    Except.map Substituted.unknownPaths
        (substituteAt (m := Id) eval path v : Except Fault Substituted)
      = Except.map List.flatten ((v.sitesAt path).mapM (m := Except Fault) fun site =>
          Except.map (fun outcome => (ofOutcome site.path outcome).unknownPaths)
            (visitSite (m := Id) eval site)) :=
  (map_result_pure _ _).symm.trans ((unknownPaths_substituteAt path v).trans (reports_pure _ _))

/-- **A substitution succeeds if every site has an answer**, and only then. -/
theorem exists_substituteAt_iff {path : String} {v : Value} :
    (∃ r, substituteAt (m := Id) eval path v = .ok r)
      ↔ ∀ site ∈ v.sitesAt path, ∃ outcome, Answers eval site outcome := by
  have hpaths := map_unknownPaths_substituteAt eval path v
  have hsite : ∀ site : Site, (∃ outcome, Answers eval site outcome)
      ↔ ∃ paths, Except.map (fun outcome => (ofOutcome site.path outcome).unknownPaths)
          (visitSite (m := Id) eval site) = .ok paths := by
    intro site
    rw [exists_map_eq_ok_iff]
    exact exists_congr fun _ => visitSite_eq_ok_iff_answers.symm
  simp only [hsite]
  rw [← exists_mapM_eq_ok_iff, ← exists_map_eq_ok_iff (f := List.flatten), ← hpaths,
    exists_map_eq_ok_iff]

/-! ## 3. The tree -/

theorem splice_eq_itemsFrom (item result : Value) : splice item result = item.itemsFrom result := by
  cases result <;> cases h : item.isTemplate <;> simp [splice, Value.itemsFrom, Value.items?, h]

/-- The items of a sequence are filled in if each item is. -/
theorem flatMap_splice_eq_filledItems {path : String} {position : Nat} {items : List Value}
    {results : List Substituted} {f : Value × Nat → Except Fault Substituted}
    (h : (items.zipIdx position).mapM f = .ok results)
    (hf : ∀ e ∈ items.zipIdx position, ∀ r, f e = .ok r →
      r.value = e.1.filledAt answer (Path.item path e.2)) :
    ((items.zip results).flatMap fun e => splice e.1 e.2.value)
      = Value.filledItems answer path position items := by
  -- The path of an item counts from the first one, so the position stays general.
  induction items generalizing position results with
  | nil => rfl
  | cons v rest ih =>
    rw [List.zipIdx_cons] at h hf
    obtain ⟨first, more, hfirst, hmore, rfl⟩ := mapM_cons_eq_ok_iff.mp h
    obtain ⟨hv, hrest⟩ := List.forall_mem_cons.mp hf
    rw [List.zip_cons_cons, List.flatMap_cons, Value.filledItems, ih hmore hrest,
      splice_eq_itemsFrom, hv first hfirst]

/-- The entries of a mapping are filled in if each entry is. -/
theorem mapValues_value_eq_filledFields {path : String} {fields : Fields Value}
    {results : Fields Substituted} (h : fields.mapM (substituteEntry eval path) = .ok results)
    (hentry : ∀ e ∈ fields, ∀ r,
      substituteAt (m := Id) eval (Path.field path e.1) e.2 = .ok r →
      r.value = e.2.filledAt answer (Path.field path e.1)) :
    results.mapValues Substituted.value = Value.filledFields answer path fields := by
  induction fields generalizing results with
  | nil =>
    cases h
    rfl
  | cons e rest ih =>
    obtain ⟨first, more, hfirst, hmore, rfl⟩ := mapM_cons_eq_ok_iff.mp h
    obtain ⟨r, hr, rfl⟩ := exists_of_map_eq_ok hfirst
    obtain ⟨he, hrest⟩ := List.forall_mem_cons.mp hentry
    rw [Value.filledFields, ← ih hmore hrest, ← he r hr]
    rfl

/-- **The tree that a substitution builds is the filled tree.** -/
theorem value_substituteAt {path : String} {v : Value}
    (hanswer : ∀ site ∈ v.sitesAt path, Answers eval site (answer site)) {r : Substituted}
    (h : substituteAt (m := Id) eval path v = .ok r) : r.value = v.filledAt answer path := by
  -- A sequence or a mapping only hands on what its parts have become: answers enter at the scalars.
  induction v using Value.inductionOn generalizing path r with
  | scalar v hscalar =>
    by_cases htemplate : v.isTemplate = true
    · cases v with
      | string text =>
        obtain ⟨outcome, houtcome, rfl⟩ := (substituteAt_template_eq_ok_iff htemplate).mp h
        have hsite := hanswer ⟨path, text⟩
          (by rw [Value.sitesAt_template htemplate]; exact List.mem_singleton_self _)
        have hsame := (bind_eq_ok_iff.mpr hsite).symm.trans houtcome
        have hfilled : (Value.string text).filledAt answer path = outcome.toValue :=
          (if_pos htemplate).trans (congrArg Outcome.toValue (Except.ok.inj hsame))
        rw [hfilled]
        cases outcome <;> rfl
      | _ => cases htemplate
    · have hplain := Bool.eq_false_iff.mpr htemplate
      rw [substituteAt_scalar hscalar hplain] at h
      cases h
      exact (Value.filledAt_scalar answer path hscalar hplain).symm
  | sequence items ih =>
    obtain ⟨results, hresults, rfl⟩ := substituteAt_sequence_eq_ok_iff.mp h
    refine congrArg Value.sequence (flatMap_splice_eq_filledItems hresults fun e he r hr => ?_)
    have hpart : (Step.index e.2, e.1) ∈ (Value.sequence items).parts := List.mem_map_of_mem he
    exact ih e.1 (List.fst_mem_of_mem_zipIdx he)
      (fun site hsite => hanswer site (Value.mem_sitesAt_of_part hpart hsite)) hr
  | mapping fields ih =>
    obtain ⟨results, hresults, rfl⟩ := substituteAt_mapping_eq_ok_iff.mp h
    refine congrArg Value.mapping (mapValues_value_eq_filledFields hresults fun e he r hr => ?_)
    have hpart : (Step.key e.1, e.2) ∈ (Value.mapping fields).parts :=
      Value.mem_parts_mapping.mpr ⟨e.1, he, rfl⟩
    exact ih e he (fun site hsite => hanswer site (Value.mem_sitesAt_of_part hpart hsite)) hr

/-! ## 4. The reports -/

/-- A template reports its path if its answer is open. -/
theorem unknownPaths_ofOutcome (path : String) (outcome : Outcome) :
    (ofOutcome path outcome).unknownPaths = if outcome.isOpen then [path] else [] := by
  cases outcome <;> rfl

/-- **The reports are the paths of the sites with open answers**, in the order of the sites. -/
theorem unknownPaths_of_answers {path : String} {v : Value}
    (hanswer : ∀ site ∈ v.sitesAt path, Answers eval site (answer site)) {r : Substituted}
    (h : substituteAt (m := Id) eval path v = .ok r) :
    r.unknownPaths = ((v.sitesAt path).filter fun site => (answer site).isOpen).map Site.path := by
  have hpaths := map_unknownPaths_substituteAt eval path v
  have hsites : (v.sitesAt path).mapM (m := Except Fault) (fun site =>
      Except.map (fun outcome => (ofOutcome site.path outcome).unknownPaths)
        (visitSite (m := Id) eval site))
      = .ok ((v.sitesAt path).map fun site =>
          if (answer site).isOpen then [site.path] else []) := by
    refine mapM_eq_ok_iff.mpr ?_
    rw [List.map_map]
    refine List.map_congr_left fun site hsite => map_eq_ok_iff.mpr ⟨answer site, ?_, ?_⟩
    · exact visitSite_eq_ok_iff_answers.mpr (hanswer site hsite)
    · exact unknownPaths_ofOutcome site.path (answer site)
  rw [hsites, h] at hpaths
  rw [show r.unknownPaths = _ from Except.ok.inj hpaths]
  generalize v.sitesAt path = sites
  induction sites with
  | nil => rfl
  | cons site rest ih =>
    rw [List.map_cons, List.flatten_cons, ih, List.filter_cons]
    split <;> rfl

/-! ## 5. Whole trees -/

/-- **Substitution is plain recursion over the tree**, for a callback that has no effects.  It
succeeds exactly if every site of the tree parses and is answered.  The tree that it builds then is
the tree with the answers filled in, in the order of the document, and the paths that it reports are
those of the sites whose answers are not known or hold the mark, in the order of the walk. -/
theorem substitution_is_structural (eval : String → Template → Except Fault Outcome) (v : Value) :
    ((∃ r, substitute (m := Id) eval v = .ok r)
      ↔ ∀ site ∈ v.sites, ∃ outcome, Answers eval site outcome)
    ∧ ∀ answer : Site → Outcome, (∀ site ∈ v.sites, Answers eval site (answer site)) →
      substitute (m := Id) eval v = .ok
        { value := v.filled answer
          unknownPaths := (v.sites.filter fun site => (answer site).isOpen).map Site.path } := by
  refine ⟨exists_substituteAt_iff, fun answer hanswer => ?_⟩
  obtain ⟨r, hr⟩ := exists_substituteAt_iff.mpr fun site hsite => ⟨_, hanswer site hsite⟩
  obtain ⟨value, unknownPaths⟩ := r
  obtain rfl := value_substituteAt hanswer hr
  obtain rfl := unknownPaths_of_answers hanswer hr
  exact hr

namespace Example

/-- A mapping whose keys do not stand in ascending order, with lists in a list. -/
def cluster : Value :=
  .mapping [("nodes", .sequence [.string "a", .string "${x}", .sequence [.string "${x}"]]),
    ("image", .string "${y}")]

/-- Two nodes, and an image that is not known yet. -/
def clusterAnswer (site : Site) : Outcome :=
  if site.source = "${x}" then .known (.sequence [.string "b", .string "c"]) else .unknown

/-- The callback that gives these answers. -/
def clusterEval (path : String) (t : Template) : Except Fault Outcome :=
  .ok (clusterAnswer ⟨path, t.source⟩)

theorem sites_cluster :
    cluster.sites = [⟨"image", "${y}"⟩, ⟨"nodes[1]", "${x}"⟩, ⟨"nodes[2][0]", "${x}"⟩] := by
  have hsorted : ∀ nodes image : Value, Fields.sorted [("nodes", nodes), ("image", image)]
      = [("image", image), ("nodes", nodes)] := by
    intro nodes image
    have hkeys : ¬ "nodes" ≤ "image" := by decide
    simp [Fields.sorted, List.mergeSort, List.MergeSort.Internal.splitInTwo, hkeys]
  rw [Value.sites, Value.sitesAt_eq_parts rfl, cluster, Value.parts, hsorted]
  decide +kernel

theorem answers_cluster :
    ∀ site ∈ cluster.sites, Answers clusterEval site (clusterAnswer site) := by
  have hx : Template.parse "${x}" = .ok ⟨"${x}", [.interpolation (.variable "x")]⟩ := by
    with_unfolding_all rfl
  have hy : Template.parse "${y}" = .ok ⟨"${y}", [.interpolation (.variable "y")]⟩ := by
    with_unfolding_all rfl
  rw [sites_cluster]
  intro site hsite
  rcases List.mem_cons.mp hsite with rfl | hsite
  · exact ⟨_, hy, rfl⟩
  rcases List.mem_cons.mp hsite with rfl | hsite
  · exact ⟨_, hx, rfl⟩
  · obtain rfl := List.mem_singleton.mp hsite
    exact ⟨_, hx, rfl⟩

/-- The two nodes become part of either list, one level deep and no further, the keys stay in their
order, and the image alone is reported. -/
theorem cluster_is_filled_in :
    (∀ site ∈ cluster.sites, Answers clusterEval site (clusterAnswer site))
    ∧ substitute (m := Id) clusterEval cluster = .ok
      { value := .mapping
          [("nodes", .sequence
            [.string "a", .string "b", .string "c", .sequence [.string "b", .string "c"]]),
            ("image", Value.unknown)]
        unknownPaths := ["image"] } := by
  refine ⟨answers_cluster, ?_⟩
  rw [(substitution_is_structural clusterEval cluster).2 clusterAnswer answers_cluster,
    sites_cluster]
  rfl

end Example

end Traversal

end TemplatedConfig
