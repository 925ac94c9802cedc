/-
# Merging in another grouping

A directory is loaded by merging its documents from left to right, beginning with the first.  This
file asks how much depends on that: whether the configurations may be merged in another grouping,
and whether the merging may begin with the empty configuration.

Almost nothing does.  Whether merging fails depends on which configurations share a block, and the
union of three configurations has the same variables, files, groups of resources and so on, however
it is taken (`joined_joined`).  What does depend on it is the place of a kind that has no resources.
A document that declares such a kind, as in `package: {}`, has it among its kinds; merging
leaves it out, unless the document is the first (`merging_loses_kinds`).  So the kinds come in the
same order if no document declares a kind without resources, and otherwise they are the same kinds
in some order (`merging_in_groups`).
-/
import TemplatedConfig.Proofs.Config.Gathering

namespace TemplatedConfig.Config

variable {a b c x y : Config}

/-- Configurations that agree on all fields but one. -/
theorem eq_withResources (hdirectory : x.directory = y.directory) (hsources : x.sources = y.sources)
    (hfiles : x.files = y.files) (hinputs : x.inputs = y.inputs)
    (hignored : x.ignoredKeys = y.ignoredKeys) : x = { y with resources := x.resources } := by
  cases x
  cases y
  simp_all

/-! ## 1. Kinds and groups -/

/-- What is found under a kind, said by kinds and groups. -/
theorem get?_resources (c : Config) (kind : String) :
    c.resources.get? kind = if kind ∈ c.resources.keys then some (c.group kind) else none := by
  split
  · rename_i hmem
    obtain ⟨group, hgroup⟩ := Option.isSome_iff_exists.mp (Fields.isSome_get?_iff.mpr hmem)
    rw [Config.group, hgroup]
    rfl
  · rename_i hnot
    exact Fields.get?_eq_none hnot

/-- **The same kinds in the same order, with the same groups, are the same resources.** -/
theorem resources_eq (hx : x.resources.keys.Nodup) (hkinds : x.resources.keys = y.resources.keys)
    (hgroup : ∀ kind, x.group kind = y.group kind) : x.resources = y.resources := by
  refine Fields.ext hx hkinds fun kind => ?_
  rw [get?_resources, get?_resources, hkinds, hgroup]

/-- The same kinds in another order are the same resources in another order. -/
theorem resources_perm (hx : x.resources.keys.Nodup) (hy : y.resources.keys.Nodup)
    (hkinds : ∀ kind, kind ∈ x.resources.keys ↔ kind ∈ y.resources.keys)
    (hgroup : ∀ kind, x.group kind = y.group kind) : x.resources.Perm y.resources := by
  have hmem : ∀ {c : Config}, c.resources.keys.Nodup → ∀ g : String × List Resource,
      g ∈ c.resources ↔ c.resources.get? g.1 = some g.2 :=
    fun hc g => ⟨Fields.get?_of_mem hc, Fields.mem_of_get?⟩
  refine (List.perm_ext_iff_of_nodup (.of_map Prod.fst hx) (.of_map Prod.fst hy)).mpr fun g => ?_
  rw [hmem hx, hmem hy, get?_resources, get?_resources, hgroup]
  simp only [hkinds]

/-- A kind is used if there are resources of it. -/
theorem mem_usedKinds_iff (h : c.resources.keys.Nodup) {kind : String} :
    kind ∈ c.usedKinds ↔ c.group kind ≠ [] := by
  constructor
  · intro hmem
    obtain ⟨group, hgroup, rfl⟩ := List.mem_map.mp hmem
    obtain ⟨hgroup, hused⟩ := List.mem_filter.mp hgroup
    rw [group_of_mem h hgroup]
    simpa using hused
  · intro hused
    have hkind : kind ∈ c.resources.keys := by
      by_contra hnot
      rw [Config.group, Fields.get?_eq_none hnot] at hused
      exact hused rfl
    have hget : c.resources.get? kind = some (c.group kind) := by
      rw [get?_resources, if_pos hkind]
    exact List.mem_map_of_mem (List.mem_filter.mpr ⟨Fields.mem_of_get? hget, by simpa using hused⟩)

/-- If all kinds have resources, all of them are used. -/
theorem usedKinds_eq_keys (h : ∀ group ∈ c.resources, group.2 ≠ []) :
    c.usedKinds = c.resources.keys := by
  rw [usedKinds, List.filter_eq_self.mpr fun group hgroup => by simpa using h group hgroup]

/-- A configuration without the kinds that have no resources. -/
def dropUnusedKinds (c : Config) : Config :=
  { c with resources := c.resources.filter fun group => !group.2.isEmpty }

/-- Dropping kinds without resources changes no group. -/
theorem group_dropUnusedKinds (h : c.resources.keys.Nodup) (kind : String) :
    c.dropUnusedKinds.group kind = c.group kind := by
  have hnodup : c.dropUnusedKinds.resources.keys.Nodup :=
    h.sublist (Fields.keys_filter_sublist _ _)
  by_cases hused : c.group kind = []
  · have hnot : kind ∉ c.dropUnusedKinds.resources.keys := fun hmem =>
      (mem_usedKinds_iff h).mp hmem hused
    rw [hused, Config.group, Fields.get?_eq_none hnot]
    rfl
  · obtain ⟨group, hgroup, rfl⟩ := List.mem_map.mp ((mem_usedKinds_iff h).mpr hused)
    rw [group_of_mem h (List.filter_sublist.subset hgroup)]
    exact group_of_mem hnodup hgroup

/-! ## 2. The empty configuration -/

theorem not_sharesBlock_empty_left (c : Config) : ¬ empty.SharesBlock c := by
  rintro ⟨_ | _, hname, -⟩
  · exact List.not_mem_nil hname
  · exact List.not_mem_nil hname

/-- Merging the empty configuration changes nothing. -/
theorem merge_empty (c : Config) : c.merge empty = .ok c := by
  show Except.ok (c.addRest empty) = .ok c
  simp [addRest, empty]

/-- The union of the empty configuration with another leaves out the kinds without resources. -/
theorem empty_joined (h : c.Distinct) : empty.joined c = c.dropUnusedKinds := by
  have hinputs : (empty.joined c).inputs = c.inputs := by
    refine variableFields_injective ?_
    rw [inputs_joined, variableFields_putVariables]
    exact Fields.ofList_eq_self (by rw [keys_variableFields]; exact h.inputs)
  have hkinds : (empty.joined c).resources.keys = c.dropUnusedKinds.resources.keys := by
    have hnil : (empty.resources.keys).Nodup := List.nodup_nil
    have hused : c.usedKinds.Nodup := h.kinds.sublist (Fields.keys_filter_sublist _ _)
    rw [kinds_joined hnil h.kinds]
    exact eraseDups_eq_self hused
  have hresources : (empty.joined c).resources = c.dropUnusedKinds.resources := by
    refine resources_eq ?_ hkinds fun kind => ?_
    · rw [hkinds]
      exact h.kinds.sublist (Fields.keys_filter_sublist _ _)
    · rw [group_joined h.kinds, group_dropUnusedKinds h.kinds]
      rfl
  have hrest : empty.joined c
      = { c.dropUnusedKinds with resources := (empty.joined c).resources } :=
    eq_withResources ((directory_joined _ _).trans Option.or_none) (sources_joined _ _)
      (files_joined _ _) hinputs (ignoredKeys_joined _ _)
  rw [hrest, hresources]

/-! ## 3. Three configurations -/

/-- Merging from the left gives a result exactly if no two configurations share a block. -/
theorem merge_left_eq_ok_iff (hb : b.Distinct) (hc : c.Distinct) :
    (a.merge b >>= fun ab => ab.merge c) = .ok x
      ↔ (¬ a.SharesBlock b ∧ ¬ a.SharesBlock c ∧ ¬ b.SharesBlock c)
        ∧ x = (a.joined b).joined c := by
  simp only [bind_eq_ok_iff, merge_eq_ok_iff hb, merge_eq_ok_iff hc]
  constructor
  · rintro ⟨_, ⟨hab, rfl⟩, habc, rfl⟩
    rw [sharesBlock_joined_left hb, not_or] at habc
    exact ⟨⟨hab, habc⟩, rfl⟩
  · rintro ⟨⟨hab, habc⟩, rfl⟩
    rw [← not_or, ← sharesBlock_joined_left hb] at habc
    exact ⟨_, ⟨hab, rfl⟩, habc, rfl⟩

/-- Merging from the right does so under the same condition. -/
theorem merge_right_eq_ok_iff (hb : b.Distinct) (hc : c.Distinct) :
    (b.merge c >>= fun bc => a.merge bc) = .ok x
      ↔ (¬ a.SharesBlock b ∧ ¬ a.SharesBlock c ∧ ¬ b.SharesBlock c)
        ∧ x = a.joined (b.joined c) := by
  simp only [bind_eq_ok_iff, merge_eq_ok_iff hc]
  constructor
  · rintro ⟨_, ⟨hbc, rfl⟩, h⟩
    rw [merge_eq_ok_iff (hb.joined hc hbc), sharesBlock_joined_right hc, not_or] at h
    exact ⟨⟨h.1.1, h.1.2, hbc⟩, h.2⟩
  · rintro ⟨⟨hab, hac, hbc⟩, rfl⟩
    refine ⟨_, ⟨hbc, rfl⟩, ?_⟩
    rw [merge_eq_ok_iff (hb.joined hc hbc), sharesBlock_joined_right hc, not_or]
    exact ⟨⟨hab, hac⟩, rfl⟩

section

variable (ha : a.Distinct) (hb : b.Distinct) (hc : c.Distinct) (hbc : ¬ b.SharesBlock c)

include ha hb in
/-- **The union of three configurations**, taken from the left or from the right, is the same up to
its resources. -/
theorem joined_joined :
    (a.joined b).joined c
      = { a.joined (b.joined c) with resources := ((a.joined b).joined c).resources } := by
  refine eq_withResources ?_ ?_ ?_ (variableFields_injective ?_) ?_
  · simp only [directory_joined, Option.or_assoc]
  · simp only [sources_joined, List.append_assoc]
  · simp only [files_joined, List.append_assoc]
  · simp only [inputs_joined, variableFields_putVariables]
    exact Fields.insertAll_insertAll (by rw [keys_variableFields]; exact ha.inputs)
      (by rw [keys_variableFields]; exact hb.inputs) _
  · simp only [ignoredKeys_joined, List.append_assoc]

include hb hc hbc

/-- It has the same groups of resources. -/
theorem group_joined_joined (kind : String) :
    ((a.joined b).joined c).group kind = (a.joined (b.joined c)).group kind := by
  rw [group_joined hc.kinds, group_joined hb.kinds, group_joined (hb.joined hc hbc).kinds,
    group_joined hc.kinds, List.append_assoc]

/-- A union uses the kinds that its parts use. -/
theorem mem_usedKinds_joined {kind : String} :
    kind ∈ (b.joined c).usedKinds ↔ kind ∈ b.usedKinds ∨ kind ∈ c.usedKinds := by
  rw [mem_usedKinds_iff (hb.joined hc hbc).kinds, mem_usedKinds_iff hb.kinds,
    mem_usedKinds_iff hc.kinds, group_joined hc.kinds, Ne, List.append_eq_nil_iff, not_and_or]

include ha

/-- It has the same kinds. -/
theorem mem_kinds_joined_joined {kind : String} :
    kind ∈ ((a.joined b).joined c).resources.keys
      ↔ kind ∈ (a.joined (b.joined c)).resources.keys := by
  have hab : (a.joined b).resources.keys.Nodup := by
    rw [kinds_joined ha.kinds hb.kinds]
    exact nodup_eraseDups _
  rw [kinds_joined hab hc.kinds, kinds_joined ha.kinds hb.kinds,
    kinds_joined ha.kinds (hb.joined hc hbc).kinds]
  simp only [List.mem_eraseDups, List.mem_append, mem_usedKinds_joined hb hc hbc, or_assoc]

/-- **It has them in the same order** if the second configuration has no kind without resources. -/
theorem kinds_joined_joined (hused : ∀ group ∈ b.resources, group.2 ≠ []) :
    ((a.joined b).joined c).resources.keys = (a.joined (b.joined c)).resources.keys := by
  have hab : (a.joined b).resources.keys.Nodup := by
    rw [kinds_joined ha.kinds hb.kinds]
    exact nodup_eraseDups _
  have hused' : ∀ group ∈ (b.joined c).resources, group.2 ≠ [] := by
    intro group hgroup
    have hkind : group.1 ∈ (b.joined c).resources.keys := List.mem_map_of_mem hgroup
    rw [kinds_joined hb.kinds hc.kinds, List.mem_eraseDups, List.mem_append,
      ← usedKinds_eq_keys hused, ← mem_usedKinds_joined hb hc hbc,
      mem_usedKinds_iff (hb.joined hc hbc).kinds] at hkind
    rwa [group_of_mem (hb.joined hc hbc).kinds hgroup] at hkind
  calc ((a.joined b).joined c).resources.keys
      = ((a.resources.keys ++ b.usedKinds).eraseDups ++ c.usedKinds).eraseDups := by
        rw [kinds_joined hab hc.kinds, kinds_joined ha.kinds hb.kinds]
    _ = (a.resources.keys ++ (b.resources.keys ++ c.usedKinds).eraseDups).eraseDups := by
        rw [eraseDups_eraseDups_append, eraseDups_append_eraseDups, List.append_assoc,
          usedKinds_eq_keys hused]
    _ = (a.joined (b.joined c)).resources.keys := by
        rw [kinds_joined ha.kinds (hb.joined hc hbc).kinds, usedKinds_eq_keys hused',
          kinds_joined hb.kinds hc.kinds]

end

/-! ## 4. Merging in groups -/

/-- Merging from the left and merging from the right fail together. -/
theorem merge_both_fail (hb : b.Distinct) (hc : c.Distinct)
    (hshared : ¬ (¬ a.SharesBlock b ∧ ¬ a.SharesBlock c ∧ ¬ b.SharesBlock c)) :
    (∃ fault, (a.merge b >>= fun ab => ab.merge c) = .error fault)
      ∧ ∃ fault, (b.merge c >>= fun bc => a.merge bc) = .error fault := by
  constructor
  · refine exists_error_of_not_ok fun x hx => ?_
    exact hshared ((merge_left_eq_ok_iff hb hc).mp hx).1
  · refine exists_error_of_not_ok fun x hx => ?_
    exact hshared ((merge_right_eq_ok_iff hb hc).mp hx).1

/-- The two unions differ at most in the order of their kinds. -/
theorem joined_joined_perm (ha : a.Distinct) (hb : b.Distinct) (hc : c.Distinct)
    (hab : ¬ a.SharesBlock b) (hac : ¬ a.SharesBlock c) (hbc : ¬ b.SharesBlock c) :
    ((a.joined b).joined c).resources.Perm (a.joined (b.joined c)).resources
      ∧ ((∀ group ∈ b.resources, group.2 ≠ []) →
        (a.joined b).joined c = a.joined (b.joined c)) := by
  have habc : ¬ (a.joined b).SharesBlock c := by
    rw [sharesBlock_joined_left hb, not_or]
    exact ⟨hac, hbc⟩
  have habc' : ¬ a.SharesBlock (b.joined c) := by
    rw [sharesBlock_joined_right hc, not_or]
    exact ⟨hab, hac⟩
  have hleft : ((a.joined b).joined c).Distinct := (ha.joined hb hab).joined hc habc
  have hright : (a.joined (b.joined c)).Distinct := ha.joined (hb.joined hc hbc) habc'
  have hgroups := group_joined_joined (a := a) hb hc hbc
  constructor
  · exact resources_perm hleft.kinds hright.kinds
      (fun _ => mem_kinds_joined_joined ha hb hc hbc) hgroups
  · intro hused
    have hresources := resources_eq hleft.kinds (kinds_joined_joined ha hb hc hbc hused) hgroups
    rw [joined_joined ha hb, hresources]

/-- **Merging in groups.**  The empty configuration may be merged to any; merged from it, a
configuration loses its kinds without resources and nothing else.  Three configurations that are
merged from the left and from the right either fail both, or they give the same up to the order of
the kinds, and also in the same order if the second has no kind without resources. -/
theorem merging_in_groups (ha : a.IsParsed) (hb : b.IsParsed) (hc : c.IsParsed) :
    a.merge empty = .ok a
    ∧ empty.merge a = .ok a.dropUnusedKinds
    ∧ (((∃ fault, (a.merge b >>= fun ab => ab.merge c) = .error fault)
          ∧ ∃ fault, (b.merge c >>= fun bc => a.merge bc) = .error fault)
      ∨ ∃ x y, (a.merge b >>= fun ab => ab.merge c) = .ok x
          ∧ (b.merge c >>= fun bc => a.merge bc) = .ok y
          ∧ x = { y with resources := x.resources }
          ∧ x.resources.Perm y.resources
          ∧ ((∀ group ∈ b.resources, group.2 ≠ []) → x = y)) := by
  have ha := ha.distinct
  have hb := hb.distinct
  have hc := hc.distinct
  refine ⟨merge_empty a,
    (merge_eq_ok_iff ha).mpr ⟨not_sharesBlock_empty_left a, (empty_joined ha).symm⟩, ?_⟩
  by_cases hfree : ¬ a.SharesBlock b ∧ ¬ a.SharesBlock c ∧ ¬ b.SharesBlock c
  · right
    obtain ⟨hab, hac, hbc⟩ := hfree
    obtain ⟨hperm, hequal⟩ := joined_joined_perm ha hb hc hab hac hbc
    exact ⟨_, _, (merge_left_eq_ok_iff hb hc).mpr ⟨⟨hab, hac, hbc⟩, rfl⟩,
      (merge_right_eq_ok_iff hb hc).mpr ⟨⟨hab, hac, hbc⟩, rfl⟩, joined_joined ha hb, hperm, hequal⟩
  · exact .inl (merge_both_fail hb hc hfree)

namespace Example

/-- What a document declares that has a kind without resources. -/
def noPackages : Config where
  resources := [("package", [])]

/-- What a document declares that has one before a kind with a resource. -/
def deployUser : Config where
  resources := [("package", []), ("user", [bare "user" "deploy" "b.json"])]

/-- What a document declares that has a resource of the kind. -/
def nginx : Config where
  resources := [("package", [bare "package" "nginx" "c.json"])]

/-- What a text declares with the standard grammar. -/
def declared (text label : String) : Except Fault Config :=
  parse text .json label Name.Grammar.standard

theorem declared_eq_ok_iff {text label : String} {c : Config} :
    declared text label = .ok c
      ↔ ∃ d, Format.json.read? text = some d
        ∧ ofDocument { label, grammar := Name.Grammar.standard } d = .ok c := by
  rw [declared, parse, parseWith_eq_ok_iff]

theorem declared_null : declared "null" "a.json" = .ok empty := by
  refine declared_eq_ok_iff.mpr ⟨?document, ?read, ?kept⟩
  case read => cbv; rfl
  case kept => with_unfolding_all rfl

theorem declared_noPackages :
    declared "\x7b\"package\":\x7b\x7d\x7d" "a.json" = .ok noPackages := by
  refine declared_eq_ok_iff.mpr ⟨?document, ?read, ?kept⟩
  case read => cbv; rfl
  case kept => with_unfolding_all rfl

theorem declared_deployUser :
    declared "\x7b\"package\":\x7b\x7d,\"user\":\x7b\"deploy\":\x7b\x7d\x7d\x7d" "b.json"
      = .ok deployUser := by
  refine declared_eq_ok_iff.mpr ⟨?document, ?read, ?kept⟩
  case read => cbv; rfl
  case kept => with_unfolding_all rfl

theorem declared_nginx :
    declared "\x7b\"package\":\x7b\"nginx\":\x7b\x7d\x7d\x7d" "c.json" = .ok nginx := by
  refine declared_eq_ok_iff.mpr ⟨?document, ?read, ?kept⟩
  case read => cbv; rfl
  case kept => with_unfolding_all rfl

theorem isParsed_of_declared {text label : String} {c : Config}
    (h : declared text label = .ok c) : c.IsParsed := ⟨_, _, _, _, h⟩

/-- Packages come before users in every grouping if the first document declares the kind, even
without a package. -/
theorem packages_first :
    noPackages.IsParsed ∧ deployUser.IsParsed ∧ nginx.IsParsed
      ∧ empty.merge noPackages = .ok empty
      ∧ ∃ x y, (noPackages.merge deployUser >>= fun ab => ab.merge nginx) = .ok x
          ∧ (deployUser.merge nginx >>= fun bc => noPackages.merge bc) = .ok y
          ∧ x.resources.Perm y.resources
          ∧ x.resources.keys = ["package", "user"] := by
  have hnone := isParsed_of_declared declared_noPackages
  have huser := isParsed_of_declared declared_deployUser
  have hnginx := isParsed_of_declared declared_nginx
  have hlaws := merging_in_groups hnone huser hnginx
  refine ⟨hnone, huser, hnginx, hlaws.2.1, ?_⟩
  rcases hlaws.2.2 with ⟨⟨_, hfault⟩, -⟩ | ⟨x, y, hx, hy, -, hperm, -⟩
  · cases hfault
  · refine ⟨x, y, hx, hy, hperm, ?_⟩
    cases hx
    rfl

end Example

open Example (declared) in
/-- **Merging loses kinds.**  Merged from the empty configuration, a document that declares a kind
without resources is not what it was.  And if such a kind comes before another, the grouping shows
in the order of the kinds. -/
theorem merging_loses_kinds :
    (¬ ∀ (text label : String) (a : Config), declared text label = .ok a → empty.merge a = .ok a)
    ∧ ¬ ∀ (text text' text'' label label' label'' : String) (a b c x y : Config),
        declared text label = .ok a → declared text' label' = .ok b →
        declared text'' label'' = .ok c →
        (a.merge b >>= fun ab => ab.merge c) = .ok x →
        (b.merge c >>= fun bc => a.merge bc) = .ok y → x = y := by
  constructor
  · intro h
    have hmerge := h _ _ _ Example.declared_noPackages
    cases hmerge
  · intro h
    have hsame := h _ _ _ _ _ _ _ _ _ _ _ Example.declared_null Example.declared_deployUser
      Example.declared_nginx rfl rfl
    have hkinds := congrArg (fun c : Config => c.resources.keys) hsame
    revert hkinds
    decide

end TemplatedConfig.Config
