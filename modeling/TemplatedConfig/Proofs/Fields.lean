/-
# Fields that are set one after another

Setting many keys leaves each at the place where it first appeared, with the value that came
last.  `keys_insertAll` says the first and `get?_insertAll` the second, and fields with distinct
keys are the same if they agree on both (`Fields.ext`).  So a list of entries without repeats
stands for itself (`ofList_eq_self`), and setting keys in two rounds may be regrouped
(`insertAll_insertAll`).

Sorted by their keys, fields with distinct keys are in one order only, whatever order they were in
(`sorted_eq_of_perm`).
-/
import Mathlib.Data.List.Induction
import Mathlib.Data.List.Nodup
import TemplatedConfig.Fields

namespace TemplatedConfig

/-- Mapping leaves a list as it is if it leaves every member as it is. -/
theorem map_eq_self {α : Type} {f : α → α} {l : List α} (h : ∀ a ∈ l, f a = a) : l.map f = l :=
  (List.map_congr_left h).trans (List.map_id l)

/-! ## 1. First appearances -/

section

variable {α : Type} [DecidableEq α]

/-- One more element is new, or it makes no difference. -/
theorem eraseDups_concat (l : List α) (a : α) :
    (l ++ [a]).eraseDups = if a ∈ l then l.eraseDups else l.eraseDups ++ [a] := by
  rw [List.eraseDups_append]
  by_cases h : a ∈ l
  · simp [List.removeAll, h]
  · simp [List.removeAll, h, List.eraseDups_cons]

theorem nodup_eraseDups (l : List α) : l.eraseDups.Nodup := by
  induction l using List.reverseRecOn with
  | nil => exact List.nodup_nil
  | append_singleton l a ih =>
    rw [eraseDups_concat]
    split
    · exact ih
    · rename_i hnew
      exact List.nodup_append.mpr ⟨ih, List.nodup_singleton a, by
        rintro b hb _ hsame rfl
        rw [List.mem_singleton] at hsame
        exact hnew (hsame ▸ List.mem_eraseDups.mp hb)⟩

theorem eraseDups_eq_self {l : List α} (h : l.Nodup) : l.eraseDups = l := by
  induction l using List.reverseRecOn with
  | nil => rfl
  | append_singleton l a ih =>
    obtain ⟨hl, -, hdisjoint⟩ := List.nodup_append.mp h
    have hnew : a ∉ l := fun ha => hdisjoint a ha a (List.mem_singleton_self a) rfl
    rw [eraseDups_concat, if_neg hnew, ih hl]

/-- Repeats may be left out of what comes first. -/
theorem eraseDups_eraseDups_append (l more : List α) :
    (l.eraseDups ++ more).eraseDups = (l ++ more).eraseDups := by
  induction more using List.reverseRecOn with
  | nil => rw [List.append_nil, List.append_nil, eraseDups_eq_self (nodup_eraseDups l)]
  | append_singleton more a ih =>
    rw [← List.append_assoc, ← List.append_assoc, eraseDups_concat, eraseDups_concat, ih]
    simp only [List.mem_append, List.mem_eraseDups]

/-- Repeats may be left out of what comes later. -/
theorem eraseDups_append_eraseDups (l more : List α) :
    (l ++ more.eraseDups).eraseDups = (l ++ more).eraseDups := by
  induction more using List.reverseRecOn with
  | nil => rfl
  | append_singleton more a ih =>
    rw [eraseDups_concat]
    by_cases h : a ∈ more
    · rw [if_pos h, ih, ← List.append_assoc, eraseDups_concat,
        if_pos (List.mem_append_right l h)]
    · rw [if_neg h, ← List.append_assoc, ← List.append_assoc, eraseDups_concat,
        eraseDups_concat, ih]
      simp only [List.mem_append, List.mem_eraseDups]

end

namespace Fields

variable {α : Type}

/-! ## 2. Keys -/

@[simp] theorem keys_cons (e : String × α) (rest : Fields α) :
    keys (e :: rest) = e.1 :: keys rest := rfl

theorem keys_filter_sublist (fields : Fields α) (p : String × α → Bool) :
    (keys (fields.filter p)).Sublist fields.keys :=
  List.filter_sublist.map Prod.fst

/-- A key that is set stays where it is, or comes last. -/
theorem keys_insert (fields : Fields α) (key : String) (value : α) :
    (fields.insert key value).keys
      = if key ∈ fields.keys then fields.keys else fields.keys ++ [key] := by
  induction fields with
  | nil => rfl
  | cons e rest ih =>
    obtain ⟨k, v⟩ := e
    by_cases hsame : k = key
    · simp [insert, keys, hsame]
    · rw [insert, if_neg hsame, keys_cons, ih, keys_cons]
      by_cases hmem : key ∈ keys rest
      · rw [if_pos hmem, if_pos (List.mem_cons_of_mem k hmem)]
      · rw [if_neg hmem, if_neg (List.not_mem_cons_of_ne_of_not_mem (Ne.symm hsame) hmem)]
        rfl

/-- A key is set where it stands, if it is one of the first. -/
theorem insert_append_of_mem {fields : Fields α} {key : String} (h : key ∈ fields.keys)
    (more : Fields α) (value : α) :
    insert (fields ++ more) key value = fields.insert key value ++ more := by
  induction fields with
  | nil => cases h
  | cons e rest ih =>
    rw [List.cons_append, insert, insert]
    split
    · rfl
    · rename_i hne
      rw [ih ((List.mem_cons.mp h).resolve_left (Ne.symm hne))]
      rfl

/-- If it is not, it is set among the others. -/
theorem insert_append_of_not_mem {fields : Fields α} {key : String} (h : key ∉ fields.keys)
    (more : Fields α) (value : α) :
    insert (fields ++ more) key value = fields ++ more.insert key value := by
  induction fields with
  | nil => rfl
  | cons e rest ih =>
    rw [List.cons_append, insert, if_neg (Ne.symm (List.ne_of_not_mem_cons h)),
      ih (List.not_mem_of_not_mem_cons h)]
    rfl

/-- A new key comes last. -/
theorem insert_of_not_mem {fields : Fields α} {key : String} (h : key ∉ fields.keys) (value : α) :
    fields.insert key value = fields ++ [(key, value)] := by
  have hset := insert_append_of_not_mem h [] value
  rw [List.append_nil] at hset
  exact hset

/-- A key that is not there need not be removed. -/
theorem erase_eq_self {fields : Fields α} {key : String} (h : key ∉ fields.keys) :
    fields.erase key = fields := by
  refine List.filter_eq_self.mpr fun e he => ?_
  have hmem : e.1 ∈ fields.keys := List.mem_map_of_mem he
  have hne : e.1 ≠ key := fun hsame => h (hsame ▸ hmem)
  exact decide_eq_true hne

/-- A key that has been removed is not there. -/
theorem not_mem_keys_erase (fields : Fields α) (key : String) : key ∉ (fields.erase key).keys := by
  simp [keys, erase]

/-- Setting a new key and removing it again changes nothing. -/
theorem erase_insert {fields : Fields α} {key : String} (h : key ∉ fields.keys) (value : α) :
    (fields.insert key value).erase key = fields := by
  rw [insert_of_not_mem h, erase, List.filter_append, ← erase, erase_eq_self h]
  simp

/-- **Keys that are set one after another** stand where they first appeared. -/
theorem keys_insertAll {fields : Fields α} (h : fields.keys.Nodup) (entries : Fields α) :
    (fields.insertAll entries).keys = (fields.keys ++ entries.keys).eraseDups := by
  induction entries generalizing fields with
  | nil =>
    show fields.keys = (fields.keys ++ []).eraseDups
    rw [List.append_nil, eraseDups_eq_self h]
  | cons e rest ih =>
    have hfirst : (fields.insert e.1 e.2).keys = (fields.keys ++ [e.1]).eraseDups := by
      rw [keys_insert, eraseDups_concat, eraseDups_eq_self h]
    calc (fields.insertAll (e :: rest)).keys
        = ((fields.insert e.1 e.2).keys ++ keys rest).eraseDups :=
          ih (nodup_keys_insert h e.1 e.2)
      _ = (fields.keys ++ keys (e :: rest)).eraseDups := by
          rw [hfirst, eraseDups_eraseDups_append, List.append_assoc]
          rfl

/-! ## 3. Values -/

theorem get?_append (fields more : Fields α) (key : String) :
    get? (fields ++ more) key = (fields.get? key).or (more.get? key) := by
  induction fields with
  | nil => rfl
  | cons e rest ih =>
    rw [List.cons_append, get?, get?, ih]
    split <;> rfl

/-- **A key that is set again and again** has the value that came last. -/
theorem get?_insertAll (fields entries : Fields α) (key : String) :
    (fields.insertAll entries).get? key = (get? entries.reverse key).or (fields.get? key) := by
  induction entries generalizing fields with
  | nil => rfl
  | cons e rest ih =>
    have hstep : fields.insertAll (e :: rest) = (fields.insert e.1 e.2).insertAll rest := rfl
    rw [hstep, ih, List.reverse_cons, get?_append, get?_insert, get?, get?]
    split
    · cases get? rest.reverse key <;> rfl
    · cases get? rest.reverse key <;> rfl

/-- A key has a value if it is one of the keys. -/
theorem isSome_get?_iff {fields : Fields α} {key : String} :
    (fields.get? key).isSome = true ↔ key ∈ fields.keys := by
  constructor
  · intro h
    obtain ⟨value, hvalue⟩ := Option.isSome_iff_exists.mp h
    exact List.mem_map_of_mem (mem_of_get? hvalue)
  · intro h
    induction fields with
    | nil => cases h
    | cons e rest ih =>
      rw [get?]
      split
      · rfl
      · rename_i hne
        exact ih ((List.mem_cons.mp h).resolve_left (Ne.symm hne))

theorem get?_mapValues {β : Type} (f : α → β) (fields : Fields α) (key : String) :
    (fields.mapValues f).get? key = (fields.get? key).map f := by
  induction fields with
  | nil => rfl
  | cons e rest ih =>
    show (if e.1 = key then some (f e.2) else (mapValues f rest).get? key) = _
    rw [ih, get?]
    split <;> rfl

/-- Values that are turned into others and back are as they were. -/
theorem mapValues_mapValues_eq_self {β : Type} {f : α → β} {g : β → α} {fields : Fields α}
    (h : ∀ e ∈ fields, g (f e.2) = e.2) : (fields.mapValues f).mapValues g = fields := by
  rw [mapValues, mapValues, List.map_map]
  refine map_eq_self fun e he => ?_
  rw [Function.comp_apply, h e he]

/-- Where no key is repeated, what is found among some of the entries is what is found among all, if
it is one of them. -/
theorem get?_filter {fields : Fields α} (h : fields.keys.Nodup) (p : String × α → Bool)
    (key : String) :
    get? (fields.filter p) key = (fields.get? key).filter fun value => p (key, value) := by
  induction fields with
  | nil => rfl
  | cons e rest ih =>
    obtain ⟨hfirst, hrest⟩ := List.nodup_cons.mp h
    rw [get?, List.filter_cons]
    by_cases hsame : e.1 = key
    · subst hsame
      have hnone : get? (rest.filter p) e.1 = none :=
        get?_eq_none fun hmem => hfirst ((keys_filter_sublist rest p).subset hmem)
      rw [if_pos rfl, Option.filter_some]
      split <;> simp [get?, *]
    · rw [if_neg hsame, ← ih hrest]
      split <;> simp [get?, *]

/-- Where no key is repeated, the order of the entries makes no difference to a value. -/
theorem get?_perm {fields other : Fields α} (h : fields.keys.Nodup) (hperm : fields.Perm other)
    (key : String) : fields.get? key = other.get? key := by
  have hother : other.keys.Nodup := (hperm.map Prod.fst).nodup_iff.mp h
  cases hget : other.get? key with
  | some value => exact get?_of_mem h (hperm.mem_iff.mpr (mem_of_get? hget))
  | none =>
    refine get?_eq_none fun hmem => ?_
    have hmem' : key ∈ other.keys := (hperm.map Prod.fst).mem_iff.mp hmem
    rw [← isSome_get?_iff, hget] at hmem'
    cases hmem'

/-! ## 4. Groups -/

section

variable {groups : Fields (List α)}

/-- Where no key is repeated, a group is all that stands under its key. -/
theorem getD_get?_eq_flatMap (h : groups.keys.Nodup) (key : String) :
    (groups.get? key).getD [] = groups.flatMap fun e => if e.1 = key then e.2 else [] := by
  induction groups with
  | nil => rfl
  | cons e rest ih =>
    obtain ⟨hfirst, hrest⟩ := List.nodup_cons.mp h
    rw [get?, List.flatMap_cons]
    by_cases hsame : e.1 = key
    · have hnone : (get? rest key).getD [] = [] := by rw [get?_eq_none (hsame ▸ hfirst)]; rfl
      rw [if_pos hsame, if_pos hsame, ← ih hrest, hnone, List.append_nil]
      rfl
    · rw [if_neg hsame, if_neg hsame, ← ih hrest, List.nil_append]

/-- Taken member by member, the keys first appear in the order of the groups that have members. -/
theorem eraseDups_flatMap_keys (h : groups.keys.Nodup) :
    (groups.flatMap fun e => e.2.map fun _ => e.1).eraseDups
      = keys (groups.filter fun e => !e.2.isEmpty) := by
  induction groups with
  | nil => rfl
  | cons e rest ih =>
    obtain ⟨hfirst, hrest⟩ := List.nodup_cons.mp h
    obtain ⟨key, members⟩ := e
    rw [List.flatMap_cons]
    cases members with
    | nil => exact ih hrest
    | cons a more =>
      have hsame : (more.map fun _ => key).filter (fun k => !k == key) = [] := by simp
      have hothers : (rest.flatMap fun e => e.2.map fun _ => e.1).filter (fun k => !k == key)
          = rest.flatMap fun e => e.2.map fun _ => e.1 := by
        refine List.filter_eq_self.mpr fun k hk => ?_
        obtain ⟨e, he, hk⟩ := List.mem_flatMap.mp hk
        obtain ⟨_, -, rfl⟩ := List.mem_map.mp hk
        have hmem : e.1 ∈ rest.map Prod.fst := List.mem_map_of_mem he
        have hne : e.1 ≠ key := fun heq => hfirst (heq ▸ hmem)
        simp [hne]
      show (key :: ((more.map fun _ => key) ++ _)).eraseDups = key :: keys (rest.filter _)
      rw [List.eraseDups_cons, List.filter_append, hsame, hothers, List.nil_append, ih hrest]

end

/-! ## 5. Fields as wholes -/

/-- **Fields with the same distinct keys and the same values are the same.** -/
theorem ext {fields other : Fields α} (hdistinct : fields.keys.Nodup)
    (hkeys : fields.keys = other.keys) (hget : ∀ key, fields.get? key = other.get? key) :
    fields = other := by
  induction fields generalizing other with
  | nil => exact (List.map_eq_nil_iff.mp hkeys.symm).symm
  | cons e rest ih =>
    cases other with
    | nil => cases hkeys
    | cons e' rest' =>
      obtain ⟨k, v⟩ := e
      obtain ⟨k', v'⟩ := e'
      obtain ⟨hkey, hrest⟩ : k = k' ∧ keys rest = keys rest' := List.cons.inj hkeys
      subst hkey
      obtain ⟨hnew, hdistinct⟩ : k ∉ keys rest ∧ (keys rest).Nodup := List.nodup_cons.mp hdistinct
      have hvalue : v = v' := by simpa [get?] using hget k
      have hrest' : ∀ key, get? rest key = get? rest' key := by
        intro key
        by_cases hsame : k = key
        · rw [get?_eq_none (hsame ▸ hnew), get?_eq_none (hsame ▸ hrest ▸ hnew)]
        · simpa [get?, hsame] using hget key
      rw [hvalue, ih hdistinct hrest hrest']

/-- **A list of entries without repeats stands for itself.** -/
theorem ofList_eq_self {entries : Fields α} (h : entries.keys.Nodup) :
    ofList entries = entries := by
  have hnil : (keys ([] : Fields α)).Nodup := List.nodup_nil
  refine ext (nodup_keys_ofList entries) ?_ fun key => ?_
  · rw [ofList, keys_insertAll hnil]
    exact eraseDups_eq_self h
  · rw [ofList, get?_insertAll, get?_perm h (List.reverse_perm entries).symm key]
    exact Option.or_none

/-- **Keys may be set in two rounds**, the later ones onto the earlier ones first. -/
theorem insertAll_insertAll {first more : Fields α} (hfirst : first.keys.Nodup)
    (hmore : more.keys.Nodup) (last : Fields α) :
    (first.insertAll more).insertAll last = first.insertAll (more.insertAll last) := by
  refine ext (nodup_keys_insertAll _ (nodup_keys_insertAll _ hfirst)) ?_ fun key => ?_
  · rw [keys_insertAll (nodup_keys_insertAll _ hfirst), keys_insertAll hfirst,
      keys_insertAll hfirst, keys_insertAll hmore, eraseDups_eraseDups_append,
      eraseDups_append_eraseDups, List.append_assoc]
  · have hround : (more.insertAll last).keys.Nodup := nodup_keys_insertAll last hmore
    rw [get?_insertAll, get?_insertAll, get?_insertAll,
      ← get?_perm hround (List.reverse_perm _).symm, get?_insertAll,
      ← get?_perm hmore (List.reverse_perm _).symm, Option.or_assoc]

/-- **A key that is there is set by changing its value**, if the values come from others. -/
theorem insert_mapValues {β : Type} {fields : Fields α} {f g : α → β} {key : String} {value : β}
    (hdistinct : fields.keys.Nodup) (hkey : key ∈ fields.keys)
    (hset : ∀ a, (key, a) ∈ fields → g a = value)
    (hkeep : ∀ e ∈ fields, e.1 ≠ key → g e.2 = f e.2) :
    (fields.mapValues f).insert key value = fields.mapValues g := by
  have hkeys : (fields.mapValues f).keys.Nodup := by rwa [keys_mapValues]
  refine ext (nodup_keys_insert hkeys key value) ?_ fun k => ?_
  · rw [keys_insert, keys_mapValues, if_pos hkey, keys_mapValues]
  · rw [get?_insert, get?_mapValues, get?_mapValues]
    cases hget : fields.get? k with
    | none =>
      have hne : key ≠ k := by
        rintro rfl
        rw [← isSome_get?_iff, hget] at hkey
        cases hkey
      rw [if_neg hne]
      rfl
    | some a =>
      have hmem := mem_of_get? hget
      split
      · rename_i hsame
        rw [Option.map_some, hset a (hsame ▸ hmem)]
      · rename_i hne
        rw [Option.map_some, Option.map_some, hkeep (k, a) hmem (Ne.symm hne)]

/-! ## 6. Sorted fields -/

theorem sorted_perm (fields : Fields α) : fields.sorted.Perm fields := List.mergeSort_perm _ _

/-- **Sorted keys ascend strictly**, where no key is repeated. -/
theorem pairwise_keys_sorted {fields : Fields α} (h : fields.keys.Nodup) :
    fields.sorted.keys.Pairwise (· < ·) := by
  have hsorted : fields.sorted.keys.Pairwise (· ≤ ·) := by
    rw [keys, List.pairwise_map]
    refine (List.pairwise_mergeSort ?_ ?_ fields).imp fun hle => of_decide_eq_true hle
    · intro a b c hab hbc
      exact decide_eq_true (String.le_trans (of_decide_eq_true hab) (of_decide_eq_true hbc))
    · intro a b
      simpa using String.le_total a.1 b.1
  have hdistinct : fields.sorted.keys.Nodup := ((sorted_perm fields).map Prod.fst).nodup_iff.mpr h
  exact hsorted.imp₂ (fun _ _ hle hne => Std.lt_of_le_of_ne hle hne) hdistinct

/-- **Sorting forgets the order of the entries**, where no key is repeated. -/
theorem sorted_eq_of_perm {fields other : Fields α} (h : fields.keys.Nodup)
    (hperm : fields.Perm other) : fields.sorted = other.sorted := by
  have hother : other.keys.Nodup := (hperm.map Prod.fst).nodup_iff.mp h
  have hsorted : fields.sorted.Pairwise fun a b => a.1 < b.1 :=
    List.pairwise_map.mp (pairwise_keys_sorted h)
  have hsorted' : other.sorted.Pairwise fun a b => a.1 < b.1 :=
    List.pairwise_map.mp (pairwise_keys_sorted hother)
  have hentries : fields.sorted.Perm other.sorted :=
    (sorted_perm fields).trans (hperm.trans (sorted_perm other).symm)
  exact List.Perm.eq_of_pairwise
    (fun a b _ _ hab hba => absurd (Std.lt_trans hab hba) Std.lt_irrefl) hsorted hsorted' hentries

end Fields

end TemplatedConfig
