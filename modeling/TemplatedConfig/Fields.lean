/-
# Ordered fields

A mapping keeps its entries in the order in which its keys first appeared, and a key that
appears again replaces the value without moving.  `Fields α` is such a list of entries.  Every
operation that adds an entry goes through `insert`, so the keys of a list built from nothing
are distinct (`nodup_keys_ofList`).
-/

namespace TemplatedConfig

/-- Entries in order of first appearance. -/
abbrev Fields (α : Type) := List (String × α)

namespace Fields

variable {α β : Type}

/-- The keys, in order. -/
def keys (fields : Fields α) : List String := fields.map Prod.fst

/-- The value of a key. -/
def get? : Fields α → String → Option α
  | [], _ => none
  | (k, v) :: rest, key => if k = key then some v else get? rest key

/-- Whether a key has a value. -/
def has (fields : Fields α) (key : String) : Bool := (fields.get? key).isSome

/-- Sets the value of a key: in place if the key is there, at the end otherwise. -/
def insert : Fields α → String → α → Fields α
  | [], key, value => [(key, value)]
  | (k, v) :: rest, key, value =>
    if k = key then (k, value) :: rest else (k, v) :: insert rest key value

/-- Removes a key and closes the gap. -/
def erase (fields : Fields α) (key : String) : Fields α := fields.filter (·.1 ≠ key)

/-- Sets the entries of a list one after another: the first place and the last value win. -/
def insertAll (fields : Fields α) (entries : List (String × α)) : Fields α :=
  entries.foldl (fun acc e => acc.insert e.1 e.2) fields

/-- The fields that a list of entries with repeats stands for. -/
def ofList (entries : List (String × α)) : Fields α := insertAll [] entries

/-- The entries in ascending order of their keys, compared by code points. -/
def sorted (fields : Fields α) : Fields α := fields.mergeSort fun a b => a.1 ≤ b.1

/-- The same keys with other values. -/
def mapValues (f : α → β) (fields : Fields α) : Fields β := fields.map fun e => (e.1, f e.2)

/-- Sorting looks at the keys alone, so the values may change before or after. -/
theorem sorted_mapValues (f : α → β) (fields : Fields α) :
    (fields.mapValues f).sorted = fields.sorted.mapValues f := by
  rw [sorted, sorted, mapValues, mapValues, List.map_mergeSort]
  intro a _ b _
  rfl

/-! ## Laws of the view `keys` -/

theorem mem_keys_insert {fields : Fields α} {key k : String} {value : α} :
    k ∈ (fields.insert key value).keys ↔ k = key ∨ k ∈ fields.keys := by
  induction fields with
  | nil => simp [insert, keys]
  | cons e rest ih =>
    obtain ⟨k', v'⟩ := e
    by_cases h : k' = key
    · subst h; simp [insert, keys]
    · simp only [insert, h, if_false, keys, List.map_cons, List.mem_cons] at ih ⊢
      rw [ih]; grind

theorem nodup_keys_insert {fields : Fields α} (h : fields.keys.Nodup) (key : String) (value : α) :
    (fields.insert key value).keys.Nodup := by
  induction fields with
  | nil => simp [insert, keys]
  | cons e rest ih =>
    obtain ⟨k', v'⟩ := e
    have hk : k' ∉ keys rest ∧ (keys rest).Nodup := List.nodup_cons.mp h
    by_cases he : k' = key
    · simpa [insert, he, keys] using h
    · have hnot : k' ∉ keys (insert rest key value) := by
        rw [mem_keys_insert]; simp [he, hk.1]
      rw [insert, if_neg he]
      exact List.nodup_cons.mpr ⟨hnot, ih hk.2⟩

theorem nodup_keys_insertAll (entries : List (String × α)) {fields : Fields α}
    (h : fields.keys.Nodup) : (fields.insertAll entries).keys.Nodup := by
  induction entries generalizing fields with
  | nil => simpa [insertAll] using h
  | cons e rest ih => exact ih (nodup_keys_insert h e.1 e.2)

/-- A list of entries, whatever repeats it has, becomes fields with distinct keys. -/
theorem nodup_keys_ofList (entries : List (String × α)) : (ofList entries).keys.Nodup :=
  nodup_keys_insertAll entries (by simp [keys])

/-- Every entry after setting a key was there before or is the one that was set. -/
theorem mem_insert {fields : Fields α} {key : String} {value : α} {e : String × α}
    (h : e ∈ fields.insert key value) : e ∈ fields ∨ e = (key, value) := by
  induction fields with
  | nil => exact .inr (List.mem_singleton.mp h)
  | cons first rest ih =>
    rw [insert] at h
    split at h
    · rename_i hkey
      rcases List.mem_cons.mp h with rfl | h
      · exact .inr (by rw [hkey])
      · exact .inl (List.mem_cons_of_mem _ h)
    · rcases List.mem_cons.mp h with rfl | h
      · exact .inl List.mem_cons_self
      · exact (ih h).imp_left (List.mem_cons_of_mem _)

/-- The same after setting several. -/
theorem mem_insertAll {fields : Fields α} {entries : List (String × α)} {e : String × α}
    (h : e ∈ fields.insertAll entries) : e ∈ fields ∨ e ∈ entries := by
  induction entries generalizing fields with
  | nil => exact .inl h
  | cons first rest ih =>
    have h : e ∈ insertAll (fields.insert first.1 first.2) rest := h
    rcases ih h with h | h
    · rcases mem_insert h with h | rfl
      · exact .inl h
      · exact .inr List.mem_cons_self
    · exact .inr (List.mem_cons_of_mem _ h)

/-- Every entry of the fields that a list stands for is in the list. -/
theorem mem_ofList {entries : List (String × α)} {e : String × α} (h : e ∈ ofList entries) :
    e ∈ entries :=
  (mem_insertAll h).resolve_left List.not_mem_nil

/-- What is found under a key is an entry. -/
theorem mem_of_get? {fields : Fields α} {key : String} {value : α}
    (h : fields.get? key = some value) : (key, value) ∈ fields := by
  induction fields with
  | nil => cases h
  | cons e rest ih =>
    rw [get?] at h
    split at h
    · rename_i hkey
      cases h
      rw [← hkey]
      exact List.mem_cons_self
    · exact List.mem_cons_of_mem _ (ih h)

/-- Nothing is found under a key that is not there. -/
theorem get?_eq_none {fields : Fields α} {key : String} (h : key ∉ fields.keys) :
    fields.get? key = none := by
  cases hget : fields.get? key with
  | none => rfl
  | some value => exact absurd (List.mem_map_of_mem (mem_of_get? hget)) h

/-- Setting a key changes the value of that key and of no other. -/
theorem get?_insert (fields : Fields α) (key k : String) (value : α) :
    (fields.insert key value).get? k = if key = k then some value else fields.get? k := by
  induction fields with
  | nil => simp [insert, get?]
  | cons e rest ih =>
    obtain ⟨k', v'⟩ := e
    by_cases h : k' = key
    · subst h; simp only [insert, if_true, get?]; split <;> rfl
    · simp only [insert, h, if_false, get?, ih]; grind

/-- The keys stay when the values change. -/
@[simp] theorem keys_mapValues (f : α → β) (fields : Fields α) :
    (fields.mapValues f).keys = fields.keys := by
  rw [keys, mapValues, List.map_map]
  rfl

/-- Where no key is repeated, every entry is found under its key. -/
theorem get?_of_mem {fields : Fields α} (h : fields.keys.Nodup) {key : String} {value : α}
    (hmem : (key, value) ∈ fields) : fields.get? key = some value := by
  induction fields with
  | nil => cases hmem
  | cons e rest ih =>
    obtain ⟨hnot, hrest⟩ := List.nodup_cons.mp h
    rcases List.mem_cons.mp hmem with rfl | hmem
    · rw [get?, if_pos rfl]
    · have hkey : key ∈ rest.map Prod.fst := List.mem_map_of_mem hmem
      have hne : e.1 ≠ key := fun heq => hnot (heq ▸ hkey)
      rw [get?, if_neg hne, ih hrest hmem]

end Fields

end TemplatedConfig
