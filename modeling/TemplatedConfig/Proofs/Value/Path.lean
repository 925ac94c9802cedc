/-
# Paths are read as they are written

A walk over a tree writes the path of a part step by step, from the root outwards
(`Path.field`, `Path.item`), and `Path.steps` reads a path from its front.  The two agree on the
paths that can be read at all: keys are nonempty and hold none of the characters that end a key,
and positions fit a machine word (`Path.Nameable`).

Both sides are compared with one spelling: every step written as it stands behind other text, one
after another.  A path is that text without a point at its start (`toList_extendAll`), and reading
takes off one step after another (`steps_spelled`).

Main statement: `Value.atPath_extendAll`.
-/
import TemplatedConfig.Value.Path

namespace TemplatedConfig

namespace Path

/-! ## 1. Writing -/

/-- A key that a path can name. -/
def PlainKey (key : String) : Prop := key ≠ "" ∧ ∀ c ∈ key.toList, endsKey c = false

/-- A key that a path can name starts with some character. -/
theorem PlainKey.exists_cons {name : String} (h : PlainKey name) :
    ∃ c key, name.toList = c :: key :=
  List.exists_cons_of_ne_nil fun hnil => h.1 (String.toList_inj.mp hnil)

/-- A step that a path can name. -/
def Nameable : Step → Prop
  | .key name => PlainKey name
  | .index position => position < Nat.pow 2 64

/-- The path of a part of the value at `parent`. -/
def extend (parent : String) : Step → String
  | .key name => field parent name
  | .index position => item parent position

/-- The path of the part that several steps lead to. -/
def extendAll (parent : String) (steps : List Step) : String := steps.foldl extend parent

/-- A step as it is written behind other text. -/
def spelled : Step → List Char
  | .key name => '.' :: name.toList
  | .index position => '[' :: (Nat.toDigits 10 position ++ [']'])

/-- A position is written in decimal. -/
theorem toList_item (parent : String) (position : Nat) :
    (item parent position).toList = parent.toList ++ spelled (.index position) := by
  simp [item, spelled]

/-- A step is added behind a path. -/
theorem toList_extend {parent : String} (h : parent ≠ "") (step : Step) :
    (extend parent step).toList = parent.toList ++ spelled step := by
  cases step with
  | key name => simp [extend, field, h, spelled]
  | index position => exact toList_item parent position

/-- The first step is written without a point. -/
theorem toList_extend_root (step : Step) :
    (extend "" step).toList = afterPoint (spelled step) := by
  cases step with
  | key name => rfl
  | index position => exact toList_item "" position

/-- A step behind a path does not lead back to the root. -/
theorem extend_ne_root_of_ne {parent : String} (h : parent ≠ "") (step : Step) :
    extend parent step ≠ "" := by
  intro hempty
  have hlist := congrArg String.toList hempty
  rw [toList_extend h] at hlist
  exact h (String.toList_inj.mp (List.append_eq_nil_iff.mp hlist).1)

/-- A path with a step in it is nonempty. -/
theorem extend_ne_root (parent : String) {step : Step} (h : Nameable step) :
    extend parent step ≠ "" := by
  by_cases hparent : parent = ""
  · subst hparent
    intro hempty
    have hlist := congrArg String.toList hempty
    rw [toList_extend_root] at hlist
    cases step with
    | key name => exact h.1 (String.toList_inj.mp hlist)
    | index position => cases hlist
  · exact extend_ne_root_of_ne hparent step

/-- Several steps are added one after another. -/
theorem toList_extendAll_of_ne {steps : List Step} (hsteps : ∀ step ∈ steps, Nameable step)
    {parent : String} (h : parent ≠ "") :
    (extendAll parent steps).toList = parent.toList ++ steps.flatMap spelled := by
  induction steps generalizing parent with
  | nil => simp [extendAll]
  | cons step rest ih =>
    obtain ⟨hstep, hrest⟩ := List.forall_mem_cons.mp hsteps
    have hmore := ih hrest (extend_ne_root parent hstep)
    rw [toList_extend h] at hmore
    simpa [extendAll] using hmore

/-- **A path is its steps**, without a point at the start. -/
theorem toList_extendAll {steps : List Step} (hsteps : ∀ step ∈ steps, Nameable step) :
    (extendAll "" steps).toList = afterPoint (steps.flatMap spelled) := by
  cases steps with
  | nil => rfl
  | cons step rest =>
    obtain ⟨hstep, hrest⟩ := List.forall_mem_cons.mp hsteps
    have hmore := toList_extendAll_of_ne hrest (extend_ne_root "" hstep)
    rw [toList_extend_root] at hmore
    cases step <;> exact hmore

/-! ## 2. Reading -/

/-- A text that can follow a step: its end, or another step. -/
def FollowsStep (text : List Char) : Prop := ∀ c ∈ text.head?, c = '.' ∨ c = '['

theorem followsStep_spelled (steps : List Step) : FollowsStep (steps.flatMap spelled) := by
  intro c hc
  cases steps with
  | nil => cases hc
  | cons step rest =>
    cases step <;> cases hc
    · exact .inl rfl
    · exact .inr rfl

/-- A key ends where the next step begins. -/
theorem takeWhile_dropWhile_key {key rest : List Char} (hkey : ∀ c ∈ key, endsKey c = false)
    (hrest : FollowsStep rest) :
    (key ++ rest).takeWhile (!endsKey ·) = key ∧ (key ++ rest).dropWhile (!endsKey ·) = rest := by
  have hgoes : ∀ c ∈ key, (!endsKey c) = true := fun c hc => by simp [hkey c hc]
  rw [List.takeWhile_append_of_pos hgoes, List.dropWhile_append_of_pos hgoes]
  cases rest with
  | nil => simp
  | cons c rest =>
    have hends : endsKey c = true := by
      rcases hrest c rfl with rfl | rfl <;> decide
    simp [hends]

/-- A position in brackets is digits, so it has no sign and ends at the bracket. -/
theorem digits_toDigits (n : Nat) : ∀ c ∈ Nat.toDigits 10 n, c.isDigit = true :=
  fun _ hc => Nat.isDigit_of_mem_toDigits (by decide) (by decide) hc

/-- The digits of a position are read back. -/
theorem readPosition?_toDigits {n : Nat} (h : n < Nat.pow 2 64) :
    readPosition? (Nat.toDigits 10 n) = some n := by
  have hall : (Nat.toDigits 10 n).all Char.isDigit = true :=
    List.all_eq_true.mpr (digits_toDigits n)
  have hvalue : (Nat.toDigits 10 n).foldl (fun n c => 10 * n + (c.toNat - '0'.toNat)) 0 = n :=
    Nat.ofDigitChars_ten_toDigits
  unfold readPosition?
  split
  · rename_i rest hplus
    have hsign := digits_toDigits n '+' (hplus ▸ List.mem_cons_self)
    exact absurd hsign (by decide)
  · simp only [if_pos (And.intro Nat.toDigits_ne_nil hall), hvalue, if_pos h]

/-- **One step is read back**, without the point before it. -/
theorem readStep_spelled {step : Step} {rest : List Char} (h : Nameable step)
    (hrest : FollowsStep rest) :
    readStep (afterPoint (spelled step ++ rest)) = .ok (step, rest) := by
  cases step with
  | key name =>
    obtain ⟨htake, hdrop⟩ := takeWhile_dropWhile_key h.2 hrest
    obtain ⟨c, key, hname⟩ := PlainKey.exists_cons h
    have hopen : ∀ after, name.toList ++ rest ≠ '[' :: after := by
      intro after hafter
      rw [hname] at hafter
      have hc := h.2 c (hname ▸ List.mem_cons_self)
      rw [(List.cons.inj hafter).1] at hc
      exact absurd hc (by decide)
    have hclose : ∀ after, rest ≠ ']' :: after := by
      rintro after rfl
      rcases hrest ']' rfl with hc | hc <;> exact absurd hc (by decide)
    show readStep (name.toList ++ rest) = _
    unfold readStep
    split
    · rename_i after hafter
      exact absurd hafter (hopen after)
    · rw [hdrop, htake]
      split
      · rename_i after _
        exact absurd rfl (hclose after)
      · rw [String.ofList_toList]
  | index position =>
    have hinside : ∀ c ∈ Nat.toDigits 10 position, decide (c ≠ ']') = true := by
      intro c hc
      have hdigit := digits_toDigits position c hc
      refine decide_eq_true ?_
      rintro rfl
      exact absurd hdigit (by decide)
    have htext : Nat.toDigits 10 position ++ [']'] ++ rest
        = Nat.toDigits 10 position ++ ']' :: rest := by simp
    have hdrop : (Nat.toDigits 10 position ++ ']' :: rest).dropWhile (· ≠ ']') = ']' :: rest := by
      rw [List.dropWhile_append_of_pos hinside]
      simp
    have htake : (Nat.toDigits 10 position ++ ']' :: rest).takeWhile (· ≠ ']')
        = Nat.toDigits 10 position := by
      rw [List.takeWhile_append_of_pos hinside]
      simp
    show readStep ('[' :: (Nat.toDigits 10 position ++ [']'] ++ rest)) = _
    simp only [readStep, htext, hdrop, htake, readPosition?_toDigits h]

/-- A step takes up text, so a text with a step in it is not read as the end of a path. -/
theorem afterPoint_spelled_ne_nil {step : Step} {rest : List Char} (h : Nameable step) :
    afterPoint (spelled step ++ rest) ≠ [] := by
  cases step with
  | key name =>
    intro hempty
    exact h.1 (String.toList_inj.mp (List.append_eq_nil_iff.mp hempty).1)
  | index position => exact List.cons_ne_nil _ _

/-- Reading goes step by step, and only what stands after a point counts. -/
theorem steps_eq (text : List Char) :
    steps text = if afterPoint text = [] then []
      else match readStep (afterPoint text) with
        | .error cause => [.error cause]
        | .ok (step, rest) => .ok step :: steps rest := by
  rw [steps]
  split
  · rfl
  · split
    · rename_i cause herror
      rw [herror]
    · rename_i step rest hok
      rw [hok]

/-- **Written steps are read back**, one after another. -/
theorem steps_spelled {written : List Step} (hsteps : ∀ step ∈ written, Nameable step) :
    steps (written.flatMap spelled) = written.map .ok := by
  induction written with
  | nil => rw [List.flatMap_nil, steps_eq, if_pos (by rfl), List.map_nil]
  | cons step rest ih =>
    obtain ⟨hstep, hrest⟩ := List.forall_mem_cons.mp hsteps
    rw [List.flatMap_cons, steps_eq, if_neg (afterPoint_spelled_ne_nil hstep),
      readStep_spelled hstep (followsStep_spelled rest), List.map_cons, ← ih hrest]

/-- There is one point before a step, not two. -/
theorem afterPoint_afterPoint_spelled {written : List Step}
    (hsteps : ∀ step ∈ written, Nameable step) :
    afterPoint (afterPoint (written.flatMap spelled)) = afterPoint (written.flatMap spelled) := by
  cases written with
  | nil => rfl
  | cons step rest =>
    cases step with
    | key name =>
      have hplain : PlainKey name := hsteps _ List.mem_cons_self
      obtain ⟨c, key, hname⟩ := hplain.exists_cons
      have hpoint : c ≠ '.' := by
        have hc := hplain.2 c (hname ▸ List.mem_cons_self)
        rintro rfl
        exact absurd hc (by decide)
      show afterPoint (name.toList ++ rest.flatMap spelled) = name.toList ++ rest.flatMap spelled
      rw [hname]
      unfold afterPoint
      split
      · rename_i after hafter
        exact absurd (List.cons.inj hafter).1 hpoint
      · rfl
    | index position => rfl

/-- **The steps of a written path** are those it was written from. -/
theorem steps_extendAll {written : List Step} (hsteps : ∀ step ∈ written, Nameable step) :
    steps (extendAll "" written).toList = written.map .ok := by
  rw [toList_extendAll hsteps, steps_eq, afterPoint_afterPoint_spelled hsteps, ← steps_eq,
    steps_spelled hsteps]

end Path

/-! ## 3. Following -/

namespace Value

/-- The part of a value that several steps lead to. -/
def descend? : Value → List Step → Option Value
  | v, [] => some v
  | v, step :: rest => (v.child? step).bind fun w => w.descend? rest

/-- Steps that were read without a fault are followed to where they lead. -/
theorem follow_ok {v w : Value} {path : String} {steps : List Step}
    (h : v.descend? steps = some w) : v.follow path (steps.map .ok) = .ok w := by
  induction steps generalizing v with
  | nil =>
    cases h
    rfl
  | cons step rest ih =>
    obtain ⟨u, hstep, hrest⟩ := Option.bind_eq_some_iff.mp h
    rw [List.map_cons, follow, hstep]
    exact ih hrest

/-- **A written path leads where its steps lead.** -/
theorem atPath_extendAll {v w : Value} {steps : List Step}
    (hsteps : ∀ step ∈ steps, Path.Nameable step) (h : v.descend? steps = some w) :
    v.atPath (Path.extendAll "" steps) = .ok w := by
  rw [atPath, Path.steps_extendAll hsteps, follow_ok h]

/-! ## 4. Trees whose parts can be named -/

mutual

/-- Every part of the tree has a path of its own: each mapping has plain keys and repeats none,
and each sequence is short enough for a machine word to count its items. -/
def Addressable : Value → Prop
  | sequence items => items.length ≤ Nat.pow 2 64 ∧ ItemsAddressable items
  | mapping fields =>
    (Fields.keys fields).Nodup ∧ (∀ key ∈ Fields.keys fields, Path.PlainKey key)
      ∧ FieldsAddressable fields
  | _ => True

/-- The same for each of several items. -/
def ItemsAddressable : List Value → Prop
  | [] => True
  | v :: rest => v.Addressable ∧ ItemsAddressable rest

/-- The same for the value of each field. -/
def FieldsAddressable : Fields Value → Prop
  | [] => True
  | (_, v) :: rest => v.Addressable ∧ FieldsAddressable rest

end

theorem itemsAddressable_iff {items : List Value} :
    ItemsAddressable items ↔ ∀ v ∈ items, v.Addressable := by
  induction items with
  | nil => simp [ItemsAddressable]
  | cons v rest ih => rw [ItemsAddressable, ih, List.forall_mem_cons]

theorem fieldsAddressable_iff {fields : Fields Value} :
    FieldsAddressable fields ↔ ∀ e ∈ fields, e.2.Addressable := by
  induction fields with
  | nil => simp [FieldsAddressable]
  | cons e rest ih => rw [FieldsAddressable, ih, List.forall_mem_cons]

end Value

end TemplatedConfig
