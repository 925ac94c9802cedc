/-
# Results that may be faults

What is known about the parts of a computation when its result is known.  A result comes from
results (`exists_of_bind_eq_ok`, `mapM_eq_ok_iff`), and a fault comes from one place, the first that
fails (`mapM_eq_error_iff`), and is not lost on the way (`bind_error`, `mapM_error`).
-/

namespace TemplatedConfig

variable {ε α β : Type}

/-! ## 1. One step -/

/-- A mapped result comes from a result. -/
theorem exists_of_map_eq_ok {f : α → β} {x : Except ε α} {b : β} (h : x.map f = .ok b) :
    ∃ a, x = .ok a ∧ f a = b := by
  cases x with
  | error e => cases h
  | ok a =>
    cases h
    exact ⟨a, rfl, rfl⟩

/-- A mapped result is the image of a result. -/
theorem map_eq_ok_iff {f : α → β} {x : Except ε α} {b : β} :
    x.map f = .ok b ↔ ∃ a, x = .ok a ∧ f a = b := by
  constructor
  · exact exists_of_map_eq_ok
  · rintro ⟨a, rfl, rfl⟩
    rfl

/-- There is a mapped result if there is a result. -/
theorem exists_map_eq_ok_iff {f : α → β} {x : Except ε α} :
    (∃ b, x.map f = .ok b) ↔ ∃ a, x = .ok a := by
  cases x <;> simp [Except.map]

/-- A mapped result fails as the result does. -/
theorem map_eq_error_iff {f : α → β} {x : Except ε α} {e : ε} :
    x.map f = .error e ↔ x = .error e := by
  cases x <;> simp [Except.map]

/-- What is said about a fault makes no difference to a result. -/
theorem mapError_eq_ok_iff {δ : Type} {f : ε → δ} {x : Except ε α} {a : α} :
    x.mapError f = .ok a ↔ x = .ok a := by
  cases x with
  | error e =>
    constructor
    · intro h
      cases h
    · intro h
      cases h
  | ok b =>
    -- The two sides differ in the type of faults only.
    constructor
    · rintro ⟨⟩
      rfl
    · rintro ⟨⟩
      rfl

/-- The result of a step comes from a result before it. -/
theorem exists_of_bind_eq_ok {f : α → Except ε β} {x : Except ε α} {b : β}
    (h : x >>= f = .ok b) : ∃ a, x = .ok a ∧ f a = .ok b := by
  cases x with
  | error e => cases h
  | ok a => exact ⟨a, rfl, h⟩

/-- A step gives a result exactly if there is one before it that leads there. -/
theorem bind_eq_ok_iff {f : α → Except ε β} {x : Except ε α} {b : β} :
    x >>= f = .ok b ↔ ∃ a, x = .ok a ∧ f a = .ok b := by
  constructor
  · exact exists_of_bind_eq_ok
  · rintro ⟨a, rfl, h⟩
    exact h

/-- A check has to pass before what follows it counts. -/
theorem check_bind_eq_ok_iff {check : Except ε Unit} {next : Except ε β} {b : β} :
    (check >>= fun _ => next) = .ok b ↔ check = .ok () ∧ next = .ok b := by
  rw [bind_eq_ok_iff]
  constructor
  · rintro ⟨_, h⟩
    exact h
  · intro h
    exact ⟨(), h⟩

/-- What gives no result is a fault. -/
theorem exists_error_of_not_ok {x : Except ε α} (h : ∀ a, x ≠ .ok a) : ∃ e, x = .error e := by
  cases x with
  | error e => exact ⟨e, rfl⟩
  | ok a => exact (h a rfl).elim

/-- A step after a fault is a fault. -/
theorem bind_error {f : α → Except ε β} {x : Except ε α} (h : ∃ e, x = .error e) :
    ∃ e, x.bind f = .error e := by
  obtain ⟨e, rfl⟩ := h
  exact ⟨e, rfl⟩

/-- The error of what gives no result. -/
def error? : Except ε α → Option ε
  | .error e => some e
  | .ok _ => none

@[simp] theorem error?_eq_some_iff {x : Except ε α} {e : ε} : error? x = some e ↔ x = .error e := by
  cases x <;> simp [error?]

@[simp] theorem error?_eq_none_iff {x : Except ε α} : error? x = none ↔ ∃ a, x = .ok a := by
  cases x <;> simp [error?]

/-- A result that is turned into another has the same error. -/
@[simp] theorem error?_map {f : α → β} (x : Except ε α) : error? (x.map f) = error? x := by
  cases x <;> rfl

@[simp] theorem error?_mapError {δ : Type} {g : ε → δ} (x : Except ε α) :
    error? (x.mapError g) = (error? x).map g := by
  cases x <;> rfl

/-! ## 2. Steps in a row -/

variable {f : α → Except ε β} {l : List α}

/-- Actions that give the same for each member give the same for the list. -/
theorem mapM_congr {g : α → Except ε β} (h : ∀ a ∈ l, f a = g a) : l.mapM f = l.mapM g := by
  induction l with
  | nil => rfl
  | cons a rest ih =>
    rw [List.mapM_cons, List.mapM_cons, h a List.mem_cons_self,
      ih fun b hb => h b (List.mem_cons_of_mem _ hb)]

/-- **A list of actions gives a list of results** exactly if they are what the actions give, one
by one. -/
theorem mapM_eq_ok_iff {results : List β} : l.mapM f = .ok results ↔ l.map f = results.map .ok := by
  induction l generalizing results with
  | nil =>
    rw [List.mapM_nil, List.map_nil, eq_comm (a := []), List.map_eq_nil_iff]
    exact Except.ok.injEq [] results ▸ eq_comm
  | cons a rest ih =>
    rw [List.mapM_cons, List.map_cons]
    constructor
    · intro h
      obtain ⟨b, ha, h⟩ := exists_of_bind_eq_ok h
      obtain ⟨bs, hrest, h⟩ := exists_of_bind_eq_ok h
      cases h
      rw [ha, ih.mp hrest, List.map_cons]
    · intro h
      cases results with
      | nil => cases h
      | cons b bs =>
        obtain ⟨ha, hrest⟩ := List.cons.inj h
        rw [ha, ih.mpr hrest]
        rfl

/-- A list of actions gives a result for the first and results for the rest. -/
theorem mapM_cons_eq_ok_iff {a : α} {results : List β} :
    (a :: l).mapM f = .ok results
      ↔ ∃ b bs, f a = .ok b ∧ l.mapM f = .ok bs ∧ results = b :: bs := by
  rw [List.mapM_cons, bind_eq_ok_iff]
  constructor
  · rintro ⟨b, hb, h⟩
    obtain ⟨bs, hbs, h⟩ := exists_of_bind_eq_ok h
    exact ⟨b, bs, hb, hbs, (Except.ok.inj h).symm⟩
  · rintro ⟨b, bs, hb, hbs, rfl⟩
    exact ⟨b, hb, by rw [hbs]; rfl⟩

/-- What an action and its result have in common is in common to the lists. -/
theorem map_eq_map_of_mapM_eq_ok {γ : Type} {k : α → γ} {g : β → γ} {results : List β}
    (hf : ∀ a b, f a = .ok b → k a = g b) (h : l.mapM f = .ok results) :
    l.map k = results.map g := by
  induction l generalizing results with
  | nil =>
    cases h
    rfl
  | cons a rest ih =>
    rw [List.mapM_cons] at h
    obtain ⟨b, ha, h⟩ := exists_of_bind_eq_ok h
    obtain ⟨bs, hrest, h⟩ := exists_of_bind_eq_ok h
    cases h
    rw [List.map_cons, List.map_cons, hf a b ha, ih hrest]

/-- There are as many results as actions. -/
theorem length_of_mapM_eq_ok {results : List β} (h : l.mapM f = .ok results) :
    results.length = l.length := by
  simpa using (congrArg List.length (mapM_eq_ok_iff.mp h)).symm

/-- What a list of actions gives: one result for each member, and none besides. -/
theorem mem_of_mapM_eq_ok {results : List β} (h : l.mapM f = .ok results) :
    (∀ a ∈ l, ∃ b ∈ results, f a = .ok b) ∧ ∀ b ∈ results, ∃ a ∈ l, f a = .ok b := by
  induction l generalizing results with
  | nil =>
    cases h
    simp
  | cons a rest ih =>
    rw [List.mapM_cons] at h
    obtain ⟨b, ha, h⟩ := exists_of_bind_eq_ok h
    obtain ⟨bs, hrest, h⟩ := exists_of_bind_eq_ok h
    cases h
    obtain ⟨hto, hfrom⟩ := ih hrest
    constructor
    · intro a' ha'
      rcases List.mem_cons.mp ha' with rfl | ha'
      · exact ⟨b, List.mem_cons_self, ha⟩
      · obtain ⟨b', hb', hf⟩ := hto a' ha'
        exact ⟨b', List.mem_cons_of_mem _ hb', hf⟩
    · intro b' hb'
      rcases List.mem_cons.mp hb' with rfl | hb'
      · exact ⟨a, List.mem_cons_self, ha⟩
      · obtain ⟨a', ha', hf⟩ := hfrom b' hb'
        exact ⟨a', List.mem_cons_of_mem _ ha', hf⟩

/-- **A list of actions fails as the first action that fails.** -/
theorem mapM_eq_error_iff {e : ε} :
    l.mapM f = .error e ↔ l.findSome? (fun a => error? (f a)) = some e := by
  induction l with
  | nil => exact ⟨fun h => (nomatch h), fun h => (nomatch h)⟩
  | cons a rest ih =>
    rw [List.mapM_cons, List.findSome?_cons]
    cases f a with
    | error e' =>
      exact ⟨fun h => congrArg some (Except.error.inj h), fun h => congrArg _ (Option.some.inj h)⟩
    | ok b =>
      show (rest.mapM f >>= fun bs => .ok (b :: bs)) = .error e ↔ _
      rw [error?, ← ih]
      cases rest.mapM f with
      | error e' => exact Iff.rfl
      | ok bs => exact ⟨fun h => (nomatch h), fun h => (nomatch h)⟩

/-- The first action that fails stands behind others that give results. -/
theorem findSome?_error?_eq_some_iff {e : ε} :
    l.findSome? (fun a => error? (f a)) = some e
      ↔ ∃ before a after, l = before ++ a :: after
        ∧ (∀ earlier ∈ before, ∃ b, f earlier = .ok b) ∧ f a = .error e := by
  simp only [List.findSome?_eq_some_iff, error?_eq_some_iff, error?_eq_none_iff, and_comm]

/-- A list of actions that fails contains one that fails in the same way. -/
theorem exists_of_mapM_eq_error {e : ε} (h : l.mapM f = .error e) : ∃ a ∈ l, f a = .error e := by
  obtain ⟨before, a, after, rfl, -, ha⟩ :=
    findSome?_error?_eq_some_iff.mp (mapM_eq_error_iff.mp h)
  exact ⟨a, List.mem_append_right _ List.mem_cons_self, ha⟩

/-- A list of actions of which one fails is a fault. -/
theorem mapM_error {a : α} (ha : a ∈ l) (h : ∃ e, f a = .error e) :
    ∃ e, l.mapM f = .error e := by
  cases hl : l.mapM f with
  | error e => exact ⟨e, rfl⟩
  | ok results =>
    obtain ⟨e, he⟩ := h
    obtain ⟨b, -, hb⟩ := (mem_of_mapM_eq_ok hl).1 a ha
    rw [he] at hb
    cases hb

/-- **A list of actions gives results** if each action does, and only then. -/
theorem exists_mapM_eq_ok_iff :
    (∃ results, l.mapM f = .ok results) ↔ ∀ a ∈ l, ∃ b, f a = .ok b := by
  constructor
  · rintro ⟨results, h⟩ a ha
    obtain ⟨b, -, hb⟩ := (mem_of_mapM_eq_ok h).1 a ha
    exact ⟨b, hb⟩
  · intro h
    cases hl : l.mapM f with
    | ok results => exact ⟨results, rfl⟩
    | error e =>
      obtain ⟨a, ha, herror⟩ := exists_of_mapM_eq_error hl
      obtain ⟨b, hb⟩ := h a ha
      rw [herror] at hb
      cases hb

/-! ## 3. Checks and folds -/

/-- A row of checks passes if every check does. -/
theorem forM_eq_ok_iff {check : α → Except ε Unit} :
    l.forM check = .ok () ↔ ∀ a ∈ l, check a = .ok () := by
  induction l with
  | nil => exact ⟨fun _ _ ha => (List.not_mem_nil ha).elim, fun _ => rfl⟩
  | cons a rest ih =>
    rw [List.forall_mem_cons, ← ih]
    constructor
    · intro h
      obtain ⟨_, ha, hrest⟩ := exists_of_bind_eq_ok h
      exact ⟨ha, hrest⟩
    · rintro ⟨ha, hrest⟩
      show (check a >>= fun _ => rest.forM check) = _
      rw [ha]
      exact hrest

/-- **What every step preserves, the whole fold preserves.** -/
theorem foldlM_preserves {P : β → Prop} {step : β → α → Except ε β}
    (hstep : ∀ a ∈ l, ∀ b b', P b → step b a = .ok b' → P b') {b b' : β} (hb : P b)
    (h : l.foldlM step b = .ok b') : P b' := by
  induction l generalizing b with
  | nil =>
    cases h
    exact hb
  | cons a rest ih =>
    rw [List.foldlM_cons] at h
    obtain ⟨next, ha, hrest⟩ := exists_of_bind_eq_ok h
    exact ih (fun a' ha' => hstep a' (List.mem_cons_of_mem _ ha'))
      (hstep a List.mem_cons_self b next hb ha) hrest

end TemplatedConfig
