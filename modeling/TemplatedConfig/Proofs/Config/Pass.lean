/-
# Passes over declarations

A pass over a configuration takes a step on one declaration after another and keeps what was done
before a fault.  If it meets none, it has taken every step, so what it leaves behind is a row of
results (`stepUntilFault_eq_none_iff`, `stepGroupsUntilFault_eq_none_iff`).
`interpolate_eq_none_iff` says this of interpolation.

If it meets a fault, that is the fault of the first declaration that fails
(`snd_stepUntilFault`), and the step has been taken on those before it (`stepUntilFault_cases`,
`getElem?_stepUntilFault`).  A pass made again changes nothing more if that is so of its steps
(`stepUntilFault_idempotent`).  A pass over groups is a pass over all their members
(`stepUntilFault_flatMap`).  What a step keeps of one declaration, a pass keeps of all, wherever it
stops (`forall₂_stepUntilFault`, `forall₂_stepGroupsUntilFault`).
-/
import Mathlib.Data.List.Forall2
import TemplatedConfig.Proofs.Results
import TemplatedConfig.Config.Pass

namespace TemplatedConfig.Config

variable {α β : Type} {step : α → Except Fault α}

/-! ## 1. Passes without a fault -/

/-- **A pass without a fault** has taken a step on each element. -/
theorem stepUntilFault_eq_none_iff {l out : List α} :
    stepUntilFault step l = (out, none) ↔ l.mapM step = .ok out := by
  rw [mapM_eq_ok_iff]
  induction l generalizing out with
  | nil => simp [stepUntilFault, eq_comm]
  | cons a rest ih =>
    rw [stepUntilFault, List.map_cons]
    cases step a with
    | error fault => cases out <;> simp
    | ok b =>
      cases hrest : stepUntilFault step rest with
      | mk outs fault =>
        cases out with
        | nil => simp
        | cons b' outs' =>
          have hiff := @ih outs'
          rw [hrest, Prod.mk.injEq] at hiff
          simp only [Prod.mk.injEq, List.cons.injEq, List.map_cons, Except.ok.injEq, ← hiff,
            and_assoc]

/-- A step on each element of a group. -/
def stepGroup (step : α → Except Fault α) (group : String × List α) :
    Except Fault (String × List α) :=
  (group.2.mapM step).map fun out => (group.1, out)

/-- **A pass over groups without a fault** has taken a step on each element of each. -/
theorem stepGroupsUntilFault_eq_none_iff {groups out : Fields (List α)} :
    stepGroupsUntilFault step groups = (out, none) ↔ groups.mapM (stepGroup step) = .ok out := by
  rw [mapM_eq_ok_iff]
  induction groups generalizing out with
  | nil => simp [stepGroupsUntilFault, eq_comm]
  | cons g rest ih =>
    obtain ⟨key, group⟩ := g
    rw [stepGroupsUntilFault, List.map_cons, stepGroup]
    cases hgroup : group.mapM step with
    | error fault =>
      obtain ⟨outs, fault', hstopped⟩ : ∃ outs fault',
          stepUntilFault step group = (outs, some fault') := by
        cases hstep : stepUntilFault step group with
        | mk outs stop =>
          cases stop with
          | some fault' => exact ⟨outs, fault', rfl⟩
          | none =>
            rw [stepUntilFault_eq_none_iff, hgroup] at hstep
            cases hstep
      rw [hstopped]
      cases out <;> simp [Except.map]
    | ok results =>
      rw [stepUntilFault_eq_none_iff.mpr hgroup]
      cases hrest : stepGroupsUntilFault step rest with
      | mk outs fault =>
        cases out with
        | nil => simp
        | cons g' outs' =>
          have hiff := @ih outs'
          rw [hrest, Prod.mk.injEq] at hiff
          simp only [Except.map, Prod.mk.injEq, List.cons.injEq, List.map_cons, Except.ok.injEq,
            ← hiff, and_assoc]

/-- **Interpolation without a fault** has resolved every body, and changed nothing else. -/
theorem interpolate_eq_none_iff {c c' : Config} {bindings : Bindings} :
    c.interpolate bindings = (c', none)
      ↔ ∃ files resources, c.files.mapM (interpolateFile bindings) = .ok files
        ∧ c.resources.mapM (stepGroup (interpolateResource bindings)) = .ok resources
        ∧ c' = { c with files, resources } := by
  constructor
  · intro h
    unfold interpolate at h
    split at h
    · cases h
    · rename_i files hfiles
      split at h
      rename_i resources fault hresources
      obtain ⟨rfl, rfl⟩ := Prod.mk.inj h
      exact ⟨files, resources, stepUntilFault_eq_none_iff.mp hfiles,
        stepGroupsUntilFault_eq_none_iff.mp hresources, rfl⟩
  · rintro ⟨files, resources, hfiles, hresources, rfl⟩
    rw [interpolate, stepUntilFault_eq_none_iff.mpr hfiles]
    simp only [stepGroupsUntilFault_eq_none_iff.mpr hresources]

/-! ## 2. Passes with a fault -/

/-- **A pass meets the fault of the first element that fails.** -/
theorem snd_stepUntilFault (l : List α) :
    (stepUntilFault step l).2 = l.findSome? fun a => error? (step a) := by
  induction l with
  | nil => rfl
  | cons a rest ih =>
    rw [stepUntilFault, List.findSome?_cons]
    cases step a with
    | error fault => rfl
    | ok b => exact ih

/-- **A pass takes the step on an element** if it has taken it on all before. -/
theorem getElem?_stepUntilFault (l : List α) (place : Nat) :
    (stepUntilFault step l).1[place]?
      = l[place]?.map fun a =>
          if (l.take place).all fun earlier => (step earlier).isOk then (step a).toOption.getD a
          else a := by
  induction l generalizing place with
  | nil => rfl
  | cons a rest ih =>
    rw [stepUntilFault]
    cases hstep : step a with
    | error fault =>
      cases place with
      | zero => simp [hstep, Except.toOption]
      | succ place => simp [hstep, Except.toBool]
    | ok b =>
      cases place with
      | zero => simp [hstep, Except.toOption]
      | succ place => simpa [hstep, Except.toBool] using ih place

/-- Two passes one after the other, the second if the first meets no fault. -/
theorem stepUntilFault_append (l more : List α) :
    stepUntilFault step (l ++ more)
      = match stepUntilFault step l with
        | (out, some fault) => (out ++ more, some fault)
        | (out, none) => (out ++ (stepUntilFault step more).1, (stepUntilFault step more).2) := by
  induction l with
  | nil => rfl
  | cons a rest ih =>
    rw [List.cons_append, stepUntilFault, stepUntilFault]
    cases step a with
    | error fault => rfl
    | ok b =>
      dsimp only
      rw [ih]
      rcases stepUntilFault step rest with ⟨out, _ | fault⟩ <;> rfl

/-- **How far a pass gets**: to the end, or to the first element that fails. -/
theorem stepUntilFault_cases (step : α → Except Fault α) (l : List α) :
    (∃ results, l.mapM step = .ok results ∧ stepUntilFault step l = (results, none))
    ∨ ∃ before a after results fault, l = before ++ a :: after
      ∧ before.mapM step = .ok results ∧ step a = .error fault
      ∧ stepUntilFault step l = (results ++ a :: after, some fault) := by
  cases hl : l.mapM step with
  | ok results => exact .inl ⟨results, rfl, stepUntilFault_eq_none_iff.mpr hl⟩
  | error fault =>
    obtain ⟨before, a, after, rfl, hbefore, ha⟩ :=
      findSome?_error?_eq_some_iff.mp (mapM_eq_error_iff.mp hl)
    obtain ⟨results, hresults⟩ := exists_mapM_eq_ok_iff.mpr hbefore
    refine .inr ⟨before, a, after, results, fault, rfl, hresults, ha, ?_⟩
    rw [stepUntilFault_append, stepUntilFault_eq_none_iff.mpr hresults, stepUntilFault, ha]

/-- **A pass made again** does the same: it takes the steps again that it took, which change nothing
more, and meets the same fault. -/
theorem stepUntilFault_idempotent (h : ∀ a b, step a = .ok b → step b = .ok b) (l : List α) :
    stepUntilFault step (stepUntilFault step l).1 = stepUntilFault step l := by
  induction l with
  | nil => rfl
  | cons a rest ih =>
    rw [stepUntilFault]
    cases hstep : step a with
    | error fault =>
      show stepUntilFault step (a :: rest) = _
      rw [stepUntilFault, hstep]
    | ok b =>
      show stepUntilFault step (b :: (stepUntilFault step rest).1) = _
      rw [stepUntilFault, h a b hstep, ih]

/-! ## 3. Passes over members -/

variable {step' : β → Except Fault β}

/-- A pass goes along with a change of the elements. -/
theorem stepUntilFault_map {g : α → β} (h : ∀ a, step' (g a) = (step a).map g) (l : List α) :
    stepUntilFault step' (l.map g)
      = ((stepUntilFault step l).1.map g, (stepUntilFault step l).2) := by
  induction l with
  | nil => rfl
  | cons a rest ih =>
    rw [List.map_cons, stepUntilFault, stepUntilFault, h]
    cases step a with
    | error fault => rfl
    | ok b => exact congrArg (fun pass => (g b :: pass.1, pass.2)) ih

/-- **A pass over groups is a pass over their members.** -/
theorem stepUntilFault_flatMap {g : String → α → β}
    (h : ∀ key a, step' (g key a) = (step a).map (g key)) (groups : Fields (List α)) :
    stepUntilFault step' (groups.flatMap fun group => group.2.map (g group.1))
      = ((stepGroupsUntilFault step groups).1.flatMap fun group => group.2.map (g group.1),
          (stepGroupsUntilFault step groups).2) := by
  induction groups with
  | nil => rfl
  | cons group rest ih =>
    obtain ⟨key, members⟩ := group
    rw [List.flatMap_cons, stepUntilFault_append, stepUntilFault_map (h key), ih,
      stepGroupsUntilFault]
    rcases stepUntilFault step members with ⟨out, _ | fault⟩ <;> rfl

/-! ## 4. What a pass keeps -/

variable {γ : Type} {R : γ → α → Prop}

/-- **What a step keeps, a pass keeps**, wherever it stops. -/
theorem forall₂_stepUntilFault (hstep : ∀ origin a b, R origin a → step a = .ok b → R origin b)
    {origins : List γ} {l : List α} (h : List.Forall₂ R origins l) :
    List.Forall₂ R origins (stepUntilFault step l).1 := by
  induction h with
  | nil => exact .nil
  | cons hfirst hrest ih =>
    rw [stepUntilFault]
    split
    · exact .cons hfirst hrest
    · rename_i b hb
      exact .cons (hstep _ _ b hfirst hb) ih

/-- A group of elements has the key of the group that it comes from, and one element from each. -/
def GroupFrom (R : γ → α → Prop) (origin : String × List γ) (group : String × List α) : Prop :=
  group.1 = origin.1 ∧ List.Forall₂ R origin.2 group.2

/-- The same for a pass over groups. -/
theorem forall₂_stepGroupsUntilFault
    (hstep : ∀ origin a b, R origin a → step a = .ok b → R origin b)
    {origins : Fields (List γ)} {groups : Fields (List α)}
    (h : List.Forall₂ (GroupFrom R) origins groups) :
    List.Forall₂ (GroupFrom R) origins (stepGroupsUntilFault step groups).1 := by
  induction h with
  | nil => exact .nil
  | @cons origin group _ _ hfirst hrest ih =>
    obtain ⟨key, members⟩ := group
    have hmembers := forall₂_stepUntilFault hstep hfirst.2
    rw [stepGroupsUntilFault]
    rcases hpass : stepUntilFault step members with ⟨out, _ | fault⟩
    · rw [hpass] at hmembers
      exact .cons ⟨hfirst.1, hmembers⟩ ih
    · rw [hpass] at hmembers
      exact .cons ⟨hfirst.1, hmembers⟩ hrest

end TemplatedConfig.Config
