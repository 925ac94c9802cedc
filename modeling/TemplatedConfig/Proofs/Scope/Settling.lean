/-
# Giving a value to an unknown variable settles results and disturbs none

A variable may be bound to the mark while its value is not known yet.  This file compares
evaluation before and after such variables get values: `Bindings.SettledBy b b'` says that `b'`
binds the same names and differs from `b` only at names that `b` binds to the mark.

* What was known stays the same.
* What was a fault stays a fault, though possibly another one: a fault that stood behind an
  unknown operand may now come later than a new one.
* What was unknown may become anything.

The three cases are the constructors of `SettledBy Known r r'`, with `Known` for what counts as
known in a result.  The relation is closed under the two ways in which evaluation combines
results, a pair of operands of which both are evaluated (`SettledBy.pair`) and a step that is
not carried out on an unknown operand (`SettledBy.bind`).  The evaluator is built from these
two, so `eval_settledBy` is one case for each constructor.  It would fail for an evaluator that
skips an operand after an unknown one.

Main statement: `resolving_unknowns_is_monotone`.
-/
import TemplatedConfig.Proofs.Results
import TemplatedConfig.Proofs.Traversal.Order

namespace TemplatedConfig

/-! ## 1. The relation on bindings and on results -/

/-- `b'` gives values to some of the variables that `b` leaves unknown, and changes nothing
else. -/
structure Bindings.SettledBy (b b' : Bindings) : Prop where
  contains_eq : ∀ name, b.contains name = b'.contains name
  get?_eq_or : ∀ name, b.get? name = b'.get? name ∨ b.get? name = some Value.unknown

/-- The outcome is a value. -/
def Outcome.IsKnown (outcome : Outcome) : Prop := ∃ v, outcome = .known v

@[simp] theorem Outcome.isKnown_known (v : Value) : (known v).IsKnown := ⟨v, rfl⟩

@[simp] theorem Outcome.not_isKnown_unknown : ¬ unknown.IsKnown := fun ⟨_, h⟩ => nomatch h

/-- The result `r'` keeps `r` if `r` is known, is a fault if `r` is one, and is any result if
`r` is not known. -/
inductive SettledBy {α : Type} (Known : α → Prop) : Except Fault α → Except Fault α → Prop where
  | known {a : α} : Known a → SettledBy Known (.ok a) (.ok a)
  | unknown {a : α} {r : Except Fault α} : ¬ Known a → SettledBy Known (.ok a) r
  | fault {e e' : Fault} : SettledBy Known (.error e) (.error e')

namespace SettledBy

variable {α β : Type} {P : α → Prop} {Q : β → Prop}

theorem refl (P : α → Prop) (r : Except Fault α) : SettledBy P r r := by
  cases r with
  | error e => exact .fault
  | ok a =>
    by_cases ha : P a
    · exact .known ha
    · exact .unknown ha

/-- A known result is kept. -/
theorem eq_ok {r r' : Except Fault α} (h : SettledBy P r r') {a : α} (hr : r = .ok a)
    (ha : P a) : r' = .ok a := by
  cases h with
  | known _ => exact hr
  | unknown hna => cases hr; exact absurd ha hna
  | fault => cases hr

/-- A fault stays a fault. -/
theorem exists_error {r r' : Except Fault α} (h : SettledBy P r r')
    (hr : ∃ e, r = .error e) : ∃ e', r' = .error e' := by
  obtain ⟨e, rfl⟩ := hr
  cases h
  exact ⟨_, rfl⟩

/-- **Two operands, both evaluated**, the second also if the first is unknown.  The pair is
known if both are. -/
theorem pair {x x' : Except Fault α} {y y' : Except Fault β} (hx : SettledBy P x x')
    (hy : SettledBy Q y y') :
    SettledBy (fun p : α × β => P p.1 ∧ Q p.2)
      (do return (← x, ← y)) (do return (← x', ← y')) := by
  cases hx with
  | fault => exact .fault
  | known ha =>
    cases hy with
    | fault => exact .fault
    | known hb => exact .known ⟨ha, hb⟩
    | unknown hb => exact .unknown fun h => hb h.2
  | @unknown a x' ha =>
    cases hy with
    | known _ => exact .unknown fun h => ha h.1
    | unknown _ => exact .unknown fun h => ha h.1
    | fault =>
      -- here the strictness counts: the second operand is a fault whatever the first became
      cases x' with
      | error e => exact .fault
      | ok a' => exact .fault

/-- **A step on an operand** that is not carried out if the operand is unknown. -/
theorem bind {x x' : Except Fault α} {f : α → Except Fault β} (hx : SettledBy P x x')
    (hf : ∀ a, ¬ P a → ∃ b, f a = .ok b ∧ ¬ Q b) : SettledBy Q (x.bind f) (x'.bind f) := by
  cases hx with
  | fault => exact .fault
  | known _ => exact refl Q _
  | @unknown a x' ha =>
    obtain ⟨b, hb, hnb⟩ := hf a ha
    change SettledBy Q (f a) _
    rw [hb]
    exact .unknown hnb

/-- Adding a path to the faults changes nothing. -/
theorem mapError (f : Fault → Fault) {r r' : Except Fault α} (h : SettledBy P r r') :
    SettledBy P (r.mapError f) (r'.mapError f) := by
  cases h with
  | known ha => exact .known ha
  | unknown ha => exact .unknown ha
  | fault => exact .fault

/-- A list is known if all its members are. -/
theorem cons {x x' : Except Fault α} {y y' : Except Fault (List α)} (hx : SettledBy P x x')
    (hy : SettledBy (fun as => ∀ a ∈ as, P a) y y') :
    SettledBy (fun as => ∀ a ∈ as, P a)
      (do return (← x) :: (← y)) (do return (← x') :: (← y')) := by
  have hcons : ∀ (x : Except Fault α) (y : Except Fault (List α)),
      (do return (← x) :: (← y))
        = (do return (← x, ← y) : Except Fault (α × List α)).bind fun p => .ok (p.1 :: p.2) := by
    intro x y
    cases x <;> cases y <;> rfl
  rw [hcons, hcons]
  exact (hx.pair hy).bind fun p hp => ⟨_, rfl, fun hall => hp (List.forall_mem_cons.mp hall)⟩

/-- Several actions, one after another. -/
theorem mapM {γ : Type} {f f' : γ → Except Fault α} (l : List γ)
    (h : ∀ c ∈ l, SettledBy P (f c) (f' c)) :
    SettledBy (fun as => ∀ a ∈ as, P a) (l.mapM f) (l.mapM f') := by
  induction l with
  | nil => exact refl _ _
  | cons c rest ih =>
    rw [List.mapM_cons, List.mapM_cons]
    exact (h c List.mem_cons_self).cons (ih fun c hc => h c (List.mem_cons_of_mem _ hc))

end SettledBy

/-! ## 2. Evaluation -/

namespace Scope

/-- Two operands are used through their pair. -/
theorem withBoth_eq_bind (a b : Except Fault Outcome) (use : Value → Value → Except Fault Outcome) :
    withBoth a b use
      = (do return (← a, ← b) : Except Fault (Outcome × Outcome)).bind fun p =>
        match p with
        | (.known l, .known r) => use l r
        | _ => .ok .unknown := by
  cases a with
  | error e => rfl
  | ok l =>
    cases b with
    | error e => rfl
    | ok r => cases l <;> cases r <;> rfl

/-- An operation on two operands is settled by settling the operands. -/
theorem withBoth_settledBy {a a' b b' : Except Fault Outcome}
    (use : Value → Value → Except Fault Outcome) (ha : SettledBy Outcome.IsKnown a a')
    (hb : SettledBy Outcome.IsKnown b b') :
    SettledBy Outcome.IsKnown (withBoth a b use) (withBoth a' b' use) := by
  rw [withBoth_eq_bind, withBoth_eq_bind]
  refine (ha.pair hb).bind ?_
  rintro ⟨l, r⟩ hlr
  refine ⟨.unknown, ?_, Outcome.not_isKnown_unknown⟩
  cases l with
  | unknown => rfl
  | known l =>
    cases r with
    | unknown => rfl
    | known r => exact absurd ⟨Outcome.isKnown_known l, Outcome.isKnown_known r⟩ hlr

/-- Arguments of which one is unknown are not passed on. -/
theorem allKnown?_eq_none {outcomes : List Outcome} (h : ¬ ∀ o ∈ outcomes, o.IsKnown) :
    allKnown? outcomes = none := by
  induction outcomes with
  | nil => simp at h
  | cons o rest ih =>
    cases o with
    | unknown => rfl
    | known v =>
      have hrest : ¬ ∀ o ∈ rest, o.IsKnown := fun hall =>
        h (List.forall_mem_cons.mpr ⟨Outcome.isKnown_known v, hall⟩)
      rw [allKnown?, ih hrest]
      rfl

/-- Texts of which one is missing are not put together. -/
theorem joinTexts?_eq_none {texts : List (Option String)} (h : ¬ ∀ t ∈ texts, t.isSome) :
    joinTexts? texts = none := by
  induction texts with
  | nil => simp at h
  | cons t rest ih =>
    cases t with
    | none => rfl
    | some text =>
      have hrest : ¬ ∀ t ∈ rest, t.isSome := fun hall =>
        h (List.forall_mem_cons.mpr ⟨rfl, hall⟩)
      rw [joinTexts?, ih hrest]
      rfl

variable {b b' : Bindings} {functions : Registry}

/-- A variable that gets a value goes from unknown to known, and no other changes. -/
theorem lookup_settledBy (h : b.SettledBy b') (key : String) :
    SettledBy Outcome.IsKnown (((mk b functions).lookup key).map .ofValue)
      (((mk b' functions).lookup key).map .ofValue) := by
  cases hkey : Reference.ofKey key with
  | error e =>
    rw [lookup_of_malformed hkey, lookup_of_malformed hkey]
    exact .fault
  | ok reference =>
    rw [lookup_of_ofKey hkey, lookup_of_ofKey hkey]
    rcases h.get?_eq_or reference.name with heq | hmark
    · rw [heq]
      exact .refl _ _
    · simp only [hmark]
      exact .unknown Outcome.not_isKnown_unknown

mutual

/-- **Evaluation is settled by settling the bindings.** -/
theorem eval_settledBy (h : b.SettledBy b') : ∀ e : Expr,
    SettledBy Outcome.IsKnown ((mk b functions).eval e) ((mk b' functions).eval e)
  | .literal _ => .refl _ _
  | .variable name => by
    rw [eval, eval]
    exact lookup_settledBy h name
  | .index target key => by
    rw [eval, eval]
    exact withBoth_settledBy _ (eval_settledBy h target) (eval_settledBy h key)
  | .call function arguments => by
    rw [eval, eval]
    refine (evalAll_settledBy h arguments).bind fun outcomes houtcomes => ?_
    exact ⟨.unknown, by rw [callWith, allKnown?_eq_none houtcomes], Outcome.not_isKnown_unknown⟩
  | .arithmetic op left right => by
    rw [eval, eval]
    exact withBoth_settledBy _ (eval_settledBy h left) (eval_settledBy h right)
  | .negate operand => by
    rw [eval, eval]
    refine (eval_settledBy h operand).bind fun outcome houtcome => ?_
    cases outcome with
    | known v => exact absurd (Outcome.isKnown_known v) houtcome
    | unknown => exact ⟨.unknown, rfl, houtcome⟩

theorem evalAll_settledBy (h : b.SettledBy b') : ∀ es : List Expr,
    SettledBy (fun outcomes => ∀ o ∈ outcomes, o.IsKnown)
      ((mk b functions).evalAll es) ((mk b' functions).evalAll es)
  | [] => .refl _ _
  | e :: rest => by
    rw [evalAll, evalAll]
    exact (eval_settledBy h e).cons (evalAll_settledBy h rest)

end

/-- One part of a template is settled with the expression in it. -/
theorem partText_settledBy (h : b.SettledBy b') (part : Part) :
    SettledBy (fun text : Option String => text.isSome)
      ((mk b functions).partText part) ((mk b' functions).partText part) := by
  cases part with
  | literal text => exact .refl _ _
  | interpolation e =>
    refine (eval_settledBy h e).bind fun outcome houtcome => ?_
    cases outcome with
    | known v => exact absurd (Outcome.isKnown_known v) houtcome
    | unknown => exact ⟨none, rfl, by simp⟩

/-- **A template is settled by settling the bindings.** -/
theorem fill_settledBy (h : b.SettledBy b') (t : Template) :
    SettledBy Outcome.IsKnown ((mk b functions).fill t) ((mk b' functions).fill t) := by
  unfold fill
  split
  · exact eval_settledBy h _
  · refine (SettledBy.mapM t.parts fun part _ => partText_settledBy h part).bind
      fun texts htexts => ?_
    exact ⟨.unknown, by rw [joinTexts?_eq_none htexts]; rfl, Outcome.not_isKnown_unknown⟩

end Scope

/-! ## 3. Bodies -/

/-- `r'` fails if `r` does, and otherwise reports no path that `r` does not report. -/
def ReportsNoMore (r r' : Except Fault (List String)) : Prop :=
  ((∃ e, r = .error e) → ∃ e', r' = .error e')
    ∧ ∀ paths paths', r = .ok paths → r' = .ok paths' → paths'.Sublist paths

namespace Traversal

/-- One outcome reports one path at most. -/
theorem unknownPaths_ofOutcome_sublist (path : String) (outcome : Outcome) :
    (ofOutcome path outcome).unknownPaths.Sublist [path] := by
  cases outcome with
  | unknown => exact List.Sublist.refl _
  | known v =>
    rw [ofOutcome]
    split
    · exact List.Sublist.refl _
    · exact List.nil_sublist _

/-- A site whose outcome is settled reports no more than before, and so does a walk that begins
with it. -/
theorem reportsNoMore_cons {path : String} {x x' : Except Fault Outcome}
    {y y' : Except Fault (List String)} (hx : SettledBy Outcome.IsKnown x x')
    (hy : ReportsNoMore y y') :
    ReportsNoMore (do return (ofOutcome path (← x)).unknownPaths ++ (← y))
      (do return (ofOutcome path (← x')).unknownPaths ++ (← y')) := by
  cases x' with
  | error e' => exact ⟨fun _ => ⟨e', rfl⟩, fun _ _ _ h => nomatch h⟩
  | ok outcome' =>
    cases y' with
    | error e' => exact ⟨fun _ => ⟨e', rfl⟩, fun _ _ _ h => nomatch h⟩
    | ok rest' =>
      cases y with
      | error e =>
        obtain ⟨e', he'⟩ := hy.1 ⟨e, rfl⟩
        cases he'
      | ok rest =>
        have hrest : rest'.Sublist rest := hy.2 rest rest' rfl rfl
        cases hx with
        | known _ =>
          refine ⟨fun ⟨_, h⟩ => (nomatch h), fun paths paths' h h' => ?_⟩
          cases h
          cases h'
          exact hrest.append_left _
        | @unknown outcome _ ha =>
          cases outcome with
          | known v => exact absurd (Outcome.isKnown_known v) ha
          | unknown =>
            refine ⟨fun ⟨_, h⟩ => (nomatch h), fun paths paths' h h' => ?_⟩
            cases h
            cases h'
            exact (unknownPaths_ofOutcome_sublist path outcome').append hrest

/-- **The passes over a tree with settled callbacks**: the second fails if the first does, and
reports no more paths. -/
theorem reportsNoMore_reports {eval eval' : String → Template → Except Fault Outcome}
    (h : ∀ path t, SettledBy Outcome.IsKnown (eval path t) (eval' path t)) (sites : List Site) :
    ReportsNoMore (reports (m := Id) eval sites) (reports (m := Id) eval' sites) := by
  induction sites with
  | nil => exact ⟨id, fun _ _ h h' => by cases h; cases h'; exact List.Sublist.refl _⟩
  | cons site rest ih =>
    have hsite : SettledBy Outcome.IsKnown (visitSite (m := Id) eval site)
        (visitSite (m := Id) eval' site) := by
      rw [visitSite_pure, visitSite_pure]
      cases Template.parse site.source with
      | error fault => exact .fault
      | ok template => exact (h site.path template).mapError _
    rw [reports_cons_pure, reports_cons_pure]
    exact reportsNoMore_cons hsite ih

end Traversal

/-- **Binding more variables changes no known result, cures no fault and adds no unresolved
path.**  Let `b'` give values to some of the variables that `b` leaves unknown.  A template that
has a value under `b` has the same value under `b'`, and one that fails under `b` fails under
`b'`.  A body that cannot be resolved under `b` cannot be resolved under `b'`, and where both
resolve, the paths reported under `b'` are among those reported under `b`, in the same order. -/
theorem resolving_unknowns_is_monotone (functions : Registry) {b b' : Bindings}
    (h : b.SettledBy b') :
    (∀ t : Template,
      (∀ v, Scope.fill ⟨b, functions⟩ t = .ok (.known v) →
        Scope.fill ⟨b', functions⟩ t = .ok (.known v))
      ∧ ((∃ e, Scope.fill ⟨b, functions⟩ t = .error e) →
        ∃ e', Scope.fill ⟨b', functions⟩ t = .error e'))
    ∧ ∀ body : Body,
      ((∃ e, body.resolveIn ⟨b, functions⟩ = .error e) →
        ∃ e', body.resolveIn ⟨b', functions⟩ = .error e')
      ∧ ∀ r r', body.resolveIn ⟨b, functions⟩ = .ok r → body.resolveIn ⟨b', functions⟩ = .ok r' →
        r'.unknownPaths.Sublist r.unknownPaths := by
  have hfill : ∀ t, SettledBy Outcome.IsKnown (Scope.fill ⟨b, functions⟩ t)
      (Scope.fill ⟨b', functions⟩ t) := Scope.fill_settledBy h
  refine ⟨fun t => ?_, fun body => ?_⟩
  · exact ⟨fun v hv => (hfill t).eq_ok hv (Outcome.isKnown_known v), (hfill t).exists_error⟩
  · have hreports := Traversal.reportsNoMore_reports (fun _ => hfill) body.raw.sites
    rw [← Body.unknownPaths_resolveIn, ← Body.unknownPaths_resolveIn] at hreports
    constructor
    · rintro ⟨e, he⟩
      obtain ⟨e', he'⟩ := hreports.1 ⟨e, map_eq_error_iff.mpr he⟩
      exact ⟨e', map_eq_error_iff.mp he'⟩
    · intro r r' hr hr'
      exact hreports.2 _ _ (by rw [hr]; rfl) (by rw [hr']; rfl)

namespace Example

/-- Neither the region nor the zone is known yet. -/
def unsettled : Bindings := ⟨[("region", Value.unknown), ("zone", Value.unknown)]⟩

/-- The region has become known. -/
def settled : Bindings := ⟨[("region", .string "eu"), ("zone", Value.unknown)]⟩

theorem unsettled_settledBy : unsettled.SettledBy settled where
  contains_eq name := by
    simp only [Bindings.contains, Bindings.get?, unsettled, settled, Fields.get?]
    split
    · rfl
    · rfl
  get?_eq_or name := by
    simp only [Bindings.get?, unsettled, settled, Fields.get?]
    split
    · exact .inr rfl
    · exact .inl rfl

/-- A place, by its region and its zone. -/
def place : Body where
  key := "package.web"
  raw := .sequence [.string "${var.region}", .string "${var.zone}"]
  templates := []
  references := []

/-- Two unknown items become one. -/
theorem one_path_remains :
    ∃ r r', place.resolveIn ⟨unsettled, Registry.builtins⟩ = .ok r
      ∧ place.resolveIn ⟨settled, Registry.builtins⟩ = .ok r'
      ∧ r.unknownPaths = ["[0]", "[1]"] ∧ r'.unknownPaths = ["[1]"]
      ∧ r'.unknownPaths.Sublist r.unknownPaths := by
  have hregion : Template.isTemplate "${var.region}" = true := by decide +kernel
  have hzone : Template.isTemplate "${var.zone}" = true := by decide +kernel
  have hparse : Template.parse "${var.region}"
      = .ok ⟨"${var.region}", [.interpolation (.variable "var.region")]⟩ := by
    with_unfolding_all rfl
  have hparse' : Template.parse "${var.zone}"
      = .ok ⟨"${var.zone}", [.interpolation (.variable "var.zone")]⟩ := by
    with_unfolding_all rfl
  have hr : place.resolveIn ⟨unsettled, Registry.builtins⟩
      = .ok ⟨.sequence [Value.unknown, Value.unknown], ["[0]", "[1]"]⟩ := by
    simp only [Body.resolveIn, place, Traversal.substitute, Traversal.substituteAt,
      Traversal.substituteItems, hregion, hzone, Traversal.visitSite_pure, hparse, hparse']
    rfl
  have hr' : place.resolveIn ⟨settled, Registry.builtins⟩
      = .ok ⟨.sequence [.string "eu", Value.unknown], ["[1]"]⟩ := by
    simp only [Body.resolveIn, place, Traversal.substitute, Traversal.substituteAt,
      Traversal.substituteItems, hregion, hzone, Traversal.visitSite_pure, hparse, hparse']
    rfl
  exact ⟨_, _, hr, hr', rfl, rfl,
    ((resolving_unknowns_is_monotone _ unsettled_settledBy).2 place).2 _ _ hr hr'⟩

end Example

end TemplatedConfig
