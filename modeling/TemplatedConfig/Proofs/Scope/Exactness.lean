/-
# Integer arithmetic is exact or refused

Expressions of integer literals, operators and minus signs have an exact value over the whole
numbers, unless they divide by zero (`Expr.exactValue?`).  Evaluation goes over 64 bits, one
operation after another.  This file says when it arrives at the exact value: if no divisor is zero,
if the exact value of every part fits, and if no remainder is taken of the least integer by minus
one (`Expr.Computable`).  Otherwise it fails (`integers_are_exact_or_refused`).

The last of the three conditions is one that the value itself does not ask for.  The remainder in
question is zero, which fits, but the quotient that it comes with does not.  It is the only case
of its kind (`Operation.computableOn_iff`), and an expression can run into it
(`Example.remainder_of_least_is_refused`).
-/
import TemplatedConfig.Scope.Evaluation

namespace TemplatedConfig

/-! ## 1. Exact values -/

/-- The exact result of an operator on whole numbers; there is none for a division by zero.
Division goes toward zero, and the remainder has the sign of the dividend. -/
def Operator.exactResult? : Operator → Int → Int → Option Int
  | .add, l, r => some (l + r)
  | .sub, l, r => some (l - r)
  | .mul, l, r => some (l * r)
  | .div, l, r => if r = 0 then none else some (l.tdiv r)
  | .mod, l, r => if r = 0 then none else some (l.tmod r)

namespace Expr

/-- An expression of integer literals, operators and minus signs. -/
inductive IsIntegral : Expr → Prop where
  | literal (n : Int64) : IsIntegral (.literal (.integer n))
  | arithmetic {op : Operator} {left right : Expr} (hleft : IsIntegral left)
      (hright : IsIntegral right) : IsIntegral (.arithmetic op left right)
  | negate {operand : Expr} (h : IsIntegral operand) : IsIntegral (.negate operand)

/-- The value of an expression over the whole numbers. -/
def exactValue? : Expr → Option Int
  | .literal (.integer n) => some n.toInt
  | .arithmetic op left right => do op.exactResult? (← left.exactValue?) (← right.exactValue?)
  | .negate operand => operand.exactValue?.map fun n => -n
  | _ => none

/-- Evaluation over 64 bits can follow the exact value. -/
structure Computable (e : Expr) : Prop where
  /-- No divisor is zero. -/
  divisors : ∀ op left right, .arithmetic op left right ∈ e.nodes → op = .div ∨ op = .mod →
    right.exactValue? ≠ some 0
  /-- The exact value of every part fits. -/
  fits : ∀ part ∈ e.nodes, ∀ n, part.exactValue? = some n → Value.Fits n
  /-- No remainder is taken of the least integer by minus one. -/
  remainders : ∀ left right, .arithmetic .mod left right ∈ e.nodes →
    ¬ (left.exactValue? = some Int64.minValue.toInt ∧ right.exactValue? = some (-1))

end Expr

/-! ## 2. One operation -/

namespace Value

theorem fits_iff {n : Int} :
    Fits n ↔ -9223372036854775808 ≤ n ∧ n ≤ 9223372036854775807 := by
  have hmin : Int64.minValue.toInt = -9223372036854775808 := by decide
  have hmax : Int64.maxValue.toInt = 9223372036854775807 := by decide
  rw [Fits, hmin, hmax]

theorem fits_toInt (n : Int64) : Fits n.toInt :=
  fits_iff.mpr ⟨n.le_toInt, Int.le_of_lt_add_one n.toInt_lt⟩

/-- A whole number that fits is one of the integers. -/
theorem toInt_ofInt {n : Int} (h : Fits n) : (Int64.ofInt n).toInt = n := by
  obtain ⟨hlow, hhigh⟩ := fits_iff.mp h
  exact Int64.toInt_ofInt_of_le hlow (Int.lt_add_one_of_le hhigh)

end Value

namespace Operation

open Value (Fits fits_iff fits_toInt toInt_ofInt)

/-- A remainder is smaller than the divisor, and fits if that does. -/
theorem fits_tmod (l : Int) {r : Int} (hr : Fits r) (hne : r ≠ 0) : Fits (l.tmod r) := by
  have hless : (l.tmod r).natAbs < r.natAbs := by
    rw [Int.natAbs_tmod]
    exact Nat.mod_lt _ (Int.natAbs_pos.mpr hne)
  rw [fits_iff] at hr ⊢
  omega

/-- **A quotient fits**, but for that of the least integer by minus one. -/
theorem fits_tdiv_iff {l : Int} (hl : Fits l) (r : Int) :
    Fits (l.tdiv r) ↔ ¬ (l = Int64.minValue.toInt ∧ r = -1) := by
  have hmin : Int64.minValue.toInt = -9223372036854775808 := by decide
  rw [hmin]
  rw [fits_iff] at hl ⊢
  constructor
  · rintro hfits ⟨rfl, rfl⟩
    exact absurd hfits.2 (by decide)
  · intro hother
    by_cases hunit : r.natAbs ≤ 1
    · obtain rfl | rfl | rfl : r = -1 ∨ r = 0 ∨ r = 1 := by omega
      · rw [Int.tdiv_neg, Int.tdiv_one]
        omega
      · rw [Int.tdiv_zero]
        decide
      · rw [Int.tdiv_one]
        exact hl
    · have hhalf : (l.tdiv r).natAbs ≤ l.natAbs / 2 := by
        rw [Int.natAbs_tdiv]
        exact Nat.div_le_div_left (by omega) (by decide)
      omega

/-- An operator on two integers that has a result, which evaluation over 64 bits can follow. -/
structure ComputableOn (op : Operator) (l r : Int) : Prop where
  divisor : op = .div ∨ op = .mod → r ≠ 0
  fits : ∀ n, op.exactResult? l r = some n → Fits n
  remainder : op = .mod → ¬ (l = Int64.minValue.toInt ∧ r = -1)

/-- The exact result is the one that the operator computes, if it does not divide by zero. -/
theorem exactResult?_eq {op : Operator} {l r : Int} (h : op = .div ∨ op = .mod → r ≠ 0) :
    op.exactResult? l r = some (exact op l r) := by
  cases op with
  | div => exact if_neg (h (.inl rfl))
  | mod => exact if_neg (h (.inr rfl))
  | _ => rfl

theorem divides_iff {op : Operator} : divides op = true ↔ op = .div ∨ op = .mod := by
  cases op <;> simp [divides]

/-- **What an operator checks** is that its result can be computed. -/
theorem computableOn_iff {op : Operator} {l r : Int64} :
    ComputableOn op l.toInt r.toInt
      ↔ ¬ (divides op = true ∧ r = 0) ∧ Fits (critical op l.toInt r.toInt) := by
  have hzero : r = 0 ↔ r.toInt = 0 := by
    rw [← Int64.toInt_inj]
    rfl
  rw [hzero, not_and, divides_iff]
  constructor
  · intro h
    refine ⟨h.divisor, ?_⟩
    have hresult := h.fits _ (exactResult?_eq h.divisor)
    cases op with
    | mod => exact (fits_tdiv_iff (fits_toInt l) _).mpr (h.remainder rfl)
    | _ => exact hresult
  · rintro ⟨hdivisor, hcritical⟩
    refine ⟨hdivisor, fun n hn => ?_, fun hmod => ?_⟩
    · rw [exactResult?_eq hdivisor] at hn
      obtain rfl := Option.some.inj hn
      cases op with
      | mod => exact fits_tmod _ (fits_toInt r) (hdivisor (.inr rfl))
      | _ => exact hcritical
    · subst hmod
      exact (fits_tdiv_iff (fits_toInt l) _).mp hcritical

/-- An operator on integers that can be computed gives the exact result. -/
theorem onIntegers_eq_ok {op : Operator} {l r : Int64} (h : ComputableOn op l.toInt r.toInt) :
    ∃ n : Int64, op.exactResult? l.toInt r.toInt = some n.toInt
      ∧ onIntegers op l r = .ok (.integer n) := by
  have hresult : op.exactResult? l.toInt r.toInt = some (exact op l.toInt r.toInt) :=
    exactResult?_eq h.divisor
  obtain ⟨hdivisor, hcritical⟩ := computableOn_iff.mp h
  refine ⟨Int64.ofInt (exact op l.toInt r.toInt), ?_, ?_⟩
  · rw [toInt_ofInt (h.fits _ hresult), hresult]
  · rw [onIntegers, if_neg hdivisor, if_pos hcritical]

/-- **Any other is refused.** -/
theorem onIntegers_eq_error {op : Operator} {l r : Int64}
    (h : ¬ ComputableOn op l.toInt r.toInt) :
    ∃ fault, onIntegers op l r = .error fault ∧ fault.kind = .evaluation := by
  rw [computableOn_iff, not_and] at h
  rw [onIntegers]
  split
  · exact ⟨_, rfl, rfl⟩
  · rename_i hdivisor
    rw [if_neg (h hdivisor)]
    exact ⟨_, rfl, rfl⟩

end Operation

/-! ## 3. Expressions -/

namespace Expr

open Operation (ComputableOn)

variable {op : Operator} {e sub left right operand : Expr}

theorem mem_nodes_arithmetic :
    sub ∈ (arithmetic op left right).nodes
      ↔ sub = arithmetic op left right ∨ sub ∈ left.nodes ∨ sub ∈ right.nodes := by
  rw [nodes, List.mem_cons, List.mem_append]

theorem mem_nodes_negate :
    sub ∈ (negate operand).nodes ↔ sub = negate operand ∨ sub ∈ operand.nodes := by
  rw [nodes, List.mem_cons]

/-- What can be computed can be computed part by part. -/
theorem Computable.part (h : e.Computable) (hsub : ∀ part ∈ sub.nodes, part ∈ e.nodes) :
    sub.Computable where
  divisors op left right hmem := h.divisors op left right (hsub _ hmem)
  fits part hmem := h.fits part (hsub _ hmem)
  remainders left right hmem := h.remainders left right (hsub _ hmem)

/-- Integers can be computed. -/
theorem computable_literal (n : Int64) : (literal (.integer n)).Computable where
  divisors op left right hmem := by simp [nodes] at hmem
  fits part hmem m hm := by
    obtain rfl : part = literal (.integer n) := by simpa [nodes] using hmem
    obtain rfl : n.toInt = m := Option.some.inj hm
    exact Value.fits_toInt n
  remainders left right hmem := by simp [nodes] at hmem

/-- **An operator on two expressions can be computed** if both can, and the operator on their
values. -/
theorem computable_arithmetic_iff {l r : Int} (hl : left.exactValue? = some l)
    (hr : right.exactValue? = some r) :
    (arithmetic op left right).Computable
      ↔ left.Computable ∧ right.Computable ∧ ComputableOn op l r := by
  have hself : arithmetic op left right ∈ (arithmetic op left right).nodes := self_mem_nodes _
  have hvalue : (arithmetic op left right).exactValue? = op.exactResult? l r := by
    rw [exactValue?, hl, hr]
    rfl
  constructor
  · intro h
    refine ⟨h.part fun part hpart => mem_nodes_arithmetic.mpr (.inr (.inl hpart)),
      h.part fun part hpart => mem_nodes_arithmetic.mpr (.inr (.inr hpart)), ?_, ?_, ?_⟩
    · rintro hop rfl
      exact h.divisors op left right hself hop hr
    · exact fun n hn => h.fits _ hself n (hvalue.trans hn)
    · rintro rfl ⟨rfl, rfl⟩
      exact h.remainders left right hself ⟨hl, hr⟩
  · rintro ⟨hleft, hright, hop⟩
    constructor
    · intro op' left' right' hmem hdivides
      rcases mem_nodes_arithmetic.mp hmem with hsame | hmem | hmem
      · cases hsame
        rw [hr]
        exact fun hzero => hop.divisor hdivides (Option.some.inj hzero)
      · exact hleft.divisors op' left' right' hmem hdivides
      · exact hright.divisors op' left' right' hmem hdivides
    · intro part hmem n hn
      rcases mem_nodes_arithmetic.mp hmem with rfl | hmem | hmem
      · exact hop.fits n (hvalue.symm.trans hn)
      · exact hleft.fits part hmem n hn
      · exact hright.fits part hmem n hn
    · intro left' right' hmem
      rcases mem_nodes_arithmetic.mp hmem with hsame | hmem | hmem
      · cases hsame
        rw [hl, hr]
        rintro ⟨hleast, hone⟩
        exact hop.remainder rfl ⟨Option.some.inj hleast, Option.some.inj hone⟩
      · exact hleft.remainders left' right' hmem
      · exact hright.remainders left' right' hmem

/-- **A minus sign before an expression can be computed** if that can, and the negative fits. -/
theorem computable_negate_iff {n : Int} (h : operand.exactValue? = some n) :
    (negate operand).Computable ↔ operand.Computable ∧ Value.Fits (-n) := by
  have hvalue : (negate operand).exactValue? = some (-n) := by
    rw [exactValue?, h]
    rfl
  constructor
  · intro hnegate
    exact ⟨hnegate.part fun part hpart => mem_nodes_negate.mpr (.inr hpart),
      hnegate.fits _ (self_mem_nodes _) _ hvalue⟩
  · rintro ⟨hoperand, hfits⟩
    constructor
    · intro op left right hmem
      rcases mem_nodes_negate.mp hmem with hsame | hmem
      · cases hsame
      · exact hoperand.divisors op left right hmem
    · intro part hmem m hm
      rcases mem_nodes_negate.mp hmem with rfl | hmem
      · obtain rfl : -n = m := Option.some.inj (hvalue.symm.trans hm)
        exact hfits
      · exact hoperand.fits part hmem m hm
    · intro left right hmem
      rcases mem_nodes_negate.mp hmem with hsame | hmem
      · cases hsame
      · exact hoperand.remainders left right hmem

end Expr

/-! ## 4. Evaluation -/

/-- How the evaluation of an expression of integers may end: with its exact value if that can be
computed, and with a fault if it cannot. -/
inductive Scope.Settles (s : Scope) (e : Expr) : Prop where
  | computed (n : Int64) (hcomputable : e.Computable) (hexact : e.exactValue? = some n.toInt)
      (heval : s.eval e = .ok (.known (.integer n)))
  | refused (fault : Fault) (hnot : ¬ e.Computable) (heval : s.eval e = .error fault)
      (hkind : fault.kind = .evaluation)

namespace Scope

open TemplatedConfig.Expr (computable_arithmetic_iff computable_negate_iff mem_nodes_arithmetic
  mem_nodes_negate)

variable {s : Scope} {op : Operator} {left right operand : Expr}

theorem settles_arithmetic (hleft : s.Settles left) (hright : s.Settles right) :
    s.Settles (.arithmetic op left right) := by
  cases hleft with
  | refused fault hnot heval hkind =>
    refine .refused fault (fun h => hnot (h.part fun part hpart => ?_)) ?_ hkind
    · exact mem_nodes_arithmetic.mpr (.inr (.inl hpart))
    · rw [eval, heval]
      rfl
  | computed l hl hexactl hevall =>
    cases hright with
    | refused fault hnot heval hkind =>
      refine .refused fault (fun h => hnot (h.part fun part hpart => ?_)) ?_ hkind
      · exact mem_nodes_arithmetic.mpr (.inr (.inr hpart))
      · rw [eval, hevall, heval]
        rfl
    | computed r hr hexactr hevalr =>
      have hstep : s.eval (.arithmetic op left right)
          = (Operation.onIntegers op l r).map Outcome.known := by
        rw [eval, hevall, hevalr]
        rfl
      have hiff : (Expr.arithmetic op left right).Computable
          ↔ left.Computable ∧ right.Computable ∧ Operation.ComputableOn op l.toInt r.toInt :=
        computable_arithmetic_iff hexactl hexactr
      by_cases hop : Operation.ComputableOn op l.toInt r.toInt
      · obtain ⟨n, hexact, hn⟩ := Operation.onIntegers_eq_ok hop
        refine .computed n (hiff.mpr ⟨hl, hr, hop⟩) ?_ ?_
        · rw [Expr.exactValue?, hexactl, hexactr]
          exact hexact
        · rw [hstep, hn]
          rfl
      · obtain ⟨fault, hfault, hkind⟩ := Operation.onIntegers_eq_error hop
        refine .refused fault (fun h => hop (hiff.mp h).2.2) ?_ hkind
        rw [hstep, hfault]
        rfl

theorem settles_negate (h : s.Settles operand) : s.Settles (.negate operand) := by
  cases h with
  | refused fault hnot heval hkind =>
    refine .refused fault (fun h => hnot (h.part fun part hpart => ?_)) ?_ hkind
    · exact mem_nodes_negate.mpr (.inr hpart)
    · rw [eval, heval]
      rfl
  | computed n hn hexact heval =>
    have hstep : s.eval (.negate operand)
        = (Operation.negate (.integer n)).map Outcome.known := by
      rw [eval, heval]
      rfl
    have hiff := computable_negate_iff hexact
    by_cases hfits : Value.Fits (-n.toInt)
    · refine .computed (Int64.ofInt (-n.toInt)) (hiff.mpr ⟨hn, hfits⟩) ?_ ?_
      · rw [Expr.exactValue?, hexact, Value.toInt_ofInt hfits]
        rfl
      · rw [hstep, Operation.negate, if_pos hfits]
        rfl
    · refine .refused (Fault.of .integerOverflow) (fun h => hfits (hiff.mp h).2) ?_ rfl
      rw [hstep, Operation.negate, if_neg hfits]
      rfl

/-- **Every expression of integers settles.** -/
theorem settles_of_isIntegral (s : Scope) {e : Expr} (h : e.IsIntegral) : s.Settles e := by
  induction h with
  | literal n => exact .computed n (Expr.computable_literal n) rfl rfl
  | arithmetic _ _ ihleft ihright => exact settles_arithmetic ihleft ihright
  | negate _ ih => exact settles_negate ih

/-- **Integer arithmetic is exact or refused.**  An expression of integer literals, operators and
minus signs evaluates to its exact value, if it never divides by zero, the exact value of every part
fits, and it takes no remainder of the least integer by minus one.  In any other case evaluation
fails. -/
theorem integers_are_exact_or_refused (s : Scope) {e : Expr} (h : e.IsIntegral) :
    (e.Computable →
      ∃ n : Int64, e.exactValue? = some n.toInt ∧ s.eval e = .ok (.known (.integer n)))
    ∧ (¬ e.Computable → ∃ fault, s.eval e = .error fault ∧ fault.kind = .evaluation) := by
  cases settles_of_isIntegral s h with
  | computed n hcomputable hexact heval =>
    exact ⟨fun _ => ⟨n, hexact, heval⟩, fun hnot => (hnot hcomputable).elim⟩
  | refused fault hnot heval hkind =>
    exact ⟨fun hcomputable => (hnot hcomputable).elim, fun _ => ⟨fault, heval, hkind⟩⟩

namespace Example

/-- The least integer, which no numeral can be: `-9223372036854775807 - 1`. -/
def least : Expr :=
  .arithmetic .sub (.literal (.integer (-9223372036854775807))) (.literal (.integer 1))

theorem isIntegral_least : least.IsIntegral := .arithmetic (.literal _) (.literal _)

theorem computable_least : least.Computable :=
  (computable_arithmetic_iff rfl rfl).mpr
    ⟨Expr.computable_literal _, Expr.computable_literal _, by decide, by decide, by decide⟩

theorem exactValue?_least : least.exactValue? = some (-9223372036854775808) := by decide

/-- What is left of a third of it by minus five: `least / 3 % -5`. -/
def restOfThird : Expr :=
  .arithmetic .mod (.arithmetic .div least (.literal (.integer 3))) (.literal (.integer (-5)))

theorem computable_restOfThird : restOfThird.Computable := by
  have hthird : (Expr.arithmetic .div least (.literal (.integer 3))).Computable :=
    (computable_arithmetic_iff exactValue?_least rfl).mpr
      ⟨computable_least, Expr.computable_literal 3, by decide, by decide, by decide⟩
  exact (computable_arithmetic_iff (l := -3074457345618258602) (by decide) rfl).mpr
    ⟨hthird, Expr.computable_literal (-5), by decide, by decide, by decide⟩

/-- The negative of it, which does not fit: `-least`. -/
def negatedLeast : Expr := .negate least

/-- The first is computed, with the sign of the dividend, and the second is refused. -/
theorem least_is_divided_and_not_negated :
    restOfThird.IsIntegral ∧ restOfThird.Computable
      ∧ Scope.eval ⟨.empty, .empty⟩ restOfThird = .ok (.known (.integer (-2)))
      ∧ negatedLeast.IsIntegral ∧ ¬ negatedLeast.Computable
      ∧ ∃ fault, Scope.eval ⟨.empty, .empty⟩ negatedLeast = .error fault
        ∧ fault.kind = .evaluation := by
  have hrest : restOfThird.IsIntegral :=
    .arithmetic (.arithmetic isIntegral_least (.literal 3)) (.literal (-5))
  have hnegated : negatedLeast.IsIntegral := .negate isIntegral_least
  have hnot : ¬ negatedLeast.Computable := fun h =>
    absurd ((computable_negate_iff exactValue?_least).mp h).2 (by decide)
  obtain ⟨n, hexact, heval⟩ :=
    (integers_are_exact_or_refused ⟨.empty, .empty⟩ hrest).1 computable_restOfThird
  have hvalue : n = -2 := by
    have htwo : restOfThird.exactValue? = some (-2 : Int64).toInt := by decide
    exact Int64.toInt_inj.mp (Option.some.inj (hexact.symm.trans htwo))
  exact ⟨hrest, computable_restOfThird, hvalue ▸ heval, hnegated, hnot,
    (integers_are_exact_or_refused ⟨.empty, .empty⟩ hnegated).2 hnot⟩

/-- What is left of it by minus one: `least % -1`. -/
def remainderOfLeast : Expr := .arithmetic .mod least (.literal (.integer (-1)))

/-- **A result that fits is refused.**  No divisor is zero, and the exact value of every part fits:
that of the whole is zero. -/
theorem remainder_of_least_is_refused :
    remainderOfLeast.IsIntegral
      ∧ (∀ op left right, .arithmetic op left right ∈ remainderOfLeast.nodes →
          op = .div ∨ op = .mod → right.exactValue? ≠ some 0)
      ∧ (∀ part ∈ remainderOfLeast.nodes, ∀ n, part.exactValue? = some n → Value.Fits n)
      ∧ remainderOfLeast.exactValue? = some 0
      ∧ ∀ s : Scope, s.eval remainderOfLeast = .error (Fault.of .integerOverflow) := by
  refine ⟨.arithmetic isIntegral_least (.literal (-1)), ?_, ?_, by decide, fun s => rfl⟩
  · intro op left right hmem hdivides
    rcases mem_nodes_arithmetic.mp hmem with hsame | hmem | hmem
    · cases hsame
      decide
    · exact computable_least.divisors op left right hmem hdivides
    · simp [Expr.nodes] at hmem
  · intro part hmem
    rcases mem_nodes_arithmetic.mp hmem with rfl | hmem | hmem
    · have hzero : remainderOfLeast.exactValue? = some 0 := by decide
      rintro n hn
      obtain rfl : 0 = n := Option.some.inj (hzero.symm.trans hn)
      decide
    · exact computable_least.fits part hmem
    · exact (Expr.computable_literal (-1)).fits part hmem

end Example

end Scope

end TemplatedConfig
