/-
# Evaluation reads every variable of an expression, and nothing else

Three statements about the evaluator, each one case for each constructor of an expression.

* `eval_congr`: two scopes that agree on all calls and on the variables of an expression evaluate
  it alike.
* `eval_error_of_lookup`: evaluation is strict, so one variable that cannot be looked up is
  enough for the whole expression to fail.
* `eval_failsWith`: a fault is about the values that an operator or a function was given, or it
  comes from looking up a variable.

The variables of an expression are the nodes `.variable name` of `Expr.nodes`, the list that
references are collected from.  Section 4 carries the three statements over to templates.  If all
variables can be looked up and the functions are sound, only the operands of an operator or of a
function can be at fault (`fill_blameless`); in any case the fault does not say where the template
stands (`fill_bare`).
-/
import TemplatedConfig.Proofs.Function.Admission
import TemplatedConfig.Scope.Evaluation

namespace TemplatedConfig

namespace Scope

/-! ## 1. What evaluation depends on -/

/-- Two scopes look a variable up alike. -/
def AgreeOn (s s' : Scope) (e : Expr) : Prop :=
  ∀ key, .variable key ∈ e.nodes → s.lookup key = s'.lookup key

mutual

/-- **Evaluation depends only on the variables of the expression** and on what calls give. -/
theorem eval_congr {s s' : Scope} (hf : s.functions.call = s'.functions.call) : ∀ e : Expr,
    s.AgreeOn s' e → s.eval e = s'.eval e
  | .literal _, _ => rfl
  | .variable name, h => by
    rw [eval, eval, h name (by simp [Expr.nodes])]
  | .index target key, h => by
    rw [eval, eval, eval_congr hf target fun k hk => h k (by simp [Expr.nodes, hk]),
      eval_congr hf key fun k hk => h k (by simp [Expr.nodes, hk])]
  | .call function arguments, h => by
    have hcall : s.callWith function = s'.callWith function := by
      funext outcomes
      rw [callWith, callWith, hf]
    rw [eval, eval, hcall, evalAll_congr hf arguments fun k hk => h k (by simp [Expr.nodes, hk])]
  | .arithmetic op left right, h => by
    rw [eval, eval, eval_congr hf left fun k hk => h k (by simp [Expr.nodes, hk]),
      eval_congr hf right fun k hk => h k (by simp [Expr.nodes, hk])]
  | .negate operand, h => by
    rw [eval, eval, eval_congr hf operand fun k hk => h k (by simp [Expr.nodes, hk])]

theorem evalAll_congr {s s' : Scope} (hf : s.functions.call = s'.functions.call) : ∀ es : List Expr,
    (∀ key, .variable key ∈ Expr.nodesOfAll es → s.lookup key = s'.lookup key) →
      s.evalAll es = s'.evalAll es
  | [], _ => rfl
  | e :: rest, h => by
    rw [evalAll, evalAll, eval_congr hf e fun k hk => h k (by simp [Expr.nodesOfAll, hk]),
      evalAll_congr hf rest fun k hk => h k (by simp [Expr.nodesOfAll, hk])]

end

/-! ## 2. Strictness -/

/-- A fault in the first of two operands is a fault. -/
theorem withBoth_error_left {a b : Except Fault Outcome}
    {use : Value → Value → Except Fault Outcome} (h : ∃ fault, a = .error fault) :
    ∃ fault, withBoth a b use = .error fault := by
  obtain ⟨fault, rfl⟩ := h
  exact ⟨fault, rfl⟩

/-- So is a fault in the second, whatever the first is. -/
theorem withBoth_error_right {a b : Except Fault Outcome}
    {use : Value → Value → Except Fault Outcome} (h : ∃ fault, b = .error fault) :
    ∃ fault, withBoth a b use = .error fault := by
  obtain ⟨fault, rfl⟩ := h
  cases a with
  | error fault' => exact ⟨fault', rfl⟩
  | ok outcome => exact ⟨fault, rfl⟩

mutual

/-- **Evaluation is strict.**  A variable that cannot be looked up makes every expression fail
that it occurs in. -/
theorem eval_error_of_lookup {s : Scope} {key : String}
    (hkey : ∃ fault, s.lookup key = .error fault) : ∀ e : Expr,
    .variable key ∈ e.nodes → ∃ fault, s.eval e = .error fault
  | .literal _, h => by simp [Expr.nodes] at h
  | .variable name, h => by
    have hname : key = name := by simpa [Expr.nodes] using h
    rw [eval, ← hname]
    exact bind_error hkey
  | .index target index, h => by
    rw [eval]
    have hparts : .variable key ∈ target.nodes ∨ .variable key ∈ index.nodes := by
      simpa [Expr.nodes] using h
    rcases hparts with ht | hi
    · exact withBoth_error_left (eval_error_of_lookup hkey target ht)
    · exact withBoth_error_right (eval_error_of_lookup hkey index hi)
  | .call function arguments, h => by
    rw [eval]
    exact bind_error (evalAll_error_of_lookup hkey arguments (by simpa [Expr.nodes] using h))
  | .arithmetic op left right, h => by
    rw [eval]
    have hparts : .variable key ∈ left.nodes ∨ .variable key ∈ right.nodes := by
      simpa [Expr.nodes] using h
    rcases hparts with hl | hr
    · exact withBoth_error_left (eval_error_of_lookup hkey left hl)
    · exact withBoth_error_right (eval_error_of_lookup hkey right hr)
  | .negate operand, h => by
    rw [eval]
    exact bind_error (eval_error_of_lookup hkey operand (by simpa [Expr.nodes] using h))

theorem evalAll_error_of_lookup {s : Scope} {key : String}
    (hkey : ∃ fault, s.lookup key = .error fault) : ∀ es : List Expr,
    .variable key ∈ Expr.nodesOfAll es → ∃ fault, s.evalAll es = .error fault
  | [], h => by simp [Expr.nodesOfAll] at h
  | e :: rest, h => by
    rw [evalAll]
    have hparts : .variable key ∈ e.nodes ∨ .variable key ∈ Expr.nodesOfAll rest := by
      simpa [Expr.nodesOfAll] using h
    rcases hparts with he | hrest
    · exact bind_error (eval_error_of_lookup hkey e he)
    · obtain ⟨fault, hfault⟩ := evalAll_error_of_lookup hkey rest hrest
      cases he : s.eval e with
      | error fault' => exact ⟨fault', rfl⟩
      | ok outcome => exact ⟨fault, by rw [hfault]; rfl⟩

end

end Scope

/-! ## 3. Faults -/

namespace Operation

/-- An operator on integers fails on a division by zero and on a result that does not fit. -/
theorem onIntegers_failsWith (op : Operator) (l r : Int64) :
    FailsWith Fault.IsOfValues (onIntegers op l r) := by
  unfold onIntegers
  split
  · exact .error ⟨rfl, .inr rfl⟩
  · split
    · exact .ok _
    · exact .error ⟨rfl, .inr rfl⟩

theorem onFloats_failsWith (op : Operator) (l r : Float) :
    FailsWith Fault.IsOfValues (onFloats op l r) := by
  cases op with
  | add => exact .ok _
  | sub => exact .ok _
  | mul => exact .ok _
  | div =>
    unfold onFloats
    dsimp only
    split
    · exact .error ⟨rfl, .inr rfl⟩
    · exact .ok _
  | mod => exact .error ⟨rfl, .inl rfl⟩

theorem arithmetic_failsWith (op : Operator) (l r : Value) :
    FailsWith Fault.IsOfValues (arithmetic op l r) := by
  unfold arithmetic
  split
  · exact onIntegers_failsWith _ _ _
  · exact onFloats_failsWith _ _ _
  · exact onFloats_failsWith _ _ _
  · exact onFloats_failsWith _ _ _
  · exact .error ⟨rfl, .inl rfl⟩

theorem negate_failsWith (v : Value) : FailsWith Fault.IsOfValues (negate v) := by
  unfold negate
  split
  · split
    · exact .ok _
    · exact .error ⟨rfl, .inr rfl⟩
  · exact .ok _
  · exact .error ⟨rfl, .inl rfl⟩

theorem index_failsWith (expr : String) (target key : Value) :
    FailsWith Fault.IsOfValues (index expr target key) := by
  unfold index
  split
  · split
    · exact .ok _
    · exact .error ⟨rfl, .inr rfl⟩
  · exact .error ⟨rfl, .inl rfl⟩
  · split
    · exact .ok _
    · exact .error ⟨rfl, .inr rfl⟩
  · exact .error ⟨rfl, .inl rfl⟩
  · exact .error ⟨rfl, .inl rfl⟩

theorem render_failsWith (expr : String) (v : Value) :
    FailsWith Fault.IsOfValues (render expr v) := by
  unfold render
  split
  · exact .ok _
  · exact .ok _
  · exact .ok _
  · exact .ok _
  · exact .error ⟨rfl, .inl rfl⟩

end Operation

namespace Scope

theorem withBoth_failsWith {P : Fault → Prop} {a b : Except Fault Outcome}
    {use : Value → Value → Except Fault Outcome} (ha : FailsWith P a) (hb : FailsWith P b)
    (huse : ∀ l r, FailsWith P (use l r)) : FailsWith P (withBoth a b use) := by
  refine ha.bind fun l _ => hb.bind fun r _ => ?_
  cases l with
  | unknown => exact .ok _
  | known l =>
    cases r with
    | unknown => exact .ok _
    | known r => exact huse l r

/-- The faults that evaluation passes on have a property: those about values and those of calls. -/
structure Passes (P : Fault → Prop) (s : Scope) : Prop where
  values : ∀ fault : Fault, fault.IsOfValues → P fault
  calls : ∀ function arguments, FailsWith P (s.functions.call function arguments)

mutual

/-- **Evaluation raises no fault of its own.**  Its faults are about values, or come from calls or
from looking up the variables of the expression. -/
theorem eval_failsWith {P : Fault → Prop} {s : Scope} (hs : s.Passes P) : ∀ e : Expr,
    (∀ key, .variable key ∈ e.nodes → FailsWith P (s.lookup key)) → FailsWith P (s.eval e)
  | .literal _, _ => .ok _
  | .variable name, h => (h name (by simp [Expr.nodes])).map _
  | .index target key, h => by
    rw [eval]
    exact withBoth_failsWith
      (eval_failsWith hs target fun k hk => h k (by simp [Expr.nodes, hk]))
      (eval_failsWith hs key fun k hk => h k (by simp [Expr.nodes, hk]))
      fun t k => ((Operation.index_failsWith _ t k).mono hs.values).map _
  | .call function arguments, h => by
    rw [eval]
    refine (evalAll_failsWith hs arguments fun k hk => h k (by simp [Expr.nodes, hk])).bind
      fun outcomes _ => ?_
    unfold callWith
    split
    · exact (hs.calls function _).map _
    · exact .ok _
  | .arithmetic op left right, h => by
    rw [eval]
    exact withBoth_failsWith
      (eval_failsWith hs left fun k hk => h k (by simp [Expr.nodes, hk]))
      (eval_failsWith hs right fun k hk => h k (by simp [Expr.nodes, hk]))
      fun l r => ((Operation.arithmetic_failsWith op l r).mono hs.values).map _
  | .negate operand, h => by
    rw [eval]
    refine (eval_failsWith hs operand fun k hk => h k (by simp [Expr.nodes, hk])).bind
      fun outcome _ => ?_
    cases outcome with
    | known v => exact ((Operation.negate_failsWith v).mono hs.values).map _
    | unknown => exact .ok _

theorem evalAll_failsWith {P : Fault → Prop} {s : Scope} (hs : s.Passes P) : ∀ es : List Expr,
    (∀ key, .variable key ∈ Expr.nodesOfAll es → FailsWith P (s.lookup key)) →
      FailsWith P (s.evalAll es)
  | [], _ => .ok _
  | e :: rest, h => by
    rw [evalAll]
    refine (eval_failsWith hs e fun k hk => h k (by simp [Expr.nodesOfAll, hk])).bind
      fun v _ => ?_
    exact (evalAll_failsWith hs rest fun k hk => h k (by simp [Expr.nodesOfAll, hk])).bind
      fun vs _ => .ok _

end

/-! ## 4. Templates -/

/-- The expressions of a template are those of its parts. -/
theorem mem_exprs_iff {t : Template} {e : Expr} : e ∈ t.exprs ↔ .interpolation e ∈ t.parts := by
  rw [Template.exprs, List.mem_filterMap]
  constructor
  · rintro ⟨part, hpart, he⟩
    cases part with
    | literal text => cases he
    | interpolation e' =>
      cases he
      exact hpart
  · exact fun h => ⟨_, h, rfl⟩

/-- A template with a single expression is that one part. -/
theorem parts_of_singleExpr? {t : Template} {e : Expr} (h : t.singleExpr? = some e) :
    t.parts = [.interpolation e] := by
  unfold Template.singleExpr? at h
  split at h
  · rename_i e' hparts
    cases h
    exact hparts
  · cases h

/-- Only the expressions of a template make scopes differ on it. -/
theorem fill_congr {s s' : Scope} (hf : s.functions.call = s'.functions.call) {t : Template}
    (h : ∀ e ∈ t.exprs, s.AgreeOn s' e) : s.fill t = s'.fill t := by
  unfold fill
  split
  · rename_i e he
    exact eval_congr hf e (h e (mem_exprs_iff.mpr (by simp [parts_of_singleExpr? he])))
  · have hparts : t.parts.mapM s.partText = t.parts.mapM s'.partText := by
      refine mapM_congr fun part hpart => ?_
      cases part with
      | literal text => rfl
      | interpolation e =>
        rw [partText, partText, eval_congr hf e (h e (mem_exprs_iff.mpr hpart))]
    rw [evalParts, evalParts, hparts]

/-- A variable that cannot be looked up makes every template fail that it occurs in. -/
theorem fill_error_of_lookup {s : Scope} {key : String}
    (hkey : ∃ fault, s.lookup key = .error fault) {t : Template} {e : Expr} (he : e ∈ t.exprs)
    (h : .variable key ∈ e.nodes) : ∃ fault, s.fill t = .error fault := by
  have heval := eval_error_of_lookup hkey e h
  unfold fill
  split
  · rename_i e' he'
    rw [mem_exprs_iff, parts_of_singleExpr? he'] at he
    have heq : e = e' := by simpa using he
    exact heq ▸ heval
  · refine bind_error (mapM_error (mem_exprs_iff.mp he) ?_)
    exact bind_error heval

/-- A template raises no fault of its own either. -/
theorem fill_failsWith {P : Fault → Prop} {s : Scope} (hs : s.Passes P) {t : Template}
    (h : ∀ e ∈ t.exprs, ∀ key, .variable key ∈ e.nodes → FailsWith P (s.lookup key)) :
    FailsWith P (s.fill t) := by
  unfold fill
  split
  · rename_i e he
    exact eval_failsWith hs e (h e (mem_exprs_iff.mpr (by simp [parts_of_singleExpr? he])))
  · refine (FailsWith.mapM fun part hpart => ?_).bind fun texts _ => ?_
    · cases part with
      | literal text => exact .ok _
      | interpolation e =>
        refine (eval_failsWith hs e (h e (mem_exprs_iff.mpr hpart))).bind fun outcome _ => ?_
        cases outcome with
        | known v => exact ((Operation.render_failsWith _ v).mono hs.values).map _
        | unknown => exact .ok _
    · split
      · exact .ok _
      · exact .ok _

/-- A scope has values for the variables of an expression. -/
def Supplies (s : Scope) (e : Expr) : Prop :=
  ∀ key, .variable key ∈ e.nodes → ∃ v, s.lookup key = .ok v

/-- **If everything a template reads is there, only the values in it can be at fault.** -/
theorem fill_blameless {s : Scope} (hf : ∀ name f, s.functions.get? name = some f → f.Sound)
    {t : Template} (h : ∀ e ∈ t.exprs, s.Supplies e) : Blameless (s.fill t) := by
  refine fill_failsWith ⟨fun _ => And.right, call_blameless hf⟩ fun e he key hkey => ?_
  obtain ⟨v, hv⟩ := h e he key hkey
  rw [hv]
  exact .ok v

/-- A reference that cannot be looked up is a fault that does not say where it stands. -/
theorem lookup_bare (s : Scope) (key : String) : FailsWith Fault.IsBare (s.lookup key) := by
  have hreference : FailsWith Fault.IsBare (Reference.ofKey key) := by
    unfold Reference.ofKey Reference.ofRest
    split
    · split
      · exact .error rfl
      · exact .ok _
      · exact .error rfl
    · exact .error rfl
  refine hreference.bind fun reference _ => ?_
  split
  · exact .ok _
  · exact .error rfl

/-- **The fault of a template does not say where it stands**, with the built-in functions. -/
theorem fill_bare (b : Bindings) (t : Template) :
    FailsWith Fault.IsBare (Scope.fill ⟨b, .builtins⟩ t) :=
  fill_failsWith ⟨fun _ => And.left, call_bare builtins_bare⟩ fun _ _ key _ => lookup_bare _ key

end Scope

end TemplatedConfig
