/-
# The two passes over a tree make the same calls

A body is inspected once, when it is made, and substituted in as often as it is resolved.
That only fits together if both passes hand the same templates, at the same paths and in the
same order, to their callbacks.  This file makes the calls observable and compares them.

`recorded` wraps a callback with a state of its own so that it also writes down each call: what
it was handed and what it answered (`Call`).  A pass that is run with such a callback gives a
result and a list of calls (`Pass`).  `Ended sites calls result` says what the two can be for a
list of sites: every call answered, or all calls answered up to a site that does not parse, or
all but the last.  `mapM_ended` shows that a walk over the sites ends in one of these ways,
and `Traversal.unknownPaths_substitute` makes a substitution such a walk.

Main statement: `substitute_calls_agree`.
-/
import TemplatedConfig.Proofs.Traversal.Order

namespace TemplatedConfig.Traversal

/-! ## 1. Recording calls -/

/-- One call of a callback: what it was handed and what it answered. -/
structure Call (α : Type) where
  path : String
  template : Template
  answer : Except Fault α

/-- What a callback is handed. -/
def Call.handed {α : Type} (call : Call α) : String × Template := (call.path, call.template)

/-- The callback did not fail. -/
def Call.Succeeded {α : Type} (call : Call α) : Prop := ∃ a, call.answer = .ok a

variable {σ α β : Type}

/-- A callback that writes down its calls. -/
def recorded (visit : String → Template → ExceptT Fault (StateM σ) α) (path : String)
    (template : Template) : ExceptT Fault (StateM (σ × List (Call α))) α :=
  ExceptT.mk fun (s, calls) =>
    let (answer, s') := (visit path template).run.run s
    pure (answer, (s', calls ++ [{ path, template, answer }]))

/-- What a pass with a recorded callback gives: its result and the calls, in order. -/
structure Pass (α β : Type) where
  result : Except Fault β
  calls : List (Call α)

/-- Runs a pass from a state of its callback. -/
def Pass.ofRun (s : σ) (pass : ExceptT Fault (StateM (σ × List (Call α))) β) : Pass α β :=
  let ended := pass.run.run (s, [])
  { result := ended.1, calls := ended.2.2 }

/-- What the callback of a pass was handed, call by call. -/
def Pass.handed (pass : Pass α β) : List (String × Template) := pass.calls.map Call.handed

/-! ## 2. How a walk over sites can end -/

/-- The calls that a walk over sites makes, and what it ends with. -/
inductive Ended : List Site → List (Call α) → Except Fault Unit → Prop where
  /-- No site is left. -/
  | done : Ended [] [] (.ok ())
  /-- The next site does not parse, so the callback is not called. -/
  | unparsed {site rest fault} : Template.parse site.source = .error fault →
      Ended (site :: rest) [] (.error (addPath site.path fault))
  /-- The callback fails at the next site. -/
  | refused {site rest template fault} : Template.parse site.source = .ok template →
      Ended (site :: rest) [{ path := site.path, template, answer := .error fault }]
        (.error (addPath site.path fault))
  /-- The callback answers and the walk goes on. -/
  | answered {site rest template a calls result} : Template.parse site.source = .ok template →
      Ended rest calls result →
      Ended (site :: rest) ({ path := site.path, template, answer := .ok a } :: calls) result

/-- The answer in a call is one that the callback gave. -/
def AnsweredBy (visit : String → Template → ExceptT Fault (StateM σ) α) (call : Call α) :
    Prop :=
  ∃ s, call.answer = ((visit call.path call.template).run.run s).1

/-- The result of a pass without what it built. -/
def ending (result : Except Fault β) : Except Fault Unit := result.map fun _ => ()

@[simp] theorem ending_map {γ : Type} (f : β → γ) (result : Except Fault β) :
    ending (result.map f) = ending result := by
  cases result <;> rfl

/-- Failing is seen in how a pass ends. -/
theorem eq_error_of_ending {result : Except Fault β} {fault : Fault}
    (h : ending result = .error fault) : result = .error fault := by
  cases result with
  | error fault' => exact congrArg _ (Except.error.inj h)
  | ok b => cases h

/-- A site that does not parse is not handed to the callback. -/
theorem run_visitSite_unparsed (visit : String → Template → ExceptT Fault (StateM σ) α)
    {site : Site} {fault : Fault} (h : Template.parse site.source = .error fault)
    (s : σ × List (Call α)) :
    (visitSite (recorded visit) site).run.run s = (.error (addPath site.path fault), s) := by
  rw [run_visitSite, h]
  rfl

/-- A site that parses is handed to the callback, and a fault gets the path of the site. -/
theorem run_visitSite_parsed (visit : String → Template → ExceptT Fault (StateM σ) α)
    {site : Site} {template : Template} (h : Template.parse site.source = .ok template)
    (s : σ) (calls : List (Call α)) :
    (visitSite (recorded visit) site).run.run (s, calls)
      = (let (answer, s') := (visit site.path template).run.run s
         (answer.mapError (addPath site.path),
           (s', calls ++ [{ path := site.path, template, answer }]))) := by
  rw [run_visitSite, h]
  rfl

/-- After a fault nothing more is run. -/
theorem run_bind_error {τ γ δ : Type} {x : ExceptT Fault (StateM τ) γ}
    {f : γ → ExceptT Fault (StateM τ) δ} {s s' : τ} {fault : Fault}
    (h : x.run.run s = (.error fault, s')) : (x >>= f).run.run s = (.error fault, s') := by
  rw [ExceptT.run_bind, StateT.run_bind, h]
  rfl

/-- After a result the next action runs in the state that is left. -/
theorem run_bind_ok {τ γ δ : Type} {x : ExceptT Fault (StateM τ) γ}
    {f : γ → ExceptT Fault (StateM τ) δ} {s s' : τ} {a : γ}
    (h : x.run.run s = (.ok a, s')) : (x >>= f).run.run s = (f a).run.run s' := by
  rw [ExceptT.run_bind, StateT.run_bind, h]
  rfl

/-- **Every walk over sites ends in one of the ways of `Ended`**, whatever is made of the
answers on the way. -/
theorem mapM_ended (visit : String → Template → ExceptT Fault (StateM σ) α)
    (use : Site → α → β) (sites : List Site) (s : σ) (before : List (Call α)) :
    ∃ result s' calls,
      (sites.mapM fun site => use site <$> visitSite (recorded visit) site).run.run (s, before)
        = (result, (s', before ++ calls))
      ∧ Ended sites calls (ending result) ∧ ∀ call ∈ calls, AnsweredBy visit call := by
  induction sites generalizing s before with
  | nil => exact ⟨.ok [], s, [], by rw [List.append_nil]; rfl, .done, by simp⟩
  | cons site rest ih =>
    rw [List.mapM_cons]
    simp only [map_eq_pure_bind, bind_assoc, pure_bind]
    cases hp : Template.parse site.source with
    | error fault =>
      have hrun := run_visitSite_unparsed visit hp (s, before)
      exact ⟨_, s, [], by rw [List.append_nil]; exact run_bind_error hrun, .unparsed hp, by simp⟩
    | ok template =>
      have hrun := run_visitSite_parsed visit hp s before
      cases hv : (visit site.path template).run.run s with
      | mk answer s₁ =>
        rw [hv] at hrun
        have hanswer : AnsweredBy visit { path := site.path, template, answer } :=
          ⟨s, (congrArg Prod.fst hv).symm⟩
        cases answer with
        | error fault =>
          exact ⟨_, s₁, _, run_bind_error hrun, .refused hp,
            fun call hcall => List.mem_singleton.mp hcall ▸ hanswer⟩
        | ok a =>
          obtain ⟨result, s₂, calls, hrest, hended, hcalls⟩ :=
            ih s₁ (before ++ [{ path := site.path, template, answer := .ok a }])
          simp only [map_eq_pure_bind] at hrest
          rw [List.append_assoc] at hrest
          have hall := List.forall_mem_cons.mpr ⟨hanswer, hcalls⟩
          cases result with
          | error fault =>
            exact ⟨_, s₂, _, (run_bind_ok hrun).trans (run_bind_error hrest),
              .answered hp hended, hall⟩
          | ok bs =>
            exact ⟨_, s₂, _, (run_bind_ok hrun).trans (run_bind_ok hrest),
              .answered hp hended, hall⟩

/-! ## 3. Comparing two walks over the same sites -/

namespace Ended

variable {sites : List Site} {calls : List (Call α)} {result : Except Fault Unit}

/-- A failed call is the last one, and its fault is the result. -/
theorem of_failed (h : Ended sites calls result) {n : Nat} {call : Call α} {fault : Fault}
    (hn : calls[n]? = some call) (hfault : call.answer = .error fault) :
    calls.length = n + 1 ∧ result = .error (addPath call.path fault) := by
  induction h generalizing n with
  | done => simp at hn
  | unparsed => simp at hn
  | refused hp =>
    cases n with
    | zero =>
      cases hn
      cases hfault
      exact ⟨rfl, rfl⟩
    | succ n => simp at hn
  | answered hp _ ih =>
    cases n with
    | zero =>
      cases hn
      cases hfault
    | succ n =>
      obtain ⟨hlen, hresult⟩ := ih (by simpa using hn)
      exact ⟨by rw [List.length_cons, hlen], hresult⟩

/-- **A walk whose callback never fails makes all the calls there are**: the calls of any other
walk over the same sites are among its first ones. -/
theorem handed_prefix {others : List (Call β)} {result' : Except Fault Unit}
    (h : Ended sites calls result) (h' : Ended sites others result')
    (hall : ∀ call ∈ others, call.Succeeded) :
    calls.map Call.handed <+: others.map Call.handed := by
  induction h generalizing others with
  | done => exact List.nil_prefix
  | unparsed => exact List.nil_prefix
  | refused hp =>
    cases h' with
    | unparsed hp' => rw [hp] at hp'; cases hp'
    | refused hp' =>
      obtain ⟨a, ha⟩ := hall _ List.mem_cons_self
      cases ha
    | answered hp' h' =>
      rw [hp] at hp'
      cases hp'
      exact List.prefix_cons_inj _ |>.mpr List.nil_prefix
  | answered hp _ ih =>
    cases h' with
    | unparsed hp' => rw [hp] at hp'; cases hp'
    | refused hp' =>
      obtain ⟨a, ha⟩ := hall _ List.mem_cons_self
      cases ha
    | answered hp' h' =>
      rw [hp] at hp'
      cases hp'
      exact List.prefix_cons_inj _ |>.mpr
        (ih h' fun call hcall => hall call (List.mem_cons_of_mem _ hcall))

/-- Two walks over the same sites in which no call fails make the same calls and have the same
result. -/
theorem eq_of_succeeded {others : List (Call β)} {result' : Except Fault Unit}
    (h : Ended sites calls result) (h' : Ended sites others result')
    (hcalls : ∀ call ∈ calls, call.Succeeded) (hothers : ∀ call ∈ others, call.Succeeded) :
    calls.map Call.handed = others.map Call.handed ∧ result = result' := by
  induction h generalizing others with
  | done =>
    cases h'
    exact ⟨rfl, rfl⟩
  | unparsed hp =>
    cases h' with
    | unparsed hp' =>
      rw [hp] at hp'
      cases hp'
      exact ⟨rfl, rfl⟩
    | refused hp' => rw [hp] at hp'; cases hp'
    | answered hp' _ => rw [hp] at hp'; cases hp'
  | refused hp =>
    obtain ⟨a, ha⟩ := hcalls _ List.mem_cons_self
    cases ha
  | answered hp _ ih =>
    cases h' with
    | unparsed hp' => rw [hp] at hp'; cases hp'
    | refused hp' =>
      obtain ⟨a, ha⟩ := hothers _ List.mem_cons_self
      cases ha
    | answered hp' h' =>
      rw [hp] at hp'
      cases hp'
      obtain ⟨hhanded, hresult⟩ := ih h'
        (fun call hcall => hcalls call (List.mem_cons_of_mem _ hcall))
        fun call hcall => hothers call (List.mem_cons_of_mem _ hcall)
      exact ⟨congrArg _ hhanded, hresult⟩

/-- If no call fails, the first site that does not parse ends the walk. -/
theorem result_of_unparsed {site : Site} {before after : List Site} {fault : Fault}
    (h : Ended (before ++ site :: after) calls result)
    (hcalls : ∀ call ∈ calls, call.Succeeded)
    (hbefore : ∀ s ∈ before, ∃ template, Template.parse s.source = .ok template)
    (hsite : Template.parse site.source = .error fault) :
    result = .error (addPath site.path fault) := by
  induction before generalizing calls with
  | nil =>
    cases h with
    | unparsed hp =>
      rw [hsite] at hp
      cases hp
      rfl
    | refused hp => rw [hsite] at hp; cases hp
    | answered hp _ => rw [hsite] at hp; cases hp
  | cons first before ih =>
    obtain ⟨template, hfirst⟩ := hbefore first List.mem_cons_self
    cases h with
    | unparsed hp => rw [hfirst] at hp; cases hp
    | refused _ =>
      obtain ⟨a, ha⟩ := hcalls _ List.mem_cons_self
      cases ha
    | answered _ h =>
      exact ih h (fun call hcall => hcalls call (List.mem_cons_of_mem _ hcall))
        fun s hs => hbefore s (List.mem_cons_of_mem _ hs)

end Ended

/-! ## 4. The two passes -/

/-- A pass that looks for templates ends in one of the ways of `Ended`. -/
theorem visitAll_ended (visit : String → Template → ExceptT Fault (StateM σ) α) (v : Value)
    (s : σ) :
    Ended v.sites (Pass.ofRun s (visitAll (recorded visit) v)).calls
        (ending (Pass.ofRun s (visitAll (recorded visit) v)).result)
      ∧ ∀ call ∈ (Pass.ofRun s (visitAll (recorded visit) v)).calls,
        AnsweredBy visit call := by
  obtain ⟨result, s', calls, hrun, hended⟩ :=
    mapM_ended visit (fun _ a => a) v.sites s []
  simp only [id_map', List.nil_append] at hrun
  simp only [Pass.ofRun, visitAll, hrun]
  exact hended

/-- Mapping a result leaves the state alone. -/
theorem run_map {τ γ δ : Type} (f : γ → δ) (x : ExceptT Fault (StateM τ) γ) (s : τ) :
    (f <$> x).run.run s = ((x.run.run s).1.map f, (x.run.run s).2) := by
  rw [ExceptT.run_map, StateT.run_map]
  rfl

/-- So does a pass that substitutes. -/
theorem substitute_ended (eval : String → Template → ExceptT Fault (StateM σ) Outcome)
    (v : Value) (s : σ) :
    Ended v.sites (Pass.ofRun s (substitute (recorded eval) v)).calls
      (ending (Pass.ofRun s (substitute (recorded eval) v)).result) := by
  obtain ⟨result, s', calls, hrun, hended, -⟩ :=
    mapM_ended eval (fun site e => (ofOutcome site.path e).unknownPaths) v.sites s []
  change (v.sites.mapM (report (recorded eval))).run.run (s, []) = _ at hrun
  have hpaths : pathsOf (substitute (recorded eval) v) = List.flatten <$> v.sites.mapM _ :=
    unknownPaths_substitute v
  have heq := congrArg (fun pass => pass.run.run (s, [])) hpaths
  simp only [pathsOf, run_map, hrun] at heq
  have hcalls := congrArg Prod.snd heq
  have hending := congrArg (fun run => ending run.1) heq
  simp only at hcalls hending
  rw [ending_map, ending_map] at hending
  simp only [Pass.ofRun, hcalls, hending, List.nil_append]
  exact hended

/-- A callback that never fails. -/
def unfailing {τ : Type} (visit : String → Template → StateM τ α) (path : String)
    (template : Template) : ExceptT Fault (StateM τ) α :=
  ExceptT.lift (visit path template)

/-- No call of such a callback fails. -/
theorem AnsweredBy.succeeded {τ : Type} {visit : String → Template → StateM τ α}
    {call : Call α} (h : AnsweredBy (unfailing visit) call) : call.Succeeded := by
  obtain ⟨s, hs⟩ := h
  exact ⟨((visit call.path call.template).run s).1, hs⟩

/-- **The two passes make the same calls.**  Let a tree be searched with a visitor that never
fails, and let results be substituted in it, with any callback.  The callback is handed what the
visitor is handed, in the same order and without a gap:

* all of it if no call of the callback fails;
* exactly the first `n + 1` templates if call number `n`, counted from zero, fails, and the pass
  then fails with the fault of that call at its path.

If a string of the tree does not parse, the first such string ends both passes with the same
fault, at the path of the string, unless a call of the callback failed before it. -/
theorem substitute_calls_agree {τ : Type}
    (eval : String → Template → ExceptT Fault (StateM σ) Outcome)
    (visit : String → Template → StateM τ α) (v : Value) (s : σ) (u : τ) :
    let replaced := Pass.ofRun s (substitute (recorded eval) v)
    let discovered := Pass.ofRun u (visitAll (recorded (unfailing visit)) v)
    replaced.handed <+: discovered.handed
    ∧ ((∀ call ∈ replaced.calls, call.Succeeded) → replaced.handed = discovered.handed)
    ∧ (∀ (n : Nat) (call : Call Outcome) (fault : Fault),
        replaced.calls[n]? = some call → call.answer = .error fault →
        n < discovered.handed.length ∧ replaced.handed = discovered.handed.take (n + 1)
          ∧ replaced.result = .error (addPath call.path fault))
    ∧ ∀ (before after : List Site) (site : Site) (fault : Fault),
        v.sites = before ++ site :: after →
        (∀ earlier ∈ before, ∃ t, Template.parse earlier.source = .ok t) →
        Template.parse site.source = .error fault →
        (∀ call ∈ replaced.calls, call.Succeeded) →
        fault.kind = .parse ∧ replaced.result = .error (addPath site.path fault)
          ∧ discovered.result = .error (addPath site.path fault) := by
  intro replaced discovered
  have hreplaced := substitute_ended eval v s
  obtain ⟨hdiscovered, hanswered⟩ := visitAll_ended (unfailing visit) v u
  have hall : ∀ call ∈ discovered.calls, call.Succeeded :=
    fun call hcall => (hanswered call hcall).succeeded
  have hhanded : replaced.handed <+: discovered.handed :=
    hreplaced.handed_prefix hdiscovered hall
  refine ⟨hhanded, fun h => (hreplaced.eq_of_succeeded hdiscovered h hall).1, ?_, ?_⟩
  · intro n call fault hn hfault
    obtain ⟨hlength, hresult⟩ := hreplaced.of_failed hn hfault
    have hlen : replaced.handed.length = n + 1 := by
      rw [Pass.handed, List.length_map]
      exact hlength
    have hle := hhanded.length_le
    exact ⟨by omega, hlen ▸ List.prefix_iff_eq_take.mp hhanded, eq_error_of_ending hresult⟩
  · intro before after site fault hsites hbefore hparse hcalls
    rw [hsites] at hreplaced hdiscovered
    exact ⟨Template.kind_of_parse_error hparse,
      eq_error_of_ending (hreplaced.result_of_unparsed hcalls hbefore hparse),
      eq_error_of_ending (hdiscovered.result_of_unparsed hall hbefore hparse)⟩

namespace Example

/-- A callback that answers the first time only. -/
def answersOnce (_ : String) (_ : Template) : ExceptT Fault (StateM Nat) Outcome :=
  ExceptT.mk fun n =>
    if n = 0 then (.ok (.known (.sequence [.string "${z}"])), 1)
    else (.error (Fault.of .strayPathBracket), n + 1)

/-- A visitor that does nothing. -/
def looksOnly (_ : String) (_ : Template) : StateM Unit Unit := pure ()

/-- A list of three templates. -/
def three : Value := .sequence [.string "${a}", .string "${b}", .string "${c}"]

/-- The second call fails, so the third template is not handed to the callback. -/
theorem three_second_fails :
    let replaced := Pass.ofRun 0 (substitute (recorded answersOnce) three)
    let discovered := Pass.ofRun () (visitAll (recorded (unfailing looksOnly)) three)
    replaced.handed = discovered.handed.take 2
      ∧ replaced.result = .error (addPath "[1]" (Fault.of .strayPathBracket)) := by
  intro replaced discovered
  have hsecond : replaced.calls[1]? = some
      { path := "[1]", template := ⟨"${b}", [.interpolation (.variable "b")]⟩,
        answer := .error (Fault.of .strayPathBracket) } := by
    with_unfolding_all rfl
  exact ((substitute_calls_agree answersOnce looksOnly three 0 ()).2.2.1 1 _ _ hsecond rfl).2

end Example

end TemplatedConfig.Traversal
