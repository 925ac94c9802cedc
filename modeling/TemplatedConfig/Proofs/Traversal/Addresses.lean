/-
# What the reported paths are addresses of

Resolving a body reports the path of each template whose value is not known.  The paths are those
of the walk over the body as it was loaded, so they lead to the templates there.  In the resolved
tree they lead to the mark only as long as nothing has moved: a list that a template gives is put
into the list around the template, and everything behind it changes its position.

`Scope.KeepsPlaces` says that nothing has moved on the way along a path: in each list, what stands
before the position takes up as many places as it did (`Scope.places`), and the item itself takes
up one.  Then the same path leads to the mark in the resolved tree.  Without that it need not, and
`shifted_path_is_no_address` is a body for which it does not.

Main statement: `reports_are_addresses`.
-/
import Mathlib.Algebra.Ring.Nat
import TemplatedConfig.Proofs.Traversal.Shape
import TemplatedConfig.Proofs.Traversal.Sites

namespace TemplatedConfig

open Traversal

/-! ## 1. Places in a list -/

namespace Scope

/-- The number of places that an item of a sequence takes up after it is resolved. -/
def places (s : Scope) : Value → Nat
  | .string text =>
    if Template.isTemplate text then
      match (Template.parse text).bind s.fill with
      | .ok (.known (.sequence items)) => items.length
      | _ => 1
    else 1
  | _ => 1

/-- At a step into a sequence, what stands before the position takes up as many places as it did,
and the item itself takes up one. -/
def KeepsPlace (s : Scope) (v : Value) : Step → Prop
  | .key _ => True
  | .index position => ∀ items, v.items? = some items →
      ((items.take position).map s.places).sum = position
        ∧ ∀ item, items[position]? = some item → s.places item = 1

/-- The same at every step on the way from a value to one of its parts. -/
def KeepsPlaces (s : Scope) : Value → List Step → Prop
  | _, [] => True
  | v, step :: rest =>
    s.KeepsPlace v step ∧ ∀ w, v.child? step = some w → s.KeepsPlaces w rest

end Scope

namespace Traversal

variable {s : Scope} {path : String} {r : Substituted}

/-- What is put in the place of an item takes up the places of the item. -/
theorem length_splice {v : Value}
    (h : substituteAt (m := Id) (fun _ t => s.fill t) path v = .ok r) :
    (splice v r.value).length = s.places v := by
  by_cases htemplate : v.isTemplate = true
  · cases v with
    | string text =>
      have htext : Template.isTemplate text = true := htemplate
      obtain ⟨outcome, hfill, rfl⟩ := (substituteAt_template_eq_ok_iff htext).mp h
      rw [Scope.places, if_pos htext, hfill]
      cases outcome with
      | unknown => rfl
      | known w => cases w <;> simp [ofOutcome, splice, htemplate]
    | _ => cases htemplate
  · have hone : (splice v r.value).length = 1 := by
      unfold splice
      split
      · rw [if_neg htemplate, List.length_singleton]
      · rfl
    rw [hone]
    cases v with
    | string text =>
      have htext : ¬ Template.isTemplate text = true := htemplate
      rw [Scope.places, if_neg htext]
    | _ => rfl

/-- What is put in the place of the items takes up their places. -/
theorem map_length_pieces {items : List Value} {results : List Substituted}
    (h : items.zipIdx.mapM (m := Except Fault) (fun e =>
      substituteAt (m := Id) (fun _ t => s.fill t) (Path.item path e.2) e.1) = .ok results) :
    ((items.zip results).map fun e => splice e.1 e.2.value).map List.length
      = items.map s.places := by
  have hlength : results.length = items.length := by simpa using length_of_mapM_eq_ok h
  have hitems : (items.zip results).map Prod.fst = items :=
    List.map_fst_zip (Nat.le_of_eq hlength.symm)
  have hpieces : ∀ e ∈ items.zip results, (splice e.1 e.2.value).length = s.places e.1 := by
    intro e he
    obtain ⟨position, hposition⟩ := List.mem_iff_getElem?.mp he
    obtain ⟨hitem, hresult⟩ := List.getElem?_zip_eq_some.mp hposition
    obtain ⟨v, hv, hstep⟩ := exists_item_of_getElem? h hresult
    rw [hitem] at hv
    cases hv
    exact length_splice hstep
  calc ((items.zip results).map fun e => splice e.1 e.2.value).map List.length
      = (items.zip results).map (s.places ∘ Prod.fst) := by
        rw [List.map_map]
        exact List.map_congr_left hpieces
    _ = items.map s.places := by rw [← List.map_map, hitems]

/-- An item that takes up one place stands there as its result, or is a template and stands there
as the one item of its result. -/
theorem splice_eq_singleton {item result : Value} (h : (splice item result).length = 1) :
    ∃ w, splice item result = [w]
      ∧ (w = result ∨ item.isTemplate = true ∧ result = .sequence [w]) := by
  obtain ⟨w, hw⟩ := List.length_eq_one_iff.mp h
  refine ⟨w, hw, ?_⟩
  unfold splice at hw
  split at hw
  · split at hw
    · rename_i htemplate
      exact .inr ⟨htemplate, by rw [hw]⟩
    · exact .inl (List.singleton_inj.mp hw).symm
  · exact .inl (List.singleton_inj.mp hw).symm

/-- The one element of a member stands where the member stood if as much stands before it. -/
theorem getElem?_flatten {α : Type} {pieces : List (List α)} {position : Nat} {a : α}
    (hpiece : pieces[position]? = some [a])
    (hbefore : ((pieces.map List.length).take position).sum = position) :
    pieces.flatten[position]? = some a := by
  obtain ⟨hlt, hget⟩ := List.getElem?_eq_some_iff.mp hpiece
  have hsplit : pieces = pieces.take position ++ [a] :: pieces.drop (position + 1) := by
    rw [← hget, ← List.drop_eq_getElem_cons hlt, List.take_append_drop]
  have hlength : (pieces.take position).flatten.length = position := by
    rw [List.length_flatten, List.map_take, hbefore]
  rw [hsplit, List.flatten_append, List.getElem?_append_right (Nat.le_of_eq hlength), hlength,
    Nat.sub_self]
  rfl

/-! ## 2. Addresses -/

/-- Steps that lead from a value at `path` to where the path `p` points: to a template in the
value as it was loaded, and to the mark in its result unless something has moved. -/
structure Address (s : Scope) (path : String) (v result : Value) (p : String)
    (steps : List Step) : Prop where
  nameable : ∀ step ∈ steps, Path.Nameable step
  path_eq : p = Path.extendAll path steps
  template : ∃ text, Template.isTemplate text = true ∧ v.descend? steps = some (.string text)
  found : s.KeepsPlaces v steps → ∃ w, result.descend? steps = some w ∧ w.hasUnknown = true

/-- **One step further out.**  If the part that a step leads to has an address, so has the whole,
provided that the step leads to the same part of the result when nothing has moved. -/
theorem Address.step {v w result result' : Value} {step : Step} {p : String} {steps : List Step}
    (haddress : Address s (Path.extend path step) w result p steps)
    (hstep : Path.Nameable step) (hchild : v.child? step = some w)
    (hresult : s.KeepsPlace v step → ∃ w', result'.child? step = some w'
      ∧ (w' = result ∨ w.isTemplate = true ∧ result = .sequence [w'])) :
    Address s path v result' p (step :: steps) where
  nameable := List.forall_mem_cons.mpr ⟨hstep, haddress.nameable⟩
  path_eq := haddress.path_eq
  template := by
    obtain ⟨text, htemplate, htext⟩ := haddress.template
    exact ⟨text, htemplate, Option.bind_eq_some_iff.mpr ⟨w, hchild, htext⟩⟩
  found := by
    rintro ⟨hplace, hrest⟩
    obtain ⟨w', hchild', hw'⟩ := hresult hplace
    obtain ⟨u, hu, hmark⟩ := haddress.found (hrest w hchild)
    rcases hw' with rfl | ⟨htemplate, rfl⟩
    · exact ⟨u, Option.bind_eq_some_iff.mpr ⟨w', hchild', hu⟩, hmark⟩
    · obtain ⟨text, -, htext⟩ := haddress.template
      obtain rfl := Value.eq_nil_of_descend? htemplate htext
      cases hu
      rw [Value.hasUnknown_sequence, List.any_cons, List.any_nil, Bool.or_false] at hmark
      exact ⟨w', Option.bind_eq_some_iff.mpr ⟨w', hchild', rfl⟩, hmark⟩

/-- A report that a template leaves behind is about the mark in its place. -/
theorem address_of_template {text : String} (htemplate : Template.isTemplate text = true)
    {outcome : Outcome} {p : String} (hp : p ∈ (ofOutcome path outcome).unknownPaths) :
    Address s path (.string text) (ofOutcome path outcome).value p [] where
  nameable := fun _ h => (List.not_mem_nil h).elim
  path_eq := (mem_unknownPaths_ofOutcome.mp hp).1
  template := ⟨text, htemplate, rfl⟩
  found := fun _ => ⟨_, rfl, (mem_unknownPaths_ofOutcome.mp hp).2⟩

/-- **Every report has an address.** -/
theorem exists_address {v : Value} (hv : v.Addressable)
    (h : substituteAt (m := Id) (fun _ t => s.fill t) path v = .ok r) {p : String}
    (hp : p ∈ r.unknownPaths) : ∃ steps, Address s path v r.value p steps := by
  induction v using Value.inductionOn generalizing path r with
  | scalar v hscalar =>
    by_cases htemplate : v.isTemplate = true
    · cases v with
      | string text =>
        obtain ⟨outcome, -, rfl⟩ := (substituteAt_template_eq_ok_iff htemplate).mp h
        exact ⟨[], address_of_template htemplate hp⟩
      | _ => cases htemplate
    · rw [substituteAt_scalar hscalar (Bool.eq_false_iff.mpr htemplate)] at h
      cases h
      cases hp
  | sequence items ih =>
    obtain ⟨results, hresults, rfl⟩ := substituteAt_sequence_eq_ok_iff.mp h
    obtain ⟨hlength, hitems⟩ := hv
    obtain ⟨r', hr', hp⟩ := List.mem_flatMap.mp hp
    obtain ⟨position, hposition⟩ := List.mem_iff_getElem?.mp hr'
    obtain ⟨w, hw, hstep⟩ := exists_item_of_getElem? hresults hposition
    have hmem : w ∈ items := List.mem_of_getElem? hw
    obtain ⟨steps, haddress⟩ := ih w hmem (Value.itemsAddressable_iff.mp hitems w hmem) hstep hp
    have hlt : position < Nat.pow 2 64 :=
      Nat.lt_of_lt_of_le (List.getElem?_eq_some_iff.mp hw).1 hlength
    refine ⟨.index position :: steps, haddress.step hlt hw fun hplace => ?_⟩
    obtain ⟨hbefore, hone⟩ := hplace items rfl
    obtain ⟨w', hpiece, hw'⟩ :=
      splice_eq_singleton ((length_splice hstep).trans (hone w hw))
    have hpieces : ((items.zip results).map fun e => splice e.1 e.2.value)[position]?
        = some [w'] := by
      have hzip : (items.zip results)[position]? = some (w, r') :=
        List.getElem?_zip_eq_some.mpr ⟨hw, hposition⟩
      rw [List.getElem?_map, hzip, ← hpiece]
      rfl
    refine ⟨w', ?_, hw'⟩
    show ((items.zip results).flatMap fun e => splice e.1 e.2.value)[position]? = some w'
    rw [List.flatMap_def]
    refine getElem?_flatten hpieces ?_
    rw [map_length_pieces hresults, ← List.map_take, hbefore]
  | mapping fields ih =>
    obtain ⟨results, hresults, rfl⟩ := substituteAt_mapping_eq_ok_iff.mp h
    obtain ⟨hdistinct, hplain, hfields⟩ := hv
    have hkeys : results.keys = Fields.keys fields :=
      (map_eq_map_of_mapM_eq_ok (fun _ _ hstep => key_of_substituteEntry hstep) hresults).symm
    obtain ⟨e, he, hp⟩ := List.mem_flatMap.mp hp
    have he : e ∈ results := List.mem_mergeSort.mp he
    obtain ⟨entry, hentry, hstep⟩ := (mem_of_mapM_eq_ok hresults).2 e he
    obtain ⟨result, hvalue, rfl⟩ := exists_of_map_eq_ok hstep
    obtain ⟨steps, haddress⟩ :=
      ih entry hentry (Value.fieldsAddressable_iff.mp hfields entry hentry) hvalue hp
    have hfound : Fields.get? (results.mapValues Substituted.value) entry.1
        = some result.value := by
      refine Fields.get?_of_mem ?_ (List.mem_map_of_mem he)
      rw [Fields.keys_mapValues, hkeys]
      exact hdistinct
    exact ⟨.key entry.1 :: steps, haddress.step (hplain _ (List.mem_map_of_mem hentry))
      (Fields.get?_of_mem hdistinct hentry) fun _ => ⟨result.value, hfound, .inl rfl⟩⟩

end Traversal

/-! ## 3. Bodies -/

/-- **The reported paths are addresses.**  Each leads to a template in the body as it was loaded.
If nothing has moved on the way, it leads to the mark in the resolved body. -/
theorem reports_are_addresses {body : Body} (hbody : body.raw.Addressable) {s : Scope}
    {r : Resolution} (h : body.resolveIn s = .ok r) :
    ∀ p ∈ r.unknownPaths, ∃ steps, Path.steps p.toList = steps.map .ok
      ∧ (∃ text, Template.isTemplate text = true ∧ body.raw.atPath p = .ok (.string text))
      ∧ (s.KeepsPlaces body.raw steps →
          ∃ w, r.value.atPath p = .ok w ∧ w.hasUnknown = true) := by
  intro p hp
  obtain ⟨replaced, hreplaced, hr⟩ := exists_of_bind_eq_ok h
  cases hr
  obtain ⟨steps, haddress⟩ := exists_address hbody hreplaced hp
  obtain rfl := haddress.path_eq
  refine ⟨steps, Path.steps_extendAll haddress.nameable, ?_, fun hkeeps => ?_⟩
  · obtain ⟨text, htemplate, htext⟩ := haddress.template
    exact ⟨text, htemplate, Value.atPath_extendAll haddress.nameable htext⟩
  · obtain ⟨w, hw, hmark⟩ := haddress.found hkeeps
    exact ⟨w, Value.atPath_extendAll haddress.nameable hw, hmark⟩

namespace Example

/-- Ports from two variables. -/
def ports : Body where
  key := "pool.web"
  raw := .mapping [("ports", .sequence [.string "${var.first}", .string "${var.second}"])]
  templates := [⟨"${var.first}", [.interpolation (.variable "var.first")]⟩,
    ⟨"${var.second}", [.interpolation (.variable "var.second")]⟩]
  references := [⟨"first", "var.first"⟩, ⟨"second", "var.second"⟩]

/-- The second variable is not known yet. -/
def portsScope (first : List Value) : Scope where
  bindings := ⟨[("first", .sequence first), ("second", Value.unknown)]⟩
  functions := Registry.builtins

theorem isTemplate_first : Template.isTemplate "${var.first}" = true := by decide +kernel

theorem isTemplate_second : Template.isTemplate "${var.second}" = true := by decide +kernel

theorem parse_first : Template.parse "${var.first}"
    = .ok ⟨"${var.first}", [.interpolation (.variable "var.first")]⟩ := by
  with_unfolding_all rfl

theorem parse_second : Template.parse "${var.second}"
    = .ok ⟨"${var.second}", [.interpolation (.variable "var.second")]⟩ := by
  with_unfolding_all rfl

theorem resolveIn_ports (first : List Value) (h : (Value.sequence first).hasUnknown = false) :
    ports.resolveIn (portsScope first)
      = .ok ⟨.mapping [("ports", .sequence (first ++ [Value.unknown]))], ["ports[1]"]⟩ := by
  have hfirst : substituteAt (m := Id) (fun _ t => (portsScope first).fill t) "ports[0]"
      (.string "${var.first}") = .ok ⟨.sequence first, []⟩ :=
    (substituteAt_template_eq_ok_iff isTemplate_first).mpr
      ⟨.known (.sequence first), by rw [parse_first]; rfl, by rw [ofOutcome, h]; rfl⟩
  have hsecond : substituteAt (m := Id) (fun _ t => (portsScope first).fill t) "ports[1]"
      (.string "${var.second}") = .ok ⟨Value.unknown, ["ports[1]"]⟩ :=
    (substituteAt_template_eq_ok_iff isTemplate_second).mpr
      ⟨.unknown, by rw [parse_second]; rfl, rfl⟩
  have hlist : substituteAt (m := Id) (fun _ t => (portsScope first).fill t) "ports"
      (.sequence [.string "${var.first}", .string "${var.second}"])
      = .ok ⟨.sequence (first ++ [Value.unknown]), ["ports[1]"]⟩ := by
    refine substituteAt_sequence_eq_ok_iff.mpr
      ⟨[⟨.sequence first, []⟩, ⟨Value.unknown, ["ports[1]"]⟩], ?_, ?_⟩
    · exact mapM_eq_ok_iff.mpr (congr (congrArg (fun a b => [a, b]) hfirst) hsecond)
    · simp [ofItems, splice, Value.isTemplate, Value.unknown, isTemplate_first]
  have hraw : substitute (m := Id) (fun _ t => (portsScope first).fill t) ports.raw
      = .ok ⟨.mapping [("ports", .sequence (first ++ [Value.unknown]))], ["ports[1]"]⟩ :=
    substitute_singleton hlist
  rw [Body.resolveIn, hraw]
  rfl

theorem plainKey_ports : Path.PlainKey "ports" := ⟨by decide, by simp [Path.endsKey]⟩

theorem addressable_ports : ports.raw.Addressable := by
  refine ⟨by decide +kernel, ?_, ⟨?_, trivial, trivial, trivial⟩, trivial⟩
  · intro key hkey
    rw [List.mem_singleton.mp hkey]
    exact plainKey_ports
  · show 2 ≤ Nat.pow 2 64
    decide +kernel

/-- The way to the second variable. -/
def second : List Step := [.key "ports", .index 1]

theorem nameable_second : ∀ step ∈ second, Path.Nameable step :=
  List.forall_mem_cons.mpr ⟨plainKey_ports, List.forall_mem_singleton.mpr
    (show 1 < Nat.pow 2 64 by decide +kernel)⟩

theorem extendAll_second : Path.extendAll "" second = "ports[1]" := by decide +kernel

/-- A list of one item moves nothing, so the path of the second variable leads to the mark. -/
theorem one_port_is_addressed :
    (portsScope [.integer 80]).KeepsPlaces ports.raw second
      ∧ ∃ w, (Value.mapping [("ports", .sequence [.integer 80, Value.unknown])]).atPath "ports[1]"
          = .ok w ∧ w.hasUnknown = true := by
  have hfirst : (portsScope [.integer 80]).places (.string "${var.first}") = 1 := by
    rw [Scope.places, if_pos isTemplate_first, parse_first]
    rfl
  have hsecond : (portsScope [.integer 80]).places (.string "${var.second}") = 1 := by
    rw [Scope.places, if_pos isTemplate_second, parse_second]
    rfl
  have hkeeps : (portsScope [.integer 80]).KeepsPlaces ports.raw second := by
    refine ⟨trivial, fun list hlist => ?_⟩
    cases hlist
    refine ⟨fun items hitems => ?_, fun _ _ => trivial⟩
    cases hitems
    refine ⟨?_, fun item hitem => ?_⟩
    · simp [hfirst]
    · cases hitem
      exact hsecond
  obtain ⟨steps, hsteps, -, hfound⟩ := reports_are_addresses addressable_ports
    (resolveIn_ports [.integer 80] rfl) "ports[1]" List.mem_cons_self
  have hsecond := Path.steps_extendAll nameable_second
  rw [extendAll_second, hsteps] at hsecond
  obtain rfl := (List.map_inj_right fun _ _ h => Except.ok.inj h).mp hsecond
  exact ⟨hkeeps, hfound hkeeps⟩

/-- Of two ports the second stands where the second variable stood, so the path of the variable
leads to a port that is known. -/
theorem shifted_path_is_no_address :
    ports.raw.Addressable
      ∧ ports.resolveIn (portsScope [.integer 80, .integer 443])
        = .ok ⟨.mapping [("ports", .sequence [.integer 80, .integer 443, Value.unknown])],
            ["ports[1]"]⟩
      ∧ (Value.mapping [("ports", .sequence [.integer 80, .integer 443, Value.unknown])]).atPath
          "ports[1]" = .ok (.integer 443)
      ∧ (Value.integer 443).hasUnknown = false := by
  refine ⟨addressable_ports, resolveIn_ports [.integer 80, .integer 443] rfl, ?_, rfl⟩
  rw [← extendAll_second]
  exact Value.atPath_extendAll nameable_second rfl

end Example

end TemplatedConfig
