/-
# An override is a changed default

An override `NAME=VALUE` lays a value over the default of a variable.  It is the same as loading
the configuration with another default in the first place: the bindings are the defaults of the
configuration in which each overridden variable has its last value as default, and behind them
stand the names that are not declared (`overrides_change_defaults`).

The two come to agree one override at a time.  `Config.boundWith` says what the bindings are after
some overrides, and adding one more to them gives what it says of one override more
(`addOverride_boundWith`).  That a variable is then bound to a value of its type is a property of
normalized variables, which those of a loaded configuration are, overridden or not
(`Variable.IsNormal.takes`).
-/
import TemplatedConfig.Proofs.Config.Rereading
import TemplatedConfig.Cli.Override

namespace TemplatedConfig

/-! ## 1. Changed defaults -/

/-- The value that overrides give last to a name. -/
def lastGiven? (overrides : List (String × Value)) (name : String) : Option Value :=
  Fields.get? overrides.reverse name

/-- A variable with the value as default that overrides give last to it. -/
def Variable.overridden (overrides : List (String × Value)) (v : Variable) : Variable :=
  match lastGiven? overrides v.name with
  | none => v
  | some value => { v with default := some value.canonical }

namespace Config

/-- A configuration with the defaults that overrides give. -/
def overridden (overrides : List (String × Value)) (c : Config) : Config :=
  { c with inputs := c.inputs.map (·.overridden overrides) }

/-- The overrides of names that are not declared. -/
def undeclared (overrides : List (String × Value)) (c : Config) : List (String × Value) :=
  overrides.filter fun o => (c.findVariable? o.1).isNone

/-- What overrides bind: the changed defaults, and then the names that are not declared. -/
def boundWith (overrides : List (String × Value)) (c : Config) : Bindings where
  values := (c.overridden overrides).defaults.values ++ Fields.ofList (c.undeclared overrides)

/-- An override is accepted: if the name is declared, the variable can be normalized with the value
as default. -/
def Accepts (c : Config) (o : String × Value) : Prop :=
  ∀ v, c.findVariable? o.1 = some v → ∃ w, Variable.normalize { v with default := some o.2 } = .ok w

end Config

theorem lastGiven?_concat (overrides : List (String × Value)) (o : String × Value) (name : String) :
    lastGiven? (overrides ++ [o]) name
      = if o.1 = name then some o.2 else lastGiven? overrides name := by
  rw [lastGiven?, List.reverse_concat]
  rfl

namespace Variable

/-- An override keeps the name of a variable. -/
theorem name_overridden (overrides : List (String × Value)) (v : Variable) :
    (v.overridden overrides).name = v.name := by
  unfold overridden
  split <;> rfl

/-- An override of a variable is what its default is then. -/
theorem overridden_of_given {overrides : List (String × Value)} {v : Variable} {value : Value}
    (h : lastGiven? overrides v.name = some value) :
    v.overridden overrides = { v with default := some value.canonical } := by
  rw [overridden, h]

/-- An override of another name changes nothing. -/
theorem overridden_concat_of_ne {o : String × Value} {v : Variable} (h : o.1 ≠ v.name)
    (overrides : List (String × Value)) :
    v.overridden (overrides ++ [o]) = v.overridden overrides := by
  rw [overridden, lastGiven?_concat, if_neg h]
  rfl

/-- **A variable that takes a value is normalized with it** to the overridden variable. -/
theorem normalize_eq_overridden {overrides : List (String × Value)} {v w : Variable} {value : Value}
    (hlast : lastGiven? overrides v.name = some value)
    (h : normalize { v with default := some value } = .ok w) : w = v.overridden overrides := by
  rw [(normalize_eq_ok_iff.mp h).2.2, overridden_of_given hlast]
  rfl

end Variable

namespace Config

variable {c : Config}

/-! ## 2. One override more -/

/-- The defaults are bound as they stand, where no name is declared twice. -/
theorem values_defaults (h : (c.inputs.map Variable.name).Nodup) :
    c.defaults.values = (variableFields c.inputs).mapValues defaultOf := by
  have hentries : c.inputs.map (fun v => (v.name, defaultOf v))
      = (variableFields c.inputs).mapValues defaultOf := by
    rw [Fields.mapValues, variableFields, List.map_map]
    rfl
  rw [defaults, hentries]
  refine Fields.ofList_eq_self ?_
  rwa [Fields.keys_mapValues, keys_variableFields]

/-- So are changed ones. -/
theorem values_defaults_overridden (h : (c.inputs.map Variable.name).Nodup)
    (overrides : List (String × Value)) :
    (c.overridden overrides).defaults.values
      = (variableFields c.inputs).mapValues fun v => defaultOf (v.overridden overrides) := by
  have hnames : (c.overridden overrides).inputs.map Variable.name
      = c.inputs.map Variable.name := by
    rw [overridden, List.map_map]
    exact List.map_congr_left fun v _ => v.name_overridden overrides
  rw [values_defaults (hnames ▸ h), overridden, variableFields, variableFields, List.map_map,
    Fields.mapValues, Fields.mapValues, List.map_map, List.map_map]
  exact List.map_congr_left fun v _ => by
    rw [Function.comp_apply, Function.comp_apply, Function.comp_apply, v.name_overridden]

/-- A variable is found under its name. -/
theorem findVariable?_eq_some_iff (h : (c.inputs.map Variable.name).Nodup) {name : String}
    {v : Variable} : c.findVariable? name = some v ↔ v ∈ c.inputs ∧ v.name = name := by
  rw [findVariable?, ← get?_variableFields]
  constructor
  · intro hget
    obtain ⟨w, hw, hsame⟩ := List.mem_map.mp (Fields.mem_of_get? hget)
    obtain ⟨rfl, rfl⟩ := Prod.mk.inj hsame
    exact ⟨hw, rfl⟩
  · rintro ⟨hv, rfl⟩
    rw [← keys_variableFields] at h
    exact Fields.get?_of_mem h (List.mem_map_of_mem hv)

/-- Without overrides, the defaults are bound. -/
theorem boundWith_nil (c : Config) : c.boundWith [] = c.defaults := by
  have hinputs : c.inputs.map (·.overridden []) = c.inputs := map_eq_self fun _ _ => rfl
  rw [boundWith, overridden, hinputs]
  exact congrArg Bindings.mk (List.append_nil _)

/-- An override of a name that is not declared binds that name, behind the others. -/
theorem boundWith_concat_of_undeclared (h : (c.inputs.map Variable.name).Nodup)
    (overrides : List (String × Value)) {o : String × Value} (hnone : c.findVariable? o.1 = none) :
    c.boundWith (overrides ++ [o]) = (c.boundWith overrides).insert o.1 o.2 := by
  have hnew : o.1 ∉ (variableFields c.inputs).keys := by
    rw [← Fields.isSome_get?_iff, get?_variableFields, ← findVariable?, hnone]
    exact Bool.noConfusion
  have hsame : c.overridden (overrides ++ [o]) = c.overridden overrides := by
    refine congrArg (fun inputs => { c with inputs }) (List.map_congr_left fun v hv => ?_)
    refine Variable.overridden_concat_of_ne (fun hname => hnew ?_) overrides
    rw [hname, keys_variableFields]
    exact List.mem_map_of_mem hv
  have hlast : c.undeclared (overrides ++ [o]) = c.undeclared overrides ++ [o] := by
    rw [undeclared, List.filter_append, ← undeclared, List.filter_cons_of_pos (by rw [hnone]; rfl)]
    rfl
  have hset : Fields.ofList (c.undeclared overrides ++ [o])
      = (Fields.ofList (c.undeclared overrides)).insert o.1 o.2 :=
    List.foldl_concat _ _ _ _
  rw [boundWith, boundWith, hsame, hlast, hset, Bindings.insert, Fields.insert_append_of_not_mem]
  rwa [values_defaults_overridden h, Fields.keys_mapValues]

/-- An override of a variable changes its default. -/
theorem boundWith_concat_of_declared (h : (c.inputs.map Variable.name).Nodup)
    (overrides : List (String × Value)) {o : String × Value} {v : Variable}
    (hsome : c.findVariable? o.1 = some v) :
    c.boundWith (overrides ++ [o]) = (c.boundWith overrides).insert o.1 o.2.canonical := by
  have hnodup : (variableFields c.inputs).keys.Nodup := by rwa [keys_variableFields]
  have hkey : o.1 ∈ (variableFields c.inputs).keys := by
    rw [← Fields.isSome_get?_iff, get?_variableFields, ← findVariable?, hsome]
    rfl
  have hlast : c.undeclared (overrides ++ [o]) = c.undeclared overrides := by
    rw [undeclared, List.filter_append, ← undeclared,
      List.filter_cons_of_neg (by rw [hsome]; exact Bool.noConfusion)]
    exact List.append_nil _
  have hset : Fields.insert
        ((variableFields c.inputs).mapValues fun v => defaultOf (v.overridden overrides))
        o.1 o.2.canonical
      = (variableFields c.inputs).mapValues fun v =>
          defaultOf (v.overridden (overrides ++ [o])) := by
    refine Fields.insert_mapValues hnodup hkey (fun w hw => ?_) fun e he hne => ?_
    · obtain ⟨u, -, hsame⟩ := List.mem_map.mp hw
      obtain ⟨hname, rfl⟩ := Prod.mk.inj hsame
      have hgiven : lastGiven? (overrides ++ [o]) u.name = some o.2 := by
        rw [lastGiven?_concat, if_pos hname.symm]
      rw [Variable.overridden_of_given hgiven]
      rfl
    · obtain ⟨w, -, rfl⟩ := List.mem_map.mp he
      rw [Variable.overridden_concat_of_ne (Ne.symm hne)]
  rw [boundWith, boundWith, hlast, Bindings.insert, values_defaults_overridden h,
    values_defaults_overridden h, ← hset, Fields.insert_append_of_mem]
  rwa [Fields.keys_mapValues]

end Config

namespace Cli

variable {decode : String → Option Value} {c : Config}

/-- The value of a variable is checked and brought into canonical form. -/
theorem checkedValue_eq_ok_iff {argument : String} {o : String × Value} {value : Value} :
    checkedValue c argument o.1 o.2 = .ok value
      ↔ c.Accepts o
        ∧ value = if (c.findVariable? o.1).isSome then o.2.canonical else o.2 := by
  unfold checkedValue Config.Accepts
  cases c.findVariable? o.1 with
  | none =>
    constructor
    · intro h
      cases h
      exact ⟨fun _ hv => (nomatch hv), rfl⟩
    · rintro ⟨-, rfl⟩
      rfl
  | some v =>
    dsimp only
    cases hnormal : Variable.normalize { v with default := some o.2 } with
    | error fault =>
      constructor
      · intro h
        cases h
      · rintro ⟨haccepts, -⟩
        obtain ⟨w, hw⟩ := haccepts v rfl
        rw [hnormal] at hw
        cases hw
    | ok w =>
      obtain ⟨-, -, rfl⟩ := Variable.normalize_eq_ok_iff.mp hnormal
      constructor
      · intro h
        cases h
        refine ⟨fun u hu => ?_, rfl⟩
        cases hu
        exact ⟨_, hnormal⟩
      · rintro ⟨-, rfl⟩
        rfl

/-- **One override more is bound** if it is accepted, and then to what it says. -/
theorem addOverride_boundWith (h : (c.inputs.map Variable.name).Nodup)
    (overrides : List (String × Value)) {argument : String} {o : String × Value}
    (hparse : parseOverride decode argument = .ok o) {b : Bindings} :
    addOverride decode c (c.boundWith overrides) argument = .ok b
      ↔ c.Accepts o ∧ b = c.boundWith (overrides ++ [o]) := by
  have hstep : addOverride decode c (c.boundWith overrides) argument
      = (checkedValue c argument o.1 o.2).map fun value =>
          (c.boundWith overrides).insert o.1 value := by
    rw [addOverride, hparse]
    show (checkedValue c argument o.1 o.2 >>= fun value => _) = _
    cases checkedValue c argument o.1 o.2 <;> rfl
  have hbound : (c.boundWith overrides).insert o.1
        (if (c.findVariable? o.1).isSome then o.2.canonical else o.2)
      = c.boundWith (overrides ++ [o]) := by
    cases hfind : c.findVariable? o.1 with
    | none => exact (c.boundWith_concat_of_undeclared h overrides hfind).symm
    | some v => exact (c.boundWith_concat_of_declared h overrides hfind).symm
  rw [hstep, map_eq_ok_iff]
  constructor
  · rintro ⟨value, hvalue, rfl⟩
    obtain ⟨haccepts, rfl⟩ := checkedValue_eq_ok_iff.mp hvalue
    exact ⟨haccepts, hbound⟩
  · rintro ⟨haccepts, rfl⟩
    exact ⟨_, checkedValue_eq_ok_iff.mpr ⟨haccepts, rfl⟩, hbound⟩

/-- **Overrides are bound one after another** if all are accepted. -/
theorem foldlM_addOverride_boundWith (h : (c.inputs.map Variable.name).Nodup)
    (before : List (String × Value)) {arguments : List String} {overrides : List (String × Value)}
    (hparse : arguments.mapM (parseOverride decode) = .ok overrides) {b : Bindings} :
    arguments.foldlM (addOverride decode c) (c.boundWith before) = .ok b
      ↔ (∀ o ∈ overrides, c.Accepts o) ∧ b = c.boundWith (before ++ overrides) := by
  -- The bindings that a step starts from are those of the overrides before it, so these grow by one
  -- at each step.
  induction arguments generalizing before overrides with
  | nil =>
    obtain rfl : overrides = [] := (Except.ok.inj hparse).symm
    rw [List.append_nil]
    constructor
    · intro hb
      cases hb
      exact ⟨fun _ ho => (List.not_mem_nil ho).elim, rfl⟩
    · rintro ⟨-, rfl⟩
      rfl
  | cons argument rest ih =>
    obtain ⟨o, more, ho, hmore, rfl⟩ := mapM_cons_eq_ok_iff.mp hparse
    rw [List.foldlM_cons, bind_eq_ok_iff, List.forall_mem_cons]
    constructor
    · rintro ⟨next, hnext, hb⟩
      obtain ⟨haccepts, rfl⟩ := (addOverride_boundWith h before ho).mp hnext
      obtain ⟨hrest, rfl⟩ := (ih (before ++ [o]) hmore).mp hb
      exact ⟨⟨haccepts, hrest⟩, by rw [List.append_assoc]; rfl⟩
    · rintro ⟨⟨haccepts, hrest⟩, rfl⟩
      refine ⟨_, (addOverride_boundWith h before ho).mpr ⟨haccepts, rfl⟩, ?_⟩
      exact (ih (before ++ [o]) hmore).mpr ⟨hrest, by rw [List.append_assoc]; rfl⟩

/-- So are those that the program is given. -/
theorem bindingsWith_eq_ok_iff (h : (c.inputs.map Variable.name).Nodup) {arguments : List String}
    {overrides : List (String × Value)}
    (hparse : arguments.mapM (parseOverride decode) = .ok overrides) {b : Bindings} :
    bindingsWith decode c arguments = .ok b
      ↔ (∀ o ∈ overrides, c.Accepts o) ∧ b = c.boundWith overrides := by
  rw [bindingsWith, ← c.boundWith_nil]
  exact foldlM_addOverride_boundWith h [] hparse

/-- An override never gives null. -/
theorem ne_null_of_parseOverride {argument : String} {o : String × Value}
    (h : parseOverride decode argument = .ok o) : o.2 ≠ .null := by
  have hvalue : ∀ text, valueOf decode text ≠ .null := by
    intro text
    unfold valueOf
    cases decode text with
    | none => exact Value.noConfusion
    | some v => cases v <;> exact Value.noConfusion
  unfold parseOverride at h
  split at h
  · cases h
  · dsimp only at h
    split at h
    · cases h
    · rw [← Except.ok.inj h]
      exact hvalue _

end Cli

/-! ## 3. Values of their type -/

/-- A value is one that a variable may be bound to: a string, a sequence or a mapping, and of the
declared type if there is one, unless it stands for a value that is not known yet. -/
structure Variable.Takes (v : Variable) (value : Value) : Prop where
  shape : value.kind = .string ∨ value.kind = .sequence ∨ value.kind = .mapping
  typed : ∀ word, v.declared = some word → value.isUnknown = false →
    ∃ type, VariableType.ofDeclared? word = some type
      ∧ value.inferredType = type ∧ type.kind? = some value.kind

/-- A variable is normalized already, and its default is not null. -/
structure Variable.IsNormal (v : Variable) : Prop where
  normal : v.normalize = .ok v
  given : v.default ≠ some .null

namespace Variable

/-- **A normalized variable takes its default.** -/
theorem IsNormal.takes {v : Variable} (h : v.IsNormal) : v.Takes (Config.defaultOf v) := by
  obtain ⟨-, hdefault, hself⟩ := normalize_eq_ok_iff.mp h.normal
  rw [Config.defaultOf]
  cases hsome : v.default with
  | none => exact ⟨.inl rfl, fun _ _ hknown => by cases hknown⟩
  | some value =>
    -- Normalizing changes nothing more, so the default is a canonical form and has the shape that
    -- its type says.
    have hcanonical : some value = some value.canonical := by
      rw [← hsome, congrArg Variable.default hself, default_canonical hsome]
    have hkind : value.inferredType.kind? = some value.kind := by
      have hnull : value ≠ .null := fun hnull => h.given (hnull ▸ hsome)
      rw [Value.kind?_inferredType hnull, ← Option.some.inj hcanonical]
    exact ⟨VariableType.eq_of_kind?_eq_some hkind, fun word hword _ =>
      ⟨_, ofDeclared?_of_checkDefault hword hkind (hdefault value hsome), rfl, hkind⟩⟩

/-- **A normalized variable that is overridden** with values that are accepted and not null is
normalized still, and declared as before. -/
theorem IsNormal.overridden {v : Variable} (h : v.IsNormal) {overrides : List (String × Value)}
    (haccepts : ∀ value, (v.name, value) ∈ overrides →
      ∃ w, normalize { v with default := some value } = .ok w)
    (hnull : ∀ o ∈ overrides, o.2 ≠ .null) :
    (v.overridden overrides).IsNormal ∧ (v.overridden overrides).declared = v.declared := by
  cases hlast : lastGiven? overrides v.name with
  | none =>
    have hself : v.overridden overrides = v := by rw [Variable.overridden, hlast]
    rw [hself]
    exact ⟨h, rfl⟩
  | some value =>
    have hmem : (v.name, value) ∈ overrides := List.mem_reverse.mp (Fields.mem_of_get? hlast)
    obtain ⟨w, hw⟩ := haccepts value hmem
    obtain rfl := normalize_eq_overridden hlast hw
    refine ⟨⟨normalize_normalized hw, ?_⟩, ?_⟩
    · rw [overridden_of_given hlast]
      exact fun hsame => Value.canonical_ne_null (hnull _ hmem) (Option.some.inj hsame)
    · rw [overridden_of_given hlast]

end Variable

namespace Config

/-- **The variables of a loaded configuration are normal.** -/
theorem Restorable.isNormal {g : Name.Grammar} {c : Config} (h : c.Restorable g) {v : Variable}
    (hv : v ∈ c.inputs) : v.IsNormal := by
  have hextracted := (h.inputs v hv).extracted ""
  refine ⟨(of_extractVariable hextracted).2, fun hnull => ?_⟩
  obtain ⟨_, written, -, -, hwritten, hcanonical⟩ :=
    exists_default_of_extractVariable hextracted hnull
  exact Value.canonical_ne_null hwritten hcanonical.symm

end Config

/-! ## 4. All overrides -/

namespace Cli

/-- **An override is a changed default.**  Overrides of a loaded configuration that can be read are
bound exactly if each one of a declared variable leaves a variable that can be normalized.  The
bindings are then the defaults of the configuration in which each overridden variable is normalized
with the last value that it is given, and the last values of the names that are not declared.  Every
declared variable is bound to a string, a sequence or a mapping, and to one of its declared type
unless it is bound to the mark. -/
theorem overrides_change_defaults {g : Name.Grammar} {c : Config} (hloaded : c.Assembled g)
    (decode : String → Option Value) {arguments : List String}
    {overrides : List (String × Value)}
    (hparse : arguments.mapM (parseOverride decode) = .ok overrides) :
    ((∃ b, bindingsWith decode c arguments = .ok b) ↔
      ∀ o ∈ overrides, ∀ v, c.findVariable? o.1 = some v →
        ∃ w, Variable.normalize { v with default := some o.2 } = .ok w)
    ∧ ∀ b, bindingsWith decode c arguments = .ok b →
      b.values = (c.overridden overrides).defaults.values ++ Fields.ofList (c.undeclared overrides)
      ∧ (∀ v ∈ c.inputs, ∀ value, lastGiven? overrides v.name = some value →
        Variable.normalize { v with default := some value } = .ok (v.overridden overrides))
      ∧ ∀ v ∈ c.inputs, ∃ value, b.get? v.name = some value ∧ v.Takes value := by
  have hrestorable := hloaded.restorable
  have hnames := hrestorable.distinct.inputs
  refine ⟨?_, fun b hb => ?_⟩
  · simp only [bindingsWith_eq_ok_iff hnames hparse, exists_and_left, exists_eq, and_true]
    exact Iff.rfl
  obtain ⟨haccepts, rfl⟩ := (bindingsWith_eq_ok_iff hnames hparse).mp hb
  have hgiven : ∀ v ∈ c.inputs, ∀ value, (v.name, value) ∈ overrides →
      ∃ w, Variable.normalize { v with default := some value } = .ok w := fun v hv value hmem =>
    haccepts _ hmem v ((Config.findVariable?_eq_some_iff hnames).mpr ⟨hv, rfl⟩)
  have hnull : ∀ o ∈ overrides, o.2 ≠ .null := by
    intro o ho
    obtain ⟨argument, -, hargument⟩ := (mem_of_mapM_eq_ok hparse).2 o ho
    exact ne_null_of_parseOverride hargument
  refine ⟨rfl, fun v hv value hlast => ?_, fun v hv => ?_⟩
  · obtain ⟨w, hw⟩ := hgiven v hv value (List.mem_reverse.mp (Fields.mem_of_get? hlast))
    rw [hw, Variable.normalize_eq_overridden hlast hw]
  · obtain ⟨hnormal, hdeclared⟩ := (hrestorable.isNormal hv).overridden (hgiven v hv) hnull
    obtain ⟨hshape, htyped⟩ := hnormal.takes
    refine ⟨_, ?_, hshape, hdeclared ▸ htyped⟩
    rw [Bindings.get?, Config.boundWith, Fields.get?_append,
      Config.values_defaults_overridden hnames, Fields.get?_mapValues,
      Config.get?_variableFields, ← Config.findVariable?,
      (Config.findVariable?_eq_some_iff hnames).mpr ⟨hv, rfl⟩]
    rfl

namespace Example

open TemplatedConfig.Example (switch parse_switchedOn)

/-- A document that declares a list without a default. -/
def ports : NamedText where
  text := "\x7b\"variable\":\x7b\"ports\":\x7b\"type\":\"list\"\x7d\x7d\x7d"
  read? := Format.json.read?
  label := "ports.json"

/-- The list, and the switch that is declared in another document. -/
def switchedPorts : Config where
  inputs := [{ name := "debug", default := some (.string "1") },
    { name := "ports", declared := some "list" }]

theorem parse_ports : ports.parse Name.Grammar.standard
    = .ok { inputs := [{ name := "ports", declared := some "list" }] } := by
  refine Config.parseWith_eq_ok_iff.mpr ⟨?document, ?read, ?kept⟩
  case read => cbv; rfl
  case kept => with_unfolding_all rfl

theorem assembled_switchedPorts : switchedPorts.Assembled Name.Grammar.standard :=
  .merged (.parsed parse_switchedOn) (.parsed parse_ports) rfl

/-- A list, a name that is not declared, and the switch twice, at last as a boolean. -/
def arguments : List String := ["ports=[http]", "debug=off", "rack=r1", "debug=false"]

/-- What the arguments say. -/
def overrides : List (String × Value) :=
  [("ports", .sequence [.string "http"]), ("debug", .string "off"), ("rack", .string "r1"),
    ("debug", .bool false)]

/-- A line of Basic Latin with the places of its characters. -/
def placed (line : String) : Yaml.Source :=
  (line.toList ++ [Yaml.endMark]).zipIdx.map fun (char, column) =>
    { char, index := column, line := 0, column }

/-- A line is read in four steps: places, tokens, a tree and what the tree stands for. -/
theorem decodeYaml_eq_some {line : String} {tokens : List Yaml.Token} {root : Yaml.Node String}
    {v : Value} (hsource : Yaml.Source.ofString? line = some (placed line))
    (htokens : Yaml.Token.ofSource? (placed line) = some tokens)
    (hroot : Yaml.Node.ofTokens? tokens = some root)
    (hvalue : (Yaml.ofNode? root).map Document.toValue = some v) : decodeYaml line = some v := by
  simp [decodeYaml, Yaml.read?, hsource, htokens, hroot, hvalue]

theorem decode_arguments :
    decodeYaml "[http]" = some (.sequence [.string "http"])
      ∧ decodeYaml "off" = some (.string "off") ∧ decodeYaml "r1" = some (.string "r1")
      ∧ decodeYaml "false" = some (.bool false) := by
  refine ⟨?_, ?_, ?_, ?_⟩
  all_goals
    apply decodeYaml_eq_some
    case hsource => with_unfolding_all rfl
    case htokens => cbv
    case hroot => with_unfolding_all rfl
    case hvalue => with_unfolding_all rfl

/-- The texts of the values are found whatever they say. -/
theorem split_arguments (decode : String → Option Value) :
    arguments.mapM (parseOverride decode)
      = .ok [("ports", valueOf decode "[http]"), ("debug", valueOf decode "off"),
          ("rack", valueOf decode "r1"), ("debug", valueOf decode "false")] := by
  with_unfolding_all rfl

theorem parse_arguments : arguments.mapM (parseOverride decodeYaml) = .ok overrides := by
  obtain ⟨hports, hoff, hrack, hfalse⟩ := decode_arguments
  simp only [split_arguments, valueOf, hports, hoff, hrack, hfalse, overrides]

/-- All of them are bound, the switch to the string that the boolean counts as. -/
theorem arguments_are_bound :
    ∃ b, bindingsWith decodeYaml switchedPorts arguments = .ok b
      ∧ b.values = [("debug", .string "0"), ("ports", .sequence [.string "http"]),
          ("rack", .string "r1")] := by
  have hbound := overrides_change_defaults assembled_switchedPorts decodeYaml parse_arguments
  have haccepts : ∀ o ∈ overrides, ∀ v, switchedPorts.findVariable? o.1 = some v →
      ∃ w, Variable.normalize { v with default := some o.2 } = .ok w := by
    intro o ho v hv
    simp only [overrides, List.mem_cons, List.not_mem_nil, or_false] at ho
    rcases ho with rfl | rfl | rfl | rfl <;> cases hv <;> exact ⟨_, rfl⟩
  obtain ⟨b, hb⟩ := hbound.1.mpr haccepts
  exact ⟨b, hb, (hbound.2 b hb).1⟩

end Example

end Cli

end TemplatedConfig
