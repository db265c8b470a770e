import St2.Client.Model

/-!
# Converting a parameter value

`ActionRunCommand.run` converts the value of a `key=value` token with `normalize`: the
first of the runner's and the action's schema entries for the key whose `type` names
one of the six `transformer` types decides the conversion, and a value nobody types
stays a string.

* `normalize_eq` says `normalize` converts by `governingType`.
* `transformer_array_join`: the `array` transformer reads back a comma-joined list of
  trimmed, comma-free elements, unless the list is empty: it reads `""` as `[""]`.
* `normalize_integer`: an integer value written as `str(n)` is `n`.
-/

namespace St2

/-- The keys of the `transformer` table: the parameter types the client converts. -/
inductive ParamType where
  | array
  | boolean
  | integer
  | number
  | object
  | string
  deriving DecidableEq, Repr

namespace ActionRunCommand

/-- `t in transformer` for the value `t` of a schema's `type`: the type a string names,
if any; a list or a dictionary cannot be hashed. -/
def transformerKey : PyVal → Except PyExc (Option ParamType)
  | .str "array" => .ok (some .array)
  | .str "boolean" => .ok (some .boolean)
  | .str "integer" => .ok (some .integer)
  | .str "number" => .ok (some .number)
  | .str "object" => .ok (some .object)
  | .str "string" => .ok (some .string)
  | .list _ => .error ⟨"TypeError", "unhashable type: \x27list\x27"⟩
  | .dict _ => .error ⟨"TypeError", "unhashable type: \x27dict\x27"⟩
  | _ => .ok none

/-- `transformer[t](x)`. -/
def transformer (rt : Runtime) : ParamType → String → Except PyExc PyVal
  | .array, csX => .ok (.list ((Str.split csX ',').map fun v => .str (Str.strip v)))
  | .boolean, x => rt.literalEval (Str.capitalize x)
  | .integer, x => Str.int x
  | .number, x => rt.float x
  | .object, x => rt.jsonLoads x
  | .string, x => .ok (.str x)

/-- `'type' in param and param['type'] in transformer` for one schema's entry for
`name`: the type it converts by, if any. -/
def schemaType (schema : Schema) (name : String) : Except PyExc (Option ParamType) :=
  match schema.lookup name with
  | none => .ok none
  | some param =>
    match param.type with
    | none => .ok none
    | some t => transformerKey t

/-- `normalize(name, value)`: the runner's schema is asked first, then the action's. -/
def normalize (rt : Runtime) (runner : RunnerType) (action : Action) (name value : String) :
    Except PyExc PyVal :=
  match schemaType runner.runnerParameters name with
  | .error e => .error e
  | .ok (some t) => transformer rt t value
  | .ok none =>
    match schemaType action.parameters name with
    | .error e => .error e
    | .ok (some t) => transformer rt t value
    | .ok none => .ok (.str value)

/-- The type that governs the conversion of `name`: the runner's when its schema types
the name, the action's otherwise. -/
def governingType (runner : RunnerType) (action : Action) (name : String) :
    Except PyExc (Option ParamType) :=
  match schemaType runner.runnerParameters name with
  | .ok none => schemaType action.parameters name
  | r => r

theorem normalize_eq (rt : Runtime) (runner : RunnerType) (action : Action)
    (name value : String) :
  normalize rt runner action name value
    = match governingType runner action name with
      | .error e => .error e
      | .ok (some t) => transformer rt t value
      | .ok none => .ok (.str value)
  := by
  unfold normalize governingType
  rcases schemaType runner.runnerParameters name with e | _ | t <;> rfl

/-- A value whose key has a governing type is converted by that type's transformer. -/
theorem normalize_of_governingType {rt : Runtime} {runner : RunnerType} {action : Action}
    {name : String} {t : ParamType} (hgov : governingType runner action name = .ok (some t))
    (value : String) :
  normalize rt runner action name value = transformer rt t value
  := by
  rw [normalize_eq, hgov]

/-! ### The `array` transformer -/

/-- `','.join(xs)` read back by the `array` transformer is `xs`, for every non-empty list of
elements without a comma and without surrounding whitespace. -/
theorem transformer_array_join (rt : Runtime) {xs : List String} (hne : xs ≠ [])
    (hcomma : ∀ x ∈ xs, ',' ∉ x.data) (hspace : ∀ x ∈ xs, ¬ Str.HasSurroundingSpace x) :
  transformer rt .array (Str.join "," xs) = .ok (.list (xs.map .str))
  := by
  simp only [transformer, Str.split_join hne hcomma, List.map_map]
  congr 2
  exact List.map_congr_left fun x hx => by simp [Str.strip_eq_self (hspace x hx)]

/-- Two words read back. -/
theorem transformer_array_join_words :
  transformer default .array (Str.join "," ["fast", "slow"]) = .ok (.list [.str "fast", .str "slow"])
  := transformer_array_join default (by decide) (by decide) (by decide)

/-- The empty list joins to `""`, which the `array` transformer reads as `[""]`. -/
theorem transformer_array_join_nil :
  transformer default .array (Str.join "," []) = .ok (.list [.str ""])
  := rfl

/-! ### The `integer` transformer -/

variable (rt : Runtime)

/-- A parameter whose governing type is `integer`, given as `str(n)`, is sent as `n`. -/
theorem normalize_integer {runner : RunnerType} {action : Action} {name : String}
    (hgov : governingType runner action name = .ok (some .integer)) (n : Int) :
  normalize rt runner action name (toString n) = .ok (.int n)
  := by
  rw [normalize_of_governingType hgov]
  exact Str.int_toString n

/-- `timeout=-30` for an action parameter typed `integer`. -/
theorem normalize_integer_negative :
  normalize default ⟨"run-local", ∅, []⟩
      ⟨"core", "local", "run-local", .str "", (∅ : Schema).insert "timeout" { type := some (.str "integer") }, []⟩
      "timeout" "-30"
    = .ok (.int (-30))
  := by
  refine normalize_integer default ?_ (-30)
  rfl

end ActionRunCommand

end St2
