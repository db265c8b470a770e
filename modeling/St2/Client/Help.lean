import St2.Client.ParamsTypes
import St2.Client.SortParameters

/-!
# The help text of an action

For `--help`, `ActionRunCommand.print_help` prints the action's description, then under
`Required Parameters:` and `Optional Parameters:` each name of the two sets, sorted by
`_sort_parameters`, through `print_param`. Any exception inside is caught and printed
instead of the rest: a `ResourceNotFoundError` as "not found", any other as
`ERROR: Unable to print help ...`.

A `print` statement prints its argument once it has computed it; the text `textwrap`
wraps is kept as the model's line, its wrapping is not modelled.

* `printHelp_names`: the parameters the help names are the required ones, then the
  optional ones, each sorted, up to the first whose `print_param` raises, that one
  included when its schema is present; none when the description is not a string.
* `printHelp_integer_enum`: an integer parameter with the enum `[1, 2]` sends the help to
  the generic handler.
* `printHelp_not_immutable`: no immutable parameter is named.
-/

namespace St2

/-- A line `print` writes: plain text, text a `textwrap` wrapper fills at an indent, a
value formatted into a template with `%s` and then filled, or the parser's usage. -/
inductive Line where
  | text (s : String)
  | fill (indent : Nat) (s : String)
  | fillFormat (indent : Nat) (template : String) (v : PyVal)
  | usage

/-- Runs `print` statements in order: the lines printed before the first whose argument
raises, and that exception. -/
def printAll : List (Except PyExc Line) → List Line × Option PyExc
  | [] => ([], none)
  | .ok l :: rest => ((printAll rest).1.cons l, (printAll rest).2)
  | .error e :: _ => ([], some e)

namespace ActionRunCommand

/-- `wrapper.fill(v)`: only a string can be filled; any other value has no `expandtabs`. -/
def fillValue (indent : Nat) : PyVal → Except PyExc Line
  | .str s => .ok (.fill indent s)
  | v => .error ⟨"AttributeError",
      "\x27" ++ v.typeName ++ "\x27 object has no attribute \x27expandtabs\x27"⟩

/-- The items `sep.join` takes from a list, from the `i`-th on: each must be a string. -/
def joinItems (i : Nat) : List PyVal → Except PyExc (List String)
  | [] => .ok []
  | .str s :: xs => (joinItems (i + 1) xs).map (s :: ·)
  | x :: _ => .error ⟨"TypeError",
      "sequence item " ++ toString i ++ ": expected string, " ++ x.typeName ++ " found"⟩

/-- `sep.join(v)`: the items of a list, the characters of a string or the keys of a
dictionary; any other value is not iterable. -/
def joinValue (sep : String) : PyVal → Except PyExc String
  | .list xs => (joinItems 0 xs).map (Str.join sep)
  | .str s => .ok (Str.join sep (s.data.map fun c => ⟨[c]⟩))
  | .dict kvs => .ok (Str.join sep (kvs.map Prod.fst))
  | _ => .error ⟨"TypeError", "can only join an iterable"⟩

/-- The `print` of one optional field of a schema: nothing when the field is absent or
false, otherwise the line it computes. -/
def printField (field : Option PyVal) (line : PyVal → Except PyExc Line) :
    List (Except PyExc Line) :=
  match field with
  | some v => if v.truthy then [line v] else []
  | none => []

/-- The message of the error `print_param` raises for a missing or empty schema. -/
def missingSchema (name : String) : PyExc :=
  .valueError ("Missing schema for parameter \"" ++ name ++ "\"")

/-- `print_param(name, schema)`: its `print` statements, in order. -/
def printParam (name : String) (schema : Option ParamMeta) : List (Except PyExc Line) :=
  match schema with
  | none => [.error (missingSchema name)]
  | some schema =>
    if schema.isEmpty then [.error (missingSchema name)]
    else
      [.ok (.fill 4 name)]
        ++ printField schema.description (fillValue 8)
        ++ printField schema.type (fun t => .ok (.fillFormat 8 "Type: %s" t))
        ++ printField schema.enum (fun v => (joinValue ", " v).map fun s => .fill 8 ("Enum: " ++ s))
        ++ printField schema.default (fun d => .ok (.fillFormat 8 "Default: %s" d))
        ++ [.ok (.text "")]

/-- One of the two blocks of `print_help`: when the set is not empty, the heading, then
`print_param` for each of its names, sorted. -/
def paramBlock (heading : String) (parameters : Schema) (names : PySet) :
    List (Except PyExc Line) :=
  if names.truthy then
    .ok (.text heading) :: (sortParameters parameters names.elems).flatMap
      fun name => printParam name (parameters.lookup name)
  else []

/-- The `print` statements of the `try` body of `print_help` once the action and its
runner are found. -/
def helpSteps (runner : RunnerType) (action : Action) : List (Except PyExc Line) :=
  [.ok (.text ""), fillValue 0 action.description, .ok (.text "")]
    ++ paramBlock "Required Parameters:" (getParamsTypes runner action).parameters
      (getParamsTypes runner action).required
    ++ paramBlock "Optional Parameters:" (getParamsTypes runner action).parameters
      (getParamsTypes runner action).optional

/-- The lookups at the start of the `try` body of `print_help`: the runner and the
action, or the exception raised before anything is printed. -/
def helpLookup (client : Client) (ref : String) : Except PyExc (RunnerType × Action) :=
  match client.getActionByRefOrId ref with
  | .error e => .error e
  | .ok none => .error ⟨"AttributeError",
      "\x27NoneType\x27 object has no attribute \x27runner_type\x27"⟩
  | .ok (some action) =>
    match client.getRunnerByName action.runnerType with
    | .error e => .error e
    | .ok none => .error ⟨"AttributeError",
        "\x27NoneType\x27 object has no attribute \x27runner_parameters\x27"⟩
    | .ok (some runner) => .ok (runner, action)

/-- The line each handler of `print_help` prints for the exception it catches. -/
def helpHandler (ref : String) (e : PyExc) : Line :=
  if e.cls = "ResourceNotFoundError" then .text ("Action \"" ++ ref ++ "\" is not found.")
  else .text ("ERROR: Unable to print help for action \"" ++ ref ++ "\". " ++ e.msg)

/-- `print_help(args)`: `none` when `--help` is not given and it returns `False`,
otherwise the lines it prints. -/
def printHelp (client : Client) (args : Args) : Option (List Line) :=
  if args.help then
    match args.refOrId with
    | some ref =>
      if ref.isEmpty then some [.usage]
      else
        let body := match helpLookup client ref with
          | .error e => ([], some e)
          | .ok (runner, action) => printAll (helpSteps runner action)
        some (body.1 ++ body.2.toList.map (helpHandler ref))
    | none => some [.usage]
  else none

/-! ### The parameters the help names -/

/-- The parameter a printed line names: `print_param` writes each name alone at the
indent 4, and `print_help` writes nothing else there. -/
def lineName : Line → Option String
  | .fill 4 n => some n
  | _ => none

@[simp] theorem lineName_fill_four (s : String) : lineName (.fill 4 s) = some s := rfl

@[simp] theorem lineName_text (s : String) : lineName (.text s) = none := rfl

@[simp] theorem lineName_fillFormat (i : Nat) (template : String) (v : PyVal) :
  lineName (.fillFormat i template v) = none
  := rfl

theorem lineName_fill {i : Nat} (hi : i ≠ 4) (s : String) : lineName (.fill i s) = none := by
  unfold lineName
  split
  · rename_i h
    cases h
    exact absurd rfl hi
  · rfl

/-- The parameter a `print` statement names when it prints. -/
def paramName (s : Except PyExc Line) : Option String := s.toOption.bind lineName

@[simp] theorem paramName_ok (l : Line) : paramName (.ok l) = lineName l := rfl

@[simp] theorem paramName_error (e : PyExc) : paramName (.error e) = none := rfl

/-- A name whose schema in the merged table is present and not empty, so that
`print_param` prints the name rather than raising at once. -/
def hasSchema (parameters : Schema) (name : String) : Bool :=
  (parameters.lookup name).any fun m => !m.isEmpty

/-- A name whose `print_param` raises nothing. -/
def printsFully (parameters : Schema) (name : String) : Bool :=
  (printParam name (parameters.lookup name)).all Except.isOk

theorem paramName_fillValue {i : Nat} (hi : i ≠ 4) (v : PyVal) : paramName (fillValue i v) = none := by
  cases v <;> simp [fillValue, lineName_fill hi]

theorem printField_paramName (field : Option PyVal) (line : PyVal → Except PyExc Line)
    (h : ∀ v, paramName (line v) = none) :
  (printField field line).filterMap paramName = []
  := by
  cases field with
  | none => rfl
  | some v => by_cases hv : v.truthy <;> simp [printField, hv, h]

theorem printParam_paramName (name : String) (schema : Option ParamMeta) :
  (printParam name schema).filterMap paramName
    = if schema.any (fun m => !m.isEmpty) then [name] else []
  := by
  cases schema with
  | none => rfl
  | some m =>
    have henum : ∀ v, paramName ((joinValue ", " v).map fun s => .fill 8 ("Enum: " ++ s)) = none :=
      fun v => by cases joinValue ", " v <;> rfl
    by_cases hm : m.isEmpty <;> simp [printParam, hm,
      printField_paramName _ _ (paramName_fillValue (by decide : 8 ≠ 4)),
      printField_paramName _ _ henum, printField_paramName _ (fun t => .ok (.fillFormat 8 _ t))]

theorem flatMap_printParam_paramName (parameters : Schema) (names : List String) :
  (names.flatMap fun name => printParam name (parameters.lookup name)).filterMap paramName
    = names.filter (hasSchema parameters)
  := by
  induction names with
  | nil => rfl
  | cons name names ih =>
    rw [List.flatMap_cons, List.filterMap_append, ih, printParam_paramName, List.filter_cons]
    unfold hasSchema
    split_ifs <;> rfl

/-- An empty set has no names to sort. -/
theorem sortParameters_elems_eq_nil {parameters : Schema} {names : PySet} (h : ¬ names.truthy) :
  sortParameters parameters names.elems = []
  := by
  rw [show names.elems = [] by simpa [PySet.truthy] using h]
  rfl

theorem paramBlock_paramName (heading : String) (parameters : Schema) (names : PySet) :
  (paramBlock heading parameters names).filterMap paramName
    = (sortParameters parameters names.elems).filter (hasSchema parameters)
  := by
  unfold paramBlock
  split_ifs with h
  · rw [List.filterMap_cons, flatMap_printParam_paramName]
    rfl
  · rw [sortParameters_elems_eq_nil h]
    rfl

/-- The parameters `print_help` names, in the order of its `print` statements: the
required ones with a schema, sorted, then the optional ones with a schema, sorted. Each
is named once, and no other name appears. -/
theorem helpSteps_paramNames (runner : RunnerType) (action : Action) :
  (helpSteps runner action).filterMap paramName
    = (sortParameters (getParamsTypes runner action).parameters
          (getParamsTypes runner action).required.elems).filter
        (hasSchema (getParamsTypes runner action).parameters)
      ++ (sortParameters (getParamsTypes runner action).parameters
          (getParamsTypes runner action).optional.elems).filter
        (hasSchema (getParamsTypes runner action).parameters)
  := by
  have htext : paramName (.ok (.text "")) = none := rfl
  simp [helpSteps, paramBlock_paramName, htext, paramName_fillValue (by decide : 0 ≠ 4)]

theorem printAll_mem {steps : List (Except PyExc Line)} {l : Line} (h : l ∈ (printAll steps).1) :
  .ok l ∈ steps
  := by
  induction steps with
  | nil => cases h
  | cons s rest ih =>
    match s, h with
    | .ok l', h =>
      rcases List.mem_cons.mp h with rfl | h
      · exact List.mem_cons_self _ _
      · exact List.mem_cons_of_mem _ (ih h)
    | .error e, h => cases h

/-! ### Up to the first `print_param` that raises -/

theorem printAll_fst (steps : List (Except PyExc Line)) :
  (printAll steps).1 = (steps.takeWhile Except.isOk).filterMap Except.toOption
  := by
  induction steps with
  | nil => rfl
  | cons s rest ih => cases s <;> simp [printAll, ih, Except.toBool, Except.toOption]

theorem takeWhile_append_all {α : Type} (p : α → Bool) (l₁ l₂ : List α) :
  (l₁ ++ l₂).takeWhile p = l₁.takeWhile p ++ if l₁.all p then l₂.takeWhile p else []
  := by
  induction l₁ with
  | nil => simp
  | cons x l₁ ih => by_cases hx : p x <;> simp [List.takeWhile_cons, hx, ih]

/-- The elements before the first that fails `p`, then that one when it passes `q`, of
two lists one after the other. -/
theorem takeWhile_append_head_filter {α : Type} (p q : α → Bool) (l₁ l₂ : List α) :
  (l₁ ++ l₂).takeWhile p ++ (((l₁ ++ l₂).dropWhile p).head?.filter q).toList
    = l₁.takeWhile p ++ ((l₁.dropWhile p).head?.filter q).toList
      ++ if l₁.all p then l₂.takeWhile p ++ ((l₂.dropWhile p).head?.filter q).toList else []
  := by
  induction l₁ with
  | nil => simp
  | cons x l₁ ih => by_cases hx : p x <;> simp [hx, ih]

theorem names_append (l₁ l₂ : List (Except PyExc Line)) :
  ((l₁ ++ l₂).takeWhile Except.isOk).filterMap paramName
    = (l₁.takeWhile Except.isOk).filterMap paramName
      ++ if l₁.all Except.isOk then (l₂.takeWhile Except.isOk).filterMap paramName else []
  := by
  rw [takeWhile_append_all, List.filterMap_append]
  split <;> rfl

theorem names_takeWhile_nil {steps : List (Except PyExc Line)} (h : steps.filterMap paramName = []) :
  (steps.takeWhile Except.isOk).filterMap paramName = []
  := List.prefix_nil.mp (h ▸ (List.takeWhile_prefix Except.isOk).filterMap paramName)

/-- `print_param` prints the name first: it names its parameter even when a later field
raises, and only a missing or empty schema stops it before. -/
theorem printParam_names (name : String) (schema : Option ParamMeta) :
  ((printParam name schema).takeWhile Except.isOk).filterMap paramName
    = if schema.any (fun m => !m.isEmpty) then [name] else []
  := by
  cases schema with
  | none => rfl
  | some m =>
    by_cases hm : m.isEmpty
    · simp [printParam, hm, Except.toBool]
    · obtain ⟨rest, hpp⟩ : ∃ rest, printParam name (some m) = .ok (.fill 4 name) :: rest :=
        ⟨_, by simp only [printParam, hm, Bool.false_eq_true, if_false]; rfl⟩
      have hany : (some m).any (fun m => !m.isEmpty) = true := by simpa using hm
      have hrest : rest.filterMap paramName = [] := by
        have h := printParam_paramName name (some m)
        rw [hpp, List.filterMap_cons_some (show paramName (.ok (.fill 4 name)) = some name from rfl),
          if_pos hany] at h
        exact (List.cons.inj h).2
      rw [hpp, List.takeWhile_cons_of_pos rfl,
        List.filterMap_cons_some (show paramName (.ok (.fill 4 name)) = some name from rfl),
        names_takeWhile_nil hrest, if_pos hany]

theorem hasSchema_of_printsFully {parameters : Schema} {name : String}
    (h : printsFully parameters name) :
  hasSchema parameters name
  := by
  unfold printsFully at h
  unfold hasSchema
  revert h
  cases parameters.lookup name with
  | none => simp [printParam, Except.toBool]
  | some m => by_cases hm : m.isEmpty <;> simp [printParam, hm, Except.toBool]

theorem flatMap_printParam_names (parameters : Schema) (names : List String) :
  ((names.flatMap fun name => printParam name (parameters.lookup name)).takeWhile
      Except.isOk).filterMap paramName
    = names.takeWhile (printsFully parameters)
      ++ ((names.dropWhile (printsFully parameters)).head?.filter (hasSchema parameters)).toList
  := by
  induction names with
  | nil => rfl
  | cons name names ih =>
    rw [List.flatMap_cons, names_append, printParam_names, ih]
    by_cases h : printsFully parameters name
    · have hs : (parameters.lookup name).any (fun m => !m.isEmpty) := hasSchema_of_printsFully h
      have h' : (printParam name (parameters.lookup name)).all Except.isOk := h
      simp [h, h', hs]
    · have h' : (printParam name (parameters.lookup name)).all Except.isOk = false := by
        simpa [printsFully] using h
      simp only [h, h', hasSchema, Option.filter_some, Bool.false_eq_true, if_false,
        List.takeWhile_cons_of_neg, List.dropWhile_cons_of_neg, not_false_eq_true, List.nil_append,
        List.head?_cons, List.append_nil]
      split <;> rfl

theorem paramBlock_all (heading : String) (parameters : Schema) (names : PySet) :
  (paramBlock heading parameters names).all Except.isOk
    = (sortParameters parameters names.elems).all (printsFully parameters)
  := by
  unfold paramBlock
  split_ifs with h
  · simp only [List.all_cons, List.all_flatMap]
    rfl
  · rw [sortParameters_elems_eq_nil h]
    rfl

theorem paramBlock_names (heading : String) (parameters : Schema) (names : PySet) :
  ((paramBlock heading parameters names).takeWhile Except.isOk).filterMap paramName
    = (sortParameters parameters names.elems).takeWhile (printsFully parameters)
      ++ (((sortParameters parameters names.elems).dropWhile (printsFully parameters)).head?.filter
        (hasSchema parameters)).toList
  := by
  unfold paramBlock
  split_ifs with h
  · rw [List.takeWhile_cons_of_pos rfl, List.filterMap_cons_none rfl, flatMap_printParam_names]
  · rw [sortParameters_elems_eq_nil h]
    rfl

theorem lineName_helpHandler (ref : String) (e : PyExc) : lineName (helpHandler ref e) = none := by
  unfold helpHandler
  split_ifs <;> rfl

/-- The parameters the help for a found action names, in the order it prints them, are
the required ones then the optional ones, each sorted, up to the first whose
`print_param` raises: those before it, and that one too when its schema is present, since
`print_param` prints the name before any field that can raise. The generic handler then
prints the exception, and nothing after it is named. A description that is not a string
raises before any parameter is named. -/
theorem printHelp_names {client : Client} {args : Args} {ref : String} {runner : RunnerType}
    {action : Action} {lines : List Line} (href : args.refOrId = some ref) (hne : ref ≠ "")
    (hlookup : helpLookup client ref = .ok (runner, action))
    (h : printHelp client args = some lines) :
  (∀ d, action.description = .str d → lines.filterMap lineName
      = (sortParameters (getParamsTypes runner action).parameters
            (getParamsTypes runner action).required.elems
          ++ sortParameters (getParamsTypes runner action).parameters
            (getParamsTypes runner action).optional.elems).takeWhile
          (printsFully (getParamsTypes runner action).parameters)
        ++ (((sortParameters (getParamsTypes runner action).parameters
              (getParamsTypes runner action).required.elems
            ++ sortParameters (getParamsTypes runner action).parameters
              (getParamsTypes runner action).optional.elems).dropWhile
            (printsFully (getParamsTypes runner action).parameters)).head?.filter
          (hasSchema (getParamsTypes runner action).parameters)).toList)
    ∧ ((∀ d, action.description ≠ .str d) → lines.filterMap lineName = [])
  := by
  have hlines : lines.filterMap lineName
      = ((helpSteps runner action).takeWhile Except.isOk).filterMap paramName := by
    unfold printHelp at h
    split_ifs at h
    rw [href] at h
    dsimp only at h
    rw [if_neg (by simp [Str.isEmpty_eq_false hne]), hlookup] at h
    cases h
    rw [List.filterMap_append, printAll_fst, List.filterMap_filterMap, List.filterMap_map,
      (List.filterMap_eq_nil_iff (f := lineName ∘ helpHandler ref)).mpr
        fun e _ => lineName_helpHandler ref e, List.append_nil]
    rfl
  have hhead : ([.ok (.text ""), fillValue 0 action.description, .ok (.text "")] :
      List (Except PyExc Line)).filterMap paramName = [] := by
    simp [paramName_fillValue (by decide : 0 ≠ 4)]
  rw [hlines, helpSteps, List.append_assoc, names_append, names_takeWhile_nil hhead, List.nil_append]
  constructor
  · rintro d hd
    have hall : ([.ok (.text ""), fillValue 0 action.description, .ok (.text "")] :
        List (Except PyExc Line)).all Except.isOk := by
      rw [hd]
      rfl
    rw [if_pos hall, names_append, paramBlock_names, paramBlock_names, paramBlock_all,
      takeWhile_append_head_filter]
  · intro hd
    have hall : ([.ok (.text ""), fillValue 0 action.description, .ok (.text "")] :
        List (Except PyExc Line)).all Except.isOk = false := by
      cases hv : action.description with
      | str d => exact absurd hv (hd d)
      | _ => rfl
    rw [hall]
    rfl

/-- The help for an integer parameter whose enum `[1, 2]` makes `print_param` raise: the
parameter is named, and nothing after it. -/
theorem printHelp_names_integer_enum :
  helpLookup
      { getActionByRefOrId := fun _ => .ok (some ⟨"core", "local", "run-local",
          .str "Run a command.", (∅ : Schema).insert "count"
            { type := some (.str "integer"), enum := some (.list [.int 1, .int 2]) },
          ["count"]⟩)
        getRunnerByName := fun _ => .ok (some ⟨"run-local", ∅, []⟩)
        create := fun _ => .error (.valueError "")
        getById := fun _ _ => .error (.valueError "") } "core.local"
      = .ok (⟨"run-local", ∅, []⟩, ⟨"core", "local", "run-local", .str "Run a command.",
          (∅ : Schema).insert "count"
            { type := some (.str "integer"), enum := some (.list [.int 1, .int 2]) }, ["count"]⟩)
    ∧ printHelp
      { getActionByRefOrId := fun _ => .ok (some ⟨"core", "local", "run-local",
          .str "Run a command.", (∅ : Schema).insert "count"
            { type := some (.str "integer"), enum := some (.list [.int 1, .int 2]) },
          ["count"]⟩)
        getRunnerByName := fun _ => .ok (some ⟨"run-local", ∅, []⟩)
        create := fun _ => .error (.valueError "")
        getById := fun _ _ => .error (.valueError "") }
      ⟨some "core.local", [], false, false, true⟩
      = some [.text "", .fill 0 "Run a command.", .text "", .text "Required Parameters:",
        .fill 4 "count", .fillFormat 8 "Type: %s" (.str "integer"),
        .text ("ERROR: Unable to print help for action \"core.local\". "
          ++ "sequence item 0: expected string, int found")]
    ∧ [Line.text "", .fill 0 "Run a command.", .text "", .text "Required Parameters:",
        .fill 4 "count", .fillFormat 8 "Type: %s" (.str "integer"),
        .text ("ERROR: Unable to print help for action \"core.local\". "
          ++ "sequence item 0: expected string, int found")].filterMap lineName = ["count"]
  := by
  have hlookup : helpLookup
      { getActionByRefOrId := fun _ => .ok (some ⟨"core", "local", "run-local",
          .str "Run a command.", (∅ : Schema).insert "count"
            { type := some (.str "integer"), enum := some (.list [.int 1, .int 2]) },
          ["count"]⟩)
        getRunnerByName := fun _ => .ok (some ⟨"run-local", ∅, []⟩)
        create := fun _ => .error (.valueError "")
        getById := fun _ _ => .error (.valueError "") } "core.local"
      = .ok (⟨"run-local", ∅, []⟩, ⟨"core", "local", "run-local", .str "Run a command.",
          (∅ : Schema).insert "count"
            { type := some (.str "integer"), enum := some (.list [.int 1, .int 2]) }, ["count"]⟩) :=
    rfl
  have h : printHelp
      { getActionByRefOrId := fun _ => .ok (some ⟨"core", "local", "run-local",
          .str "Run a command.", (∅ : Schema).insert "count"
            { type := some (.str "integer"), enum := some (.list [.int 1, .int 2]) },
          ["count"]⟩)
        getRunnerByName := fun _ => .ok (some ⟨"run-local", ∅, []⟩)
        create := fun _ => .error (.valueError "")
        getById := fun _ _ => .error (.valueError "") }
      ⟨some "core.local", [], false, false, true⟩
      = some [.text "", .fill 0 "Run a command.", .text "", .text "Required Parameters:",
        .fill 4 "count", .fillFormat 8 "Type: %s" (.str "integer"),
        .text ("ERROR: Unable to print help for action \"core.local\". "
          ++ "sequence item 0: expected string, int found")] :=
    rfl
  refine ⟨hlookup, h, ?_⟩
  have href : (⟨some "core.local", [], false, false, true⟩ : Args).refOrId = some "core.local" := rfl
  rw [(printHelp_names href (by decide) hlookup h).1 _ rfl]
  rfl

/-- An integer parameter whose enum `[1, 2]` holds values of its type: `', '.join`
rejects the first item, and `print_help` ends in its generic handler after printing the
parameter's name and type. -/
theorem printHelp_integer_enum :
  printHelp
      { getActionByRefOrId := fun _ => .ok (some ⟨"core", "local", "run-local",
          .str "Run a command.", (∅ : Schema).insert "count"
            { type := some (.str "integer"), enum := some (.list [.int 1, .int 2]) },
          ["count"]⟩)
        getRunnerByName := fun _ => .ok (some ⟨"run-local", ∅, []⟩)
        create := fun _ => .error (.valueError "")
        getById := fun _ _ => .error (.valueError "") }
      ⟨some "core.local", [], false, false, true⟩
    = some [.text "", .fill 0 "Run a command.", .text "", .text "Required Parameters:",
        .fill 4 "count", .fillFormat 8 "Type: %s" (.str "integer"),
        .text ("ERROR: Unable to print help for action \"core.local\". "
          ++ "sequence item 0: expected string, int found")]
  := rfl

/-- `print_help` never names an immutable parameter, whatever it prints and wherever its
printing stops. -/
theorem printHelp_not_immutable {client : Client} {args : Args} {lines : List Line}
    {ref : String} {runner : RunnerType} {action : Action}
    (href : args.refOrId = some ref) (hlookup : helpLookup client ref = .ok (runner, action))
    (h : printHelp client args = some lines) {n : String}
    (hn : n ∈ (getParamsTypes runner action).immutable) :
  Line.fill 4 n ∉ lines
  := by
  unfold printHelp at h
  split_ifs at h with hhelp
  rw [href] at h
  dsimp only at h
  split_ifs at h
  · cases h
    simp
  · rw [hlookup] at h
    cases h
    intro hmem
    rcases List.mem_append.mp hmem with hmem | hmem
    · have hname : n ∈ (helpSteps runner action).filterMap paramName :=
        List.mem_filterMap.mpr ⟨_, printAll_mem hmem, rfl⟩
      rw [helpSteps_paramNames] at hname
      rcases List.mem_append.mp hname with hr | ho
      · exact not_mem_required_of_mem_immutable runner action hn
          ((sortParameters_perm _ _).subset (List.mem_of_mem_filter hr))
      · exact ((mem_optional runner action).mp
          ((sortParameters_perm _ _).subset (List.mem_of_mem_filter ho))).2.2 hn
    · obtain ⟨e, -, he⟩ := List.mem_map.mp hmem
      unfold helpHandler at he
      split_ifs at he

/-- A runner whose `sudo` parameter is immutable and an action requiring `cmd`: the help
names `cmd` and leaves `sudo` out. -/
theorem printHelp_sudo_immutable :
  (⟨some "core.local", [], false, false, true⟩ : Args).refOrId = some "core.local"
    ∧ helpLookup
        { getActionByRefOrId := fun _ => .ok (some ⟨"core", "local", "run-local",
            .str "Run a command.", (∅ : Schema).insert "cmd" { type := some (.str "string") },
            ["cmd"]⟩)
          getRunnerByName := fun _ => .ok (some ⟨"run-local", (∅ : Schema).insert "sudo"
            { type := some (.str "boolean"), immutable := some (.bool true) }, []⟩)
          create := fun _ => .error (.valueError "")
          getById := fun _ _ => .error (.valueError "") } "core.local"
      = .ok (⟨"run-local", (∅ : Schema).insert "sudo"
            { type := some (.str "boolean"), immutable := some (.bool true) }, []⟩,
          ⟨"core", "local", "run-local", .str "Run a command.",
            (∅ : Schema).insert "cmd" { type := some (.str "string") }, ["cmd"]⟩)
    ∧ printHelp
        { getActionByRefOrId := fun _ => .ok (some ⟨"core", "local", "run-local",
            .str "Run a command.", (∅ : Schema).insert "cmd" { type := some (.str "string") },
            ["cmd"]⟩)
          getRunnerByName := fun _ => .ok (some ⟨"run-local", (∅ : Schema).insert "sudo"
            { type := some (.str "boolean"), immutable := some (.bool true) }, []⟩)
          create := fun _ => .error (.valueError "")
          getById := fun _ _ => .error (.valueError "") } ⟨some "core.local", [], false, false, true⟩
      = some [.text "", .fill 0 "Run a command.", .text "", .text "Required Parameters:",
          .fill 4 "cmd", .fillFormat 8 "Type: %s" (.str "string"), .text ""]
    ∧ "sudo" ∈ (getParamsTypes ⟨"run-local", (∅ : Schema).insert "sudo"
        { type := some (.str "boolean"), immutable := some (.bool true) }, []⟩
        ⟨"core", "local", "run-local", .str "Run a command.",
          (∅ : Schema).insert "cmd" { type := some (.str "string") }, ["cmd"]⟩).immutable
    ∧ Line.fill 4 "sudo" ∉ [Line.text "", .fill 0 "Run a command.", .text "",
        .text "Required Parameters:", .fill 4 "cmd", .fillFormat 8 "Type: %s" (.str "string"),
        .text ""]
  := by
  refine ⟨?href, ?hlookup, ?hprint, ?himm, printHelp_not_immutable ?href ?hlookup ?hprint ?himm⟩
  · rfl
  · rfl
  · rfl
  · decide

end ActionRunCommand

end St2
