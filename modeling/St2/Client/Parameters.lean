import St2.Client.Normalize

/-!
# The parameters of an execution

Lines 97-179 of `ActionRunCommand.run` turn the command-line tokens into the parameters
of the execution. A `key=value` token is converted by `normalize`; an `@key=path` token
stages a file. The first token without `=` starts `cmd`, which takes that token and all
the following ones, and ends the loop. A conversion or a file that fails aborts the loop;
the handler turns any error whose text mentions `malformed string` into the boolean
hint. A post-pass then turns a staged file into `file_content`, `method` and
`file_name`.

* `parameterLoop_spec`: the loop raises the handled error of the first failing token
  before the first bare one, and otherwise writes the entries of those tokens in order,
  a later entry replacing an earlier one, then `cmd`; the tokens from the first bare one
  on are only joined. Each of those tokens is split at its first `=`, and
  `tokenEntries_split` gives its entries: a staged file for an `@` key, `normalize(k, v)`
  for any other.
* `parameterLoop_integer_malformed`: an integer parameter whose value is
  `malformed string` gets the boolean hint.
* `executionParameters_reserved_keys`: a plain `file_content=...` token makes the
  post-pass raise `KeyError`.
-/

namespace St2

namespace ActionRunCommand

/-- `read_file(file_path)`. -/
def readFile (rt : Runtime) (filePath : String) : Except PyExc String :=
  if !rt.pathExists filePath then
    .error (.valueError ("File \"" ++ filePath ++ "\" doesn\x27t exist"))
  else if !rt.isFile filePath then
    .error (.valueError ("\"" ++ filePath ++ "\" is not a file"))
  else rt.readBytes filePath

/-- The error raised in place of one whose text mentions `malformed string`. -/
def booleanHint : PyExc :=
  .valueError "Invalid value for boolean parameter. Valid values are: true, false"

/-- The `except` branch around one token: an error whose text mentions
`malformed string` becomes the boolean hint, any other is raised again. -/
def handleError (e : PyExc) : PyExc :=
  if Str.contains e.msg "malformed string" then booleanHint else e

/-- The `try` body for a `key=value` token: the entries it writes, in order. A file token
`@key=path` writes the file's base name under `_file_name` and its bytes under
`file_content`; any other token writes `normalize(key, value)` under `key`. -/
def tokenEntries (rt : Runtime) (runner : RunnerType) (action : Action) (arg : String) :
    Except PyExc (List (String × PyVal)) :=
  let kv := Str.splitFirst arg '='
  if Str.startsWith kv.1 '@' then do
    let cwd ← rt.getcwd
    let filePath := Path.normpath (Path.join cwd kv.2)
    let content ← readFile rt filePath
    pure [("_file_name", .str (Path.basename filePath)), ("file_content", .str content)]
  else do
    let value ← normalize rt runner action kv.1 kv.2
    pure [(kv.1, value)]

/-- Writes the entries into the dictionary, in order. -/
def setAll (parameters : PyDict) (entries : List (String × PyVal)) : PyDict :=
  entries.foldl (fun d kv => d.insert kv.1 kv.2) parameters

/-- The loop at lines 134-168, from the token at hand on: `args.parameters[idx:]` is the
list of the remaining tokens. -/
def parameterLoop (rt : Runtime) (runner : RunnerType) (action : Action) (parameters : PyDict) :
    List String → Except PyExc PyDict
  | [] => .ok parameters
  | arg :: rest =>
    if '=' ∈ arg.data then
      match tokenEntries rt runner action arg with
      | .error e => .error (handleError e)
      | .ok entries => parameterLoop rt runner action (setAll parameters entries) rest
    else .ok (parameters.insert "cmd" (.str (Str.join " " (arg :: rest))))

/-- `cmd` set to the tokens `rest` joined by spaces, when there are any. -/
def setCmd (parameters : PyDict) : List String → PyDict
  | [] => parameters
  | rest => parameters.insert "cmd" (.str (Str.join " " rest))

/-- The index of the first token without `=`, the number of tokens if there is none. -/
def firstBare (ts : List String) : Nat := ts.findIdx fun t => '=' ∉ t.data

variable (rt : Runtime) (runner : RunnerType) (action : Action)

/-! ### The mapping written -/

theorem setAll_append (parameters : PyDict) (es es' : List (String × PyVal)) :
  setAll parameters (es ++ es') = setAll (setAll parameters es) es'
  := List.foldl_append _ _ _ _

/-- Each key holds the value of its last entry, or what it held before when no entry
writes it. -/
theorem setAll_lookup (parameters : PyDict) (es : List (String × PyVal)) (key : String) :
  (setAll parameters es).lookup key = (es.reverse.lookup key).or (parameters.lookup key)
  := by
  induction es generalizing parameters with
  | nil => rfl
  | cons e es ih =>
    obtain ⟨k, w⟩ := e
    rw [show setAll parameters ((k, w) :: es) = setAll (parameters.insert k w) es from rfl, ih,
      List.reverse_cons, List.lookup_append, Option.or_assoc]
    by_cases h : key = k
    · subst h
      simp
    · have hbeq : (key == k) = false := by simpa using h
      simp [AList.lookup_insert_ne h, List.lookup_cons, hbeq]

/-- `cmd` is set last, when there are remaining tokens; no other key changes. -/
theorem setCmd_lookup (parameters : PyDict) (rest : List String) (key : String) :
  (setCmd parameters rest).lookup key
    = if rest ≠ [] ∧ key = "cmd" then some (.str (Str.join " " rest)) else parameters.lookup key
  := by
  cases rest with
  | nil => simp [setCmd]
  | cons t rest =>
    by_cases h : key = "cmd"
    · subst h
      simp [setCmd]
    · simp [setCmd, h, AList.lookup_insert_ne h]

/-! ### One token -/

/-- One token `k=v` whose key holds no `=`: an `@` key stages the file `v` names, relative
to the working directory, with its base name under `_file_name` and its bytes under
`file_content`; any other key is set to `normalize(k, v)`. -/
theorem tokenEntries_split {k : String} (v : String) (hk : '=' ∉ k.data) :
  tokenEntries rt runner action (k ++ "=" ++ v)
    = if Str.startsWith k '@' then
        rt.getcwd >>= fun cwd =>
          readFile rt (Path.normpath (Path.join cwd v)) >>= fun content =>
            .ok [("_file_name", .str (Path.basename (Path.normpath (Path.join cwd v)))),
              ("file_content", .str content)]
      else normalize rt runner action k v >>= fun value => .ok [(k, value)]
  := by
  simp only [tokenEntries, Str.splitFirst_append hk]
  rfl

theorem firstBare_cons_of_mem {arg : String} {rest : List String} (h : '=' ∈ arg.data) :
  firstBare (arg :: rest) = firstBare rest + 1
  := by
  simp [firstBare, List.findIdx_cons, h]

theorem firstBare_cons_of_not_mem {arg : String} {rest : List String} (h : '=' ∉ arg.data) :
  firstBare (arg :: rest) = 0
  := by
  simp [firstBare, List.findIdx_cons, h]

/-- Every token before the first bare one holds `=`, so it is `k=v` for its part `k`
before the first `=`. -/
theorem mem_take_firstBare {ts : List String} {t : String} (ht : t ∈ ts.take (firstBare ts)) :
  '=' ∈ t.data
  := by
  induction ts with
  | nil => cases ht
  | cons arg rest ih =>
    by_cases harg : '=' ∈ arg.data
    · rw [firstBare_cons_of_mem harg, List.take_succ_cons] at ht
      rcases List.mem_cons.mp ht with rfl | ht
      · exact harg
      · exact ih ht
    · rw [firstBare_cons_of_not_mem harg] at ht
      cases ht

/-! ### The loop -/

theorem parameterLoop_eq (parameters : PyDict) (ts : List String) :
  parameterLoop rt runner action parameters ts
    = (((ts.take (firstBare ts)).mapM (tokenEntries rt runner action)).mapError handleError).map
        fun entries => setCmd (setAll parameters entries.flatten) (ts.drop (firstBare ts))
  := by
  induction ts generalizing parameters with
  | nil => rfl
  | cons arg rest ih =>
    by_cases harg : '=' ∈ arg.data
    · rw [parameterLoop, if_pos harg, firstBare_cons_of_mem harg, List.take_succ_cons,
        List.drop_succ_cons, List.mapM_cons]
      cases tokenEntries rt runner action arg with
      | error e => rfl
      | ok entries =>
        dsimp only
        rw [ih]
        cases (rest.take (firstBare rest)).mapM (tokenEntries rt runner action) with
        | error e => rfl
        | ok ess =>
          show Except.ok _ = Except.ok _
          simp only [List.flatten_cons, setAll_append]
    · rw [parameterLoop, if_neg harg, firstBare_cons_of_not_mem harg]
      rfl

/-- An integer parameter whose value is `malformed string`: `int()` quotes the value in
its error message, and the handler reports an invalid boolean. -/
theorem parameterLoop_integer_malformed :
  governingType ⟨"run-local", ∅, []⟩ ⟨"core", "local", "run-local", .str "",
      (∅ : Schema).insert "count" { type := some (.str "integer") }, []⟩ "count"
      = .ok (some .integer)
    ∧ parameterLoop rt ⟨"run-local", ∅, []⟩ ⟨"core", "local", "run-local", .str "",
      (∅ : Schema).insert "count" { type := some (.str "integer") }, []⟩ ∅
      ["count=malformed string"] = .error booleanHint
  := ⟨rfl, rfl⟩

/-- A boolean parameter given `1` is stored as the integer `1` when `ast.literal_eval`
reads `"1"` as `1`, as CPython's does. -/
theorem parameterLoop_boolean_one (hlit : rt.literalEval "1" = .ok (.int 1)) :
  governingType ⟨"run-local", ∅, []⟩ ⟨"core", "local", "run-local", .str "",
      (∅ : Schema).insert "enabled" { type := some (.str "boolean") }, []⟩ "enabled"
      = .ok (some .boolean)
    ∧ parameterLoop rt ⟨"run-local", ∅, []⟩ ⟨"core", "local", "run-local", .str "",
      (∅ : Schema).insert "enabled" { type := some (.str "boolean") }, []⟩ ∅ ["enabled=1"]
      = .ok ((∅ : PyDict).insert "enabled" (.int 1))
  := by
  refine ⟨rfl, ?_⟩
  have htok : tokenEntries rt ⟨"run-local", ∅, []⟩ ⟨"core", "local", "run-local", .str "",
      (∅ : Schema).insert "enabled" { type := some (.str "boolean") }, []⟩ "enabled=1"
      = .ok [("enabled", .int 1)] := by
    show (do let value ← rt.literalEval "1"; pure [("enabled", value)]) = _
    rw [hlit]
    rfl
  rw [parameterLoop, if_pos (by decide), htok]
  rfl

/-- The runtime whose `ast.literal_eval` reads `"1"` as `1`, at the token `enabled=1`. -/
theorem parameterLoop_boolean_one_literal :
  ({ (default : Runtime) with literalEval := fun _ => .ok (.int 1) } : Runtime).literalEval "1"
      = .ok (.int 1)
    ∧ parameterLoop { (default : Runtime) with literalEval := fun _ => .ok (.int 1) }
      ⟨"run-local", ∅, []⟩ ⟨"core", "local", "run-local", .str "",
        (∅ : Schema).insert "enabled" { type := some (.str "boolean") }, []⟩ ∅ ["enabled=1"]
      = .ok ((∅ : PyDict).insert "enabled" (.int 1))
  := ⟨rfl, (parameterLoop_boolean_one _ rfl).2⟩

/-! ### The file post-pass -/

/-- Lines 170-179 of `run`: when `file_content` is set, `method` defaults to `POST` and
`file_name` to the staged `_file_name`, which is then deleted. Reading or deleting a
missing `_file_name` raises `KeyError`. -/
def filePostPass (parameters : PyDict) : Except PyExc PyDict :=
  if "file_content" ∈ parameters then
    let parameters :=
      if "method" ∈ parameters then parameters else parameters.insert "method" (.str "POST")
    let named : Except PyExc PyDict :=
      if "file_name" ∈ parameters then .ok parameters
      else match parameters.lookup "_file_name" with
        | some fileName => .ok (parameters.insert "file_name" fileName)
        | none => .error (.keyError "_file_name")
    match named with
    | .error e => .error e
    | .ok parameters =>
      if "_file_name" ∈ parameters then .ok (parameters.erase "_file_name")
      else .error (.keyError "_file_name")
  else .ok parameters

/-- The parameters `run` submits: the loop from an empty dictionary, then the
post-pass. -/
def executionParameters (ts : List String) : Except PyExc PyDict :=
  parameterLoop rt runner action ∅ ts >>= filePostPass

/-- A plain `file_content=x` token sets `file_content` with nothing staged: the post-pass
reads the missing `_file_name` and raises `KeyError`. A plain `_file_name=x` token sets
the staging key, and with no `file_content` nothing deletes it. -/
theorem executionParameters_reserved_keys :
  executionParameters rt ⟨"run-local", ∅, []⟩ ⟨"core", "local", "run-local", .str "", ∅, []⟩
      ["file_content=x"] = .error (.keyError "_file_name")
    ∧ executionParameters rt ⟨"run-local", ∅, []⟩
      ⟨"core", "local", "run-local", .str "", ∅, []⟩ ["_file_name=x"]
      = .ok ((∅ : PyDict).insert "_file_name" (.str "x"))
  := ⟨rfl, rfl⟩

end ActionRunCommand

end St2
