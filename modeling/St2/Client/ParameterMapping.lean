import St2.Client.Parameters

/-!
# The mapping the parameter loop builds

What `run` submits for a list of tokens, read key by key.

* `parameterLoop_encode`: tokens `key=value` for string or untyped parameters, followed
  by free text, are read back key by key as the pairs written, the last pair for a key
  winning, and `cmd` set to the free text last: the loop decodes the command line format.
* `executionParameters_staged`: when only `@` tokens write the keys `file_content` and
  `_file_name`, the two are set together along the whole loop, so the post-pass never
  raises, never submits the staging key, and fills `method` and `file_name` in from their
  defaults.
-/

namespace St2

namespace ActionRunCommand

variable (rt : Runtime) (runner : RunnerType) (action : Action)

/-! ### Reading `key=value` back -/

/-- A key a caller may write for a string parameter: it holds no `=`, does not start
with `@`, and the schemas give its parameter no type or the type `string`. -/
def PlainStringKey (k : String) : Prop :=
  '=' ∉ k.data ∧ ¬ Str.startsWith k '@'
    ∧ (governingType runner action k = .ok none ∨ governingType runner action k = .ok (some .string))

theorem tokenEntries_plainString {k v : String} (hk : PlainStringKey runner action k) :
  tokenEntries rt runner action (k ++ "=" ++ v) = .ok [(k, .str v)]
  := by
  obtain ⟨hsep, hat, htype⟩ := hk
  have hvalue : normalize rt runner action k v = .ok (.str v) := by
    rw [normalize_eq]
    rcases htype with h | h
    · rw [h]
    · rw [h]
      rfl
  simp only [tokenEntries, Str.splitFirst_append hsep, hat, Bool.false_eq_true, if_false, hvalue]
  rfl

theorem eq_mem_encode {k v : String} : '=' ∈ (k ++ "=" ++ v).data := by
  show '=' ∈ k.data ++ ['='] ++ v.data
  simp

/-- From any dictionary, the loop writes the pairs of `key=value` tokens for string
parameters in order, then `cmd` from the free text after them. -/
theorem parameterLoop_encode_from (pairs : List (String × String)) (rest : List String)
    (hkeys : ∀ p ∈ pairs, PlainStringKey runner action p.1)
    (hrest : ∀ t ∈ rest.head?, '=' ∉ t.data) (parameters : PyDict) :
  parameterLoop rt runner action parameters (pairs.map (fun p => p.1 ++ "=" ++ p.2) ++ rest)
    = .ok (setCmd (setAll parameters (pairs.map fun p => (p.1, .str p.2))) rest)
  := by
  induction pairs generalizing parameters with
  | nil =>
    cases rest with
    | nil => rfl
    | cons t rest =>
      rw [List.map_nil, List.nil_append, parameterLoop, if_neg (hrest t rfl)]
      rfl
  | cons p pairs ih =>
    rw [List.map_cons, List.cons_append, parameterLoop, if_pos eq_mem_encode,
      tokenEntries_plainString rt runner action (hkeys p (List.mem_cons_self p pairs))]
    exact ih (fun q hq => hkeys q (List.mem_cons_of_mem p hq)) _

theorem lookup_map_str (pairs : List (String × String)) (key : String) :
  (pairs.map fun p => (p.1, PyVal.str p.2)).lookup key = (pairs.lookup key).map .str
  := by
  induction pairs with
  | nil => rfl
  | cons p pairs ih =>
    obtain ⟨k, v⟩ := p
    simp only [List.map_cons, List.lookup_cons]
    cases key == k
    · exact ih
    · rfl

/-- The loop decodes the command line format: tokens `key=value` for string or untyped
parameters, followed by free text whose first token holds no `=`, are read back key by
key as the pairs written, the last pair for a key winning, and `cmd`, set last, holds the
free text joined by spaces when there is any. Values may hold `=`. -/
theorem parameterLoop_encode (pairs : List (String × String)) (rest : List String)
    (hkeys : ∀ p ∈ pairs, PlainStringKey runner action p.1)
    (hrest : ∀ t ∈ rest.head?, '=' ∉ t.data) :
  ∃ d, parameterLoop rt runner action ∅ (pairs.map (fun p => p.1 ++ "=" ++ p.2) ++ rest) = .ok d
    ∧ ∀ key, d.lookup key
      = if rest ≠ [] ∧ key = "cmd" then some (.str (Str.join " " rest))
        else (pairs.reverse.lookup key).map .str
  := by
  refine ⟨_, parameterLoop_encode_from rt runner action pairs rest hkeys hrest ∅, fun key => ?_⟩
  rw [setCmd_lookup, setAll_lookup, ← List.map_reverse, lookup_map_str, AList.lookup_empty,
    Option.or_none]

/-- A value holding `=` and free text after it, read back. -/
theorem parameterLoop_encode_url :
  (∀ p ∈ [("url", "http://st2/?a=b")], PlainStringKey ⟨"run-local", ∅, []⟩
      ⟨"core", "http", "run-local", .str "", ∅, []⟩ p.1)
    ∧ (∀ t ∈ ["free", "text"].head?, '=' ∉ t.data)
    ∧ ∃ d, parameterLoop default ⟨"run-local", ∅, []⟩ ⟨"core", "http", "run-local", .str "", ∅, []⟩ ∅
        ([("url", "http://st2/?a=b")].map (fun p => p.1 ++ "=" ++ p.2) ++ ["free", "text"]) = .ok d
      ∧ ∀ key, d.lookup key
        = if ["free", "text"] ≠ [] ∧ key = "cmd" then some (.str (Str.join " " ["free", "text"]))
          else ([("url", "http://st2/?a=b")].reverse.lookup key).map .str
  := by
  have hkeys : ∀ p ∈ [("url", "http://st2/?a=b")], PlainStringKey ⟨"run-local", ∅, []⟩
      ⟨"core", "http", "run-local", .str "", ∅, []⟩ p.1 := by
    simp only [List.mem_singleton, forall_eq]
    exact ⟨by decide, by decide, .inl rfl⟩
  have hrest : ∀ t ∈ ["free", "text"].head?, '=' ∉ t.data := by decide
  exact ⟨hkeys, hrest, parameterLoop_encode default _ _ _ _ hkeys hrest⟩

/-! ### The file keys -/

theorem mem_setAll {parameters : PyDict} {es : List (String × PyVal)} {k : String} :
  k ∈ setAll parameters es ↔ k ∈ parameters ∨ k ∈ es.map Prod.fst
  := by
  induction es generalizing parameters with
  | nil => simp [setAll]
  | cons e es ih =>
    rw [show setAll parameters (e :: es) = setAll (parameters.insert e.1 e.2) es from rfl, ih,
      AList.mem_insert, List.map_cons, List.mem_cons]
    tauto

/-- `file_content` is set exactly when the staging key `_file_name` is. -/
def StagedTogether (parameters : PyDict) : Prop :=
  "file_content" ∈ parameters ↔ "_file_name" ∈ parameters

/-- A list of entries writes `file_content` exactly when it writes `_file_name`. -/
def FileKeysTogether (es : List (String × PyVal)) : Prop :=
  "file_content" ∈ es.map Prod.fst ↔ "_file_name" ∈ es.map Prod.fst

theorem stagedTogether_setAll {parameters : PyDict} {es : List (String × PyVal)}
    (h : StagedTogether parameters) (hes : FileKeysTogether es) :
  StagedTogether (setAll parameters es)
  := by
  simp only [StagedTogether, mem_setAll]
  exact or_congr h hes

theorem stagedTogether_setAll_flatten {parameters : PyDict} {ess : List (List (String × PyVal))}
    (h : StagedTogether parameters) (hess : ∀ es ∈ ess, FileKeysTogether es) :
  StagedTogether (setAll parameters ess.flatten)
  := by
  induction ess generalizing parameters with
  | nil => exact h
  | cons es ess ih =>
    rw [List.flatten_cons, setAll_append]
    exact ih (stagedTogether_setAll h (hess es (List.mem_cons_self es ess)))
      fun es' hes' => hess es' (List.mem_cons_of_mem es hes')

theorem stagedTogether_setCmd {parameters : PyDict} (h : StagedTogether parameters)
    (rest : List String) :
  StagedTogether (setCmd parameters rest)
  := by
  cases rest with
  | nil => exact h
  | cons t rest =>
    simp only [setCmd, StagedTogether, AList.mem_insert]
    simpa using h

/-- The entries of one token write both file keys or neither, unless the token is a
plain `key=value` whose key is one of them. -/
theorem fileKeysTogether_tokenEntries {t : String} {es : List (String × PyVal)}
    (h : tokenEntries rt runner action t = .ok es)
    (hplain : ¬ Str.startsWith (Str.splitFirst t '=').1 '@' →
      (Str.splitFirst t '=').1 ≠ "file_content" ∧ (Str.splitFirst t '=').1 ≠ "_file_name") :
  FileKeysTogether es
  := by
  unfold tokenEntries at h
  dsimp only at h
  split at h
  · obtain ⟨cwd, -, h⟩ := bind_eq_ok h
    obtain ⟨content, -, h⟩ := bind_eq_ok h
    cases h
    simp [FileKeysTogether]
  · rename_i hat
    obtain ⟨hfc, hfn⟩ := hplain hat
    obtain ⟨value, -, h⟩ := bind_eq_ok h
    cases h
    simp [FileKeysTogether, Ne.symm hfc, Ne.symm hfn]

/-- No token before the first bare one writes `file_content` or `_file_name`, except as
the staging of an `@` token. -/
def ReservedFree (ts : List String) : Prop :=
  ∀ t ∈ ts.take (firstBare ts), ¬ Str.startsWith (Str.splitFirst t '=').1 '@' →
    (Str.splitFirst t '=').1 ≠ "file_content" ∧ (Str.splitFirst t '=').1 ≠ "_file_name"

instance (ts : List String) : Decidable (ReservedFree ts) :=
  inferInstanceAs (Decidable (∀ t ∈ _, _))

/-- Along the whole loop the file keys are set together, when no plain token writes one. -/
theorem stagedTogether_parameterLoop {ts : List String} (hfree : ReservedFree ts) {d : PyDict}
    (h : parameterLoop rt runner action ∅ ts = .ok d) :
  StagedTogether d
  := by
  rw [parameterLoop_eq] at h
  cases hm : (ts.take (firstBare ts)).mapM (tokenEntries rt runner action) with
  | error e =>
    rw [hm] at h
    cases h
  | ok ess =>
    rw [hm] at h
    cases h
    refine stagedTogether_setCmd (stagedTogether_setAll_flatten (by simp [StagedTogether])
      fun es hes => ?_) _
    obtain ⟨t, ht, hte⟩ := mapM_eq_ok_mem hm hes
    exact fileKeysTogether_tokenEntries rt runner action hte (hfree t ht)

/-! ### The post-pass -/

theorem lookup_or_of_mem {d : PyDict} {k : String} (h : k ∈ d) (v : Option PyVal) :
  (d.lookup k).or v = d.lookup k
  := by
  obtain ⟨w, hw⟩ := Option.isSome_iff_exists.mp (AList.lookup_isSome.mpr h)
  rw [hw]
  rfl

theorem lookup_or_of_not_mem {d : PyDict} {k : String} (h : k ∉ d) (v : Option PyVal) :
  (d.lookup k).or v = v
  := by
  rw [AList.lookup_eq_none.mpr h]
  rfl

/-- On a mapping with a staged file, the post-pass deletes the staging key and fills
`method` and `file_name` in where the caller did not set them. -/
theorem filePostPass_of_staged {d : PyDict} {fileName : PyVal} (hfc : "file_content" ∈ d)
    (hfn : d.lookup "_file_name" = some fileName) :
  ∃ d', filePostPass d = .ok d' ∧ ∀ k, d'.lookup k =
    if k = "_file_name" then none
    else if k = "method" then (d.lookup "method").or (some (.str "POST"))
    else if k = "file_name" then (d.lookup "file_name").or (some fileName)
    else d.lookup k
  := by
  have hfn' : "_file_name" ∈ d := AList.lookup_isSome.mp (by simp [hfn])
  by_cases hmethod : "method" ∈ d <;> by_cases hname : "file_name" ∈ d <;>
    simp [filePostPass, hfc, hmethod, hname, hfn, hfn', AList.lookup_insert_ne,
      AList.lookup_erase_ne] <;>
    intro k <;> split_ifs <;> subst_vars <;>
    simp [AList.lookup_erase, AList.lookup_erase_ne, AList.lookup_insert_ne, lookup_or_of_mem,
      lookup_or_of_not_mem, *]

/-- What the post-pass submits for the mapping `d` of the loop: no staging key, every key
but `method`, `file_name` and `_file_name` as in `d`, and, when a file was staged,
`method` and `file_name` as the caller set them or else `POST` and the staged name.
When no file was staged it submits `d` itself. -/
structure Submitted (d d' : PyDict) : Prop where
  no_staging : "_file_name" ∉ d'
  lookup_other : ∀ k, k ≠ "method" → k ≠ "file_name" → k ≠ "_file_name" →
    d'.lookup k = d.lookup k
  lookup_method : "file_content" ∈ d →
    d'.lookup "method" = (d.lookup "method").or (some (.str "POST"))
  lookup_file_name : "file_content" ∈ d →
    d'.lookup "file_name" = (d.lookup "file_name").or (d.lookup "_file_name")
  eq_of_unstaged : "file_content" ∉ d → d' = d

theorem filePostPass_submitted {d : PyDict} (h : StagedTogether d) :
  ∃ d', filePostPass d = .ok d' ∧ Submitted d d'
  := by
  by_cases hfc : "file_content" ∈ d
  · obtain ⟨fileName, hfn⟩ := Option.isSome_iff_exists.mp (AList.lookup_isSome.mpr (h.mp hfc))
    obtain ⟨d', hpass, hlookup⟩ := filePostPass_of_staged hfc hfn
    refine ⟨d', hpass, ⟨?_, fun k h1 h2 h3 => ?_, fun _ => ?_, fun _ => ?_, fun h' => absurd hfc h'⟩⟩
    · rw [← AList.lookup_eq_none, hlookup, if_pos rfl]
    · simp [hlookup, h1, h2, h3]
    · simp [hlookup]
    · simp [hlookup, hfn]
  · have hfn : "_file_name" ∉ d := mt h.mpr hfc
    exact ⟨d, if_neg hfc, ⟨hfn, fun _ _ _ _ => rfl, fun h' => absurd h' hfc, fun h' => absurd h' hfc,
      fun _ => rfl⟩⟩

end ActionRunCommand

end St2
