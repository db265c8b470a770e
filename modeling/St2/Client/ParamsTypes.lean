import St2.Client.Model

/-!
# Merging the parameter schemas

`ActionRunCommand._get_params_types` overlays an action's parameter schema on its
runner's and splits the names into required, optional and immutable ones.

* `mem_required`, `mem_optional` and `mem_immutable` say which names each set holds.
* `getParamsTypes_partition`: the three sets are pairwise disjoint, and together they
  hold the merged names and the names either schema lists as required, declared or not.
* `getParamsTypes_immutable`: a merged name is immutable exactly when the runner's or
  the action's own entry marks it so, whatever entry the merge keeps for it.
-/

namespace St2

namespace ActionRunCommand

/-- `is_immutable(runner_param_meta, action_param_meta)`: `True` when the runner marks
the parameter immutable, the action's flag otherwise. -/
def isImmutable (runnerParamMeta actionParamMeta : ParamMeta) : PyVal :=
  if (runnerParamMeta.immutable.getD (.bool false)).truthy then .bool true
  else actionParamMeta.immutable.getD (.bool false)

/-- What `_get_params_types` returns: the merged parameters and the required, optional
and immutable names. -/
structure ParamsTypes where
  parameters : Schema
  required : PySet
  optional : PySet
  immutable : PySet

/-- `_get_params_types(runner, action)`. The merge `copy(runner_params)` updated with
`action_params` is the union that prefers the action's entries. -/
def getParamsTypes (runner : RunnerType) (action : Action) : ParamsTypes :=
  let runnerParams := runner.runnerParameters
  let actionParams := action.parameters
  let parameters := actionParams ∪ runnerParams
  let required := PySet.ofList (runner.requiredParameters ++ action.requiredParameters)
  let keys : PySet := ⟨parameters.keys, parameters.nodupKeys⟩
  let immutable := keys.filter fun param =>
    (isImmutable ((runnerParams.lookup param).getD {}) ((actionParams.lookup param).getD {})).truthy
  let required := required \ immutable
  let optional := (keys \ required) \ immutable
  ⟨parameters, required, optional, immutable⟩

/-- A schema marks `n` immutable when its entry for `n` has a true `immutable`. -/
def declaredImmutable (schema : Schema) (n : String) : Bool :=
  ((schema.lookup n).bind ParamMeta.immutable).any PyVal.truthy

variable (runner : RunnerType) (action : Action) {n : String}

theorem isImmutable_truthy (runnerParamMeta actionParamMeta : ParamMeta) :
  (isImmutable runnerParamMeta actionParamMeta).truthy
    = ((runnerParamMeta.immutable.getD (.bool false)).truthy
      || (actionParamMeta.immutable.getD (.bool false)).truthy)
  := by
  unfold isImmutable
  split_ifs with h <;> simp [h]

theorem immutable_getD_truthy (schema : Schema) (n : String) :
  (((schema.lookup n).getD {}).immutable.getD (.bool false)).truthy = declaredImmutable schema n
  := by
  unfold declaredImmutable
  cases schema.lookup n with
  | none => rfl
  | some m => cases hm : m.immutable <;> simp [hm]

@[simp] theorem getParamsTypes_parameters :
  (getParamsTypes runner action).parameters = action.parameters ∪ runner.runnerParameters
  := rfl

theorem mem_immutable :
  n ∈ (getParamsTypes runner action).immutable
    ↔ n ∈ (getParamsTypes runner action).parameters
      ∧ (declaredImmutable runner.runnerParameters n || declaredImmutable action.parameters n)
  := by
  simp only [getParamsTypes, PySet.mem_filter, isImmutable_truthy, immutable_getD_truthy]
  exact Iff.rfl.and (by simp [AList.mem_keys])

theorem mem_required :
  n ∈ (getParamsTypes runner action).required
    ↔ n ∈ runner.requiredParameters ++ action.requiredParameters
      ∧ n ∉ (getParamsTypes runner action).immutable
  := by
  simp only [getParamsTypes, PySet.mem_sdiff, PySet.mem_ofList]

theorem mem_optional :
  n ∈ (getParamsTypes runner action).optional
    ↔ n ∈ (getParamsTypes runner action).parameters
      ∧ n ∉ (getParamsTypes runner action).required
      ∧ n ∉ (getParamsTypes runner action).immutable
  := by
  simp only [getParamsTypes, PySet.mem_sdiff, PySet.mem_mk, AList.mem_keys, and_assoc]

/-! ### The partition -/

theorem not_mem_required_of_mem_immutable (h : n ∈ (getParamsTypes runner action).immutable) :
  n ∉ (getParamsTypes runner action).required
  := fun hr => ((mem_required runner action).mp hr).2 h

theorem mem_parameters_of_mem_immutable (h : n ∈ (getParamsTypes runner action).immutable) :
  n ∈ (getParamsTypes runner action).parameters
  := ((mem_immutable runner action).mp h).1

/-- No name is in two of the required, optional and immutable sets. -/
def ParamsTypes.PairwiseDisjoint (t : ParamsTypes) : Prop :=
  ∀ n, ¬ (n ∈ t.required ∧ n ∈ t.optional) ∧ ¬ (n ∈ t.required ∧ n ∈ t.immutable)
    ∧ ¬ (n ∈ t.optional ∧ n ∈ t.immutable)

/-- `n` is in one of the required, optional and immutable sets. -/
def ParamsTypes.Classified (t : ParamsTypes) (n : String) : Prop :=
  n ∈ t.required ∨ n ∈ t.optional ∨ n ∈ t.immutable

theorem classified_iff :
  (getParamsTypes runner action).Classified n
    ↔ n ∈ action.parameters ∪ runner.runnerParameters
      ∨ n ∈ runner.requiredParameters ++ action.requiredParameters
  := by
  by_cases hi : n ∈ (getParamsTypes runner action).immutable
  · simp only [ParamsTypes.Classified, hi, or_true, true_iff]
    exact .inl (mem_parameters_of_mem_immutable runner action hi)
  · by_cases hr : n ∈ runner.requiredParameters ++ action.requiredParameters <;>
      simp [ParamsTypes.Classified, mem_optional, mem_required, hi, hr]

/-- The required, optional and immutable names of `_get_params_types` are pairwise
disjoint, and together they are the merged names and the names listed in either
`required_parameters`, declared or not. So they are exactly the merged names when
every listed name is declared in one of the two schemas, and only then. -/
theorem getParamsTypes_partition :
  (getParamsTypes runner action).PairwiseDisjoint
    ∧ (∀ n, (getParamsTypes runner action).Classified n
      ↔ n ∈ action.parameters ∪ runner.runnerParameters
        ∨ n ∈ runner.requiredParameters ++ action.requiredParameters)
    ∧ ((∀ n, (getParamsTypes runner action).Classified n
        ↔ n ∈ action.parameters ∪ runner.runnerParameters)
      ↔ ∀ n ∈ runner.requiredParameters ++ action.requiredParameters,
        n ∈ action.parameters ∪ runner.runnerParameters)
  := by
  refine ⟨fun n => ⟨?_, ?_, ?_⟩, fun n => classified_iff runner action, ?_⟩
  · exact fun ⟨hr, ho⟩ => ((mem_optional runner action).mp ho).2.1 hr
  · exact fun ⟨hr, hi⟩ => not_mem_required_of_mem_immutable runner action hi hr
  · exact fun ⟨ho, hi⟩ => ((mem_optional runner action).mp ho).2.2 hi
  · simp only [classified_iff]
    exact ⟨fun h n hn => (h n).mp (.inr hn), fun h n => ⟨(·.elim id (h n)), .inl⟩⟩

/-- A name listed as required and declared in neither schema is required without being a
merged name. -/
theorem getParamsTypes_required_undeclared :
  "cmd" ∈ (getParamsTypes ⟨"run-local", ∅, ["cmd"]⟩
      ⟨"core", "local", "run-local", .str "", ∅, []⟩).required
    ∧ "cmd" ∉ (getParamsTypes ⟨"run-local", ∅, ["cmd"]⟩
      ⟨"core", "local", "run-local", .str "", ∅, []⟩).parameters
  := by
  decide

/-- A merged name is immutable exactly when the runner's or the action's own entry
marks it so, even where the merged table keeps an action entry without the flag; an
immutable name is then neither required nor optional. -/
theorem getParamsTypes_immutable (n : String)
    (hn : n ∈ action.parameters ∪ runner.runnerParameters) :
  (n ∈ (getParamsTypes runner action).immutable
      ↔ declaredImmutable runner.runnerParameters n ∨ declaredImmutable action.parameters n)
    ∧ (n ∈ (getParamsTypes runner action).immutable
      → n ∉ (getParamsTypes runner action).required
        ∧ n ∉ (getParamsTypes runner action).optional)
  := by
  refine ⟨by rw [mem_immutable, Bool.or_eq_true]; exact and_iff_right hn, fun hi => ⟨?_, ?_⟩⟩
  · exact not_mem_required_of_mem_immutable runner action hi
  · exact fun ho => ((mem_optional runner action).mp ho).2.2 hi

/-- A runner that marks `cmd` immutable and an action whose own entry for `cmd` drops
the flag: `cmd` is immutable. -/
theorem getParamsTypes_immutable_override :
  let runner : RunnerType := ⟨"run-local", (∅ : Schema).insert "cmd" { immutable := some (.bool true) }, []⟩
  let action : Action := ⟨"core", "local", "run-local", .str "", (∅ : Schema).insert "cmd" { immutable := some (.bool false) }, ["cmd"]⟩
  "cmd" ∈ action.parameters ∪ runner.runnerParameters
    ∧ ((getParamsTypes runner action).immutable.elems = ["cmd"]
      ∧ "cmd" ∉ (getParamsTypes runner action).required)
  := by
  intro runner action
  have hn : "cmd" ∈ action.parameters ∪ runner.runnerParameters := by decide
  obtain ⟨himm, hnot⟩ := getParamsTypes_immutable runner action "cmd" hn
  exact ⟨hn, by decide, (hnot (himm.mpr (.inl rfl))).1⟩

end ActionRunCommand

end St2
