import St2.Client.Model

/-!
# Polling an execution

In synchronous mode `ActionRunCommand.run` polls the execution it created until its
status is neither `scheduled` nor `running`: each pass of the loop sleeps one second,
prints a dot unless `--json` is given, and refetches the execution by the id of the one
it holds. After the loop it prints a newline and decodes a JSON result. In asynchronous
mode it returns the created execution as it is.

The loop can run forever, so `pollLoop` takes a number of passes `fuel` and answers
`none` when they run out first. A pass sleeps and writes its dot before it refetches, so
an exception of `get_by_id` carries the state after them (`slept`).

* `pollStep_pollState` and `pollLoop_pollState`: from the state after `i` passes over a
  sequence of refetched executions, each pass gives the state after `i + 1`.
* `pollExecution_spec`: when `e k` is the first execution of the sequence whose status
  is final, polling ends after exactly `k` refetches, by the ids of `e 0`, ...,
  `e (k - 1)`, with `k` sleeps and `k` dots, and returns `e k` with its result decoded
  (`ResultDecoded`); in asynchronous mode it returns the created execution at once.
* `pollLoop_paced`: on every run of the loop, one ended by an exception of `get_by_id`
  included, each refetch follows one sleep and one dot.
-/

namespace St2

/-- `ACTIONEXEC_STATUS_SCHEDULED`. -/
def actionexecStatusScheduled : String := "scheduled"

/-- `ACTIONEXEC_STATUS_RUNNING`. -/
def actionexecStatusRunning : String := "running"

namespace ActionRunCommand

/-- The condition of the polling loop: the status is `scheduled` or `running`. -/
def isPending (status : String) : Bool :=
  status == actionexecStatusScheduled || status == actionexecStatusRunning

/-- What the polling loop has done so far: the execution it holds, the ids it refetched
by, in order, the number of times it slept, and what it wrote to standard output. -/
structure PollState where
  execution : Execution
  fetched : List String
  sleeps : Nat
  stdout : String

/-- The state after the first two statements of a pass, `time.sleep(1)` and a dot unless
`--json`, with the refetch by the id of the execution held counted as made. -/
def slept (json : Bool) (s : PollState) : PollState where
  execution := s.execution
  fetched := s.fetched ++ [s.execution.id]
  sleeps := s.sleeps + 1
  stdout := if json then s.stdout else s.stdout ++ "."

/-- One pass of the `while` body: `time.sleep(1)`, a dot unless `--json`, and
`get_by_id` with the id of the execution held, as the loop's refetch number
`fetched.length`. When `get_by_id` raises, the sleep and the dot have happened: the
exception carries the state after them, still holding the execution of before. -/
def pollStep (client : Client) (json : Bool) (s : PollState) :
    Except (PyExc × PollState) PollState :=
  match client.getById s.fetched.length s.execution.id with
  | .error e => .error (e, slept json s)
  | .ok execution => .ok { slept json s with execution := execution }

/-- The `while` loop for at most `fuel` passes: `none` when the status is still pending
after them. -/
def pollLoop (client : Client) (json : Bool) :
    Nat → PollState → Except (PyExc × PollState) (Option PollState)
  | 0, s => if isPending s.execution.status then .ok none else .ok (some s)
  | fuel + 1, s =>
    if isPending s.execution.status then
      match pollStep client json s with
      | .error e => .error e
      | .ok s' => pollLoop client json fuel s'
    else .ok (some s)

/-- The `try` after the loop: `execution.result = json.loads(execution.result)`, the
execution unchanged when that raises, as it does for a result that is not a string. -/
def decodeResult (rt : Runtime) (e : Execution) : Execution :=
  match e.result with
  | .str s =>
    match rt.jsonLoads s with
    | .ok v => { e with result := v }
    | .error _ => e
  | _ => e

/-- Lines 184-199 of `run`, from the execution `create` returned, polling for at most
`fuel` passes. -/
def pollExecution (rt : Runtime) (client : Client) (args : Args) (fuel : Nat)
    (execution : Execution) : Except (PyExc × PollState) (Option PollState) :=
  if args.async then .ok (some ⟨execution, [], 0, ""⟩)
  else
    match pollLoop client args.json fuel ⟨execution, [], 0, ""⟩ with
    | .error e => .error e
    | .ok none => .ok none
    | .ok (some s) =>
      .ok (some { s with execution := decodeResult rt s.execution, stdout := s.stdout ++ "\n" })

/-! ### Decoding the result -/

/-- What the `try` after the loop makes of the execution `e`: `x` is `e` but for its
result, which is the decoded value when the result of `e` is a string that `json.loads`
accepts, and the result of `e` otherwise. -/
structure ResultDecoded (rt : Runtime) (x e : Execution) : Prop where
  id_eq : x.id = e.id
  action_eq : x.action = e.action
  parameters_eq : x.parameters = e.parameters
  status_eq : x.status = e.status
  result_of_loads : ∀ s v, e.result = .str s → rt.jsonLoads s = .ok v → x.result = v
  result_of_not_loads : (∀ s v, e.result = .str s → rt.jsonLoads s ≠ .ok v) →
    x.result = e.result

theorem decodeResult_decoded (rt : Runtime) (e : Execution) :
  ResultDecoded rt (decodeResult rt e) e
  := by
  unfold decodeResult
  split
  · rename_i s hs
    split
    · rename_i v hv
      refine ⟨rfl, rfl, rfl, rfl, fun s' v' hs' hv' => ?_, fun h => absurd hv (h s v hs)⟩
      cases hs.symm.trans hs'
      exact Except.ok.inj (hv.symm.trans hv')
    · rename_i err hv
      refine ⟨rfl, rfl, rfl, rfl, fun s' v' hs' hv' => ?_, fun _ => rfl⟩
      cases hs.symm.trans hs'
      cases hv.symm.trans hv'
  · rename_i hnot
    exact ⟨rfl, rfl, rfl, rfl, fun s _ hs => absurd hs (hnot s), fun _ => rfl⟩

/-! ### Polling over a sequence of executions -/

variable (client : Client) (json : Bool) (e : Nat → Execution)

/-- The state after `i` passes over the executions `e 0`, `e 1`, ... -/
def pollState (i : Nat) : PollState where
  execution := e i
  fetched := (List.range i).map fun j => (e j).id
  sleeps := i
  stdout := if json then "" else ⟨List.replicate i '.'⟩

theorem dots_succ (i : Nat) :
  (⟨List.replicate i '.'⟩ : String) ++ "." = ⟨List.replicate (i + 1) '.'⟩
  := by
  rw [List.replicate_succ']
  rfl

theorem pollStep_pollState {i : Nat} (hfetch : client.getById i (e i).id = .ok (e (i + 1))) :
  pollStep client json (pollState json e i) = .ok (pollState json e (i + 1))
  := by
  cases json <;> simp [pollStep, slept, pollState, hfetch, List.range_succ, dots_succ]

theorem pollState_zero : pollState json e 0 = ⟨e 0, [], 0, ""⟩ := by
  cases json <;> rfl

variable {k : Nat} (hfetch : ∀ i < k, client.getById i (e i).id = .ok (e (i + 1)))
  (hpending : ∀ i < k, isPending (e i).status) (hdone : isPending (e k).status = false)

include hfetch hpending hdone in
theorem pollLoop_pollState (fuel : Nat) {i : Nat} (hi : i ≤ k) :
  pollLoop client json fuel (pollState json e i)
    = if k - i ≤ fuel then .ok (some (pollState json e k)) else .ok none
  := by
  induction fuel generalizing i with
  | zero =>
    rcases Nat.lt_or_eq_of_le hi with hlt | rfl
    · simp [pollLoop, pollState, hpending i hlt, Nat.sub_ne_zero_of_lt hlt]
    · simp [pollLoop, pollState, hdone]
  | succ fuel ih =>
    rcases Nat.lt_or_eq_of_le hi with hlt | rfl
    · have hpend : isPending (pollState json e i).execution.status := hpending i hlt
      rw [pollLoop, if_pos hpend, pollStep_pollState client json e (hfetch i hlt)]
      dsimp only
      rw [ih hlt]
      simp only [show (k - (i + 1) ≤ fuel) = (k - i ≤ fuel + 1) from propext (by omega)]
    · simp [pollLoop, pollState, hdone]

include hfetch hpending hdone in
theorem pollExecution_sync (rt : Runtime) {args : Args} (hsync : args.async = false) (fuel : Nat) :
  pollExecution rt client args fuel (e 0)
    = if k ≤ fuel then
        .ok (some ⟨decodeResult rt (e k), (List.range k).map fun i => (e i).id, k,
          (if args.json then "" else ⟨List.replicate k '.'⟩) ++ "\n"⟩)
      else .ok none
  := by
  rw [pollExecution, if_neg (by simp [hsync]), ← pollState_zero args.json e,
    pollLoop_pollState client args.json e hfetch hpending hdone fuel (Nat.zero_le k), Nat.sub_zero]
  by_cases hk : k ≤ fuel
  · rw [if_pos hk, if_pos hk]
    rfl
  · rw [if_neg hk, if_neg hk]

/-- One sleep before each refetch, and one dot per sleep on standard output unless
`--json`. -/
def Paced (json : Bool) (s : PollState) : Prop :=
  s.fetched.length = s.sleeps ∧ s.stdout = if json then "" else ⟨List.replicate s.sleeps '.'⟩

theorem paced_start (execution : Execution) : Paced json ⟨execution, [], 0, ""⟩ := by
  cases json <;> exact ⟨rfl, rfl⟩

theorem paced_slept {s : PollState} (h : Paced json s) : Paced json (slept json s) := by
  obtain ⟨hfetched, hstdout⟩ := h
  refine ⟨by simp [slept, hfetched], ?_⟩
  cases json <;> simp [slept, hstdout, dots_succ]

/-- What a run of the loop ends with, paced: the state it returns, and the state an
exception of `get_by_id` carries, after at least one sleep. -/
def PacedOutcome (json : Bool) : Except (PyExc × PollState) (Option PollState) → Prop
  | .ok none => True
  | .ok (some s) => Paced json s
  | .error (_, s) => Paced json s ∧ 0 < s.sleeps

/-- Every run of the loop from a paced state ends paced, also when a refetch raises: the
sleep and the dot of that pass are done. -/
theorem pollLoop_paced (fuel : Nat) {s : PollState} (h : Paced json s) :
  PacedOutcome json (pollLoop client json fuel s)
  := by
  induction fuel generalizing s with
  | zero =>
    rw [pollLoop]
    split_ifs
    · trivial
    · exact h
  | succ fuel ih =>
    rw [pollLoop]
    split_ifs
    · rw [pollStep]
      cases client.getById s.fetched.length s.execution.id with
      | error e => exact ⟨paced_slept json h, Nat.succ_pos _⟩
      | ok x => exact ih (paced_slept json h)
    · exact h

/-- An exception raised while polling is raised in synchronous mode, after at least one
pass, from a paced state. -/
theorem pollExecution_error_paced (rt : Runtime) {args : Args} {fuel : Nat} {execution : Execution}
    {exc : PyExc} {s : PollState} (h : pollExecution rt client args fuel execution = .error (exc, s)) :
  args.async = false ∧ 0 < s.sleeps ∧ Paced args.json s
  := by
  unfold pollExecution at h
  split_ifs at h with hasync
  have hout := pollLoop_paced client args.json fuel (paced_start args.json execution)
  split at h
  · rename_i hloop
    rw [hloop] at hout
    cases h
    exact ⟨by simpa using hasync, hout.2, hout.1⟩
  · cases h
  · cases h

end ActionRunCommand

end St2
