import St2.Python.Os

/-!
# The data of the action command

The records `ActionRunCommand` reads and builds: the metadata of a parameter, the
parameter schemas of a runner type and of an action, the execution it submits and the
one the API returns, its command-line arguments, and the API it talks to.
-/

namespace St2

/-- The metadata of one parameter in a schema: the JSON object
`{type, description, enum, default, immutable, position, ...}`. `others` holds the keys
the client never reads, such as `required` or `secret`: they only make the object
non-empty. A `position` is an integer. -/
structure ParamMeta where
  type : Option PyVal := none
  description : Option PyVal := none
  enum : Option PyVal := none
  default : Option PyVal := none
  immutable : Option PyVal := none
  position : Option Int := none
  others : List (String × PyVal) := []

/-- `not meta`: the object has no key at all. -/
def ParamMeta.isEmpty (m : ParamMeta) : Bool :=
  m.type.isNone && m.description.isNone && m.enum.isNone && m.default.isNone &&
    m.immutable.isNone && m.position.isNone && m.others.isEmpty

/-- A parameter schema: each parameter's name and metadata. -/
abbrev Schema := AList (fun _ : String => ParamMeta)

/-- A runner type as the API returns it. A missing `required_parameters` is `[]`, as the
client's `getattr` default has it. -/
structure RunnerType where
  name : String
  runnerParameters : Schema
  requiredParameters : List String := []

/-- An action as the API returns it. -/
structure Action where
  pack : String
  name : String
  runnerType : String
  description : PyVal
  parameters : Schema
  requiredParameters : List String := []

/-- The execution the client submits: an action reference and its parameters. -/
structure ExecutionRequest where
  action : String
  parameters : PyDict

/-- An execution as the API returns it. -/
structure Execution where
  id : String
  action : String
  parameters : PyDict
  status : String
  result : PyVal

/-- The parsed command line of `st2 run` (or `st2 action execute`). -/
structure Args where
  refOrId : Option String
  parameters : List String
  async : Bool
  json : Bool
  help : Bool

/-- The API calls the command makes. `getById i` answers the `i`-th refetch of the
polling loop, counted from zero, so that the answers may change over time. -/
structure Client where
  /-- `get_resource_by_ref_or_id`. -/
  getActionByRefOrId : String → Except PyExc (Option Action)
  /-- `RunnerType` manager `get_by_name`. -/
  getRunnerByName : String → Except PyExc (Option RunnerType)
  /-- `ActionExecution` manager `create`. -/
  create : ExecutionRequest → Except PyExc Execution
  /-- `ActionExecution` manager `get_by_id`. -/
  getById : Nat → String → Except PyExc Execution

end St2
