import St2.Client.Model

/-!
# The `execution list` and `execution get` commands

`ActionExecutionListCommand` queries the most recent executions, filtered by an action
name or, failing that, an action id; it shows a single execution as a property table and
several as a table of columns. `ActionExecutionGetCommand` fetches one execution by its id
and prints a not-found message when the API has none.
-/

namespace St2

namespace ActionExecutionListCommand

/-- `display_attributes`. -/
def displayAttributes : List String := ["id", "ref", "context.user", "status", "start_timestamp"]

/-- The parsed command line of `st2 execution list`, with the parser's defaults. -/
structure Args where
  actionName : Option String := none
  actionId : Option String := none
  last : Int := 50
  attr : List String := displayAttributes
  width : List Int := [28]
  json : Bool := false

/-- The keyword arguments `run` adds for `query`: `action_name` when it is given and not
empty, otherwise `action_id` when it is. -/
def queryFilters (args : Args) : List (String × String) :=
  match args.actionName.filter (· != ""), args.actionId.filter (· != "") with
  | some name, _ => [("action_name", name)]
  | none, some id => [("action_id", id)]
  | none, none => []

/-- `run(args)`: `self.manager.query(limit=args.last, **kwargs)`. -/
def run (query : Int → List (String × String) → Except PyExc (List Execution)) (args : Args) :
    Except PyExc (List Execution) :=
  query args.last (queryFilters args)

/-- The attributes the property table of a single execution shows: those asked for when
their set differs from the set of `display_attributes`, otherwise `['all']`. -/
def singleAttributes (attr : List String) : List String :=
  if attr.any (· ∉ displayAttributes) || displayAttributes.any (· ∉ attr) then attr
  else ["all"]

/-- What `run_and_print` prints, by the table it draws. -/
inductive Output where
  | propertyValue (execution : Execution) (attributes : List String) (json : Bool)
  | multiColumn (instances : List Execution) (attributes : List String) (widths : List Int)
      (json : Bool)

/-- `run_and_print(args)`. -/
def runAndPrint (query : Int → List (String × String) → Except PyExc (List Execution))
    (args : Args) : Except PyExc Output :=
  match run query args with
  | .error e => .error e
  | .ok [execution] => .ok (.propertyValue execution (singleAttributes args.attr) args.json)
  | .ok instances => .ok (.multiColumn instances args.attr args.width args.json)

end ActionExecutionListCommand

namespace ActionExecutionGetCommand

/-- The parsed command line of `st2 execution get`, with the parser's defaults. -/
structure Args where
  id : String
  attr : List String := ["all"]
  json : Bool := false

/-- `run(args)`: `self.manager.get_by_id(args.id)`. -/
def run (getById : String → Except PyExc Execution) (args : Args) : Except PyExc Execution :=
  getById args.id

/-- What `run_and_print` prints. -/
inductive Output where
  | propertyValue (execution : Execution) (attributes : List String) (json : Bool)
  | notFound (id : String)

/-- `run_and_print(args)`: `print_not_found(args.id)` on `ResourceNotFoundError`. -/
def runAndPrint (getById : String → Except PyExc Execution) (args : Args) : Except PyExc Output :=
  match run getById args with
  | .ok execution => .ok (.propertyValue execution args.attr args.json)
  | .error e =>
    if e.cls = "ResourceNotFoundError" then .ok (.notFound args.id) else .error e

end ActionExecutionGetCommand

end St2
