import St2.Api.Actions

/-!
# The other handlers of `ActionsController`

`get_one`, `get_all`, `put` and `delete` read and write the actions of the database
`post` stores into. `get_one`, `put` and `delete` first look the action up by its id
through `__get_by_id`, which answers any exception of the lookup with a `404`;
`get_all` with a name asks `__get_by_name`, which swallows every exception. `put`
answers `400` only for `ValidationError` and `ValueError`; any other exception of the
replacement escapes it.
-/

namespace St2

namespace ActionsController

/-- What the handlers of the controller read: `post`'s configuration, runner types and
file system, and the calls the other handlers make on the actions of the database. -/
structure ControllerEnv extends ApiEnv where
  /-- `Action.get_by_id(id)`. -/
  getById : String → Except PyExc ActionDB
  /-- `Action.get_by_name(name)`. -/
  getByName : String → Except PyExc ActionDB
  /-- `Action.get_all(**kw)`; the filters in `kw` are left out. -/
  getAll : List ActionDB
  /-- The body of `put`'s `try`: `ActionAPI.to_model(action)`, its `id` set to `id`, saved
  by `Action.add_or_update`. -/
  replace : String → ActionAPI → Except PyExc ActionDB
  /-- `Action.delete(action_db)`. -/
  delete : ActionDB → Except PyExc Unit

/-- The message of the `404` answer to a lookup by id that raised `e`. -/
def lookupFailed (id : String) (e : PyExc) : String :=
  "Database lookup for id=\"" ++ id ++ "\" resulted in exception. " ++ e.msg

/-- `__get_by_id(id)`: the action, or `abort(404, msg)` on any exception. -/
def getById (env : ControllerEnv) (id : String) : Except PostError ActionDB :=
  match env.getById id with
  | .ok actionDb => .ok actionDb
  | .error e => .error (.abort notFound (lookupFailed id e))

/-- `__get_by_name(name)`: the action in a list, or `[]` on any exception. -/
def getByName (env : ControllerEnv) (name : String) : List ActionDB :=
  match env.getByName name with
  | .ok action => [action]
  | .error _ => []

/-- `get_one(id)`; `ActionAPI.from_model` is left out, the model is the answer. -/
def getOne (env : ControllerEnv) (id : String) : Except PostError ActionDB :=
  getById env id

/-- `get_all(name)`. -/
def getAll (env : ControllerEnv) (name : Option String) : List ActionDB :=
  match name with
  | none => env.getAll
  | some name => getByName env name

/-- How `put` answers an exception inside its `try`: `ValidationError` and `ValueError`
with `400`; any other exception is not caught. -/
def putError (e : PyExc) : PostError :=
  if e.cls = "ValidationError" ∨ e.cls = "ValueError" then .abort badRequest e.msg
  else .raised e

/-- `put(id, action)`: the action is looked up and then replaced. -/
def put (env : ControllerEnv) (id : String) (action : ActionAPI) : Except PostError ActionDB :=
  match getById env id with
  | .error err => .error err
  | .ok _ =>
    match env.replace id action with
    | .ok actionDb => .ok actionDb
    | .error e => .error (putError e)

/-- `delete(id)`: the action is looked up and then deleted; `None` is the answer. -/
def delete (env : ControllerEnv) (id : String) : Except PostError Unit :=
  match getById env id with
  | .error err => .error err
  | .ok actionDb =>
    match env.delete actionDb with
    | .ok () => .ok ()
    | .error e => .error (.abort internalServerError e.msg)

end ActionsController

end St2
