import St2.Python.Os

/-!
# `ActionsController.post` and its content-pack check

`ActionsController.post` of the API stores an action once its runner type is found and
its content pack passes `_is_valid_content_pack`, which asks the file system whether the
directory `os.path.join(content_packs_base_path, content_pack, 'actions')` exists. A body
without a content pack is given the pack `default`.

* `post_eq_ok`, `post_eq_error`: what `post` answers, in every case.
* `actionsPath_of_segment`, `insideBase_actionsPath`: for a pack that is one path
  segment, the check looks at `<base>/<pack>/actions`, inside the base path; so does the
  check of an action stored with such a pack (`post_ok_of_segment`).
* `post_accepts_pack_outside_base`: `post` stores actions for the packs `/tmp` and
  `../../../tmp` when `/tmp/actions` exists. Neither is a segment, and the directory the
  check found lies outside the base path.
-/

namespace St2

namespace ActionsController

/-- `http_client.NOT_FOUND`. -/
def notFound : Nat := 404

/-- `http_client.BAD_REQUEST`. -/
def badRequest : Nat := 400

/-- `http_client.CONFLICT`. -/
def conflict : Nat := 409

/-- `http_client.INTERNAL_SERVER_ERROR`. -/
def internalServerError : Nat := 500

/-- The fields of the `ActionAPI` body that `post` reads, `none` for a field the body
does not set. -/
structure ActionAPI where
  name : String
  runnerType : String
  enabled : Option PyVal
  contentPack : Option String

/-- The action `ActionAPI.to_model` builds. -/
structure ActionDB where
  name : String
  runnerType : String
  enabled : Bool
  contentPack : String
  deriving DecidableEq, Repr

/-- How `post` ends without storing: `abort(status, msg)`, or an exception it does not
catch. -/
inductive PostError where
  | abort (status : Nat) (msg : String)
  | raised (e : PyExc)
  deriving DecidableEq, Repr

/-- The configuration, the database and the file system `post` reads. -/
structure ApiEnv where
  /-- `cfg.CONF.content.content_packs_base_path`. -/
  contentPacksBasePath : String
  /-- `get_runnertype_by_name(name)`, which raises `StackStormDBObjectNotFoundError` for
  an unknown name. -/
  getRunnertypeByName : String → Except PyExc Unit
  /-- `os.path.exists(p)`. -/
  pathExists : String → Bool
  /-- `Action.add_or_update(model)`. -/
  addOrUpdate : ActionDB → Except PyExc ActionDB

/-- `os.path.join(base_path, content_pack, 'actions')`. -/
def actionsPath (basePath contentPack : String) : String :=
  Path.join (Path.join basePath contentPack) "actions"

/-- `_is_valid_content_pack(content_pack)`. -/
def isValidContentPack (env : ApiEnv) (contentPack : String) : Bool :=
  env.pathExists (actionsPath env.contentPacksBasePath contentPack)

/-- `ActionAPI.to_model(action)` once `post` has set `enabled`, to `True` when the body
does not set it and to `bool(action.enabled)` otherwise, and `content_pack`, to `default`
when the body does not set it. -/
def toModel (action : ActionAPI) : ActionDB where
  name := action.name
  runnerType := action.runnerType
  enabled := match action.enabled with
    | none => true
    | some v => v.truthy
  contentPack := action.contentPack.getD "default"

/-- The message of the `400` answer to a pack that fails the check. -/
def contentPackMissing (contentPack basePath : String) : String :=
  "Content pack " ++ contentPack ++ " does not exist in " ++ basePath ++ "."

/-- How `post` answers an exception of `Action.add_or_update`. -/
def storeError (e : PyExc) : PostError :=
  if e.cls = "NotUniqueError" then .abort conflict e.msg else .abort internalServerError e.msg

/-- How `post` answers an exception of `get_runnertype_by_name`. -/
def runnerTypeError (runnerType : String) (e : PyExc) : PostError :=
  if e.cls = "StackStormDBObjectNotFoundError" then
    .abort notFound ("RunnerType " ++ runnerType ++ " is not found.")
  else .raised e

/-- `post(action)`: the action stored, or how the request ends. -/
def post (env : ApiEnv) (action : ActionAPI) : Except PostError ActionDB :=
  match env.getRunnertypeByName action.runnerType with
  | .error e => .error (runnerTypeError action.runnerType e)
  | .ok () =>
    let contentPack := action.contentPack.getD "default"
    if !isValidContentPack env contentPack then
      .error (.abort badRequest (contentPackMissing contentPack env.contentPacksBasePath))
    else
      match env.addOrUpdate (toModel action) with
      | .ok actionDb => .ok actionDb
      | .error e => .error (storeError e)

/-! ### What `post` answers -/

variable (env : ApiEnv) (action : ActionAPI)

/-- `post` stores an action exactly when the runner type is found, the content pack (or
`default`) passes the check, and the store accepts the model; it answers with what the
store answered. -/
theorem post_eq_ok {a : ActionDB} :
  post env action = .ok a
    ↔ env.getRunnertypeByName action.runnerType = .ok ()
      ∧ isValidContentPack env (action.contentPack.getD "default")
      ∧ env.addOrUpdate (toModel action) = .ok a
  := by
  unfold post
  rcases env.getRunnertypeByName action.runnerType with e | ⟨⟩
  · simp
  · by_cases hv : isValidContentPack env (action.contentPack.getD "default")
    · rcases env.addOrUpdate (toModel action) with e | a' <;> simp [hv]
    · simp [hv]

/-- Every other answer of `post`: the error of the runner lookup, the `400` naming the
pack and the base path, or the error of the store. -/
theorem post_eq_error {err : PostError} :
  post env action = .error err
    ↔ (∃ e, env.getRunnertypeByName action.runnerType = .error e
          ∧ err = runnerTypeError action.runnerType e)
      ∨ (env.getRunnertypeByName action.runnerType = .ok ()
          ∧ isValidContentPack env (action.contentPack.getD "default") = false
          ∧ err = .abort badRequest
            (contentPackMissing (action.contentPack.getD "default") env.contentPacksBasePath))
      ∨ (env.getRunnertypeByName action.runnerType = .ok ()
          ∧ isValidContentPack env (action.contentPack.getD "default")
          ∧ ∃ e, env.addOrUpdate (toModel action) = .error e ∧ err = storeError e)
  := by
  unfold post
  rcases env.getRunnertypeByName action.runnerType with e | ⟨⟩
  · simp [eq_comm (a := err)]
  · by_cases hv : isValidContentPack env (action.contentPack.getD "default")
    · rcases env.addOrUpdate (toModel action) with e | a' <;> simp [hv, eq_comm (a := err)]
    · simp [hv, eq_comm (a := err)]

/-! ### The directory the check looks at -/

section BasePath

variable {basePath contentPack : String} (hbase : basePath ≠ "")
  (hlast : basePath.data.getLast? ≠ some '/')

include hbase hlast in
/-- For a pack that is one path segment, the check looks at `<base>/<pack>/actions`. -/
theorem actionsPath_of_segment (hseg : Path.IsSegment contentPack) :
  actionsPath basePath contentPack = basePath ++ "/" ++ contentPack ++ "/" ++ "actions"
  := by
  rw [actionsPath, Path.join_of_relative hseg.not_startsWith hbase hlast,
    Path.join_of_relative (by decide) (Path.append_sep_ne_empty _ _)
      (Path.getLast?_append_segment hseg)]

example : actionsPath "/opt/stackstorm/packs" "linux" = "/opt/stackstorm/packs/linux/actions" :=
  rfl

include hbase hlast in
/-- For a pack that is one path segment, the directory the check looks at lies inside the
base path. -/
theorem insideBase_actionsPath (hseg : Path.IsSegment contentPack) :
  Path.InsideBase basePath (actionsPath basePath contentPack)
  := by
  rw [actionsPath_of_segment hbase hlast hseg]
  exact (Path.insideBase_append_segment hbase hlast hseg).trans
    (Path.insideBase_append_segment (Path.append_sep_ne_empty _ _)
      (Path.getLast?_append_segment hseg) (by decide))

end BasePath

/-- An action `post` stored with a pack that is one path segment (as `default` is) was
checked at `<base>/<pack>/actions`, which exists and lies inside the base path. -/
theorem post_ok_of_segment {a : ActionDB} (h : post env action = .ok a)
    (hbase : env.contentPacksBasePath ≠ "")
    (hlast : env.contentPacksBasePath.data.getLast? ≠ some '/')
    (hseg : Path.IsSegment (action.contentPack.getD "default")) :
  env.pathExists
      (env.contentPacksBasePath ++ "/" ++ action.contentPack.getD "default" ++ "/" ++ "actions")
    ∧ Path.InsideBase env.contentPacksBasePath
      (actionsPath env.contentPacksBasePath (action.contentPack.getD "default"))
  := by
  have hvalid := ((post_eq_ok env action).mp h).2.1
  rw [isValidContentPack, actionsPath_of_segment hbase hlast hseg] at hvalid
  exact ⟨hvalid, insideBase_actionsPath hbase hlast hseg⟩

/-- The action `hello` of the pack `linux`. -/
theorem post_ok_linux :
  post ⟨"/opt/stackstorm/packs", fun _ => .ok (),
      fun p => p == "/opt/stackstorm/packs/linux/actions", .ok⟩
      ⟨"hello", "run-local", none, some "linux"⟩ = .ok ⟨"hello", "run-local", true, "linux"⟩
    ∧ Path.InsideBase "/opt/stackstorm/packs" (actionsPath "/opt/stackstorm/packs" "linux")
  := ⟨rfl, (post_ok_of_segment ⟨"/opt/stackstorm/packs", fun _ => .ok (),
      fun p => p == "/opt/stackstorm/packs/linux/actions", .ok⟩
      ⟨"hello", "run-local", none, some "linux"⟩ rfl (by decide) (by decide) (by decide)).2⟩

/-- With `/tmp/actions` on the file system, `post` stores actions for the packs `/tmp`
and `../../../tmp` under the base path `/opt/stackstorm/packs`: `os.path.join` drops the
base before an absolute pack, and `..` climbs out of it. Neither pack is a path segment,
and the directory the check found lies outside the base path. -/
theorem post_accepts_pack_outside_base :
  post ⟨"/opt/stackstorm/packs", fun _ => .ok (), fun p => Path.normpath p == "/tmp/actions",
      .ok⟩ ⟨"hello", "run-local", none, some "/tmp"⟩
    = .ok ⟨"hello", "run-local", true, "/tmp"⟩
  ∧ post ⟨"/opt/stackstorm/packs", fun _ => .ok (), fun p => Path.normpath p == "/tmp/actions",
      .ok⟩ ⟨"hello", "run-local", none, some "../../../tmp"⟩
    = .ok ⟨"hello", "run-local", true, "../../../tmp"⟩
  ∧ ¬ Path.IsSegment "/tmp" ∧ ¬ Path.IsSegment "../../../tmp"
  ∧ ¬ Path.InsideBase "/opt/stackstorm/packs" (actionsPath "/opt/stackstorm/packs" "/tmp")
  ∧ ¬ Path.InsideBase "/opt/stackstorm/packs"
      (actionsPath "/opt/stackstorm/packs" "../../../tmp")
  := ⟨rfl, rfl, by decide, by decide, by decide, by decide⟩

end ActionsController

end St2
