import Tenancy.Http.Api
import Tenancy.Proofs.Json.Dump
import Tenancy.Proofs.Store.Run

/-!
# Requests for new settings

A request for new settings is either refused, and then nothing is written, or its settings are
written and then shown. What is shown is what a reading of the workspace shows. The reply has no
words for settings in which half of a surrogate pair is left alone or which are nested too deep,
though the database keeps them: such settings stay written although the request fails, and every
reading fails after it.
-/
namespace Tenancy.Http

open Store

/-! ## Replies -/

-- Whether a workspace can be shown is a matter of its settings
private theorem shows_workspace (row : WorkspaceRow) (encodable : row.Encodable) :
    Json.Shows row.workspace.settings.isEncodable
      (row.workspace.settings.nesting ≤ Json.nestingLimit)
      (Json.dump (Json.nestingLimit + 1) row.workspace.toValue) := by
  obtain ⟨document, -, denoted⟩ := readSettings_stored row.settings
  -- What is shown is what a document denotes, so the reply is decided by the texts of the document
  -- and by its nesting
  let whole : Json := .object [("id", .string row.id), ("signup_token", .string row.token),
    ("settings", document), ("modified_by", .string row.modifiedBy),
    ("update_at", .int row.seconds)]
  have value : whole.toValue = row.workspace.toValue := by
    simp only [whole, Json.toValue, Json.toEntries, denoted]
    rfl
  have texts : row.workspace.toValue.isEncodable = row.workspace.settings.isEncodable := by
    have names : ∀ name ∈ ["id", "signup_token", "settings", "modified_by", "update_at"],
        (Text.ofString name).isEncodable = true := by
      decide
    simp only [List.mem_cons, List.not_mem_nil, or_false, forall_eq_or_imp, forall_eq] at names
    simp only [Workspace.toValue, Value.isEncodable, Value.haveEncodable, names,
      WorkspaceRow.workspace, encodable.id, encodable.token, encodable.modifiedBy, Bool.true_and,
      Bool.and_true]
  have nesting : row.workspace.toValue.nesting ≤ Json.nestingLimit + 1 ↔
      row.workspace.settings.nesting ≤ Json.nestingLimit := by
    have plain : 1 ≤ Json.nestingLimit := by decide
    simp only [Workspace.toValue, Value.nesting, Value.nestingOfEntries]
    omega
  have shown := Json.shows_toValue whole (Json.nestingLimit + 1)
  rwa [value, texts, nesting] at shown

/-- The reply that shows a workspace. -/
theorem ofValue_workspace (row : WorkspaceRow) (encodable : row.Encodable) :
    if row.workspace.settings.IsShowable then
      ∃ body, Response.ofValue row.workspace.toValue = .ok (.ofText 200 body)
    else ∃ fault, Response.ofValue row.workspace.toValue = .error fault := by
  have shown := shows_workspace row encodable
  split
  next possible =>
    obtain ⟨document, shown⟩ := shown.ok_of possible.1 possible.2
    rw [Response.ofValue, Json.dumpWith, shown]
    exact ⟨_, rfl⟩
  next impossible =>
    obtain ⟨fault, shown⟩ := shown.error_of impossible
    rw [Response.ofValue, Json.dumpWith, shown]
    exact ⟨_, rfl⟩

/-- The reply to an outcome, and the fault that escapes. -/
def answer : Except Fault Response → Response × Option Fault
  | .ok response => (response, none)
  | .error fault => (.internalError, some fault)

/-- What serving a request comes to. -/
theorem serve_run {δ : Type} [Engine δ] (api : Api) (request : Request) (world : World δ) :
    (api.serve request).run world =
      (answer ((api.handle request).result world).1, ((api.handle request).result world).2) := by
  rw [Api.serve, StateT.run_bind, Step.result]
  rcases (api.handle request).run.run world with ⟨outcome, after⟩
  cases outcome <;> rfl

/-- A request with the method of its route is served by it. -/
theorem handle_route {δ : Type} [Engine δ] (api : Api) (request : Request) (route : Route)
    (found : Route.ofPath? request.path = some route)
    (method : request.method = Text.ofString route.method) :
    (api.handle request : Step δ Response) = api.respond request route := by
  simp only [Api.handle, found]
  exact if_pos method

/-! ## Readings -/

/-- A request that reads a workspace in the name of a user who may use it. -/
structure Reads (api : Api) (store : Store) (id user : Text) (request : Request) : Prop where
  route : Route.ofPath? request.path = some (.workspace id)
  method : request.method = "GET"
  named : request.user = .ok user
  admitted : api.admits store user id = true

section
variable (tablePrefix : Text) (sendable : tablePrefix.isSendable = true) (rows : List WorkspaceRow)
  (world : World Database) (state : world.database = holding tablePrefix rows)
  (api : Api) (configured : api.store = some (embedded tablePrefix))
include sendable state

-- The reply to who reads a workspace that has a row
private def shownRow (row : WorkspaceRow) : Response × Option Fault :=
  answer (Response.ofValue row.workspace.toValue)

omit sendable state in
private theorem workspace_settings (row : WorkspaceRow) (settings : StoredSettings)
    (isSettings : row.settings = some settings) :
    row.workspace.settings = settings.given.canonical := by
  rw [WorkspaceRow.workspace, isSettings]
  rfl

omit sendable state in
private theorem shownRow_status (row : WorkspaceRow) (encodable : row.Encodable)
    (settings : StoredSettings) (isSettings : row.settings = some settings)
    (possible : settings.given.canonical.IsShowable) : (shownRow row).1.status = 200 := by
  have reply := ofValue_workspace row encodable
  rw [workspace_settings row settings isSettings, if_pos possible] at reply
  obtain ⟨body, reply⟩ := reply
  rw [shownRow, reply]
  rfl

omit sendable state in
private theorem shownRow_internalError (row : WorkspaceRow) (encodable : row.Encodable)
    (settings : StoredSettings) (isSettings : row.settings = some settings)
    (impossible : ¬settings.given.canonical.IsShowable) :
    (shownRow row).1 = .internalError := by
  have reply := ofValue_workspace row encodable
  rw [workspace_settings row settings isSettings, if_neg impossible] at reply
  obtain ⟨fault, reply⟩ := reply
  rw [shownRow, reply]
  rfl

private theorem result_reply (id : Text) (encodable : id.isEncodable = true) (row : WorkspaceRow)
    (found : rows.filter (·.id == id) = [row]) :
    ((do Api.reply (← (embedded tablePrefix).getWorkspace (.text id)).toValue) :
      Step Database Response).result world = (Response.ofValue row.workspace.toValue, world) := by
  rw [Step.result_bind_ok _ _ _ _ _
    (getWorkspace_found tablePrefix sendable rows world state id encodable row found),
    Api.reply, Step.result_ofExcept]

include configured

/-- A reading shows the row. -/
theorem serve_reading (request : Request) (id user : Text)
    (reads : Reads api (embedded tablePrefix) id user request)
    (encodable : id.isEncodable = true) (row : WorkspaceRow)
    (found : rows.filter (·.id == id) = [row]) :
    (api.serve request).run world = (shownRow row, world) := by
  have handled : (api.handle request).result world =
      (Response.ofValue row.workspace.toValue, world) := by
    have present : (some <$> (embedded tablePrefix).getWorkspace (.text id) :
        Step Database (Option Workspace)).result world = (.ok (some row.workspace), world) :=
      Step.result_bind_ok _ _ _ _ _
        (getWorkspace_found tablePrefix sendable rows world state id encodable row found)
    rw [handle_route api request _ reads.route reads.method, Api.respond, Api.withStore, configured]
    simp only [Api.withUser, reads.named, Api.admitted, reads.admitted, if_true]
    rw [Api.workspace, Step.result_bind_ok _ _ _ _ _
      (Step.result_tryCatch_ok _ _ _ _ _ present)]
    exact Step.result_ofExcept _ world
  rw [serve_run, handled, shownRow]

end

/-! ## Requests that are refused -/

/-- Who asks for which new settings, if nothing about a request is refused. -/
def update? (api : Api) (store : Store) (id : Text) (request : Request) : Option (Text × Value) :=
  match Body.ofRequest request with
  | .error _ => none
  | .ok body =>
    match request.user, body.settingsUpdate with
    | .ok user, .ok (.ok update) =>
      if api.admits store user id then some (user, update.settings) else none
    | _, _ => none

/-- A request that is not met: it gets another status, or a failure escapes. -/
def Unmet (outcome : Except Fault Response) : Prop :=
  ∀ response, outcome = .ok response → response.status ≠ 200

private theorem unmet_error (fault : Fault) : Unmet (.error fault) := by
  intro response eq
  cases eq

private theorem unmet_ofText (status : Nat) (body : Text) (other : status ≠ 200) :
    Unmet (.ok (.ofText status body)) := by
  intro response eq
  rwa [← Except.ok.inj eq]

private theorem unmet_unfit (problems : List PartProblem) : Unmet (unfit problems) := by
  unfold unfit
  dsimp only
  split
  · exact unmet_error _
  · split
    · exact unmet_error _
    · exact unmet_ofText _ _ (by decide)

private theorem unmet_ofRequest (request : Request) (response : Response)
    (refused : Body.ofRequest request = .error response) : Unmet (.ok response) := by
  unfold Body.ofRequest at refused
  split at refused
  next => cases refused
  next =>
    split at refused
    next =>
      split at refused
      next => cases refused
      next =>
        rw [← Except.error.inj refused]
        exact unmet_ofText _ _ (by decide)
      next =>
        rw [← Except.error.inj refused]
        exact unmet_ofText _ _ (by decide)
    next => cases refused

/-- A request for new settings of a workspace. -/
structure Updates (id : Text) (request : Request) : Prop where
  route : Route.ofPath? request.path = some (.settings id)
  method : request.method = "POST"

section
variable {δ : Type} [Engine δ] (store : Store) (world : World δ) (api : Api)
  (configured : api.store = some store) (id : Text) (request : Request)
  (updates : Updates id request)
include configured updates

/-- A request that is refused before it comes to its settings changes nothing. -/
theorem handle_refused (refused : update? api store id request = none) : ∃ outcome,
    (api.handle request).result world = (outcome, world) ∧ Unmet outcome := by
  rw [handle_route api request _ updates.route updates.method, Api.respond]
  -- The order of the cases is that of the checks: the body, its settings, the user, the permission
  unfold update? at refused
  cases taken : Body.ofRequest request with
  | error response => exact ⟨.ok response, rfl, unmet_ofRequest request response taken⟩
  | ok body =>
    rw [taken] at refused
    dsimp only at refused ⊢
    simp only [Api.withStore, configured, Api.updateSettings]
    cases read : body.settingsUpdate with
    | error fault => exact ⟨.error fault, rfl, unmet_error fault⟩
    | ok part =>
      rw [read] at refused
      cases named : request.user with
      | error missing =>
        cases part with
        | error misfit => exact ⟨_, Step.result_ofExcept _ world, unmet_unfit _⟩
        | ok update => exact ⟨_, Step.result_ofExcept _ world, unmet_unfit _⟩
      | ok user =>
        cases part with
        | error misfit => exact ⟨_, Step.result_ofExcept _ world, unmet_unfit _⟩
        | ok update =>
          cases admitted : api.admits store user id with
          | true =>
            rw [named] at refused
            simp [admitted] at refused
          | false =>
            have denied : (api.admitted store user id (Api.settings store id user update) :
                Step δ Response) = pure (Api.forbidden id) := by
              rw [Api.admitted, admitted, if_neg Bool.false_ne_true]
            exact ⟨.ok (Api.forbidden id), congrArg (Step.result · world) denied,
              unmet_ofText _ _ (by decide)⟩

/-- A request that is not refused comes to its settings. -/
theorem handle_accepted (user : Text) (settings : Value)
    (accepted : update? api store id request = some (user, settings)) :
    (api.handle request).result world =
      (Api.settings store id user ⟨settings⟩ : Step δ Response).result world := by
  rw [handle_route api request _ updates.route updates.method, Api.respond]
  unfold update? at accepted
  cases taken : Body.ofRequest request with
  | error response =>
    rw [taken] at accepted
    cases accepted
  | ok body =>
    rw [taken] at accepted
    dsimp only at accepted ⊢
    simp only [Api.withStore, configured, Api.updateSettings]
    split at accepted
    next user' update named read =>
      split at accepted
      next admitted =>
        obtain ⟨rfl, rfl⟩ := Prod.mk.inj (Option.some.inj accepted)
        rw [read, named]
        refine (Step.result_bind_ok _ _ _ _ _ (Step.result_ofExcept _ world)).trans ?_
        simp only [Api.admitted, admitted, if_true]
      next => cases accepted
    next => cases accepted

end

/-! ## Settings that are written, and others -/

/-- The write that new settings ask for. -/
def asked (id : Text) (asking : Text × Value) : Write :=
  .settings { id, settings := asking.2, modifiedBy := asking.1 }

-- New settings are written for their workspace
private theorem asked_written (minted : Text) (clock : Value) (id : Text) (asking : Text × Value)
    (written : Written) (comes : (asked id asking).written? minted clock = some written) :
    written.id = id ∧ ∃ settings, written.settings = some settings ∧ settings.given = asking.2 := by
  simp only [asked, Write.written?, Option.bind_eq_bind, Option.bind_eq_some_iff] at comes
  obtain ⟨seconds, -, settings, stored, same⟩ := comes
  obtain rfl := Option.some.inj same
  cases known : StoredSettings.of asking.2 with
  | error fault =>
    rw [known] at stored
    cases stored
  | ok found =>
    rw [known] at stored
    obtain rfl := Option.some.inj stored
    exact ⟨rfl, found, rfl, (StoredSettings.of_ok _ _ known).2⟩

section
variable (tablePrefix : Text) (sendable : tablePrefix.isSendable = true) (rows : List WorkspaceRow)
  (world : World Database) (state : world.database = holding tablePrefix rows)
  (id user : Text) (settings : Value)
include sendable state

-- Settings that are not written change nothing
private theorem settings_unwritten (unstorable : ∀ written,
    (asked id (user, settings)).written? (Token.ofSeed world.seeds.next) world.clock =
      some written → ¬written.Storable) :
    ∃ outcome after, (Api.settings (embedded tablePrefix) id user ⟨settings⟩ :
      Step Database Response).result world = (outcome, after) ∧ Unmet outcome ∧
        after.database = world.database := by
  obtain ⟨fault, failed, same⟩ := step_error tablePrefix sendable rows world state _ unstorable
  rcases result : ((asked id (user, settings)).step (embedded tablePrefix)).result world with
    ⟨outcome, after⟩
  rw [result] at failed same
  obtain rfl : outcome = .error fault := failed
  have tried := Step.result_bind_error _
    (fun _ => pure none : Unit → Step Database (Option Response)) _ _ _ result
  -- Settings that cannot be stored have a reply of their own; any other fault escapes
  cases fault with
  | unserializableSettings cause =>
    refine ⟨_, after, (Step.result_bind_ok _ _ _ after _
      ((Step.result_tryCatch_error _ _ _ _ _ tried).trans rfl)).trans rfl, ?_, same⟩
    exact unmet_ofText _ _ (by decide)
  | _ =>
    exact ⟨_, after, Step.result_bind_error _ _ _ _ _
      ((Step.result_tryCatch_error _ _ _ _ _ tried).trans rfl), unmet_error _, same⟩

-- Settings that are written are shown as they are read back
private theorem settings_written (written : Written)
    (comes : (asked id (user, settings)).written? (Token.ofSeed world.seeds.next) world.clock =
      some written) (storable : written.Storable) (row : WorkspaceRow)
    (found : (written.apply rows).filter (·.id == id) = [row]) :
    ∃ after, (Api.settings (embedded tablePrefix) id user ⟨settings⟩ :
      Step Database Response).result world = (Response.ofValue row.workspace.toValue, after) ∧
        after.database = holding tablePrefix (written.apply rows) := by
  obtain ⟨success, database⟩ :=
    step_ok tablePrefix sendable rows world state _ written comes storable
  rcases result : ((asked id (user, settings)).step (embedded tablePrefix)).result world with
    ⟨outcome, after⟩
  rw [result] at success database
  obtain rfl : outcome = .ok () := success
  refine ⟨after, ?_, database⟩
  have tried := Step.result_bind_ok _ (fun _ => pure none : Unit → Step Database (Option Response))
    _ _ _ result
  have encodable : id.isEncodable = true := by
    rw [← (asked_written _ _ id (user, settings) written comes).1]
    exact storable.id
  refine (Step.result_bind_ok _ _ _ _ _ (Step.result_tryCatch_ok _ _ _ _ _ tried)).trans ?_
  exact result_reply tablePrefix sendable _ after database id encodable row found

end

/-! ## Requests for new settings -/

section
variable (tablePrefix : Text) (api : Api) (id : Text) (request : Request) (world : World Database)

/-- What a request writes, if nothing about it is refused. -/
def written? : Option Written :=
  (update? api (embedded tablePrefix) id request).bind fun asking =>
    (asked id asking).written? (Token.ofSeed world.seeds.next) world.clock

/-- The settings of a request that the database keeps. -/
def Stores (settings : StoredSettings) : Prop :=
  ∃ written, written? tablePrefix api id request world = some written ∧ written.Storable ∧
    written.settings = some settings

/-- Whether a request has settings that the database keeps and no reply can show: half of a
surrogate pair is left alone in them, or they are nested too deep. -/
def Unshowable : Prop :=
  ∃ settings, Stores tablePrefix api id request world settings ∧
    ¬settings.given.canonical.IsShowable

variable (sendable : tablePrefix.isSendable = true) (history : List Written)
  (storable : ∀ written ∈ history, written.Storable)
  (state : world.database = holding tablePrefix (rowsOf history))
  (configured : api.store = some (embedded tablePrefix)) (updates : Updates id request)
include sendable state configured updates

-- A request that writes nothing is not met, and changes nothing
private theorem serve_unwritten (nothing : ∀ settings,
    ¬Stores tablePrefix api id request world settings) :
    ((api.serve request).run world).1.1.status ≠ 200 ∧
      ((api.serve request).run world).2.database = world.database := by
  have handled : ∃ outcome after, (api.handle request).result world = (outcome, after) ∧
      Unmet outcome ∧ after.database = world.database := by
    cases asking : update? api (embedded tablePrefix) id request with
    | none =>
      obtain ⟨outcome, result, unmet⟩ :=
        handle_refused _ world api configured id request updates asking
      exact ⟨outcome, world, result, unmet, rfl⟩
    | some asking' =>
      rw [handle_accepted _ world api configured id request updates _ _ asking]
      apply settings_unwritten tablePrefix sendable (rowsOf history) world state
      intro written comes stored
      obtain ⟨-, settings, isSettings, -⟩ := asked_written _ _ _ _ _ comes
      exact nothing settings ⟨written, by rw [written?, asking]; exact comes, stored, isSettings⟩
  obtain ⟨outcome, after, result, unmet, same⟩ := handled
  rw [serve_run, result]
  cases outcome with
  | ok response => exact ⟨unmet response rfl, same⟩
  | error fault => exact ⟨show 500 ≠ 200 by decide, same⟩

include storable

-- A request that writes settings gets the reply that every reading gets after it
private theorem serve_written (settings : StoredSettings)
    (stores : Stores tablePrefix api id request world settings) : ∃ written row,
    written.Storable ∧ row.Encodable ∧ row.settings = some settings ∧
      row? (history ++ [written]) id = some row ∧
      ((api.serve request).run world).1 = shownRow row ∧
      ((api.serve request).run world).2.database =
        holding tablePrefix (rowsOf (history ++ [written])) ∧
      ∀ reading user, Reads api (embedded tablePrefix) id user reading →
        (api.serve reading).run ((api.serve request).run world).2 =
          (api.serve request).run world := by
  obtain ⟨written, comes, stored, isSettings⟩ := stores
  obtain ⟨asking, asks, comes⟩ := Option.bind_eq_some_iff.mp comes
  -- The row that is shown is the one that is read later: both are the row of the longer history
  have own := (asked_written _ _ _ _ _ comes).1
  obtain ⟨row, found, shown⟩ := row?_settings history written settings isSettings
  rw [own] at found
  have one : (rowsOf (history ++ [written])).filter (·.id == id) = [row] := by
    rw [filter_rowsOf, found, Option.toList_some]
  have all : ∀ other ∈ history ++ [written], other.Storable := by
    intro other member
    rcases List.mem_append.mp member with old | new
    · exact storable other old
    · rwa [List.mem_singleton.mp new]
  have encodable : id.isEncodable = true := own ▸ stored.id
  obtain ⟨after, result, database⟩ := settings_written tablePrefix sendable (rowsOf history) world
    state id asking.1 asking.2 written comes stored row (rowsOf_concat history written ▸ one)
  rw [← rowsOf_concat] at database
  have served : (api.serve request).run world = (shownRow row, after) := by
    rw [serve_run, handle_accepted _ world api configured id request updates _ _ asks, result,
      shownRow]
  rw [served]
  exact ⟨written, row, stored, rowsOf_encodable _ all row (mem_rowsOf _ id row found), shown, found,
    rfl, database, fun reading user reads => serve_reading tablePrefix sendable _ after database api
      configured reading id user reads encodable row one⟩

end

/-- What becomes of a request for new settings, after any run and whatever its id, its user and its
body are. If its settings can be shown, or the database does not keep them, then a request that is
not met changes nothing, and one that is met gets the reply that every reading gets after it. But if
the database keeps them and no reply can show them, the request fails and they are in the table, and
every reading fails after it. -/
theorem serve_settings (tablePrefix : Text) (created : Database)
    (creation : Database.create .empty (Schema.withPrefix tablePrefix).tables = .ok created)
    (start : World FaultyDatabase) (fresh : start.database.database = created)
    (attempts : List Attempt) (world : World Database)
    (state : world.database = (Run.after tablePrefix start attempts).database)
    (api : Api) (configured : api.store = some (embedded tablePrefix)) (id : Text)
    (request : Request) (updates : Updates id request) :
    let served := (api.serve request).run world
    (¬Unshowable tablePrefix api id request world →
      (served.1.1.status = 200 ↔ ∃ settings, Stores tablePrefix api id request world settings) ∧
      (served.1.1.status ≠ 200 → served.2.database = world.database) ∧
      (served.1.1.status = 200 →
        ∀ reading user, Reads api (embedded tablePrefix) id user reading →
          (api.serve reading).run served.2 = served)) ∧
    (Unshowable tablePrefix api id request world →
      served.1.1 = .internalError ∧
      (∃ history row, served.2.database = holding tablePrefix (rowsOf history) ∧
        row? history id = some row ∧
        ∃ settings, row.settings = some settings ∧
          Stores tablePrefix api id request world settings) ∧
      ∀ reading user, Reads api (embedded tablePrefix) id user reading →
        ((api.serve reading).run served.2).1.1 = .internalError) := by
  intro served
  obtain ⟨sendable, rfl⟩ := create_withPrefix tablePrefix created creation
  obtain ⟨history, holds⟩ := Run.after_holds tablePrefix sendable start fresh attempts
  replace state := state.trans holds.database
  constructor
  · -- Settings that were written can be shown, so the request is met if any were
    intro showable
    by_cases stores : ∃ settings, Stores tablePrefix api id request world settings
    · obtain ⟨settings, stores⟩ := stores
      obtain ⟨_, row, _, encodable, isSettings, _, shown, _, readings⟩ :=
        serve_written tablePrefix api id request world sendable history holds.storable state
          configured updates settings stores
      have possible : settings.given.canonical.IsShowable := by
        by_contra impossible
        exact showable ⟨settings, stores, impossible⟩
      have met : served.1.1.status = 200 := by
        rw [show served.1 = shownRow row from shown]
        exact shownRow_status row encodable settings isSettings possible
      exact ⟨⟨fun _ => ⟨settings, stores⟩, fun _ => met⟩, fun unmet => absurd met unmet,
        fun _ => readings⟩
    · obtain ⟨unmet, same⟩ := serve_unwritten tablePrefix api id request world sendable history
        state configured updates fun settings stored => stores ⟨settings, stored⟩
      exact ⟨⟨fun met => absurd met unmet, fun stored => absurd stored stores⟩, fun _ => same,
        fun met => absurd met unmet⟩
  · -- The write is committed before the reply fails, and nothing takes it back
    rintro ⟨settings, stores, unshowable⟩
    obtain ⟨written, row, stored, encodable, isSettings, found, shown, database, readings⟩ :=
      serve_written tablePrefix api id request world sendable history holds.storable state
        configured updates settings stores
    have failed : served.1.1 = .internalError := by
      rw [show served.1 = shownRow row from shown]
      exact shownRow_internalError row encodable settings isSettings unshowable
    refine ⟨failed, ⟨_, row, database, found, settings, isSettings, stores⟩, ?_⟩
    intro reading user reads
    rw [readings reading user reads]
    exact failed

/-- A request of a user for new settings of a workspace. -/
def updating (body : String) : Request :=
  ⟨"POST", "/api/workspaces/a/settings", [],
    [("x-user-id", "u"), ("content-type", "application/json")], body.toUTF8.toList⟩

/-- A request of that user who reads the workspace. -/
def reading : Request := ⟨"GET", "/api/workspaces/a/get", [], [("x-user-id", "u")], []⟩

/-- The interface over a store of tables that have just been made, and these tables. -/
def freshApi : Api := { store := some (embedded []) }

def freshTables : World Database := ⟨⟨[], 0⟩, .int 0, [], holding [] []⟩

/-- An empty object is written and can be read. -/
theorem serve_settings_object :
    let served := (freshApi.serve (updating "\x7b\"settings\":\x7b\x7d\x7d")).run freshTables
    served.1.1.status = 200 ∧ (freshApi.serve reading).run served.2 = served := by
  let request := updating "\x7b\"settings\":\x7b\x7d\x7d"
  have possible : (update? freshApi (embedded []) "a" request).all
      (fun asking => asking.2.canonical.IsShowable) = true := by
    decide +kernel
  have updates : Updates "a" request := ⟨by decide +kernel, rfl⟩
  have reads : Reads freshApi (embedded []) "a" "u" reading :=
    ⟨by decide +kernel, rfl, by with_unfolding_all rfl, rfl⟩
  have showable : ¬Unshowable [] freshApi "a" request freshTables := by
    rintro ⟨settings, ⟨written, comes, -, isSettings⟩, unshowable⟩
    obtain ⟨asking, asks, comes⟩ := Option.bind_eq_some_iff.mp comes
    obtain ⟨-, own, same, given⟩ := asked_written _ _ _ _ _ comes
    obtain rfl := Option.some.inj (isSettings.symm.trans same)
    rw [asks, Option.all_some, ← given, decide_eq_true_iff] at possible
    exact unshowable possible
  obtain ⟨-, -, readings⟩ := (serve_settings [] (holding [] []) rfl (freshWorld []) rfl []
    freshTables rfl freshApi rfl "a" request updates).1 showable
  have met : ((freshApi.serve request).run freshTables).1.1.status = 200 := by decide +kernel
  exact ⟨met, readings met reading "u" reads⟩

/-- A lone surrogate is written although the request for it fails. -/
theorem lone_surrogate_settings_stay :
    let served := (freshApi.serve (updating "\x7b\"settings\":\"\\ud800\"\x7d")).run freshTables
    Database.create .empty (Schema.withPrefix []).tables = .ok freshTables.database ∧
      ¬(served.1.1.status ≠ 200 → served.2.database = freshTables.database) := by
  refine ⟨rfl, fun kept => ?_⟩
  have status : ((freshApi.serve (updating "\x7b\"settings\":\"\\ud800\"\x7d")).run
      freshTables).1.1.status ≠ 200 := by
    decide +kernel
  have written : ((freshApi.serve (updating "\x7b\"settings\":\"\\ud800\"\x7d")).run
      freshTables).2.database.tables.map (·.rows.length) = [1, 0, 0, 0] := by
    decide +kernel
  rw [kept status] at written
  cases written

end Tenancy.Http
