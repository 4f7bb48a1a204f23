import Tenancy.Proofs.Http.Request

/-!
# The interface and the store

Over the embedded database the interface does to the tables what its requests ask for, and nothing
else: a request that asks for a write comes to that write on the store, and any other request leaves
everything as it is. The invariant that carries this from one request to the next is that the tables
hold the rows of some history of writes, so that every reading behind a write ends and changes
nothing.
-/
namespace Tenancy.Http

open Store

/-! ## One request -/

section
variable {δ : Type} (store : Store) (id user : Text) (request : Request)
  (response : Text → Step δ Response) (world : World δ)

private theorem withUser_named (named : request.header? "x-user-id" = some user) :
    Api.withUser request response = response user := by
  rw [Api.withUser, Request.user, named]

-- A request that names no user is refused, and that changes nothing
private theorem withUser_after : ((Api.withUser request response).result world).2 =
    (request.header? "x-user-id").elim world fun user => ((response user).result world).2 := by
  rw [Api.withUser, Request.user]
  cases request.header? "x-user-id" with
  | none => exact congrArg Prod.snd (Step.result_ofExcept _ world)
  | some user => rfl

variable [Engine δ]

private theorem respond_list : ((Api.over (some store)).respond request .list : Step δ Response) =
    Api.withUser request (Api.list store) :=
  rfl

private theorem respond_workspace : ((Api.over (some store)).respond request (.workspace id) :
    Step δ Response) = Api.withUser request fun _ => Api.workspace store id :=
  rfl

private theorem respond_regenerate : ((Api.over (some store)).respond request (.regenerate id) :
    Step δ Response) = Api.withUser request fun user => Api.regenerate store id user :=
  rfl

-- The reply to a new token is made of what was written
private theorem regenerate_after :
    ((Api.regenerate store id user : Step δ Response).result world).2 =
      (((Write.regenerate (.text id) (.text user)).step store).result world).2 := by
  have replied : ((Api.regenerate store id user : Step δ Response).result world).2 =
      ((store.regenerateSignupToken (.text id) (.text user)).result world).2 :=
    Step.result_bind_snd _ _ world fun _ after => congrArg Prod.snd (Step.result_ofExcept _ after)
  rw [replied]
  exact (Step.result_bind_snd _ _ world fun _ _ => rfl).symm

/-- New settings that cannot be stored have a reply of their own; any other fault escapes. -/
theorem settings_result (asking : Text × Value) :
    (Api.settings store id asking.1 ⟨asking.2⟩ : Step δ Response).result world =
      match ((asked id asking).step store).result world with
      | (.ok (), after) =>
        (do Api.reply (← store.getWorkspace (.text id)).toValue : Step δ Response).result after
      | (.error (.unserializableSettings cause), after) =>
        (.ok (.refusal 422 (Fault.unserializableMessage cause)), after)
      | (.error fault, after) => (.error fault, after) := by
  rw [Api.settings, Step.result_bind, Step.result_tryCatch, Step.result_bind]
  rw [show store.upsertSettings { id, settings := asking.2, modifiedBy := asking.1 } =
    ((asked id asking).step store : Step δ Unit) from rfl]
  rcases ((asked id asking).step store).result world with ⟨outcome, after⟩
  cases outcome with
  | ok => rfl
  | error fault => cases fault <;> rfl

end

section
variable (tablePrefix : Text) (sendable : tablePrefix.isSendable = true) (history : List Written)
  (world : World Database) (state : world.database = holding tablePrefix (rowsOf history))
include sendable state

private theorem getWorkspace_lookup (id : Text) :
    ((embedded tablePrefix).getWorkspace (.text id)).result world = (lookup history id, world) := by
  have rowsOfId := filter_rowsOf history id
  rw [lookup]
  cases refused : id.encodeFault? with
  | some fault =>
    exact getWorkspace_unencodable tablePrefix sendable _ world state id fault refused
  | none =>
    have encodable := (Text.encodeFault?_eq_none_iff id).mp refused
    cases row : row? history id with
    | none =>
      rw [row] at rowsOfId
      exact getWorkspace_notFound tablePrefix sendable _ world state id encodable rowsOfId
    | some found =>
      rw [row] at rowsOfId
      exact getWorkspace_found tablePrefix sendable _ world state id encodable found rowsOfId

-- A write makes the history longer, or it fails and leaves it as it is
private theorem step_history (storable : ∀ written ∈ history, written.Storable) (write : Write) :
    ∃ later, (∀ written ∈ later, written.Storable) ∧
      ((write.step (embedded tablePrefix)).result world).2.database =
        holding tablePrefix (rowsOf later) := by
  by_cases writes : ∃ written, write.written? (Token.ofSeed world.seeds.next) world.clock =
      some written ∧ written.Storable
  · obtain ⟨written, comes, kept⟩ := writes
    refine ⟨history ++ [written], ?_, ?_⟩
    · exact List.forall_mem_append.mpr ⟨storable, List.forall_mem_singleton.mpr kept⟩
    · rw [rowsOf_concat]
      exact (step_ok tablePrefix sendable _ world state write written comes kept).2
  · obtain ⟨-, -, same⟩ := step_error tablePrefix sendable _ world state write
      fun written comes kept => writes ⟨written, comes, kept⟩
    exact ⟨history, storable, same.trans state⟩

-- The reply to new settings is a reading, which leaves what they have written
private theorem settings_after (storable : ∀ written ∈ history, written.Storable)
    (id : Text) (asking : Text × Value) :
    ((Api.settings (embedded tablePrefix) id asking.1 ⟨asking.2⟩ :
      Step Database Response).result world).2 =
        (((asked id asking).step (embedded tablePrefix)).result world).2 := by
  obtain ⟨later, -, kept⟩ :=
    step_history tablePrefix sendable history world state storable (asked id asking)
  rw [settings_result]
  rcases ran : ((asked id asking).step (embedded tablePrefix)).result world with ⟨outcome, after⟩
  rw [ran] at kept
  cases outcome with
  | error fault => cases fault <;> rfl
  | ok =>
    refine (Step.result_bind_snd _ _ _ fun workspace world => ?_).trans
      (congrArg Prod.snd (getWorkspace_lookup tablePrefix sendable later after kept id))
    exact congrArg Prod.snd (Step.result_ofExcept _ world)

omit sendable state in
private theorem list_result (user : Text) :
    (Api.list (embedded tablePrefix) user : Step Database Response).result world =
      (.ok (.refusal 501 (Fault.unsupportedMessage "non_template_filter"
        (Text.ofString Dialect.sqlite.name))), world) :=
  rfl

private theorem count_result :
    (Api.count (embedded tablePrefix) : Step Database Response).result world =
      (.ok (.ofText 200 ("\x7b\"count\":" ++ Text.ofNat (rowsOf history).length ++ "\x7d")),
        world) := by
  have counted := getWorkspaceCount_result tablePrefix sendable (rowsOf history) world state
  have shown : Json.dumpWith none (CountReply.toValue ⟨((rowsOf history).length : Int)⟩) =
      .ok ("\x7b\"count\":" ++ Text.ofNat (rowsOf history).length ++ ([] : Text) ++ "\x7d") := rfl
  rw [Api.count, Step.result_bind_ok _ _ _ _ _ counted, Api.reply, Step.result_ofExcept,
    Response.ofValue, shown, List.append_nil]

-- A workspace that is unknown has a reply of its own; any other fault escapes
private theorem workspace_lookup (id : Text) :
    (Api.workspace (embedded tablePrefix) id : Step Database Response).result world =
      (match lookup history id with
        | .ok workspace => Response.ofValue workspace.toValue
        | .error (.workspaceNotFound _) =>
          .ok (.refusal 404 ("Workspace '" ++ id ++ "' not found."))
        | .error fault => .error fault, world) := by
  rw [Api.workspace, Step.result_bind, Step.result_tryCatch, map_eq_pure_bind, Step.result_bind,
    getWorkspace_lookup tablePrefix sendable history world state id]
  cases lookup history id with
  | ok workspace => exact Step.result_ofExcept _ world
  | error fault => cases fault <;> rfl

/-- Serving a request comes to the write that it asks for, or to nothing. -/
theorem handle_after (storable : ∀ written ∈ history, written.Storable) (request : Request) :
    (((Api.over (some (embedded tablePrefix))).handle request).result world).2 =
      match request.write? with
      | some write => ((write.step (embedded tablePrefix)).result world).2
      | none => world := by
  by_cases called : ∃ route, Calls route request
  · obtain ⟨route, calls⟩ := called
    rw [handle_route _ request route calls.path calls.method]
    cases route with
    | health =>
      rw [write?_gets request _ calls rfl]
      rfl
    | count =>
      rw [write?_gets request _ calls rfl]
      exact congrArg Prod.snd (count_result tablePrefix sendable history world state)
    | list =>
      rw [write?_gets request _ calls rfl, respond_list, withUser_after]
      cases request.header? "x-user-id" <;> rfl
    | workspace id =>
      rw [write?_gets request _ calls rfl, respond_workspace, withUser_after,
        workspace_lookup tablePrefix sendable history world state id]
      cases request.header? "x-user-id" <;> rfl
    | settings id =>
      have updates : Updates id request := ⟨calls.path, calls.method⟩
      rw [write?_settings request (embedded tablePrefix) id calls,
        ← handle_route _ request _ calls.path calls.method]
      cases asking : update? (.over (some (embedded tablePrefix))) (embedded tablePrefix) id
          request with
      | none =>
        obtain ⟨outcome, refused, -⟩ := handle_refused _ world _ rfl id request updates asking
        exact congrArg Prod.snd refused
      | some asking' =>
        rw [handle_accepted _ world _ rfl id request updates _ _ asking]
        exact settings_after tablePrefix sendable history world state storable id asking'
    | regenerate id =>
      rw [write?_regenerate request id calls, respond_regenerate, withUser_after]
      cases request.header? "x-user-id" with
      | none => rfl
      | some user => exact regenerate_after (embedded tablePrefix) id user world
  · rw [write?_uncalled request fun route calls => called ⟨route, calls⟩, Api.handle]
    split
    next => rfl
    next route path =>
      split
      next method => exact absurd ⟨route, path, method⟩ called
      next => rfl

end

/-! ## Requests in a row -/

/-- A request, and what the clock shows when it comes. -/
structure Arrival where
  request : Request
  clock : Value

/-- Writes in a row, straight on a store, each at its time and whether it succeeds or fails. -/
def directly {δ : Type} [Engine δ] (store : Store) (start : World δ)
    (writes : List (Write × Value)) : World δ :=
  writes.foldl
    (fun world write => ((write.1.step store).result { world with clock := write.2 }).2) start

namespace Arrival

/-- The write that a request asks for, and its time. -/
def write? (arrival : Arrival) : Option (Write × Value) :=
  arrival.request.write?.map (·, arrival.clock)

section
variable {δ : Type} (api : Api) (arrival : Arrival)

def before (world : World δ) : World δ := { world with clock := arrival.clock }

variable [Engine δ]

/-- The reply to a request with the fault that escapes, and what the request leaves. -/
def serve (world : World δ) : (Response × Option Fault) × World δ :=
  (api.serve arrival.request).run (arrival.before world)

theorem serve_eq (world : World δ) : arrival.serve api world =
    (answer ((api.handle arrival.request).result (arrival.before world)).1,
      ((api.handle arrival.request).result (arrival.before world)).2) :=
  serve_run api arrival.request (arrival.before world)

/-- What requests in a row leave. -/
def worldAfter (start : World δ) (arrivals : List Arrival) : World δ :=
  arrivals.foldl (fun world arrival => (arrival.serve api world).2) start

end

/-- The invariant: the requests have left what their writes leave on the store, and the tables hold
the rows of a history. -/
structure Refines (tablePrefix : Text) (served direct : World Database)
    (history : List Written) : Prop where
  database : served.database = direct.database
  seeds : served.seeds = direct.seeds
  log : served.log = direct.log
  storable : ∀ written ∈ history, written.Storable
  rows : served.database = holding tablePrefix (rowsOf history)

section
variable (tablePrefix : Text) (sendable : tablePrefix.isSendable = true)
include sendable

/-- A request keeps the invariant. -/
theorem serve_refines (served direct : World Database) (history : List Written)
    (refines : Refines tablePrefix served direct history) (arrival : Arrival) : ∃ later,
    Refines tablePrefix (arrival.serve (.over (some (embedded tablePrefix))) served).2
      (directly (embedded tablePrefix) direct arrival.write?.toList) later := by
  rw [serve_eq, handle_after tablePrefix sendable history (arrival.before served) refines.rows
    refines.storable arrival.request, write?]
  cases arrival.request.write? with
  | none =>
    exact ⟨history, refines.database, refines.seeds, refines.log, refines.storable, refines.rows⟩
  | some write =>
    -- The write finds the same world either way, so it leaves the same one
    have same : { direct with clock := arrival.clock } = arrival.before served := by
      rw [before, refines.database, refines.seeds, refines.log]
    obtain ⟨later, storable, rows⟩ := step_history tablePrefix sendable history
      (arrival.before served) refines.rows refines.storable write
    have direct : directly (embedded tablePrefix) direct (some (write, arrival.clock)).toList =
        ((write.step (embedded tablePrefix)).result (arrival.before served)).2 := by
      rw [← same]
      rfl
    rw [Option.map_some, direct]
    exact ⟨later, rfl, rfl, rfl, storable, rows⟩

/-- Requests keep the invariant. -/
theorem worldAfter_refines (start : World Database) (history : List Written)
    (storable : ∀ written ∈ history, written.Storable)
    (state : start.database = holding tablePrefix (rowsOf history)) (arrivals : List Arrival) :
    ∃ later, Refines tablePrefix
      (worldAfter (.over (some (embedded tablePrefix))) start arrivals)
      (directly (embedded tablePrefix) start (arrivals.filterMap write?)) later := by
  induction arrivals using List.reverseRecOn with
  | nil => exact ⟨history, rfl, rfl, rfl, storable, state⟩
  | append_singleton arrivals arrival ih =>
    obtain ⟨earlier, refines⟩ := ih
    rw [worldAfter, List.foldl_append, List.filterMap_append, directly, List.foldl_append]
    have last : [arrival].filterMap write? = arrival.write?.toList := by
      cases kept : arrival.write? <;> simp [kept]
    rw [last]
    exact serve_refines tablePrefix sendable _ _ earlier refines arrival

end

end Arrival

/-! ## Replies -/

-- What can be shown is no refusal, and what cannot be shown is none either
private theorem ofValue_status (value : Value) :
    (answer (Response.ofValue value)).1.status ≠ 404 := by
  rw [Response.ofValue]
  cases Json.dumpWith none value with
  | ok body => exact show 200 ≠ 404 by decide
  | error fault => exact show 500 ≠ 404 by decide

namespace Arrival

/-- What requests get where the table has these rows. -/
structure Answered (api : Api) (rows : List WorkspaceRow) (world : World Database) : Prop where
  other : ∀ arrival : Arrival, arrival.write? = none →
    (arrival.serve api world).2 = arrival.before world
  workspace : ∀ (arrival : Arrival) id user, Calls (.workspace id) arrival.request →
    arrival.request.header? "x-user-id" = some user → arrival.request.Decoded →
      ((arrival.serve api world).1.1.status = 404 ↔ ∀ row ∈ rows, row.id ≠ id)
  list : ∀ (arrival : Arrival) user, Calls .list arrival.request →
    arrival.request.header? "x-user-id" = some user →
      (arrival.serve api world).1.1.status = 501
  count : ∀ arrival : Arrival, Calls .count arrival.request →
    (arrival.serve api world).1 =
      (.ofText 200 ("\x7b\"count\":" ++ Text.ofNat rows.length ++ "\x7d"), none)
  refused : ∀ (arrival : Arrival) id members fault seconds,
    Calls (.settings id) arrival.request →
    arrival.request.members? = some members →
    encodeSettings (sentSettings members) = .error fault → arrival.clock.toInt = .ok seconds →
      (arrival.serve api world).1.1.status = 422 ∧
        (arrival.serve api world).2 = arrival.before world

section
variable (tablePrefix : Text) (sendable : tablePrefix.isSendable = true) (history : List Written)
  (world : World Database) (state : world.database = holding tablePrefix (rowsOf history))
  (arrival : Arrival)

private theorem list_refused (user : Text) (calls : Calls .list arrival.request)
    (named : arrival.request.header? "x-user-id" = some user) :
    (arrival.serve (.over (some (embedded tablePrefix))) world).1.1.status = 501 := by
  rw [serve_eq, handle_route _ _ _ calls.path calls.method, respond_list,
    withUser_named user _ _ named, list_result]
  rfl

include sendable state

private theorem workspace_unknown (id user : Text) (calls : Calls (.workspace id) arrival.request)
    (named : arrival.request.header? "x-user-id" = some user)
    (decoded : arrival.request.Decoded) :
    (arrival.serve (.over (some (embedded tablePrefix))) world).1.1.status = 404 ↔
      ∀ row ∈ rowsOf history, row.id ≠ id := by
  have encodable := (Text.encodeFault?_eq_none_iff id).mpr (calls.id_encodable _ _ decoded)
  have rowsOfId := filter_rowsOf history id
  rw [serve_eq, handle_route _ _ _ calls.path calls.method, respond_workspace,
    withUser_named user _ _ named,
    workspace_lookup tablePrefix sendable history (arrival.before world) state id, lookup,
    encodable]
  cases found : row? history id with
  | none =>
    rw [found, Option.toList_none, List.filter_eq_nil_iff] at rowsOfId
    refine ⟨fun _ row member same => ?_, fun _ => rfl⟩
    exact rowsOfId row member (beq_iff_eq.mpr same)
  | some row =>
    refine ⟨fun status => absurd status (ofValue_status _), fun others => ?_⟩
    exact absurd (row?_id history id row found) (others row (mem_rowsOf history id row found))

private theorem count_shown (calls : Calls .count arrival.request) :
    (arrival.serve (.over (some (embedded tablePrefix))) world).1 =
      (.ofText 200 ("\x7b\"count\":" ++ Text.ofNat (rowsOf history).length ++ "\x7d"), none) := by
  have handled : (Api.over (some (embedded tablePrefix))).handle arrival.request =
      (Api.count (embedded tablePrefix) : Step Database Response) :=
    handle_route _ _ _ calls.path calls.method
  rw [serve_eq, handled, count_result tablePrefix sendable history (arrival.before world) state]
  rfl

omit sendable state in
-- The settings are encoded after the clock is read and before a token is minted
private theorem settings_unencoded (workspace : Workspace) (cause : Unserializable) (seconds : Int)
    (unstorable : encodeSettings workspace.settings = .error (.unserializableSettings cause))
    (shown : world.clock.toInt = .ok seconds) :
    ((embedded tablePrefix).upsertSettings workspace).result world =
      (.error (.unserializableSettings cause), world) := by
  rw [upsertSettings_result, shown]
  cases stored : StoredSettings.of workspace.settings with
  | error other =>
    rw [StoredSettings.of_error _ _ stored] at unstorable
    rw [Except.error.inj unstorable]
  | ok settings => cases (StoredSettings.of_ok _ _ stored).1.symm.trans unstorable

omit sendable state in
private theorem settings_refused (id : Text) (members : List (Text × Json)) (fault : Fault)
    (seconds : Int) (calls : Calls (.settings id) arrival.request)
    (brought : arrival.request.members? = some members)
    (unstorable : encodeSettings (sentSettings members) = .error fault)
    (shown : arrival.clock.toInt = .ok seconds) :
    (arrival.serve (.over (some (embedded tablePrefix))) world).1.1.status = 422 ∧
      (arrival.serve (.over (some (embedded tablePrefix))) world).2 = arrival.before world := by
  rw [serve_eq]
  cases header : arrival.request.header? "x-user-id" with
  | none =>
    -- Whoever does not name a user is refused before the settings are looked at
    have handled : ((Api.over (some (embedded tablePrefix))).handle arrival.request).result
        (arrival.before world) =
          (unfit [⟨["header", "x-user-id"], .missing, .null⟩], arrival.before world) := by
      rw [handle_route _ _ _ calls.path calls.method, Api.respond,
        ofRequest_members _ members brought]
      simp only [Api.over, Api.withStore, Api.updateSettings, Request.user, header,
        Body.settingsUpdate]
      exact (Step.result_bind_ok _ _ _ _ _ (Step.result_ofExcept _ _)).trans
        (Step.result_ofExcept _ _)
    have status : (answer (unfit [⟨["header", "x-user-id"], .missing, .null⟩])).1.status = 422 := by
      decide +kernel
    rw [handled]
    exact ⟨status, rfl⟩
  | some user =>
    have accepted : update? (.over (some (embedded tablePrefix))) (embedded tablePrefix) id
        arrival.request = some (user, sentSettings members) := by
      rw [update?_over, header, brought]
      rfl
    obtain ⟨cause, rfl⟩ : ∃ cause, fault = .unserializableSettings cause := by
      rw [encodeSettings] at unstorable
      split at unstorable
      next => cases unstorable
      next cause _ => exact ⟨cause, (Except.error.inj unstorable).symm⟩
    have failed := settings_unencoded tablePrefix (arrival.before world)
      { id, settings := sentSettings members, modifiedBy := user } cause seconds unstorable shown
    rw [handle_accepted _ _ _ rfl id arrival.request ⟨calls.path, calls.method⟩ _ _ accepted,
      settings_result _ _ _ (user, sentSettings members), asked, Write.step, failed]
    exact ⟨rfl, rfl⟩

theorem answered (storable : ∀ written ∈ history, written.Storable) :
    Answered (.over (some (embedded tablePrefix))) (rowsOf history) world where
  other arrival nothing := by
    have asks : arrival.request.write? = none := Option.map_eq_none_iff.mp nothing
    have after := handle_after tablePrefix sendable history (arrival.before world) state storable
      arrival.request
    rw [asks] at after
    rw [serve_eq]
    exact after
  workspace arrival := workspace_unknown tablePrefix sendable history world state arrival
  list arrival := list_refused tablePrefix world arrival
  count arrival := count_shown tablePrefix sendable history world state arrival
  refused arrival := settings_refused tablePrefix world arrival

end

end Arrival

/-! ## Without a store -/

section
variable {δ : Type} [Engine δ] (api : Api) (unconfigured : api.store = none)
include unconfigured

-- A request can only meet a body that cannot be read, or that there is no store
private theorem handle_unconfigured (request : Request) (world : World δ) :
    ((api.handle request).result world).2 = world := by
  rw [Api.handle]
  split
  next => rfl
  next route _ =>
    split
    next =>
      cases route with
      | health => rfl
      | settings id =>
        rw [Api.respond]
        split
        next => rfl
        next =>
          rw [Api.withStore, unconfigured]
          rfl
      | _ =>
        rw [Api.respond, Api.withStore, unconfigured]
        rfl
    next => rfl

private theorem worldAfter_unconfigured (start : World δ) (arrivals : List Arrival) :
    (Arrival.worldAfter api start arrivals).database = start.database := by
  induction arrivals generalizing start with
  | nil => rfl
  | cons arrival rest ih =>
    have kept : (arrival.serve api start).2 = arrival.before start := by
      rw [Arrival.serve_eq]
      exact handle_unconfigured api unconfigured arrival.request (arrival.before start)
    exact (ih _).trans (congrArg World.database kept : _ = (arrival.before start).database)

private theorem serve_unconfigured (route : Route) (request : Request) (calls : Calls route request)
    (notHealth : route ≠ .health)
    (readable : ∀ id, route = .settings id → ∃ body, Body.ofRequest request = .ok body)
    (world : World δ) :
    (api.serve request).run world = ((Api.unconfigured, none), world) := by
  have handled : (api.handle request).result world = (.ok Api.unconfigured, world) := by
    rw [handle_route api request route calls.path calls.method]
    cases route with
    | health => exact absurd rfl notHealth
    | settings id =>
      obtain ⟨body, read⟩ := readable id rfl
      rw [Api.respond, read]
      dsimp only
      rw [Api.withStore, unconfigured]
      rfl
    | _ =>
      rw [Api.respond, Api.withStore, unconfigured]
      rfl
  rw [serve_run, handled, answer]

end

/-! ## All requests -/

/-- The interface over the embedded database does to the tables what its requests ask for. After any
writes on the store that may fail, and any requests behind them, everything is as if the writes that
the requests ask for had been made straight on the store, in their order and at their times. Where
the table has given rows, a request that asks for no write changes nothing; a workspace is not found
exactly if it has no row; a listing is never supported; the rows are counted whoever asks; and new
settings that cannot be stored are refused and change nothing. An interface without a store changes
no database of any kind and says so to every request that it can read. -/
theorem requests_refine_store (tablePrefix : Text) (created : Database)
    (creation : Database.create .empty (Schema.withPrefix tablePrefix).tables = .ok created)
    (empty : World FaultyDatabase) (fresh : empty.database.database = created)
    (attempts : List Attempt) (start : World Database)
    (state : start.database = (Run.after tablePrefix empty attempts).database)
    (arrivals : List Arrival) :
    let api := Api.over (some (embedded tablePrefix))
    let served := Arrival.worldAfter api start arrivals
    let direct := directly (embedded tablePrefix) start (arrivals.filterMap Arrival.write?)
    (served.database = direct.database ∧ served.seeds = direct.seeds ∧ served.log = direct.log) ∧
    (∃ rows, served.database = holding tablePrefix rows ∧ Arrival.Answered api rows served) ∧
    ∀ (δ : Type) [Engine δ] (api : Api) (world : World δ), api.store = none →
      (Arrival.worldAfter api world arrivals).database = world.database ∧
      ∀ (arrival : Arrival) route, Calls route arrival.request → route ≠ .health →
        (∀ id, route = .settings id → ∃ body, Body.ofRequest arrival.request = .ok body) →
          (arrival.serve api world).1.1.status = 503 := by
  intro api served direct
  obtain ⟨sendable, rfl⟩ := create_withPrefix tablePrefix created creation
  obtain ⟨history, holds⟩ := Run.after_holds tablePrefix sendable empty fresh attempts
  obtain ⟨later, refines⟩ := Arrival.worldAfter_refines tablePrefix sendable start history
    holds.storable (state.trans holds.database) arrivals
  refine ⟨⟨refines.database, refines.seeds, refines.log⟩, ⟨rowsOf later, refines.rows, ?_⟩, ?_⟩
  · exact Arrival.answered tablePrefix sendable later served refines.rows refines.storable
  · intro δ _ api world unconfigured
    refine ⟨worldAfter_unconfigured api unconfigured world arrivals, ?_⟩
    intro arrival route calls notHealth readable
    rw [Arrival.serve, serve_unconfigured api unconfigured route arrival.request calls notHealth
      readable]
    rfl

/-- New settings, the same without a user, a new token, and a reading. -/
def fourArrivals : List Arrival :=
  [⟨updating "\x7b\"settings\":\x7b\x7d\x7d", .int 5⟩,
    ⟨{ updating "\x7b\x7d" with headers := [("content-type", "application/json")] }, .int 6⟩,
    ⟨⟨"POST", "/api/workspaces/b/regenerate_signup_token", [], [("X-User-ID", "v")], []⟩, .int 7⟩,
    ⟨reading, .int 8⟩]

/-- A request with settings that cannot be stored. -/
def notANumber : Arrival := ⟨updating "\x7b\"settings\":NaN\x7d", .int 9⟩

/-- What the four requests leave. -/
def afterFour : World Database :=
  Arrival.worldAfter (.over (some (embedded []))) freshTables fourArrivals

/-- Two of four requests ask for writes. The workspace of the first is found afterwards, and
settings that cannot be stored then change nothing. -/
theorem requests_refine_store_four :
    let written := fourArrivals.filterMap Arrival.write?
    written.length = 2 ∧
      afterFour.database = (directly (embedded []) freshTables written).database ∧
      (∃ rows, afterFour.database = holding [] rows ∧ rows.length = 2 ∧
        ¬∀ row ∈ rows, row.id ≠ "a") ∧
      (notANumber.serve (.over (some (embedded []))) afterFour).1.1.status = 422 ∧
      (notANumber.serve (.over (some (embedded []))) afterFour).2 =
        notANumber.before afterFour := by
  intro written
  obtain ⟨⟨same, -, -⟩, ⟨rows, state, answered⟩, -⟩ :=
    requests_refine_store [] (holding [] []) rfl (freshWorld []) rfl [] freshTables rfl fourArrivals
  rw [← afterFour] at same state answered
  have two : (afterFour.database.tables.map (·.rows.length)).head? = some 2 := by
    decide +kernel
  have status : ((Arrival.mk reading (.int 9)).serve (.over (some (embedded [])))
      afterFour).1.1.status ≠ 404 := by
    decide +kernel
  have found := answered.workspace ⟨reading, .int 9⟩ "a" "u" ⟨by decide +kernel, rfl⟩
    (by decide +kernel) rfl
  have check : notANumber.request.members?.any
      (fun members => !(encodeSettings (sentSettings members)).isOk) = true := by
    decide +kernel
  obtain ⟨members, brought, check⟩ := (Option.any_eq_true _ _).mp check
  obtain ⟨fault, unstorable⟩ : ∃ fault, encodeSettings (sentSettings members) = .error fault := by
    cases encoded : encodeSettings (sentSettings members) with
    | error fault => exact ⟨fault, rfl⟩
    | ok encoding =>
      rw [encoded] at check
      cases check
  rw [state] at two
  refine ⟨by decide +kernel, same, ⟨rows, state, ?_, fun others => status (found.mpr others)⟩,
    answered.refused notANumber "a" members fault 9 ⟨by decide +kernel, rfl⟩ brought unstorable rfl⟩
  exact (List.length_map WorkspaceRow.cells).symm.trans (Option.some.inj two)

end Tenancy.Http
