import Tenancy.Proofs.Distinct
import Tenancy.Proofs.Http.Settings

/-!
# What requests ask for

A request asks for a write if it is addressed to a route that writes, with the method of the route,
names its user and, for new settings, brings an object. This is said of the request alone; it is
what is left of a request when nothing about it is refused.
-/
namespace Tenancy.Http

open Store

/-- A request to a route, with the method of the route. -/
structure Calls (route : Route) (request : Request) : Prop where
  path : Route.ofPath? request.path = some route
  method : request.method = Text.ofString route.method

/-- The members of the object that a request brings, if its body is one. -/
def Request.members? (request : Request) : Option (List (Text × Json)) :=
  match Body.ofRequest request with
  | .ok (.document (.object members)) => some members
  | _ => none

/-- The settings among members: an empty document stands for none. -/
def sentSettings (members : List (Text × Json)) : Value :=
  (((Json.object (Json.collapse members)).get? "settings").map Json.toValue).getD (.dict [])

/-- The write that a request asks for: it has to name its user, and new settings have to be brought
in an object. -/
def Request.write? (request : Request) : Option Write :=
  if request.method = "POST" then
    match Route.ofPath? request.path, request.header? "x-user-id", request.members? with
    | some (.settings id), some user, some members =>
      some (.settings { id, settings := sentSettings members, modifiedBy := user })
    | some (.regenerate id), some user, _ => some (.regenerate (.text id) (.text user))
    | _, _, _ => none
  else none

/-- The interface over a store, or over none, where every user may use every workspace. -/
def Api.over (store : Option Store) : Api := { store }

-- The record of the settings takes what the document sends
private theorem settings_ofFields (members : List (Text × Json)) :
    (SettingsUpdate.ofFields ((Json.collapse members).map fun (name, value) =>
      (name, value.toValue))).settings = sentSettings members := by
  have last := find?_reverse (Text.ofString "settings") _ (Json.collapse_spec members).1
  simp only [SettingsUpdate.ofFields, Fields.get?, sentSettings, Json.get?, ← List.map_reverse,
    List.find?_map, ← last]
  -- The name of a member is that of its field
  have names : ((fun field : Text × Value => field.1 == Text.ofString "settings") ∘
      fun member : Text × Json => (member.1, member.2.toValue)) =
        fun member => member.1 == Text.ofString "settings" := rfl
  rw [names]
  cases (Json.collapse members).reverse.find? (·.1 == Text.ofString "settings") <;> rfl

theorem ofRequest_members (request : Request) (members : List (Text × Json))
    (brought : request.members? = some members) :
    Body.ofRequest request = .ok (.document (.object members)) := by
  unfold Request.members? at brought
  split at brought
  next found read => rwa [Option.some.inj brought] at read
  next => cases brought

/-- Where every user is admitted, a request for new settings is refused for its header or its
body. -/
theorem update?_over (store : Store) (id : Text) (request : Request) :
    update? (.over (some store)) store id request =
      (request.header? "x-user-id").bind fun user =>
        request.members?.map fun members => (user, sentSettings members) := by
  rw [update?, Request.members?]
  cases Body.ofRequest request with
  | error response => cases request.header? "x-user-id" <;> rfl
  | ok body =>
    simp only [Request.user]
    cases request.header? "x-user-id" with
    | none => rfl
    | some user =>
      cases body with
      | absent => rfl
      | raw octets =>
        simp only [Body.settingsUpdate]
        cases Utf8.decode octets <;> rfl
      | document content =>
        cases content with
        | object members =>
          simp only [Body.settingsUpdate, settings_ofFields]
          rfl
        | _ => rfl

section
variable (request : Request)

/-- A request that no route answers asks for nothing. -/
theorem write?_uncalled (uncalled : ∀ route, ¬Calls route request) :
    request.write? = none := by
  rw [Request.write?]
  split
  next posts =>
    split
    next id user members path _ _ => exact absurd ⟨path, posts⟩ (uncalled (.settings id))
    next id user path _ => exact absurd ⟨path, posts⟩ (uncalled (.regenerate id))
    next => rfl
  next => rfl

theorem write?_gets (route : Route) (calls : Calls route request)
    (gets : route.method = "GET") : request.write? = none := by
  rw [Request.write?, calls.method, gets]
  exact if_neg (by decide)

theorem write?_regenerate (id : Text) (calls : Calls (.regenerate id) request) :
    request.write? = (request.header? "x-user-id").map fun user =>
      .regenerate (.text id) (.text user) := by
  have posts : request.method = "POST" := calls.method
  rw [Request.write?, if_pos posts, calls.path]
  cases request.header? "x-user-id" <;> rfl

/-- New settings are asked for unless the request is refused. -/
theorem write?_settings (store : Store) (id : Text)
    (calls : Calls (.settings id) request) :
    request.write? = (update? (.over (some store)) store id request).map (asked id) := by
  have posts : request.method = "POST" := calls.method
  rw [Request.write?, if_pos posts, calls.path, update?_over]
  cases request.header? "x-user-id" with
  | none => rfl
  | some user => cases request.members? <;> rfl

end

/-! ## Ids in paths -/

-- What is between the slashes of a path is made of its characters
private theorem mem_splitOn (separator : CodePoint) (t piece : Text)
    (isPiece : piece ∈ Text.splitOn separator t) : ∀ c ∈ piece, c ∈ t := by
  induction t generalizing piece with
  | nil =>
    rw [Text.splitOn, List.mem_singleton] at isPiece
    simp [isPiece]
  | cons first rest ih =>
    rw [Text.splitOn] at isPiece
    split at isPiece
    · rcases List.mem_cons.mp isPiece with rfl | later
      · simp
      · exact fun c isIn => List.mem_cons_of_mem first (ih piece later c isIn)
    · split at isPiece
      next => simp [List.mem_singleton.mp isPiece]
      next head tail pieces =>
        rw [pieces] at ih
        rcases List.mem_cons.mp isPiece with rfl | later
        · intro c isIn
          rcases List.mem_cons.mp isIn with rfl | behind
          · exact List.mem_cons_self
          · exact List.mem_cons_of_mem first (ih head List.mem_cons_self c behind)
        · exact fun c isIn =>
            List.mem_cons_of_mem first (ih piece (List.mem_cons_of_mem head later) c isIn)

private theorem id_mem_pieces (pieces : List Text) (id : Text)
    (found : Route.ofPieces? pieces = some (.workspace id)) : id ∈ pieces := by
  unfold Route.ofPieces? Route.ofAction? at found
  grind

-- The id of a workspace is a part of the path
private theorem mem_id (path id : Text) (found : Route.ofPath? path = some (.workspace id)) :
    ∀ c ∈ id, c ∈ path := by
  intro c isIn
  rw [Route.ofPath?] at found
  split at found
  next route whole =>
    cases found
    exact mem_splitOn _ path id (id_mem_pieces _ id whole) c isIn
  next =>
    split at found
    next =>
      exact List.dropLast_subset path
        (mem_splitOn _ path.dropLast id (id_mem_pieces _ id found) c isIn)
    next => cases found

/-- A path is decoded from octets, so no half of a surrogate pair is left alone in it. -/
def Request.Decoded (request : Request) : Prop := request.path.isEncodable = true

theorem Calls.id_encodable (id : Text) (request : Request) (calls : Calls (.workspace id) request)
    (decoded : request.Decoded) : id.isEncodable = true := by
  rw [Request.Decoded, Text.isEncodable, List.all_eq_true] at decoded
  rw [Text.isEncodable, List.all_eq_true]
  exact fun c isIn => decoded c (mem_id request.path id calls.path c isIn)

end Tenancy.Http
