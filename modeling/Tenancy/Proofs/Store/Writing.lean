import Tenancy.Proofs.Store.Reading

/-!
# Operations that write

The three operations that write look at all that they are given before they ask the database for
anything. What is left to the database is one statement, and the embedded database runs it if it can
keep what is written.
-/
namespace Tenancy.Store

open Sql

/-- Settings with their text, if they have one. -/
def StoredSettings.of (settings : Value) : Except Fault StoredSettings :=
  match encoded : encodeSettings settings with
  | .ok encoding => .ok ⟨settings, encoding, encoded⟩
  | .error fault => .error fault

theorem StoredSettings.of_ok (settings : Value) (stored : StoredSettings)
    (has : of settings = .ok stored) :
    encodeSettings settings = .ok stored.encoding ∧ stored.given = settings := by
  unfold of at has
  split at has
  next encoding encoded =>
    obtain rfl := Except.ok.inj has
    exact ⟨encoded, rfl⟩
  next => cases has

theorem StoredSettings.of_encoded (settings : Value) (encoding : Text)
    (encoded : encodeSettings settings = .ok encoding) :
    of settings = .ok ⟨settings, encoding, encoded⟩ := by
  unfold of
  split
  next other eq =>
    obtain rfl := Except.ok.inj (eq.symm.trans encoded)
    rfl
  next fault eq => cases eq.symm.trans encoded

theorem StoredSettings.of_error (settings : Value) (fault : Fault)
    (hasNot : of settings = .error fault) : encodeSettings settings = .error fault := by
  unfold of at hasNot
  split at hasNot
  next => cases hasNot
  next other failed => rwa [Except.error.inj hasNot] at failed

/-- An operation that writes. -/
inductive Write where
  | token (workspace : Workspace)
  | settings (workspace : Workspace)
  | regenerate (id modifiedBy : Value)

namespace Write

variable {δ : Type}

/-- The operation as a step of a store. -/
def step [Engine δ] (store : Store) : Write → Step δ Unit
  | .token workspace => store.upsertSignupToken workspace
  | .settings workspace => store.upsertSettings workspace
  | .regenerate id modifiedBy => do
    let _ ← store.regenerateSignupToken id modifiedBy

/-- What the operation writes if nothing fails: with a token that it mints, and at a time of the
clock. -/
def written? (minted : Text) (clock : Value) : Write → Option Written
  | .token workspace => do
    let seconds ← clock.toInt.toOption
    some ⟨workspace.id, workspace.signupToken, none, workspace.modifiedBy, seconds⟩
  | .settings workspace => do
    let seconds ← clock.toInt.toOption
    let settings ← (StoredSettings.of workspace.settings).toOption
    some ⟨workspace.id, minted, some settings, workspace.modifiedBy, seconds⟩
  | .regenerate id modifiedBy => do
    let id ← id.asText.toOption
    let modifiedBy ← modifiedBy.asText.toOption
    let seconds ← clock.toInt.toOption
    some ⟨id, minted, none, modifiedBy, seconds⟩

end Write

/-! ## Up to the database -/

section
variable {δ : Type} [Engine δ] (tablePrefix : Text) (world : World δ)

/-- The statement of a write, as a step. -/
def Written.step (written : Written) : Step δ Unit :=
  (embedded tablePrefix).writeWith (.upsert (written.upsert tablePrefix))

/-- Writing a token needs the time. -/
theorem upsertSignupToken_result (workspace : Workspace) :
    ((embedded tablePrefix).upsertSignupToken workspace).result world =
      match world.clock.toInt with
      | .error cause => (.error (.conversion cause), world)
      | .ok seconds =>
        (Written.step tablePrefix ⟨workspace.id, workspace.signupToken, none,
          workspace.modifiedBy, seconds⟩).result world := by
  rw [upsertSignupToken, Step.result_bind, Step.result_readClock]
  cases world.clock.toInt with
  | error cause => rfl
  | ok seconds =>
    have statement := tokenUpsert_eq .sqlite tablePrefix workspace seconds
    exact Step.result_bind_ok _ _ _ _ _
      ((congrArg (fun s => (Step.ofExcept s).result world) statement).trans
        (Step.result_ofExcept _ world))

/-- Writing settings needs the time and their text; then a token is minted. -/
theorem upsertSettings_result (workspace : Workspace) :
    ((embedded tablePrefix).upsertSettings workspace).result world =
      match world.clock.toInt, StoredSettings.of workspace.settings with
      | .error cause, _ => (.error (.conversion cause), world)
      | .ok _, .error fault => (.error fault, world)
      | .ok seconds, .ok settings =>
        (Written.step tablePrefix ⟨workspace.id, Token.ofSeed world.seeds.next, some settings,
          workspace.modifiedBy, seconds⟩).result { world with seeds := world.seeds.advance } := by
  rw [upsertSettings, Step.result_bind, Step.result_readClock]
  cases world.clock.toInt with
  | error cause => rfl
  | ok seconds =>
    cases stored : StoredSettings.of workspace.settings with
    | error fault =>
      have failed : (Step.ofExcept (encodeSettings workspace.settings) : Step δ Text).result world =
          (.error fault, world) := by
        rw [Step.result_ofExcept, StoredSettings.of_error _ _ stored]
      exact Step.result_bind_error _ _ _ _ _ failed
    | ok settings =>
      have encoded : (Step.ofExcept (encodeSettings workspace.settings) :
          Step δ Text).result world = (.ok settings.encoding, world) := by
        rw [Step.result_ofExcept, (StoredSettings.of_ok _ _ stored).1]
      have statement := settingsUpsert_eq .sqlite tablePrefix workspace
        (Token.ofSeed world.seeds.next) settings seconds
      -- The text comes first: settings without one cost no token
      refine (Step.result_bind_ok _ _ _ _ _ encoded).trans ?_
      refine (Step.result_bind_ok _ _ _ _ _ (Step.result_mintToken world)).trans ?_
      exact Step.result_bind_ok _ _ _ _ _
        ((congrArg (fun s => (Step.ofExcept s).result _) statement).trans
          (Step.result_ofExcept _ _))

-- A statement is a matter of the database alone
private theorem writeWith_database (store : Store) (statement : Statement) (state : δ) :
    ∃ outcome database, ∀ other : World δ, other.database = state →
      (store.writeWith statement).result other = (outcome, { other with database }) := by
  rcases connected : Engine.connect .transaction state with ⟨connection, opened⟩
  cases connection with
  | error fault =>
    refine ⟨.error fault, opened, fun other same => ?_⟩
    rw [writeWith, Step.result_bind, Step.result_connect, same, connected]
  | ok =>
    rcases executed : Engine.execute store.dialect statement opened with ⟨outcome, after⟩
    refine ⟨outcome.map fun _ => (), after, fun other same => ?_⟩
    rw [writeWith, Step.result_bind, Step.result_connect, same, connected]
    dsimp only
    rw [Step.result_bind, Step.result_execute]
    dsimp only
    rw [executed]
    cases outcome <;> rfl

/-- What is in the log does not matter for settings, and nothing is added to it. -/
theorem upsertSettings_log (workspace : Workspace) (log : List LogRecord) :
    ((embedded tablePrefix).upsertSettings workspace).result { world with log } =
      ((((embedded tablePrefix).upsertSettings workspace).result world).1,
        { (((embedded tablePrefix).upsertSettings workspace).result world).2 with log }) := by
  rw [upsertSettings_result, upsertSettings_result]
  dsimp only
  cases world.clock.toInt with
  | error cause => rfl
  | ok seconds =>
    cases StoredSettings.of workspace.settings with
    | error fault => rfl
    | ok settings =>
      obtain ⟨outcome, database, run⟩ := writeWith_database (embedded tablePrefix)
        (.upsert (Written.upsert tablePrefix ⟨workspace.id, Token.ofSeed world.seeds.next,
          some settings, workspace.modifiedBy, seconds⟩)) world.database
      simp only [Written.step, run]

-- The workspace of a new token, if its id and its author are texts
private theorem ofFields_renewed (id modifiedBy : Value) (token : Text) :
    match id.asText, modifiedBy.asText with
    | .ok idText, .ok author =>
      Workspace.ofFields [("id", id), ("signup_token", .text token), ("modified_by", modifiedBy)] =
        .ok { id := idText, signupToken := token, modifiedBy := author }
    | _, _ => ∃ problems,
      Workspace.ofFields [("id", id), ("signup_token", .text token), ("modified_by", modifiedBy)] =
        .error problems := by
  let fields : Fields := [("id", id), ("signup_token", .text token), ("modified_by", modifiedBy)]
  have idField : fields.get? "id" = some id := rfl
  have tokenField : fields.get? "signup_token" = some (.text token) := rfl
  have authorField : fields.get? "modified_by" = some modifiedBy := rfl
  have timeField : fields.get? "update_at" = none := rfl
  have settingsField : fields.get? "settings" = none := rfl
  have given : Value.asText (.text token) = .ok token := rfl
  have whole : Workspace.ofFields [("id", id), ("signup_token", .text token),
      ("modified_by", modifiedBy)] = Workspace.ofFields fields := rfl
  rw [whole]
  simp only [Workspace.ofFields, Fields.optional, Fields.require, idField, tokenField, authorField,
    timeField, settingsField, given]
  cases id.asText <;> cases modifiedBy.asText <;> first | rfl | exact ⟨_, rfl⟩

/-- Renewing a token needs texts; then a token is minted and written. -/
theorem regenerateSignupToken_result (id modifiedBy : Value) :
    let minted := { world with seeds := world.seeds.advance }
    match id.asText, modifiedBy.asText with
    | .ok idText, .ok author => ∃ record : LogRecord,
      ((embedded tablePrefix).regenerateSignupToken id modifiedBy).result world =
        match ((embedded tablePrefix).upsertSignupToken
          { id := idText, signupToken := Token.ofSeed world.seeds.next,
            modifiedBy := author }).result minted with
        | (.ok (), after) =>
          (.ok (Token.ofSeed world.seeds.next), { after with log := record :: after.log })
        | (.error fault, after) => (.error fault, after)
    | _, _ => ∃ fault, ((embedded tablePrefix).regenerateSignupToken id modifiedBy).result world =
      (.error fault, minted) := by
  intro minted
  have renewed := ofFields_renewed id modifiedBy (Token.ofSeed world.seeds.next)
  have start : ∀ rest : Text → Step δ Text, (Step.mintToken >>= rest).result world =
      (rest (Token.ofSeed world.seeds.next)).result minted :=
    fun rest => Step.result_bind_ok _ rest _ _ _ (Step.result_mintToken world)
  -- Here a token is minted even where the texts are then refused
  rw [regenerateSignupToken, start]
  split at renewed
  next idText author isId isAuthor =>
    refine ⟨⟨.info, "Signup token regenerated by " ++ modifiedBy.toText,
      (embedded tablePrefix).context ++ [("workspace_id", id)], none⟩, ?_⟩
    have built : (buildWorkspace [("id", id),
        ("signup_token", .text (Token.ofSeed world.seeds.next)),
        ("modified_by", modifiedBy)] : Step δ Workspace).result minted =
          (.ok { id := idText, signupToken := Token.ofSeed world.seeds.next, modifiedBy := author },
            minted) := by
      rw [buildWorkspace, renewed, Step.result_ofExcept]
    rw [Step.result_bind_ok _ _ _ _ _ built, Step.result_bind]
    rcases ((embedded tablePrefix).upsertSignupToken (Workspace.mk idText
      (Token.ofSeed world.seeds.next) (.dict []) author 0)).result minted with ⟨outcome, after⟩
    cases outcome <;> rfl
  next =>
    obtain ⟨problems, renewed⟩ := renewed
    have unbuilt : (buildWorkspace [("id", id),
        ("signup_token", .text (Token.ofSeed world.seeds.next)),
        ("modified_by", modifiedBy)] : Step δ Workspace).result minted =
          (.error (.invalidRecord problems), minted) := by
      rw [buildWorkspace, renewed, Step.result_ofExcept]
    exact ⟨_, Step.result_bind_error _ _ _ _ _ unbuilt⟩

/-- What an operation comes to: where it fails on its own, it leaves the database as it is, and
else it does what the statement of its write does to the database. -/
def ComesTo (written? : Option Written) (result : Except Fault Unit × World δ) : Prop :=
  match written? with
  | none => ∃ fault, result.1 = .error fault ∧ result.2.database = world.database
  | some written => ∃ before : World δ, before.database = world.database ∧
      result.1 = ((written.step tablePrefix).result before).1 ∧
      result.2.database = ((written.step tablePrefix).result before).2.database

/-- An operation comes to what it writes if nothing fails. -/
theorem step_comesTo (write : Write) :
    ComesTo tablePrefix world (write.written? (Token.ofSeed world.seeds.next) world.clock)
      ((write.step (embedded tablePrefix)).result world) := by
  cases write with
  | token workspace =>
    rw [Write.step, Write.written?, upsertSignupToken_result]
    cases world.clock.toInt with
    | error cause => exact ⟨_, rfl, rfl⟩
    | ok seconds => exact ⟨world, rfl, rfl, rfl⟩
  | settings workspace =>
    rw [Write.step, Write.written?, upsertSettings_result]
    cases world.clock.toInt with
    | error cause => exact ⟨_, rfl, rfl⟩
    | ok seconds =>
      cases StoredSettings.of workspace.settings with
      | error fault => exact ⟨_, rfl, rfl⟩
      | ok settings => exact ⟨{ world with seeds := world.seeds.advance }, rfl, rfl, rfl⟩
  | regenerate id modifiedBy =>
    have renewed := regenerateSignupToken_result tablePrefix world id modifiedBy
    rw [Write.step, Step.result_bind]
    split at renewed
    next idText author isId isAuthor =>
      obtain ⟨record, renewed⟩ := renewed
      rw [Write.written?, isId, isAuthor, renewed, upsertSignupToken_result]
      cases world.clock.toInt with
      | error cause => exact ⟨_, rfl, rfl⟩
      | ok seconds =>
        refine ⟨{ world with seeds := world.seeds.advance }, rfl, ?_⟩
        dsimp only
        rcases (Written.step tablePrefix ⟨idText, Token.ofSeed world.seeds.next, none, author,
          seconds⟩).result { world with seeds := world.seeds.advance } with ⟨outcome, after⟩
        cases outcome <;> exact ⟨rfl, rfl⟩
    next misfit =>
      obtain ⟨fault, renewed⟩ := renewed
      have nothing : (Write.regenerate id modifiedBy).written? (Token.ofSeed world.seeds.next)
          world.clock = none := by
        rw [Write.written?]
        cases first : id.asText with
        | error => rfl
        | ok idText =>
          cases last : modifiedBy.asText with
          | error => rfl
          | ok author => exact absurd last (misfit idText author first)
      rw [nothing, renewed]
      exact ⟨fault, rfl, rfl⟩

end

/-! ## In the embedded database -/

section
variable (tablePrefix : Text) (sendable : tablePrefix.isSendable = true)
  (rows : List WorkspaceRow) (world : World Database)
  (state : world.database = holding tablePrefix rows)
include sendable state

-- The embedded database runs the statement of a write if it can keep what is written
private theorem written_embedded (written : Written) :
    (written.Storable → (written.step tablePrefix).result world =
      (.ok (), { world with database := holding tablePrefix (written.apply rows) })) ∧
    (¬written.Storable →
      ∃ fault, (written.step tablePrefix).result world = (.error fault, world)) := by
  have asked := runUpsert_ok_iff tablePrefix sendable rows written
  rw [← state] at asked
  have sqlite : ¬(embedded tablePrefix).dialect = .mysql := by
    intro eq
    cases eq
  have connected := connect_embedded .transaction world
  rw [Written.step, writeWith, Step.result_bind_ok _ _ _ _ _ connected, Step.result_bind,
    Step.result_execute]
  simp only [Engine.execute, Database.run, if_neg sqlite]
  constructor
  · intro storable
    rw [(asked _).mpr ⟨storable, rfl⟩]
    rfl
  · intro unstorable
    cases ran : world.database.runUpsert (written.upsert tablePrefix) with
    | error fault => exact ⟨fault, rfl⟩
    | ok after => exact absurd ((asked after).mp ran).1 unstorable

/-- An operation writes if it comes to a write that the embedded database can keep. -/
theorem step_ok (write : Write) (written : Written)
    (comes : write.written? (Token.ofSeed world.seeds.next) world.clock = some written)
    (storable : written.Storable) :
    ((write.step (embedded tablePrefix)).result world).1 = .ok () ∧
      ((write.step (embedded tablePrefix)).result world).2.database =
        holding tablePrefix (written.apply rows) := by
  have comesTo := step_comesTo tablePrefix world write
  rw [comes] at comesTo
  obtain ⟨before, same, outcome, database⟩ := comesTo
  have run :=
    (written_embedded tablePrefix sendable rows before (same.trans state) written).1 storable
  rw [run] at outcome database
  exact ⟨outcome, database⟩

/-- Any other operation fails and leaves the tables as they are. -/
theorem step_error (write : Write)
    (unstorable : ∀ written,
      write.written? (Token.ofSeed world.seeds.next) world.clock = some written →
        ¬written.Storable) :
    ∃ fault, ((write.step (embedded tablePrefix)).result world).1 = .error fault ∧
      ((write.step (embedded tablePrefix)).result world).2.database = world.database := by
  have comesTo := step_comesTo tablePrefix world write
  cases comes : write.written? (Token.ofSeed world.seeds.next) world.clock with
  | none =>
    rw [comes] at comesTo
    exact comesTo
  | some written =>
    rw [comes] at comesTo
    obtain ⟨before, same, outcome, database⟩ := comesTo
    obtain ⟨fault, run⟩ := (written_embedded tablePrefix sendable rows before (same.trans state)
      written).2 (unstorable written comes)
    rw [run] at outcome database
    exact ⟨fault, outcome, database.trans same⟩

end

end Tenancy.Store
