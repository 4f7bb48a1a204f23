import Tenancy.Proofs.Store.Trace

/-!
# What steps log

The log tells of a failure once or not at all, and which of the two depends on the operation and on
where it fails. A count logs every failure of the database. A listing logs a statement that fails
and a row that cannot be decoded, but no failure to connect and none behind the rows. Looking for a
workspace logs settings that are no document only. What is logged is passed on as it is.
-/
namespace Tenancy.Store

open Sql

section
variable {α : Type} (dialect : Dialect) (rows : List (List Value)) (injected : Option Injected)
  (world : World CannedDatabase) (statement : Statement) (tablePrefix : Text)

/-! ## Counting -/

/-- Reading the only value fails in the database where a failure is injected, wherever that is, and
where there is not exactly one row. -/
theorem scalar_isFromDatabase_iff :
    (∃ fault, readOutcome ResultSet.scalar rows injected = .error fault ∧
      fault.isFromDatabase = true) ↔ injected.isSome = true ∨ rows.length ≠ 1 := by
  rcases injected with _ | ⟨_ | _ | _, kind, message⟩ <;>
    rcases rows with _ | ⟨_ | ⟨value, row⟩, _ | ⟨second, others⟩⟩ <;>
      simp [readOutcome, ResultSet.scalar, Fault.isFromDatabase]

/-- What a count comes to, before a failure of the database is logged. -/
def countOutcome (rows : List (List Value)) (injected : Option Injected) : Except Fault Int :=
  readOutcome ResultSet.scalar rows injected >>= fun value => value.toInt.mapError .conversion

theorem leaves_getWorkspaceCount (store : Store) :
    Leaves store.getWorkspaceCount (canned rows injected world)
      ⟨countOutcome rows injected,
        failureRecord? store "ERROR get_workspace_count" (countOutcome rows injected),
        readCalls store.dialect store.countQuery injected⟩ := by
  refine Leaves.logFailure store "ERROR get_workspace_count" (leaves_of_result ?_)
  rw [result_single, countOutcome]
  cases readOutcome ResultSet.scalar rows injected with
  | error fault => rfl
  | ok value =>
    dsimp only [bind, Except.bind]
    cases value.toInt <;> rfl

theorem countOutcome_isFromDatabase_iff :
    (∃ fault, countOutcome rows injected = .error fault ∧ fault.isFromDatabase = true) ↔
      injected.isSome = true ∨ rows.length ≠ 1 := by
  rw [← scalar_isFromDatabase_iff rows injected]
  refine exists_congr fun fault => and_congr_left fun database => ?_
  rw [countOutcome, bind_error_iff, or_iff_left]
  -- What is no number is no failure of the database
  rintro ⟨value, -, failed⟩
  cases counted : value.toInt with
  | ok count =>
    rw [counted] at failed
    cases failed
  | error cause =>
    rw [counted] at failed
    rw [← Except.error.inj failed] at database
    cases database

theorem exact_count : ∃ trace,
    Leaves (Ask.count.step ⟨dialect, .withPrefix tablePrefix⟩) (canned rows injected world) trace ∧
      trace.IsExact dialect rows injected .count ∧
        ((∃ fault, trace.outcome = .error fault ∧ fault.isFromDatabase = true) ↔
          injected.isSome = true ∨ rows.length ≠ 1) := by
  refine ⟨_, (leaves_getWorkspaceCount rows injected world _).withoutResult,
    isExact_withoutResult _ _ _ _ _ ?_ ?_ ?_ ?_ ?_, ?_⟩
  · exact fun record member => (failureRecord?_eq member).1
  · intro record member
    rw [(failureRecord?_eq member).2]
    rfl
  · exact (failureRecord?_isSome _ _ _).trans (countOutcome_isFromDatabase_iff rows injected)
  · exact readCalls_few dialect injected _
  · have single (fault : Fault) (few : rows.length ≤ 1) :
        ResultSet.scalar ⟨rows, some fault⟩ = .error fault := by
      rcases rows with _ | ⟨row, _ | ⟨second, others⟩⟩
      · rfl
      · cases row <;> rfl
      · simp at few
    have raised := readOutcome_raised dialect rows injected
      (countQuery ⟨dialect, .withPrefix tablePrefix⟩) .count ResultSet.scalar
      fun reached fault => single fault reached.2
    intro failure member reached
    dsimp only
    rw [countOutcome, raised failure member reached]
    rfl
  · rw [← countOutcome_isFromDatabase_iff rows injected, Trace.withoutResult]
    cases countOutcome rows injected <;> simp [Except.map]

/-! ## Looking for a workspace -/

/-- The record of stored settings, which only those have that are no document. -/
def settingsRecord? (store : Store) (id settings : Value) : Option LogRecord :=
  match readSettings settings with
  | .error (.unreadable (.malformed _)) =>
    some ⟨.error, "ERROR get_workspace settings json decode",
      store.context ++ [("workspace_id", id)], some "JSONDecodeError"⟩
  | _ => none

theorem settingsRecord?_isSome (store : Store) (id settings : Value) :
    (settingsRecord? store id settings).isSome = true ↔
      ∃ cause, readSettings settings = .error (.unreadable (.malformed cause)) := by
  rw [settingsRecord?]
  split
  next cause read => exact iff_of_true rfl ⟨cause, read⟩
  next other => exact iff_of_false Bool.false_ne_true fun ⟨cause, read⟩ => other cause read

theorem settingsRecord?_eq {store : Store} {id settings : Value} {record : LogRecord}
    (member : record ∈ settingsRecord? store id settings) :
    record.level = .error ∧ record.context = store.context ++ [("workspace_id", id)] := by
  rw [settingsRecord?, Option.mem_def] at member
  split at member
  · rw [← Option.some.inj member]
    exact ⟨rfl, rfl⟩
  · cases member

theorem result_decodeSettings (store : Store) (id settings : Value)
    (world : World CannedDatabase) : ∃ outcome, (store.decodeSettings id settings).result world =
      (outcome, { world with
        log := (settingsRecord? store id settings).toList ++ world.log }) := by
  unfold decodeSettings
  split
  next document read =>
    rw [settingsRecord?, read]
    exact ⟨_, rfl⟩
  next cause read =>
    rw [settingsRecord?, read]
    exact ⟨_, rfl⟩
  next fault other read =>
    rw [settingsRecord?, read]
    split
    next cause malformed => exact absurd (Except.error.inj malformed) (other cause)
    next => exact ⟨_, rfl⟩

theorem oneOrNone_some_iff (row : List Value) :
    readOutcome ResultSet.oneOrNone rows injected = .ok (some row) ↔
      injected = none ∧ rows = [row] := by
  rcases injected with _ | ⟨_ | _ | _, kind, message⟩ <;>
    rcases rows with _ | ⟨first, _ | ⟨second, others⟩⟩ <;>
      simp [readOutcome, ResultSet.oneOrNone]

/-- The record of the only row, if there is one. -/
def rowRecord? (store : Store) : Except Fault (Option (List Value)) → Option LogRecord
  | .ok (some [id, _, settings, _, _]) => settingsRecord? store id settings
  | _ => none

theorem leaves_getWorkspace (store : Store) (id : Value) : ∃ outcome,
    Leaves (store.getWorkspace id) (canned rows injected world)
        ⟨outcome, rowRecord? store (readOutcome ResultSet.oneOrNone rows injected),
          readCalls store.dialect (store.workspaceQuery id) injected⟩ ∧
      ∀ fault, readOutcome ResultSet.oneOrNone rows injected = .error fault →
        outcome = .error fault := by
  have settled : ∃ outcome, (store.getWorkspace id).result (canned rows injected world) =
      (outcome, { called (readCalls store.dialect (store.workspaceQuery id) injected)
        (canned rows injected world) with
          log := (rowRecord? store (readOutcome ResultSet.oneOrNone rows injected)).toList ++
            world.log }) ∧
      ∀ fault, readOutcome ResultSet.oneOrNone rows injected = .error fault →
        outcome = .error fault := by
    rw [getWorkspace, result_single]
    cases readOutcome ResultSet.oneOrNone rows injected with
    | error fault => exact ⟨_, rfl, fun _ same => congrArg _ (Except.error.inj same)⟩
    | ok found =>
      dsimp only
      split
      next => exact ⟨_, rfl, fun _ other => by cases other⟩
      next rowId token settings modifiedBy updateAt =>
        obtain ⟨decoded, ran⟩ := result_decodeSettings store rowId settings
          (called (readCalls store.dialect (store.workspaceQuery id) injected)
            (canned rows injected world))
        rw [Step.result_bind, ran]
        cases decoded with
        | error fault => exact ⟨_, rfl, fun _ other => by cases other⟩
        | ok document =>
          exact ⟨_, Step.result_ofExcept _ _, fun _ other => by cases other⟩
      next row other =>
        have none : rowRecord? store (.ok (some row)) = none := by
          unfold rowRecord?
          split
          next same => exact absurd (Option.some.inj (Except.ok.inj same)) (other _ _ _ _ _)
          next => rfl
        rw [none]
        exact ⟨_, rfl, fun _ other => by cases other⟩
  obtain ⟨outcome, ran, passed⟩ := settled
  exact ⟨outcome, leaves_of_result ran, passed⟩

theorem rowRecord?_isSome (store : Store) :
    (rowRecord? store (readOutcome ResultSet.oneOrNone rows injected)).isSome = true ↔
      injected = none ∧ ∃ id token settings modifiedBy updateAt cause,
        rows = [[id, token, settings, modifiedBy, updateAt]] ∧
          readSettings settings = .error (.unreadable (.malformed cause)) := by
  unfold rowRecord?
  split
  next id token settings modifiedBy updateAt read =>
    obtain ⟨rfl, rfl⟩ := (oneOrNone_some_iff rows injected _).mp read
    rw [settingsRecord?_isSome]
    constructor
    · rintro ⟨cause, malformed⟩
      exact ⟨rfl, id, token, settings, modifiedBy, updateAt, cause, rfl, malformed⟩
    · rintro ⟨-, _, _, _, _, _, cause, ⟨⟩, malformed⟩
      exact ⟨cause, malformed⟩
  next other =>
    refine iff_of_false Bool.false_ne_true ?_
    rintro ⟨rfl, id, token, settings, modifiedBy, updateAt, -, rfl, -⟩
    exact other id token settings modifiedBy updateAt rfl

theorem exact_workspace (id : Value) : ∃ trace,
    Leaves ((Ask.workspace id).step ⟨dialect, .withPrefix tablePrefix⟩)
        (canned rows injected world) trace ∧
      trace.IsExact dialect rows injected (.workspace id) := by
  obtain ⟨outcome, leaves, passed⟩ := leaves_getWorkspace rows injected world
    ⟨dialect, .withPrefix tablePrefix⟩ id
  have record (record : LogRecord)
      (member : record ∈ rowRecord? ⟨dialect, .withPrefix tablePrefix⟩
        (readOutcome ResultSet.oneOrNone rows injected)) :
      record.level = .error ∧ record.context.find? (·.1 = "db_type") =
        some ("db_type", .text (Text.ofString dialect.name)) := by
    unfold rowRecord? at member
    split at member
    · obtain ⟨level, context⟩ := settingsRecord?_eq member
      rw [context]
      exact ⟨level, rfl⟩
    · cases member
  refine ⟨_, leaves.withoutResult, isExact_withoutResult _ _ _ _ _ (fun _ member =>
    (record _ member).1) (fun _ member => (record _ member).2) ?_ ?_ ?_⟩
  · exact rowRecord?_isSome rows injected _
  · exact readCalls_few dialect injected _
  · have single (fault : Fault) (few : rows.length ≤ 1) :
        ResultSet.oneOrNone ⟨rows, some fault⟩ = .error fault := by
      rcases rows with _ | ⟨row, _ | ⟨second, others⟩⟩
      · rfl
      · rfl
      · simp at few
    have raised := readOutcome_raised dialect rows injected
      (workspaceQuery ⟨dialect, .withPrefix tablePrefix⟩ id) (.workspace id) ResultSet.oneOrNone
      fun reached fault => single fault reached.2
    exact fun failure member reached => passed _ (raised failure member reached)

/-! ## Listing -/

omit injected world in
private theorem held_of_good (good : ∀ row ∈ rows, isGood row) :
    ∃ entries, List.Forall₂ UserWorkspace.IsHeldBy (rows.map .tuple) entries := by
  rcases held_or_bad (rows.map .tuple) with held | ⟨_, _, bad, behind, split, _, none⟩
  · exact held
  · have member : bad ∈ rows.map .tuple := by
      rw [split]
      simp
    obtain ⟨row, isIn, rfl⟩ := List.mem_map.mp member
    obtain ⟨entry, held⟩ := good row isIn
    exact absurd held (none entry)

-- The rows up to the first that holds no entry, in front of any others
private theorem decodeRows_split (context : List (String × Value)) (good : List (List Value))
    (bad : List Value) (all : ∀ row ∈ good, isGood row) (isBad : ¬isGood bad) :
    ∃ kind, ∀ (behind : List (List Value)) (world : World CannedDatabase),
      (decodeRows context ((good ++ bad :: behind).map .tuple)).result world =
        (.error (.unexpectedRow (Value.tuple bad).display), { world with
          log := ⟨.error, "ERROR decoding user workspace row", context, some kind⟩
            :: world.log }) := by
  obtain ⟨entries, held⟩ := held_of_good good all
  obtain ⟨kind, failed⟩ := decodeRows_first (δ := CannedDatabase) context _ entries _ held
    (not_exists.mp isBad)
  refine ⟨kind, fun behind world => ?_⟩
  rw [List.map_append, List.map_cons]
  exact failed _ world

/-- What reading the rows of a listing comes to: the first that holds no entry is logged and
decides, and a failure behind the rows is reached if there is none. -/
structure Listed (context : List (String × Value)) (rows : List (List Value))
    (failure : Option Fault) (outcome : Except Fault (List UserWorkspace))
    (record? : Option LogRecord) : Prop where
  record : ∀ record ∈ record?, record.level = .error ∧ record.context = context
  logged : record?.isSome = true ↔ ∃ row ∈ rows, ¬isGood row
  raised : (∀ row ∈ rows, isGood row) → ∀ fault ∈ failure, outcome = .error fault
  bad : ∀ good bad behind, rows = good ++ bad :: behind → (∀ row ∈ good, isGood row) →
    ¬isGood bad → outcome = .error (.unexpectedRow (Value.tuple bad).display)

omit injected world in
-- Rows either are all good, or there is a first that is not
private theorem good_or_bad : (∀ row ∈ rows, isGood row) ∨ ∃ good bad behind,
    rows = good ++ bad :: behind ∧ (∀ row ∈ good, isGood row) ∧ ¬isGood bad := by
  rcases held_or_bad (rows.map .tuple) with ⟨entries, held⟩ | ⟨_, entries, _, _, split, held, none⟩
  · exact .inl fun row member => forall_held _ _ held _ (List.mem_map_of_mem member)
  · obtain ⟨good, rest, rfl, rfl, cons⟩ := List.map_eq_append_iff.mp split
    obtain ⟨bad, behind, rfl, rfl, rfl⟩ := List.map_eq_cons_iff.mp cons
    exact .inr ⟨good, bad, behind, rfl,
      fun row member => forall_held _ _ held _ (List.mem_map_of_mem member), not_exists.mpr none⟩

theorem result_listed (context : List (String × Value)) (failure : Option Fault)
    (world : World CannedDatabase) : ∃ outcome record?,
      (do
        let entries ← decodeRows context (rows.map .tuple)
        match failure with
        | some fault => throw fault
        | none => return entries : Step CannedDatabase (List UserWorkspace)).result world =
          (outcome, { world with log := Option.toList record? ++ world.log }) ∧
      Listed context rows failure outcome record? := by
  rcases good_or_bad rows with all | ⟨good, bad, behind, split, all, isBad⟩
  · obtain ⟨entries, held⟩ := held_of_good rows all
    refine ⟨failure.elim (.ok entries) .error, none, ?_, by simp, by simpa using all, ?_, ?_⟩
    · rw [Step.result_bind_ok _ _ _ _ _ (decodeRows_ok context world _ entries held)]
      cases failure <;> rfl
    · rintro - fault ⟨⟩
      rfl
    · rintro good bad behind rfl - isBad
      exact absurd (all bad (by simp)) isBad
  · obtain ⟨kind, failed⟩ := decodeRows_split context good bad all isBad
    have member : bad ∈ rows := by simp [split]
    refine ⟨.error (.unexpectedRow (Value.tuple bad).display),
      some ⟨.error, "ERROR decoding user workspace row", context, some kind⟩, ?_, ?_, ?_, ?_, ?_⟩
    · rw [split, Step.result_bind_error _ _ _ _ _ (failed behind world)]
      rfl
    · rintro record ⟨⟩
      exact ⟨rfl, rfl⟩
    · exact iff_of_true rfl ⟨bad, member, isBad⟩
    · exact fun all => absurd (all bad member) isBad
    · intro other first others eq otherAll otherBad
      -- The first bad row is the same one, since both decide what comes of the rows
      obtain ⟨_, same⟩ := decodeRows_split context other first otherAll otherBad
      have both := same others world
      rw [← eq, split, failed] at both
      exact congrArg Prod.fst both

/-- What a listing comes to that has a query. -/
structure ListedFrom (context : List (String × Value)) (rows : List (List Value))
    (injected : Option Injected) (outcome : Except Fault (List UserWorkspace))
    (record? : Option LogRecord) : Prop where
  record : ∀ record ∈ record?, record.level = .error ∧ record.context = context
  logged : record?.isSome = true ↔ (∃ failure ∈ injected, failure.stage = .execute) ∨
    (∀ failure ∈ injected, failure.stage = .fetch) ∧ ∃ row ∈ rows, ¬isGood row
  raised : ∀ failure ∈ injected, (failure.stage = .fetch → ∀ row ∈ rows, isGood row) →
    outcome = .error failure.fault
  bad : (∀ failure ∈ injected, failure.stage = .fetch) → ∀ good bad behind,
    rows = good ++ bad :: behind → (∀ row ∈ good, isGood row) → ¬isGood bad →
      outcome = .error (.unexpectedRow (Value.tuple bad).display)

theorem leaves_getUserWorkspaces (store : Store) (user : Value)
    (queried : store.listingQuery user = .ok statement) : ∃ outcome record?,
      Leaves (store.getUserWorkspaces user) (canned rows injected world)
        ⟨outcome, record?, readCalls store.dialect statement injected⟩ ∧
      ListedFrom store.context rows injected outcome record? := by
  have begun : (store.getUserWorkspaces user).result (canned rows injected world) = (do
      Step.connect .reading
      let result ← store.logFailure ("ERROR get_user_workspaces (user=" ++ user.toText ++ ")")
        (Step.execute store.dialect statement)
      let entries ← decodeRows store.context (result.rows.map .tuple)
      match result.failure with
      | some fault => throw fault
      | none => return entries : Step CannedDatabase (List UserWorkspace)).result
        (canned rows injected world) := by
    rw [getUserWorkspaces, queried]
    rfl
  rw [Step.result_bind, result_connect_canned] at begun
  rcases injected with _ | ⟨_ | _ | _, kind, message⟩
  case some.connect =>
    refine ⟨_, none, leaves_of_result begun, by simp, by simp, ?_, by simp⟩
    rintro failure ⟨⟩ -
    rfl
  all_goals
    dsimp only at begun
    rw [Step.result_bind, result_logFailure, result_execute_canned] at begun
  case some.execute =>
    refine ⟨_, some _, leaves_of_result begun, ?_, by simp, ?_, by simp⟩
    · rintro record ⟨⟩
      exact ⟨rfl, rfl⟩
    · rintro failure ⟨⟩ -
      rfl
  case none =>
    obtain ⟨outcome, record?, ran, listed⟩ := result_listed rows store.context none
      (called [statementCall store.dialect statement, .connection .reading]
        (canned rows none world))
    refine ⟨outcome, record?, leaves_of_result (begun.trans ran), listed.record, ?_, by simp, ?_⟩
    · rw [listed.logged]
      simp
    · exact fun _ => listed.bad
  case some.fetch =>
    obtain ⟨outcome, record?, ran, listed⟩ := result_listed rows store.context
      (some (.database kind message))
      (called [statementCall store.dialect statement, .connection .reading]
        (canned rows (some ⟨.fetch, kind, message⟩) world))
    refine ⟨outcome, record?, leaves_of_result (begun.trans ran), listed.record, ?_, ?_, ?_⟩
    · rw [listed.logged]
      simp
    · rintro failure ⟨⟩ good
      exact listed.raised (good rfl) _ rfl
    · exact fun _ => listed.bad

-- Only SQLite has no query for a listing
private theorem listingQuery_ok (user : Value) (other : dialect ≠ .sqlite) :
    ∃ statement, listingQuery ⟨dialect, .withPrefix tablePrefix⟩ user = .ok statement := by
  cases dialect with
  | mysql => exact ⟨_, rfl⟩
  | postgres => exact ⟨_, rfl⟩
  | sqlite => exact absurd rfl other

theorem exact_listing (user : Value) : ∃ trace,
    Leaves ((Ask.listing user).step ⟨dialect, .withPrefix tablePrefix⟩)
        (canned rows injected world) trace ∧
      trace.IsExact dialect rows injected (.listing user) ∧
      (dialect = .sqlite → trace.calls = []) ∧
      (dialect ≠ .sqlite → (∀ failure ∈ injected, failure.stage = .fetch) → ∀ good bad behind,
        rows = good ++ bad :: behind → (∀ row ∈ good, isGood row) → ¬isGood bad →
          trace.outcome = .error (.unexpectedRow (Value.tuple bad).display)) := by
  by_cases sqlite : dialect = .sqlite
  · subst sqlite
    have refused : Leaves (getUserWorkspaces ⟨.sqlite, .withPrefix tablePrefix⟩ user)
        (canned rows injected world) ⟨.error (.unsupportedDatabase "non_template_filter"
          (Text.ofString Dialect.sqlite.name)), none, []⟩ := leaves_of_result rfl
    exact ⟨_, refused.withoutResult, isExact_silent _ _ _ _ _ (by simp [Ask.LogsError]),
      fun _ => rfl, fun other => absurd rfl other⟩
  · obtain ⟨statement, queried⟩ := listingQuery_ok dialect tablePrefix user sqlite
    obtain ⟨outcome, record?, leaves, listed⟩ := leaves_getUserWorkspaces rows injected world
      statement ⟨dialect, .withPrefix tablePrefix⟩ user queried
    refine ⟨_, leaves.withoutResult, isExact_withoutResult _ _ _ _ _
      (fun record member => (listed.record record member).1) ?_ ?_
      (readCalls_few dialect injected statement) ?_, fun same => absurd same sqlite, ?_⟩
    · intro record member
      rw [(listed.record record member).2]
      rfl
    · rw [listed.logged, Ask.LogsError, and_iff_right sqlite]
    · intro failure member reached
      refine listed.raised failure member fun fetch => ?_
      rw [fetch] at reached
      exact reached.2
    · intro _ fetch good bad behind split all isBad
      rw [Trace.withoutResult, listed.bad fetch good bad behind split all isBad]
      rfl

/-! ## Writing -/

-- A write takes its connection before it runs its statement, and calls for nothing else
private theorem stages_calls (operation : Operation) (world : World CannedDatabase) :
    operation.stages.filterMap (operation.call? dialect tablePrefix world) =
      .connection .transaction ::
        (operation.statement? tablePrefix world).toList.map (statementCall dialect) := by
  have last (rest : List WriteStage)
      (none : rest.filterMap (operation.call? dialect tablePrefix world) = []) :
      (WriteStage.connect :: .execute :: rest).filterMap
        (operation.call? dialect tablePrefix world) = .connection .transaction ::
          (operation.statement? tablePrefix world).toList.map (statementCall dialect) := by
    cases statement : operation.statement? tablePrefix world <;>
      simp [Operation.call?, statement, none, statementCall]
  cases operation <;> exact last _ rfl

/-- The calls of a write, the last one first. -/
def writeCalls (operation : Operation) (world : World CannedDatabase) : List Call :=
  ((attempted (operation.fails dialect tablePrefix world) operation.stages).filterMap
    (operation.call? dialect tablePrefix world)).reverse

theorem writeCalls_few (operation : Operation) (world : World CannedDatabase) :
    ((writeCalls dialect tablePrefix operation world).filter isConnection).length ≤ 1 ∧
      ((writeCalls dialect tablePrefix operation world).filter (!isConnection ·)).length ≤ 1 := by
  have among := (prefix_attempted (operation.fails dialect tablePrefix world)
    operation.stages).sublist.filterMap (operation.call? dialect tablePrefix world)
  rw [stages_calls] at among
  have shorter (p : Call → Bool) :
      ((writeCalls dialect tablePrefix operation world).filter p).length ≤
        ((.connection .transaction :: (operation.statement? tablePrefix world).toList.map
          (statementCall dialect)).filter p).length := by
    rw [writeCalls, List.filter_reverse, List.length_reverse]
    exact (among.filter p).length_le
  constructor
  · refine (shorter _).trans ?_
    cases operation.statement? tablePrefix world <;> exact Nat.le_refl 1
  · refine (shorter _).trans ?_
    cases operation.statement? tablePrefix world
    · exact Nat.zero_le 1
    · exact Nat.le_refl 1

/-- The record of a write that does not fail, if it has one. -/
def writeRecord? (operation : Operation) (world : World CannedDatabase) : Option LogRecord :=
  if (operation.stages.findSome? (operation.fails dialect tablePrefix world)).isNone then
    operation.record? dialect
  else none

theorem leaves_write (operation : Operation) (world : World CannedDatabase) :
    Leaves (operation.step ⟨dialect, .withPrefix tablePrefix⟩) world
      ⟨match operation.stages.findSome? (operation.fails dialect tablePrefix world) with
        | some fault => .error fault
        | none => .ok (operation.reply (Operation.minted world)),
        writeRecord? dialect tablePrefix operation world,
        writeCalls dialect tablePrefix operation world⟩ := by
  constructor <;> rw [operation.step_result dialect tablePrefix world]
  · rfl
  · refine (operation.stagesCourse_log dialect tablePrefix world _
      (operation.nodup_attempted dialect tablePrefix world)).trans ?_
    dsimp only
    rw [writeRecord?]
    cases failed : operation.stages.findSome? (operation.fails dialect tablePrefix world) with
    | some fault =>
      rw [if_neg (operation.attempted_failed dialect tablePrefix world fault failed).1]
      rfl
    | none =>
      -- All stages are reached, and the last of them writes the record if there is one
      rw [attempted_eq_self _ _ failed]
      cases operation <;> rfl
  · exact operation.stagesCourse_calls dialect tablePrefix world world _

private theorem writeRecord?_eq {operation : Operation} {world : World CannedDatabase}
    {record : LogRecord} (member : record ∈ writeRecord? dialect tablePrefix operation world) :
    operation.stages.findSome? (operation.fails dialect tablePrefix world) = none ∧
      record.level = .info ∧ (∃ token, operation.reply (Operation.minted world) = some token) ∧
      record.context.find? (·.1 = "db_type") =
        some ("db_type", .text (Text.ofString dialect.name)) := by
  rw [writeRecord?, Option.mem_def] at member
  split at member
  next none =>
    refine ⟨Option.isNone_iff_eq_none.mp none, ?_⟩
    cases operation with
    | token fields => cases member
    | settings fields => cases member
    | regenerate id modifiedBy =>
      rw [← Option.some.inj member]
      exact ⟨rfl, ⟨_, rfl⟩, rfl⟩
  next => cases member

-- A failure of the database that a write reaches is the first one
private theorem write_raised (operation : Operation) : ∀ failure ∈ injected,
    (Ask.write operation).Reaches rows
        (writeCalls dialect tablePrefix operation (canned rows injected world)) failure.stage →
      operation.stages.findSome?
        (operation.fails dialect tablePrefix (canned rows injected world)) =
          some failure.fault := by
  rintro ⟨stage, kind, message⟩ ⟨⟩ reached
  cases stage with
  | connect =>
    obtain ⟨call, member, isConnected⟩ := reached
    obtain ⟨stage, attempted, called⟩ := List.mem_filterMap.mp (List.mem_reverse.mp member)
    cases stage <;> simp only [Operation.call?, reduceCtorEq] at called
    case connect => exact findSome?_attempted _ _ .connect _ attempted rfl
    case execute =>
      obtain ⟨statement, -, rfl⟩ := Option.map_eq_some_iff.mp called
      cases isConnected
  | execute =>
    obtain ⟨call, member, isConnected⟩ := reached
    obtain ⟨stage, attempted, called⟩ := List.mem_filterMap.mp (List.mem_reverse.mp member)
    cases stage <;> simp only [Operation.call?, reduceCtorEq] at called
    case connect =>
      rw [← Option.some.inj called] at isConnected
      cases isConnected
    case execute =>
      obtain ⟨statement, built, -⟩ := Option.map_eq_some_iff.mp called
      refine findSome?_attempted _ _ .execute _ attempted ?_
      rw [Operation.fails, built]
      rfl
  | fetch => exact reached.2.elim

theorem exact_write (operation : Operation) : ∃ trace,
    Leaves ((Ask.write operation).step ⟨dialect, .withPrefix tablePrefix⟩)
        (canned rows injected world) trace ∧
      trace.IsExact dialect rows injected (.write operation) := by
  have few := writeCalls_few dialect tablePrefix operation (canned rows injected world)
  refine ⟨_, leaves_write dialect tablePrefix operation _, ?_, ?_, ?_, few.1, few.2, ?_⟩
  · refine iff_of_false ?_ id
    rintro ⟨record, member, isError⟩
    rw [(writeRecord?_eq dialect tablePrefix member).2.1] at isError
    cases isError
  · constructor
    · rintro ⟨record, member, -⟩
      obtain ⟨none, -, ⟨token, reply⟩, -⟩ := writeRecord?_eq dialect tablePrefix member
      dsimp only
      rw [none, reply]
      exact ⟨token, rfl⟩
    · rintro ⟨token, given⟩
      dsimp only at given
      split at given
      next => cases given
      next none =>
        dsimp only
        rw [writeRecord?, none]
        cases operation with
        | token fields => cases given
        | settings fields => cases given
        | regenerate id modifiedBy => exact ⟨_, rfl, rfl⟩
  · exact fun record member => (writeRecord?_eq dialect tablePrefix member).2.2.2
  · intro failure member reached
    dsimp only
    rw [write_raised dialect rows injected world tablePrefix operation failure member reached]

/-! ## All requests -/

/-- Whatever rows a database answers with and wherever it is to fail, a request leaves an error in
the log exactly if it has to: a count that fails in the database, which is one with a failure or
with any number of rows but one; a listing whose statement fails or that comes to a bad row; and a
workspace whose settings are read and are no document. A message tells of every new token. A failure
that is reached is the outcome, every record names the type of the database, and there are at most
one connection and one statement, and none for a listing from SQLite. A bad row of a listing comes
before a failure behind the rows. -/
theorem logging_exact (ask : Ask) : ∃ trace,
    Leaves (ask.step ⟨dialect, .withPrefix tablePrefix⟩) (canned rows injected world) trace ∧
      trace.IsExact dialect rows injected ask ∧
      (ask = .count → ((∃ fault, trace.outcome = .error fault ∧ fault.isFromDatabase = true) ↔
        injected.isSome = true ∨ rows.length ≠ 1)) ∧
      ∀ user, ask = .listing user → (dialect = .sqlite → trace.calls = []) ∧
        (dialect ≠ .sqlite → (∀ failure ∈ injected, failure.stage = .fetch) →
          ∀ good bad behind, rows = good ++ bad :: behind → (∀ row ∈ good, isGood row) →
            ¬isGood bad → trace.outcome = .error (.unexpectedRow (Value.tuple bad).display)) := by
  cases ask with
  | write operation =>
    obtain ⟨trace, leaves, isExact⟩ := exact_write dialect rows injected world tablePrefix operation
    exact ⟨trace, leaves, isExact, nofun, nofun⟩
  | workspace id =>
    obtain ⟨trace, leaves, isExact⟩ := exact_workspace dialect rows injected world tablePrefix id
    exact ⟨trace, leaves, isExact, nofun, nofun⟩
  | count =>
    obtain ⟨trace, leaves, isExact, ends⟩ := exact_count dialect rows injected world tablePrefix
    exact ⟨trace, leaves, isExact, fun _ => ends, nofun⟩
  | access user workspaceId =>
    have leaves : Leaves (pure () : Step CannedDatabase Unit) (canned rows injected world)
      ⟨.ok (), none, []⟩ := leaves_of_result rfl
    exact ⟨_, leaves.withoutResult, isExact_silent _ _ _ _ _ id, nofun, nofun⟩
  | listing user =>
    obtain ⟨trace, leaves, isExact, silent, bad⟩ :=
      exact_listing dialect rows injected world tablePrefix user
    refine ⟨trace, leaves, isExact, nofun, ?_⟩
    rintro _ ⟨⟩
    exact ⟨silent, bad⟩
  | query user =>
    have leaves : Leaves (Step.ofExcept (listingQuery ⟨dialect, .withPrefix tablePrefix⟩ user))
      (canned rows injected world) ⟨_, none, []⟩ := leaves_of_result (Step.result_ofExcept _ _)
    exact ⟨_, leaves.withoutResult, isExact_silent _ _ _ _ _ id, nofun, nofun⟩

end

end Tenancy.Store
