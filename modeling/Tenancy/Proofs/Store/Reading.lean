import Tenancy.Proofs.Database.Query
import Tenancy.Proofs.Store.Row
import Tenancy.Proofs.Store.Step

/-!
# Reading workspaces

What the two queries of the table of workspaces give over the rows that writes have made: the number
of rows, and the row of an id. An id that has no octets is refused before any row is looked at.
-/
namespace Tenancy.Store

open Sql

/-- The store of an embedded database. -/
def embedded (tablePrefix : Text) : Store := ⟨.sqlite, .withPrefix tablePrefix⟩

/-- The values that are read from a row, whoever has written it; settings that are null read as an
empty document. -/
def TableRow.shown (row : TableRow) : List Value :=
  [.text row.id, .text row.token,
    (if row.settings = .null then .text "\x7b\x7d" else row.settings.toValue),
    row.modifiedBy.toValue, row.updateAt.toValue]

/-- The values that are read from a row that writes of the store have made. -/
def WorkspaceRow.shown (row : WorkspaceRow) : List Value :=
  [.text row.id, .text row.token, .text (row.settings.elim "\x7b\x7d" (·.encoding)),
    .text row.modifiedBy, .int row.seconds]

theorem WorkspaceRow.shown_tableRow (row : WorkspaceRow) : row.tableRow.shown = row.shown := by
  obtain ⟨id, token, settings, modifiedBy, seconds⟩ := row
  cases settings <;> rfl

section
variable (tablePrefix : Text) (sendable : tablePrefix.isSendable = true)

private theorem frames_workspaces (rows : List Row) (database : Database)
    (found : database.find (Schema.withPrefix tablePrefix).workspaces.name =
      .ok ⟨(Schema.withPrefix tablePrefix).workspaces, rows⟩) :
    Database.frames database (.table (Schema.withPrefix tablePrefix).workspaces) =
      .ok (rows.map fun row => [((Schema.withPrefix tablePrefix).workspaces, row)]) := by
  rw [Database.frames, found]
  rfl

private theorem Tabled.frames (rows : List TableRow) (database : Database)
    (tabled : Tabled tablePrefix rows database) :
    Database.frames database (.table (Schema.withPrefix tablePrefix).workspaces) =
      .ok (rows.map fun row => [((Schema.withPrefix tablePrefix).workspaces, row.cells)]) := by
  rw [frames_workspaces tablePrefix _ database tabled, List.map_map]
  rfl

include sendable

private theorem isSendable_workspaces :
    (Schema.withPrefix tablePrefix).workspaces.name.isSendable = true := by
  simp only [Schema.withPrefix, Text.isSendable_append, sendable]
  rfl

/-- The query of the number of workspaces gives the number of rows. -/
theorem Tabled.run_countQuery (rows : List TableRow) (database : Database)
    (tabled : Tabled tablePrefix rows database) :
    Database.run .sqlite (embedded tablePrefix).countQuery database =
      (.ok ⟨[[.int rows.length]], none⟩, database) := by
  have name := isSendable_workspaces tablePrefix sendable
  simp only [Database.run, countQuery, embedded]
  rw [Database.runQuery_eq _ _ _ [] _ (tabled.frames tablePrefix rows database) rfl]
  · have count : Database.results
        { outputs := [(.countRows, some "count")]
          source := .table (Schema.withPrefix tablePrefix).workspaces
          condition := none
          groupBy := [] }
        (rows.map fun row => [((Schema.withPrefix tablePrefix).workspaces, row.cells)]) =
          [[.int rows.length]] := by
      simp [Database.results, Database.grouped, Database.kept, Expr.isAggregate,
        Database.evaluateGroup]
    rw [count]
    rfl
  · intro t member
    simp only [Query.names, Expr.names, Source.names, List.flatMap_cons, List.flatMap_nil,
      Option.toList_some, List.nil_append, List.append_nil, List.cons_append, List.mem_cons,
      List.not_mem_nil, or_false, Option.elim_none] at member
    rcases member with rfl | rfl
    · rfl
    · exact name

-- The query of one workspace
private def rowQuery (id : Text) : Query :=
  let table := (Schema.withPrefix tablePrefix).workspaces
  { outputs :=
      [(.column table "id", none), (.column table "signup_token", none),
        (.coalesce (.column table "settings") ⟨"coalesce_2", .varchar, .text "\x7b\x7d"⟩,
          some "coalesce_1"),
        (.column table "modified_by", none), (.column table "update_at", none)]
    source := .table table
    condition := some (.equals (.column table "id") (.parameter ⟨"id_1", .varchar, .text id⟩))
    groupBy := [] }

omit sendable in
private theorem workspaceQuery_eq (id : Text) :
    (embedded tablePrefix).workspaceQuery (.text id) = .query (rowQuery tablePrefix id) := rfl

private theorem isSendable_rowQuery (id : Text) :
    ∀ name ∈ (rowQuery tablePrefix id).names, name.isSendable = true := by
  have name := isSendable_workspaces tablePrefix sendable
  have columns : ∀ column ∈ ["id", "signup_token", "settings", "coalesce_1", "modified_by",
      "update_at"], (Text.ofString column).isSendable = true := by
    decide
  intro t member
  simp only [rowQuery, Query.names, Expr.names, Source.names, List.flatMap_cons, List.flatMap_nil,
    Option.toList_some, Option.toList_none, List.append_nil, List.cons_append, List.nil_append,
    List.mem_cons, List.not_mem_nil, or_false, Option.elim_some] at member
  simp only [List.mem_cons, List.not_mem_nil, or_false, forall_eq_or_imp, forall_eq] at columns
  rcases member with rfl | rfl | rfl | rfl | rfl | rfl | rfl | rfl | rfl | rfl | rfl | rfl | rfl |
    rfl <;> first | exact name | simp only [columns]

/-- The values that are read from the cells of a row. -/
def readValues (row : Row) : List Value :=
  let cell := Database.cellOf (Schema.withPrefix tablePrefix).workspaces row
  [(cell "id").toValue, (cell "signup_token").toValue,
    (if cell "settings" = .null then .text "\x7b\x7d" else (cell "settings").toValue),
    (cell "modified_by").toValue, (cell "update_at").toValue]

omit sendable in
private theorem results_rowQuery (rows : List Row) (id : Text)
    (encodable : id.isEncodable = true) :
    let table := (Schema.withPrefix tablePrefix).workspaces
    (Database.results (rowQuery tablePrefix id) (rows.map fun row => [(table, row)])).map
        (fun row => row.map Cell.toValue) =
      (rows.filter fun row => (Database.cellOf table row "id").asText == .text id).map
        (readValues tablePrefix) := by
  intro table
  let frame (row : Row) : Database.Frame := [(table, row)]
  have column (row : Row) (name : String) : Database.evaluate (frame row) (.column table name) =
      Database.cellOf table row name := by
    rw [Database.evaluate, Database.cellAt_same]
  have passed : Database.parameterCell ⟨"id_1", .varchar, .text id⟩ = .text id := by
    rw [Database.parameterCell, Cell.ofValue_text 0 id encodable]
  have condition (row : Row) : Database.holds (Database.evaluate (frame row)
      (.equals (.column table "id") (.parameter ⟨"id_1", .varchar, .text id⟩))) =
        ((Database.cellOf table row "id").asText == .text id) := by
    have textual : Database.isTextColumn (.column table "id") = true := rfl
    rw [Database.evaluate, column, textual, Database.evaluate, passed, Bool.true_or,
      Database.holds_equal_text]
  have kept : Database.kept (rowQuery tablePrefix id) (rows.map frame) =
      (rows.filter fun row => (Database.cellOf table row "id").asText == .text id).map frame := by
    simp only [Database.kept, rowQuery, List.filter_map]
    exact congrArg (fun p => (rows.filter p).map frame) (funext condition)
  have shown (row : Row) : ((rowQuery tablePrefix id).outputs.map (fun output =>
      Database.evaluateGroup [frame row] output.1)).map Cell.toValue =
        readValues tablePrefix row := by
    simp only [rowQuery, List.map_cons, List.map_nil, Database.evaluateGroup, List.headD_cons,
      Database.evaluate.eq_3, column, table, apply_ite Cell.toValue]
    rfl
  have plain : (rowQuery tablePrefix id).groupBy.isEmpty = true ∧
      (rowQuery tablePrefix id).outputs.any (·.1.isAggregate) = false := ⟨rfl, rfl⟩
  rw [Database.results, Database.grouped, plain.1, plain.2, if_pos rfl, if_neg Bool.false_ne_true,
    kept, List.map_map, List.map_map, List.map_map]
  exact List.map_congr_left fun row _ => shown row

/-- The query of a workspace gives the rows whose id, as a text, is the one that is asked for. -/
theorem run_workspaceQuery_rows (rows : List Row) (database : Database)
    (found : database.find (Schema.withPrefix tablePrefix).workspaces.name =
      .ok ⟨(Schema.withPrefix tablePrefix).workspaces, rows⟩)
    (id : Text) (encodable : id.isEncodable = true) :
    Database.run .sqlite ((embedded tablePrefix).workspaceQuery (.text id)) database =
      (.ok ⟨(rows.filter fun row => (Database.cellOf (Schema.withPrefix tablePrefix).workspaces row
        "id").asText == .text id).map (readValues tablePrefix), none⟩, database) := by
  have bound : Database.bind 1 ((rowQuery tablePrefix id).parameters.map (·.value)) =
      .ok [.text "\x7b\x7d", .text id] := by
    rw [show (rowQuery tablePrefix id).parameters.map (·.value) = [.text "\x7b\x7d", .text id] from
      rfl, Database.bind_text_ok_iff]
    exact ⟨rfl, _, (Database.bind_text_ok_iff _ _ _ _).mpr ⟨encodable, _, rfl, rfl⟩, rfl⟩
  simp only [workspaceQuery_eq, Database.run]
  rw [Database.runQuery_eq _ _ _ _ (isSendable_rowQuery tablePrefix sendable id)
    (frames_workspaces tablePrefix rows database found) bound,
    results_rowQuery tablePrefix rows id encodable]

omit sendable in
theorem TableRow.readValues_cells (row : TableRow) :
    readValues tablePrefix row.cells = row.shown := rfl

omit sendable in
theorem TableRow.id_cells (row : TableRow) :
    Database.cellOf (Schema.withPrefix tablePrefix).workspaces row.cells "id" = .text row.id := rfl

/-- The query of a workspace gives the rows of its id. -/
theorem Tabled.run_workspaceQuery (rows : List TableRow) (database : Database)
    (tabled : Tabled tablePrefix rows database) (id : Text) (encodable : id.isEncodable = true) :
    Database.run .sqlite ((embedded tablePrefix).workspaceQuery (.text id)) database =
      (.ok ⟨(rows.filter (·.id == id)).map TableRow.shown, none⟩, database) := by
  have own (row : TableRow) : ((Database.cellOf (Schema.withPrefix tablePrefix).workspaces
      row.cells "id").asText == .text id) = (row.id == id) := by
    have text : (Cell.text row.id).asText = .text row.id := rfl
    rw [row.id_cells, text, Bool.eq_iff_iff, beq_iff_eq, beq_iff_eq, Cell.text.injEq]
  rw [run_workspaceQuery_rows tablePrefix sendable _ database tabled id encodable, List.filter_map,
    List.map_map]
  simp only [Function.comp_def, own, TableRow.readValues_cells]

/-- The query of a workspace gives the rows that writes of the store have made of its id. -/
theorem run_workspaceQuery (rows : List WorkspaceRow) (id : Text)
    (encodable : id.isEncodable = true) :
    Database.run .sqlite ((embedded tablePrefix).workspaceQuery (.text id))
      (holding tablePrefix rows) =
        (.ok ⟨(rows.filter (·.id == id)).map WorkspaceRow.shown, none⟩,
          holding tablePrefix rows) := by
  rw [Tabled.run_workspaceQuery tablePrefix sendable _ _ (tabled_holding tablePrefix rows) id
    encodable, List.filter_map, List.map_map]
  exact congrArg (fun shown => (Except.ok (ResultSet.mk shown none), holding tablePrefix rows))
    (List.map_congr_left fun row _ => row.shown_tableRow)

/-- An id without octets cannot be asked for. -/
theorem Tabled.run_workspaceQuery_error (rows : List TableRow) (database : Database)
    (tabled : Tabled tablePrefix rows database) (id : Text) (fault : EncodeFault)
    (refused : id.encodeFault? = some fault) :
    Database.run .sqlite ((embedded tablePrefix).workspaceQuery (.text id)) database =
      (.error (.unencodable fault), database) := by
  have bound : Database.bind 1 ((rowQuery tablePrefix id).parameters.map (·.value)) =
      .error (.unencodable fault) := by
    rw [show (rowQuery tablePrefix id).parameters.map (·.value) = [.text "\x7b\x7d", .text id] from
      rfl, Database.bind, Cell.ofValue_text 1 _ rfl, Database.bind,
      Cell.ofValue_text_error _ id fault refused]
    rfl
  simp only [workspaceQuery_eq, Database.run]
  rw [Database.runQuery_bind_error _ _ _ (.unencodable fault)
    (isSendable_rowQuery tablePrefix sendable id) (tabled.frames tablePrefix rows database) bound]

end

/-! ## Operations -/

/-- The workspace that is read from a row. -/
def WorkspaceRow.workspace (row : WorkspaceRow) : Workspace :=
  { id := row.id
    signupToken := row.token
    settings := row.settings.elim (.dict []) (·.given.canonical)
    modifiedBy := row.modifiedBy
    updateAt := row.seconds }

theorem orElse_text (t : Text) : orElse (.text t) (.text []) = .text t := by
  cases t <;> rfl

theorem orElse_int (n : Int) : orElse (.int n) (.int 0) = .int n := by
  by_cases zero : n = 0
  · rw [zero]
    rfl
  · simp [orElse, Value.isPresent, zero]

/-- Stored settings are a document that denotes them. -/
theorem readSettings_stored (settings : Option StoredSettings) : ∃ document,
    readSettings (.text (settings.elim "\x7b\x7d" (·.encoding))) = .ok document ∧
      document.toValue = settings.elim (.dict []) (·.given.canonical) := by
  cases settings with
  | none => exact ⟨.object [], rfl, rfl⟩
  | some settings =>
    exact (map_ok_iff _ _ _).mp
      (readSettings_encodeSettings settings.given settings.encoding settings.encoded)

/-- The embedded database always gives a connection. -/
theorem connect_embedded (checkout : Checkout) (world : World Database) :
    (Step.connect checkout : Step Database Unit).result world = (.ok (), world) :=
  rfl

/-- A query leaves the embedded database as it is. -/
theorem execute_embedded (world : World Database) (dialect : Dialect) (statement : Statement)
    (outcome : Except Fault ResultSet)
    (run : Database.run dialect statement world.database = (outcome, world.database)) :
    (Step.execute dialect statement : Step Database ResultSet).result world = (outcome, world) := by
  have engine : Engine.execute dialect statement world.database = (outcome, world.database) := run
  rw [Step.result_execute, engine]

/-- Nothing but a failure of the database is logged. -/
theorem logFailure_quiet {δ α : Type} (store : Store) (message : Text) (step : Step δ α)
    (world after : World δ) (outcome : Except Fault α)
    (result : step.result world = (outcome, after))
    (quiet : ∀ fault, outcome = .error fault → fault.isFromDatabase = false) :
    (store.logFailure message step).result world = (outcome, after) := by
  rw [logFailure, Step.result_tryCatch, result]
  cases outcome with
  | ok a => rfl
  | error fault =>
    simp only [quiet fault rfl]
    rfl

/-! ## In a database that is open -/

section
variable {δ : Type} [Engine δ]

/-- A state in which a database is open: there is a connection, queries are answered from the
database, and neither changes the state. -/
structure IsOpen (state : δ) (database : Database) : Prop where
  connect : ∀ checkout, Engine.connect checkout state = (.ok (), state)
  execute : ∀ dialect query, Engine.execute dialect (.query query) state =
    ((database.run dialect (.query query)).1, state)

theorem isOpen_embedded (database : Database) : IsOpen database database where
  connect _ := rfl
  execute dialect query := by
    have ran : Engine.execute dialect (.query query) database =
        database.run dialect (.query query) := rfl
    rw [ran, Database.run]
    cases database.runQuery query <;> rfl

variable (tablePrefix : Text) (world : World δ) (database : Database)
  (isOpen : IsOpen world.database database)
include isOpen

private theorem IsOpen.connected (checkout : Checkout) :
    (Step.connect checkout : Step δ Unit).result world = (.ok (), world) := by
  rw [Step.result_connect, isOpen.connect]

private theorem IsOpen.executed (dialect : Dialect) (query : Query)
    (outcome : Except Fault ResultSet) (after : Database)
    (run : database.run dialect (.query query) = (outcome, after)) :
    (Step.execute dialect (.query query) : Step δ ResultSet).result world = (outcome, world) := by
  rw [Step.result_execute, isOpen.execute, run]

/-- The store gives the workspace of a row. -/
theorem IsOpen.getWorkspace_row (id : Text) (row : WorkspaceRow)
    (asked : database.run .sqlite ((embedded tablePrefix).workspaceQuery (.text id)) =
      (.ok ⟨[row.shown], none⟩, database)) :
    ((embedded tablePrefix).getWorkspace (.text id)).result world = (.ok row.workspace, world) := by
  obtain ⟨document, read, denoted⟩ := readSettings_stored row.settings
  have decoded : ((embedded tablePrefix).decodeSettings (.text row.id)
      (.text (row.settings.elim "\x7b\x7d" (·.encoding))) : Step δ Json).result world =
        (.ok document, world) := by
    unfold decodeSettings
    rw [read]
    rfl
  rw [getWorkspace, Step.result_bind_ok _ _ _ _ _ (isOpen.connected world database .reading),
    workspaceQuery_eq, Step.result_bind_ok _ _ _ _ _ (isOpen.executed world database
      (embedded tablePrefix).dialect (rowQuery tablePrefix id) _ _ asked)]
  refine (Step.result_bind_ok _ _ _ _ (some row.shown) rfl).trans ?_
  refine (Step.result_bind_ok _ _ _ _ document decoded).trans ?_
  rw [orElse_text, orElse_int, denoted]
  rfl

/-- Reading a workspace leaves the database that is open, whatever it finds there. -/
theorem IsOpen.getWorkspace_database (id : Text) :
    (((embedded tablePrefix).getWorkspace (.text id)).result world).2.database =
      world.database := by
  have decoded (rowId stored : Value) : (((embedded tablePrefix).decodeSettings rowId stored :
      Step δ Json).result world).2.database = world.database := by
    unfold decodeSettings
    split <;> rfl
  rcases asked : database.run (embedded tablePrefix).dialect
    (.query (rowQuery tablePrefix id)) with ⟨outcome, after⟩
  rw [getWorkspace, Step.result_bind_ok _ _ _ _ _ (isOpen.connected world database .reading),
    workspaceQuery_eq, Step.result_bind, isOpen.executed world database
      (embedded tablePrefix).dialect (rowQuery tablePrefix id) _ _ asked]
  cases outcome with
  | error fault => rfl
  | ok result =>
    dsimp only
    rw [Step.result_bind, Step.result_ofExcept]
    cases result.oneOrNone with
    | error fault => rfl
    | ok row? =>
      dsimp only
      split
      next => rfl
      next rowId signupToken settings modifiedBy updateAt =>
        rw [Step.result_bind_snd _ _ _ fun _ _ => by rw [buildWorkspace, Step.result_ofExcept]]
        exact decoded rowId settings
      next => rfl

end

/-! ## In the embedded database -/

section
variable (tablePrefix : Text) (sendable : tablePrefix.isSendable = true) (rows : List WorkspaceRow)
  (world : World Database) (state : world.database = holding tablePrefix rows)
include sendable state

/-- The store counts the rows. -/
theorem getWorkspaceCount_result :
    (embedded tablePrefix).getWorkspaceCount.result world = (.ok (rows.length : Int), world) := by
  have counted := (tabled_holding tablePrefix rows).run_countQuery tablePrefix sendable
  rw [← state, List.length_map] at counted
  rw [getWorkspaceCount, logFailure, Step.result_tryCatch,
    Step.result_bind_ok _ _ _ _ _ (connect_embedded .reading world),
    Step.result_bind_ok _ _ _ _ _
      (execute_embedded world (embedded tablePrefix).dialect _ _ counted)]
  rfl

/-- The store cannot look for an id without octets. -/
theorem getWorkspace_unencodable (id : Text) (fault : EncodeFault)
    (refused : id.encodeFault? = some fault) :
    ((embedded tablePrefix).getWorkspace (.text id)).result world =
      (.error (.unencodable fault), world) := by
  have asked := (tabled_holding tablePrefix rows).run_workspaceQuery_error tablePrefix sendable _ _
    id fault refused
  rw [← state] at asked
  rw [getWorkspace, Step.result_bind_ok _ _ _ _ _ (connect_embedded .reading world),
    Step.result_bind_error _ _ _ _ _
      (execute_embedded world (embedded tablePrefix).dialect _ _ asked)]

/-- The store has no workspace without a row. -/
theorem getWorkspace_notFound (id : Text) (encodable : id.isEncodable = true)
    (absent : rows.filter (·.id == id) = []) :
    ((embedded tablePrefix).getWorkspace (.text id)).result world =
      (.error (.workspaceNotFound id), world) := by
  have asked := run_workspaceQuery tablePrefix sendable rows id encodable
  rw [absent, ← state] at asked
  rw [getWorkspace, Step.result_bind_ok _ _ _ _ _ (connect_embedded .reading world),
    Step.result_bind_ok _ _ _ _ _ (execute_embedded world (embedded tablePrefix).dialect _ _ asked)]
  rfl

/-- The store gives the workspace of a row. -/
theorem getWorkspace_found (id : Text) (encodable : id.isEncodable = true) (row : WorkspaceRow)
    (found : rows.filter (·.id == id) = [row]) :
    ((embedded tablePrefix).getWorkspace (.text id)).result world =
      (.ok row.workspace, world) := by
  have asked := run_workspaceQuery tablePrefix sendable rows id encodable
  rw [found, ← state] at asked
  exact (isOpen_embedded world.database).getWorkspace_row tablePrefix world _ id row asked

end

end Tenancy.Store
