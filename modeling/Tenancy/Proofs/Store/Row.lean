import Tenancy.Database.Embedded
import Tenancy.Proofs.Database.Cell
import Tenancy.Proofs.Outcome
import Tenancy.Proofs.Store.Settings

/-!
# Rows of workspaces

The table of workspaces holds rows that writes of the store have made. A write is what a step passes
to the database: a token with or without settings, who writes and when. The embedded database takes
it if its texts have octets and its seconds fit, and then the table holds the written rows.
-/
namespace Tenancy

namespace Database

theorem sameName_comm (a b : Text) : sameName a b = sameName b a := by
  rw [sameName, sameName, Bool.beq_comm]

theorem bind_text_ok_iff (position : Nat) (t : Text) (rest : List Value) (cells : List Cell) :
    bind position (.text t :: rest) = .ok cells ↔
      t.isEncodable = true ∧ ∃ others, bind (position + 1) rest = .ok others ∧
        cells = .text t :: others := by
  simp only [bind, bind_ok_iff]
  constructor
  · rintro ⟨cell, passed, others, bound, eq⟩
    obtain ⟨encodable, rfl⟩ := Cell.ofValue_text_ok position t cell passed
    exact ⟨encodable, others, bound, (Except.ok.inj eq).symm⟩
  · rintro ⟨encodable, others, bound, rfl⟩
    exact ⟨_, Cell.ofValue_text position t encodable, others, bound, rfl⟩

theorem bind_nil_ok_iff (position : Nat) (cells : List Cell) :
    bind position [] = .ok cells ↔ cells = [] := by
  rw [bind, Except.ok.injEq, eq_comm]

theorem bind_int_ok_iff (position : Nat) (n : Int) (rest : List Value) (cells : List Cell) :
    bind position (.int n :: rest) = .ok cells ↔
      Cell.fits n = true ∧ ∃ others, bind (position + 1) rest = .ok others ∧
        cells = .int n :: others := by
  have passed (cell : Cell) : Cell.ofValue position (.int n) = .ok cell ↔
      Cell.fits n = true ∧ cell = .int n := by
    rw [Cell.ofValue]
    split
    next fits => simp [fits, eq_comm]
    next large => simp [large]
  simp only [bind, bind_ok_iff, passed]
  constructor
  · rintro ⟨cell, ⟨fits, rfl⟩, others, bound, eq⟩
    exact ⟨fits, others, bound, (Except.ok.inj eq).symm⟩
  · rintro ⟨fits, others, bound, rfl⟩
    exact ⟨_, ⟨fits, rfl⟩, others, bound, rfl⟩

end Database

namespace Store

open Sql

/-- Settings with the text that they are stored as. -/
structure StoredSettings where
  given : Value
  encoding : Text
  encoded : encodeSettings given = .ok encoding

/-- What a step writes. A token comes with every write; settings are missing where only the token is
to be written. -/
structure Written where
  id : Text
  token : Text
  settings : Option StoredSettings
  modifiedBy : Text
  seconds : Int

/-- A row of the table of workspaces. -/
structure WorkspaceRow where
  id : Text
  token : Text
  settings : Option StoredSettings
  modifiedBy : Text
  seconds : Int

namespace WorkspaceRow

/-- The cells of a row. -/
def cells (row : WorkspaceRow) : Row :=
  [.text row.id, .text row.token, row.settings.elim .null (.text ·.encoding),
    .text row.modifiedBy, .int row.seconds]

end WorkspaceRow

/-- A row of the table of workspaces as the database has it. Whoever has written it, its id and its
token are texts; the other columns may hold anything. -/
structure TableRow where
  id : Text
  token : Text
  settings : Cell
  modifiedBy : Cell
  updateAt : Cell

/-- The cells of a row. -/
def TableRow.cells (row : TableRow) : Row :=
  [.text row.id, .text row.token, row.settings, row.modifiedBy, row.updateAt]

/-- A row that writes of the store have made, as the database has it. -/
def WorkspaceRow.tableRow (row : WorkspaceRow) : TableRow :=
  ⟨row.id, row.token, row.settings.elim .null (.text ·.encoding), .text row.modifiedBy,
    .int row.seconds⟩

theorem map_tableRow_cells (rows : List WorkspaceRow) :
    (rows.map WorkspaceRow.tableRow).map TableRow.cells = rows.map WorkspaceRow.cells := by
  rw [List.map_map]
  rfl

namespace Written

/-- The row of a new workspace. -/
def newRow (written : Written) : WorkspaceRow :=
  ⟨written.id, written.token, written.settings, written.modifiedBy, written.seconds⟩

/-- The row of a workspace after a write: settings leave its token, and a token its settings. -/
def update (written : Written) (row : WorkspaceRow) : WorkspaceRow :=
  match written.settings with
  | none =>
    { row with
      token := written.token
      modifiedBy := written.modifiedBy
      seconds := written.seconds }
  | some settings =>
    { row with
      settings := some settings
      modifiedBy := written.modifiedBy
      seconds := written.seconds }

/-- The rows after a write. -/
def apply (written : Written) (rows : List WorkspaceRow) : List WorkspaceRow :=
  if rows.any (·.id == written.id) then
    rows.map fun row => if row.id == written.id then written.update row else row
  else rows ++ [written.newRow]

/-- What a write leaves of a row that is there, whoever has written it. -/
def updateTable (written : Written) (row : TableRow) : TableRow :=
  match written.settings with
  | none =>
    { row with
      token := written.token
      modifiedBy := .text written.modifiedBy
      updateAt := .int written.seconds }
  | some settings =>
    { row with
      settings := .text settings.encoding
      modifiedBy := .text written.modifiedBy
      updateAt := .int written.seconds }

/-- The rows of the table after a write. -/
def applyTable (written : Written) (rows : List TableRow) : List TableRow :=
  if rows.any (·.id == written.id) then
    rows.map fun row => if row.id == written.id then written.updateTable row else row
  else rows ++ [written.newRow.tableRow]

theorem updateTable_tableRow (written : Written) (row : WorkspaceRow) :
    written.updateTable row.tableRow = (written.update row).tableRow := by
  obtain ⟨id, token, settings, modifiedBy, seconds⟩ := written
  cases settings <;> rfl

theorem applyTable_tableRow (written : Written) (rows : List WorkspaceRow) :
    written.applyTable (rows.map WorkspaceRow.tableRow) =
      (written.apply rows).map WorkspaceRow.tableRow := by
  have present : (rows.map WorkspaceRow.tableRow).any (·.id == written.id) =
      rows.any (·.id == written.id) :=
    List.any_map
  rw [applyTable, apply, present]
  split
  · rw [List.map_map, List.map_map]
    refine List.map_congr_left fun row _ => ?_
    have same : (row.tableRow.id == written.id) = (row.id == written.id) := rfl
    rw [Function.comp_apply, Function.comp_apply, same]
    split
    · exact updateTable_tableRow written row
    · rfl
  · rw [List.map_append, List.map_singleton]

theorem updateTable_id (written : Written) (row : TableRow) :
    (written.updateTable row).id = row.id := by
  unfold updateTable
  split <;> rfl

-- Where ids are unique there is at most one row of an id
private theorem filter_id (rows : List TableRow) (unique : (rows.map (·.id)).Nodup) (id : Text) :
    rows.filter (·.id == id) = (rows.find? (·.id == id)).toList := by
  induction rows with
  | nil => rfl
  | cons row rows ih =>
    obtain ⟨new, unique⟩ := List.nodup_cons.mp unique
    rw [List.filter_cons, List.find?_cons]
    cases own : row.id == id with
    | false => exact ih unique
    | true =>
      have others : rows.filter (·.id == id) = [] := by
        rw [List.filter_eq_nil_iff]
        intro other isIn same
        exact new (List.mem_map.mpr
          ⟨other, isIn, (beq_iff_eq.mp same).trans (beq_iff_eq.mp own).symm⟩)
      rw [if_pos rfl, others]
      rfl

/-- Where ids are unique a write leaves one row of its id: the one that is there, changed, or else a
new one. -/
theorem filter_applyTable (written : Written) (rows : List TableRow)
    (unique : (rows.map (·.id)).Nodup) :
    (written.applyTable rows).filter (·.id == written.id) =
      [((rows.find? (·.id == written.id)).map written.updateTable).getD
        written.newRow.tableRow] := by
  have alone := filter_id rows unique written.id
  have present : rows.any (·.id == written.id) = (rows.find? (·.id == written.id)).isSome := by
    rw [Bool.eq_iff_iff, List.any_eq_true, List.find?_isSome]
  rw [applyTable, present]
  cases found : rows.find? (·.id == written.id) with
  | none =>
    rw [found] at alone
    have own : (written.newRow.tableRow.id == written.id) = true := beq_self_eq_true _
    rw [Option.isSome_none, if_neg Bool.false_ne_true, List.filter_append, alone,
      List.filter_singleton, own]
    rfl
  | some row =>
    rw [found] at alone
    have keeps (other : TableRow) : ((if other.id == written.id then written.updateTable other
        else other).id == written.id) = (other.id == written.id) := by
      split
      · rw [updateTable_id]
      · rfl
    have own := List.find?_some found
    simp only [Option.isSome_some, if_true, List.filter_map, Function.comp_def, keeps, alone,
      Option.toList_some, List.map_singleton, own, Option.map_some, Option.getD_some]

/-- Settings that are written where ids are unique leave one row of their id, with its token if it
had one. -/
theorem filter_applyTable_settings (written : Written) (settings : StoredSettings)
    (given : written.settings = some settings) (rows : List TableRow)
    (unique : (rows.map (·.id)).Nodup) :
    let token := ((rows.find? (·.id == written.id)).map (·.token)).getD written.token
    (written.applyTable rows).filter (·.id == written.id) =
      [WorkspaceRow.tableRow
        ⟨written.id, token, some settings, written.modifiedBy, written.seconds⟩] := by
  rw [filter_applyTable written rows unique]
  cases found : rows.find? (·.id == written.id) with
  | none =>
    simp only [Option.map_none, Option.getD_none, newRow, given]
  | some row =>
    have same := List.find?_some found
    have own : row.id = written.id := beq_iff_eq.mp same
    simp only [Option.map_some, Option.getD_some, updateTable, given, WorkspaceRow.tableRow, own,
      Option.elim_some]

/-- Whether the embedded database can keep what is written. -/
structure Storable (written : Written) : Prop where
  id : written.id.isEncodable = true
  token : written.token.isEncodable = true
  settings : ∀ settings ∈ written.settings, settings.encoding.isEncodable = true
  modifiedBy : written.modifiedBy.isEncodable = true
  seconds : Cell.fits written.seconds = true

end Written

/-! ## The database -/

/-- The database of a store whose table of workspaces holds given rows. -/
def holding (tablePrefix : Text) (rows : List WorkspaceRow) : Database :=
  let schema := Schema.withPrefix tablePrefix
  ⟨[⟨schema.workspaces, rows.map WorkspaceRow.cells⟩, ⟨schema.blocks, []⟩,
    ⟨schema.channelMembers, []⟩, ⟨schema.channels, []⟩]⟩

/-- No other table has the name of the table of workspaces, whatever it begins with. -/
theorem sameName_workspaces (tablePrefix : Text) (other : Table)
    (isOther : other ∈ [(Schema.withPrefix tablePrefix).blocks,
      (Schema.withPrefix tablePrefix).channelMembers, (Schema.withPrefix tablePrefix).channels]) :
    Database.sameName other.name (Schema.withPrefix tablePrefix).workspaces.name = false := by
  -- The prefix may be any text, so the names are told apart by their ends
  have lastTwo (t : Text) (name : Text) (long : 2 ≤ name.length) :
      ((Text.asciiLower (t ++ name)).reverse.take 2) = (Text.asciiLower name).reverse.take 2 := by
    rw [Text.asciiLower, List.map_append, List.reverse_append, List.take_append_of_le_length]
    · rfl
    · simpa using long
  rw [Database.sameName, beq_eq_false_iff_ne]
  intro same
  have tails := congrArg (fun t : Text => t.reverse.take 2) same
  dsimp only [Schema.withPrefix] at tails
  rw [lastTwo _ _ (by decide)] at tails
  simp only [List.mem_cons, List.not_mem_nil, or_false] at isOther
  rcases isOther with rfl | rfl | rfl <;>
    · dsimp only [Schema.withPrefix] at tails
      revert tails
      decide

private theorem sameName_others (tablePrefix : Text) :
    let schema := Schema.withPrefix tablePrefix
    Database.sameName schema.blocks.name schema.workspaces.name = false ∧
      Database.sameName schema.channelMembers.name schema.workspaces.name = false ∧
      Database.sameName schema.channels.name schema.workspaces.name = false :=
  ⟨sameName_workspaces tablePrefix _ (by simp), sameName_workspaces tablePrefix _ (by simp),
    sameName_workspaces tablePrefix _ (by simp)⟩

/-- A database with a table of workspaces that holds given rows, whatever else there is in it. -/
def Tabled (tablePrefix : Text) (rows : List TableRow) (database : Database) : Prop :=
  database.find (Schema.withPrefix tablePrefix).workspaces.name =
    .ok ⟨(Schema.withPrefix tablePrefix).workspaces, rows.map TableRow.cells⟩

private theorem sameName_self (name : Text) : Database.sameName name name = true :=
  beq_self_eq_true _

/-- A table that is there is found as what replaces it. -/
theorem Tabled.replace (tablePrefix : Text) (rows others : List TableRow) (database : Database)
    (tabled : Tabled tablePrefix rows database) :
    Tabled tablePrefix others (database.replace
      ⟨(Schema.withPrefix tablePrefix).workspaces, others.map TableRow.cells⟩) := by
  obtain ⟨tables⟩ := database
  let name := (Schema.withPrefix tablePrefix).workspaces.name
  -- The first table of the name is the one that is replaced, and those before have other names
  have renamed (stored : StoredTable) : Database.sameName
      (if Database.sameName stored.table.name name then
        (⟨(Schema.withPrefix tablePrefix).workspaces, others.map TableRow.cells⟩ : StoredTable)
      else stored).table.name name = Database.sameName stored.table.name name := by
    split
    next same => rw [same, sameName_self]
    next => rfl
  unfold Tabled Database.find at tabled ⊢
  split at tabled
  next stored found =>
    have same := List.find?_some found
    simp only [Database.replace, List.find?_map, Function.comp_def, renamed, name, found,
      Option.map_some, same, if_true]
  next => cases tabled

theorem tabled_holding (tablePrefix : Text) (rows : List WorkspaceRow) :
    Tabled tablePrefix (rows.map WorkspaceRow.tableRow) (holding tablePrefix rows) := by
  rw [Tabled, map_tableRow_cells]
  simp only [Database.find, holding, List.find?_cons, sameName_self]

theorem replace_workspaces (tablePrefix : Text) (rows others : List WorkspaceRow) :
    (holding tablePrefix rows).replace
      ⟨(Schema.withPrefix tablePrefix).workspaces, others.map WorkspaceRow.cells⟩ =
        holding tablePrefix others := by
  have same : Database.sameName (Schema.withPrefix tablePrefix).workspaces.name
      (Schema.withPrefix tablePrefix).workspaces.name = true := beq_self_eq_true _
  obtain ⟨blocks, members, channels⟩ := sameName_others tablePrefix
  simp only [Database.replace, holding, List.map_cons, List.map_nil, same, blocks, members,
    channels, if_true, Bool.false_eq_true, if_false]

private theorem createTable_fresh (database after : Database) (table : Table)
    (fresh : ∀ stored ∈ database.tables, Database.sameName stored.table.name table.name = false)
    (made : database.createTable table = .ok after) :
    after = ⟨database.tables ++ [⟨table, []⟩]⟩ := by
  have none : database.tables.any (fun stored =>
      Database.sameName stored.table.name table.name) = false :=
    List.any_eq_false.mpr fun stored member => by simp [fresh stored member]
  rw [Database.createTable, none, if_neg Bool.false_ne_true] at made
  obtain ⟨_, _, eq⟩ := (map_ok_iff _ _ _).mp made
  exact eq.symm

/-- Tables that have just been made hold nothing, and their names can be sent. -/
theorem create_withPrefix (tablePrefix : Text) (created : Database)
    (creation : Database.create .empty (Schema.withPrefix tablePrefix).tables = .ok created) :
    tablePrefix.isSendable = true ∧ created = holding tablePrefix [] := by
  obtain ⟨blocks, members, channels⟩ := sameName_others tablePrefix
  obtain ⟨_, inquiries, made⟩ := (bind_ok_iff _ _ _).mp creation
  constructor
  · -- Whether a table is there is asked by its name, so the name was sent
    obtain ⟨_, first, -⟩ := (bind_ok_iff _ _ _).mp inquiries
    have sendable := (Database.checkText_ok_iff _).mp first
    simp only [Database.inquiry, Text.isSendable_append, Bool.and_eq_true] at sendable
    have name := (isSendable_quoted .sqlite _).symm.trans sendable.1.2
    simp only [Schema.withPrefix, Text.isSendable_append, Bool.and_eq_true] at name
    exact name.1
  · have apart (a b : Text) (other : Database.sameName b a = false) :
        Database.sameName a b = false := (Database.sameName_comm a b).trans other
    obtain ⟨first, eq, made⟩ := (bind_ok_iff _ _ _).mp made
    obtain rfl := createTable_fresh _ first _ (by simp [Database.empty]) eq
    obtain ⟨second, eq, made⟩ := (bind_ok_iff _ _ _).mp made
    obtain rfl := createTable_fresh _ second _ (by simp [Database.empty, apart _ _ blocks]) eq
    obtain ⟨third, eq, made⟩ := (bind_ok_iff _ _ _).mp made
    obtain rfl := createTable_fresh _ third _ (by
      simp only [Database.empty, List.nil_append, List.cons_append, List.mem_cons,
        List.not_mem_nil, or_false, forall_eq_or_imp, forall_eq]
      exact ⟨apart _ _ members, rfl⟩) eq
    obtain ⟨fourth, eq, made⟩ := (bind_ok_iff _ _ _).mp made
    obtain rfl := createTable_fresh _ fourth _ (by
      simp only [Database.empty, List.nil_append, List.cons_append, List.mem_cons,
        List.not_mem_nil, or_false, forall_eq_or_imp, forall_eq]
      exact ⟨apart _ _ channels, rfl, rfl⟩) eq
    exact (Except.ok.inj made).symm

/-! ## Writing -/

-- The columns of the table of workspaces
private def idColumn : Column :=
  { name := "id", type := .varchar 36, isKey := true, nullable := false }

private def tokenColumn : Column :=
  { name := "signup_token", type := .varchar 100, nullable := false }

private def settingsColumn : Column := { name := "settings", type := .text }

private def modifiedByColumn : Column := { name := "modified_by", type := .varchar 36 }

private def updateAtColumn : Column := { name := "update_at", type := .bigint }

/-- The statement that writes. -/
def Written.upsert (tablePrefix : Text) (written : Written) : Upsert :=
  match written.settings with
  | none =>
    { table := (Schema.withPrefix tablePrefix).workspaces
      values :=
        [(idColumn, .text written.id), (tokenColumn, .text written.token),
          (modifiedByColumn, .text written.modifiedBy), (updateAtColumn, .int written.seconds)]
      updates := [tokenColumn, modifiedByColumn, updateAtColumn] }
  | some settings =>
    { table := (Schema.withPrefix tablePrefix).workspaces
      values :=
        [(idColumn, .text written.id), (tokenColumn, .text written.token),
          (settingsColumn, .text settings.encoding),
          (modifiedByColumn, .text written.modifiedBy), (updateAtColumn, .int written.seconds)]
      updates := [settingsColumn, modifiedByColumn, updateAtColumn] }

theorem tokenUpsert_eq (dialect : Dialect) (tablePrefix : Text) (workspace : Workspace)
    (seconds : Int) : tokenUpsert ⟨dialect, .withPrefix tablePrefix⟩ workspace seconds =
      .ok (.upsert (Written.upsert tablePrefix
        ⟨workspace.id, workspace.signupToken, none, workspace.modifiedBy, seconds⟩)) :=
  rfl

theorem settingsUpsert_eq (dialect : Dialect) (tablePrefix : Text) (workspace : Workspace)
    (token : Text) (settings : StoredSettings) (seconds : Int) :
    settingsUpsert ⟨dialect, .withPrefix tablePrefix⟩ workspace token settings.encoding seconds =
      .ok (.upsert (Written.upsert tablePrefix
        ⟨workspace.id, token, some settings, workspace.modifiedBy, seconds⟩)) :=
  rfl

private theorem checkText_upsert (tablePrefix : Text) (sendable : tablePrefix.isSendable = true)
    (written : Written) :
    Database.checkText (renderUpsert .sqlite (written.upsert tablePrefix)) = .ok () := by
  rw [Database.checkText_ok_iff]
  have table : (tablePrefix ++ Text.ofString "workspaces").isSendable = true := by
    rw [Text.isSendable_append, sendable]
    rfl
  have columns : ∀ column ∈ [idColumn, tokenColumn, settingsColumn, modifiedByColumn,
      updateAtColumn], (Text.ofString column.name).isSendable = true := by
    decide
  unfold Written.upsert
  split <;>
    · apply isSendable_upsert
      · exact table
      · exact columns
      all_goals
        simp only [List.mem_cons, List.not_mem_nil, or_false, forall_eq_or_imp, forall_eq]
          at columns ⊢
        simp only [columns, and_self]

/-- A write that a database takes was sent to it, with the name of its table. -/
theorem isSendable_of_runUpsert (tablePrefix : Text) (written : Written)
    (database after : Database)
    (upserted : database.runUpsert (written.upsert tablePrefix) = .ok after) :
    tablePrefix.isSendable = true := by
  obtain ⟨_, prepared, -⟩ := (bind_ok_iff _ _ _).mp upserted
  obtain ⟨_, sent, -⟩ := (bind_ok_iff _ _ _).mp prepared
  have sendable := (Database.checkText_ok_iff _).mp sent
  have table : (written.upsert tablePrefix).table.name =
      tablePrefix ++ Text.ofString "workspaces" := by
    unfold Written.upsert
    split <;> rfl
  simp only [renderUpsert, renderInsert, Text.isSendable_append, Bool.and_eq_true,
    isSendable_identifier, table] at sendable
  exact sendable.1.1.1.1.2.1

-- The cells that a write passes
private def Written.passed (written : Written) : List Cell :=
  match written.settings with
  | none => [.text written.id, .text written.token, .text written.modifiedBy, .int written.seconds]
  | some settings =>
    [.text written.id, .text written.token, .text settings.encoding, .text written.modifiedBy,
      .int written.seconds]

private theorem bind_written (tablePrefix : Text) (written : Written) (cells : List Cell) :
    Database.bind 1 ((written.upsert tablePrefix).values.map (·.2)) = .ok cells ↔
      written.Storable ∧ cells = written.passed := by
  obtain ⟨id, token, settings, modifiedBy, seconds⟩ := written
  cases settings with
  | none =>
    simp only [Written.upsert, List.map_cons, List.map_nil, Database.bind_text_ok_iff,
      Database.bind_int_ok_iff, Database.bind_nil_ok_iff]
    constructor
    · rintro ⟨id, _, ⟨token, _, ⟨modifiedBy, _, ⟨seconds, _, rfl, rfl⟩, rfl⟩, rfl⟩, rfl⟩
      exact ⟨⟨id, token, by simp, modifiedBy, seconds⟩, rfl⟩
    · rintro ⟨⟨id, token, -, modifiedBy, seconds⟩, rfl⟩
      exact ⟨id, _, ⟨token, _, ⟨modifiedBy, _, ⟨seconds, _, rfl, rfl⟩, rfl⟩, rfl⟩, rfl⟩
  | some settings =>
    simp only [Written.upsert, List.map_cons, List.map_nil, Database.bind_text_ok_iff,
      Database.bind_int_ok_iff, Database.bind_nil_ok_iff]
    constructor
    · rintro ⟨id, _, ⟨token, _, ⟨encoding, _, ⟨modifiedBy, _, ⟨seconds, _, rfl, rfl⟩, rfl⟩,
        rfl⟩, rfl⟩, rfl⟩
      exact ⟨⟨id, token, by simpa using encoding, modifiedBy, seconds⟩, rfl⟩
    · rintro ⟨⟨id, token, encoding, modifiedBy, seconds⟩, rfl⟩
      exact ⟨id, _, ⟨token, _, ⟨encoding settings rfl, _, ⟨modifiedBy, _,
        ⟨seconds, _, rfl, rfl⟩, rfl⟩, rfl⟩, rfl⟩, rfl⟩

private theorem rowOf_passed (tablePrefix : Text) (written : Written) :
    (Schema.withPrefix tablePrefix).workspaces.rowOf
      (((written.upsert tablePrefix).values.map (·.1)).zip written.passed) =
        written.newRow.cells := by
  obtain ⟨id, token, settings, modifiedBy, seconds⟩ := written
  cases settings <;> rfl

-- The row that a write asks for is that of a new workspace
private theorem prepareUpsert_ok_iff (tablePrefix : Text) (sendable : tablePrefix.isSendable = true)
    (rows : List TableRow) (database : Database) (tabled : Tabled tablePrefix rows database)
    (written : Written) (prepared : StoredTable × Row) :
    database.prepareUpsert (written.upsert tablePrefix) = .ok prepared ↔
      written.Storable ∧ prepared =
        (⟨(Schema.withPrefix tablePrefix).workspaces, rows.map TableRow.cells⟩,
          written.newRow.cells) := by
  have table : (written.upsert tablePrefix).table = (Schema.withPrefix tablePrefix).workspaces := by
    unfold Written.upsert
    split <;> rfl
  rw [Tabled, ← table] at tabled
  simp only [Database.prepareUpsert, checkText_upsert tablePrefix sendable written, tabled,
    bind_ok_iff, bind_written]
  constructor
  · rintro ⟨_, _, _, eq, _, ⟨storable, rfl⟩, same⟩
    obtain rfl := Except.ok.inj eq
    rw [← Except.ok.inj same, ← rowOf_passed tablePrefix written, table]
    exact ⟨storable, rfl⟩
  · rintro ⟨storable, rfl⟩
    refine ⟨(), trivial, _, rfl, _, ⟨storable, rfl⟩, ?_⟩
    rw [← rowOf_passed tablePrefix written, table]

private theorem keyOf_cells (tablePrefix : Text) (row : TableRow) :
    (Schema.withPrefix tablePrefix).workspaces.keyOf row.cells = [.text row.id] := rfl

private theorem nullFault?_cells (tablePrefix : Text) (written : Written) :
    (Schema.withPrefix tablePrefix).workspaces.nullFault? written.newRow.tableRow.cells = none := by
  obtain ⟨id, token, settings, modifiedBy, seconds⟩ := written
  rfl

private theorem overwrite_cells (tablePrefix : Text) (written : Written) (row : TableRow) :
    (Schema.withPrefix tablePrefix).workspaces.overwrite (written.upsert tablePrefix).updates
      row.cells written.newRow.cells = (written.updateTable row).cells := by
  obtain ⟨id, token, settings, modifiedBy, seconds⟩ := written
  cases settings <;> rfl

-- The stored table after a write
private theorem upsert_cells (tablePrefix : Text) (rows : List TableRow) (written : Written) :
    (StoredTable.mk (Schema.withPrefix tablePrefix).workspaces
      (rows.map TableRow.cells)).upsert written.newRow.cells
        (written.upsert tablePrefix).updates =
      .ok ⟨(Schema.withPrefix tablePrefix).workspaces,
        (written.applyTable rows).map TableRow.cells⟩ := by
  have sameKey (row : TableRow) :
      ((Schema.withPrefix tablePrefix).workspaces.keyOf row.cells ==
        (Schema.withPrefix tablePrefix).workspaces.keyOf written.newRow.tableRow.cells) =
          (row.id == written.id) := by
    rw [keyOf_cells, keyOf_cells, Bool.eq_iff_iff]
    simp [Written.newRow, WorkspaceRow.tableRow]
  have new : written.newRow.cells = written.newRow.tableRow.cells := rfl
  have present : (StoredTable.mk (Schema.withPrefix tablePrefix).workspaces
      (rows.map TableRow.cells)).hasKeyOf written.newRow.tableRow.cells =
        rows.any (·.id == written.id) := by
    simp only [StoredTable.hasKeyOf, List.any_map]
    exact congrArg rows.any (funext sameKey)
  simp only [StoredTable.upsert, nullFault?_cells, new, present, Written.applyTable]
  split
  · -- Each row with the key of the write is overwritten, and no other
    simp only [List.map_map]
    congr 2
    apply List.map_congr_left
    intro row _
    simp only [Function.comp_apply, sameKey]
    split
    · exact overwrite_cells tablePrefix written row
    · rfl
  · simp

/-- A database with a table of workspaces takes a write if it can keep what is written, and then the
written rows are in the table. -/
theorem Tabled.runUpsert_ok_iff (tablePrefix : Text) (sendable : tablePrefix.isSendable = true)
    (rows : List TableRow) (database : Database) (tabled : Tabled tablePrefix rows database)
    (written : Written) (after : Database) :
    database.runUpsert (written.upsert tablePrefix) = .ok after ↔
      written.Storable ∧ after = database.replace
        ⟨(Schema.withPrefix tablePrefix).workspaces,
          (written.applyTable rows).map TableRow.cells⟩ := by
  simp only [Database.runUpsert, bind_ok_iff,
    prepareUpsert_ok_iff tablePrefix sendable rows database tabled]
  constructor
  · rintro ⟨_, ⟨storable, rfl⟩, stored, eq, same⟩
    rw [upsert_cells] at eq
    obtain rfl := Except.ok.inj eq
    exact ⟨storable, (Except.ok.inj same).symm⟩
  · rintro ⟨storable, rfl⟩
    exact ⟨_, ⟨storable, rfl⟩, _, upsert_cells tablePrefix rows written, rfl⟩

/-- The database of a store takes a write if it can keep what is written, and then holds the written
rows. -/
theorem runUpsert_ok_iff (tablePrefix : Text) (sendable : tablePrefix.isSendable = true)
    (rows : List WorkspaceRow) (written : Written) (after : Database) :
    (holding tablePrefix rows).runUpsert (written.upsert tablePrefix) = .ok after ↔
      written.Storable ∧ after = holding tablePrefix (written.apply rows) := by
  rw [Tabled.runUpsert_ok_iff tablePrefix sendable _ _ (tabled_holding tablePrefix rows),
    Written.applyTable_tableRow, map_tableRow_cells, replace_workspaces]

end Store

end Tenancy
