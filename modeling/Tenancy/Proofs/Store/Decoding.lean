import Tenancy.Proofs.Json.LongInteger
import Tenancy.Proofs.Store.Reading

/-!
# Decoding stored settings

Whoever has written a row, its settings may be null, any text or any octets. What is no document is
logged and becomes the store's own fault. Octets that encode no text and integers of too many digits
are the two other ways in which settings are refused, and they are passed on as they are.
-/
namespace Tenancy.Store

/-- Settings as a row may hold them. -/
inductive KeptSettings where
  | null
  | text (t : Text)
  | octets (data : Octets)

namespace KeptSettings

def cell : KeptSettings → Cell
  | .null => .null
  | .text t => .text t
  | .octets data => .blob data

/-- The text of settings, if they encode one; nothing is an empty object. -/
def decoded : KeptSettings → Except DecodeFault Text
  | .null => .ok "\x7b\x7d"
  | .text t => .ok t
  | .octets data => Json.decodeOctets data

/-- The document of settings, or why they are not read. -/
def read : KeptSettings → Except Json.ReadFault Json
  | .null => .ok (.object [])
  | .text t => Json.read t
  | .octets data => Json.readOctets data

end KeptSettings

/-- A row of the table of workspaces with any settings. -/
structure KeptRow where
  id : Text
  token : Text
  settings : KeptSettings
  modifiedBy : Option Text
  updateAt : Option Int

namespace KeptRow

def tableRow (row : KeptRow) : TableRow :=
  ⟨row.id, row.token, row.settings.cell, .optional row.modifiedBy, row.updateAt.elim .null .int⟩

/-- The workspace of a row whose settings are a document. -/
def workspace (row : KeptRow) (document : Json) : Workspace :=
  { id := row.id
    signupToken := row.token
    settings := document.toValue
    modifiedBy := row.modifiedBy.getD []
    updateAt := row.updateAt.getD 0 }

/-- The record of settings that are no document. -/
def record (row : KeptRow) : LogRecord :=
  ⟨.error, "ERROR get_workspace settings json decode",
    [("db_type", .text "sqlite3"), ("workspace_id", .text row.id)], some "JSONDecodeError"⟩

/-- What looking for a row comes to by what its settings are read as. What is no document is
logged. -/
def settled {α : Type} (row : KeptRow) (world : World Database) (give : Json → α) :
    Except Json.ReadFault Json → Except Fault α × World Database
  | .ok document => (.ok (give document), world)
  | .error (.malformed cause) =>
    (.error (.unreadableSettings row.id cause), { world with log := row.record :: world.log })
  | .error fault => (.error (.unreadable fault), world)

end KeptRow

/-- Whether a database keeps a row in its table of workspaces, whatever else it keeps: no other row
of the table has the id of this one. -/
structure Keeps (tablePrefix : Text) (row : KeptRow) (database : Database) : Prop where
  sendable : tablePrefix.isSendable = true
  encodable : row.id.isEncodable = true
  alone : ∃ before behind, database.find (Schema.withPrefix tablePrefix).workspaces.name =
      .ok ⟨(Schema.withPrefix tablePrefix).workspaces, before ++ row.tableRow.cells :: behind⟩ ∧
    ∀ other ∈ before ++ behind, (Database.cellOf (Schema.withPrefix tablePrefix).workspaces other
      "id").asText ≠ .text row.id

section
variable (tablePrefix : Text) (row : KeptRow) (world : World Database)
  (keeps : Keeps tablePrefix row world.database)
include keeps

private theorem run_keeps :
    Database.run .sqlite ((embedded tablePrefix).workspaceQuery (.text row.id)) world.database =
      (.ok ⟨[row.tableRow.shown], none⟩, world.database) := by
  obtain ⟨before, behind, found, others⟩ := keeps.alone
  rw [run_workspaceQuery_rows tablePrefix keeps.sendable _ _ found row.id keeps.encodable]
  have absent (rows : List Row) (apart : ∀ other ∈ rows, (Database.cellOf
      (Schema.withPrefix tablePrefix).workspaces other "id").asText ≠ .text row.id) :
      rows.filter (fun other => (Database.cellOf (Schema.withPrefix tablePrefix).workspaces other
        "id").asText == .text row.id) = [] := by
    rw [List.filter_eq_nil_iff]
    intro other isIn same
    exact apart other isIn (beq_iff_eq.mp same)
  have own : ((Database.cellOf (Schema.withPrefix tablePrefix).workspaces row.tableRow.cells
      "id").asText == .text row.id) = true := beq_self_eq_true _
  rw [List.filter_append, List.filter_cons, own, if_pos rfl,
    absent before fun other isIn => others other (List.mem_append_left _ isIn),
    absent behind fun other isIn => others other (List.mem_append_right _ isIn)]
  rfl

omit keeps in
-- What is read of a row is the document of its settings
private theorem readSettings_kept (settings : KeptSettings) :
    readSettings (if settings.cell = .null then .text "\x7b\x7d" else settings.cell.toValue) =
      settings.read.mapError .unreadable := by
  cases settings with
  | null => rfl
  | text t => rfl
  | octets data => rfl

omit keeps in
private theorem decodeSettings_result (stored : Value) (outcome : Except Json.ReadFault Json)
    (read : readSettings stored = outcome.mapError .unreadable) :
    ((embedded tablePrefix).decodeSettings (.text row.id) stored : Step Database Json).result
        world = row.settled world id outcome := by
  unfold decodeSettings
  rw [read]
  cases outcome with
  | ok document => rfl
  | error fault =>
    cases fault with
    | malformed cause => rfl
    | integerTooLong digits => rfl
    | undecodable cause => rfl

/-- Reading the workspace of a row comes to what its settings are read as. -/
theorem getWorkspace_kept :
    ((embedded tablePrefix).getWorkspace (.text row.id)).result world =
      row.settled world row.workspace row.settings.read := by
  have asked := run_keeps tablePrefix row world keeps
  have decoded := decodeSettings_result tablePrefix row world _ _ (readSettings_kept row.settings)
  have modifiedBy : orElse (Cell.optional row.modifiedBy).toValue (.text []) =
      .text (row.modifiedBy.getD []) := by
    cases row.modifiedBy with
    | none => rfl
    | some t => exact orElse_text t
  have updateAt : orElse (row.updateAt.elim Cell.null .int).toValue (.int 0) =
      .int (row.updateAt.getD 0) := by
    cases row.updateAt with
    | none => rfl
    | some n => exact orElse_int n
  rw [getWorkspace, Step.result_bind_ok _ _ _ _ _ (connect_embedded .reading world),
    Step.result_bind_ok _ _ _ _ _ (execute_embedded world (embedded tablePrefix).dialect _ _ asked)]
  refine (Step.result_bind_ok _ _ _ _ (some row.tableRow.shown) rfl).trans ?_
  cases read : row.settings.read with
  | ok document =>
    rw [read] at decoded
    refine (Step.result_bind_ok _ _ _ _ document decoded).trans ?_
    rw [KeptRow.tableRow, modifiedBy, updateAt]
    rfl
  | error fault =>
    rw [read] at decoded
    cases fault with
    | malformed cause => exact Step.result_bind_error _ _ _ _ _ decoded
    | integerTooLong digits => exact Step.result_bind_error _ _ _ _ _ decoded
    | undecodable cause => exact Step.result_bind_error _ _ _ _ _ decoded

end

/-! ## Settings that are texts -/

/-- What the settings of a row denote, if they are a document; nothing denotes an empty object. -/
def DenoteSettings (settings : Option Text) (document : Json) : Prop :=
  settings.elim (document = .object []) (Json.IsDocument .unlimited · document)

private theorem read_settings (settings : Option Text)
    (short : ∀ t ∈ settings, ¬Json.HasLongInteger t) :
    (∀ document, DenoteSettings settings document →
      (settings.elim .null .text : KeptSettings).read = .ok document) ∧
    ((∀ document, ¬DenoteSettings settings document) →
      ∃ cause, (settings.elim .null .text : KeptSettings).read = .error (.malformed cause)) := by
  cases settings with
  | none =>
    refine ⟨fun document denoted => ?_, fun none => ?_⟩
    · exact congrArg Except.ok denoted.symm
    · exact absurd rfl (none (.object []))
  | some t => exact Json.read_of_short t (short t rfl)

/-- A workspace is given exactly if its settings are nothing or a text of the grammar, and then with
what they denote. Otherwise the store's own fault is raised, and one record is written. In no case
does the database change. -/
theorem getWorkspace_of_text (tablePrefix id token : Text) (settings modifiedBy : Option Text)
    (updateAt : Option Int) (world : World Database)
    (keeps : Keeps tablePrefix ⟨id, token, settings.elim .null .text, modifiedBy, updateAt⟩
      world.database)
    (short : ∀ t ∈ settings, ¬Json.HasLongInteger t) :
    let outcome := ((embedded tablePrefix).getWorkspace (.text id)).result world
    ((∃ workspace, outcome.1 = .ok workspace) ↔ ∃ document, DenoteSettings settings document) ∧
    (∀ document, DenoteSettings settings document →
      outcome = (.ok { id := id
                       signupToken := token
                       settings := document.toValue
                       modifiedBy := modifiedBy.getD []
                       updateAt := updateAt.getD 0 }, world)) ∧
    ((∀ document, ¬DenoteSettings settings document) →
      ∃ fault : Fault, fault.report.kind = "DeserializationError" ∧
        outcome = (.error fault, { world with
          log := ⟨.error, "ERROR get_workspace settings json decode",
            [("db_type", .text "sqlite3"), ("workspace_id", .text id)], some "JSONDecodeError"⟩
              :: world.log })) := by
  intro outcome
  let row : KeptRow := ⟨id, token, settings.elim .null .text, modifiedBy, updateAt⟩
  have kept : outcome = row.settled world row.workspace row.settings.read :=
    getWorkspace_kept tablePrefix row world keeps
  obtain ⟨valid, invalid⟩ := read_settings settings short
  have given : ∀ document, DenoteSettings settings document →
      outcome = (.ok (row.workspace document), world) := by
    intro document denoted
    rw [kept, valid document denoted, KeptRow.settled]
  have refused : (∀ document, ¬DenoteSettings settings document) → ∃ cause,
      outcome = (.error (.unreadableSettings id cause),
        { world with log := row.record :: world.log }) := by
    intro none
    obtain ⟨cause, read⟩ := invalid none
    exact ⟨cause, by rw [kept, read, KeptRow.settled]⟩
  refine ⟨⟨?_, ?_⟩, given, ?_⟩
  · rintro ⟨workspace, success⟩
    by_contra none
    obtain ⟨cause, failed⟩ := refused (not_exists.mp none)
    rw [failed] at success
    cases success
  · rintro ⟨document, denoted⟩
    exact ⟨_, congrArg Prod.fst (given document denoted)⟩
  · intro none
    obtain ⟨cause, failed⟩ := refused none
    exact ⟨_, rfl, failed⟩

/-- A table with one row keeps it. -/
theorem keeps_alone (tablePrefix : Text) (row : KeptRow) (sendable : tablePrefix.isSendable = true)
    (encodable : row.id.isEncodable = true) : Keeps tablePrefix row
      ⟨[⟨(Schema.withPrefix tablePrefix).workspaces, [row.tableRow.cells]⟩]⟩ where
  sendable := sendable
  encodable := encodable
  alone := by
    have same : Database.sameName (Schema.withPrefix tablePrefix).workspaces.name
        (Schema.withPrefix tablePrefix).workspaces.name = true := beq_self_eq_true _
    refine ⟨[], [], ?_, by simp⟩
    rw [Database.find, List.find?_cons, same]
    rfl

/-- Of two values for a name the last counts, and a number need not be finite. -/
theorem getWorkspace_of_text_repeated :
    let row : KeptRow := ⟨"w", "t", .text "\x7b\"a\":[],\"a\":NaN\x7d", none, none⟩
    let world : World Database := ⟨⟨[], 0⟩, .int 0, [],
      ⟨[⟨(Schema.withPrefix []).workspaces, [row.tableRow.cells]⟩]⟩⟩
    ((embedded []).getWorkspace (.text "w")).result world =
      (.ok { id := "w", signupToken := "t", settings := .dict [(.text "a", .float .nan)] },
        world) := by
  intro row world
  have read : Json.read "\x7b\"a\":[],\"a\":NaN\x7d" =
      .ok (.object [(Text.ofString "a", .number .nan)]) := by
    cbv
  have denoted : DenoteSettings (some "\x7b\"a\":[],\"a\":NaN\x7d")
      (.object [(Text.ofString "a", .number .nan)]) :=
    (Json.isDocument_of_read _ _ read).unlimited
  have keeps : Keeps [] row world.database := keeps_alone [] row rfl (by decide)
  have short : ∀ t ∈ some (Text.ofString "\x7b\"a\":[],\"a\":NaN\x7d"),
      ¬Json.HasLongInteger t := by
    rintro t isText
    obtain rfl := Option.some.inj isText
    exact Json.not_hasLongInteger _ (by decide)
  exact (getWorkspace_of_text [] "w" "t" (some "\x7b\"a\":[],\"a\":NaN\x7d") none none world keeps
    short).2.1 _ denoted

/-! ## Any settings -/

private theorem read_cases (t : Text) (outcome : Except Json.ReadFault Json)
    (refused : ∀ fault, outcome = .error fault → (∃ cause, fault = .malformed cause) ∨
      ∃ digits, fault = .integerTooLong digits ∧ Json.HasLongInteger t) :
    (∃ document, outcome = .ok document) ∨ (∃ cause, outcome = .error (.malformed cause)) ∨
      Json.HasLongInteger t ∧ ∃ digits, outcome = .error (.integerTooLong digits) := by
  cases outcome with
  | ok document => exact .inl ⟨document, rfl⟩
  | error fault =>
    rcases refused fault rfl with ⟨cause, rfl⟩ | ⟨digits, rfl, long⟩
    · exact .inr (.inl ⟨cause, rfl⟩)
    · exact .inr (.inr ⟨long, digits, rfl⟩)

-- The three ways in which settings that encode a text are read
private theorem read_decoded (settings : KeptSettings) (t : Text)
    (decoded : settings.decoded = .ok t) :
    (∃ document, settings.read = .ok document) ∨
      (∃ cause, settings.read = .error (.malformed cause)) ∨
      Json.HasLongInteger t ∧ ∃ digits, settings.read = .error (.integerTooLong digits) := by
  cases settings with
  | null => exact .inl ⟨.object [], rfl⟩
  | text s =>
    obtain rfl := Except.ok.inj decoded
    exact read_cases s _ (Json.read_error s)
  | octets data =>
    rw [KeptSettings.decoded] at decoded
    rw [KeptSettings.read, Json.readOctets, decoded]
    exact read_cases t _ (Json.readDecoded_error t)

private theorem read_undecodable (settings : KeptSettings) (cause : DecodeFault)
    (undecodable : settings.decoded = .error cause) :
    settings.read = .error (.undecodable cause) := by
  cases settings with
  | null => cases undecodable
  | text s => cases undecodable
  | octets data =>
    rw [KeptSettings.decoded] at undecodable
    rw [KeptSettings.read, Json.readOctets, undecodable]

/-- Octets that encode no text and integers of too many digits are passed on under their own names,
and nothing is logged. Otherwise a workspace is given, or one record is written and the store's own
fault is raised. -/
theorem getWorkspace_of_any (tablePrefix : Text) (row : KeptRow) (world : World Database)
    (keeps : Keeps tablePrefix row world.database) :
    let outcome := ((embedded tablePrefix).getWorkspace (.text row.id)).result world
    (∀ cause, row.settings.decoded = .error cause →
      ∃ fault : Fault, fault.report.kind = "UnicodeDecodeError" ∧
        outcome = (.error fault, world)) ∧
    ∀ t, row.settings.decoded = .ok t →
      (∃ document, outcome = (.ok (row.workspace document), world)) ∨
      (∃ fault : Fault, fault.report.kind = "DeserializationError" ∧
        outcome = (.error fault, { world with log := row.record :: world.log })) ∨
      Json.HasLongInteger t ∧ ∃ fault : Fault, fault.report.kind = "ValueError" ∧
        outcome = (.error fault, world) := by
  intro outcome
  have kept : outcome = row.settled world row.workspace row.settings.read :=
    getWorkspace_kept tablePrefix row world keeps
  constructor
  · intro cause undecodable
    have read := read_undecodable row.settings cause undecodable
    refine ⟨.unreadable (.undecodable cause), rfl, ?_⟩
    rw [kept, read]
    rfl
  · intro t decoded
    rcases read_decoded row.settings t decoded with ⟨document, read⟩ | ⟨cause, read⟩ |
      ⟨long, digits, read⟩
    · left
      refine ⟨document, ?_⟩
      rw [kept, read]
      rfl
    · right; left
      refine ⟨.unreadableSettings row.id cause, rfl, ?_⟩
      rw [kept, read]
      rfl
    · right; right
      refine ⟨long, .unreadable (.integerTooLong digits), rfl, ?_⟩
      rw [kept, read]
      rfl

/-- A unit of UTF-16 that is cut off encodes no text. -/
theorem getWorkspace_of_any_cut :
    let row : KeptRow := ⟨"w", "t", .octets [0xfe, 0xff, 0x7b], some "me", some 5⟩
    let world : World Database := ⟨⟨[], 0⟩, .int 0, [],
      ⟨[⟨(Schema.withPrefix []).workspaces, [row.tableRow.cells]⟩]⟩⟩
    ∃ fault : Fault, fault.report.kind = "UnicodeDecodeError" ∧
      ((embedded []).getWorkspace (.text "w")).result world = (.error fault, world) := by
  intro row world
  have keeps : Keeps [] row world.database := keeps_alone [] row rfl (by decide)
  have undecodable : row.settings.decoded = .error ⟨.utf16 .bigEndian, 2, [0x7b], .truncated⟩ :=
    rfl
  exact (getWorkspace_of_any [] row world keeps).1 _ undecodable

/-- An octet that starts no character of UTF-8 is refused under another name than the store's own,
and nothing is logged. -/
theorem undecodable_settings_escape :
    let row : KeptRow := ⟨"w", "tok", .octets [0xff], some "me", some 5⟩
    let world : World Database := ⟨⟨[], 0⟩, .int 0, [],
      ⟨[⟨(Schema.withPrefix []).workspaces, [row.tableRow.cells]⟩]⟩⟩
    Keeps [] row world.database ∧
      ∃ fault : Fault, fault.report.kind ≠ "DeserializationError" ∧
        ((embedded []).getWorkspace (.text "w")).result world = (.error fault, world) := by
  intro row world
  have keeps : Keeps [] row world.database := keeps_alone [] row rfl (by decide)
  have read : row.settings.read = .error (.undecodable ⟨.utf8, 0, [0xff], .invalidStart⟩) := rfl
  refine ⟨keeps, .unreadable (.undecodable ⟨.utf8, 0, [0xff], .invalidStart⟩), by decide, ?_⟩
  refine (getWorkspace_kept [] row world keeps).trans ?_
  rw [read]
  rfl

end Tenancy.Store
