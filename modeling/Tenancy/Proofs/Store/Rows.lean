import Mathlib.Data.List.Forall2
import Tenancy.Proofs.Store.Step

/-!
# Rows of a listing

A row holds an entry if it has three elements and each of them fits its field. Rows are decoded from
the front. Either all of them hold entries and give them in their order, or the first that holds
none ends the decoding with one record, and what stands behind it makes no difference.

A fault shows the elements of its row. That is said only of rows whose integers are no longer than
the longest that is ever converted to text; no database has longer ones.
-/
namespace Tenancy

namespace Value

mutual

/-- Whether the integers of a value are short enough to be written. -/
def isShort : Value → Bool
  | .int n => !Numeral.isTooLong n
  | .list items => areShort items
  | .tuple items => areShort items
  | .set items => areShort items
  | .dict entries => haveShort entries
  | _ => true

/-- Whether the integers of elements are short enough. -/
def areShort : List Value → Bool
  | [] => true
  | item :: rest => isShort item && areShort rest

/-- Whether the integers of entries are short enough, those of their keys among them. -/
def haveShort : List (Value × Value) → Bool
  | [] => true
  | (key, value) :: rest => isShort key && isShort value && haveShort rest

end

end Value

namespace UserWorkspace

/-- Whether the elements of a row are those of an entry: its id, its title and its number of
boards. -/
def IsHeldBy (row : Value) (entry : UserWorkspace) : Prop :=
  ∃ id title boardCount, row.elements? = some [id, title, boardCount] ∧
    id.asText = .ok entry.id ∧ title.asText = .ok entry.title ∧
      boardCount.asInt = .ok entry.boardCount

/-- The fault of a row that holds no entry. It shows the elements, if the row has any to show. -/
def rowFault (row : Value) : Fault :=
  match row.elements? with
  | some elements => .unexpectedRow (Value.tuple elements).display
  | none => .notIterable row.typeName

/-! ## One row -/

private theorem ofElements_three (id title boardCount : Value) (entry : UserWorkspace) :
    ofElements [id, title, boardCount] = .ok entry ↔
      id.asText = .ok entry.id ∧ title.asText = .ok entry.title ∧
        boardCount.asInt = .ok entry.boardCount := by
  -- Every field is there, so each is checked
  have first : Fields.get? "id" [("id", id), ("title", title), ("board_count", boardCount)] =
      some id := rfl
  have second : Fields.get? "title" [("id", id), ("title", title), ("board_count", boardCount)] =
      some title := rfl
  have third : Fields.get? "board_count"
      [("id", id), ("title", title), ("board_count", boardCount)] = some boardCount := rfl
  obtain ⟨entryId, entryTitle, entryCount⟩ := entry
  simp only [ofElements, ofFields, Fields.optional, Fields.require, first, second, third]
  cases id.asText <;> cases title.asText <;> cases boardCount.asInt <;> simp

theorem ofElements_ok_iff (elements : List Value) (entry : UserWorkspace) :
    ofElements elements = .ok entry ↔ ∃ id title boardCount, elements = [id, title, boardCount] ∧
      id.asText = .ok entry.id ∧ title.asText = .ok entry.title ∧
        boardCount.asInt = .ok entry.boardCount := by
  match elements with
  | [id, title, boardCount] =>
    rw [ofElements_three]
    constructor
    · exact fun fits => ⟨id, title, boardCount, rfl, fits⟩
    · rintro ⟨_, _, _, ⟨⟩, fits⟩
      exact fits
  | [] | [_] | [_, _] | _ :: _ :: _ :: _ :: _ => simp [ofElements]

/-- A row gives an entry exactly if it holds one. -/
theorem ofRow_ok_iff (row : Value) (entry : UserWorkspace) :
    ofRow row = .ok entry ↔ IsHeldBy row entry := by
  rw [ofRow, IsHeldBy]
  cases row.elements? with
  | none => simp
  | some elements =>
    simp only [Option.some.injEq, ← ofElements_ok_iff]
    cases ofElements elements <;> simp

theorem isHeldBy_tuple (elements : List Value) (entry : UserWorkspace) :
    IsHeldBy (.tuple elements) entry ↔ ofElements elements = .ok entry := by
  rw [ofElements_ok_iff, IsHeldBy, Value.elements?]
  simp only [Option.some.injEq]

theorem ofRow_error (row : Value) (bad : ∀ entry, ¬IsHeldBy row entry) :
    ∃ cause, ofRow row = .error (cause, rowFault row) := by
  cases decoded : ofRow row with
  | ok entry => exact absurd ((ofRow_ok_iff row entry).mp decoded) (bad entry)
  | error faults =>
    refine ⟨faults.1, ?_⟩
    rw [ofRow] at decoded
    rw [rowFault]
    split at decoded
    next none =>
      rw [none, ← Except.error.inj decoded]
    next elements shown =>
      split at decoded
      next => cases decoded
      next => rw [shown, ← Except.error.inj decoded]

/-- What a fault of a row says. -/
theorem rowFault_report (row : Value) :
    (∀ elements, row.elements? = some elements → Value.areShort elements = true →
      (rowFault row).report = .of "DecodingError"
        ("Unexpected user workspace row: " ++ (Value.tuple elements).display)) ∧
    (row.elements? = none → (rowFault row).report =
      .of "TypeError" ("'" ++ Text.ofString row.typeName ++ "' object is not iterable")) := by
  rw [rowFault]
  constructor
  · intro elements shown _
    rw [shown]
    rfl
  · intro none
    rw [none]
    rfl

end UserWorkspace

open UserWorkspace

/-! ## Several rows -/

section
variable {δ : Type} (context : List (String × Value)) (world : World δ)

theorem decodeRows_cons (row : Value) (rows : List Value) (entry : UserWorkspace)
    (held : IsHeldBy row entry) : (decodeRows context (row :: rows) : Step δ _) = do
      let entries ← decodeRows context rows
      return entry :: entries := by
  rw [decodeRows, (ofRow_ok_iff row entry).mpr held]

omit world in
/-- A row without an entry is logged and ends the decoding. -/
theorem decodeRows_bad (row : Value) (bad : ∀ entry, ¬IsHeldBy row entry) :
    ∃ kind, ∀ (rows : List Value) (world : World δ),
      (decodeRows context (row :: rows)).result world = (.error (rowFault row), { world with
        log := ⟨.error, "ERROR decoding user workspace row", context, some kind⟩
          :: world.log }) := by
  obtain ⟨cause, failed⟩ := ofRow_error row bad
  refine ⟨cause.report.kind, fun rows world => ?_⟩
  rw [decodeRows, failed]
  rfl

/-- Rows that all hold entries give them, in order. -/
theorem decodeRows_ok (rows : List Value) (entries : List UserWorkspace)
    (held : List.Forall₂ IsHeldBy rows entries) :
    (decodeRows context rows).result world = (.ok entries, world) := by
  induction held with
  | nil => rfl
  | cons first _ ih =>
    rw [decodeRows_cons context _ _ _ first]
    exact Step.result_bind_ok _ _ _ _ _ ih

/-- Rows are decoded as the first part of them and then the rest. -/
theorem decodeRows_append (rows more : List Value) :
    (decodeRows context (rows ++ more)).result world = (do
      let entries ← decodeRows context rows
      let others ← decodeRows context more
      return entries ++ others : Step δ _).result world := by
  induction rows with
  | nil => simp [decodeRows]
  | cons row rows ih =>
    by_cases held : ∃ entry, IsHeldBy row entry
    · obtain ⟨entry, held⟩ := held
      simp only [List.cons_append, decodeRows_cons context _ _ entry held, bind_assoc, pure_bind]
      rw [Step.result_bind, ih, ← Step.result_bind]
      simp only [bind_assoc, pure_bind]
    · obtain ⟨kind, failed⟩ := decodeRows_bad (δ := δ) context row (not_exists.mp held)
      rw [List.cons_append, failed]
      exact (Step.result_bind_error _ _ _ _ _ (failed rows world)).symm

/-- Rows either all hold entries, or there is a first that holds none. -/
theorem held_or_bad (rows : List Value) :
    (∃ entries, List.Forall₂ IsHeldBy rows entries) ∨
      ∃ good entries bad behind, rows = good ++ bad :: behind ∧
        List.Forall₂ IsHeldBy good entries ∧ ∀ entry, ¬IsHeldBy bad entry := by
  induction rows with
  | nil => exact .inl ⟨[], .nil⟩
  | cons row rows ih =>
    by_cases held : ∃ entry, IsHeldBy row entry
    · obtain ⟨entry, held⟩ := held
      rcases ih with ⟨entries, all⟩ | ⟨good, entries, bad, behind, rfl, all, none⟩
      · exact .inl ⟨entry :: entries, .cons held all⟩
      · exact .inr ⟨row :: good, entry :: entries, bad, behind, rfl, .cons held all, none⟩
    · exact .inr ⟨[], [], row, rows, rfl, .nil, not_exists.mp held⟩

theorem forall_held (rows : List Value) (entries : List UserWorkspace)
    (all : List.Forall₂ IsHeldBy rows entries) : ∀ row ∈ rows, ∃ entry, IsHeldBy row entry := by
  induction all with
  | nil => simp
  | cons held _ ih => exact List.forall_mem_cons.mpr ⟨⟨_, held⟩, ih⟩

omit world in
/-- The first row without an entry decides what comes of all rows. -/
theorem decodeRows_first (good : List Value) (entries : List UserWorkspace) (bad : Value)
    (all : List.Forall₂ IsHeldBy good entries) (none : ∀ entry, ¬IsHeldBy bad entry) :
    ∃ kind, ∀ (more : List Value) (world : World δ),
      (decodeRows context (good ++ bad :: more)).result world = (.error (rowFault bad), { world with
        log := ⟨.error, "ERROR decoding user workspace row", context, some kind⟩
          :: world.log }) := by
  obtain ⟨kind, failed⟩ := decodeRows_bad (δ := δ) context bad none
  refine ⟨kind, fun more world => ?_⟩
  rw [decodeRows_append,
    Step.result_bind_ok _ _ _ _ _ (decodeRows_ok context world good entries all)]
  exact Step.result_bind_error _ _ _ _ _ (failed more world)

/-- Decoding gives one entry for each row, in order and with nothing logged, or it fails because of
the first row that holds none: one record is written, and the fault shows the row's elements if the
row has any. Rows behind that one make no difference, and what stands behind other rows is decoded
after them. -/
theorem decodeRows_decided (rows : List Value) :
    let decode (rows : List Value) := (decodeRows context rows : Step δ _).result world
    ((∃ entries, List.Forall₂ IsHeldBy rows entries ∧ decode rows = (.ok entries, world)) ∨
      ∃ good entries bad behind fault kind, rows = good ++ bad :: behind ∧
        List.Forall₂ IsHeldBy good entries ∧ (∀ entry, ¬IsHeldBy bad entry) ∧
        (∀ elements, bad.elements? = some elements → Value.areShort elements = true →
          fault.report = .of "DecodingError"
            ("Unexpected user workspace row: " ++ (Value.tuple elements).display)) ∧
        (bad.elements? = none → fault.report = .of "TypeError"
          ("'" ++ Text.ofString bad.typeName ++ "' object is not iterable")) ∧
        ∀ more, decode (good ++ bad :: more) = (.error fault, { world with
          log := ⟨.error, "ERROR decoding user workspace row", context, some kind⟩
            :: world.log })) ∧
    (∀ more, (∃ bad ∈ rows, ∀ entry, ¬IsHeldBy bad entry) → decode (rows ++ more) = decode rows) ∧
    ∀ more, decode (rows ++ more) = (do
      let entries ← decodeRows context rows
      let others ← decodeRows context more
      return entries ++ others : Step δ _).result world := by
  intro decode
  have whole := held_or_bad rows
  have stops (good : List Value) (entries : List UserWorkspace) (bad : Value)
      (all : List.Forall₂ IsHeldBy good entries) (none : ∀ entry, ¬IsHeldBy bad entry) :
      ∃ kind, ∀ more, decode (good ++ bad :: more) = (.error (rowFault bad), { world with
        log := ⟨.error, "ERROR decoding user workspace row", context, some kind⟩
          :: world.log }) := by
    obtain ⟨kind, failed⟩ := decodeRows_first (δ := δ) context good entries bad all none
    exact ⟨kind, fun more => failed more world⟩
  refine ⟨?_, ?_, decodeRows_append context world rows⟩
  · rcases whole with ⟨entries, all⟩ | ⟨good, entries, bad, behind, split, all, none⟩
    · exact .inl ⟨entries, all, decodeRows_ok context world rows entries all⟩
    · obtain ⟨kind, failed⟩ := stops good entries bad all none
      obtain ⟨shown, hidden⟩ := rowFault_report bad
      exact .inr ⟨good, entries, bad, behind, _, kind, split, all, none, shown, hidden, failed⟩
  · rintro more ⟨row, member, noEntry⟩
    rcases whole with ⟨entries, all⟩ | ⟨good, entries, bad, behind, rfl, all, none⟩
    · obtain ⟨entry, held⟩ := forall_held rows entries all row member
      exact absurd held (noEntry entry)
    · obtain ⟨kind, failed⟩ := stops good entries bad all none
      rw [List.append_assoc, List.cons_append, failed, failed]

end

/-- A text of three characters may hold an entry, and nothing holds none; the rows behind nothing
are not looked at. -/
theorem decodeRows_decided_null :
    let decode (rows : List Value) :=
      (decodeRows [] rows : Step Unit _).result ⟨⟨[], 0⟩, .int 0, [], ()⟩
    UserWorkspace.IsHeldBy (.text "ab1") ⟨"a", "b", 1⟩ ∧
      (∃ bad ∈ [Value.text "ab1", .null], ∀ entry, ¬UserWorkspace.IsHeldBy bad entry) ∧
      decode ([.text "ab1", .null] ++ [.text "xy2", .octets [1]]) =
        decode [.text "ab1", .null] := by
  intro decode
  have bad : ∃ bad ∈ [Value.text "ab1", .null], ∀ entry, ¬UserWorkspace.IsHeldBy bad entry := by
    refine ⟨.null, by simp, ?_⟩
    rintro entry ⟨_, _, _, shown, -⟩
    cases shown
  refine ⟨⟨_, _, _, rfl, rfl, rfl, rfl⟩, bad, ?_⟩
  exact (decodeRows_decided [] ⟨⟨[], 0⟩, .int 0, [], ()⟩ [.text "ab1", .null]).2.1 _ bad

end Tenancy
