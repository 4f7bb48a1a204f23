import Tenancy.Record.Workspace
import Tenancy.Store.World

/-!
# Decoding a listing

A row of a listing is an id, a title and a number of boards. The first row that is anything else
ends the decoding: it is logged, and the fault shows its elements. Rows behind it are not looked
at.
-/
namespace Tenancy

/-- The entry of a row's elements, or what is wrong with them. -/
def UserWorkspace.ofElements : List Value → Except Fault UserWorkspace
  | [id, title, boardCount] =>
    match UserWorkspace.ofFields [("id", id), ("title", title), ("board_count", boardCount)] with
    | .ok entry => .ok entry
    | .error problems => .error (.invalidRecord problems)
  | elements => .error (.rowWidth 3 elements.length)

/-- The entry of a row, or the fault that is logged and the one that ends the decoding. -/
def UserWorkspace.ofRow (row : Value) : Except (Fault × Fault) UserWorkspace :=
  match row.elements? with
  | none => .error (.notIterable row.typeName, .notIterable row.typeName)
  | some elements =>
    match ofElements elements with
    | .ok entry => .ok entry
    | .error fault => .error (fault, .unexpectedRow (Value.tuple elements).display)

def badRowRecord (context : List (String × Value)) (cause : Fault) : LogRecord :=
  ⟨.error, "ERROR decoding user workspace row", context, some cause.report.kind⟩

/-- The entries of rows; the context is that of the record of a bad one. -/
def decodeRows {δ : Type} (context : List (String × Value)) :
    List Value → Step δ (List UserWorkspace)
  | [] => return []
  | row :: rest =>
    match UserWorkspace.ofRow row with
    | .ok entry => do
      let entries ← decodeRows context rest
      return entry :: entries
    | .error (cause, fault) => do
      Step.writeLog (badRowRecord context cause)
      throw fault

def decodeListing {δ : Type} (context : List (String × Value)) (rows : Value) :
    Step δ (List UserWorkspace) :=
  match rows.elements? with
  | none => throw (.notIterable rows.typeName)
  | some rows => decodeRows context rows

end Tenancy
