import Tenancy.Database.Query
import Tenancy.Proofs.Text.Encodable

/-!
# Statements as texts

The embedded database refuses a statement whose text has no octets or holds a null. The text of a
statement is made of words and of the names of tables, columns and labels, so it is refused only for
one of those names; a table that could be made has a name that is not refused.
-/
namespace Tenancy

/-- Whether a text has octets and holds no null. -/
def Text.isSendable (t : Text) : Bool := t.all fun c => !c.isSurrogate && c.val != 0

namespace Text

@[simp]
theorem isSendable_nil : isSendable [] = true := rfl

@[simp]
theorem isSendable_cons (c : CodePoint) (t : Text) :
    isSendable (c :: t) = (!c.isSurrogate && c.val != 0 && isSendable t) := rfl

@[simp]
theorem isSendable_append (s t : Text) :
    isSendable (s ++ t) = (s.isSendable && t.isSendable) :=
  List.all_append

theorem isSendable_join (separator : Text) (texts : List Text)
    (sendable : separator.isSendable = true) (all : ∀ t ∈ texts, t.isSendable = true) :
    (join separator texts).isSendable = true := by
  induction texts with
  | nil => rfl
  | cons t rest ih =>
    have first := all t List.mem_cons_self
    cases rest with
    | nil => exact first
    | cons next rest =>
      have others := ih fun t member => all t (List.mem_cons_of_mem _ member)
      simp only [join, isSendable_append, first, sendable, Bool.true_and]
      exact others

end Text

namespace Database

theorem checkText_ok_iff (statement : Text) :
    checkText statement = .ok () ↔ statement.isSendable = true := by
  unfold checkText
  have parts : statement.isSendable = true ↔
      statement.encodeFault? = none ∧ ¬statement.any (·.val == 0) = true := by
    rw [Text.encodeFault?_eq_none]
    simp only [Text.isSendable, List.all_eq_true, Bool.and_eq_true, Bool.not_eq_true',
      bne_iff_ne, ne_eq, List.any_eq_true, beq_iff_eq, not_exists, not_and]
    constructor
    · intro all
      exact ⟨fun c member => by simp [(all c member).1], fun c member => (all c member).2⟩
    · intro all c member
      exact ⟨by simpa using all.1 c member, all.2 c member⟩
  rw [parts]
  split
  next fault eq => simp [eq]
  next eq =>
    split
    next zero => simp [zero]
    next zero => simp [eq, zero]

end Database

namespace Sql

theorem isSendable_quoted (dialect : Dialect) (name : Text) :
    Text.isSendable (name.flatMap (quotedCharacter dialect)) = name.isSendable := by
  induction name with
  | nil => rfl
  | cons c rest ih =>
    rw [List.flatMap_cons, Text.isSendable_append, ih, Text.isSendable_cons]
    unfold quotedCharacter
    split <;> simp

theorem isSendable_identifier (dialect : Dialect) (name : Text) :
    (identifier dialect name).isSendable = name.isSendable := by
  have quote : ∀ dialect : Dialect, (quoteCharacter dialect).isSurrogate = false ∧
      ((quoteCharacter dialect).val != 0) = true := by
    intro dialect
    cases dialect <;> exact ⟨rfl, rfl⟩
  unfold identifier
  split
  · rfl
  · simp [isSendable_quoted, quote dialect]

/-- The names in an expression. -/
def Expr.names : Expr → List Text
  | .column table name => [table.name, Text.ofString name]
  | .coalesce e _ => e.names
  | .count e => e.names
  | .equals left right => left.names ++ right.names
  | .isNull e => e.names
  | .and left right => left.names ++ right.names
  | .like e _ => e.names
  | .memberIs document _ _ => document.names
  | _ => []

/-- The names in a source. -/
def Source.names : Source → List Text
  | .table t => [t.name]
  | .leftJoin source t condition => source.names ++ t.name :: condition.names
  | .join source t condition => source.names ++ t.name :: condition.names

/-- The names in a query. -/
def Query.names (query : Query) : List Text :=
  query.outputs.flatMap (fun (e, label) => e.names ++ label.toList) ++ query.source.names
    ++ query.condition.elim [] Expr.names ++ query.groupBy.flatMap Expr.names

theorem isSendable_expr (e : Expr) (all : ∀ name ∈ e.names, name.isSendable = true) :
    (renderExpr .sqlite e).isSendable = true := by
  induction e with
  | column table name =>
    have first := all _ List.mem_cons_self
    have second := all _ (List.mem_cons_of_mem _ List.mem_cons_self)
    simp only [renderExpr, columnName, Text.isSendable_append, isSendable_identifier, first, second]
    rfl
  | parameter => rfl
  | coalesce e absent ih =>
    simp only [renderExpr, Text.isSendable_append, ih all]
    rfl
  | countRows => rfl
  | count e ih =>
    simp only [renderExpr, Text.isSendable_append, ih all]
    rfl
  | equals left right first second =>
    simp only [Expr.names, List.mem_append] at all
    simp only [renderExpr, Text.isSendable_append, first fun name member => all name (.inl member),
      second fun name member => all name (.inr member)]
    rfl
  | isNull e ih =>
    simp only [renderExpr, Text.isSendable_append, ih all]
    rfl
  | truth b => cases b <;> rfl
  | and left right first second =>
    simp only [Expr.names, List.mem_append] at all
    simp only [renderExpr, Text.isSendable_append, first fun name member => all name (.inl member),
      second fun name member => all name (.inr member)]
    rfl
  | like e pattern ih =>
    simp only [renderExpr, Text.isSendable_append, ih all]
    rfl
  | memberIs document member value ih =>
    simp only [renderExpr, Text.isSendable_append, ih all]
    rfl

theorem isSendable_source (source : Source)
    (all : ∀ name ∈ source.names, name.isSendable = true) :
    (renderSource .sqlite source).isSendable = true := by
  induction source with
  | table table =>
    rw [renderSource, isSendable_identifier]
    exact all _ List.mem_cons_self
  | leftJoin source table condition ih =>
    simp only [Source.names, List.mem_append, List.mem_cons] at all
    simp only [renderSource, Text.isSendable_append, isSendable_identifier,
      ih fun name member => all name (.inl member), all _ (.inr (.inl rfl)),
      isSendable_expr condition fun name member => all name (.inr (.inr member))]
    rfl
  | join source table condition ih =>
    simp only [Source.names, List.mem_append, List.mem_cons] at all
    simp only [renderSource, Text.isSendable_append, isSendable_identifier,
      ih fun name member => all name (.inl member), all _ (.inr (.inl rfl)),
      isSendable_expr condition fun name member => all name (.inr (.inr member))]
    rfl

theorem isSendable_query (query : Query) (all : ∀ name ∈ query.names, name.isSendable = true) :
    (renderQuery .sqlite query).isSendable = true := by
  simp only [Query.names, List.mem_append, List.mem_flatMap] at all
  have outputs : (Text.join ", " (query.outputs.map (renderOutput .sqlite))).isSendable = true := by
    apply Text.isSendable_join _ _ rfl
    intro t member
    obtain ⟨⟨e, label⟩, inOutputs, rfl⟩ := List.mem_map.mp member
    have shown := isSendable_expr e fun name member =>
      all name (.inl (.inl (.inl ⟨_, inOutputs, .inl member⟩)))
    cases label with
    | none => exact shown
    | some label =>
      have named := all label (.inl (.inl (.inl ⟨_, inOutputs, .inr List.mem_cons_self⟩)))
      simp only [renderOutput, Text.isSendable_append, isSendable_identifier, shown, named]
      rfl
  have source := isSendable_source query.source fun name member =>
    all name (.inl (.inl (.inr member)))
  have groups : (Text.join ", " (query.groupBy.map (renderExpr .sqlite))).isSendable = true := by
    apply Text.isSendable_join _ _ rfl
    intro t member
    obtain ⟨e, inGroups, rfl⟩ := List.mem_map.mp member
    exact isSendable_expr e fun name member => all name (.inr ⟨_, inGroups, member⟩)
  have words : (Text.ofString "SELECT ").isSendable = true ∧
      (Text.ofString " \nFROM ").isSendable = true := ⟨rfl, rfl⟩
  simp only [renderQuery, Text.isSendable_append, outputs, source, words.1, words.2,
    Bool.true_and, Bool.and_eq_true]
  constructor
  · cases eq : query.condition with
    | none => rfl
    | some e =>
      have shown := isSendable_expr e fun name member => all name (.inl (.inr (by rwa [eq])))
      simp only [Text.isSendable_append, shown]
      rfl
  · split
    · rfl
    · rw [Text.isSendable_append, groups]
      rfl

theorem isSendable_upsert (upsert : Upsert) (table : upsert.table.name.isSendable = true)
    (keys : ∀ column ∈ upsert.table.columns, (Text.ofString column.name).isSendable = true)
    (values : ∀ value ∈ upsert.values, (Text.ofString value.1.name).isSendable = true)
    (updates : ∀ column ∈ upsert.updates, (Text.ofString column.name).isSendable = true) :
    (renderUpsert .sqlite upsert).isSendable = true := by
  have inserted : (renderValues .sqlite upsert.values).isSendable = true := by
    unfold renderValues
    split
    · rfl
    · rfl
    · have columns : (Text.join ", " (upsert.values.map fun value =>
          columnName .sqlite value.1.name)).isSendable = true := by
        apply Text.isSendable_join _ _ rfl
        intro t member
        obtain ⟨value, inValues, rfl⟩ := List.mem_map.mp member
        exact (isSendable_identifier .sqlite _).trans (values value inValues)
      have marks : (Text.join ", " (upsert.values.map fun value =>
          placeholder .sqlite (.ofColumn value))).isSendable = true := by
        apply Text.isSendable_join _ _ rfl
        intro t member
        obtain ⟨value, -, rfl⟩ := List.mem_map.mp member
        rfl
      simp only [Text.isSendable_append, columns, marks]
      rfl
  have conflict : (renderConflict .sqlite upsert).isSendable = true := by
    have assignments : (Text.join ", " (upsert.updates.map
        (renderAssignment .sqlite))).isSendable = true := by
      apply Text.isSendable_join _ _ rfl
      intro t member
      obtain ⟨column, inUpdates, rfl⟩ := List.mem_map.mp member
      simp only [renderAssignment, columnName, Text.isSendable_append, isSendable_identifier,
        updates column inUpdates]
      rfl
    have target : (Text.join ", " (upsert.table.key.map
        (columnName .sqlite ·.name))).isSendable = true := by
      apply Text.isSendable_join _ _ rfl
      intro t member
      obtain ⟨column, inKey, rfl⟩ := List.mem_map.mp member
      exact (isSendable_identifier .sqlite _).trans (keys column (List.mem_filter.mp inKey).1)
    simp only [renderConflict, Text.isSendable_append, assignments, target]
    rfl
  simp only [renderUpsert, renderInsert, Text.isSendable_append, isSendable_identifier, table,
    inserted, conflict]
  rfl

end Sql

end Tenancy
