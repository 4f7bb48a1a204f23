import Mathlib.Data.List.Forall2
import Tenancy.Proofs.Sql.Token

/-!
# What statements are read as

The text of a statement is read as the tokens of its tree: words and symbols of the renderer, and
one token for each name. A name therefore never reaches beyond its own token, whatever it is, as
long as it stays on one line.
-/
namespace Tenancy.Sql

/-- A part of a statement: a name, or a token that the renderer has written. -/
inductive Lexeme where
  | name (t : Text)
  | token (token : Token)
  deriving DecidableEq

namespace Lexeme

/-- The token that a part is read as. -/
def read : Lexeme → Token
  | .name t => .ofName t
  | .token written => written

end Lexeme

/-! ## The parts of statements -/

section
variable (dialect : Dialect)

/-- The parts of a text of the renderer. -/
def fixed (t : Text) : List Lexeme := ((tokens dialect t).getD []).map .token

/-- Parts of several texts, with commas between them. -/
def commaLexemes (parts : List (List Lexeme)) : List Lexeme :=
  (fixed dialect ", ").intercalate parts

def Parameter.lexemes (p : Parameter) : List Lexeme :=
  match dialect with
  | .mysql => fixed .mysql "%s"
  | .postgres =>
    fixed .postgres "%(" ++ [.token (.word p.name)] ++ fixed .postgres ")s"
      ++ fixed .postgres (conversion p.type)
  | .sqlite => fixed .sqlite "?"

def Expr.lexemes : Expr → List Lexeme
  | .column table name => [.name table.name] ++ fixed dialect "." ++ [.name (Text.ofString name)]
  | .parameter p => p.lexemes dialect
  | .coalesce e absent =>
    fixed dialect "coalesce(" ++ e.lexemes ++ fixed dialect ", " ++ absent.lexemes dialect
      ++ fixed dialect ")"
  | .countRows => fixed dialect "count(*)"
  | .count e => fixed dialect "count(" ++ e.lexemes ++ fixed dialect ")"
  | .equals left right => left.lexemes ++ fixed dialect " = " ++ right.lexemes
  | .isNull e => e.lexemes ++ fixed dialect " IS NULL"
  | .truth b => fixed dialect (truthWord dialect b)
  | .and left right => left.lexemes ++ fixed dialect " AND " ++ right.lexemes
  | .like e pattern => e.lexemes ++ fixed dialect " LIKE " ++ pattern.lexemes dialect
  | .memberIs document member value =>
    fixed dialect "(CAST(" ++ document.lexemes ++ fixed dialect " AS JSON) ->> "
      ++ member.lexemes dialect ++ fixed dialect ") = " ++ value.lexemes dialect

/-- The words of an inner join. -/
def joinWords : Dialect → Text
  | .mysql => " INNER JOIN "
  | _ => " JOIN "

def Source.lexemes : Source → List Lexeme
  | .table t => [.name t.name]
  | .leftJoin source t condition =>
    source.lexemes ++ fixed dialect " LEFT OUTER JOIN " ++ [.name t.name] ++
      fixed dialect " ON " ++ condition.lexemes dialect
  | .join source t condition =>
    source.lexemes ++ fixed dialect (joinWords dialect) ++ [.name t.name] ++
      fixed dialect " ON " ++ condition.lexemes dialect

def outputLexemes : Expr × Option Text → List Lexeme
  | (e, none) => e.lexemes dialect
  | (e, some label) => e.lexemes dialect ++ fixed dialect " AS " ++ [.name label]

/-- The grouping of a query. -/
def renderGrouping : List Expr → Text
  | [] => []
  | groupBy => " GROUP BY " ++ Text.join ", " (groupBy.map (renderExpr dialect))

def groupingLexemes : List Expr → List Lexeme
  | [] => []
  | groupBy =>
    fixed dialect " GROUP BY " ++ commaLexemes dialect (groupBy.map (Expr.lexemes dialect))

/-- The lines of a query. -/
def Query.lines (query : Query) : List Text :=
  let outputs := "SELECT " ++ Text.join ", " (query.outputs.map (renderOutput dialect))
  let source := "FROM " ++ renderSource dialect query.source
  let grouping := renderGrouping dialect query.groupBy
  match query.condition with
  | none => [outputs, source ++ grouping]
  | some e => [outputs, source, "WHERE " ++ renderExpr dialect e ++ grouping]

/-- The parts of a query, line by line. -/
def Query.lexemes (query : Query) : List (List Lexeme) :=
  let outputs :=
    fixed dialect "SELECT " ++ commaLexemes dialect (query.outputs.map (outputLexemes dialect))
  let source := fixed dialect "FROM " ++ query.source.lexemes dialect
  let grouping := groupingLexemes dialect query.groupBy
  match query.condition with
  | none => [outputs, source ++ grouping]
  | some e => [outputs, source, fixed dialect "WHERE " ++ e.lexemes dialect ++ grouping]

def valuesLexemes (values : List (Column × Value)) : List Lexeme :=
  match dialect, values with
  | .mysql, [] => fixed .mysql "() VALUES ()"
  | _, [] => fixed dialect "DEFAULT VALUES"
  | _, values =>
    fixed dialect "("
      ++ commaLexemes dialect (values.map fun value => [.name (Text.ofString value.1.name)])
      ++ fixed dialect ") VALUES ("
      ++ commaLexemes dialect (values.map fun value => (Parameter.ofColumn value).lexemes dialect)
      ++ fixed dialect ")"

def assignmentLexemes (column : Column) : List Lexeme :=
  let name := [Lexeme.name (Text.ofString column.name)]
  match dialect with
  | .mysql => name ++ fixed .mysql " = VALUES(" ++ name ++ fixed .mysql ")"
  | _ => name ++ fixed dialect " = excluded." ++ name

def conflictLexemes (upsert : Upsert) : List Lexeme :=
  let assignments := commaLexemes dialect (upsert.updates.map (assignmentLexemes dialect))
  match dialect with
  | .mysql => fixed .mysql "ON DUPLICATE KEY UPDATE " ++ assignments
  | _ =>
    fixed dialect "ON CONFLICT ("
      ++ commaLexemes dialect
        (upsert.table.key.map fun column => [.name (Text.ofString column.name)])
      ++ fixed dialect ") DO UPDATE SET " ++ assignments

def Upsert.lexemes (upsert : Upsert) : List Lexeme :=
  fixed dialect "INSERT INTO " ++ [.name upsert.table.name] ++ fixed dialect " " ++
    valuesLexemes dialect upsert.values ++ fixed dialect " " ++ conflictLexemes dialect upsert

/-- The lines of a statement. -/
def Statement.lines : Statement → List Text
  | .upsert u => [renderUpsert dialect u]
  | .query q => q.lines dialect

/-- The parts of a statement, line by line. -/
def Statement.lexemes : Statement → List (List Lexeme)
  | .upsert u => [u.lexemes dialect]
  | .query q => q.lexemes dialect

end

/-! ## Fixed texts -/

/-- Whether a text of the renderer is read, on one line. -/
def isFixed (dialect : Dialect) (t : Text) : Bool :=
  (tokens dialect t).isSome && !t.contains .newline

/-- Whether what comes behind a text of the renderer does not touch it. -/
def isOpening (dialect : Dialect) (t : Text) : Bool :=
  match t.foldlM (Scan.next dialect) ⟨[], .between⟩ with
  | some ⟨_, .between⟩ => !t.contains .newline
  | _ => false

section
variable (dialect : Dialect)

private theorem map_read_token (read : List Token) :
    (read.map Lexeme.token).map Lexeme.read = read := by
  rw [List.map_map]
  exact List.map_id read

theorem reads_fixed (t : Text) (fine : isFixed dialect t = true) :
    Reads dialect t ((fixed dialect t).map Lexeme.read) := by
  simp only [isFixed, Bool.and_eq_true, Bool.not_eq_true', Option.isSome_iff_exists] at fine
  obtain ⟨⟨read, eq⟩, flat⟩ := fine
  rw [fixed, eq, Option.getD_some, map_read_token]
  refine reads_of_tokens eq fun member => ?_
  rw [List.contains_iff_mem.mpr member] at flat
  cases flat

theorem opens_fixed (t : Text) (fine : isOpening dialect t = true) :
    Opens dialect t ((fixed dialect t).map Lexeme.read) := by
  rw [isOpening] at fine
  split at fine
  next read eq =>
    have whole : tokens dialect t = some read := by
      rw [tokens, eq]
      rfl
    rw [fixed, whole, Option.getD_some, map_read_token]
    refine opens_of_foldlM eq fun member => ?_
    rw [List.contains_iff_mem.mpr member] at fine
    cases fine
  next => cases fine

end

section
variable {dialect : Dialect}

private theorem join_cons_cons (separator t u : Text) (rest : List Text) :
    Text.join separator (t :: u :: rest) = t ++ separator ++ Text.join separator (u :: rest) :=
  rfl

theorem map_intercalate {α β : Type} (f : α → β) (gap : List α) (parts : List (List α)) :
    (gap.intercalate parts).map f = (gap.map f).intercalate (parts.map (List.map f)) := by
  induction parts with
  | nil => rfl
  | cons part rest ih =>
    cases rest with
    | nil => simp
    | cons other rest =>
      rw [List.intercalate_cons_cons, List.map_append, List.map_append, ih]
      exact List.intercalate_cons_cons.symm

private theorem intercalate_empty {α : Type} (parts : List (List α)) :
    List.intercalate [] parts = parts.flatten := by
  induction parts with
  | nil => rfl
  | cons part rest ih =>
    cases rest with
    | nil => simp
    | cons other rest =>
      rw [List.intercalate_cons_cons, ih, List.append_nil]
      rfl

-- Texts with another one between them, which does not touch them and is read as a gap
private theorem scan_join (separator : Text) (gap : List Token)
    (apart : isApart separator = true)
    (skip : ∀ before, separator.foldlM (Scan.next dialect) ⟨before, .between⟩ =
      some ⟨before ++ gap, .between⟩)
    (texts : List Text) (reads : List (List Token))
    (all : List.Forall₂ (Reads dialect) texts reads) (before : List Token) :
    ∃ scan, (Text.join separator texts).foldlM (Scan.next dialect) ⟨before, .between⟩ = some scan ∧
      scan.finish = some (before ++ gap.intercalate reads) := by
  induction all generalizing before with
  | nil => exact ⟨_, rfl, by simp [Scan.finish]⟩
  | cons first others ih =>
    cases others with
    | nil =>
      rw [List.intercalate_singleton]
      exact first.scan before
    | @cons _ _ texts reads second rest =>
      obtain ⟨scan, read, finished⟩ := first.scan before
      obtain ⟨last, later, ended⟩ := ih (before ++ _ ++ gap)
      refine ⟨last, ?_, ?_⟩
      · rw [join_cons_cons, List.foldlM_append, List.foldlM_append, read]
        simp only [Option.bind_eq_bind, Option.bind_some]
        rw [foldlM_apart scan _ finished apart, skip]
        exact later
      · rw [ended, List.intercalate_cons_cons]
        simp only [List.append_assoc]

theorem reads_join (separator : Text) (gap : List Token) (apart : isApart separator = true)
    (opens : Opens dialect separator gap) (texts : List Text) (reads : List (List Token))
    (all : List.Forall₂ (Reads dialect) texts reads) :
    Reads dialect (Text.join separator texts) (gap.intercalate reads) := by
  refine ⟨scan_join separator gap apart opens.scan texts reads all, ?_⟩
  induction all with
  | nil => exact List.not_mem_nil
  | cons first others ih =>
    cases others with
    | nil => exact first.flat
    | cons second rest =>
      rw [join_cons_cons]
      simp only [List.mem_append, not_or]
      exact ⟨⟨first.flat, opens.flat⟩, ih⟩

/-- Lines are read one after the other. -/
theorem tokens_lines (lines : List Text) (reads : List (List Token))
    (all : List.Forall₂ (Reads dialect) lines reads) :
    tokens dialect (Text.join " \n" lines) = some reads.flatten := by
  have skip (before : List Token) : (Text.ofString " \n").foldlM (Scan.next dialect)
      ⟨before, .between⟩ = some ⟨before ++ [], .between⟩ := by
    rw [List.append_nil]
    rfl
  obtain ⟨scan, read, finished⟩ := scan_join _ [] rfl skip lines reads all []
  rw [tokens, read]
  exact finished.trans (congrArg some (intercalate_empty reads))

private theorem reads_commas {α : Type} (items : List α) (text : α → Text)
    (lexemes : α → List Lexeme)
    (all : ∀ item ∈ items, Reads dialect (text item) ((lexemes item).map Lexeme.read)) :
    Reads dialect (Text.join ", " (items.map text))
      ((commaLexemes dialect (items.map lexemes)).map Lexeme.read) := by
  have comma := opens_fixed dialect ", " (by cases dialect <;> rfl)
  have joined := reads_join ", " _ rfl comma (items.map text)
    (items.map fun item => (lexemes item).map Lexeme.read) (by
      rw [List.forall₂_map_left_iff, List.forall₂_map_right_iff, List.forall₂_same]
      exact all)
  rw [commaLexemes, map_intercalate, List.map_map]
  exact joined

end

/-! ## Statements that are read -/

/-- Whether the name of a parameter is a word. -/
def Parameter.isPlain (p : Parameter) : Bool := !p.name.isEmpty && p.name.all Scan.isWordCharacter

section
variable (dialect : Dialect)

private theorem reads_placeholder (p : Parameter) (plain : p.isPlain = true) :
    Reads dialect (placeholder dialect p) ((p.lexemes dialect).map Lexeme.read) := by
  cases dialect with
  | mysql => exact reads_fixed .mysql "%s" rfl
  | sqlite => exact reads_fixed .sqlite "?" rfl
  | postgres =>
    simp only [Parameter.isPlain, Bool.and_eq_true, Bool.not_eq_true'] at plain
    have word := reads_word .postgres p.name (by simpa using plain.1) plain.2
    have marked := ((opens_fixed .postgres "%(" rfl).append_reads word).append_reads
      (reads_fixed .postgres ")s" rfl) rfl
    simp only [placeholder, Parameter.lexemes, List.map_append]
    cases p.type with
    | untyped =>
      rw [conversion, List.append_nil]
      exact marked
    | varchar => exact marked.append_reads (reads_fixed .postgres "::VARCHAR" rfl) rfl
    | text => exact marked.append_reads (reads_fixed .postgres "::TEXT" rfl) rfl
    | integer => exact marked.append_reads (reads_fixed .postgres "::INTEGER" rfl) rfl
    | bigint => exact marked.append_reads (reads_fixed .postgres "::BIGINT" rfl) rfl

private theorem reads_name (name : Text) (flat : .newline ∉ name) :
    Reads dialect (identifier dialect name) ([Lexeme.name name].map Lexeme.read) :=
  reads_identifier dialect name flat

/-- An expression is read as its parts. -/
theorem reads_expr (e : Expr) (flat : ∀ name ∈ e.names, .newline ∉ name)
    (plain : ∀ p ∈ e.parameters, p.isPlain = true) :
    Reads dialect (renderExpr dialect e) ((e.lexemes dialect).map Lexeme.read) := by
  have opens (t : Text) := opens_fixed dialect t
  have reads (t : Text) := reads_fixed dialect t
  induction e with
  | column table name =>
    have first := reads_name dialect table.name (flat _ List.mem_cons_self)
    have second := reads_name dialect (Text.ofString name)
      (flat _ (List.mem_cons_of_mem _ List.mem_cons_self))
    have dot := opens "." (by cases dialect <;> rfl)
    simp only [Expr.lexemes, List.map_append]
    exact (first.append_opens dot rfl).append_reads second
  | parameter p => exact reads_placeholder dialect p (plain p List.mem_cons_self)
  | coalesce e absent ih =>
    simp only [Expr.parameters, List.mem_append, List.mem_singleton] at plain
    have inner := ih flat fun p member => plain p (.inl member)
    have second := reads_placeholder dialect absent (plain absent (.inr rfl))
    have opening := opens "coalesce(" (by cases dialect <;> rfl)
    have comma := opens ", " (by cases dialect <;> rfl)
    have closing := reads ")" (by cases dialect <;> rfl)
    simp only [Expr.lexemes, List.map_append]
    exact (((opening.append_reads inner).append_opens comma rfl).append_reads second).append_reads
      closing rfl
  | countRows => exact reads "count(*)" (by cases dialect <;> rfl)
  | count e ih =>
    have opening := opens "count(" (by cases dialect <;> rfl)
    have closing := reads ")" (by cases dialect <;> rfl)
    simp only [Expr.lexemes, List.map_append]
    exact (opening.append_reads (ih flat plain)).append_reads closing rfl
  | equals left right first second =>
    simp only [Expr.names, Expr.parameters, List.mem_append] at flat plain
    have before := first (fun name member => flat name (.inl member))
      fun p member => plain p (.inl member)
    have after := second (fun name member => flat name (.inr member))
      fun p member => plain p (.inr member)
    have sign := opens " = " (by cases dialect <;> rfl)
    simp only [Expr.lexemes, List.map_append]
    exact (before.append_opens sign rfl).append_reads after
  | isNull e ih =>
    have words := reads " IS NULL" (by cases dialect <;> rfl)
    simp only [Expr.lexemes, List.map_append]
    exact (ih flat plain).append_reads words rfl
  | truth b => exact reads (truthWord dialect b) (by cases dialect <;> cases b <;> rfl)
  | and left right first second =>
    simp only [Expr.names, Expr.parameters, List.mem_append] at flat plain
    have before := first (fun name member => flat name (.inl member))
      fun p member => plain p (.inl member)
    have after := second (fun name member => flat name (.inr member))
      fun p member => plain p (.inr member)
    have word := opens " AND " (by cases dialect <;> rfl)
    simp only [Expr.lexemes, List.map_append]
    exact (before.append_opens word rfl).append_reads after
  | like e pattern ih =>
    simp only [Expr.parameters, List.mem_append, List.mem_singleton] at plain
    have inner := ih flat fun p member => plain p (.inl member)
    have second := reads_placeholder dialect pattern (plain pattern (.inr rfl))
    have word := opens " LIKE " (by cases dialect <;> rfl)
    simp only [Expr.lexemes, List.map_append]
    exact (inner.append_opens word rfl).append_reads second
  | memberIs document member value ih =>
    simp only [Expr.parameters, List.mem_append, List.mem_cons, List.not_mem_nil, or_false] at plain
    have inner := ih flat fun p among => plain p (.inl among)
    have second := reads_placeholder dialect member (plain member (.inr (.inl rfl)))
    have third := reads_placeholder dialect value (plain value (.inr (.inr rfl)))
    have opening := opens "(CAST(" (by cases dialect <;> rfl)
    have arrow := opens " AS JSON) ->> " (by cases dialect <;> rfl)
    have closing := opens ") = " (by cases dialect <;> rfl)
    simp only [Expr.lexemes, List.map_append]
    exact ((((opening.append_reads inner).append_opens arrow rfl).append_reads second).append_opens
      closing rfl).append_reads third

theorem reads_source (source : Source) (flat : ∀ name ∈ source.names, .newline ∉ name)
    (plain : ∀ p ∈ source.parameters, p.isPlain = true) :
    Reads dialect (renderSource dialect source) ((source.lexemes dialect).map Lexeme.read) := by
  have on := opens_fixed dialect " ON " (by cases dialect <;> rfl)
  induction source with
  | table t => exact reads_name dialect t.name (flat _ List.mem_cons_self)
  | leftJoin source t condition ih =>
    simp only [Source.names, Source.parameters, List.mem_append, List.mem_cons] at flat plain
    have before := ih (fun name member => flat name (.inl member))
      fun p member => plain p (.inl member)
    have joined := reads_name dialect t.name (flat _ (.inr (.inl rfl)))
    have after := reads_expr dialect condition (fun name member => flat name (.inr (.inr member)))
      fun p member => plain p (.inr member)
    have words := opens_fixed dialect " LEFT OUTER JOIN " (by cases dialect <;> rfl)
    simp only [Source.lexemes, List.map_append]
    exact (((before.append_opens words rfl).append_reads joined).append_opens on rfl).append_reads
      after
  | join source t condition ih =>
    simp only [Source.names, Source.parameters, List.mem_append, List.mem_cons] at flat plain
    have before := ih (fun name member => flat name (.inl member))
      fun p member => plain p (.inl member)
    have joined := reads_name dialect t.name (flat _ (.inr (.inl rfl)))
    have after := reads_expr dialect condition (fun name member => flat name (.inr (.inr member)))
      fun p member => plain p (.inr member)
    have words := opens_fixed dialect (joinWords dialect) (by cases dialect <;> rfl)
    have apart : isApart (joinWords dialect) = true := by
      cases dialect <;> rfl
    simp only [Source.lexemes, List.map_append]
    have all := (((before.append_opens words apart).append_reads joined).append_opens on
      rfl).append_reads after
    cases dialect <;> exact all

private theorem reads_output (output : Expr × Option Text)
    (flat : ∀ name ∈ output.1.names ++ output.2.toList, .newline ∉ name)
    (plain : ∀ p ∈ output.1.parameters, p.isPlain = true) :
    Reads dialect (renderOutput dialect output)
      ((outputLexemes dialect output).map Lexeme.read) := by
  obtain ⟨e, label⟩ := output
  simp only [List.mem_append] at flat
  have shown := reads_expr dialect e (fun name member => flat name (.inl member)) plain
  cases label with
  | none => exact shown
  | some label =>
    have named := reads_name dialect label (flat label (.inr List.mem_cons_self))
    have word := opens_fixed dialect " AS " (by cases dialect <;> rfl)
    simp only [outputLexemes, List.map_append]
    exact (shown.append_opens word rfl).append_reads named

private theorem reads_grouping (base : Text) (read : List Token) (before : Reads dialect base read)
    (groupBy : List Expr) (flat : ∀ e ∈ groupBy, ∀ name ∈ e.names, .newline ∉ name)
    (plain : ∀ e ∈ groupBy, ∀ p ∈ e.parameters, p.isPlain = true) :
    Reads dialect (base ++ renderGrouping dialect groupBy)
      (read ++ (groupingLexemes dialect groupBy).map Lexeme.read) := by
  cases groupBy with
  | nil =>
    rw [renderGrouping, groupingLexemes, List.append_nil, List.map_nil, List.append_nil]
    exact before
  | cons e rest =>
    have words := opens_fixed dialect " GROUP BY " (by cases dialect <;> rfl)
    have groups := reads_commas (e :: rest) (renderExpr dialect) (Expr.lexemes dialect)
      fun e member => reads_expr dialect e (flat e member) (plain e member)
    rw [renderGrouping, groupingLexemes, List.map_append, ← List.append_assoc, ← List.append_assoc]
    · exact (before.append_opens words rfl).append_reads groups
    all_goals exact List.cons_ne_nil e rest

/-- A query is read line by line. -/
theorem reads_query (query : Query) (flat : ∀ name ∈ query.names, .newline ∉ name)
    (plain : ∀ p ∈ query.parameters, p.isPlain = true) :
    List.Forall₂ (Reads dialect) (query.lines dialect)
      ((query.lexemes dialect).map (List.map Lexeme.read)) := by
  simp only [Query.names, Query.parameters, List.mem_append, List.mem_flatMap] at flat plain
  have outputs := (opens_fixed dialect "SELECT " (by cases dialect <;> rfl)).append_reads
    (reads_commas query.outputs (renderOutput dialect) (outputLexemes dialect)
      fun output member => reads_output dialect output
        (fun name among =>
          flat name (.inl (.inl (.inl ⟨output, member, List.mem_append.mp among⟩))))
        fun p among => plain p (.inl (.inl (.inl ⟨output, member, among⟩))))
  have source := (opens_fixed dialect "FROM " (by cases dialect <;> rfl)).append_reads
    (reads_source dialect query.source (fun name member => flat name (.inl (.inl (.inr member))))
      fun p member => plain p (.inl (.inl (.inr member))))
  have grouping (base : Text) (read : List Token) (before : Reads dialect base read) :=
    reads_grouping dialect base read before query.groupBy
      (fun e member name among => flat name (.inr ⟨e, member, among⟩))
      fun e member p among => plain p (.inr ⟨e, member, among⟩)
  rw [← List.map_append] at outputs source
  rw [Query.lines, Query.lexemes]
  cases condition : query.condition with
  | none =>
    have last := grouping _ _ source
    rw [← List.map_append] at last
    exact .cons outputs (.cons last .nil)
  | some e =>
    have shown := reads_expr dialect e
      (fun name member => flat name (.inl (.inr (by rwa [condition]))))
      fun p member => plain p (.inl (.inr (by rwa [condition])))
    have last := grouping _ _
      ((opens_fixed dialect "WHERE " (by cases dialect <;> rfl)).append_reads shown)
    rw [← List.map_append, ← List.map_append] at last
    exact .cons outputs (.cons source (.cons last .nil))

/-- The names in an upsert. -/
def Upsert.names (upsert : Upsert) : List Text :=
  upsert.table.name ::
    (upsert.table.key ++ upsert.values.map (·.1) ++ upsert.updates).map (Text.ofString ·.name)

theorem reads_values (values : List (Column × Value))
    (flat : ∀ value ∈ values, .newline ∉ Text.ofString value.1.name)
    (plain : ∀ value ∈ values, (Parameter.ofColumn value).isPlain = true) :
    Reads dialect (renderValues dialect values)
      ((valuesLexemes dialect values).map Lexeme.read) := by
  have columns := reads_commas values (fun value => columnName dialect value.1.name)
    (fun value => [.name (Text.ofString value.1.name)])
    fun value member => reads_name dialect _ (flat value member)
  have marks := reads_commas values (fun value => placeholder dialect (.ofColumn value))
    (fun value => (Parameter.ofColumn value).lexemes dialect)
    fun value member => reads_placeholder dialect _ (plain value member)
  have opening := opens_fixed dialect "(" (by cases dialect <;> rfl)
  have middle := opens_fixed dialect ") VALUES (" (by cases dialect <;> rfl)
  have closing := reads_fixed dialect ")" (by cases dialect <;> rfl)
  cases values with
  | nil =>
    cases dialect
    · exact reads_fixed .mysql "() VALUES ()" rfl
    · exact reads_fixed .postgres "DEFAULT VALUES" rfl
    · exact reads_fixed .sqlite "DEFAULT VALUES" rfl
  | cons value rest =>
    have all := (((opening.append_reads columns).append_opens middle rfl).append_reads
      marks).append_reads closing rfl
    rw [renderValues, valuesLexemes]
    · simp only [List.map_append]
      exact all
    all_goals simp

private theorem reads_assignment (column : Column) (flat : .newline ∉ Text.ofString column.name) :
    Reads dialect (renderAssignment dialect column)
      ((assignmentLexemes dialect column).map Lexeme.read) := by
  have name := reads_name dialect _ flat
  cases dialect with
  | mysql =>
    have words := opens_fixed .mysql " = VALUES(" rfl
    have closing := reads_fixed .mysql ")" rfl
    simp only [assignmentLexemes, List.map_append]
    exact ((name.append_opens words rfl).append_reads name).append_reads closing rfl
  | postgres =>
    have words := opens_fixed .postgres " = excluded." rfl
    simp only [assignmentLexemes, List.map_append]
    exact (name.append_opens words rfl).append_reads name
  | sqlite =>
    have words := opens_fixed .sqlite " = excluded." rfl
    simp only [assignmentLexemes, List.map_append]
    exact (name.append_opens words rfl).append_reads name

theorem reads_conflict (upsert : Upsert)
    (flat : ∀ column ∈ upsert.table.key ++ upsert.updates,
      .newline ∉ Text.ofString column.name) :
    Reads dialect (renderConflict dialect upsert)
      ((conflictLexemes dialect upsert).map Lexeme.read) := by
  have assignments := reads_commas upsert.updates (renderAssignment dialect)
    (assignmentLexemes dialect)
    fun column member =>
      reads_assignment dialect column (flat column (List.mem_append_right _ member))
  have key := reads_commas upsert.table.key (fun column => columnName dialect column.name)
    (fun column => [.name (Text.ofString column.name)])
    fun column member => reads_name dialect _ (flat column (List.mem_append_left _ member))
  cases dialect with
  | mysql =>
    have words := opens_fixed .mysql "ON DUPLICATE KEY UPDATE " rfl
    simp only [conflictLexemes, List.map_append]
    exact words.append_reads assignments
  | postgres =>
    have opening := opens_fixed .postgres "ON CONFLICT (" rfl
    have closing := opens_fixed .postgres ") DO UPDATE SET " rfl
    simp only [conflictLexemes, List.map_append]
    exact ((opening.append_reads key).append_opens closing rfl).append_reads assignments
  | sqlite =>
    have opening := opens_fixed .sqlite "ON CONFLICT (" rfl
    have closing := opens_fixed .sqlite ") DO UPDATE SET " rfl
    simp only [conflictLexemes, List.map_append]
    exact ((opening.append_reads key).append_opens closing rfl).append_reads assignments

theorem reads_upsert (upsert : Upsert) (flat : ∀ name ∈ upsert.names, .newline ∉ name)
    (plain : ∀ p ∈ upsert.parameters, p.isPlain = true) :
    Reads dialect (renderUpsert dialect upsert) ((upsert.lexemes dialect).map Lexeme.read) := by
  have insert := opens_fixed dialect "INSERT INTO " (by cases dialect <;> rfl)
  have table := reads_name dialect upsert.table.name (flat _ List.mem_cons_self)
  have gap := opens_fixed dialect " " (by cases dialect <;> rfl)
  have values := reads_values dialect upsert.values
    (fun value member => flat _ (List.mem_cons_of_mem _ (List.mem_map_of_mem
      (List.mem_append_left _ (List.mem_append_right _ (List.mem_map_of_mem member))))))
    fun value member => plain _ (List.mem_map_of_mem member)
  have conflict := reads_conflict dialect upsert fun column member => by
    refine flat _ (List.mem_cons_of_mem _ (List.mem_map_of_mem ?_))
    rw [List.append_assoc, List.mem_append, List.mem_append]
    exact (List.mem_append.mp member).imp id .inr
  have all := ((((insert.append_reads table).append_opens gap rfl).append_reads
    values).append_opens gap rfl).append_reads conflict
  simp only [Upsert.lexemes, List.map_append]
  exact all

/-- The names in a statement. -/
def Statement.names : Statement → List Text
  | .upsert u => u.names
  | .query q => q.names

/-- A statement is read line by line. -/
theorem reads_statement (statement : Statement) (flat : ∀ name ∈ statement.names, .newline ∉ name)
    (plain : ∀ p ∈ statement.parameters, p.isPlain = true) :
    List.Forall₂ (Reads dialect) (statement.lines dialect)
      ((statement.lexemes dialect).map (List.map Lexeme.read)) := by
  cases statement with
  | upsert u => exact .cons (reads_upsert dialect u flat plain) .nil
  | query q => exact reads_query dialect q flat plain

/-- The text of a statement is its lines. -/
theorem render_eq (statement : Statement) :
    render dialect statement = Text.join " \n" (statement.lines dialect) := by
  cases statement with
  | upsert u => rfl
  | query q =>
    have from_ : Text.ofString " \nFROM " = Text.ofString " \n" ++ Text.ofString "FROM " := rfl
    have where_ : Text.ofString " \nWHERE " = Text.ofString " \n" ++ Text.ofString "WHERE " := rfl
    obtain ⟨outputs, source, condition, groupBy⟩ := q
    cases condition <;> cases groupBy <;>
      simp only [render, renderQuery, Statement.lines, Query.lines, renderGrouping, Text.join,
        from_, where_, List.append_nil, List.append_assoc]

end

/-! ## One line -/

/-- Whether a text begins with something other than a blank. -/
def startsSolid (t : Text) : Bool := t.head?.any (!·.isBlank)

/-- Whether a text ends with something other than a blank. -/
def endsSolid (t : Text) : Bool := t.getLast?.any (!·.isBlank)

theorem endsSolid_append (s t : Text) (ends : endsSolid t = true) : endsSolid (s ++ t) = true := by
  rw [endsSolid, List.getLast?_append]
  cases last : t.getLast? with
  | none =>
    rw [endsSolid, last] at ends
    cases ends
  | some c =>
    rw [endsSolid, last] at ends
    exact ends

theorem endsSolid_identifier (dialect : Dialect) (name : Text) :
    endsSolid (identifier dialect name) = true := by
  have bareBlank (c : CodePoint) (bare : isBareCharacter c = true) : c.isBlank = false := by
    simp only [isBareCharacter, CodePoint.isAsciiLower, CodePoint.isDigit, Bool.or_eq_true,
      Bool.and_eq_true, decide_eq_true_eq, beq_iff_eq] at bare
    rw [← Bool.not_eq_true]
    simp only [CodePoint.isBlank, CodePoint.isWhiteSpace, Bool.or_eq_true, Bool.and_eq_true,
      decide_eq_true_eq, beq_iff_eq]
    omega
  rw [identifier]
  split
  next bare =>
    cases name with
    | nil => cases bare
    | cons c rest =>
      simp only [isBare, Bool.and_eq_true, List.all_eq_true] at bare
      have all : ∀ d ∈ c :: rest, isBareCharacter d = true := by
        rw [List.forall_mem_cons]
        exact ⟨bare.1.1.1, bare.2⟩
      have last := List.getLast_mem (List.cons_ne_nil c rest)
      rw [endsSolid, List.getLast?_eq_some_getLast (List.cons_ne_nil c rest), Option.any_some,
        bareBlank _ (all _ last)]
      rfl
  next =>
    refine endsSolid_append _ _ ?_
    cases dialect <;> rfl

/-- A line that has nothing to lose where its statement is written on one line. -/
structure IsSolid (line : Text) : Prop where
  flat : .newline ∉ line
  starts : startsSolid line = true
  ends : endsSolid line = true

private theorem splitOn_flat (line : Text) (flat : .newline ∉ line) :
    Text.splitOn .newline line = [line] := by
  induction line with
  | nil => rfl
  | cons c rest ih =>
    rw [List.mem_cons, not_or] at flat
    rw [Text.splitOn, if_neg (Ne.symm flat.1), ih flat.2]

private theorem splitOn_line (line rest : Text) (flat : .newline ∉ line) :
    Text.splitOn .newline (line ++ .newline :: rest) = line :: Text.splitOn .newline rest := by
  induction line with
  | nil => rfl
  | cons c line ih =>
    rw [List.mem_cons, not_or] at flat
    rw [List.cons_append, Text.splitOn, if_neg (Ne.symm flat.1), ih flat.2]

private theorem dropWhile_solid (t rest : Text) (starts : startsSolid t = true) :
    (t ++ rest).dropWhile CodePoint.isBlank = t ++ rest := by
  cases t with
  | nil => cases starts
  | cons c t =>
    have solid : c.isBlank = false := by simpa [startsSolid] using starts
    rw [List.cons_append, List.dropWhile_cons, solid]
    rfl

-- The blanks at the end of a solid line are all that is lost
private theorem trim_solid (line : Text) (solid : IsSolid line) (blanks : Text)
    (blank : ∀ c ∈ blanks, c.isBlank = true) :
    Text.trim CodePoint.isBlank (line ++ blanks) = line := by
  have ending : startsSolid line.reverse = true := by
    rw [startsSolid, List.head?_reverse]
    exact solid.ends
  have dropped := dropWhile_solid line.reverse [] ending
  rw [List.append_nil] at dropped
  rw [Text.trim, dropWhile_solid line blanks solid.starts, List.reverse_append,
    List.dropWhile_append_of_pos fun c member => blank c (List.mem_reverse.mp member), dropped,
    List.reverse_reverse]

private theorem splitOn_join (line : Text) (others : List Text)
    (solid : ∀ other ∈ line :: others, IsSolid other) :
    (Text.splitOn .newline (Text.join " \n" (line :: others))).map (Text.trim CodePoint.isBlank) =
      line :: others := by
  induction others generalizing line with
  | nil =>
    have own := solid line List.mem_cons_self
    have trimmed := trim_solid line own [] (by simp)
    rw [List.append_nil] at trimmed
    rw [Text.join, splitOn_flat line own.flat, List.map_singleton, trimmed]
  | cons next others ih =>
    have own := solid line List.mem_cons_self
    have split : Text.join " \n" (line :: next :: others) =
        (line ++ [.space]) ++ .newline :: Text.join " \n" (next :: others) := by
      rw [join_cons_cons, List.append_assoc, List.append_assoc]
      rfl
    have flat : .newline ∉ line ++ [.space] := by
      rw [List.mem_append, not_or]
      exact ⟨own.flat, by decide⟩
    have trimmed := trim_solid line own [.space] fun c member => by
      rw [List.mem_singleton.mp member]
      rfl
    rw [split, splitOn_line _ _ flat, List.map_cons, trimmed,
      ih next fun other member => solid other (List.mem_cons_of_mem _ member)]

/-- Solid lines are put one behind the other. -/
theorem oneLine_join (lines : List Text) (solid : ∀ line ∈ lines, IsSolid line) :
    oneLine (Text.join " \n" lines) = Text.join " " lines := by
  cases lines with
  | nil => rfl
  | cons line others =>
    rw [oneLine, splitOn_join line others solid]
    have kept : (line :: others).filter (!·.isEmpty) = line :: others := by
      rw [List.filter_eq_self]
      intro other member
      cases other with
      | nil => cases (solid _ member).starts
      | cons c rest => rfl
    exact congrArg (Text.join " ") kept

/-- The text of a statement, as it is and on one line, is read as the parts of the statement. -/
theorem tokens_statement (dialect : Dialect) (statement : Statement)
    (flat : ∀ name ∈ statement.names, .newline ∉ name)
    (plain : ∀ p ∈ statement.parameters, p.isPlain = true)
    (solid : ∀ line ∈ statement.lines dialect, startsSolid line = true ∧ endsSolid line = true) :
    tokens dialect (render dialect statement) =
        some ((statement.lexemes dialect).flatten.map Lexeme.read) ∧
      tokens dialect (oneLine (render dialect statement)) =
        some ((statement.lexemes dialect).flatten.map Lexeme.read) := by
  have lines := reads_statement dialect statement flat plain
  have flatLines : ∀ line ∈ statement.lines dialect, .newline ∉ line :=
    ((List.forall₂_and_left _ _).mp (lines.imp fun _ _ reads => ⟨reads.flat, reads⟩)).1
  have whole : ∀ line ∈ statement.lines dialect, IsSolid line := fun line member =>
    ⟨flatLines line member, (solid line member).1, (solid line member).2⟩
  rw [render_eq, oneLine_join _ whole]
  constructor
  · rw [tokens_lines _ _ lines, List.map_flatten]
  · have gap := opens_fixed dialect " " (by cases dialect <;> rfl)
    have none : (fixed dialect " ").map Lexeme.read = [] := by
      cases dialect <;> rfl
    have joined := reads_join " " _ rfl gap _ _ lines
    rw [none] at joined
    rw [joined.tokens, intercalate_empty, List.map_flatten]

end Tenancy.Sql
