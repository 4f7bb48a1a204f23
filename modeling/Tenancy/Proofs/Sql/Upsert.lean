import Tenancy.Proofs.Distinct
import Tenancy.Proofs.Outcome
import Tenancy.Proofs.Sql.Reading
import Tenancy.Sql.Build

/-!
# Upserts

An upsert is asked for by the names of columns, and every type of database makes the same one of the
request. It holds the given columns and the columns to update in the order of the table, so the
order of the request, and a name that stands in it twice, make no difference. What is refused is
refused alike, and in one order: first the values under a name that is taken, then the columns to
update, then the other values.
-/
namespace Tenancy

namespace Table

/-- The names of a table's columns. -/
def names (table : Table) : List Text := table.columns.map fun column => Text.ofString column.name

/-- The columns that are among some names, in the order of the table. -/
def named (table : Table) (names : List Text) : List Column :=
  table.columns.filter fun column => names.contains (Text.ofString column.name)

variable (table : Table)

theorem column?_eq_none_iff (name : Text) : table.column? name = none ↔ name ∉ table.names := by
  simp [column?, names]

theorem column?_some {name : Text} {column : Column} (found : table.column? name = some column) :
    column ∈ table.columns ∧ Text.ofString column.name = name :=
  ⟨List.mem_of_find?_eq_some found, by simpa using List.find?_some found⟩

/-- The columns that are named depend on which names there are only. -/
theorem named_congr {some others : List Text} (same : ∀ name, name ∈ others ↔ name ∈ some) :
    table.named others = table.named some := by
  refine List.filter_congr fun column _ => ?_
  rw [Bool.eq_iff_iff, List.contains_iff_mem, List.contains_iff_mem]
  exact same _

theorem named_ne_nil {some : List Text} (nonempty : some ≠ [])
    (known : ∀ name ∈ some, name ∈ table.names) : table.named some ≠ [] := by
  obtain ⟨name, member⟩ := List.exists_mem_of_ne_nil some nonempty
  obtain ⟨column, isColumn, rfl⟩ := List.mem_map.mp (known name member)
  exact List.ne_nil_of_mem (List.mem_filter.mpr ⟨isColumn, List.contains_iff_mem.mpr member⟩)

end Table

namespace Sql

/-! ## Names that are taken -/

/-- Whether no value has a name that is taken. -/
def NamesAreFree (values : List (Text × Value)) : Prop :=
  ∀ taken ∈ takenNames, Text.ofString taken.1 ∉ values.map (·.1)

-- The name of an argument is that of a value
private theorem any_name_iff (values : List (Text × Value)) (taken : Text) :
    (values.any fun (name, _) => name == taken) = true ↔ taken ∈ values.map (·.1) := by
  rw [List.any_eq_true, List.mem_map]
  exact exists_congr fun value => and_congr_right fun _ => beq_iff_eq

theorem checkNames_free (values : List (Text × Value)) (free : NamesAreFree values) :
    checkNames values = .ok () := by
  rw [checkNames]
  split
  next => rfl
  next taken function found =>
    have isUsed := List.find?_some found
    exact absurd ((any_name_iff values _).mp isUsed) (free _ (List.mem_of_find?_eq_some found))

theorem checkNames_taken (values : List (Text × Value)) (used : ¬NamesAreFree values) :
    ∃ taken ∈ takenNames, Text.ofString taken.1 ∈ values.map (·.1) ∧
      checkNames values = .error (.argumentTwice taken.2 taken.1) := by
  rw [checkNames]
  split
  next found =>
    rw [List.find?_eq_none] at found
    exact absurd (fun taken member isIn =>
      found taken member ((any_name_iff values _).mpr isIn)) used
  next taken function found =>
    have isUsed := List.find?_some found
    exact ⟨(taken, function), List.mem_of_find?_eq_some found, (any_name_iff values _).mp isUsed,
      rfl⟩

/-! ## Columns to update -/

section
variable (table : Table)

theorem lookUpColumns_known (names : List Text) (known : ∀ name ∈ names, name ∈ table.names) :
    ∃ columns, lookUpColumns table names = .ok columns ∧ (∀ column ∈ columns,
      column ∈ table.columns) ∧ columns.map (fun column => Text.ofString column.name) = names := by
  induction names with
  | nil => exact ⟨[], rfl, by simp, rfl⟩
  | cons name rest ih =>
    obtain ⟨columns, looked, among, called⟩ := ih fun other member =>
      known other (List.mem_cons_of_mem _ member)
    cases found : table.column? name with
    | none => exact absurd (known name List.mem_cons_self) ((table.column?_eq_none_iff _).mp found)
    | some column =>
      obtain ⟨isColumn, isCalled⟩ := table.column?_some found
      refine ⟨column :: columns, ?_, List.forall_mem_cons.mpr ⟨isColumn, among⟩, ?_⟩
      · rw [lookUpColumns, found, looked]
        rfl
      · rw [List.map_cons, isCalled, called]

/-- The first name that is no column's is the fault. -/
theorem lookUpColumns_unknown (names rest : List Text) (unknown : Text)
    (known : ∀ name ∈ names, name ∈ table.names) (stranger : unknown ∉ table.names) :
    lookUpColumns table (names ++ unknown :: rest) = .error (.unknownColumn unknown) := by
  induction names with
  | nil => rw [List.nil_append, lookUpColumns, (table.column?_eq_none_iff _).mpr stranger]
  | cons name names ih =>
    have failed := ih fun other member => known other (List.mem_cons_of_mem _ member)
    cases found : table.column? name with
    | none => exact absurd (known name List.mem_cons_self) ((table.column?_eq_none_iff _).mp found)
    | some column =>
      rw [List.cons_append, lookUpColumns, found, failed]
      rfl

-- Columns of distinct names are told apart by them
private theorem filter_any (distinct : table.names.Nodup) (columns : List Column)
    (among : ∀ column ∈ columns, column ∈ table.columns) :
    (table.columns.filter fun column => columns.any (·.name == column.name)) =
      table.named (columns.map fun column => Text.ofString column.name) := by
  refine List.filter_congr fun column isColumn => ?_
  rw [Bool.eq_iff_iff, List.any_eq_true, List.contains_iff_mem, List.mem_map]
  constructor
  · rintro ⟨other, member, same⟩
    exact ⟨other, member, congrArg Text.ofString (beq_iff_eq.mp same)⟩
  · rintro ⟨other, member, same⟩
    have equal := List.inj_on_of_nodup_map distinct (among other member) isColumn same
    exact ⟨other, member, beq_iff_eq.mpr (congrArg Column.name equal)⟩

/-! ## Values -/

-- Of values under distinct names it makes no difference from which end they are looked through
private theorem find?_reverse_iff (values : List (Text × Value))
    (mapping : (values.map (·.1)).Nodup) (name : Text) (value : Text × Value) :
    (values.reverse.find? fun (other, _) => other == name) = some value ↔
      value ∈ values ∧ value.1 = name := by
  rw [← find?_name_iff name values mapping, ← find?_reverse name values mapping]

theorem valuesInOrder_perm (values others : List (Text × Value))
    (mapping : (values.map (·.1)).Nodup) (perm : others.Perm values) :
    valuesInOrder table others = valuesInOrder table values := by
  have alike (name : Text) : (others.reverse.find? fun (other, _) => other == name) =
      values.reverse.find? fun (other, _) => other == name := by
    refine Option.ext fun value => ?_
    rw [find?_reverse_iff values mapping,
      find?_reverse_iff others ((perm.map _).nodup_iff.mpr mapping), perm.mem_iff]
  simp only [valuesInOrder, alike]

/-- The columns that take a value are those that are given, in the order of the table. -/
theorem valuesInOrder_columns (values : List (Text × Value)) :
    (valuesInOrder table values).map (·.1) = table.named (values.map (·.1)) := by
  rw [valuesInOrder, Table.named, List.map_filterMap, ← List.filterMap_eq_filter]
  refine congrArg (List.filterMap · table.columns) (funext fun column => ?_)
  cases found : values.reverse.find? fun (name, _) => name == Text.ofString column.name with
  | none =>
    have absent : Text.ofString column.name ∉ values.map (·.1) := by
      rw [List.find?_eq_none] at found
      intro member
      obtain ⟨value, isIn, same⟩ := List.mem_map.mp member
      exact found value (List.mem_reverse.mpr isIn) (beq_iff_eq.mpr same)
    simp [Option.guard, absent]
  | some value =>
    have present : Text.ofString column.name ∈ values.map (·.1) := by
      have same := List.find?_some found
      rw [← beq_iff_eq.mp same]
      exact List.mem_map_of_mem (List.mem_reverse.mp (List.mem_of_find?_eq_some found))
    simp [Option.guard, present]

/-- Every value reaches the column of its name. -/
theorem valuesInOrder_values (distinct : table.names.Nodup) (values : List (Text × Value))
    (mapping : (values.map (·.1)).Nodup) (known : ∀ name ∈ values.map (·.1), name ∈ table.names) :
    ((valuesInOrder table values).map fun value => (Text.ofString value.1.name, value.2)).Perm
      values := by
  have names : ((valuesInOrder table values).map fun value =>
      (Text.ofString value.1.name, value.2)).map (·.1) =
        (table.named (values.map (·.1))).map fun column => Text.ofString column.name := by
    rw [← valuesInOrder_columns, List.map_map, List.map_map]
    rfl
  have once : ((valuesInOrder table values).map fun value =>
      (Text.ofString value.1.name, value.2)).Nodup := by
    refine List.Nodup.of_map (·.1) ?_
    rw [names]
    exact distinct.sublist (List.filter_sublist.map _)
  refine (List.perm_ext_iff_of_nodup once (List.Nodup.of_map _ mapping)).mpr fun value => ?_
  simp only [valuesInOrder, List.mem_map, List.mem_filterMap, Option.map_eq_some_iff]
  constructor
  · rintro ⟨_, ⟨column, isColumn, found, isFound, rfl⟩, rfl⟩
    obtain ⟨isIn, same⟩ := (find?_reverse_iff values mapping _ _).mp isFound
    rw [← same]
    exact isIn
  · intro isIn
    obtain ⟨column, isColumn, same⟩ := List.mem_map.mp (known _ (List.mem_map_of_mem isIn))
    exact ⟨(column, value.2), ⟨column, isColumn, value,
      (find?_reverse_iff values mapping _ _).mpr ⟨isIn, same.symm⟩, rfl⟩, by rw [same]⟩

theorem mem_unknownNames (values : List (Text × Value)) (name : Text) :
    name ∈ unknownNames table values ↔ name ∈ values.map (·.1) ∧ name ∉ table.names := by
  rw [unknownNames, List.mem_filter, List.mem_eraseDups, Option.isNone_iff_eq_none,
    Table.column?_eq_none_iff]

end

/-! ## Texts -/

section
variable (dialect : Dialect)

def Token.ofWord (w : String) : Token := .word (Text.ofString w)

def Token.sign (c : Char) : Token := .symbol (CodePoint.ofChar c)

def Token.ofColumn (column : Column) : Token := .ofName (Text.ofString column.name)

/-- Tokens of several things, with commas between them. -/
def listTokens (parts : List (List Token)) : List Token := [Token.sign ','].intercalate parts

/-- The type that PostgreSQL is to convert the value of a column to. -/
def castWord : ColumnType → String
  | .bigint => "BIGINT"
  | _ => "VARCHAR"

/-- The tokens of the mark that stands for the value of a column. -/
def markTokens (column : Column) : List Token :=
  match dialect with
  | .mysql => [.sign '%', .ofWord "s"]
  | .postgres =>
    [.sign '%', .sign '(', .word (Text.ofString column.name), .sign ')', .ofWord "s", .sign ':',
      .sign ':', .ofWord (castWord column.type)]
  | .sqlite => [.sign '?']

/-- The tokens of an assignment: a column takes what its like in the proposed row has. -/
def assignmentTokens (column : Column) : List Token :=
  match dialect with
  | .mysql =>
    [.ofColumn column, .sign '=', .ofWord "VALUES", .sign '(', .ofColumn column, .sign ')']
  | _ => [.ofColumn column, .sign '=', .ofWord "excluded", .sign '.', .ofColumn column]

/-- The tokens of what is done where the key is there already. -/
def conflictTokens (key updates : List Column) : List Token :=
  let assignments := listTokens (updates.map (assignmentTokens dialect))
  match dialect with
  | .mysql => [.ofWord "ON", .ofWord "DUPLICATE", .ofWord "KEY", .ofWord "UPDATE"] ++ assignments
  | _ =>
    [.ofWord "ON", .ofWord "CONFLICT", .sign '('] ++ listTokens (key.map fun column =>
      [.ofColumn column]) ++ [.sign ')', .ofWord "DO", .ofWord "UPDATE", .ofWord "SET"] ++
        assignments

/-- The tokens of an upsert that gives some columns of a table and updates others. -/
def upsertTokens (table : Table) (given updates : List Column) : List Token :=
  [.ofWord "INSERT", .ofWord "INTO", .ofName table.name] ++
    ([.sign '('] ++ listTokens (given.map fun column => [.ofColumn column]) ++
      [.sign ')', .ofWord "VALUES", .sign '('] ++ listTokens (given.map (markTokens dialect)) ++
        [.sign ')']) ++
    conflictTokens dialect table.key updates

private theorem read_commas {α : Type} (items : List α) (lexemes : α → List Lexeme)
    (read : α → List Token) (same : ∀ item, (lexemes item).map Lexeme.read = read item) :
    (commaLexemes dialect (items.map lexemes)).map Lexeme.read = listTokens (items.map read) := by
  have comma : (fixed dialect ", ").map Lexeme.read = [Token.sign ','] := by
    cases dialect <;> rfl
  rw [commaLexemes, map_intercalate, comma, List.map_map, listTokens]
  exact congrArg _ (List.map_congr_left fun item _ => same item)

private theorem read_mark (value : Column × Value) :
    ((Parameter.ofColumn value).lexemes dialect).map Lexeme.read =
      markTokens dialect value.1 := by
  obtain ⟨⟨name, type, isKey, nullable, indexed⟩, value⟩ := value
  cases dialect with
  | mysql => rfl
  | sqlite => rfl
  | postgres =>
    have opening : (fixed .postgres "%(").map Lexeme.read = [.sign '%', .sign '('] := rfl
    have closing : (fixed .postgres ")s").map Lexeme.read = [.sign ')', .ofWord "s"] := rfl
    have asText : (fixed .postgres (conversion .varchar)).map Lexeme.read =
        [.sign ':', .sign ':', .ofWord "VARCHAR"] := rfl
    have conversion : (fixed .postgres (conversion (.ofColumn type))).map Lexeme.read =
        [.sign ':', .sign ':', .ofWord (castWord type)] := by
      cases type with
      | varchar length => exact asText
      | text => exact asText
      | bigint => rfl
    simp only [Parameter.lexemes, Parameter.ofColumn, List.map_append, opening, closing,
      conversion]
    rfl

private theorem read_assignment (column : Column) :
    (assignmentLexemes dialect column).map Lexeme.read = assignmentTokens dialect column := by
  cases dialect <;> rfl

private theorem read_values (values : List (Column × Value)) (nonempty : values ≠ []) :
    (valuesLexemes dialect values).map Lexeme.read =
      [.sign '('] ++ listTokens ((values.map (·.1)).map fun column => [.ofColumn column]) ++
        [.sign ')', .ofWord "VALUES", .sign '('] ++
        listTokens ((values.map (·.1)).map (markTokens dialect)) ++ [.sign ')'] := by
  have columns := read_commas dialect values
    (fun value => [.name (Text.ofString value.1.name)]) (fun value => [.ofColumn value.1])
    fun value => rfl
  have marks := read_commas dialect values _ (fun value => markTokens dialect value.1)
    (read_mark dialect)
  have opening : (fixed dialect "(").map Lexeme.read = [.sign '('] := by
    cases dialect <;> rfl
  have middle : (fixed dialect ") VALUES (").map Lexeme.read =
      [.sign ')', .ofWord "VALUES", .sign '('] := by
    cases dialect <;> rfl
  have closing : (fixed dialect ")").map Lexeme.read = [.sign ')'] := by
    cases dialect <;> rfl
  obtain ⟨value, rest, rfl⟩ := List.exists_cons_of_ne_nil nonempty
  rw [valuesLexemes, List.map_append, List.map_append, List.map_append, List.map_append, columns,
    marks, opening, middle, closing, List.map_map, List.map_map]
  · rfl
  all_goals simp

private theorem read_conflict (upsert : Upsert) :
    (conflictLexemes dialect upsert).map Lexeme.read =
      conflictTokens dialect upsert.table.key upsert.updates := by
  have assignments := read_commas dialect upsert.updates _ _ (read_assignment dialect)
  have key := read_commas dialect upsert.table.key
    (fun column => [.name (Text.ofString column.name)]) (fun column => [.ofColumn column])
    fun column => rfl
  cases dialect <;>
    simp only [conflictLexemes, conflictTokens, List.map_append, assignments, key] <;> rfl

/-- Whether a name is a word, which stands as it is in the marks of parameters. -/
def isWord (name : Text) : Bool := !name.isEmpty && name.all Scan.isWordCharacter

private theorem flat_word (name : Text) (word : isWord name = true) : .newline ∉ name := by
  simp only [isWord, Bool.and_eq_true, Bool.not_eq_true'] at word
  exact (reads_word .mysql name (by simpa using word.1) word.2).flat

/-- The text of an upsert is read as one, whatever the name of its table. -/
theorem tokens_upsert (upsert : Upsert) (nonempty : upsert.values ≠ [])
    (words : ∀ column ∈ upsert.values.map (·.1) ++ (upsert.table.key ++ upsert.updates),
      isWord (Text.ofString column.name) = true) :
    tokens dialect (renderUpsert dialect upsert) =
      some (upsertTokens dialect upsert.table (upsert.values.map (·.1)) upsert.updates) := by
  have insert : Opens dialect "INSERT INTO " [.ofWord "INSERT", .ofWord "INTO"] := by
    cases dialect <;> exact opens_fixed _ _ rfl
  have gap : Opens dialect " " [] := by
    cases dialect <;> exact opens_fixed _ _ rfl
  have given (value : Column × Value) (member : value ∈ upsert.values) :=
    words _ (List.mem_append_left _ (List.mem_map_of_mem member))
  have values := reads_values dialect upsert.values
    (fun value member => flat_word _ (given value member)) given
  have conflict := reads_conflict dialect upsert fun column member =>
    flat_word _ (words _ (List.mem_append_right _ member))
  rw [read_values dialect _ nonempty] at values
  rw [read_conflict] at conflict
  have rest := ((gap.append_reads values).append_opens gap rfl).append_reads conflict
  have whole := tokens_identifier dialect upsert.table.name _ _ _ _ insert rest rfl
  simpa [renderUpsert, renderInsert, upsertTokens] using whole

end

/-! ## Requests -/

/-- Names of columns that are distinct words, none of which is taken. -/
structure WellNamed (names : List Text) : Prop where
  distinct : names.Nodup
  words : ∀ name ∈ names, isWord name = true
  free : ∀ taken ∈ takenNames, Text.ofString taken.1 ∉ names

theorem wellNamed_tables (tablePrefix : Text) (table : Table)
    (member : table ∈ (Schema.withPrefix tablePrefix).tables) : WellNamed table.names := by
  -- The beginning is that of the name of a table, not of a column
  have same : (Schema.withPrefix tablePrefix).tables.map Table.names =
      (Schema.withPrefix []).tables.map Table.names := rfl
  have among : table.names ∈ (Schema.withPrefix tablePrefix).tables.map Table.names :=
    List.mem_map_of_mem member
  rw [same] at among
  have all : ∀ names ∈ (Schema.withPrefix []).tables.map Table.names, names.Nodup ∧
      (∀ name ∈ names, isWord name = true) ∧
        ∀ taken ∈ takenNames, Text.ofString taken.1 ∉ names := by
    decide +kernel
  obtain ⟨distinct, words, free⟩ := all _ among
  exact ⟨distinct, words, free⟩

section
variable {table : Table} {values : List (Text × Value)} {updates : List Text}

/-- The upsert that a request comes to: columns are given and updated in the order of the table. -/
def Upsert.asked (table : Table) (values : List (Text × Value)) (updates : List Text) : Upsert :=
  ⟨table, valuesInOrder table values, table.named updates⟩

theorem namesAreFree_known (well : WellNamed table.names)
    (known : ∀ name ∈ values.map (·.1), name ∈ table.names) : NamesAreFree values :=
  fun taken member used => well.free taken member (known _ used)

-- Once there are columns to update, only the names of the values are left to be looked at
private theorem ofNames_updates (dialect : Dialect) (distinct : table.names.Nodup)
    (free : NamesAreFree values) (nonempty : updates ≠ [])
    (known : ∀ name ∈ updates, name ∈ table.names) :
    Upsert.ofNames dialect table values updates =
      match unknownNames table values with
      | [] => .ok (Upsert.asked table values updates)
      | names => .error (.unknownValueColumns names) := by
  obtain ⟨columns, looked, among, called⟩ := lookUpColumns_known table updates known
  have some : columns.isEmpty = false := by
    rw [List.isEmpty_eq_false_iff]
    rintro rfl
    exact nonempty called.symm
  have named := filter_any table distinct columns among
  rw [called] at named
  rw [Upsert.ofNames, checkNames_free values free, looked]
  cases unknownNames table values <;>
    simp only [bind, Except.bind, some, Bool.false_eq_true, if_false, named, Upsert.asked]

theorem ofNames_known (dialect : Dialect) (well : WellNamed table.names)
    (given : ∀ name ∈ values.map (·.1), name ∈ table.names) (nonempty : updates ≠ [])
    (known : ∀ name ∈ updates, name ∈ table.names) :
    Upsert.ofNames dialect table values updates = .ok (Upsert.asked table values updates) := by
  have none : unknownNames table values = [] := by
    rw [List.eq_nil_iff_forall_not_mem]
    intro name member
    obtain ⟨isGiven, stranger⟩ := (mem_unknownNames table values name).mp member
    exact stranger (given name isGiven)
  rw [ofNames_updates dialect well.distinct (namesAreFree_known well given) nonempty known, none]

theorem ofNames_unknownValue (dialect : Dialect) (well : WellNamed table.names)
    (free : NamesAreFree values) (nonempty : updates ≠ [])
    (known : ∀ name ∈ updates, name ∈ table.names)
    (stranger : ∃ name ∈ values.map (·.1), name ∉ table.names) :
    Upsert.ofNames dialect table values updates =
      .error (.unknownValueColumns (unknownNames table values)) := by
  obtain ⟨name, isGiven, isStranger⟩ := stranger
  have member := (mem_unknownNames table values name).mpr ⟨isGiven, isStranger⟩
  rw [ofNames_updates dialect well.distinct free nonempty known]
  cases names : unknownNames table values with
  | nil =>
    rw [names] at member
    cases member
  | cons first rest => rfl

theorem ofNames_unknownColumn (dialect : Dialect) (free : NamesAreFree values)
    (names rest : List Text) (unknown : Text) (known : ∀ name ∈ names, name ∈ table.names)
    (stranger : unknown ∉ table.names) :
    Upsert.ofNames dialect table values (names ++ unknown :: rest) =
      .error (.unknownColumn unknown) := by
  rw [Upsert.ofNames, checkNames_free values free,
    lookUpColumns_unknown table names rest unknown known stranger]
  rfl

/-- What is sent for a request: one mark and one parameter for each column that is given, in the
order of the table, and the values of the request under their names; the text is read as an upsert
that updates the columns of the request, each once and from its like. -/
structure Upsert.Answers (upsert : Upsert) (table : Table) (values : List (Text × Value))
    (updates : List Text) : Prop where
  parameters : upsert.parameters.map (·.name) =
    (table.named (values.map (·.1))).map fun column => Text.ofString column.name
  bindings : (Statement.upsert upsert).bindings.Perm values
  text : ∀ dialect, tokens dialect (render dialect (.upsert upsert)) =
    some (upsertTokens dialect table (table.named (values.map (·.1))) (table.named updates))

theorem asked_answers (well : WellNamed table.names) (mapping : (values.map (·.1)).Nodup)
    (some : values ≠ []) (given : ∀ name ∈ values.map (·.1), name ∈ table.names) :
    (Upsert.asked table values updates).Answers table values updates := by
  have columns := valuesInOrder_columns table values
  have nonempty : valuesInOrder table values ≠ [] := by
    intro empty
    rw [empty] at columns
    exact table.named_ne_nil (mt List.map_eq_nil_iff.mp some) given columns.symm
  constructor
  · rw [← columns, Upsert.parameters, List.map_map, List.map_map]
    rfl
  · refine (List.mergeSort_perm _ _).trans ?_
    rw [Statement.parameters, Upsert.parameters, List.map_map]
    exact valuesInOrder_values table well.distinct values mapping given
  · intro dialect
    rw [← columns]
    refine tokens_upsert dialect (Upsert.asked table values updates) nonempty
      fun column member => well.words _ (List.mem_map_of_mem ?_)
    -- Whatever the upsert has to do with are columns of the table
    rcases List.mem_append.mp member with isGiven | member
    · have among : column ∈ table.named (values.map (·.1)) := columns ▸ isGiven
      exact List.mem_of_mem_filter among
    · rcases List.mem_append.mp member with key | update
      · exact List.mem_of_mem_filter key
      · exact List.mem_of_mem_filter update

end

theorem asked_congr (table : Table) (values others : List (Text × Value))
    (mapping : (values.map (·.1)).Nodup) (perm : others.Perm values) (updates wanted : List Text)
    (same : ∀ name, name ∈ wanted ↔ name ∈ updates) :
    Upsert.asked table others wanted = Upsert.asked table values updates := by
  rw [Upsert.asked, Upsert.asked, valuesInOrder_perm table values others mapping perm,
    table.named_congr same]

/-- For every table of the store and every mapping of values, a request for known columns comes to
one upsert, which is the same for every type of database and whatever the order of the values and
the order and the number of the columns to update. Unless a value has a name that is taken, the
first unknown column to update is a fault whatever the values are, and an unknown name of a value is
one where there are columns to update and all are known. A name that is taken is a fault before all
this. -/
theorem upserts_agree (tablePrefix : Text) (table : Table)
    (member : table ∈ (Schema.withPrefix tablePrefix).tables) (values : List (Text × Value))
    (mapping : (values.map (·.1)).Nodup) :
    (table = (Schema.withPrefix tablePrefix).channelMembers → table.key = table.columns) ∧
    (values ≠ [] → (∀ name ∈ values.map (·.1), name ∈ table.names) →
      ∀ updates : List Text, updates ≠ [] → (∀ name ∈ updates, name ∈ table.names) →
        ∃ upsert : Upsert, upsert.Answers table values updates ∧
          ∀ others : List (Text × Value), others.Perm values →
            ∀ wanted : List Text, (∀ name, name ∈ wanted ↔ name ∈ updates) →
              ∀ dialect, Upsert.ofNames dialect table others wanted = .ok upsert) ∧
    (NamesAreFree values →
      (∀ (known rest : List Text) (unknown : Text), (∀ name ∈ known, name ∈ table.names) →
        unknown ∉ table.names → ∀ dialect,
          (Upsert.ofNames dialect table values (known ++ unknown :: rest)).mapError Fault.report =
            .error (.of "KeyError" unknown.quoted)) ∧
      ((∃ name ∈ values.map (·.1), name ∉ table.names) →
        ∀ updates : List Text, updates ≠ [] → (∀ name ∈ updates, name ∈ table.names) →
          ∃ names : List Text, names.Nodup ∧
            (∀ name, name ∈ names ↔ name ∈ values.map (·.1) ∧ name ∉ table.names) ∧
            ∀ dialect, (Upsert.ofNames dialect table values updates).mapError Fault.report =
              .error (.of "CompileError"
                ("Unconsumed column names: " ++ Text.join ", " names)))) ∧
    (¬NamesAreFree values →
      ∃ taken ∈ takenNames, Text.ofString taken.1 ∈ values.map (·.1) ∧
        ∀ dialect updates, (Upsert.ofNames dialect table values updates).mapError Fault.report =
          .error (.of "TypeError" (Text.ofString taken.2 ++ "() got multiple values for argument '"
            ++ Text.ofString taken.1 ++ "'"))) := by
  have well := wellNamed_tables tablePrefix table member
  refine ⟨?_, ?_, ?_, ?_⟩
  · rintro rfl
    rfl
  · intro some given updates nonempty known
    refine ⟨.asked table values updates, asked_answers well mapping some given, ?_⟩
    intro others perm wanted same dialect
    have wantedSome : wanted ≠ [] := by
      obtain ⟨name, isWanted⟩ := List.exists_mem_of_ne_nil updates nonempty
      exact List.ne_nil_of_mem ((same name).mpr isWanted)
    rw [← asked_congr table values others mapping perm updates wanted same]
    exact ofNames_known dialect well
      (fun name isGiven => given name ((perm.map _).mem_iff.mp isGiven)) wantedSome
      fun name isWanted => known name ((same name).mp isWanted)
  · intro free
    constructor
    · intro known rest unknown areKnown stranger dialect
      rw [ofNames_unknownColumn dialect free known rest unknown areKnown stranger]
      rfl
    · intro stranger updates nonempty known
      refine ⟨unknownNames table values, (nodup_eraseDups _).filter _,
        mem_unknownNames table values, fun dialect => ?_⟩
      rw [ofNames_unknownValue dialect well free nonempty known stranger]
      rfl
  · intro used
    obtain ⟨taken, isTaken, isUsed, fault⟩ := checkNames_taken values used
    refine ⟨taken, isTaken, isUsed, fun dialect updates => ?_⟩
    rw [Upsert.ofNames, fault]
    rfl

/-- A member is written with its channel before its user, whichever is named first. -/
theorem upserts_agree_members :
    ∃ upsert : Upsert,
      upsert.Answers (Schema.withPrefix "t_").channelMembers
        [("UserId", .text "u"), ("ChannelId", .text "c")] ["UserId"] ∧
      upsert.parameters.map (·.name) = [Text.ofString "ChannelId", "UserId"] ∧
      ∀ dialect, Upsert.ofNames dialect (Schema.withPrefix "t_").channelMembers
        [("ChannelId", .text "c"), ("UserId", .text "u")] ["UserId", "UserId"] = .ok upsert := by
  obtain ⟨_, built, _⟩ := upserts_agree "t_" (Schema.withPrefix "t_").channelMembers
    (by simp [Schema.tables]) [("UserId", .text "u"), ("ChannelId", .text "c")] (by decide +kernel)
  obtain ⟨upsert, answers, same⟩ := built (List.cons_ne_nil _ _) (by decide +kernel) ["UserId"]
    (List.cons_ne_nil _ _) (by decide +kernel)
  have order : (Schema.withPrefix "t_").channelMembers.named [Text.ofString "UserId", "ChannelId"] =
      (Schema.withPrefix "t_").channelMembers.columns := by decide +kernel
  refine ⟨upsert, answers, ?_, same _ (List.Perm.swap _ _ _) _ (by simp)⟩
  refine answers.parameters.trans ?_
  rw [List.map_cons, List.map_cons, List.map_nil, order]
  rfl

/-- A value under the name of an argument is refused for that name, not as a value that no column
takes. -/
theorem ofNames_self :
    Text.ofString "self" ∉ (Schema.withPrefix []).workspaces.names ∧
      Text.ofString "id" ∈ (Schema.withPrefix []).workspaces.names ∧
      ∀ message, (Upsert.ofNames .sqlite (Schema.withPrefix []).workspaces [("self", .int 1)]
        ["id"]).mapError Fault.report ≠ .error (.of "CompileError" message) := by
  refine ⟨by decide +kernel, by decide +kernel, ?_⟩
  intro message same
  have kinds : Text.ofString "TypeError" = Text.ofString "CompileError" :=
    congrArg Report.kind (Except.error.inj same)
  exact absurd kinds (by decide +kernel)

end Sql

end Tenancy
