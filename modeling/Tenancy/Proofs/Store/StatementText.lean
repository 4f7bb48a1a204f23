import Tenancy.Proofs.Sql.Reading
import Tenancy.Proofs.Store.Stages

/-!
# The texts of the store's statements

The store issues five statements. Their texts depend on the type of database and on the beginning of
the table's name, and on nothing that a caller gives. Whatever the table's name begins with, it
stands as one token in its places, and the other tokens stay the same.
-/
namespace Tenancy.Store

open Sql

/-- The statements of the store. -/
inductive StatementKind where
  | token
  | settings
  | workspace
  | count
  | listing
  deriving DecidableEq

namespace StatementKind

/-- The statement for values that are empty, if the type of database has one. -/
def statement? (dialect : Dialect) (tablePrefix : Text) : StatementKind → Option Statement :=
  let store : Store := ⟨dialect, .withPrefix tablePrefix⟩
  fun
    | .token => (store.tokenUpsert { id := [] } 0).toOption
    | .settings => (store.settingsUpsert { id := [] } [] [] 0).toOption
    | .workspace => some (store.workspaceQuery (.text []))
    | .count => some store.countQuery
    | .listing => (store.listingQuery (.text [])).toOption

/-- The text of a statement, on one line. -/
def text? (dialect : Dialect) (tablePrefix : Text) (kind : StatementKind) : Option Text :=
  (kind.statement? dialect tablePrefix).map fun statement => oneLine (render dialect statement)

/-- The tokens of a statement; the table of workspaces, which has no prefix here, is left open. -/
def shape (dialect : Dialect) (kind : StatementKind) : List (Option Token) :=
  ((kind.statement? dialect []).elim [] fun statement => (statement.lexemes dialect).flatten).map
    fun lexeme => if lexeme = .name "workspaces" then none else some lexeme.read

/-- The tokens of a statement with the table of workspaces. -/
def tokensFor (dialect : Dialect) (kind : StatementKind) (table : Token) : List Token :=
  (kind.shape dialect).map fun token => token.getD table

end StatementKind

/-! ## The texts are read -/

-- The tables of a listing have names of their own
private theorem statement?_listing (dialect : Dialect) (tablePrefix : Text) :
    StatementKind.listing.statement? dialect tablePrefix =
      StatementKind.listing.statement? dialect [] :=
  rfl

section
variable (dialect : Dialect) (tablePrefix : Text) (kind : StatementKind) (statement : Statement)
  (is : kind.statement? dialect tablePrefix = some statement)
include is

private theorem read_shape : (statement.lexemes dialect).flatten.map Lexeme.read =
    kind.tokensFor dialect (.ofName (tablePrefix ++ "workspaces")) := by
  cases kind <;> cases dialect
  case listing.sqlite => cases is
  all_goals
    obtain rfl := Option.some.inj is
    rfl

-- All names but one are those of columns, of other tables, and labels
private theorem names_kind : ∀ name ∈ statement.names,
    name = tablePrefix ++ "workspaces" ∨ .newline ∉ name := by
  have renamed : ∃ names : List Text, names.all (fun name => !name.contains .newline) = true ∧
      statement.names = names.map fun name : Text =>
        if name = "workspaces" then tablePrefix ++ "workspaces" else name := by
    refine ⟨(kind.statement? dialect []).elim [] Statement.names, ?_, ?_⟩
    all_goals
      cases kind <;> cases dialect
      case listing.sqlite => cases is
      all_goals
        obtain rfl := Option.some.inj is
        rfl
  obtain ⟨names, flat, eq⟩ := renamed
  intro name member
  rw [eq] at member
  obtain ⟨other, inNames, rfl⟩ := List.mem_map.mp member
  split
  next => exact .inl rfl
  next =>
    have free := List.all_eq_true.mp flat other inNames
    exact .inr (by simpa using free)

private theorem plain_kind : ∀ p ∈ statement.parameters, p.isPlain = true := by
  rw [← List.all_eq_true]
  cases kind <;> cases dialect
  case listing.sqlite => cases is
  all_goals
    obtain rfl := Option.some.inj is
    rfl

private theorem solid_kind : ∀ line ∈ statement.lines dialect,
    startsSolid line = true ∧ endsSolid line = true := by
  have table := endsSolid_identifier dialect (tablePrefix ++ "workspaces")
  cases kind with
  | token =>
    obtain rfl := Option.some.inj is
    intro line member
    obtain rfl := List.mem_singleton.mp member
    refine ⟨rfl, endsSolid_append _ _ ?_⟩
    cases dialect <;> rfl
  | settings =>
    obtain rfl := Option.some.inj is
    intro line member
    obtain rfl := List.mem_singleton.mp member
    refine ⟨rfl, endsSolid_append _ _ ?_⟩
    cases dialect <;> rfl
  | workspace =>
    obtain rfl := Option.some.inj is
    intro line member
    simp only [Statement.lines, workspaceQuery, Query.lines, Expr.holdsValue, List.mem_cons,
      List.not_mem_nil, or_false] at member
    rcases member with rfl | rfl | rfl
    · refine ⟨rfl, ?_⟩
      simp only [List.map_cons, List.map_nil, Text.join, renderOutput, renderExpr]
      repeat' refine endsSolid_append _ _ ?_
      cases dialect <;> rfl
    · exact ⟨rfl, endsSolid_append _ _ table⟩
    · rw [renderGrouping, List.append_nil]
      refine ⟨rfl, endsSolid_append _ _ (endsSolid_append _ _ ?_)⟩
      cases dialect <;> rfl
  | count =>
    obtain rfl := Option.some.inj is
    intro line member
    simp only [Statement.lines, countQuery, Query.lines, List.mem_cons, List.not_mem_nil,
      or_false] at member
    rcases member with rfl | rfl
    · cases dialect <;> exact ⟨rfl, rfl⟩
    · rw [renderGrouping, List.append_nil]
      exact ⟨rfl, endsSolid_append _ _ table⟩
  | listing =>
    have all : (StatementKind.listing.statement? dialect []).all (fun statement =>
        (statement.lines dialect).all fun line => startsSolid line && endsSolid line) = true := by
      cases dialect <;> decide +kernel
    rw [statement?_listing] at is
    rw [is] at all
    intro line member
    rw [← Bool.and_eq_true]
    exact List.all_eq_true.mp all line member

/-- A statement is read as its tokens with the table of workspaces in its places. -/
theorem tokens_kind (flat : .newline ∉ tablePrefix) :
    tokens dialect (render dialect statement) =
        some (kind.tokensFor dialect (.ofName (tablePrefix ++ "workspaces"))) ∧
      tokens dialect (oneLine (render dialect statement)) =
        some (kind.tokensFor dialect (.ofName (tablePrefix ++ "workspaces"))) := by
  have names : ∀ name ∈ statement.names, .newline ∉ name := by
    intro name member
    rcases names_kind dialect tablePrefix kind statement is name member with rfl | free
    · rw [List.mem_append, not_or]
      exact ⟨flat, by decide⟩
    · exact free
  have read := tokens_statement dialect statement names
    (plain_kind dialect tablePrefix kind statement is)
    (solid_kind dialect tablePrefix kind statement is)
  rwa [read_shape dialect tablePrefix kind statement is] at read

end

/-! ## The texts are issued -/

/-- Whether all statements that a step issues have a text. -/
def Issues {α : Type} (text? : Option Text) (step : Step CannedDatabase α) : Prop :=
  ∀ world, ∃ calls, (step.result world).2.database.calls = calls ++ world.database.calls ∧
    ∀ t bindings, .statement t bindings ∈ calls → text? = some t

section
variable {α β : Type} {text? : Option Text}

theorem issues_of_kept (step : Step CannedDatabase α)
    (kept : ∀ world, (step.result world).2.database = world.database) : Issues text? step := by
  intro world
  refine ⟨[], ?_, ?_⟩
  · rw [kept]
    rfl
  · intro t bindings member
    cases member

theorem issues_bind (first : Step CannedDatabase α) (next : α → Step CannedDatabase β)
    (before : Issues text? first) (after : ∀ a, Issues text? (next a)) :
    Issues text? (first >>= next) := by
  intro world
  obtain ⟨calls, eq, texts⟩ := before world
  rcases ran : first.result world with ⟨outcome, middle⟩
  rw [ran] at eq
  cases outcome with
  | error fault =>
    rw [Step.result_bind_error _ _ _ _ _ ran]
    exact ⟨calls, eq, texts⟩
  | ok a =>
    obtain ⟨more, eq', texts'⟩ := after a middle
    rw [Step.result_bind_ok _ _ _ _ _ ran]
    refine ⟨more ++ calls, ?_, ?_⟩
    · rw [eq', eq, List.append_assoc]
    · intro t bindings member
      rcases List.mem_append.mp member with late | early
      · exact texts' t bindings late
      · exact texts t bindings early

theorem issues_ofExcept_bind (outcome : Except Fault α) (next : α → Step CannedDatabase β)
    (after : ∀ a, outcome = .ok a → Issues text? (next a)) :
    Issues text? (Step.ofExcept outcome >>= next) := by
  cases outcome with
  | error fault => exact issues_of_kept _ fun _ => rfl
  | ok a => exact after a rfl

theorem issues_ofExcept (outcome : Except Fault α) :
    Issues text? (Step.ofExcept outcome : Step CannedDatabase α) := by
  refine issues_of_kept _ fun world => ?_
  rw [Step.result_ofExcept]

theorem issues_connect (checkout : Checkout) :
    Issues text? (Step.connect checkout : Step CannedDatabase Unit) := by
  intro world
  rw [Step.result_connect]
  refine ⟨[.connection checkout], rfl, ?_⟩
  intro t bindings member
  cases List.mem_singleton.mp member

theorem issues_execute (dialect : Dialect) (statement : Statement)
    (same : text? = some (oneLine (render dialect statement))) :
    Issues text? (Step.execute dialect statement : Step CannedDatabase ResultSet) := by
  intro world
  rw [Step.result_execute]
  refine ⟨[.statement (oneLine (render dialect statement)) statement.bindings], rfl, ?_⟩
  intro t bindings member
  obtain ⟨rfl, -⟩ := Call.statement.inj (List.mem_singleton.mp member)
  exact same

theorem issues_logFailure (store : Store) (message : Text) (step : Step CannedDatabase α)
    (own : Issues text? step) : Issues text? (store.logFailure message step) := by
  intro world
  obtain ⟨calls, eq, texts⟩ := own world
  refine ⟨calls, ?_, texts⟩
  rw [logFailure, Step.result_tryCatch]
  rcases ran : step.result world with ⟨outcome, after⟩
  rw [ran] at eq
  cases outcome with
  | ok a => exact eq
  | error fault =>
    -- A failure is logged or not, and passed on
    dsimp only
    by_cases database : fault.isFromDatabase = true
    · simp only [database, if_true]
      exact eq
    · simp only [database]
      exact eq

theorem issues_decodeRows (context : List (String × Value)) (rows : List Value) :
    Issues text? (decodeRows context rows : Step CannedDatabase (List UserWorkspace)) := by
  induction rows with
  | nil => exact issues_of_kept _ fun _ => rfl
  | cons row rest ih =>
    rw [decodeRows]
    split
    · exact issues_bind _ _ ih fun _ => issues_of_kept _ fun _ => rfl
    · exact issues_of_kept _ fun _ => rfl

end

/-! ## Operations -/

/-- What the store is asked for, with all that a caller gives. -/
inductive Access where
  | write (operation : Operation)
  | workspace (id : Text)
  | count
  | listing (user : Text)

namespace Access

def kind : Access → StatementKind
  | .write (.token _) => .token
  | .write (.settings _) => .settings
  | .write (.regenerate _ _) => .token
  | .workspace _ => .workspace
  | .count => .count
  | .listing _ => .listing

/-- A request as a step of a store, whatever it gives back. -/
def step {δ : Type} [Engine δ] (store : Store) : Access → Step δ Unit
  | .write operation => do
    let _ ← operation.step store
  | .workspace id => do
    let _ ← store.getWorkspace (.text id)
  | .count => do
    let _ ← store.getWorkspaceCount
  | .listing user => do
    let _ ← store.getUserWorkspaces (.text user)

end Access

section
variable (dialect : Dialect) (tablePrefix : Text)

private theorem issues_write {text? : Option Text} (statement : Statement)
    (same : text? = some (oneLine (render dialect statement))) :
    Issues text? (writeWith ⟨dialect, .withPrefix tablePrefix⟩ statement :
      Step CannedDatabase Unit) :=
  issues_bind _ _ (issues_connect .transaction) fun _ =>
    issues_bind _ _ (issues_execute dialect statement same) fun _ => issues_of_kept _ fun _ => rfl

private theorem issues_buildWorkspace {text? : Option Text} (fields : Fields) :
    Issues text? (buildWorkspace fields : Step CannedDatabase Workspace) :=
  issues_ofExcept _

private theorem issues_readClock {text? : Option Text} :
    Issues text? (Step.readClock : Step CannedDatabase Int) := by
  refine issues_of_kept _ fun world => ?_
  rw [Step.result_readClock]

-- The values of an upsert are parameters
private theorem text?_token (workspace : Workspace) (seconds : Int) (statement : Statement)
    (built : tokenUpsert ⟨dialect, .withPrefix tablePrefix⟩ workspace seconds = .ok statement) :
    StatementKind.token.text? dialect tablePrefix = some (oneLine (render dialect statement)) := by
  obtain rfl := Except.ok.inj built
  cases dialect <;> rfl

private theorem text?_settings (workspace : Workspace) (token settings : Text) (seconds : Int)
    (statement : Statement)
    (built : settingsUpsert ⟨dialect, .withPrefix tablePrefix⟩ workspace token settings seconds =
      .ok statement) :
    StatementKind.settings.text? dialect tablePrefix =
      some (oneLine (render dialect statement)) := by
  obtain rfl := Except.ok.inj built
  cases dialect <;> rfl

private theorem issues_upsertSignupToken (workspace : Workspace) :
    Issues (StatementKind.token.text? dialect tablePrefix)
      (upsertSignupToken ⟨dialect, .withPrefix tablePrefix⟩ workspace :
        Step CannedDatabase Unit) :=
  issues_bind _ _ issues_readClock fun seconds =>
    issues_ofExcept_bind _ _ fun statement built =>
      issues_write dialect tablePrefix statement
        (text?_token dialect tablePrefix workspace seconds statement built)

private theorem issues_operation (operation : Operation) :
    Issues ((Access.write operation).kind.text? dialect tablePrefix)
      (operation.step ⟨dialect, .withPrefix tablePrefix⟩ :
        Step CannedDatabase (Option Text)) := by
  cases operation with
  | token fields =>
    exact issues_bind _ _ (issues_buildWorkspace fields) fun workspace =>
      issues_bind _ _ (issues_upsertSignupToken dialect tablePrefix workspace) fun _ =>
        issues_of_kept _ fun _ => rfl
  | settings fields =>
    refine issues_bind _ _ (issues_buildWorkspace fields) fun workspace => ?_
    refine issues_bind _ _ ?_ fun _ => issues_of_kept _ fun _ => rfl
    refine issues_bind _ _ issues_readClock fun seconds => ?_
    refine issues_bind _ _ (issues_ofExcept _) fun settings => ?_
    refine issues_bind _ _ (issues_of_kept _ fun _ => rfl) fun token => ?_
    exact issues_ofExcept_bind _ _ fun statement built =>
      issues_write dialect tablePrefix statement
        (text?_settings dialect tablePrefix workspace token settings seconds statement built)
  | regenerate id modifiedBy =>
    refine issues_bind _ _ ?_ fun _ => issues_of_kept _ fun _ => rfl
    refine issues_bind _ _ (issues_of_kept _ fun _ => rfl) fun token => ?_
    refine issues_bind _ _ (issues_buildWorkspace _) fun workspace => ?_
    refine issues_bind _ _ (issues_upsertSignupToken dialect tablePrefix workspace) fun _ => ?_
    exact issues_bind _ _ (issues_of_kept _ fun _ => rfl) fun _ => issues_of_kept _ fun _ => rfl

private theorem issues_decodeSettings {text? : Option Text} (store : Store) (id stored : Value) :
    Issues text? (store.decodeSettings id stored : Step CannedDatabase Json) := by
  unfold decodeSettings
  split
  · exact issues_of_kept _ fun _ => rfl
  · exact issues_bind _ _ (issues_of_kept _ fun _ => rfl) fun _ => issues_of_kept _ fun _ => rfl
  · exact issues_of_kept _ fun _ => rfl

private theorem issues_getWorkspace (id : Text) :
    Issues (StatementKind.workspace.text? dialect tablePrefix)
      (getWorkspace ⟨dialect, .withPrefix tablePrefix⟩ (.text id) :
        Step CannedDatabase Workspace) := by
  have same : StatementKind.workspace.text? dialect tablePrefix = some (oneLine (render dialect
      (workspaceQuery ⟨dialect, .withPrefix tablePrefix⟩ (.text id)))) := by
    cases dialect <;> rfl
  refine issues_bind _ _ (issues_connect .reading) fun _ => ?_
  refine issues_bind _ _ (issues_execute dialect _ same) fun result => ?_
  refine issues_bind _ _ (issues_ofExcept _) fun row => ?_
  split
  · exact issues_of_kept _ fun _ => rfl
  · exact issues_bind _ _ (issues_decodeSettings _ _ _) fun _ => issues_buildWorkspace _
  · exact issues_of_kept _ fun _ => rfl

private theorem issues_getWorkspaceCount :
    Issues (StatementKind.count.text? dialect tablePrefix)
      (getWorkspaceCount ⟨dialect, .withPrefix tablePrefix⟩ : Step CannedDatabase Int) := by
  refine issues_logFailure _ _ _ ?_
  refine issues_bind _ _ (issues_connect .reading) fun _ => ?_
  refine issues_bind _ _ (issues_execute dialect _ rfl) fun result => ?_
  refine issues_bind _ _ (issues_ofExcept _) fun value => ?_
  split <;> exact issues_of_kept _ fun _ => rfl

private theorem issues_getUserWorkspaces (user : Text) :
    Issues (StatementKind.listing.text? dialect tablePrefix)
      (getUserWorkspaces ⟨dialect, .withPrefix tablePrefix⟩ (.text user) :
        Step CannedDatabase (List UserWorkspace)) := by
  have same (statement : Statement)
      (built : listingQuery ⟨dialect, .withPrefix tablePrefix⟩ (.text user) = .ok statement) :
      StatementKind.listing.text? dialect tablePrefix =
        some (oneLine (render dialect statement)) := by
    cases dialect
    case sqlite => cases built
    all_goals
      obtain rfl := Except.ok.inj built
      rfl
  refine issues_ofExcept_bind _ _ fun statement built => ?_
  refine issues_bind _ _ (issues_connect .reading) fun _ => ?_
  refine issues_bind _ _ (issues_logFailure _ _ _
    (issues_execute dialect statement (same statement built))) fun result => ?_
  refine issues_bind _ _ (issues_decodeRows _ _) fun entries => ?_
  split <;> exact issues_of_kept _ fun _ => rfl

private theorem issues_access (access : Access) :
    Issues (access.kind.text? dialect tablePrefix)
      (access.step ⟨dialect, .withPrefix tablePrefix⟩ : Step CannedDatabase Unit) := by
  have quiet {α : Type} {text? : Option Text} (step : Step CannedDatabase α)
      (own : Issues text? step) : Issues text? (step >>= fun _ => pure ()) :=
    issues_bind _ _ own fun _ => issues_of_kept _ fun _ => rfl
  cases access with
  | write operation => exact quiet _ (issues_operation dialect tablePrefix operation)
  | workspace id => exact quiet _ (issues_getWorkspace dialect tablePrefix id)
  | count => exact quiet _ (issues_getWorkspaceCount dialect tablePrefix)
  | listing user => exact quiet _ (issues_getUserWorkspaces dialect tablePrefix user)

end

/-- What a caller gives never comes into the text of a statement: whatever a request asks for, with
any values, the statement has the one text of its kind. That text is read as the same tokens for
every beginning of the table's name that has no line break, but for the table of workspaces: it
stands as one token that denotes its whole name. It stands in every statement but the listing, whose
text is always the same. -/
theorem statement_texts (dialect : Dialect) (tablePrefix : Text) :
    let table := Token.ofName (tablePrefix ++ "workspaces")
    (∀ access : Access, Issues (access.kind.text? dialect tablePrefix)
      (access.step ⟨dialect, .withPrefix tablePrefix⟩)) ∧
      (∀ (kind : StatementKind) (statement : Statement),
        kind.statement? dialect tablePrefix = some statement →
          kind.text? dialect tablePrefix = some (oneLine (render dialect statement)) ∧
            (.newline ∉ tablePrefix →
              tokens dialect (render dialect statement) = some (kind.tokensFor dialect table) ∧
                tokens dialect (oneLine (render dialect statement)) =
                  some (kind.tokensFor dialect table))) ∧
      table.name? = some (tablePrefix ++ "workspaces") ∧
      (∀ kind : StatementKind, none ∈ kind.shape dialect ↔ kind ≠ .listing) ∧
      StatementKind.listing.text? dialect tablePrefix =
        StatementKind.listing.text? dialect [] := by
  refine ⟨issues_access dialect tablePrefix, ?_, Token.name?_ofName _, ?_, rfl⟩
  · intro kind statement is
    constructor
    · rw [StatementKind.text?, is]
      rfl
    · exact tokens_kind dialect tablePrefix kind statement is
  · intro kind
    cases kind <;> cases dialect <;> decide +kernel

/-- A quote and a percent sign in the name of the table stay inside its token. -/
theorem statement_texts_quoted :
    ∃ text, StatementKind.count.text? .postgres "a\"%" = some text ∧
      tokens .postgres text = some [.word "SELECT", .word "count", .symbol '(', .symbol '*',
        .symbol ')', .word "AS", .word "count", .word "FROM", .quoted "a\"%workspaces"] := by
  obtain ⟨-, read, -⟩ := statement_texts .postgres "a\"%"
  obtain ⟨text, shown⟩ := read .count _ rfl
  refine ⟨_, text, (shown (by decide)).2.trans ?_⟩
  decide +kernel

/-- A name with a dotless i stands without quotes, although it has a letter outside ASCII. -/
theorem dotless_i_stands_bare :
    ∃ text, StatementKind.count.text? .sqlite "ı" = some text ∧
      tokens .sqlite text = some [.word "SELECT", .word "count", .symbol '(', .symbol '*',
        .symbol ')', .word "AS", .word "count", .word "FROM", .word "ıworkspaces"] ∧
      ¬(Text.ofString "ıworkspaces").all (fun c =>
        c.isAsciiLower || c.isDigit || c == CodePoint.ofChar '_' || c == CodePoint.ofChar '$') =
          true := by
  refine ⟨_, rfl, ?_, ?_⟩
  · decide +kernel
  · decide +kernel

end Tenancy.Store
