import Mathlib.Data.List.Induction
import Tenancy.Proofs.Store.Run
import Tenancy.Proofs.Store.Stages
import Tenancy.Proofs.Token

/-!
# Tokens of different workspaces

A token that is minted comes from a seed of its own. As long as no seed is drawn twice, no two
workspaces ever have the same token, whatever fails: a seed that was drawn for nothing is gone. The
invariant is that each token in the table comes from a seed that has been drawn.
-/
namespace Tenancy

/-- The seeds that a supply gives between two of its states. -/
def SeedSupply.between (first last : SeedSupply) : List TokenSeed :=
  (List.range' first.drawn (last.drawn - first.drawn)).map fun n =>
    (SeedSupply.mk first.given n).next

/-- A later state of a supply. -/
structure SeedSupply.Before (first last : SeedSupply) : Prop where
  given : last.given = first.given
  drawn : first.drawn ≤ last.drawn

namespace SeedSupply

theorem Before.refl (supply : SeedSupply) : Before supply supply := ⟨rfl, Nat.le_refl _⟩

theorem Before.trans {first second third : SeedSupply} (before : Before first second)
    (after : Before second third) : Before first third :=
  ⟨after.given.trans before.given, before.drawn.trans after.drawn⟩

theorem before_advance (supply : SeedSupply) : Before supply supply.advance :=
  ⟨rfl, Nat.le_succ _⟩

theorem between_advance (first last : SeedSupply) (before : Before first last) :
    first.between last.advance = first.between last ++ [last.next] := by
  have count : last.advance.drawn - first.drawn = last.drawn - first.drawn + 1 :=
    Nat.succ_sub before.drawn
  have position : first.drawn + (last.drawn - first.drawn) = last.drawn :=
    Nat.add_sub_of_le before.drawn
  rw [between, count, List.range'_1_concat, position, List.map_append, between, ← before.given]
  rfl

theorem prefix_between (first second third : SeedSupply) (before : Before first second)
    (after : Before second third) : first.between second <+: first.between third := by
  refine List.IsPrefix.map _ ?_
  have count : third.drawn - first.drawn =
      (second.drawn - first.drawn) + (third.drawn - second.drawn) := by
    have := before.drawn
    have := after.drawn
    omega
  rw [count, ← List.range'_append]
  exact List.prefix_append _ _

end SeedSupply

namespace Store

/-! ## Tokens of rows -/

private theorem update_id (written : Written) (row : WorkspaceRow) :
    (written.update row).id = row.id := by
  rw [Written.update]
  split <;> rfl

-- The row of a workspace after a write, if it has one
private def Written.touch (written : Written) (row : WorkspaceRow) : WorkspaceRow :=
  if row.id == written.id then written.update row else row

private theorem touch_id (written : Written) (row : WorkspaceRow) :
    (written.touch row).id = row.id := by
  rw [Written.touch]
  split
  · exact update_id written row
  · rfl

-- Settings leave a token, and a token is written over the one of its workspace
private theorem touch_token (written : Written) (row : WorkspaceRow) :
    (written.touch row).token = row.token ∨
      (row.id = written.id ∧ (written.touch row).token = written.token) := by
  rw [Written.touch]
  split
  next same =>
    rw [Written.update]
    split
    · exact .inr ⟨beq_iff_eq.mp same, rfl⟩
    · exact .inl rfl
  next => exact .inl rfl

section
variable (written : Written) (rows : List WorkspaceRow)

private theorem apply_eq : written.apply rows =
    if rows.any (·.id == written.id) then rows.map written.touch else rows ++ [written.newRow] :=
  rfl

-- A workspace whose id is not that of a row
private theorem ids_new (absent : ¬rows.any (·.id == written.id) = true) :
    ∀ row ∈ rows, row.id ≠ written.id := by
  intro row member same
  exact absent (List.any_eq_true.mpr ⟨row, member, beq_iff_eq.mpr same⟩)

private theorem nodup_concat {α : Type} (part : WorkspaceRow → α) (row : WorkspaceRow)
    (distinct : (rows.map part).Nodup) (new : ∀ other ∈ rows, part other ≠ part row) :
    ((rows ++ [row]).map part).Nodup := by
  rw [List.map_append, List.nodup_append]
  refine ⟨distinct, List.nodup_singleton _, ?_⟩
  rintro _ member _ single rfl
  obtain ⟨other, inRows, same⟩ := List.mem_map.mp member
  exact new other inRows (same.trans (List.mem_singleton.mp single))

theorem ids_apply (distinct : (rows.map (·.id)).Nodup) :
    ((written.apply rows).map (·.id)).Nodup := by
  rw [apply_eq]
  split
  next =>
    have same : rows.map ((·.id) ∘ written.touch) = rows.map (·.id) :=
      List.map_congr_left fun row _ => touch_id written row
    rwa [List.map_map, same]
  next absent =>
    exact nodup_concat rows (·.id) written.newRow distinct (ids_new written rows absent)

/-- A token that no row has becomes that of at most one workspace. -/
theorem tokens_apply (ids : (rows.map (·.id)).Nodup) (tokens : (rows.map (·.token)).Nodup)
    (new : ∀ row ∈ rows, row.token ≠ written.token) :
    ((written.apply rows).map (·.token)).Nodup := by
  rw [apply_eq]
  split
  next =>
    rw [List.Nodup, List.pairwise_map] at ids tokens ⊢
    rw [List.pairwise_map]
    refine (ids.and tokens).imp_of_mem ?_
    intro first second inFirst inSecond ⟨others, differ⟩ same
    rcases touch_token written first with kept | ⟨own, taken⟩ <;>
      rcases touch_token written second with kept' | ⟨own', taken'⟩
    · exact differ (kept.symm.trans (same.trans kept'))
    · exact new first inFirst (kept.symm.trans (same.trans taken'))
    · exact new second inSecond (kept'.symm.trans (same.symm.trans taken))
    · exact others (own.trans own'.symm)
  next absent => exact nodup_concat rows (·.token) written.newRow tokens new

/-- A row after a write has the token that was written, or one that there was before. -/
theorem mem_apply (row : WorkspaceRow) (member : row ∈ written.apply rows) :
    row.token = written.token ∨ ∃ old ∈ rows, row.token = old.token := by
  rw [apply_eq] at member
  split at member
  next =>
    obtain ⟨old, inRows, rfl⟩ := List.mem_map.mp member
    rcases touch_token written old with kept | ⟨-, taken⟩
    · exact .inr ⟨old, inRows, kept⟩
    · exact .inl taken
  next =>
    rcases List.mem_append.mp member with old | new
    · exact .inr ⟨row, old, rfl⟩
    · rw [List.mem_singleton.mp new]
      exact .inl rfl

/-- A token that is written without settings is that of its workspace. -/
theorem token_apply (isToken : written.settings = none) :
    ∃ row ∈ written.apply rows, row.id = written.id ∧ row.token = written.token := by
  rw [apply_eq]
  split
  next present =>
    obtain ⟨row, inRows, same⟩ := List.any_eq_true.mp present
    refine ⟨written.touch row, List.mem_map_of_mem inRows, ?_, ?_⟩
    · exact (touch_id written row).trans (beq_iff_eq.mp same)
    · rw [Written.touch, if_pos same, Written.update, isToken]
  next =>
    exact ⟨written.newRow, List.mem_append_right _ (List.mem_singleton_self _), rfl, rfl⟩

end

/-! ## One operation -/

/-- What an operation may do to the tables and the seeds: nothing to the tables where it fails, and
else one write. -/
structure Operation.Wrote (tablePrefix : Text) (rows : List WorkspaceRow) (operation : Operation)
    (world : World FaultyDatabase) (result : Except Fault (Option Text) × World FaultyDatabase)
    (written : Written) : Prop where
  comes : operation.written? (minted world) world.clock = some written
  storable : written.Storable
  outcome : result.1 = .ok (operation.reply (minted world))
  database : result.2.database.database = holding tablePrefix (written.apply rows)
  seeds : .mint ∈ operation.stages → result.2.seeds = world.seeds.advance

section
variable (tablePrefix : Text) (sendable : tablePrefix.isSendable = true)
  (rows : List WorkspaceRow)

include sendable

private theorem execute_written (written : Written) (faulty : FaultyDatabase)
    (state : faulty.database = holding tablePrefix rows)
    (fine : faultOf (Engine.execute .sqlite (.upsert (written.upsert tablePrefix)) faulty).1 =
      none) :
    written.Storable ∧
      (Engine.execute .sqlite (.upsert (written.upsert tablePrefix)) faulty).2.database =
        holding tablePrefix (written.apply rows) := by
  have accepted := runUpsert_ok_iff tablePrefix sendable rows written
  rw [← state] at accepted
  simp only [Engine.execute, Database.run, if_neg (show ¬Dialect.sqlite = .mysql by decide)]
    at fine ⊢
  split
  next fault failure =>
    rw [failure] at fine
    cases fine
  next none =>
    rw [none] at fine
    cases ran : faulty.database.runUpsert (written.upsert tablePrefix) with
    | error fault =>
      rw [ran] at fine
      cases fine
    | ok after => exact (accepted after).mp ran

/-- An operation either fails and leaves the tables as they are, or it writes. -/
theorem Operation.step_wrote (operation : Operation) (world : World FaultyDatabase)
    (state : world.database.database = holding tablePrefix rows) :
    let result := (operation.step (embedded tablePrefix)).result world
    (∃ fault, result.1 = .error fault ∧ result.2.database = world.database) ∨
      ∃ written, operation.Wrote tablePrefix rows world result written := by
  intro result
  have eq : result = operation.stagesCourse .sqlite tablePrefix world :=
    operation.step_result .sqlite tablePrefix world
  have distinct := operation.nodup_attempted .sqlite tablePrefix world
  have seeds : result.2.seeds = _ :=
    (congrArg (·.2.seeds) eq).trans
      (operation.stagesCourse_seeds .sqlite tablePrefix world _ distinct)
  cases failed : operation.stages.findSome? (operation.fails .sqlite tablePrefix world) with
  | some fault =>
    refine .inl ⟨fault, ?_, ?_⟩
    · rw [eq, Operation.stagesCourse, course, failed]
    · rw [eq]
      exact operation.stagesCourse_undone .sqlite tablePrefix world fault failed
  | none =>
    -- All stages are reached, and the statement does not fail
    have reached (stage : WriteStage) (member : stage ∈ operation.stages) :
        stage ∈ attempted (operation.fails .sqlite tablePrefix world) operation.stages := by
      rwa [attempted_eq_self _ _ failed]
    have last : .execute ∈ operation.stages := by
      cases operation <;> simp [Operation.stages]
    have fine := List.findSome?_eq_none_iff.mp failed .execute last
    obtain ⟨written, comes⟩ :=
      operation.written?_attempted .sqlite tablePrefix world (reached _ last)
    obtain ⟨outcome, database⟩ := (operation.stagesCourse_executed .sqlite tablePrefix world).2
      written comes (reached _ last)
    obtain ⟨storable, kept⟩ := execute_written tablePrefix sendable rows written world.database
      state (outcome.symm.trans fine)
    refine .inr ⟨written, comes, storable, ?_, ?_, ?_⟩
    · rw [eq, Operation.stagesCourse, course, failed]
    · rw [eq, database, kept]
    · intro mints
      exact seeds.trans (if_pos (reached _ mints))

end

/-! ## Runs -/

/-- An operation that mints a token, with what the clock shows and what fails in the database
meanwhile. -/
structure Minting where
  operation : Operation
  mints : .mint ∈ operation.stages
  clock : Value
  failure : Option (Stage × Fault)

namespace Minting

/-- The world that an operation finds. -/
def before (world : World FaultyDatabase) (minting : Minting) : World FaultyDatabase :=
  { world with
    clock := minting.clock
    database := { world.database with failure := minting.failure } }

/-- What an operation gives, and the world that it leaves. -/
def result (tablePrefix : Text) (world : World FaultyDatabase) (minting : Minting) :
    Except Fault (Option Text) × World FaultyDatabase :=
  (minting.operation.step (embedded tablePrefix)).result (minting.before world)

/-- The world after operations in a row. -/
def worldAfter (tablePrefix : Text) (start : World FaultyDatabase) (mintings : List Minting) :
    World FaultyDatabase :=
  mintings.foldl (fun world minting => (minting.result tablePrefix world).2) start

/-- The invariant: the tokens of different rows differ, and each was made of a seed that has been
drawn. -/
structure Holds (tablePrefix : Text) (start : SeedSupply) (world : World FaultyDatabase)
    (rows : List WorkspaceRow) : Prop where
  database : world.database.database = holding tablePrefix rows
  supply : start.Before world.seeds
  ids : (rows.map (·.id)).Nodup
  tokens : (rows.map (·.token)).Nodup
  drawn : ∀ row ∈ rows, row.token ∈ (start.between world.seeds).map Token.ofSeed

-- What a new token is written for
private theorem written_regenerate (id modifiedBy : Value) (minted : Text) (clock : Value)
    (written : Written)
    (comes : (Operation.regenerate id modifiedBy).written? minted clock = some written) :
    id.asText = .ok written.id ∧ written.token = minted ∧ written.settings = none := by
  simp only [Operation.written?, Option.bind_eq_bind, Option.bind_eq_some_iff] at comes
  obtain ⟨workspace, built, seconds, -, eq⟩ := comes
  obtain rfl := Option.some.inj eq
  have built : Workspace.ofFields ((Operation.regenerate id modifiedBy).fields minted) =
      .ok workspace := by
    cases outcome : Workspace.ofFields ((Operation.regenerate id modifiedBy).fields minted) with
    | error problems =>
      rw [outcome] at built
      cases built
    | ok other =>
      rw [outcome] at built
      exact congrArg Except.ok (Option.some.inj built)
  obtain ⟨isId, isToken, -⟩ := Operation.ofFields_ok _ _ built
  have idField : ((Operation.regenerate id modifiedBy).fields minted).get? "id" = some id := rfl
  have tokenField : ((Operation.regenerate id modifiedBy).fields minted).get? "signup_token" =
      some (.text minted) := rfl
  simp only [Fields.optional, Fields.require, idField, tokenField] at isId isToken
  refine ⟨?_, (Except.ok.inj isToken).symm, rfl⟩
  cases checked : id.asText with
  | error misfit =>
    rw [checked] at isId
    cases isId
  | ok t =>
    rw [checked] at isId
    exact congrArg Except.ok (Except.ok.inj isId)

-- An operation that mints writes the token that it has minted
private theorem token_minted (operation : Operation) (mints : .mint ∈ operation.stages)
    (minted : Text) (clock : Value) (written : Written)
    (comes : operation.written? minted clock = some written) : written.token = minted := by
  cases operation with
  | token fields => simp [Operation.stages] at mints
  | settings fields =>
    simp only [Operation.written?, Option.bind_eq_bind, Option.bind_eq_some_iff] at comes
    obtain ⟨workspace, -, seconds, -, settings, -, eq⟩ := comes
    obtain rfl := Option.some.inj eq
    rfl
  | regenerate id modifiedBy => exact (written_regenerate id modifiedBy _ _ _ comes).2.1

theorem result_seeds (tablePrefix : Text) (world : World FaultyDatabase) (minting : Minting) :
    world.seeds.Before (minting.result tablePrefix world).2.seeds := by
  let found := minting.before world
  have distinct := minting.operation.nodup_attempted .sqlite tablePrefix found
  have seeds := minting.operation.stagesCourse_seeds .sqlite tablePrefix found _ distinct
  have eq := minting.operation.step_result .sqlite tablePrefix found
  have after : (minting.result tablePrefix world).2.seeds = _ :=
    (congrArg (·.2.seeds) eq).trans seeds
  rw [after]
  split
  · exact world.seeds.before_advance
  · exact .refl world.seeds

theorem worldAfter_seeds (tablePrefix : Text) (start : World FaultyDatabase)
    (mintings : List Minting) :
    start.seeds.Before (worldAfter tablePrefix start mintings).seeds := by
  induction mintings generalizing start with
  | nil => exact .refl start.seeds
  | cons minting rest ih => exact (result_seeds tablePrefix start minting).trans (ih _)

-- Seeds are drawn one after the other
private theorem worldAfter_take (tablePrefix : Text) (start : World FaultyDatabase)
    (mintings : List Minting) (m n : Nat) (le : m ≤ n) :
    (worldAfter tablePrefix start (mintings.take m)).seeds.Before
      (worldAfter tablePrefix start (mintings.take n)).seeds := by
  have split : mintings.take n = mintings.take m ++ (mintings.take n).drop m := by
    have halves := List.take_append_drop m (mintings.take n)
    rwa [List.take_take, Nat.min_eq_left le, eq_comm] at halves
  have after : worldAfter tablePrefix start (mintings.take n) =
      worldAfter tablePrefix (worldAfter tablePrefix start (mintings.take m))
        ((mintings.take n).drop m) := by
    rw [split, worldAfter, List.foldl_append, ← split]
    rfl
  rw [after]
  exact worldAfter_seeds tablePrefix _ _

section
variable (tablePrefix : Text) (sendable : tablePrefix.isSendable = true)
include sendable

/-- An operation keeps the invariant if no seed has been drawn twice. -/
theorem result_holds (start : SeedSupply) (world : World FaultyDatabase)
    (rows : List WorkspaceRow) (holds : Holds tablePrefix start world rows) (minting : Minting)
    (distinct : (start.between (minting.result tablePrefix world).2.seeds).Nodup) :
    ∃ later, Holds tablePrefix start (minting.result tablePrefix world).2 later := by
  have later := result_seeds tablePrefix world minting
  have more := start.prefix_between world.seeds _ holds.supply later
  rcases minting.operation.step_wrote tablePrefix sendable rows (minting.before world)
    holds.database with ⟨fault, -, kept⟩ | ⟨written, wrote⟩
  · -- The table is as before; a seed that was drawn for nothing does no harm
    refine ⟨rows, ?_, holds.supply.trans later, holds.ids, holds.tokens, ?_⟩
    · exact (congrArg FaultyDatabase.database kept).trans holds.database
    · intro row member
      exact (more.map _).subset (holds.drawn row member)
  · have minted := token_minted _ minting.mints _ _ _ wrote.comes
    have seeds : (minting.result tablePrefix world).2.seeds = world.seeds.advance :=
      wrote.seeds minting.mints
    have drawn := start.between_advance world.seeds holds.supply
    rw [seeds, drawn] at distinct
    have new : ∀ row ∈ rows, row.token ≠ written.token := by
      intro row member same
      obtain ⟨seed, before, eq⟩ := List.mem_map.mp (holds.drawn row member)
      rw [minted] at same
      have again := Token.ofSeed_injective (eq.trans same)
      exact (List.nodup_append.mp distinct).2.2 seed before _ (List.mem_singleton_self _) again
    refine ⟨written.apply rows, wrote.database, holds.supply.trans later,
      ids_apply written rows holds.ids, tokens_apply written rows holds.ids holds.tokens new, ?_⟩
    intro row member
    rw [seeds, drawn, List.map_append]
    rcases mem_apply written rows row member with taken | ⟨old, inRows, kept⟩
    · rw [taken, minted]
      exact List.mem_append_right _ (List.mem_singleton_self _)
    · rw [kept]
      exact List.mem_append_left _ (holds.drawn old inRows)

/-- Operations keep the invariant if they draw no seed twice. -/
theorem worldAfter_holds (start : World FaultyDatabase)
    (fresh : start.database.database = holding tablePrefix []) (mintings : List Minting)
    (distinct : (start.seeds.between (worldAfter tablePrefix start mintings).seeds).Nodup) :
    ∃ rows, Holds tablePrefix start.seeds (worldAfter tablePrefix start mintings) rows := by
  induction mintings using List.reverseRecOn with
  | nil => exact ⟨[], fresh, .refl _, List.nodup_nil, List.nodup_nil, by simp⟩
  | append_singleton mintings minting ih =>
    rw [worldAfter, List.foldl_append] at distinct ⊢
    have earlier := worldAfter_seeds tablePrefix start mintings
    have last := result_seeds tablePrefix (worldAfter tablePrefix start mintings) minting
    have before := start.seeds.prefix_between _ _ earlier last
    obtain ⟨rows, holds⟩ := ih (distinct.sublist before.sublist)
    exact result_holds tablePrefix sendable start.seeds _ rows holds minting distinct

end

-- A token that is given is new, and it is that of its workspace
private theorem result_token (tablePrefix : Text) (sendable : tablePrefix.isSendable = true)
    (start : SeedSupply) (world : World FaultyDatabase) (rows : List WorkspaceRow)
    (holds : Holds tablePrefix start world rows) (minting : Minting) (token : Text)
    (given : (minting.result tablePrefix world).1 = .ok (some token)) :
    token = Token.ofSeed world.seeds.next ∧
      (minting.result tablePrefix world).2.seeds = world.seeds.advance ∧
      ∃ id modifiedBy later row, minting.operation = .regenerate id modifiedBy ∧
        (minting.result tablePrefix world).2.database.database = holding tablePrefix later ∧
        row ∈ later ∧ id.asText = .ok row.id ∧ row.token = token := by
  rcases minting.operation.step_wrote tablePrefix sendable rows (minting.before world)
    holds.database with ⟨fault, failed, -⟩ | ⟨written, wrote⟩
  · cases failed.symm.trans given
  · have outcome := wrote.outcome.symm.trans given
    cases eq : minting.operation with
    | token fields =>
      rw [eq] at outcome
      cases outcome
    | settings fields =>
      rw [eq] at outcome
      cases outcome
    | regenerate id modifiedBy =>
      rw [eq] at outcome
      obtain rfl := Option.some.inj (Except.ok.inj outcome)
      have comes := wrote.comes
      rw [eq] at comes
      obtain ⟨isId, isToken, noSettings⟩ := written_regenerate _ _ _ _ _ comes
      obtain ⟨row, member, ofId, hasToken⟩ := token_apply written rows noSettings
      exact ⟨rfl, wrote.seeds minting.mints, id, modifiedBy, written.apply rows, row, rfl,
        wrote.database, member, isId.trans (congrArg Except.ok ofId.symm), hasToken.trans isToken⟩

end Minting

-- Tables that are the same have rows of the same ids with the same tokens
private theorem mem_holding (tablePrefix : Text) (rows others : List WorkspaceRow)
    (same : holding tablePrefix rows = holding tablePrefix others) (row : WorkspaceRow)
    (member : row ∈ rows) : ∃ other ∈ others, other.id = row.id ∧ other.token = row.token := by
  have cells : rows.map WorkspaceRow.cells = others.map WorkspaceRow.cells :=
    congrArg (fun database : Database => (database.tables.headD ⟨⟨[], []⟩, []⟩).rows) same
  have inOthers := List.mem_map_of_mem (f := WorkspaceRow.cells) member
  rw [cells] at inOthers
  obtain ⟨other, inOthers, eq⟩ := List.mem_map.mp inOthers
  simp only [WorkspaceRow.cells, List.cons.injEq, Cell.text.injEq] at eq
  exact ⟨other, inOthers, eq.1, eq.2.1⟩

open Minting in
/-- Operations that mint tokens, over tables that have just been made, at any times and with any
failures of the database. If they draw no seed twice, then in all states the tokens of different
workspaces differ, and a new token that is given back was not there in any state before and is that
of its workspace afterwards. -/
theorem tokens_unique (tablePrefix : Text) (created : Database)
    (creation : Database.create .empty (Schema.withPrefix tablePrefix).tables = .ok created)
    (start : World FaultyDatabase) (fresh : start.database.database = created)
    (mintings : List Minting)
    (distinct : (start.seeds.between (worldAfter tablePrefix start mintings).seeds).Nodup) :
    ∃ rows : Nat → List WorkspaceRow,
      (∀ n, (worldAfter tablePrefix start (mintings.take n)).database.database =
          holding tablePrefix (rows n) ∧
        ((rows n).map (·.id)).Nodup ∧ ((rows n).map (·.token)).Nodup) ∧
      ∀ n minting token, mintings[n]? = some minting →
        (minting.result tablePrefix (worldAfter tablePrefix start (mintings.take n))).1 =
          .ok (some token) →
        (∀ m ≤ n, ∀ row ∈ rows m, row.token ≠ token) ∧
          ∃ id modifiedBy row, minting.operation = .regenerate id modifiedBy ∧
            row ∈ rows (n + 1) ∧ id.asText = .ok row.id ∧ row.token = token := by
  obtain ⟨sendable, rfl⟩ := create_withPrefix tablePrefix created creation
  have between (m n : Nat) (le : m ≤ n) :
      start.seeds.between (worldAfter tablePrefix start (mintings.take m)).seeds <+:
        start.seeds.between (worldAfter tablePrefix start (mintings.take n)).seeds :=
    start.seeds.prefix_between _ _ (worldAfter_seeds tablePrefix start _)
      (worldAfter_take tablePrefix start mintings m n le)
  have drawn (n : Nat) :
      (start.seeds.between (worldAfter tablePrefix start (mintings.take n)).seeds).Nodup := by
    have whole := between n (max n mintings.length) (Nat.le_max_left ..)
    rw [List.take_of_length_le (Nat.le_max_right n mintings.length)] at whole
    exact distinct.sublist whole.sublist
  have states (n : Nat) := worldAfter_holds tablePrefix sendable start fresh _ (drawn n)
  choose rows holds using states
  refine ⟨rows, fun n => ⟨(holds n).database, (holds n).ids, (holds n).tokens⟩, ?_⟩
  intro n minting token position given
  have next : worldAfter tablePrefix start (mintings.take (n + 1)) =
      (minting.result tablePrefix (worldAfter tablePrefix start (mintings.take n))).2 := by
    rw [List.take_add_one, position, worldAfter, List.foldl_append]
    rfl
  obtain ⟨made, advanced, id, modifiedBy, later, row, isRegenerate, kept, member, isId, hasToken⟩ :=
    result_token tablePrefix sendable start.seeds _ (rows n) (holds n) minting token given
  constructor
  · intro m le other inRows same
    obtain ⟨seed, before, eq⟩ := List.mem_map.mp ((holds m).drawn other inRows)
    have new := drawn (n + 1)
    rw [next, advanced, start.seeds.between_advance _ (holds n).supply] at new
    have again := Token.ofSeed_injective (eq.trans (same.trans made))
    exact (List.nodup_append.mp new).2.2 seed ((between m n le).subset before) _
      (List.mem_singleton_self _) again
  · obtain ⟨other, inRows, sameId, sameToken⟩ := mem_holding tablePrefix later (rows (n + 1))
      (kept.symm.trans ((congrArg (·.database.database) next).symm.trans (holds (n + 1)).database))
      row member
    exact ⟨id, modifiedBy, other, isRegenerate, inRows, isId.trans (congrArg Except.ok sameId.symm),
      sameToken.trans hasToken⟩

/-- A new token for a workspace. -/
def renewal : Minting := ⟨.regenerate (.text "a") (.text "c"), by decide, .int 7, none⟩

/-- Settings for two workspaces, and a new token for the first. -/
def threeMintings : List Minting :=
  [⟨.settings [("id", .text "a")], by decide, .int 5, none⟩,
    ⟨.settings [("id", .text "b")], by decide, .int 6, none⟩,
    renewal]

/-- The world before the new token. -/
def beforeRenewal : World FaultyDatabase :=
  Minting.worldAfter "p_" (freshWorld "p_") (threeMintings.take 2)

/-- The new token is that of neither workspace before. -/
theorem tokens_unique_renewal :
    ((freshWorld "p_").seeds.between
      (Minting.worldAfter "p_" (freshWorld "p_") threeMintings).seeds).Nodup ∧
      ∃ rows, beforeRenewal.database.database = holding "p_" rows ∧ rows.length = 2 ∧
        ∀ row ∈ rows, row.token ≠ Token.ofSeed 3 := by
  have distinct : ((freshWorld "p_").seeds.between
      (Minting.worldAfter "p_" (freshWorld "p_") threeMintings).seeds).Nodup := by
    decide +kernel
  obtain ⟨rows, states, renewed⟩ :=
    tokens_unique "p_" (holding "p_" []) rfl (freshWorld "p_") rfl threeMintings distinct
  have given : (renewal.result "p_" beforeRenewal).1 = .ok (some (Token.ofSeed 3)) := by
    decide +kernel
  have state : beforeRenewal.database.database = holding "p_" (rows 2) := by
    rw [beforeRenewal]
    exact (states 2).1
  rw [beforeRenewal] at given
  have new := renewed 2 renewal (Token.ofSeed 3) rfl given
  refine ⟨distinct, rows 2, state, ?_, new.1 2 (Nat.le_refl 2)⟩
  have two : (beforeRenewal.database.database.tables.map (·.rows.length)).head? = some 2 := by
    decide +kernel
  rw [state] at two
  exact (List.length_map WorkspaceRow.cells).symm.trans (Option.some.inj two)

end Store

end Tenancy
