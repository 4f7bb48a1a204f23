import Tenancy.Database.Disk
import Tenancy.Proofs.Store.Writing

/-!
# Writes to a disk

A connection may make a file, but a file that has just been made has no tables, so a write fails in
it. A write that succeeds has found its table in the database that was open before, leaves that
database open with the row, and touches nothing else on the disk.
-/
namespace Tenancy

open Sql

namespace Disk

/-- The database that is open, if it is there. -/
def database? (disk : Disk) : Option Database :=
  match disk.location with
  | .memory => some disk.memory
  | .file address => disk.files.lookup (Path.read disk.folder address.path)
  | .unreachable _ => none

/-- The disk after the database that is open has become another one. -/
def commit (disk : Disk) (database : Database) : Disk :=
  match disk.location with
  | .memory => { disk with memory := database }
  | .file address => disk.write (Path.read disk.folder address.path) database
  | .unreachable _ => disk

theorem lookup_write (disk : Disk) (path : Path) (database : Database) :
    (disk.write path database).files.lookup path = some database := by
  simp [write]

/-- Writing a file twice is writing it once. -/
theorem write_write (disk : Disk) (path : Path) (first second : Database) :
    (disk.write path first).write path second = disk.write path second := by
  simp [write]

/-- A connection leaves the disk as it is, or makes a file without tables. -/
theorem connect_cases (disk after : Disk) (connected : disk.connect = .ok after) :
    after = disk ∨ after.database? = some .empty := by
  unfold connect at connected
  split at connected
  next memory => exact .inl (Except.ok.inj connected).symm
  next address file =>
    unfold openFile at connected
    split at connected
    · cases connected
    · split at connected
      · exact .inl (Except.ok.inj connected).symm
      · split at connected
        · obtain rfl := Except.ok.inj connected
          refine .inr ?_
          simp only [database?, write, file]
          exact lookup_write disk _ _
        · cases connected
  next => cases connected

/-- A database that has been open stays open when it becomes another one. -/
theorem isOpen_commit (disk : Disk) (connected : disk.connect = .ok disk) (database : Database) :
    Store.IsOpen (disk.commit database) database := by
  have answers (dialect : Dialect) (query : Query) :
      database.run dialect (.query query) = ((database.run dialect (.query query)).1, database) :=
    (Store.isOpen_embedded database).execute dialect query
  have reads (dialect : Dialect) (query : Query) :
      database.runReading dialect (.query query) = (database.run dialect (.query query)).1 := by
    rw [Database.runReading, Database.run]
    cases database.runQuery query <;> rfl
  unfold connect at connected
  split at connected
  next memory =>
    unfold commit
    simp only [memory]
    refine ⟨fun _ => ?_, fun dialect query => ?_⟩
    · simp only [Engine.connect, connect]
    · simp only [Engine.execute, execute]
      rw [answers]
  next address file =>
    have short : (Path.read disk.folder address.path).isTooLong = false := by
      unfold openFile at connected
      split at connected
      · cases connected
      next short => exact Bool.eq_false_iff.mpr short
    have found := lookup_write disk (Path.read disk.folder address.path) database
    have same : (disk.write (Path.read disk.folder address.path) database).location =
        .file address := file
    have folder : (disk.write (Path.read disk.folder address.path) database).folder =
        disk.folder := rfl
    unfold commit
    simp only [file]
    refine ⟨fun _ => ?_, fun dialect query => ?_⟩
    · simp only [Engine.connect, connect, same, folder, openFile, short, found,
        Bool.false_eq_true, if_false, Option.isSome_some, if_true]
    · simp only [Engine.execute, execute, same, folder, found]
      split
      · rw [reads]
      · rw [answers, write_write]
  next => cases connected

/-- An upsert that succeeds has found its table in the database that is open, and nothing else on
the disk changes. -/
theorem execute_upsert (disk after : Disk) (upsert : Upsert) (result : ResultSet)
    (executed : execute .sqlite (.upsert upsert) disk = (.ok result, after)) :
    ∃ found changed, disk.database? = some found ∧ found.runUpsert upsert = .ok changed ∧
      after = disk.commit changed := by
  have ran (database changed : Database)
      (run : database.run .sqlite (.upsert upsert) = (.ok result, changed)) :
      database.runUpsert upsert = .ok changed := by
    rw [Database.run, if_neg (by decide)] at run
    split at run
    next after upserted => rw [upserted, (Prod.mk.inj run).2]
    next => cases run
  unfold execute at executed
  split at executed
  next memory =>
    obtain ⟨outcome, rfl⟩ := Prod.mk.inj executed
    simp only [database?, commit, memory]
    exact ⟨_, _, rfl, ran _ _ (Prod.ext outcome rfl), rfl⟩
  next address file =>
    simp only [database?, commit, file]
    dsimp only at executed
    split at executed
    next => cases executed
    next database there =>
      split at executed
      next =>
        -- Where nothing may be changed, no upsert succeeds
        rw [Database.runReading, if_neg (by decide)] at executed
        obtain ⟨_, -, failed⟩ := (bind_ok_iff _ _ _).mp (Prod.mk.inj executed).1
        cases failed
      next =>
        obtain ⟨outcome, rfl⟩ := Prod.mk.inj executed
        exact ⟨_, _, there, ran _ _ (Prod.ext outcome rfl), rfl⟩
  next => cases executed

-- A database without tables takes no upsert
private theorem runUpsert_empty (upsert : Upsert) (after : Database) :
    Database.empty.runUpsert upsert ≠ .ok after := by
  intro upserted
  obtain ⟨_, prepared, -⟩ := (bind_ok_iff _ _ _).mp upserted
  obtain ⟨_, -, prepared⟩ := (bind_ok_iff _ _ _).mp prepared
  obtain ⟨_, found, -⟩ := (bind_ok_iff _ _ _).mp prepared
  cases found

end Disk

namespace Store

/-- A write to a disk that succeeds has changed the database that was open, and it is open still. -/
theorem Written.step_disk (tablePrefix : Text) (written : Written) (world after : World Disk)
    (success : (written.step tablePrefix).result world = (.ok (), after)) :
    ∃ found changed, world.database.database? = some found ∧
      found.runUpsert (written.upsert tablePrefix) = .ok changed ∧
      after = { world with database := world.database.commit changed } ∧
      IsOpen after.database changed := by
  rw [Written.step, writeWith, Step.result_bind, Step.result_connect] at success
  cases connected : world.database.connect with
  | error fault =>
    have refused : Engine.connect .transaction world.database = (.error fault, world.database) := by
      simp only [Engine.connect, connected]
    rw [refused] at success
    cases (Prod.mk.inj success).1
  | ok disk =>
    have given : Engine.connect .transaction world.database = (.ok (), disk) := by
      simp only [Engine.connect, connected]
    rw [given] at success
    dsimp only at success
    rw [Step.result_bind, Step.result_execute] at success
    dsimp only at success
    rcases executed : Disk.execute .sqlite (.upsert (written.upsert tablePrefix)) disk with
      ⟨outcome, disk'⟩
    have engine : Engine.execute (embedded tablePrefix).dialect
        (.upsert (written.upsert tablePrefix)) disk = (outcome, disk') := executed
    rw [engine] at success
    cases outcome with
    | error fault => cases (Prod.mk.inj success).1
    | ok result =>
      obtain rfl := (Prod.mk.inj success).2
      obtain ⟨found, changed, there, upserted, rfl⟩ := Disk.execute_upsert _ _ _ _ executed
      rcases Disk.connect_cases _ _ connected with rfl | made
      · exact ⟨found, changed, there, upserted, rfl, Disk.isOpen_commit _ connected changed⟩
      · obtain rfl := Option.some.inj (made.symm.trans there)
        exact absurd upserted (Disk.runUpsert_empty _ _)

/-- Settings that are written to a disk are a write to the database that was open. -/
theorem upsertSettings_disk (tablePrefix : Text) (workspace : Workspace) (world after : World Disk)
    (success : ((embedded tablePrefix).upsertSettings workspace).result world = (.ok (), after)) :
    ∃ (seconds : Int) (settings : StoredSettings) (found changed : Database),
      settings.given = workspace.settings ∧ world.database.database? = some found ∧
      found.runUpsert (Written.upsert tablePrefix ⟨workspace.id, Token.ofSeed world.seeds.next,
        some settings, workspace.modifiedBy, seconds⟩) = .ok changed ∧
      after.database = world.database.commit changed ∧ IsOpen after.database changed := by
  rw [upsertSettings_result] at success
  cases time : world.clock.toInt with
  | error cause =>
    rw [time] at success
    cases (Prod.mk.inj success).1
  | ok seconds =>
    cases stored : StoredSettings.of workspace.settings with
    | error fault =>
      rw [time, stored] at success
      cases (Prod.mk.inj success).1
    | ok settings =>
      rw [time, stored] at success
      obtain ⟨found, changed, there, upserted, rfl, isOpen⟩ :=
        Written.step_disk tablePrefix _ _ after success
      exact ⟨seconds, settings, found, changed, (StoredSettings.of_ok _ _ stored).2, there,
        upserted, rfl, isOpen⟩

end Store

end Tenancy
