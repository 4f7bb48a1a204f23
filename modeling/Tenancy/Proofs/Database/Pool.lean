import Mathlib.Control.Basic
import Tenancy.Database.Pool
import Tenancy.Proofs.Outcome
import Tenancy.Proofs.Url.Password

/-!
# Pools and passwords

A pool keeps the password of its address for its connections, and nothing that is checked when it is
opened looks at it, with one exception: an address of the embedded database has to name a file
alone, and a password that is not empty makes it name more.
-/
namespace Tenancy

/-! ## Drivers -/

theorem Package.mem_of_module? (package : Package) (name : Text) (installed : InstalledDriver)
    (found : package.module? name = some (.driver installed)) :
    .driver installed ∈ package.drivers.map (·.2) := by
  rw [Package.module?] at found
  split at found
  next entry here =>
    obtain rfl := Option.some.inj found
    exact List.mem_map.mpr ⟨_, List.mem_of_find?_eq_some here, rfl⟩
  next => split at found <;> cases found

/-- What a package has under a name is a driver only if the package lists it. -/
theorem Package.mem_of_item? (package : Package) (name : Text) (installed : InstalledDriver)
    (found : package.item? name = some (.driver installed)) :
    .driver installed ∈ (package.drivers ++ package.renamed).map (·.2) := by
  rw [List.map_append, List.mem_append]
  rw [Package.item?] at found
  split at found
  next entry here =>
    obtain rfl := Option.some.inj found
    exact .inl (package.mem_of_module? name installed here)
  next =>
    split at found
    next => cases found
    split at found
    next => cases found
    split at found
    next entry here =>
      obtain rfl := Option.some.inj found
      exact .inr (List.mem_map.mpr ⟨_, List.mem_of_find?_eq_some here, rfl⟩)
    next =>
      -- What every package has is no driver
      rw [Package.ownItem?] at found
      split at found
      next => cases found
      next =>
        obtain ⟨_, -, own⟩ := Option.map_eq_some_iff.mp found
        cases own

/-- No backend but that of the embedded database has its driver. -/
theorem Package.backend_of_pysqlite (backend name : Text)
    (found : Package.ofBackend? backend name = some (.driver .pysqlite)) : backend = "sqlite" := by
  rw [Package.ofBackend?] at found
  split at found
  next => exact absurd (Package.mem_of_module? mysql name _ found) (by decide)
  next =>
    obtain ⟨package, here, item⟩ := Option.bind_eq_some_iff.mp found
    have named := List.find?_some here
    have listed := package.mem_of_item? name _ item
    have known := List.mem_of_find?_eq_some here
    simp only [Package.all, List.mem_cons, List.not_mem_nil, or_false] at known
    rcases known with rfl | rfl | rfl | rfl | rfl
    · exact (eq_of_beq named).symm
    all_goals exact absurd listed (by decide)

theorem splitOn_eq_cons (separator : CodePoint) (t : Text) :
    ∃ pieces, Text.splitOn separator t = t.takeWhile (· != separator) :: pieces := by
  induction t with
  | nil => exact ⟨[], rfl⟩
  | cons c rest ih =>
    obtain ⟨pieces, split⟩ := ih
    rw [Text.splitOn, split]
    by_cases same : c = separator
    · subst same
      exact ⟨_, by rw [if_pos rfl, List.takeWhile_cons, bne_self_eq_false]; rfl⟩
    · exact ⟨pieces, by rw [if_neg same, List.takeWhile_cons, bne_iff_ne.mpr same]; rfl⟩

/-- The driver of the embedded database belongs to its backend. -/
theorem Driver.backend_of_pysqlite (url : Url) (driver : Driver)
    (found : Driver.ofUrl url = .ok driver) (embedded : driver.installed = .pysqlite) :
    url.backend = "sqlite" := by
  have ofFind (name shown : Text) (held : Driver.find url.backend name shown = .ok driver) :
      url.backend = "sqlite" := by
    rw [Driver.find] at held
    split at held
    next => cases held
    next installed here =>
      obtain rfl := Except.ok.inj held
      obtain rfl : installed = .pysqlite := embedded
      exact Package.backend_of_pysqlite _ name here
    next => cases held
    next => cases held
  obtain ⟨pieces, split⟩ := splitOn_eq_cons (CodePoint.ofChar '+') url.driver
  simp only [Driver.ofUrl, split] at found
  match pieces, found with
  | [], found => exact ofFind _ _ found
  | [name], found => exact ofFind name _ found

/-! ## What does not look at a password -/

namespace Url.SameButPassword

variable {one other : Url} (same : SameButPassword one other)

include same

theorem withoutOptions (names : List String) :
    SameButPassword (one.withoutOptions names) (other.withoutOptions names) :=
  ⟨same.given, same.givenOther, congrArg (·.withoutOptions names) same.rest⟩

theorem defaults_eq : Pool.defaults other = Pool.defaults one := by
  rw [same.eq_withPassword]
  rfl

theorem checkPlugins_eq (options : PoolOptions) :
    Pool.checkPlugins other options = Pool.checkPlugins one options := by
  rw [same.eq_withPassword]
  rfl

theorem driver_eq : Driver.ofUrl other = Driver.ofUrl one := by
  rw [same.eq_withPassword]
  rfl

theorem poolKind_eq (driver : Driver) : driver.poolKind other = driver.poolKind one := by
  rw [same.eq_withPassword]
  rfl

theorem locate_eq (driver : Driver) : driver.locate other = driver.locate one := by
  rw [same.eq_withPassword, Driver.locate, Driver.locate]
  cases driver.installed <;> rfl

/-- A driver checks the two addresses alike. For the driver of files, they have to name both or
neither more than a file. -/
theorem check_eq (driver : Driver)
    (file : driver.installed = .pysqlite → one.namesServer = other.namesServer) :
    driver.check other = driver.check one := by
  have options (kinds : List (String × OptionKind)) :
      other.checkOptions kinds = one.checkOptions kinds := by
    rw [same.eq_withPassword]
    rfl
  have hosts : other.checkHosts = one.checkHosts := by
    rw [same.eq_withPassword]
    rfl
  cases installed : driver.installed with
  | pysqlite =>
    simp only [Driver.check, installed, Url.checkFile, file installed, render_hidden same, options]
  | psycopg | psycopgAsync => simp only [Driver.check, installed, hosts]
  | pymysql => simp only [Driver.check, installed, options]

end Url.SameButPassword

namespace Pool

/-- A pool keeps the address that it was opened with. -/
theorem read_of_ofAddress (address : Text) (given : PoolOptions) (pool : Pool)
    (opened : ofAddress address given = .ok pool) : Url.read address = .ok pool.address := by
  rw [ofAddress] at opened
  split at opened
  next => cases opened
  next =>
    simp only [bind_ok_iff, mapError_ok_iff] at opened
    obtain ⟨named, read, _, -, _, -, _, -, _, -, _, -, _, -, _, -, _, -, made⟩ := opened
    cases made
    exact read

/-- An address with another password opens the same pool, save for the password, or is refused with
the same fault. -/
theorem ofAddress_sameButPassword (address another : Text) (one other : Url)
    (read : Url.read address = .ok one) (read' : Url.read another = .ok other)
    (same : one.SameButPassword other)
    (file : one.backend = "sqlite" → one.namesServer = other.namesServer) (given : PoolOptions) :
    ofAddress another given =
      (fun pool => { pool with
        address := other
        url := pool.url.withPassword other.password }) <$> ofAddress address given := by
  have bare := same.withoutOptions ["plugin", "plugins"]
  have opened (url : Url) (f : Url → Except PoolFault Pool) :
      (Except.mapError PoolFault.address (.ok url) >>= f) = f url := rfl
  rw [ofAddress, ofAddress, read, read']
  split
  next => rfl
  next =>
    simp only [opened, same.defaults_eq, same.checkPlugins_eq, bare.driver_eq, bare.poolKind_eq,
      bare.locate_eq, map_bind]
    refine bind_congr fun _ => bind_congr fun _ => bind_congr_ok fun driver found => ?_
    -- The driver is known from here on, and its check is the one that may look at the password
    have embedded := Driver.backend_of_pysqlite _ driver ((mapError_ok_iff _ _ _).mp found)
    rw [bare.check_eq driver fun installed => file (embedded installed), bare.eq_withPassword]
    rfl

end Pool

end Tenancy
