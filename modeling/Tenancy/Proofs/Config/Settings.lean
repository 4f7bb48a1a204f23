import Tenancy.Proofs.Config.Sources
import Tenancy.Service

/-!
# Settings that are accepted

Settings are accepted if each of them denotes something of its kind, the environment file assigns
nothing else, and the database address, where there is one, is of the configured type of database.
The first two are about the settings one by one and about names. What is left, once they hold, is
the check of the address, and it fails for one of three reasons: the address cannot be read, its
backend is not known, or its backend is paired with another type of database.
-/
namespace Tenancy.Settings

/-- The settings are what is configured, with the default where nothing is. -/
structure Configured (environment : Environment) (file : Text) (settings : Settings) : Prop where
  logLevel : settings.logLevel = (configured? environment file "log_level").getD "INFO"
  databaseUrl : settings.databaseUrl = configured? environment file "database_url"
  dialect : Dialect.ofName? ((configured? environment file "db_type").getD "postgres") =
    some settings.dialect
  tablePrefix : settings.tablePrefix = (configured? environment file "table_prefix").getD []
  host : settings.host = (configured? environment file "host").getD "0.0.0.0"
  port : (configured? environment file "port").elim (.ok 8000) (fun t => (Value.text t).asInt) =
    .ok settings.port

/-! ## Addresses -/

/-- The backends of addresses, each with the type of database that it is paired with. -/
def backends : List (Text × Dialect) :=
  [("sqlite", .sqlite), ("postgresql", .postgres), ("mysql", .mysql), ("mariadb", .mysql)]

/-- The driver is one for a backend, which stands alone or before a plus sign. -/
def DrivesBackend (driver backend : Text) : Prop :=
  driver = backend ∨ ∃ rest, driver = backend ++ CodePoint.ofChar '+' :: rest

/-- The address can be read, and its backend is paired with a type of database. -/
def AddressFits (dialect : Dialect) (address : Text) : Prop :=
  ∃ url, Url.read address = .ok url ∧
    ∃ backend, DrivesBackend url.driver backend ∧ (backend, dialect) ∈ backends

/-- Why an address is refused: it cannot be read, its backend is not known, or its backend is paired
with another type of database. -/
inductive AddressRefused (dialect : Dialect) (address : Text) : Prop where
  | unreadable (fault : Url.Fault) (read : Url.read address = .error fault)
  | unknownBackend (url : Url) (read : Url.read address = .ok url)
      (unknown : ∀ backend expected, (backend, expected) ∈ backends →
        ¬DrivesBackend url.driver backend)
  | otherDialect (url : Url) (backend : Text) (expected : Dialect)
      (read : Url.read address = .ok url) (drives : DrivesBackend url.driver backend)
      (paired : (backend, expected) ∈ backends) (differs : expected ≠ dialect)

-- Looking a backend up finds what it is paired with
private theorem dialectOfBackend?_iff (backend : Text) (dialect : Dialect) :
    dialectOfBackend? backend = some dialect ↔ (backend, dialect) ∈ backends := by
  constructor
  · intro known
    unfold dialectOfBackend? at known
    (repeat' split at known) <;> cases known <;> subst backend <;> decide
  · intro paired
    simp only [backends, List.mem_cons, List.not_mem_nil, or_false, Prod.mk.injEq] at paired
    rcases paired with ⟨rfl, rfl⟩ | ⟨rfl, rfl⟩ | ⟨rfl, rfl⟩ | ⟨rfl, rfl⟩ <;> rfl

theorem backend_eq_iff (url : Url) (backend : Text) (plain : CodePoint.ofChar '+' ∉ backend) :
    url.backend = backend ↔ DrivesBackend url.driver backend := by
  have before : ∀ c ∈ backend, (c != CodePoint.ofChar '+') = true := by
    intro c member
    rw [bne_iff_ne]
    rintro rfl
    exact plain member
  rw [Url.backend]
  constructor
  · intro taken
    have whole := List.takeWhile_append_dropWhile (p := (· != CodePoint.ofChar '+'))
      (l := url.driver)
    have stopped := List.head?_dropWhile_not (· != CodePoint.ofChar '+') url.driver
    rw [taken] at whole
    cases behind : url.driver.dropWhile (· != CodePoint.ofChar '+') with
    | nil =>
      rw [behind, List.append_nil] at whole
      exact .inl whole.symm
    | cons c rest =>
      rw [behind] at whole stopped
      have plus : c = CodePoint.ofChar '+' := bne_eq_false_iff_eq.mp stopped
      rw [plus] at whole
      exact .inr ⟨rest, whole.symm⟩
  · rintro (alone | ⟨rest, driver⟩)
    · rw [alone, ← List.append_nil backend, List.takeWhile_append_of_pos before]
      rfl
    · rw [driver, List.takeWhile_append_of_pos before, List.takeWhile_cons, bne_self_eq_false,
        if_neg Bool.false_ne_true, List.append_nil]

-- What is paired with the backend of an address, which is known by its place in the driver
private theorem paired_iff (url : Url) (dialect : Dialect) :
    dialectOfBackend? url.backend = some dialect ↔
      ∃ backend, DrivesBackend url.driver backend ∧ (backend, dialect) ∈ backends := by
  have plain : ∀ entry ∈ backends, CodePoint.ofChar '+' ∉ entry.1 := by decide
  rw [dialectOfBackend?_iff]
  constructor
  · intro paired
    exact ⟨url.backend, (backend_eq_iff url _ (plain _ paired)).mp rfl, paired⟩
  · rintro ⟨backend, drives, paired⟩
    rwa [(backend_eq_iff url backend (plain _ paired)).mpr drives]

/-- There is no problem with an address exactly where it fits. -/
theorem urlProblem?_eq_none_iff (dialect : Dialect) (address : Text) :
    urlProblem? dialect address = none ↔ AddressFits dialect address := by
  rw [urlProblem?, AddressFits]
  cases Url.read address with
  | error fault => cases fault <;> simp
  | ok url =>
    simp only [Except.ok.injEq, exists_eq_left', ← paired_iff]
    cases dialectOfBackend? url.backend with
    | none => simp
    | some expected =>
      simp only [Option.some.injEq]
      split
      next same => simp [same]
      next differs => simp [differs]

/-- An address is refused exactly where it does not fit. -/
theorem addressRefused_iff (dialect : Dialect) (address : Text) :
    AddressRefused dialect address ↔ ¬AddressFits dialect address := by
  constructor
  · rintro refused ⟨url, read, fitting⟩
    have found := (paired_iff url dialect).mpr fitting
    cases refused with
    | unreadable fault unread =>
      rw [read] at unread
      cases unread
    | unknownBackend other reread unknown =>
      cases read.symm.trans reread
      obtain ⟨backend, drives, paired⟩ := fitting
      exact unknown backend dialect paired drives
    | otherDialect other backend expected reread drives paired differs =>
      cases read.symm.trans reread
      rw [(paired_iff url expected).mpr ⟨backend, drives, paired⟩] at found
      exact differs (Option.some.inj found)
  · intro unfit
    cases read : Url.read address with
    | error fault => exact .unreadable fault read
    | ok url =>
      cases found : dialectOfBackend? url.backend with
      | none =>
        refine .unknownBackend url read fun backend expected paired drives => ?_
        rw [(paired_iff url expected).mpr ⟨backend, drives, paired⟩] at found
        cases found
      | some expected =>
        obtain ⟨backend, drives, paired⟩ := (paired_iff url expected).mp found
        refine .otherDialect url backend expected read drives paired ?_
        rintro rfl
        exact unfit ⟨url, read, backend, drives, paired⟩

/-- There is no address, or it is empty, or it fits the type of database. -/
def AddressAccepted (settings : Settings) : Prop :=
  settings.databaseUrl = none ∨ settings.databaseUrl = some [] ∨
    ∃ address, settings.databaseUrl = some address ∧ AddressFits settings.dialect address

/-- There is an address, and it is refused. -/
def RefusedForAddress (settings : Settings) : Prop :=
  ∃ address, settings.databaseUrl = some address ∧ address ≠ [] ∧
    AddressRefused settings.dialect address

/-- The check keeps settings as they are, or refuses them as a whole for their address. -/
theorem checkUrl_spec (settings : Settings) :
    AddressAccepted settings ∧ ¬RefusedForAddress settings ∧ checkUrl settings = .ok settings ∨
      RefusedForAddress settings ∧
        ∃ reason, checkUrl settings = .error [⟨[], .refused reason⟩] := by
  rw [RefusedForAddress, AddressAccepted, checkUrl]
  match settings.databaseUrl with
  | none => exact .inl ⟨.inl rfl, by simp, rfl⟩
  | some [] => exact .inl ⟨.inr (.inl rfl), by simp, rfl⟩
  | some (c :: rest) =>
    cases found : urlProblem? settings.dialect (c :: rest) with
    | none =>
      have fits := (urlProblem?_eq_none_iff _ _).mp found
      refine .inl ⟨.inr (.inr ⟨_, rfl, fits⟩), ?_, by simp only [found]⟩
      rintro ⟨address, same, -, refused⟩
      cases same
      exact (addressRefused_iff _ _).mp refused fits
    | some reason =>
      have unfit : ¬AddressFits settings.dialect (c :: rest) := by
        rw [← urlProblem?_eq_none_iff, found]
        exact Option.some_ne_none reason
      exact .inr ⟨⟨_, rfl, List.cons_ne_nil c rest, (addressRefused_iff _ _).mpr unfit⟩, reason,
        by simp only [found]⟩

/-! ## Fields -/

/-- The fields that settings are checked from: what is configured, under the settings' names. -/
def fieldsOf (value? : String → Option Text) : Fields :=
  names.filterMap fun name => (value? name).map fun value => (Text.ofString name, Value.text value)

private theorem ofString_injective : Function.Injective Text.ofString := by
  intro s t same
  have chars : Function.Injective CodePoint.ofChar := by
    intro c d eq
    have numbers : c.toNat = d.toNat := congrArg (fun point : CodePoint => point.val) eq
    exact Char.toNat_inj.mp numbers
  exact String.toList_inj.mp (chars.list_map same)

-- A field holds what is configured for its setting
private theorem get?_fieldsOf (value? : String → Option Text) (name : String)
    (known : name ∈ names) : (fieldsOf value?).get? name = (value? name).map .text := by
  have unique : ((fieldsOf value?).map (·.1)).Nodup := by
    have distinct : names.Nodup := by decide
    rw [fieldsOf, List.map_filterMap]
    refine distinct.filterMap fun one other key ofOne ofOther => ?_
    simp only [Option.map_map, Option.mem_def, Option.map_eq_some_iff,
      Function.comp] at ofOne ofOther
    obtain ⟨-, -, rfl⟩ := ofOne
    obtain ⟨-, -, same⟩ := ofOther
    exact ofString_injective same.symm
  rw [Fields.get?, find?_reverse _ _ unique, ← lookup_eq_find?]
  refine Option.ext fun value => ?_
  rw [lookup_iff_mem _ _ unique, fieldsOf, List.mem_filterMap, Option.map_eq_some_iff]
  constructor
  · rintro ⟨other, -, held⟩
    obtain ⟨t, given, same⟩ := Option.map_eq_some_iff.mp held
    obtain ⟨named, rfl⟩ := Prod.mk.inj same
    rw [← ofString_injective named]
    exact ⟨t, given, rfl⟩
  · rintro ⟨t, given, rfl⟩
    exact ⟨name, known, by rw [given]; rfl⟩

-- An optional field takes what its check makes of a value, and its default where there is none
private theorem optional_ok_iff {α : Type} (value? : String → Option Text) (name : String)
    (known : name ∈ names) (check : Value → Except Misfit α) (absent a : α) :
    (fieldsOf value?).optional name check absent = .ok a ↔
      (value? name).elim (.ok absent) (fun t => check (.text t)) = .ok a := by
  rw [Fields.optional, Fields.require, get?_fieldsOf value? name known]
  cases value? name with
  | none => simp
  | some t => cases found : check (.text t) <;> simp [found]

-- A text field takes the text
private theorem optional_text_iff (value? : String → Option Text) (name : String)
    (known : name ∈ names) (absent t : Text) :
    (fieldsOf value?).optional name Value.asText absent = .ok t ↔
      t = (value? name).getD absent := by
  rw [optional_ok_iff value? name known, eq_comm]
  cases value? name <;> simp [Value.asText, eq_comm]

/-- Every field is of its kind, and the settings are what the fields hold. -/
structure HeldBy (fields : Fields) (settings : Settings) : Prop where
  logLevel : fields.optional "log_level" Value.asText "INFO" = .ok settings.logLevel
  databaseUrl : fields.optional "database_url" (fun value => value.asText.map some) none =
    .ok settings.databaseUrl
  dialect : fields.optional "db_type" asDialect .postgres = .ok settings.dialect
  tablePrefix : fields.optional "table_prefix" Value.asText [] = .ok settings.tablePrefix
  host : fields.optional "host" Value.asText "0.0.0.0" = .ok settings.host
  port : fields.optional "port" Value.asInt 8000 = .ok settings.port

theorem heldBy_iff (environment : Environment) (file : Text) (settings : Settings) :
    HeldBy (fieldsOf (configured? environment file)) settings ↔
      Configured environment file settings := by
  have logLevel := optional_text_iff (configured? environment file) "log_level" (by decide) "INFO"
    settings.logLevel
  have tablePrefix := optional_text_iff (configured? environment file) "table_prefix" (by decide) []
    settings.tablePrefix
  have host := optional_text_iff (configured? environment file) "host" (by decide) "0.0.0.0"
    settings.host
  have port := optional_ok_iff (configured? environment file) "port" (by decide) Value.asInt 8000
    settings.port
  have databaseUrl : (fieldsOf (configured? environment file)).optional "database_url"
      (fun value => value.asText.map some) none = .ok settings.databaseUrl ↔
        settings.databaseUrl = configured? environment file "database_url" := by
    rw [optional_ok_iff _ _ (by decide)]
    cases configured? environment file "database_url" <;>
      simp [Value.asText, Except.map, eq_comm]
  have dialect : (fieldsOf (configured? environment file)).optional "db_type" asDialect .postgres =
      .ok settings.dialect ↔
        Dialect.ofName? ((configured? environment file "db_type").getD "postgres") =
          some settings.dialect := by
    rw [optional_ok_iff _ _ (by decide)]
    cases configured? environment file "db_type" with
    | none =>
      have standard : Dialect.ofName? "postgres" = some .postgres := by decide
      simp [standard]
    | some name => cases found : Dialect.ofName? name <;> simp [asDialect, found]
  constructor
  · intro held
    exact ⟨logLevel.mp held.logLevel, databaseUrl.mp held.databaseUrl, dialect.mp held.dialect,
      tablePrefix.mp held.tablePrefix, host.mp held.host, port.mp held.port⟩
  · intro given
    exact ⟨logLevel.mpr given.logLevel, databaseUrl.mpr given.databaseUrl,
      dialect.mpr given.dialect, tablePrefix.mpr given.tablePrefix, host.mpr given.host,
      port.mpr given.port⟩

/-! ## Loading -/

/-- Fields of their kinds, and nothing besides, are left to the check of the address. -/
theorem ofFields_of_heldBy (fields : Fields) (settings : Settings)
    (held : HeldBy fields settings) : ofFields fields [] = checkUrl settings := by
  simp only [ofFields, held.logLevel, held.databaseUrl, held.dialect, held.tablePrefix, held.host,
    held.port, List.map_nil]

/-- Settings that are accepted are what the fields hold, and nothing was given besides. -/
theorem heldBy_of_ofFields (fields : Fields) (strangers : List Text) (accepted : Settings)
    (ok : ofFields fields strangers = .ok accepted) :
    strangers = [] ∧ HeldBy fields accepted := by
  simp only [ofFields] at ok
  split at ok
  next logLevel databaseUrl dialect tablePrefix host port none =>
    rcases checkUrl_spec ⟨_, _, _, _, _, _⟩ with ⟨-, -, kept⟩ | ⟨-, reason, refused⟩
    · cases kept.symm.trans ok
      exact ⟨List.map_eq_nil_iff.mp none, logLevel, databaseUrl, dialect, tablePrefix, host, port⟩
    · cases refused.symm.trans ok
  next => cases ok

private theorem load_eq (environment : Environment) (file : Text) :
    load environment file =
      ofFields (fieldsOf (configured? environment file))
        (strangers (foldCase (EnvFile.read environment file))) := by
  simp only [load, given?_foldCase]
  rfl

/-- What is configured, and nothing besides, is left to the check of the address. -/
theorem load_of_configured (environment : Environment) (file : Text) (settings : Settings)
    (configured : Configured environment file settings)
    (only : OnlySettings (EnvFile.read environment file)) :
    load environment file = checkUrl settings := by
  rw [load_eq, (strangers_eq_nil_iff _).mpr only]
  exact ofFields_of_heldBy _ settings ((heldBy_iff environment file settings).mpr configured)

/-- Settings that are accepted are what is configured, and nothing is configured besides. -/
theorem configured_of_load (environment : Environment) (file : Text) (settings : Settings)
    (ok : load environment file = .ok settings) :
    Configured environment file settings ∧ OnlySettings (EnvFile.read environment file) := by
  rw [load_eq] at ok
  obtain ⟨none, held⟩ := heldBy_of_ofFields _ _ settings ok
  exact ⟨(heldBy_iff environment file settings).mp held, (strangers_eq_nil_iff _).mp none⟩

/-- Settings that are accepted are what is configured, their address fits if there is one, and the
store can be made from the names that they hold. Where each setting is of its kind and the file
assigns nothing besides settings, they are refused exactly for an address that is refused. -/
theorem load_checks_address (environment : Environment) (file : Text) :
    (∀ settings, load environment file = .ok settings →
      Configured environment file settings ∧ AddressAccepted settings ∧
        Store.ofName ((configured? environment file "db_type").getD "postgres")
          settings.tablePrefix = .ok settings.store) ∧
    ∀ settings, Configured environment file settings →
      OnlySettings (EnvFile.read environment file) →
      ((∃ problems, load environment file = .error problems) ↔ RefusedForAddress settings) := by
  constructor
  · intro settings ok
    obtain ⟨configured, only⟩ := configured_of_load environment file settings ok
    rw [load_of_configured environment file settings configured only] at ok
    refine ⟨configured, ?_, by rw [Store.ofName, configured.dialect]; rfl⟩
    rcases checkUrl_spec settings with ⟨accepted, -, -⟩ | ⟨-, reason, refused⟩
    · exact accepted
    · cases refused.symm.trans ok
  · intro settings configured only
    rw [load_of_configured environment file settings configured only]
    rcases checkUrl_spec settings with ⟨-, notRefused, kept⟩ | ⟨refused, reason, problem⟩
    · rw [kept]
      exact ⟨fun ⟨_, clash⟩ => (nomatch clash), fun refused => absurd refused notRefused⟩
    · exact ⟨fun _ => refused, fun _ => ⟨_, problem⟩⟩

/-- An address of a backend that is paired with another type of database is refused; it is accepted
where the environment, which counts more than the file, names the type that the backend has. -/
theorem load_checks_address_mariadb :
    (∃ problems, load [] "BOARDSTORE_DATABASE_URL=mariadb+pymysql://db/b" = .error problems) ∧
      AddressAccepted { databaseUrl := some "mariadb+pymysql://db/b", dialect := .mysql } := by
  constructor
  · refine ((load_checks_address [] _).2
      { databaseUrl := some (Text.ofString "mariadb+pymysql://db/b") }
      (by constructor <;> decide +kernel)
      ((strangers_eq_nil_iff _).mp (by decide +kernel))).mpr ?_
    have drives : DrivesBackend "mariadb+pymysql" "mariadb" := .inr ⟨"pymysql", rfl⟩
    exact ⟨_, rfl, by decide, .otherDialect _ _ .mysql rfl drives (by decide) (by decide)⟩
  · have loaded : load [("boardstore_db_type", "mysql")]
        ("BOARDSTORE_DB_TYPE=sqlite3\n" ++ "BOARDSTORE_DATABASE_URL=mariadb+pymysql://db/b") =
          .ok { databaseUrl := some (Text.ofString "mariadb+pymysql://db/b"), dialect := .mysql } :=
      by decide +kernel
    exact ((load_checks_address _ _).1 _ loaded).2.1

/-- An assignment of the file that is of no setting is refused too, though every setting is of its
kind and there is no address. -/
theorem load_stranger :
    Configured [] "FOO=1" {} ∧ ¬RefusedForAddress {} ∧
      load [] "FOO=1" = .error [⟨["foo"], .notPermitted⟩] := by
  refine ⟨by constructor <;> decide +kernel, ?_, by decide +kernel⟩
  rintro ⟨address, none, -⟩
  cases none

end Tenancy.Settings
