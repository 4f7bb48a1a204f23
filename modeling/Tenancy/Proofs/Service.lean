import Tenancy.Proofs.Config.Settings
import Tenancy.Proofs.Database.Pool
import Tenancy.Service

/-!
# What a service writes

A service records a few messages from its start to its stop, and its log writes them as it is set
up. One of the messages shows the address of the database, with stars in the place of the password,
and whether there are messages behind it hangs on the pool, for which passwords are alike. So two
services whose addresses differ in their passwords cannot be told apart by what they write.
-/
namespace Tenancy.Service

/-! ## Records -/

/-- The record of a log that is set up for a level. -/
def readyRecord (level : LogLevel) : LogRecord :=
  record .debug ("Logging ready (level=" ++ level.grade.name ++ ")")

def stopRecord : LogRecord := record .info "Boardstore shutting down"

/-- The records behind the first one of a service: about its database, and about its end, if the
service gets that far. -/
def laterRecords (settings : Settings) : List LogRecord :=
  match settings.address? with
  | none =>
    [record .warning "BOARDSTORE_DATABASE_URL not set -- workspace endpoints disabled", stopRecord]
  | some address =>
    match Pool.ofAddress address [] with
    | .error _ => []
    | .ok pool =>
      match pool.address.render true with
      | .error _ => []
      | .ok written => [poolRecord settings written, stopRecord, record .info "Database: disposed"]

/-- All records of a service, whether its log writes them or not. -/
def records (settings : Settings) : List LogRecord :=
  match LogLevel.ofValue (.text settings.logLevel) with
  | .error _ => []
  | .ok level => readyRecord level :: startRecord settings :: laterRecords settings

private theorem setUpLog_ok (settings : Settings) (level : LogLevel)
    (known : LogLevel.ofValue (.text settings.logLevel) = .ok level) :
    ∃ log, settings.setUpLog = (.ok (log.write (readyRecord level)), log) := by
  simp only [Settings.setUpLog, LogOutput.setUp, known]
  exact ⟨_, rfl⟩

private theorem setUpLog_error (settings : Settings) (fault : LogFault)
    (unknown : LogLevel.ofValue (.text settings.logLevel) = .error fault) :
    ∃ log, settings.setUpLog = (.error fault, log) := by
  simp only [Settings.setUpLog, LogOutput.setUp, unknown]
  cases fault <;> exact ⟨_, rfl⟩

-- The database of a service and its end
private theorem connect_eq (settings : Settings) (log : LogOutput) :
    (match connect settings log with
      | .error _ => []
      | .ok (service, lines) => lines ++ service.stop) =
        (laterRecords settings).flatMap log.write := by
  rw [connect, laterRecords]
  cases settings.address? with
  | none => simp [stop, stopRecord]
  | some address =>
    cases opened : Pool.ofAddress address [] with
    | error fault => simp only [opened, List.flatMap_nil]
    | ok pool =>
      cases writes : pool.address.render true with
      | error fault => simp only [opened, writes, List.flatMap_nil]
      | ok written => simp [opened, writes, stop, stopRecord]

/-- A service writes its records, those that its log admits. -/
theorem lifespan_eq (environment : Environment) (file : Text) (settings : Settings)
    (loads : Settings.load environment file = .ok settings) :
    lifespan environment file = (records settings).flatMap settings.setUpLog.2.write := by
  simp only [lifespan, start, loads, records]
  cases known : LogLevel.ofValue (.text settings.logLevel) with
  | error fault =>
    obtain ⟨log, unset⟩ := setUpLog_error settings fault known
    simp only [unset, List.flatMap_nil]
  | ok level =>
    obtain ⟨log, set⟩ := setUpLog_ok settings level known
    have later := connect_eq settings log
    simp only [set, List.flatMap_cons, ← later]
    cases connect settings log with
    | error fault => rw [List.append_nil]
    | ok opened => simp only [List.append_assoc]

/-! ## Passwords -/

/-- The settings have an address, and it reads as this one. -/
def HasAddress (settings : Settings) (url : Url) : Prop :=
  ∃ address, settings.databaseUrl = some address ∧ Url.read address = .ok url

/-- Two settings that agree in everything but the passwords in their addresses. -/
structure AgreeButPassword (one other : Settings) (url url' : Url) : Prop where
  rest : { one with databaseUrl := none } = { other with databaseUrl := none }
  address : HasAddress one url
  addressOther : HasAddress other url'
  passwords : url.SameButPassword url'

private theorem address?_of_read (settings : Settings) (address : Text) (url : Url)
    (given : settings.databaseUrl = some address) (read : Url.read address = .ok url) :
    settings.address? = some address := by
  have present : (!address.isEmpty) = true := by
    cases address with
    | nil => cases read
    | cons => rfl
  rw [Settings.address?, given, Option.filter_some, if_pos present]

section

variable {one other : Settings} {url url' : Url} (agree : AgreeButPassword one other url url')
  (file : url.backend = "sqlite" → url.namesServer = url'.namesServer)

include agree

private theorem setUpLog_agree : other.setUpLog = one.setUpLog := by
  have same := congrArg Settings.setUpLog agree.rest
  exact same.symm

private theorem startRecord_agree : startRecord other = startRecord one := by
  have same := congrArg startRecord agree.rest
  exact same.symm

private theorem poolRecord_agree (written : Text) :
    poolRecord other written = poolRecord one written := by
  have same := congrArg (poolRecord · written) agree.rest
  exact same.symm

include file in
private theorem laterRecords_agree : laterRecords other = laterRecords one := by
  obtain ⟨address, given, read⟩ := agree.address
  obtain ⟨another, given', read'⟩ := agree.addressOther
  have pools := Pool.ofAddress_sameButPassword address another url url' read read' agree.passwords
    file []
  rw [laterRecords, laterRecords, address?_of_read one address url given read,
    address?_of_read other another url' given' read']
  cases opened : Pool.ofAddress address [] with
  | error fault =>
    have opened' : Pool.ofAddress another [] = .error fault := by
      rw [pools, opened]
      rfl
    simp only [opened, opened']
  | ok pool =>
    have kept := Except.ok.inj ((Pool.read_of_ofAddress address [] pool opened).symm.trans read)
    have opened' : Pool.ofAddress another [] = .ok { pool with
        address := url'
        url := pool.url.withPassword url'.password } := by
      rw [pools, opened]
      rfl
    -- The record shows the address that the pool was opened with, without the password
    have shown : url'.render true = pool.address.render true := by
      rw [kept, Url.render_hidden agree.passwords]
    simp only [opened, opened', shown, poolRecord_agree agree]

include file in
/-- Settings that agree in everything but a password are recorded alike. -/
theorem records_agree : records other = records one := by
  have level := congrArg Settings.logLevel agree.rest
  rw [records, records, show other.logLevel = one.logLevel from level.symm,
    startRecord_agree agree, laterRecords_agree agree file]

include file in
theorem lifespan_agree {environment environment' : Environment} {source source' : Text}
    (loads : Settings.load environment source = .ok one)
    (loads' : Settings.load environment' source' = .ok other) :
    lifespan environment source = lifespan environment' source' := by
  rw [lifespan_eq environment source one loads, lifespan_eq environment' source' other loads',
    records_agree agree file, setUpLog_agree agree]

end

-- An address that is accepted can be read, and its backend is that of the embedded database only
-- where this is the type of database
private theorem read_of_load (environment : Environment) (file address : Text) (settings : Settings)
    (loads : Settings.load environment file = .ok settings)
    (given : settings.databaseUrl = some address) (present : address ≠ []) :
    ∃ url, Url.read address = .ok url ∧ (url.backend = "sqlite" → settings.dialect = .sqlite) := by
  obtain ⟨configured, only⟩ := Settings.configured_of_load environment file settings loads
  rw [Settings.load_of_configured environment file settings configured only] at loads
  rcases Settings.checkUrl_spec settings with ⟨accepted, -, -⟩ | ⟨-, reason, refused⟩
  · rw [Settings.AddressAccepted, given] at accepted
    rcases accepted with none | empty | ⟨other, same, url, read, backend, drives, paired⟩
    · cases none
    · exact absurd (Option.some.inj empty) present
    · refine ⟨url, by rw [Option.some.inj same, read], fun embedded => ?_⟩
      have plain : ∀ entry ∈ Settings.backends, CodePoint.ofChar '+' ∉ entry.1 := by decide
      rw [← (Settings.backend_eq_iff url backend (plain _ paired)).mpr drives, embedded] at paired
      revert paired
      cases settings.dialect <;> decide
  · cases refused.symm.trans loads

/-- The address of a server is written with one password and with another. Whatever the passwords
are, the service writes the same lines. -/
theorem lifespan_written_password (environment environment' : Environment) (file file' : Text)
    (settings : Settings) (server : settings.dialect ≠ .sqlite) (url : Url)
    (user password another address address' : Text) (someone : url.user = some user)
    (named : url.driver ≠ []) (driving : ∀ c ∈ url.driver, Url.isDriver c = true)
    (writes : (url.withPassword (some password)).render false = .ok address)
    (writes' : (url.withPassword (some another)).render false = .ok address')
    (loads : Settings.load environment file = .ok { settings with databaseUrl := some address })
    (loads' : Settings.load environment' file' =
      .ok { settings with databaseUrl := some address' }) :
    lifespan environment file = lifespan environment' file' := by
  have own := Url.read_render_password url user password password address address someone named
    driving writes writes
  have changed := Url.read_render_password url user password another address address' someone named
    driving writes writes'
  have present : address ≠ [] := by
    rintro rfl
    exact Url.render_ne_nil (url.withPassword (some password)) named writes
  obtain ⟨one, read, embedded⟩ := read_of_load environment file _ _ loads rfl present
  rw [read] at own changed
  have passwords : one.SameButPassword
      (one.withPassword (some (Percent.decode (Percent.encode Url.isPlain another)))) := by
    refine ⟨?_, rfl, rfl⟩
    rw [Except.ok.inj own]
    rfl
  have agree : AgreeButPassword { settings with databaseUrl := some address }
      { settings with databaseUrl := some address' } one _ :=
    ⟨rfl, ⟨_, rfl, read⟩, ⟨_, rfl, changed⟩, passwords⟩
  exact lifespan_agree agree (fun backend => absurd (embedded backend) server) loads loads'

/-- Two services whose settings agree in everything but the passwords in their addresses have the
same records, of every level, and write the same lines from their start to their stop. Where the
addresses are of the embedded database, they have to name both or neither more than a file. -/
theorem lifespan_hides_password (environment environment' : Environment) (file file' : Text)
    (one other : Settings) (url url' : Url)
    (loads : Settings.load environment file = .ok one)
    (loads' : Settings.load environment' file' = .ok other)
    (agree : AgreeButPassword one other url url')
    (embedded : url.backend = "sqlite" → url.namesServer = url'.namesServer) :
    records one = records other ∧ lifespan environment file = lifespan environment' file' :=
  ⟨(records_agree agree embedded).symm, lifespan_agree agree embedded loads loads'⟩

/-- Settings with an address that ask for every record. -/
def tracedSettings (dialect : Dialect) (address : Text) : Settings :=
  { logLevel := "trace", databaseUrl := some address, dialect }

/-- The environment of these settings. -/
def tracedEnvironment (dialect : Dialect) (address : Text) : Environment :=
  [("BOARDSTORE_DATABASE_URL", address), ("BOARDSTORE_DB_TYPE", Text.ofString dialect.name),
    ("BOARDSTORE_LOG_LEVEL", "trace")]

def serverAddress (password : Text) : Text := "postgresql+psycopg://me:" ++ password ++ "@db:5432/b"

def serverUrl (password : Text) : Url :=
  ⟨"postgresql+psycopg", some (Text.ofString "me"), some password, some (Text.ofString "db"),
    some 5432, some (Text.ofString "b"), []⟩

/-- One password is plain; the other one holds an at sign, a colon, a slash and a percent sign. -/
theorem lifespan_hides_password_marks :
    lifespan (tracedEnvironment .postgres (serverAddress "secret")) [] =
      lifespan (tracedEnvironment .postgres (serverAddress "%40:/%25")) [] :=
  (lifespan_hides_password _ _ [] [] (tracedSettings .postgres (serverAddress "secret"))
    (tracedSettings .postgres (serverAddress "%40:/%25")) (serverUrl "secret") (serverUrl "@:/%")
    (by decide +kernel) (by decide +kernel)
    ⟨rfl, ⟨_, rfl, by decide +kernel⟩, ⟨_, rfl, by decide +kernel⟩, ⟨rfl, rfl, rfl⟩⟩
    (by decide)).2

def fileAddress (password : Text) : Text := "sqlite://:" ++ password ++ "@/b.db"

def fileUrl (password : Text) : Url :=
  ⟨"sqlite", some [], some password, none, none, some (Text.ofString "b.db"), []⟩

/-- An address of the embedded database is refused for a password, unless the password is empty. Of
two services whose passwords alone differ, one then gets to its end and the other does not start,
and their lines tell. -/
theorem lifespan_empty_password :
    Settings.load (tracedEnvironment .sqlite (fileAddress [])) [] =
        .ok (tracedSettings .sqlite (fileAddress [])) ∧
      Settings.load (tracedEnvironment .sqlite (fileAddress "secret")) [] =
        .ok (tracedSettings .sqlite (fileAddress "secret")) ∧
      AgreeButPassword (tracedSettings .sqlite (fileAddress []))
        (tracedSettings .sqlite (fileAddress "secret")) (fileUrl []) (fileUrl "secret") ∧
      lifespan (tracedEnvironment .sqlite (fileAddress [])) [] ≠
        lifespan (tracedEnvironment .sqlite (fileAddress "secret")) [] := by
  refine ⟨by decide +kernel, by decide +kernel,
    ⟨rfl, ⟨_, rfl, by decide +kernel⟩, ⟨_, rfl, by decide +kernel⟩, ⟨rfl, rfl, rfl⟩⟩, ?_⟩
  intro same
  have ends : (lifespan (tracedEnvironment .sqlite (fileAddress [])) []).length = 5 := by
    decide +kernel
  have fails : (lifespan (tracedEnvironment .sqlite (fileAddress "secret")) []).length = 2 := by
    decide +kernel
  rw [same, fails] at ends
  cases ends

end Tenancy.Service
