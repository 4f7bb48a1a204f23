import Tenancy.Proofs.Cli.Session
import Tenancy.Proofs.Http.Refinement
import Tenancy.Proofs.Json.Octets
import Tenancy.Proofs.Store.Disk
import Tenancy.Proofs.Store.Encoding

/-!
# The two front ends

Settings are replaced by a command or by a request. The command reads a text, and the request has
the same text in octets inside of an object; both come to one and the same write of the store, so
they leave the same database. What the request reads after its write leaves that database as it is.
-/
namespace Tenancy

open Store

namespace Http

/-- A request of a user to replace the settings of a workspace by a text. -/
structure Sends (id user t : Text) (request : Request) : Prop where
  calls : Calls (.settings id) request
  named : request.header? "x-user-id" = some user
  isDocument : (request.header? "content-type").any Body.isDocumentType = true
  body : Utf8.encode (Json.envelope "settings" t) = .ok request.body

private theorem Sends.members (id user t : Text) (request : Request)
    (sends : Sends id user t request) (document : Json) (read : Json.read t = .ok document) :
    request.members? = some [(Text.ofString "settings", document)] := by
  have octets : (Json.envelope "settings" t).flatMap Utf8.encodePoint = request.body := by
    have encoded := sends.body
    unfold Utf8.encode at encoded
    split at encoded
    · cases encoded
    · exact Except.ok.inj encoded
  have content := Json.readOctets_envelope "settings" t document (Json.spells_self _ rfl) read
  have present : ((Json.envelope "settings" t).flatMap Utf8.encodePoint).isEmpty = false := rfl
  rw [octets] at content present
  have taken : Body.ofRequest request =
      .ok (.document (.object [(Text.ofString "settings", document)])) := by
    rw [Body.ofRequest, present, if_neg Bool.false_ne_true, if_pos sends.isDocument, content]
  unfold Request.members?
  rw [taken]

/-- The request comes to what the text denotes. -/
theorem Sends.asks (id user t : Text) (request : Request) (sends : Sends id user t request)
    (document : Json) (read : Json.read t = .ok document) (store : Store) :
    update? (.over (some store)) store id request = some (user, document.toValue) := by
  rw [update?_over, sends.named, sends.members id user t request document read]
  rfl

/-- New settings leave in a database that is open what their write leaves. -/
theorem settings_database (tablePrefix : Text) (world : World Disk) (id : Text)
    (asking : Text × Value) :
    ((Api.settings (embedded tablePrefix) id asking.1 ⟨asking.2⟩ :
      Step Disk Response).result world).2.database =
        (((asked id asking).step (embedded tablePrefix)).result world).2.database := by
  rw [settings_result]
  rcases ran : ((asked id asking).step (embedded tablePrefix)).result world with ⟨outcome, after⟩
  cases outcome with
  | error fault => cases fault <;> rfl
  | ok =>
    obtain ⟨-, -, -, changed, -, -, -, -, isOpen⟩ := upsertSettings_disk tablePrefix _ _ _ ran
    have replied := Step.result_bind_snd ((embedded tablePrefix).getWorkspace (.text id))
      (fun workspace => Api.reply workspace.toValue) after
      fun _ world => congrArg Prod.snd (Step.result_ofExcept _ world)
    exact (congrArg World.database replied).trans
      (isOpen.getWorkspace_database tablePrefix after changed id)

/-- Settings with a number that is not finite are not met, and nothing is written. -/
theorem settings_notFinite {δ : Type} [Engine δ] (tablePrefix : Text) (world : World δ) (id : Text)
    (asking : Text × Value) (x : Double) (infinite : x.isFinite = false)
    (isIn : .node (.float x) ∈ asking.2.visits) :
    Unmet ((Api.settings (embedded tablePrefix) id asking.1 ⟨asking.2⟩ :
        Step δ Response).result world).1 ∧
      ∃ fault, ((asked id asking).step (embedded tablePrefix)).result world =
        (.error fault, world) := by
  have failed : ∃ fault, ((asked id asking).step (embedded tablePrefix)).result world =
      (.error fault, world) := by
    obtain ⟨cause, refused⟩ := encodeSettings_notFinite asking.2 x infinite isIn
    rw [asked, Write.step, upsertSettings_result]
    cases world.clock.toInt with
    | error cause => exact ⟨_, rfl⟩
    | ok seconds =>
      cases stored : StoredSettings.of asking.2 with
      | error fault => exact ⟨fault, rfl⟩
      | ok settings => cases refused.symm.trans (StoredSettings.of_ok _ _ stored).1
  obtain ⟨fault, failed⟩ := failed
  refine ⟨?_, fault, failed⟩
  rw [settings_result, failed]
  intro response same
  cases fault with
  | unserializableSettings cause =>
    obtain rfl := Except.ok.inj same
    exact (show 422 ≠ 200 by decide)
  | _ => cases same

private theorem answer_unmet (outcome : Except Fault Response) (unmet : Unmet outcome) :
    (answer outcome).1.status ≠ 200 := by
  cases outcome with
  | ok response => exact unmet response rfl
  | error fault => exact (show 500 ≠ 200 by decide)

end Http

/-- Where a command and a request replace the settings of one workspace by one text in the name of
one user, both do to the disk what the write of the store does that the text denotes, so both leave
the same tables. A number that is not finite, wherever it is in the text, keeps both from writing
anything. -/
theorem front_ends_agree (session : Cli.Session) (opened : Cli.Opened)
    (opens : session.openStore = .ok opened) (tablePrefix : Text)
    (isEmbedded : opened.store = embedded tablePrefix) (id user t : Text)
    (isArgument : Cli.isOption id = false) (isArgument' : Cli.isOption t = false)
    (document : Json) (read : Json.read t = .ok document) (request : Http.Request)
    (sends : Http.Sends id user t request) (world : World Disk) :
    let found := { world with database := opened.enter world.database }
    let ended := (session.run (Cli.settingWords id t user)).run world
    let served := ((Http.Api.over (some (embedded tablePrefix))).serve request).run found
    let written := ((embedded tablePrefix).upsertSettings
      { id, settings := document.toValue, modifiedBy := user }).result found
    ended.2.database = served.2.database ∧ ended.2.database = written.2.database ∧
    (ended.1.status = 0 ↔ written.1 = .ok ()) ∧
    ((∃ x : Double, x.isFinite = false ∧ .node (.float x) ∈ document.toValue.visits) →
      ended.1.status ≠ 0 ∧ served.1.1.status ≠ 200 ∧ ended.2.database = found.database) := by
  intro found ended served written
  obtain ⟨same, succeeds⟩ := Cli.Session.run_setting session opened opens tablePrefix isEmbedded id
    t user isArgument isArgument' document read world
  have handled := Http.handle_accepted (embedded tablePrefix) found (.over (some (embedded _))) rfl
    id request ⟨sends.calls.path, sends.calls.method⟩ user document.toValue
    (sends.asks id user t request document read _)
  have reply : served = (Http.answer ((Http.Api.settings (embedded tablePrefix) id user
      ⟨document.toValue⟩ : Step Disk Http.Response).result found).1,
        ((Http.Api.settings (embedded tablePrefix) id user
          ⟨document.toValue⟩ : Step Disk Http.Response).result found).2) := by
    rw [← handled]
    exact Http.serve_run _ request found
  have left : served.2.database = written.2.database := by
    rw [reply]
    exact Http.settings_database tablePrefix found id (user, document.toValue)
  have direct : ended.2.database = written.2.database := congrArg World.database same
  refine ⟨direct.trans left.symm, direct, succeeds, ?_⟩
  rintro ⟨x, infinite, isIn⟩
  obtain ⟨unmet, fault, failed⟩ := Http.settings_notFinite tablePrefix found id
    (user, document.toValue) x infinite isIn
  have refused : written = (.error fault, found) := failed
  refine ⟨fun met => ?_, ?_, ?_⟩
  · have success := succeeds.mp met
    cases (congrArg Prod.fst refused).symm.trans success
  · rw [reply]
    exact Http.answer_unmet _ unmet
  · rw [direct, refused]

/-- A request that sends a text with a name twice and a pair in two escapes. -/
def sending : Http.Request :=
  ⟨"POST", "/api/workspaces/a/settings", [],
    [("x-user-id", "u"), ("content-type", "application/json")],
    (Json.envelope "settings" Cli.Session.repeated).flatMap Utf8.encodePoint⟩

open Cli.Session in
/-- Both front ends write the text to the file. -/
theorem front_ends_agree_boards : ∃ opened, boards.openStore = .ok opened ∧
    let found := worldOf (opened.enter boardsDisk)
    let ended := (boards.run (Cli.settingWords "a" repeated "u")).run (worldOf boardsDisk)
    let served := ((Http.Api.over (some (embedded []))).serve sending).run found
    ended.2.database = served.2.database ∧ ended.1.status = 0 := by
  obtain ⟨opened, opens, isEmbedded, -⟩ := openStore_boards
  have octets : Utf8.encode (Json.envelope "settings" repeated) = .ok sending.body := by
    have plain : (Json.envelope "settings" repeated).encodeFault? = none := by decide +kernel
    rw [Utf8.encode, plain]
    rfl
  have sends : Http.Sends "a" "u" repeated sending :=
    ⟨⟨by decide +kernel, rfl⟩, by decide +kernel, by decide +kernel, octets⟩
  obtain ⟨same, -⟩ := front_ends_agree boards opened opens [] isEmbedded "a" "u" repeated rfl rfl
    repeatedDocument read_repeated sending sends (worldOf boardsDisk)
  -- The world that is found stays a variable, so that nothing runs where the runs are compared
  obtain ⟨found, entering⟩ : ∃ found : World Disk, found = worldOf (opened.enter boardsDisk) :=
    ⟨_, rfl⟩
  have opening : (⟨(worldOf boardsDisk).seeds, (worldOf boardsDisk).clock,
      (worldOf boardsDisk).log, opened.enter (worldOf boardsDisk).database⟩ : World Disk) = found :=
    entering.symm
  rw [opening] at same
  refine ⟨opened, opens, ?_⟩
  rw [← entering]
  exact ⟨same, run_repeated⟩

end Tenancy
