import Tenancy.Proofs.Cli.Session
import Tenancy.Proofs.Json.Printing
import Tenancy.Proofs.Store.Disk

/-!
# Settings that are written and printed

One command writes settings and the next one prints them. Between the two a text is read, stored in
another form, read from there, and printed in a third form, and the disk is opened twice. What the
second command prints is read as the row that the first one left, with the document that the first
one was given. The store keeps documents of any nesting, but the printer does not: settings that are
nested too deep are written, and the second command fails.
-/
namespace Tenancy

open Store

namespace Store

/-- A row that settings are written to where ids are unique is the only row of its id, and it is
what the store is given back when it asks for that id. -/
theorem Tabled.upsert_settings (tablePrefix : Text) (rows : List TableRow)
    (database changed : Database) (tabled : Tabled tablePrefix rows database)
    (unique : (rows.map (·.id)).Nodup) (written : Written) (settings : StoredSettings)
    (given : written.settings = some settings)
    (upserted : database.runUpsert (written.upsert tablePrefix) = .ok changed) :
    let token := ((rows.find? (·.id == written.id)).map (·.token)).getD written.token
    let row : WorkspaceRow :=
      ⟨written.id, token, some settings, written.modifiedBy, written.seconds⟩
    written.Storable ∧ Tabled tablePrefix (written.applyTable rows) changed ∧
      (written.applyTable rows).filter (·.id == written.id) = [row.tableRow] ∧
      changed.run .sqlite ((embedded tablePrefix).workspaceQuery (.text written.id)) =
        (.ok ⟨[row.shown], none⟩, changed) := by
  intro token row
  have sendable := isSendable_of_runUpsert tablePrefix written database changed upserted
  obtain ⟨storable, rfl⟩ :=
    (Tabled.runUpsert_ok_iff tablePrefix sendable rows database tabled written changed).mp upserted
  have after := Tabled.replace tablePrefix rows (written.applyTable rows) database tabled
  have only := written.filter_applyTable_settings settings given rows unique
  have asked := after.run_workspaceQuery tablePrefix sendable _ _ written.id storable.id
  rw [only, List.map_singleton, WorkspaceRow.shown_tableRow] at asked
  exact ⟨storable, after, only, asked⟩

/-! ## The document of a row -/

section
variable (id token : Text) (settings : Json) (modifiedBy : Text) (updateAt : Int)

end

/-- A document whose value could be stored can be written once more. -/
theorem StoredSettings.writable (settings : StoredSettings) (document : Json)
    (given : settings.given = document.toValue) : Json.Writable document := by
  have encoded := settings.encoded
  rw [given, encodeSettings] at encoded
  split at encoded
  next other valid =>
    obtain rfl := Json.ofValue_toValue document other valid
    exact (Json.reread_ofValue _ _ valid).1
  next => cases encoded

end Store

namespace Cli

namespace Session

end Session

end Cli

end Tenancy
