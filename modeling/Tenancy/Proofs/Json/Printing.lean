import Tenancy.Proofs.Json.Dump
import Tenancy.Proofs.Json.Octets
import Tenancy.Proofs.Store.Settings

/-!
# Printed documents

What is printed of a value that a document denotes is that document, and a reader takes it back from
the print as it is: canonical documents come back unchanged in every style.
-/
namespace Tenancy

namespace Json

/-! ## Canonical documents -/

private theorem reading_unpaired (style : Style) (t : Text) (unpaired : t.Unpaired) :
    style.reading t = t := by
  unfold Style.reading
  split
  · exact Text.joined_of_unpaired t unpaired
  · rfl

section
variable (style : Style)

mutual

/-- A canonical document is read back as it is. -/
theorem reread_canonical : ∀ document : Json, Canonical document → reread style document = document
  | .null, _ => rfl
  | .bool _, _ => rfl
  | .int _, _ => rfl
  | .number _, _ => rfl
  | .string t, unpaired => congrArg string (reading_unpaired style t unpaired)
  | .array items, canonical => congrArg array (reread_canonicalItems items canonical)
  | .object members, canonical => by
    rw [reread, reread_canonicalMembers members canonical.2,
      collapse_of_nodup members canonical.1]

private theorem reread_canonicalItems : ∀ items : List Json, CanonicalItems items →
    rereadItems style items = items
  | [], _ => rfl
  | item :: rest, canonical => by
    rw [rereadItems, reread_canonical item canonical.1, reread_canonicalItems rest canonical.2]

private theorem reread_canonicalMembers : ∀ members : List (Text × Json),
    CanonicalMembers members → rereadMembers style members = members
  | [], _ => rfl
  | (name, value) :: rest, canonical => by
    rw [rereadMembers, reading_unpaired style name canonical.1.1,
      reread_canonical value canonical.1.2, reread_canonicalMembers rest canonical.2]

end

end

/-! ## Documents of values that documents denote -/

mutual

/-- What shows the value of a document is the document, where there is room for it. -/
theorem dump_toValue : ∀ (document : Json) (room : Nat), Writable document →
    document.toValue.isEncodable = true → document.toValue.nesting ≤ room →
      dump room document.toValue = .ok document
  | document, 0, _, _, fits => by
    cases document <;> exact absurd fits (Nat.not_succ_le_zero _)
  | .null, _ + 1, _, _, _ => rfl
  | .bool _, _ + 1, _, _, _ => rfl
  | .int _, _ + 1, _, _, _ => rfl
  | .number x, _ + 1, finite, _, _ => by
    have isFinite : x.isFinite = true := finite
    rw [toValue, dump, isFinite]
    rfl
  | .string t, _ + 1, _, encodable, _ => by
    rw [toValue, dump, dumpText, (Text.encodeFault?_eq_none_iff t).mpr encodable]
    rfl
  | .array items, room + 1, writable, encodable, fits => by
    rw [toValue, dump, dump_toValues items room writable encodable (Nat.le_of_succ_le_succ fits)]
    rfl
  | .object members, room + 1, writable, encodable, fits => by
    rw [toValue, dump,
      dump_toEntries members room writable encodable (Nat.le_of_succ_le_succ fits)]
    rfl

private theorem dump_toValues : ∀ (items : List Json) (room : Nat), WritableItems items →
    Value.areEncodable (toValues items) = true → Value.nestingOfItems (toValues items) ≤ room →
      dumpItems room (toValues items) = .ok items
  | [], _, _, _, _ => rfl
  | item :: rest, room, writable, encodable, fits => by
    rw [toValues, Value.areEncodable, Bool.and_eq_true] at encodable
    rw [toValues, Value.nestingOfItems, Nat.max_le] at fits
    rw [toValues, dumpItems, dump_toValue item room writable.1 encodable.1 fits.1,
      dump_toValues rest room writable.2 encodable.2 fits.2]
    rfl

private theorem dump_toEntries : ∀ (members : List (Text × Json)) (room : Nat),
    WritableMembers members → Value.haveEncodable (toEntries members) = true →
      Value.nestingOfEntries (toEntries members) ≤ room →
        dumpEntries room (toEntries members) = .ok members
  | [], _, _, _, _ => rfl
  | (name, value) :: rest, room, writable, encodable, fits => by
    rw [toEntries, Value.haveEncodable, Bool.and_eq_true, Bool.and_eq_true] at encodable
    rw [toEntries, Value.nestingOfEntries, Nat.max_le] at fits
    obtain ⟨⟨name', value'⟩, rest'⟩ := encodable
    have known : name.encodeFault? = none := (Text.encodeFault?_eq_none_iff name).mpr name'
    rw [toEntries, dumpEntries, dumpKey, dumpText, known,
      dump_toValue value room writable.1 value' fits.1,
      dump_toEntries rest room writable.2 rest' fits.2]
    rfl

end

mutual

/-- The document of the value of a document is the document. -/
theorem ofValue_toValue : ∀ document other : Json,
    ofValue false document.toValue = .ok other → other = document
  | .null, other, valid => (Except.ok.inj valid).symm
  | .bool _, other, valid => (Except.ok.inj valid).symm
  | .int n, other, valid => (ofInt_ok n other valid).1
  | .number x, other, valid => (ofDouble_ok x other valid).1
  | .string _, other, valid => (Except.ok.inj valid).symm
  | .array items, other, valid => by
    obtain ⟨others, parts, rfl⟩ := (map_ok_iff _ _ _).mp valid
    rw [ofItems_toValues items others parts]
  | .object members, other, valid => by
    obtain ⟨others, parts, rfl⟩ := (map_ok_iff _ _ _).mp valid
    rw [ofEntries_toEntries members others parts]

private theorem ofItems_toValues : ∀ items others : List Json,
    ofItems false (toValues items) = .ok others → others = items
  | [], others, valid => (Except.ok.inj valid).symm
  | item :: rest, others, valid => by
    obtain ⟨document, first, valid⟩ := (bind_ok_iff _ _ _).mp valid
    obtain ⟨documents, more, valid⟩ := (bind_ok_iff _ _ _).mp valid
    rw [← Except.ok.inj valid, ofValue_toValue item document first,
      ofItems_toValues rest documents more]

private theorem ofEntries_toEntries : ∀ members others : List (Text × Json),
    ofEntries false (toEntries members) = .ok others → others = members
  | [], others, valid => (Except.ok.inj valid).symm
  | (name, value) :: rest, others, valid => by
    obtain ⟨key, named, valid⟩ := (bind_ok_iff _ _ _).mp valid
    obtain ⟨document, first, valid⟩ := (bind_ok_iff _ _ _).mp valid
    obtain ⟨documents, more, valid⟩ := (bind_ok_iff _ _ _).mp valid
    rw [← Except.ok.inj valid, ← Except.ok.inj named, ofValue_toValue value document first,
      ofEntries_toEntries rest documents more]

end

end Json

end Tenancy
