import Tenancy.Json.Octets
import Tenancy.Proofs.Json.Canonical
import Tenancy.Proofs.Text.Utf8

/-!
# Documents inside of documents

A document that is the value of a member denotes there what it denotes alone. With that member the
first characters of the object are known, so its octets show how they are encoded, and the object is
read from them as well.
-/
namespace Tenancy.Json

/-- The text of an object with one member. -/
def envelope (name t : Text) : Text :=
  0x7b :: .quote :: (name ++ .quote :: 0x3a :: t) ++ [0x7d]

/-- A name without a character that has to be escaped spells itself. -/
theorem spells_self (name : Text) (plain : name.all (fun c =>
    decide (0x20 ≤ c.val) && c != .quote && c != .backslash) = true) : Spells name name := by
  induction name with
  | nil => exact .nil
  | cons c name ih =>
    simp only [List.all_cons, Bool.and_eq_true, decide_eq_true_eq, bne_iff_ne] at plain
    exact .plain plain.1.1.1 plain.1.1.2 plain.1.2 (ih plain.2)

/-- A document denotes the same as the value of a member. -/
theorem isDocument_envelope {grammar : Grammar} (name t : Text) (document : Json)
    (spells : Spells name name) (isDocument : IsDocument grammar t document) :
    IsDocument grammar (envelope name t) (.object [(name, document)]) := by
  have member := Denotes.member Blanks.nil spells Blanks.nil isDocument
  have whole := Denotes.element Blanks.nil (.object (.lastMember member)) Blanks.nil
  rw [List.append_nil] at whole
  exact whole

-- A brace and a quotation mark in front show that octets are those of UTF-8
private theorem detect_object (rest : Octets) : detect (0x7b :: 0x22 :: rest) = (.utf8, 0) := by
  match rest with
  | [] => rfl
  | [_] => rfl
  | _ :: _ :: _ => rfl

/-- An object with one member is read from its octets as from its text. -/
theorem readOctets_envelope (name t : Text) (document : Json) (spells : Spells name name)
    (read : Json.read t = .ok document) :
    readOctets ((envelope name t).flatMap Utf8.encodePoint) = .ok (.object [(name, document)]) := by
  have first : Utf8.encodePoint 0x7b = [0x7b] ∧ Utf8.encodePoint .quote = [0x22] := ⟨rfl, rfl⟩
  have encoding : detect ((envelope name t).flatMap Utf8.encodePoint) = (.utf8, 0) := by
    rw [envelope, List.cons_append, List.cons_append, List.flatMap_cons, List.flatMap_cons,
      first.1, first.2]
    exact detect_object _
  have decoded : decodeOctets ((envelope name t).flatMap Utf8.encodePoint) =
      .ok (envelope name t) := by
    rw [decodeOctets, encoding]
    exact Utf8.decodeLenient_octets _
  have whole := read_of_isDocument _ _
    (isDocument_envelope name t document spells (isDocument_of_read t document read))
  rw [readOctets, decoded]
  exact whole

end Tenancy.Json
