import Tenancy.Json.Dump
import Tenancy.Proofs.Text.Encodable

/-!
# Documents in replies

What a document denotes can be shown in a reply if all its texts have octets and there is room for
the values that stand inside one another, and only then.
-/
namespace Tenancy

namespace Value

mutual

/-- Whether the texts of a value have octets, those of its keys among them. -/
def isEncodable : Value → Bool
  | .text t => t.isEncodable
  | .list items => areEncodable items
  | .tuple items => areEncodable items
  | .dict entries => haveEncodable entries
  | _ => true

/-- Whether the texts of elements have octets. -/
def areEncodable : List Value → Bool
  | [] => true
  | item :: rest => isEncodable item && areEncodable rest

/-- Whether the texts of entries have octets. -/
def haveEncodable : List (Value × Value) → Bool
  | [] => true
  | (key, value) :: rest => isEncodable key && isEncodable value && haveEncodable rest

end

mutual

/-- How many values stand inside one another at most, the outermost one included. -/
def nesting : Value → Nat
  | .list items => nestingOfItems items + 1
  | .tuple items => nestingOfItems items + 1
  | .set items => nestingOfItems items + 1
  | .dict entries => nestingOfEntries entries + 1
  | _ => 1

/-- The nesting of the deepest element. -/
def nestingOfItems : List Value → Nat
  | [] => 0
  | item :: rest => max (nesting item) (nestingOfItems rest)

/-- The nesting of the deepest value of an entry; keys do not count. -/
def nestingOfEntries : List (Value × Value) → Nat
  | [] => 0
  | (_, value) :: rest => max (nesting value) (nestingOfEntries rest)

end

/-- Whether the value of a document can stand in a field of a reply. -/
def IsShowable (value : Value) : Prop :=
  value.isEncodable = true ∧ value.nesting ≤ Json.nestingLimit

instance (value : Value) : Decidable value.IsShowable := inferInstanceAs (Decidable (_ ∧ _))

end Value

namespace Json

/-- What an attempt to show something comes to. It is shown if its texts have octets and there is
room for it, and a fault says which of the two is not so. -/
inductive Shows {α : Type} (encodable : Bool) (fits : Prop) : Except DumpFault α → Prop
  | shown (a : α) (encodes : encodable = true) (room : fits) : Shows encodable fits (.ok a)
  | surrogates (fault : EncodeFault) (refused : encodable = false) :
    Shows encodable fits (.error (.surrogates fault))
  | tooDeep (deep : ¬fits) : Shows encodable fits (.error .tooDeep)

section
variable {α β : Type} {encodable : Bool} {fits : Prop} {outcome : Except DumpFault α}

theorem Shows.ok_of (shows : Shows encodable fits outcome) (encodes : encodable = true)
    (room : fits) : ∃ a, outcome = .ok a := by
  cases shows with
  | shown a => exact ⟨a, rfl⟩
  | surrogates _ refused => cases encodes.symm.trans refused
  | tooDeep deep => exact absurd room deep

theorem Shows.error_of (shows : Shows encodable fits outcome)
    (impossible : ¬(encodable = true ∧ fits)) : ∃ fault, outcome = .error fault := by
  cases shows with
  | shown _ encodes room => exact absurd ⟨encodes, room⟩ impossible
  | surrogates fault => exact ⟨_, rfl⟩
  | tooDeep => exact ⟨_, rfl⟩

private theorem Shows.map (shows : Shows encodable fits outcome) (f : α → β) :
    Shows encodable fits (outcome.map f) := by
  cases shows with
  | shown a encodes room => exact .shown (f a) encodes room
  | surrogates fault refused => exact .surrogates fault refused
  | tooDeep deep => exact .tooDeep deep

-- The first part that cannot be shown decides
private theorem Shows.bind (shows : Shows encodable fits outcome) {encodable' : Bool}
    {fits' : Prop} {next : α → Except DumpFault β}
    (others : ∀ a, Shows encodable' fits' (next a)) :
    Shows (encodable && encodable') (fits ∧ fits') (outcome >>= next) := by
  cases shows with
  | shown a encodes room =>
    rw [show (Except.ok a >>= next) = next a from rfl, encodes, Bool.true_and]
    have second := others a
    generalize next a = attempt at second ⊢
    cases second with
    | shown b encodes' room' => exact .shown b encodes' ⟨room, room'⟩
    | surrogates fault refused => exact .surrogates fault refused
    | tooDeep deep => exact .tooDeep fun both => deep both.2
  | surrogates fault refused => exact .surrogates fault (by rw [refused, Bool.false_and])
  | tooDeep deep => exact .tooDeep fun both => deep both.1

end

theorem shows_text (t : Text) : Shows t.isEncodable True (dumpText t) := by
  rw [dumpText]
  cases refused : t.encodeFault? with
  | none => exact .shown t ((Text.encodeFault?_eq_none_iff t).mp refused) trivial
  | some fault =>
    refine .surrogates fault ?_
    rw [Bool.eq_false_iff, ne_eq, ← Text.encodeFault?_eq_none_iff, refused]
    exact Option.some_ne_none fault

mutual

/-- What a document denotes is shown if its texts have octets and there is room for it. -/
theorem shows_toValue : ∀ (document : Json) (room : Nat),
    Shows document.toValue.isEncodable (document.toValue.nesting ≤ room)
      (dump room document.toValue)
  | document, 0 => by
    rw [dump]
    refine .tooDeep (Nat.not_le.mpr ?_)
    cases document <;> exact Nat.succ_pos _
  | .null, _ + 1 => .shown _ rfl (by simp [toValue, Value.nesting])
  | .bool _, _ + 1 => .shown _ rfl (by simp [toValue, Value.nesting])
  | .int _, _ + 1 => .shown _ rfl (by simp [toValue, Value.nesting])
  | .number _, _ + 1 => .shown _ rfl (by simp [toValue, Value.nesting])
  | .string t, room + 1 => by
    have enough : (string t).toValue.nesting ≤ room + 1 := by simp [toValue, Value.nesting]
    rw [eq_true enough]
    exact (shows_text t).map _
  | .array items, room + 1 => by
    rw [toValue, Value.nesting, Nat.add_le_add_iff_right]
    exact (shows_toValues items room).map _
  | .object members, room + 1 => by
    rw [toValue, Value.nesting, Nat.add_le_add_iff_right]
    exact (shows_toEntries members room).map _

private theorem shows_toValues : ∀ (items : List Json) (room : Nat),
    Shows (Value.areEncodable (toValues items)) (Value.nestingOfItems (toValues items) ≤ room)
      (dumpItems room (toValues items))
  | [], _ => .shown _ rfl (Nat.zero_le _)
  | item :: rest, room => by
    rw [toValues, Value.nestingOfItems, Nat.max_le]
    exact (shows_toValue item room).bind fun _ => (shows_toValues rest room).map _

private theorem shows_toEntries : ∀ (members : List (Text × Json)) (room : Nat),
    Shows (Value.haveEncodable (toEntries members))
      (Value.nestingOfEntries (toEntries members) ≤ room) (dumpEntries room (toEntries members))
  | [], _ => .shown _ rfl (Nat.zero_le _)
  | (name, document) :: rest, room => by
    rw [toEntries, Value.haveEncodable, Bool.and_assoc, Value.nestingOfEntries, Nat.max_le,
      ← true_and (_ ∧ _)]
    exact (shows_text name).bind fun _ =>
      (shows_toValue document room).bind fun _ => (shows_toEntries rest room).map _

end

end Json

end Tenancy
