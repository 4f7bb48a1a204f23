import Tenancy.Proofs.Json.Compact
import Tenancy.Proofs.Store.Settings

/-!
# Values that can be stored

Encoding a value comes to its parts one after the other. Each part is judged by itself: the value is
stored if all of them fit, and the first that does not fit gives the cause that is reported. What is
stored is a document of the standard in compact ASCII.
-/
namespace Tenancy

namespace Value

/-- What encoding a value comes to: a value or the key of an entry. -/
inductive Visit where
  | node (value : Value)
  | key (value : Value)

mutual

/-- What encoding a value comes to, depth first and from left to right: a collection before its
elements, a key before its value and an entry before the next. -/
def visits : Value → List Visit
  | .list items => .node (.list items) :: visitsOfItems items
  | .tuple items => .node (.tuple items) :: visitsOfItems items
  | .dict entries => .node (.dict entries) :: visitsOfEntries entries
  | value => [.node value]

/-- What encoding elements comes to. -/
def visitsOfItems : List Value → List Visit
  | [] => []
  | item :: rest => visits item ++ visitsOfItems rest

/-- What encoding entries comes to. -/
def visitsOfEntries : List (Value × Value) → List Visit
  | [] => []
  | (key, value) :: rest => .key key :: (visits value ++ visitsOfEntries rest)

end

namespace Visit

/-- Whether a value may be a part of settings, or a key of them. -/
def fits : Visit → Bool
  | .node value => match value with
    | .null | .bool _ | .int _ | .text _ | .list _ | .tuple _ | .dict _ => true
    | .float x => x.isFinite
    | .octets _ | .set _ | .object | .cycle | .cycleEntry => false
  | .key value => match value with
    | .text _ | .int _ | .bool _ | .null => true
    | .float x => x.isFinite
    | _ => false

/-- Why a part does not fit. -/
def cause : Visit → Unserializable
  | .node value => match value with
    | .float _ => .notFinite
    | .cycle | .cycleEntry => .circular
    | value => .unsupportedType value.typeName
  | .key value => match value with
    | .float _ => .notFinite
    | value => .unsupportedKey value.typeName

/-- Why a part keeps a value from being encoded, if it does: it does not fit, or it is an integer of
too many digits. -/
def offence? (part : Visit) : Option Unserializable :=
  match part with
  | .node (.int n) => if Numeral.isTooLong n then some .integerTooLong else none
  | .key (.int n) => if Numeral.isTooLong n then some .integerTooLong else none
  | part => if part.fits then none else some part.cause

end Visit

end Value

open Value

namespace Json

/-- What the parts of a value make of an attempt to encode it: a result if none of them is in the
way, and else the cause that the first one gives which is. -/
def Decides {α : Type} (parts : List Visit) (outcome : Except Unserializable α) : Prop :=
  match parts.findSome? Visit.offence? with
  | none => ∃ a, outcome = .ok a
  | some cause => outcome = .error cause

section
variable {α β : Type}

private theorem decides_map (parts : List Visit) (outcome : Except Unserializable α) (f : α → β)
    (decides : Decides parts outcome) : Decides parts (outcome.map f) := by
  unfold Decides at decides ⊢
  split
  next none =>
    rw [none] at decides
    obtain ⟨a, rfl⟩ := decides
    exact ⟨f a, rfl⟩
  next cause found =>
    rw [found] at decides
    rw [decides]
    rfl

-- A part in the way among the first ones keeps the others from being encoded
private theorem decides_bind (first rest : List Visit) (outcome : Except Unserializable α)
    (next : α → Except Unserializable β) (decides : Decides first outcome)
    (others : ∀ a, Decides rest (next a)) : Decides (first ++ rest) (outcome >>= next) := by
  unfold Decides at decides
  split at decides
  next none =>
    obtain ⟨a, rfl⟩ := decides
    unfold Decides
    rw [List.findSome?_append, none, Option.none_or]
    exact others a
  next cause found =>
    unfold Decides
    rw [List.findSome?_append, found, Option.some_or, decides]
    rfl

-- A collection is never in the way by itself
private theorem decides_collection (part : Visit) (rest : List Visit)
    (outcome : Except Unserializable α) (none : part.offence? = none)
    (decides : Decides rest outcome) : Decides (part :: rest) outcome := by
  unfold Decides
  rw [List.findSome?_cons, none]
  exact decides

private theorem decides_ofInt (n : Int) (part : Visit)
    (offence : part.offence? = if Numeral.isTooLong n then some .integerTooLong else none) :
    Decides [part] (ofInt n) := by
  unfold Decides ofInt
  cases long : Numeral.isTooLong n <;> simp [offence, long]

private theorem decides_ofDouble (x : Double) (part : Visit)
    (offence : part.offence? = if x.isFinite then none else some .notFinite) :
    Decides [part] (ofDouble false x) := by
  unfold Decides ofDouble
  cases finite : x.isFinite <;> simp [offence, finite]

end

private theorem decides_nameOfKey (key : Value) : Decides [.key key] (nameOfKey false key) := by
  cases key with
  | int n => exact decides_map _ _ _ (decides_ofInt n _ rfl)
  | float x => exact decides_map _ _ _ (decides_ofDouble x _ rfl)
  | bool b => cases b <;> exact ⟨_, rfl⟩
  | text t => exact ⟨_, rfl⟩
  | null => exact ⟨_, rfl⟩
  | octets => exact rfl
  | list => exact rfl
  | tuple => exact rfl
  | set => exact rfl
  | dict => exact rfl
  | object => exact rfl
  | cycle => exact rfl
  | cycleEntry => exact rfl

mutual

/-- The parts of a value decide whether it is encoded, and how it is refused. -/
theorem decides_ofValue : ∀ value : Value, Decides value.visits (ofValue false value)
  | .null => ⟨_, rfl⟩
  | .bool _ => ⟨_, rfl⟩
  | .int n => decides_ofInt n _ rfl
  | .float x => decides_ofDouble x _ rfl
  | .text _ => ⟨_, rfl⟩
  | .list items => decides_collection _ _ _ rfl (decides_map _ _ _ (decides_ofItems items))
  | .tuple items => decides_collection _ _ _ rfl (decides_map _ _ _ (decides_ofItems items))
  | .dict entries => decides_collection _ _ _ rfl (decides_map _ _ _ (decides_ofEntries entries))
  | .octets _ => rfl
  | .set _ => rfl
  | .object => rfl
  | .cycle => rfl
  | .cycleEntry => rfl

private theorem decides_ofItems : ∀ items : List Value,
    Decides (visitsOfItems items) (ofItems false items)
  | [] => ⟨_, rfl⟩
  | item :: rest => decides_bind _ _ _ _ (decides_ofValue item) fun _ =>
    decides_map _ _ _ (decides_ofItems rest)

private theorem decides_ofEntries : ∀ entries : List (Value × Value),
    Decides (visitsOfEntries entries) (ofEntries false entries)
  | [] => ⟨_, rfl⟩
  | (key, value) :: rest => decides_bind [.key key] _ _ _ (decides_nameOfKey key) fun _ =>
    decides_bind _ _ _ _ (decides_ofValue value) fun _ =>
    decides_map _ _ _ (decides_ofEntries rest)

end

end Json

namespace Store

/-- Settings are encoded if none of their parts is in the way, and else refused for the cause that
the first one gives which is. -/
theorem encodeSettings_parts (settings : Value) :
    match settings.visits.findSome? Visit.offence? with
    | none => ∃ stored, encodeSettings settings = .ok stored
    | some cause => encodeSettings settings = .error (.unserializableSettings cause) := by
  have decides := Json.decides_ofValue settings
  unfold Json.Decides at decides
  unfold encodeSettings
  split
  next none =>
    rw [none] at decides
    obtain ⟨document, valid⟩ := decides
    exact ⟨_, by rw [valid]⟩
  next cause found =>
    rw [found] at decides
    rw [decides]

/-- A number that is not finite keeps settings from being encoded, wherever it is in them. -/
theorem encodeSettings_notFinite (settings : Value) (x : Double) (infinite : x.isFinite = false)
    (isIn : .node (.float x) ∈ settings.visits) :
    ∃ cause, encodeSettings settings = .error (.unserializableSettings cause) := by
  have parts := encodeSettings_parts settings
  split at parts
  next none =>
    have clear := List.findSome?_eq_none_iff.mp none _ isIn
    simp [Visit.offence?, Visit.fits, infinite] at clear
  next cause found => exact ⟨cause, parts⟩

-- Among integers that are short enough the first part that does not fit is the first in the way
private theorem findSome?_offence (parts : List Visit)
    (short : ∀ n, .node (.int n) ∈ parts ∨ .key (.int n) ∈ parts → Numeral.isTooLong n = false) :
    parts.findSome? Visit.offence? = (parts.find? (!·.fits)).map Visit.cause := by
  induction parts with
  | nil => rfl
  | cons part parts ih =>
    have offence : part.offence? = if part.fits then none else some part.cause := by
      unfold Visit.offence?
      split
      next n => simp [short n (.inl (.head _)), Visit.fits]
      next n => simp [short n (.inr (.head _)), Visit.fits]
      next => rfl
    rw [List.findSome?_cons, List.find?_cons, offence, ih fun n isIn => short n
      (isIn.imp (List.mem_cons_of_mem _) (List.mem_cons_of_mem _))]
    cases part.fits <;> rfl

/-- Settings whose integers have at most 4300 digits are refused in one way only, and encoded
exactly if every part of them fits. The cause that is told is that of the first part that does not
fit. -/
theorem encodeSettings_decided (settings : Value)
    (short : ∀ n, .node (.int n) ∈ settings.visits ∨ .key (.int n) ∈ settings.visits →
      (Nat.toDigits 10 n.natAbs).length ≤ 4300) :
    (∀ fault, encodeSettings settings = .error fault →
      ∃ cause : Unserializable, fault.report = .of "SerializationError"
        ("Workspace settings are not JSON serializable: " ++ cause.message)) ∧
    ((∃ stored, encodeSettings settings = .ok stored) ↔
      ∀ part ∈ settings.visits, part.fits = true) ∧
    ∀ fault, encodeSettings settings = .error fault ↔
      ∃ before part behind, settings.visits = before ++ part :: behind ∧
        (∀ earlier ∈ before, earlier.fits = true) ∧ part.fits = false ∧
        fault = .unserializableSettings part.cause := by
  have parts := encodeSettings_parts settings
  rw [findSome?_offence settings.visits fun n isIn =>
    decide_eq_false (Nat.not_lt.mpr (short n isIn))] at parts
  have first (part : Visit) : settings.visits.find? (!·.fits) = some part ↔
      ∃ before behind, settings.visits = before ++ part :: behind ∧
        (∀ earlier ∈ before, earlier.fits = true) ∧ part.fits = false := by
    rw [List.find?_eq_some_iff_append]
    simp only [Bool.not_eq_eq_eq_not, Bool.not_not, Bool.not_true]
    exact ⟨fun ⟨unfit, before, behind, eq, earlier⟩ => ⟨before, behind, eq, earlier, unfit⟩,
      fun ⟨before, behind, eq, earlier, unfit⟩ => ⟨unfit, before, behind, eq, earlier⟩⟩
  cases found : settings.visits.find? (!·.fits) with
  | none =>
    rw [found] at parts
    obtain ⟨stored, encoded⟩ := parts
    have fitting : ∀ part ∈ settings.visits, part.fits = true := by
      simpa [List.find?_eq_none] using found
    rw [encoded]
    refine ⟨fun fault failed => ?_, ⟨fun _ => fitting, fun _ => ⟨stored, rfl⟩⟩,
      fun fault => ⟨fun failed => ?_, ?_⟩⟩
    · cases failed
    · cases failed
    · rintro ⟨before, part, behind, eq, earlier, unfit, -⟩
      rw [(first part).mpr ⟨before, behind, eq, earlier, unfit⟩] at found
      cases found
  | some part =>
    rw [found] at parts
    have failed : encodeSettings settings = .error (.unserializableSettings part.cause) := parts
    obtain ⟨before, behind, eq, earlier, unfit⟩ := (first part).mp found
    rw [failed]
    refine ⟨fun fault same => ?_, ⟨?_, fun all => ?_⟩, fun fault => ⟨fun same => ?_, ?_⟩⟩
    · obtain rfl := Except.error.inj same
      exact ⟨part.cause, rfl⟩
    · rintro ⟨stored, encoded⟩
      cases encoded
    · rw [all part (by simp [eq])] at unfit
      cases unfit
    · obtain rfl := Except.error.inj same
      exact ⟨before, part, behind, eq, earlier, unfit, rfl⟩
    · -- There is one first part that does not fit
      rintro ⟨before', part', behind', eq', earlier', unfit', rfl⟩
      obtain rfl := Option.some.inj
        (found.symm.trans ((first part').mpr ⟨before', behind', eq', earlier', unfit'⟩))
      rfl

/-- Of a key, a set and a number that do not fit, the key comes first. -/
theorem encodeSettings_key_first :
    encodeSettings (.list [.int 7, .dict [(.tuple [], .float .nan)], .set []]) =
      .error (.unserializableSettings (.unsupportedKey "tuple")) := by
  refine ((encodeSettings_decided _ fun n isIn => ?_).2.2 _).mpr
    ⟨[.node (.list _), .node (.int 7), .node (.dict _)], .key (.tuple []), _, rfl, ?_, rfl, rfl⟩
  · obtain rfl : n = 7 := by simpa [visits, visitsOfItems, visitsOfEntries] using isIn
    decide
  · intro part isIn
    simp only [List.mem_cons, List.not_mem_nil, or_false] at isIn
    rcases isIn with rfl | rfl | rfl <;> rfl

/-- Stored settings are a document of the standard, which has no word for a number that is not
finite and no name that is not a string, and denote the canonical value. They are in printable
ASCII, and outside of strings there is neither a blank nor a letter of such a word. -/
theorem encodeSettings_strict (settings : Value) (stored : Text)
    (encoded : encodeSettings settings = .ok stored) :
    (∃ document, Json.IsDocument .standard stored document ∧
      document.toValue = settings.canonical) ∧
    (∀ c ∈ stored, 0x20 ≤ c.val ∧ c.val ≤ 0x7e) ∧
    ∀ c ∈ Json.unquoted stored, c.isBlank = false ∧
      c ≠ CodePoint.ofChar 'N' ∧ c ≠ CodePoint.ofChar 'I' := by
  unfold encodeSettings at encoded
  split at encoded
  next document valid =>
    obtain rfl := Except.ok.inj encoded
    obtain ⟨writable, canonical⟩ := Json.reread_ofValue settings document valid
    have compact := Json.compact_write document writable
    have strict : Json.IsDocument .standard (document.write .stored)
        (Json.reread .stored document) :=
      Json.isDocument_write .stored (by simp [Json.Grammar.standard]) document writable
    exact ⟨⟨_, strict, canonical⟩, compact.printable, compact.bare⟩
  next => cases encoded

/-- A blank and a word stay inside of their strings, and what is not in ASCII is escaped. -/
theorem encodeSettings_strict_escaped :
    encodeSettings (.dict [(.text "NaN", .list [.text [0x20, 0x7f, 0xd800], .bool false])]) =
      .ok "\x7b\"NaN\":[\" \\u007f\\ud800\",false]\x7d" ∧
    ∀ c ∈ Json.unquoted "\x7b\"NaN\":[\" \\u007f\\ud800\",false]\x7d", c.isBlank = false ∧
      c ≠ CodePoint.ofChar 'N' ∧ c ≠ CodePoint.ofChar 'I' := by
  have encoded :
      encodeSettings (.dict [(.text "NaN", .list [.text [0x20, 0x7f, 0xd800], .bool false])]) =
        .ok "\x7b\"NaN\":[\" \\u007f\\ud800\",false]\x7d" := by
    cbv
  exact ⟨encoded, (encodeSettings_strict _ _ encoded).2.2⟩

end Store

end Tenancy
