import Tenancy.Proofs.Json.Canonical
import Tenancy.Store.Basic

/-!
# Settings in storage

Settings come back from storage as their canonical value: tuples are lists, every key is a text, of
entries with one name the first gives the place and the last the value, and surrogate pairs in two
halves are joined. What a document without raw surrogates denotes is canonical already.
-/
namespace Tenancy

namespace Value

/-- The text of a key as the name of a member. -/
def keyText : Value → Text
  | .text t => t
  | .null => "null"
  | .bool true => "true"
  | .bool false => "false"
  | .int n => Text.ofInt n
  | .float x => x.toText .stored
  | _ => []

@[simp]
theorem sameKey_text (s t : Text) : sameKey (.text s) (.text t) = (s == t) := by
  simp [sameKey, number?]

mutual

/-- The value that a value comes back as. -/
def canonical : Value → Value
  | .text t => .text t.joined
  | .list items => .list (canonicalItems items)
  | .tuple items => .list (canonicalItems items)
  | .dict entries => ofPairs (canonicalEntries entries)
  | value => value

/-- The elements that elements come back as. -/
def canonicalItems : List Value → List Value
  | [] => []
  | item :: rest => canonical item :: canonicalItems rest

/-- The entries that entries come back as, those of one name among them. -/
def canonicalEntries : List (Value × Value) → List (Value × Value)
  | [] => []
  | (key, value) :: rest => (.text key.keyText.joined, canonical value) :: canonicalEntries rest

end

end Value

namespace Json

theorem nameOfKey_ok (key : Value) (name : Text) (named : nameOfKey false key = .ok name) :
    key.keyText = name := by
  cases key with
  | bool b => cases b <;> exact Except.ok.inj named
  | int n =>
    obtain ⟨_, _, eq⟩ := (map_ok_iff _ _ _).mp named
    exact eq
  | float x =>
    obtain ⟨_, _, eq⟩ := (map_ok_iff _ _ _).mp named
    exact eq
  | null => exact Except.ok.inj named
  | text t => exact Except.ok.inj named
  | _ => cases named

theorem ofInt_ok (n : Int) (document : Json) (valid : ofInt n = .ok document) :
    document = .int n ∧ Numeral.isTooLong n = false := by
  unfold ofInt at valid
  split at valid
  · cases valid
  next short => exact ⟨(Except.ok.inj valid).symm, by simpa using short⟩

theorem ofDouble_ok (x : Double) (document : Json)
    (valid : ofDouble false x = .ok document) : document = .number x ∧ x.isFinite = true := by
  unfold ofDouble at valid
  split at valid
  next finite => exact ⟨(Except.ok.inj valid).symm, by simpa using finite⟩
  · cases valid

/-! ## Members and entries -/

private theorem toEntries_put (name : Text) (value : Json) (members : List (Text × Json)) :
    toEntries (put name value members) =
      Value.put (.text name) value.toValue (toEntries members) := by
  induction members with
  | nil => simp only [put, toEntries, Value.put]
  | cons first rest ih =>
    obtain ⟨n, v⟩ := first
    by_cases eq : n = name <;> simp [put, toEntries, Value.put, eq, ih]

private theorem ofPairs_eq (pairs : List (Value × Value)) : Value.ofPairs pairs =
    .dict (pairs.foldl (fun entries pair => Value.put pair.1 pair.2 entries) []) := rfl

/-- Collapsing members is assigning their entries one after the other. -/
theorem toValue_collapse (members : List (Text × Json)) :
    (object (collapse members)).toValue = Value.ofPairs (toEntries members) := by
  have step (rest start : List (Text × Json)) :
      toEntries (rest.foldl (fun collapsed member => put member.1 member.2 collapsed) start) =
        (toEntries rest).foldl (fun entries pair => Value.put pair.1 pair.2 entries)
          (toEntries start) := by
    induction rest generalizing start with
    | nil => rfl
    | cons first rest ih =>
      obtain ⟨n, v⟩ := first
      rw [List.foldl_cons, ih, toEntries_put, toEntries, List.foldl_cons]
  rw [toValue, ofPairs_eq, collapse_eq, step, toEntries]

private theorem put_fresh (name : Text) (value : Json) (members : List (Text × Json))
    (fresh : name ∉ members.map (·.1)) : put name value members = members ++ [(name, value)] := by
  induction members with
  | nil => rfl
  | cons first rest ih =>
    obtain ⟨n, v⟩ := first
    rw [List.map_cons, List.mem_cons, not_or] at fresh
    rw [put, if_neg (Ne.symm fresh.1), ih fresh.2, List.cons_append]

/-- Members with unique names stay as they are. -/
theorem collapse_of_nodup (members : List (Text × Json)) (unique : (members.map (·.1)).Nodup) :
    collapse members = members := by
  -- The members before take part in the induction: a name is new to them and to those behind
  have step (rest start : List (Text × Json)) (unique : ((start ++ rest).map (·.1)).Nodup) :
      rest.foldl (fun collapsed member => put member.1 member.2 collapsed) start =
        start ++ rest := by
    induction rest generalizing start with
    | nil => simp
    | cons first rest ih =>
      obtain ⟨n, v⟩ := first
      have fresh : n ∉ start.map (·.1) := by
        rw [List.map_append, List.nodup_append] at unique
        exact fun member => unique.2.2 n member n List.mem_cons_self rfl
      simp only [List.foldl_cons]
      rw [put_fresh n v start fresh, ih _ (by simpa using unique), List.append_assoc]
      rfl
  exact step members [] unique

/-! ## Storing and reading -/

mutual

/-- What is read back from the document of a value is the canonical value. -/
theorem reread_ofValue : ∀ (value : Value) (document : Json),
    ofValue false value = .ok document →
      Writable document ∧ (reread .stored document).toValue = value.canonical
  | .null, document, valid => by
    obtain rfl := Except.ok.inj valid
    exact ⟨trivial, rfl⟩
  | .bool b, document, valid => by
    obtain rfl := Except.ok.inj valid
    exact ⟨trivial, rfl⟩
  | .int n, document, valid => by
    obtain ⟨rfl, short⟩ := ofInt_ok n document valid
    exact ⟨short, rfl⟩
  | .float x, document, valid => by
    obtain ⟨rfl, finite⟩ := ofDouble_ok x document valid
    exact ⟨finite, rfl⟩
  | .text t, document, valid => by
    obtain rfl := Except.ok.inj valid
    exact ⟨trivial, rfl⟩
  | .list items, document, valid => by
    obtain ⟨documents, parts, rfl⟩ := (map_ok_iff _ _ _).mp valid
    obtain ⟨writable, eq⟩ := reread_ofItems items documents parts
    exact ⟨writable, congrArg Value.list eq⟩
  | .tuple items, document, valid => by
    obtain ⟨documents, parts, rfl⟩ := (map_ok_iff _ _ _).mp valid
    obtain ⟨writable, eq⟩ := reread_ofItems items documents parts
    exact ⟨writable, congrArg Value.list eq⟩
  | .dict entries, document, valid => by
    obtain ⟨members, parts, rfl⟩ := (map_ok_iff _ _ _).mp valid
    obtain ⟨writable, eq⟩ := reread_ofEntries entries members parts
    refine ⟨writable, ?_⟩
    rw [reread, toValue_collapse, eq, Value.canonical]
  | .octets _, _, valid => by cases valid
  | .set _, _, valid => by cases valid
  | .object, _, valid => by cases valid
  | .cycle, _, valid => by cases valid
  | .cycleEntry, _, valid => by cases valid

private theorem reread_ofItems : ∀ (items : List Value) (documents : List Json),
    ofItems false items = .ok documents →
      WritableItems documents ∧
        toValues (rereadItems .stored documents) = Value.canonicalItems items
  | [], documents, valid => by
    obtain rfl := Except.ok.inj valid
    exact ⟨trivial, rfl⟩
  | item :: rest, documents, valid => by
    obtain ⟨document, first, valid⟩ := (bind_ok_iff _ _ _).mp valid
    obtain ⟨others, more, valid⟩ := (bind_ok_iff _ _ _).mp valid
    obtain rfl := Except.ok.inj valid
    obtain ⟨writable, eq⟩ := reread_ofValue item document first
    obtain ⟨writable', eq'⟩ := reread_ofItems rest others more
    refine ⟨⟨writable, writable'⟩, ?_⟩
    rw [rereadItems, toValues, eq, eq', Value.canonicalItems]

private theorem reread_ofEntries : ∀ (entries : List (Value × Value))
    (members : List (Text × Json)), ofEntries false entries = .ok members →
      WritableMembers members ∧
        toEntries (rereadMembers .stored members) = Value.canonicalEntries entries
  | [], members, valid => by
    obtain rfl := Except.ok.inj valid
    exact ⟨trivial, rfl⟩
  | (key, value) :: rest, members, valid => by
    obtain ⟨name, named, valid⟩ := (bind_ok_iff _ _ _).mp valid
    obtain ⟨document, first, valid⟩ := (bind_ok_iff _ _ _).mp valid
    obtain ⟨others, more, valid⟩ := (bind_ok_iff _ _ _).mp valid
    obtain rfl := Except.ok.inj valid
    obtain ⟨writable, eq⟩ := reread_ofValue value document first
    obtain ⟨writable', eq'⟩ := reread_ofEntries rest others more
    refine ⟨⟨writable, writable'⟩, ?_⟩
    rw [rereadMembers, toEntries, eq, eq', Value.canonicalEntries, nameOfKey_ok key name named]
    rfl

end

mutual

/-- The value of a canonical document comes back as it is. -/
theorem canonical_toValue : ∀ document : Json, Canonical document →
    document.toValue.canonical = document.toValue
  | .null, _ => rfl
  | .bool _, _ => rfl
  | .int _, _ => rfl
  | .number _, _ => rfl
  | .string t, unpaired => congrArg Value.text (Text.joined_of_unpaired t unpaired)
  | .array items, canonical => congrArg Value.list (canonical_toValues items canonical)
  | .object members, canonical => by
    rw [toValue, Value.canonical, canonical_toEntries members canonical.2, ← toValue_collapse,
      collapse_of_nodup members canonical.1, toValue]

private theorem canonical_toValues : ∀ items : List Json, CanonicalItems items →
    Value.canonicalItems (toValues items) = toValues items
  | [], _ => rfl
  | item :: rest, canonical => by
    rw [toValues, Value.canonicalItems, canonical_toValue item canonical.1,
      canonical_toValues rest canonical.2]

private theorem canonical_toEntries : ∀ members : List (Text × Json), CanonicalMembers members →
    Value.canonicalEntries (toEntries members) = toEntries members
  | [], _ => rfl
  | (name, value) :: rest, canonical => by
    rw [toEntries, Value.canonicalEntries, canonical_toValue value canonical.1.2,
      canonical_toEntries rest canonical.2, Value.keyText,
      Text.joined_of_unpaired name canonical.1.1]

end

end Json

namespace Store

/-- Stored settings are read back as their canonical value. -/
theorem readSettings_encodeSettings (settings : Value) (stored : Text)
    (encoded : encodeSettings settings = .ok stored) :
    (readSettings (.text stored)).map Json.toValue = .ok settings.canonical := by
  unfold encodeSettings at encoded
  split at encoded
  next document valid =>
    obtain rfl := Except.ok.inj encoded
    obtain ⟨writable, eq⟩ := Json.reread_ofValue settings document valid
    simp only [readSettings, Json.read_write .stored document writable, Except.mapError, Except.map,
      eq]
  next => cases encoded

/-- Settings that are stored come back as their canonical value, and a value that is read from a
text without raw surrogates is canonical: it comes back as it is. -/
theorem settings_come_back :
    (∀ (settings : Value) (stored : Text), encodeSettings settings = .ok stored →
      (readSettings (.text stored)).map Json.toValue = .ok settings.canonical) ∧
    (∀ (t : Text) (document : Json), Json.Plain t → readSettings (.text t) = .ok document →
      document.toValue.canonical = document.toValue ∧
        ∀ stored, encodeSettings document.toValue = .ok stored →
          (readSettings (.text stored)).map Json.toValue = .ok document.toValue) := by
  refine ⟨readSettings_encodeSettings, fun t document plain success => ?_⟩
  have read : Json.read t = .ok document := by
    cases eq : Json.read t with
    | ok found =>
      simp only [readSettings, eq] at success
      exact congrArg Except.ok (Except.ok.inj success)
    | error fault =>
      simp only [readSettings, eq] at success
      cases success
  have same := Json.canonical_toValue document (Json.canonical_of_read t document plain read)
  refine ⟨same, fun stored encoded => ?_⟩
  rw [readSettings_encodeSettings document.toValue stored encoded, same]

/-- The number one and its text are one name, and two halves of a pair come back joined. -/
theorem settings_come_back_joined :
    encodeSettings (.dict [(.int 1, .tuple [.bool true]), (.text "1", .text [0xd83d, 0xde00])]) =
      .ok "\x7b\"1\":[true],\"1\":\"\\ud83d\\ude00\"\x7d" ∧
    (readSettings (.text "\x7b\"1\":[true],\"1\":\"\\ud83d\\ude00\"\x7d")).map Json.toValue =
      .ok (.dict [(.text "1", .text [0x1f600])]) ∧
    Value.canonical (.dict [(.text "1", .text [0x1f600])]) =
      .dict [(.text "1", .text [0x1f600])] := by
  have encoded :
      encodeSettings (.dict [(.int 1, .tuple [.bool true]), (.text "1", .text [0xd83d, 0xde00])]) =
        .ok "\x7b\"1\":[true],\"1\":\"\\ud83d\\ude00\"\x7d" := by
    cbv
  have shown : (Text.ofString "\x7b\"1\":[true],\"1\":\"\\ud83d\\ude00\"\x7d").all
      (!·.isSurrogate) = true := by
    decide +kernel
  have plain : Json.Plain "\x7b\"1\":[true],\"1\":\"\\ud83d\\ude00\"\x7d" := fun c member => by
    simpa using List.all_eq_true.mp shown c member
  have read : readSettings (.text "\x7b\"1\":[true],\"1\":\"\\ud83d\\ude00\"\x7d") =
      .ok (.object [("1", .string [0x1f600])]) := by
    cbv
  have joined : Value.canonical
      (.dict [(.int 1, .tuple [.bool true]), (.text "1", .text [0xd83d, 0xde00])]) =
        .dict [(.text "1", .text [0x1f600])] := by
    rfl
  exact ⟨encoded, (settings_come_back.1 _ _ encoded).trans (congrArg Except.ok joined),
    (settings_come_back.2 _ _ plain read).1⟩

end Store

end Tenancy
