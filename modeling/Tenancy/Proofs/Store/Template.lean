import Tenancy.Proofs.Json.Search
import Tenancy.Proofs.Store.Contents
import Tenancy.Proofs.Store.Settings

/-!
# Finding templates by a pattern

Where the dialect has no other means, a block is told from a template by a pattern on the text of
its fields. The pattern finds every entry with the value false whose key ends like the name of the
flag, at any depth and in letters of either case: the flag of the block itself is one of them.
-/
namespace Tenancy

namespace Value

mutual

/-- Every entry of a dictionary in a value. -/
def allEntries : Value → List (Value × Value)
  | .list items => allEntriesOfItems items
  | .tuple items => allEntriesOfItems items
  | .dict entries => allEntriesOfEntries entries
  | _ => []

/-- Every entry of a dictionary in elements. -/
def allEntriesOfItems : List Value → List (Value × Value)
  | [] => []
  | item :: rest => allEntries item ++ allEntriesOfItems rest

/-- The entries of a dictionary and every entry in their values. -/
def allEntriesOfEntries : List (Value × Value) → List (Value × Value)
  | [] => []
  | (key, value) :: rest => (key, value) :: (allEntries value ++ allEntriesOfEntries rest)

end

theorem mem_allEntriesOfEntries_iff (entry : Value × Value) (entries : List (Value × Value)) :
    entry ∈ allEntriesOfEntries entries ↔
      entry ∈ entries ∨ ∃ outer ∈ entries, entry ∈ outer.2.allEntries := by
  induction entries with
  | nil => simp [allEntriesOfEntries]
  | cons first rest ih =>
    obtain ⟨key, value⟩ := first
    rw [allEntriesOfEntries, List.mem_cons, List.mem_append, ih, List.mem_cons,
      List.exists_mem_cons_iff]
    constructor
    · rintro (here | inValue | isIn | inRest)
      · exact .inl (.inl here)
      · exact .inr (.inl inValue)
      · exact .inl (.inr isIn)
      · exact .inr (.inr inRest)
    · rintro ((here | isIn) | inValue | inRest)
      · exact .inl here
      · exact .inr (.inr (.inl isIn))
      · exact .inr (.inl inValue)
      · exact .inr (.inr (.inr inRest))

end Value

namespace Json

-- Only the value false has the document false
private theorem ofValue_false_iff (value : Value) (document : Json)
    (valid : ofValue false value = .ok document) :
    document = .bool false ↔ value = .bool false := by
  cases value with
  | bool b =>
    obtain rfl := Except.ok.inj valid
    simp
  | null =>
    obtain rfl := Except.ok.inj valid
    simp
  | int n =>
    obtain ⟨rfl, -⟩ := ofInt_ok n document valid
    simp
  | float x =>
    obtain ⟨rfl, -⟩ := ofDouble_ok x document valid
    simp
  | text t =>
    obtain rfl := Except.ok.inj valid
    simp
  | list items =>
    obtain ⟨documents, -, rfl⟩ := (map_ok_iff _ _ _).mp valid
    simp
  | tuple items =>
    obtain ⟨documents, -, rfl⟩ := (map_ok_iff _ _ _).mp valid
    simp
  | dict entries =>
    obtain ⟨members, -, rfl⟩ := (map_ok_iff _ _ _).mp valid
    simp
  | _ => cases valid

variable (name : Text)

mutual

-- The members with the value false are those of such entries
private theorem false_ofValue : ∀ (value : Value) (document : Json),
    ofValue false value = .ok document →
      ((name, .bool false) ∈ document.allMembers ↔
        HasEntry (·.keyText = name) (.bool false) value.allEntries)
  | .null, document, valid => by
    obtain rfl := Except.ok.inj valid
    exact iff_of_false List.not_mem_nil not_hasEntry_nil
  | .bool b, document, valid => by
    obtain rfl := Except.ok.inj valid
    exact iff_of_false List.not_mem_nil not_hasEntry_nil
  | .int n, document, valid => by
    obtain ⟨rfl, -⟩ := ofInt_ok n document valid
    exact iff_of_false List.not_mem_nil not_hasEntry_nil
  | .float x, document, valid => by
    obtain ⟨rfl, -⟩ := ofDouble_ok x document valid
    exact iff_of_false List.not_mem_nil not_hasEntry_nil
  | .text t, document, valid => by
    obtain rfl := Except.ok.inj valid
    exact iff_of_false List.not_mem_nil not_hasEntry_nil
  | .list items, document, valid => by
    obtain ⟨documents, parts, rfl⟩ := (map_ok_iff _ _ _).mp valid
    exact false_ofItems items documents parts
  | .tuple items, document, valid => by
    obtain ⟨documents, parts, rfl⟩ := (map_ok_iff _ _ _).mp valid
    exact false_ofItems items documents parts
  | .dict entries, document, valid => by
    obtain ⟨members, parts, rfl⟩ := (map_ok_iff _ _ _).mp valid
    exact false_ofEntries entries members parts
  | .octets _, _, valid => by cases valid
  | .set _, _, valid => by cases valid
  | .object, _, valid => by cases valid
  | .cycle, _, valid => by cases valid
  | .cycleEntry, _, valid => by cases valid

private theorem false_ofItems : ∀ (items : List Value) (documents : List Json),
    ofItems false items = .ok documents →
      ((name, .bool false) ∈ allMembersOfItems documents ↔
        HasEntry (·.keyText = name) (.bool false) (Value.allEntriesOfItems items))
  | [], documents, valid => by
    obtain rfl := Except.ok.inj valid
    exact iff_of_false List.not_mem_nil not_hasEntry_nil
  | item :: rest, documents, valid => by
    obtain ⟨document, first, valid⟩ := (bind_ok_iff _ _ _).mp valid
    obtain ⟨others, more, valid⟩ := (bind_ok_iff _ _ _).mp valid
    obtain rfl := Except.ok.inj valid
    rw [allMembersOfItems, List.mem_append, false_ofValue item document first,
      false_ofItems rest others more, Value.allEntriesOfItems, hasEntry_append]

private theorem false_ofEntries : ∀ (entries : List (Value × Value))
    (members : List (Text × Json)), ofEntries false entries = .ok members →
      ((name, .bool false) ∈ allMembersOfMembers members ↔
        HasEntry (·.keyText = name) (.bool false) (Value.allEntriesOfEntries entries))
  | [], members, valid => by
    obtain rfl := Except.ok.inj valid
    exact iff_of_false List.not_mem_nil not_hasEntry_nil
  | (key, value) :: rest, members, valid => by
    obtain ⟨given, named, valid⟩ := (bind_ok_iff _ _ _).mp valid
    obtain ⟨document, first, valid⟩ := (bind_ok_iff _ _ _).mp valid
    obtain ⟨others, more, valid⟩ := (bind_ok_iff _ _ _).mp valid
    obtain rfl := Except.ok.inj valid
    have here : (name, .bool false) = (given, document) ↔
        value = .bool false ∧ key.keyText = name := by
      rw [Prod.mk.injEq, nameOfKey_ok key given named, ← ofValue_false_iff value document first,
        eq_comm, eq_comm (a := document), and_comm]
    rw [allMembersOfMembers, List.mem_cons, List.mem_append, here,
      false_ofValue value document first, false_ofEntries rest others more,
      Value.allEntriesOfEntries, hasEntry_cons, hasEntry_append]

end

end Json

namespace Store

open Json

theorem encodeSettings_ok_iff (settings : Value) (stored : Text) :
    encodeSettings settings = .ok stored ↔
      ∃ document, ofValue false settings = .ok document ∧ document.write .stored = stored := by
  unfold encodeSettings
  cases ofValue false settings with
  | error cause => simp
  | ok document => simp

-- The pattern is like what contains the mark of the flag
private theorem isLike_nonTemplate (t : Text) :
    Text.isLike Block.nonTemplate t = true ↔ falseMark "istemplate" <:+: t.asciiLower := by
  have pattern : Block.nonTemplate =
      CodePoint.ofChar '%' :: (Text.ofString "\"isTemplate\":false" ++ [CodePoint.ofChar '%']) := by
    rfl
  have lower : (Text.ofString "\"isTemplate\":false").asciiLower = falseMark "istemplate" := by
    decide
  have signless : (Text.ofString "\"isTemplate\":false").all
      (fun c => c != CodePoint.ofChar '%' && c != CodePoint.ofChar '_') = true := by
    decide
  have literal : (Text.ofString "\"isTemplate\":false").IsLiteral := by
    intro c isIn
    simpa using List.all_eq_true.mp signless c isIn
  rw [pattern, Text.isLike_contains _ t literal, lower]

/-- Whether a key is like the name of the flag, in letters of either case: it is the name, or it
ends in a quotation mark and the name. -/
def IsFlagLike (key : Value) : Prop :=
  key.keyText.asciiLower = "istemplate" ∨
    .quote :: Text.ofString "istemplate" <:+ key.keyText.asciiLower

/-- The pattern of what is no template finds the entries with the value false, at any depth, whose
key is like the name of the flag. Nothing is found in a string that is a value. -/
theorem nonTemplate_like_iff (settings : Value) (stored : Text)
    (encoded : encodeSettings settings = .ok stored) :
    Text.isLike Block.nonTemplate stored = true ↔
      ∃ key, (key, .bool false) ∈ settings.allEntries ∧ IsFlagLike key := by
  obtain ⟨document, valid, rfl⟩ := (encodeSettings_ok_iff _ _).mp encoded
  obtain ⟨writable, -⟩ := reread_ofValue settings document valid
  have letters : ∀ c ∈ Text.ofString "istemplate", c.isAsciiLower = true :=
    List.all_eq_true.mp (by decide)
  rw [isLike_nonTemplate, infix_write_iff _ letters document writable]
  constructor
  · rintro ⟨name, isMember, ends⟩
    obtain ⟨key, isIn, rfl⟩ := (false_ofValue name settings document valid).mp isMember
    exact ⟨key, isIn, ends⟩
  · rintro ⟨key, isIn, ends⟩
    exact ⟨key.keyText, (false_ofValue _ settings document valid).mpr ⟨key, isIn, rfl⟩, ends⟩

/-- The name of the flag is not found in the string, but behind a quotation mark in the key. -/
theorem nonTemplate_like_key :
    encodeSettings (.list [.text "\"isTemplate\":false",
        .dict [(.text "x\"ISTEMPLATE", .bool false)]]) =
      .ok "[\"\\\"isTemplate\\\":false\",\x7b\"x\\\"ISTEMPLATE\":false\x7d]" ∧
    Text.isLike Block.nonTemplate
      "[\"\\\"isTemplate\\\":false\",\x7b\"x\\\"ISTEMPLATE\":false\x7d]" = true := by
  have encoded : encodeSettings (.list [.text "\"isTemplate\":false",
        .dict [(.text "x\"ISTEMPLATE", .bool false)]]) =
      .ok "[\"\\\"isTemplate\\\":false\",\x7b\"x\\\"ISTEMPLATE\":false\x7d]" := by
    cbv
  refine ⟨encoded, (nonTemplate_like_iff _ _ encoded).mpr
    ⟨.text "x\"ISTEMPLATE", List.mem_singleton.mpr rfl, .inr ⟨Text.ofString "x", ?_⟩⟩⟩
  decide

/-! ## The flag of a block -/

/-- Whether an object has another entry with the value false, at any depth, that the pattern takes
for its flag. -/
def HasStray (entries : List (Value × Value)) : Prop :=
  (∃ key, key ≠ .text "isTemplate" ∧ (key, .bool false) ∈ entries ∧ IsFlagLike key) ∨
    ∃ outer ∈ entries, ∃ key, (key, .bool false) ∈ outer.2.allEntries ∧ IsFlagLike key

private theorem flagged_iff (entries : List (Value × Value)) :
    (∃ key, (key, .bool false) ∈ (Value.dict entries).allEntries ∧ IsFlagLike key) ↔
      (.text "isTemplate", .bool false) ∈ entries ∨ HasStray entries := by
  have own : IsFlagLike (.text "isTemplate") := .inl (by decide)
  rw [Value.allEntries]
  simp only [Value.mem_allEntriesOfEntries_iff]
  constructor
  · rintro ⟨key, isIn | ⟨outer, isOuter, isIn⟩, like⟩
    · by_cases isFlag : key = .text "isTemplate"
      · rw [isFlag] at isIn
        exact .inl isIn
      · exact .inr (.inl ⟨key, isFlag, isIn, like⟩)
    · exact .inr (.inr ⟨outer, isOuter, key, isIn, like⟩)
  · rintro (isIn | ⟨key, -, isIn, like⟩ | ⟨outer, isOuter, key, isIn, like⟩)
    · exact ⟨_, .inl isIn, own⟩
    · exact ⟨key, .inl isIn, like⟩
    · exact ⟨key, .inr ⟨outer, isOuter, isIn⟩, like⟩

private theorem noNull_encodeSettings (settings : Value) (stored : Text)
    (encoded : encodeSettings settings = .ok stored) : ∀ c ∈ stored, c.val ≠ 0 := by
  obtain ⟨document, valid, rfl⟩ := (encodeSettings_ok_iff _ _).mp encoded
  intro c isIn
  have shown := compact_write document (reread_ofValue _ document valid).1
  have := shown.printable c isIn
  omega

private theorem cellAt_fields (block : Block) (stored : Text)
    (fields : block.fields = some stored) :
    Database.cellAt [(Block.table, block.cells)] Block.table "fields" = .text stored := by
  have cell : Database.cellAt [(Block.table, block.cells)] Block.table "fields" =
      .optional block.fields := rfl
  rw [cell, fields]
  rfl

-- The condition on a text that has no null character
private theorem holds_nonTemplate (frame : Database.Frame) (t : Text)
    (there : Database.cellAt frame Block.table "fields" = .text t) (noNull : ∀ c ∈ t, c.val ≠ 0) :
    ∃ condition, Sql.nonTemplate .mysql Block.table "fields" = .ok condition ∧
      Database.holds (Database.evaluate frame condition) = Text.isLike Block.nonTemplate t := by
  have pattern : Database.parameterCell ⟨"fields_1", .varchar, .text Block.nonTemplate⟩ =
      .text Block.nonTemplate := rfl
  have wholePattern : Database.patternText (.text Block.nonTemplate) = Block.nonTemplate := rfl
  have whole : Database.patternText (.text t) = t := by
    refine List.takeWhile_eq_self_iff.mpr fun c isIn => ?_
    simpa using noNull c isIn
  refine ⟨.like (.column Block.table "fields")
    ⟨"fields_1", .varchar, .text Block.nonTemplate⟩, rfl, ?_⟩
  rw [Database.evaluate, Database.evaluate, there, pattern, if_neg (by simp),
    Database.holds_ofBool, wholePattern, whole]

/-- The condition that a block is no template holds of a stored object if its own flag is false, or
if another entry is taken for the flag. -/
theorem nonTemplate_holds_iff (entries : List (Value × Value)) (stored : Text)
    (encoded : encodeSettings (.dict entries) = .ok stored) (frame : Database.Frame)
    (there : Database.cellAt frame Block.table "fields" = .text stored) :
    ∃ condition, Sql.nonTemplate .mysql Block.table "fields" = .ok condition ∧
      (Database.holds (Database.evaluate frame condition) = true ↔
        (.text "isTemplate", .bool false) ∈ entries ∨ HasStray entries) := by
  obtain ⟨condition, built, holds⟩ := holds_nonTemplate frame stored there
    (noNull_encodeSettings _ stored encoded)
  refine ⟨condition, built, ?_⟩
  rw [holds, nonTemplate_like_iff _ stored encoded, flagged_iff]

/-- The text of the flag in a title is no flag. -/
theorem nonTemplate_holds_title :
    ∃ stored condition,
      encodeSettings (.dict [(.text "title", .text "\"isTemplate\":false"),
        (.text "isTemplate", .bool false)]) = .ok stored ∧
      Sql.nonTemplate .mysql Block.table "fields" = .ok condition ∧
      Database.holds (Database.evaluate
        [(Block.table, Block.cells ⟨"b", none, none, none, stored⟩)] condition) = true := by
  have encoded :
      encodeSettings (.dict [(.text "title", .text "\"isTemplate\":false"),
        (.text "isTemplate", .bool false)]) =
      .ok "\x7b\"title\":\"\\\"isTemplate\\\":false\",\"isTemplate\":false\x7d" := by
    cbv
  obtain ⟨condition, built, holds⟩ := nonTemplate_holds_iff _ _ encoded
    [(Block.table, Block.cells ⟨"b", none, none, none, some _⟩)] (cellAt_fields _ _ rfl)
  exact ⟨_, condition, encoded, built, holds.mpr (.inl (.tail _ (.head _)))⟩

/-- A template passes for a board if a part of it has a flag of its own that is false. -/
theorem nonTemplate_holds_nested :
    ∃ stored condition,
      encodeSettings (.dict [(.text "isTemplate", .bool true),
        (.text "x", .dict [(.text "isTemplate", .bool false)])]) = .ok stored ∧
      Sql.nonTemplate .mysql Block.table "fields" = .ok condition ∧
      Database.holds (Database.evaluate
        [(Block.table, Block.cells ⟨"b", none, none, none, stored⟩)] condition) = true ∧
      (.text "isTemplate", .bool false) ∉ [((.text "isTemplate", .bool true) : Value × Value),
        (.text "x", .dict [(.text "isTemplate", .bool false)])] := by
  have encoded :
      encodeSettings (.dict [(.text "isTemplate", .bool true),
        (.text "x", .dict [(.text "isTemplate", .bool false)])]) =
      .ok "\x7b\"isTemplate\":true,\"x\":\x7b\"isTemplate\":false\x7d\x7d" := by
    cbv
  obtain ⟨condition, built, holds⟩ := holds_nonTemplate
    [(Block.table, Block.cells ⟨"b", none, none, none, some _⟩)] _ (cellAt_fields _ _ rfl)
    (noNull_encodeSettings _ _ encoded)
  refine ⟨_, condition, encoded, built, ?_, by simp⟩
  rw [holds, isLike_nonTemplate]
  refine ⟨Text.ofString "\x7b\"istemplate\":true,\"x\":\x7b", Text.ofString "\x7d\x7d", ?_⟩
  decide

end Store

end Tenancy
