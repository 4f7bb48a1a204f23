import Mathlib.Data.List.Nodup
import Tenancy.Proofs.Json.RoundTrip

/-!
# Documents that are read

Whatever the reader takes from a text without raw surrogates holds no surrogate pair in two halves
and no name twice: writing it and reading it again changes nothing. Both are properties of the
grammar, where escapes of a pair spell one code point and an object has each name once.
-/
namespace Tenancy.Json

mutual

/-- Whether strings hold no pair in two halves and objects hold no name twice. -/
def Canonical : Json → Prop
  | .string t => t.Unpaired
  | .array items => CanonicalItems items
  | .object members => (members.map (·.1)).Nodup ∧ CanonicalMembers members
  | _ => True

/-- Every element is canonical. -/
def CanonicalItems : List Json → Prop
  | [] => True
  | item :: rest => Canonical item ∧ CanonicalItems rest

/-- Every name and every value is canonical. -/
def CanonicalMembers : List (Text × Json) → Prop
  | [] => True
  | (name, value) :: rest => (name.Unpaired ∧ Canonical value) ∧ CanonicalMembers rest

end

/-- Whether a text holds no surrogate. -/
def Plain (t : Text) : Prop := ∀ c ∈ t, ¬c.isSurrogate = true

theorem plain_append (s t : Text) : Plain (s ++ t) ↔ Plain s ∧ Plain t := List.forall_mem_append

theorem plain_cons (c : CodePoint) (t : Text) :
    Plain (c :: t) ↔ ¬c.isSurrogate = true ∧ Plain t := List.forall_mem_cons

/-! ## Strings -/

private theorem escapes_noSurrogate : ∀ entry ∈ escapes, ¬entry.2.isSurrogate = true :=
  forall_escapes _ (by decide)

-- A low surrogate at the start of a string without raw surrogates is escaped there, and one behind
-- a high surrogate would be joined to it
private theorem spells_unpaired (t s : Text) (spells : Spells t s) (plain : Plain t) :
    s.Unpaired ∧ ∀ c ∈ s.head?, c.isLowSurrogate = true → EscapesLow t := by
  -- What is no surrogate stands apart from anything
  have apart (c : CodePoint) (t s : Text) (none : ¬c.isSurrogate = true) (unpaired : s.Unpaired) :
      Text.Unpaired (c :: s) ∧ ∀ d ∈ (c :: s).head?, d.isLowSurrogate = true → EscapesLow t := by
    rw [CodePoint.isSurrogate_iff, not_or] at none
    refine ⟨Text.unpaired_cons c s unpaired fun high => absurd high none.1, fun d head isLow => ?_⟩
    obtain rfl := Option.some.inj head
    exact absurd isLow none.2
  induction spells with
  | nil => exact ⟨trivial, by simp⟩
  | plain _ _ _ _ ih =>
    rw [plain_cons] at plain
    exact apart _ _ _ plain.1 (ih plain.2).1
  | letter denoted _ ih =>
    rw [plain_cons, plain_cons] at plain
    exact apart _ _ _ (escapes_noSurrogate _ denoted) (ih plain.2.2).1
  | @unit a b c d unit t s denoted notLow _ ih =>
    simp only [plain_cons] at plain
    obtain ⟨unpaired, first⟩ := ih plain.2.2.2.2.2.2
    refine ⟨Text.unpaired_cons unit s unpaired fun high low head isLow =>
      notLow high (first low head isLow), fun low head isLow => ?_⟩
    obtain rfl := Option.some.inj head
    exact ⟨a, b, c, d, t, unit, rfl, denoted, isLow⟩
  | pair _ isHigh _ isLow _ ih =>
    simp only [plain_cons] at plain
    exact apart _ _ _ (CodePoint.not_isSurrogate_joinSurrogates _ _ isHigh isLow)
      (ih plain.2.2.2.2.2.2.2.2.2.2.2.2).1

/-! ## Collapsed members -/

private theorem mem_put (name : Text) (value : Json) (members : List (Text × Json))
    (member : Text × Json) (isIn : member ∈ put name value members) :
    member = (name, value) ∨ member ∈ members := by
  induction members with
  | nil => exact .inl (List.mem_singleton.mp isIn)
  | cons first rest ih =>
    obtain ⟨n, v⟩ := first
    simp only [put] at isIn
    split at isIn
    next same =>
      subst same
      rcases List.mem_cons.mp isIn with rfl | behind
      · exact .inl rfl
      · exact .inr (List.mem_cons_of_mem _ behind)
    next =>
      rcases List.mem_cons.mp isIn with rfl | behind
      · exact .inr List.mem_cons_self
      · exact (ih behind).imp_right (List.mem_cons_of_mem _)

-- A member keeps the names if its own is among them, and else brings its own
private theorem names_put (name : Text) (value : Json) (members : List (Text × Json)) :
    (put name value members).map (·.1) = members.map (·.1) ∨
      name ∉ members.map (·.1) ∧
        (put name value members).map (·.1) = members.map (·.1) ++ [name] := by
  induction members with
  | nil => exact .inr ⟨List.not_mem_nil, rfl⟩
  | cons first rest ih =>
    obtain ⟨n, v⟩ := first
    by_cases same : n = name
    · subst same
      left
      rw [put, if_pos rfl, List.map_cons, List.map_cons]
    · rw [put, if_neg same, List.map_cons, List.map_cons]
      rcases ih with kept | ⟨fresh, brought⟩
      · left
        rw [kept]
      · right
        refine ⟨?_, by rw [brought, List.cons_append]⟩
        rw [List.mem_cons, not_or]
        exact ⟨Ne.symm same, fresh⟩

private theorem nodup_put (name : Text) (value : Json) (members : List (Text × Json))
    (nodup : (members.map (·.1)).Nodup) : ((put name value members).map (·.1)).Nodup := by
  rcases names_put name value members with kept | ⟨fresh, brought⟩
  · rwa [kept]
  · rw [brought]
    exact List.nodup_append.mpr ⟨nodup, List.nodup_singleton name, by
      rintro a member b single rfl
      rw [List.mem_singleton.mp single] at member
      exact fresh member⟩

/-- Collapsing puts one member after the other. -/
theorem collapse_eq (members : List (Text × Json)) : collapse members =
    members.foldl (fun collapsed member => put member.1 member.2 collapsed) [] := rfl

/-- Collapsed members have unique names and are among the members. -/
theorem collapse_spec (members : List (Text × Json)) :
    ((collapse members).map (·.1)).Nodup ∧ ∀ member ∈ collapse members, member ∈ members := by
  -- The induction needs any start; the members that are there before stay unique and among both
  have step (rest start : List (Text × Json)) (nodup : (start.map (·.1)).Nodup) :
      ((rest.foldl (fun collapsed member => put member.1 member.2 collapsed) start).map
        (·.1)).Nodup ∧
      ∀ member ∈ rest.foldl (fun collapsed member => put member.1 member.2 collapsed) start,
        member ∈ start ∨ member ∈ rest := by
    induction rest generalizing start with
    | nil => exact ⟨nodup, fun _ isIn => .inl isIn⟩
    | cons first rest ih =>
      obtain ⟨n, v⟩ := first
      obtain ⟨unique, among⟩ := ih (put n v start) (nodup_put n v start nodup)
      refine ⟨unique, fun member isIn => ?_⟩
      rcases among member isIn with placed | behind
      · rcases mem_put n v start member placed with rfl | before
        · exact .inr List.mem_cons_self
        · exact .inl before
      · exact .inr (List.mem_cons_of_mem _ behind)
  obtain ⟨unique, among⟩ := step members [] List.nodup_nil
  rw [collapse_eq]
  exact ⟨unique, fun member isIn => (among member isIn).resolve_left List.not_mem_nil⟩

theorem canonicalMembers_iff (members : List (Text × Json)) :
    CanonicalMembers members ↔ ∀ member ∈ members, member.1.Unpaired ∧ Canonical member.2 := by
  induction members with
  | nil => simp [CanonicalMembers]
  | cons first rest ih => simp [CanonicalMembers, ih]

/-! ## Phrases -/

/-- Whether what a phrase denotes is canonical; members may still repeat a name. -/
def CanonicalPhrase : Phrase → Prop
  | .value document => Canonical document
  | .element document => Canonical document
  | .items documents => CanonicalItems documents
  | .member name document => name.Unpaired ∧ Canonical document
  | .members members => CanonicalMembers members

private theorem word_canonical (grammar : Grammar) (word : Text) (document : Json)
    (known : (word, document) ∈ grammar.words) : Canonical document := by
  have all : ∀ entry ∈ grammar.words, Canonical entry.2 := by
    unfold Grammar.words
    split <;> simp [Canonical]
  exact all _ known

/-- What a text without surrogates denotes is canonical. -/
theorem canonical_of_denotes (grammar : Grammar) (t : Text) (phrase : Phrase)
    (denotes : Denotes grammar t phrase) (plain : Plain t) : CanonicalPhrase phrase := by
  induction denotes with
  | word known => exact word_canonical grammar _ _ known
  | number _ isNumber => cases isNumber <;> trivial
  | string spells =>
    rw [plain_cons, plain_append] at plain
    exact (spells_unpaired _ _ spells plain.2.1).1
  | emptyArray => trivial
  | array _ ih =>
    rw [plain_cons, plain_append] at plain
    exact ih plain.2.1
  | emptyObject => exact ⟨List.nodup_nil, trivial⟩
  | object _ ih =>
    rw [plain_cons, plain_append] at plain
    have canonical := (canonicalMembers_iff _).mp (ih plain.2.1)
    obtain ⟨unique, among⟩ := collapse_spec _
    exact ⟨unique, (canonicalMembers_iff _).mpr fun member isIn =>
      canonical member (among member isIn)⟩
  | element _ _ _ ih =>
    rw [plain_append, plain_append] at plain
    exact ih plain.2.1
  | lastItem _ ih => exact ⟨ih plain, trivial⟩
  | item _ _ ih ih' =>
    rw [plain_append, plain_cons] at plain
    exact ⟨ih plain.1, ih' plain.2.2⟩
  | member _ spells _ _ ih =>
    simp only [plain_append, plain_cons] at plain
    obtain ⟨-, -, name, -, -, -, rest⟩ := plain
    exact ⟨(spells_unpaired _ _ spells name).1, ih rest⟩
  | lastMember _ ih => exact ⟨ih plain, trivial⟩
  | nextMember _ _ ih ih' =>
    rw [plain_append, plain_cons] at plain
    exact ⟨ih plain.1, ih' plain.2.2⟩

/-- Documents that are read from a text without surrogates are canonical. -/
theorem canonical_of_read (t : Text) (document : Json) (plain : Plain t)
    (success : read t = .ok document) : Canonical document :=
  canonical_of_denotes .ofReader t (.element document) (isDocument_of_read t document success) plain

end Tenancy.Json
