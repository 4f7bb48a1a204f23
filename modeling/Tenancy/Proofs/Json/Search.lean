import Tenancy.Proofs.Database.Like
import Tenancy.Proofs.Json.Compact

/-!
# Searching stored texts

A search for a name in quotation marks with the word for false behind it finds the members of that
value whose name ends in what is searched for: all of the name, or a part that a quotation mark in
the name precedes. Nothing is found inside of a string, since a quotation mark there stands behind a
backslash and the second one of the search stands behind a letter.
-/
namespace Tenancy

namespace CodePoint

/-- What is no letter has no other case. -/
theorem asciiLower_eq_iff (c d : CodePoint)
    (noLetter : d.isAsciiUpper = false ∧ d.isAsciiLower = false) : c.asciiLower = d ↔ c = d := by
  unfold asciiLower
  by_cases upper : c.isAsciiUpper = true
  · simp only [upper, if_true]
    constructor
    · rintro rfl
      simp [isAsciiUpper, isAsciiLower, Fin.ofNat] at upper noLetter
      omega
    · rintro rfl
      simp [upper] at noLetter
  · simp [upper]

end CodePoint

namespace Text

theorem asciiLower_append (s t : Text) : (s ++ t).asciiLower = s.asciiLower ++ t.asciiLower :=
  List.map_append

theorem asciiLower_cons (c : CodePoint) (t : Text) :
    asciiLower (c :: t) = c.asciiLower :: t.asciiLower := rfl

theorem mem_asciiLower_iff (t : Text) (d : CodePoint)
    (noLetter : d.isAsciiUpper = false ∧ d.isAsciiLower = false) : d ∈ t.asciiLower ↔ d ∈ t := by
  simp [asciiLower, CodePoint.asciiLower_eq_iff _ d noLetter]

end Text

namespace Json

mutual

/-- Every member in a document, those of the objects in it included. -/
def allMembers : Json → List (Text × Json)
  | .array items => allMembersOfItems items
  | .object members => allMembersOfMembers members
  | _ => []

/-- Every member in elements. -/
def allMembersOfItems : List Json → List (Text × Json)
  | [] => []
  | item :: rest => allMembers item ++ allMembersOfItems rest

/-- Every member among members and in their values. -/
def allMembersOfMembers : List (Text × Json) → List (Text × Json)
  | [] => []
  | (name, value) :: rest => (name, value) :: (allMembers value ++ allMembersOfMembers rest)

end

/-- Whether the end of a member's name is like another name, in letters of either case: all of it,
or what stands behind a quotation mark in it. -/
def EndsAs (name member : Text) : Prop :=
  member.asciiLower = name ∨ .quote :: name <:+ member.asciiLower

section
variable {α β : Type}

/-- Whether an entry of a value has a key of some kind. -/
def HasEntry (kind : α → Prop) (value : β) (entries : List (α × β)) : Prop :=
  ∃ key, (key, value) ∈ entries ∧ kind key

variable {kind : α → Prop} {value : β}

theorem not_hasEntry_nil : ¬HasEntry kind value [] := by simp [HasEntry]

theorem hasEntry_append {s t : List (α × β)} :
    HasEntry kind value (s ++ t) ↔ HasEntry kind value s ∨ HasEntry kind value t := by
  simp only [HasEntry, List.mem_append, or_and_right, exists_or]

theorem hasEntry_cons {key : α} {given : β} {rest : List (α × β)} :
    HasEntry kind value ((key, given) :: rest) ↔
      (given = value ∧ kind key) ∨ HasEntry kind value rest := by
  constructor
  · rintro ⟨other, isIn, isKind⟩
    rcases List.mem_cons.mp isIn with eq | isIn
    · obtain ⟨rfl, rfl⟩ := Prod.mk.inj eq
      exact .inl ⟨rfl, isKind⟩
    · exact .inr ⟨other, isIn, isKind⟩
  · rintro (⟨rfl, isKind⟩ | ⟨other, isIn, isKind⟩)
    · exact ⟨key, List.mem_cons_self, isKind⟩
    · exact ⟨other, List.mem_cons_of_mem _ isIn, isKind⟩

end

/-- What is searched for: a name with the value false. -/
def falseMark (name : Text) : Text := .quote :: (name ++ .quote :: 0x3a :: Text.ofString "false")

/-! ## Strings -/

-- A quotation mark is written behind a backslash
private theorem character_quote (style : Style) :
    style.character .quote = [.backslash, .quote] := by
  simp [Style.character]

-- Any other character is written without one
private theorem quote_notMem_character (style : Style) (c : CodePoint) (notQuote : c ≠ .quote) :
    CodePoint.quote ∉ style.character c := by
  have escape (unit : CodePoint) (small : unit.val < 0x10000) :
      CodePoint.quote ∉ unitEscape unit.val := by
    intro isIn
    rcases mem_unitEscape unit small _ isIn with eq | eq | digit
    · exact absurd eq (by decide)
    · exact absurd eq (by decide)
    · exact (hexDigit_shown _ digit).1 rfl
  have form := character_form style c
  generalize style.character c = text at form
  cases form with
  | plain => simpa using Ne.symm notQuote
  | letter letter _ denoted _ =>
    intro isIn
    simp only [List.mem_cons, List.not_mem_nil, or_false] at isIn
    rcases isIn with eq | rfl
    · exact absurd eq (by decide)
    · exact notQuote (Option.some.inj denoted).symm
  | unit small => exact escape c small
  | pair large =>
    obtain ⟨isHigh, isLow⟩ := CodePoint.splitSurrogates_surrogates c large
    rw [CodePoint.isHighSurrogate_iff] at isHigh
    rw [CodePoint.isLowSurrogate_iff] at isLow
    intro isIn
    rcases List.mem_append.mp isIn with isIn | isIn
    · exact escape _ (by omega) isIn
    · exact escape _ (by omega) isIn

-- What stands between the quotation marks of a string, in lower case
private def inside (style : Style) (t : Text) : Text :=
  Text.asciiLower (t.flatMap style.character)

section
variable (style : Style)

private theorem inside_cons (c : CodePoint) (t : Text) :
    inside style (c :: t) = (style.character c).asciiLower ++ inside style t := by
  rw [inside, List.flatMap_cons, Text.asciiLower_append, inside]

private theorem quote_notMem_lower (c : CodePoint) (notQuote : c ≠ .quote) :
    CodePoint.quote ∉ (style.character c).asciiLower := by
  rw [Text.mem_asciiLower_iff _ _ (by decide)]
  exact quote_notMem_character style c notQuote

private theorem lower_quote : (style.character .quote).asciiLower = [.backslash, .quote] := by
  rw [character_quote]
  decide

-- Every quotation mark in a string stands behind a backslash
private theorem quote_escaped (t before behind : Text)
    (eq : inside style t = before ++ .quote :: behind) : before.getLast? = some .backslash := by
  induction t generalizing before with
  | nil => simp [inside, Text.asciiLower] at eq
  | cons c t ih =>
    rw [inside_cons] at eq
    rcases List.append_eq_append_iff.mp eq with ⟨rest, rfl, found⟩ | ⟨rest, written, found⟩
    · rw [List.getLast?_append, ih rest found]
      rfl
    · cases rest with
      | nil => cases ih [] found.symm
      | cons first rest =>
        obtain rfl := (List.cons.inj found).1
        by_cases isQuote : c = .quote
        · subst isQuote
          rw [lower_quote] at written
          cases before with
          | nil => exact absurd (List.cons.inj written).1 (by decide)
          | cons a before =>
            obtain ⟨rfl, others⟩ := List.cons.inj written
            cases before with
            | nil => rfl
            | cons b before => simp at others
        · have isIn : CodePoint.quote ∈ (style.character c).asciiLower := by
            rw [written]
            simp
          exact absurd isIn (quote_notMem_lower style c isQuote)

private theorem character_letter (c : CodePoint) (letter : c.asciiLower.isAsciiLower = true) :
    style.character c = [c] := by
  have range : 0x41 ≤ c.val ∧ c.val ≤ 0x5a ∨ 0x61 ≤ c.val ∧ c.val ≤ 0x7a := by
    unfold CodePoint.asciiLower at letter
    split at letter
    next upper =>
      left
      simpa [CodePoint.isAsciiUpper] using upper
    next =>
      right
      simpa [CodePoint.isAsciiLower] using letter
  have apart (d : CodePoint) (other : d.val < 0x41 ∨ d.val = 0x5c) : c ≠ d := by
    rintro rfl
    omega
  have noMark : ¬(c = .quote ∨ c = .backslash) :=
    not_or.mpr ⟨apart .quote (by decide), apart .backslash (by decide)⟩
  have shown : (!style.ascii || decide (c.val < 0x7f)) = true := by
    rw [Bool.or_eq_true]
    right
    simpa using (show c.val < 0x7f by omega)
  rw [Style.character, if_neg noMark, if_neg (apart 0x0a (by decide)),
    if_neg (apart 0x0d (by decide)), if_neg (apart 0x09 (by decide)),
    if_neg (apart 0x0c (by decide)), if_neg (apart 0x08 (by decide)), if_neg (by omega),
    if_pos shown]

-- A character stands for itself or is escaped
private theorem character_start (c : CodePoint) :
    style.character c = [c] ∨ ∃ tail, style.character c = .backslash :: tail := by
  have escape (unit : CodePoint) (small : unit.val < 0x10000) (rest : Text) :
      ∃ tail, unitEscape unit.val ++ rest = .backslash :: tail := by
    obtain ⟨a, b, c, d, digits, -⟩ := unitEscape_digits unit small
    rw [digits]
    exact ⟨_, rfl⟩
  have form := character_form style c
  generalize style.character c = text at form
  cases form with
  | plain => exact .inl rfl
  | letter => exact .inr ⟨_, rfl⟩
  | unit small =>
    right
    simpa using escape c small []
  | pair large =>
    have isHigh := (CodePoint.splitSurrogates_surrogates c large).1
    rw [CodePoint.isHighSurrogate_iff] at isHigh
    exact .inr (escape _ (by omega) _)

variable (name : Text) (letters : ∀ c ∈ name, c.isAsciiLower = true)
include letters

-- A string that is written in letters only is the text itself
private theorem inside_eq_iff (t : Text) : inside style t = name ↔ Text.asciiLower t = name := by
  induction t generalizing name with
  | nil => exact Iff.rfl
  | cons c t ih =>
    rw [inside_cons, Text.asciiLower_cons]
    by_cases letter : c.asciiLower.isAsciiLower = true
    · rw [character_letter style c letter]
      cases name with
      | nil => simp [Text.asciiLower]
      | cons first rest =>
        have others := ih rest fun d isIn => letters d (List.mem_cons_of_mem first isIn)
        have one : Text.asciiLower [c] = [c.asciiLower] := rfl
        rw [one, List.singleton_append, List.cons.injEq, List.cons.injEq, others]
    · -- Neither the character nor a backslash is a letter
      constructor
      · rintro rfl
        rcases character_start style c with plain | ⟨tail, escaped⟩
        · rw [plain] at letters
          exact absurd (letters c.asciiLower List.mem_cons_self) letter
        · rw [escaped] at letters
          exact absurd (letters CodePoint.backslash.asciiLower List.mem_cons_self) (by decide)
      · rintro rfl
        exact absurd (letters c.asciiLower List.mem_cons_self) letter

omit letters in
private theorem suffix_past (s t : Text) (noQuote : CodePoint.quote ∉ s) :
    .quote :: name <:+ s ++ t ↔ .quote :: name <:+ t := by
  induction s with
  | nil => exact Iff.rfl
  | cons c s ih =>
    obtain ⟨other, rest⟩ := not_or.mp (List.mem_cons.not.mp noQuote)
    rw [List.cons_append, List.suffix_cons_iff, ih rest, List.cons.injEq]
    simp [other]

-- Letters behind a quotation mark end a string if they end the text
private theorem suffix_inside_iff (t : Text) :
    .quote :: name <:+ inside style t ↔ .quote :: name <:+ Text.asciiLower t := by
  induction t with
  | nil => exact Iff.rfl
  | cons c t ih =>
    rw [inside_cons, Text.asciiLower_cons]
    by_cases isQuote : c = .quote
    · subst isQuote
      have kept : CodePoint.quote.asciiLower = .quote := by decide
      have escape : CodePoint.quote ≠ .backslash := by decide
      calc .quote :: name <:+ Text.asciiLower (style.character .quote) ++ inside style t
        _ ↔ .quote :: name <:+ [.backslash] ++ .quote :: inside style t := by
          rw [lower_quote]
          rfl
        _ ↔ .quote :: name <:+ .quote :: inside style t := suffix_past name _ _ (by decide)
        _ ↔ name = inside style t ∨ .quote :: name <:+ inside style t := by
          rw [List.suffix_cons_iff, List.cons.injEq, and_iff_right rfl]
        _ ↔ name = Text.asciiLower t ∨ .quote :: name <:+ Text.asciiLower t := by
          rw [ih, eq_comm, inside_eq_iff style name letters, eq_comm]
        _ ↔ .quote :: name <:+ CodePoint.quote.asciiLower :: Text.asciiLower t := by
          rw [kept, List.suffix_cons_iff, List.cons.injEq, and_iff_right rfl]
    · have other : c.asciiLower ≠ .quote := by
        rw [Ne, CodePoint.asciiLower_eq_iff c _ (by decide)]
        exact isQuote
      rw [suffix_past name _ _ (quote_notMem_lower style c isQuote), ih, List.suffix_cons_iff,
        List.cons.injEq]
      simp [Ne.symm other]

/-! ## What a string contributes -/

omit letters in
-- Between its quotation marks a string is as it is written
private theorem lower_string (t : Text) :
    (style.string t).asciiLower = .quote :: inside style t ++ [.quote] := by
  have kept : CodePoint.quote.asciiLower = .quote := by decide
  have last : Text.asciiLower [.quote] = [.quote] := by decide
  rw [Style.string, Text.asciiLower_append, Text.asciiLower_cons, kept, last, inside]

/-- Nothing is found inside of a string. -/
theorem not_infix_string (t : Text) : ¬falseMark name <:+: (style.string t).asciiLower := by
  rw [lower_string, List.infix_concat_iff, List.suffix_concat_iff]
  rintro ((none | ⟨start, mark, -⟩) | ⟨before, behind, eq⟩)
  · cases none
  · -- The last letter is no quotation mark
    have last := congrArg List.getLast? mark
    rw [List.getLast?_append, falseMark] at last
    simp [List.getLast?_cons, List.getLast?_append, Text.ofString] at last
    exact absurd last (by decide)
  · rw [falseMark, List.append_assoc, List.cons_append, List.append_assoc] at eq
    cases before with
    | nil =>
      have last := quote_escaped style t name _ (List.cons.inj eq).2.symm
      exact absurd (letters _ (List.mem_of_getLast? last)) (by decide)
    | cons c before =>
      rw [← List.cons_append, ← List.append_assoc] at eq
      have last := quote_escaped style t (before ++ .quote :: name) _ (List.cons.inj eq).2.symm
      rw [List.getLast?_append_cons] at last
      rcases List.mem_cons.mp (List.mem_of_getLast? last) with eq | isIn
      · exact absurd eq (by decide)
      · exact absurd (letters _ isIn) (by decide)

/-- A name in quotation marks ends a string if the end of the text is like the name. -/
theorem suffix_string_iff (t : Text) :
    .quote :: name ++ [.quote] <:+ (style.string t).asciiLower ↔ EndsAs name t := by
  have before : .quote :: name ++ [.quote] <:+ .quote :: inside style t ++ [.quote] ↔
      .quote :: name <:+ .quote :: inside style t := by
    rw [List.suffix_concat_iff]
    constructor
    · rintro (none | ⟨start, eq, ends⟩)
      · simp at none
      · rwa [List.append_cancel_right eq]
    · intro ends
      exact .inr ⟨_, rfl, ends⟩
  rw [lower_string, before, List.suffix_cons_iff, List.cons.injEq, and_iff_right rfl,
    suffix_inside_iff style name letters, eq_comm, inside_eq_iff style name letters]
  exact Iff.rfl

end

/-! ## What stands outside of strings -/

-- Words and numbers have neither a quotation mark nor, but for one word, the first letter of it
private def isQuiet (c : CodePoint) : Bool :=
  c.asciiLower != .quote && c.asciiLower != CodePoint.ofChar 'f'

private theorem isQuiet_numeral (c : CodePoint) (numeral : IsNumeral c) : isQuiet c = true := by
  rcases numeral with digit | rfl | rfl | rfl | rfl | rfl
  · have small : c.isAsciiUpper = false := by
      simp [CodePoint.isDigit, CodePoint.isAsciiUpper] at digit ⊢
      omega
    rw [isQuiet, CodePoint.asciiLower, small, Bool.and_eq_true, bne_iff_ne, bne_iff_ne]
    constructor
    all_goals
      rintro rfl
      exact absurd digit (by decide)
  all_goals decide

variable (name : Text)

private theorem not_infix_noQuote (t : Text) (noQuote : CodePoint.quote ∉ t.asciiLower) :
    ¬falseMark name <:+: t.asciiLower :=
  fun found => noQuote (found.mem List.mem_cons_self)

private theorem not_infix_quiet (t : Text) (quiet : ∀ c ∈ t, isQuiet c = true) :
    ¬falseMark name <:+: t.asciiLower := by
  apply not_infix_noQuote
  intro isIn
  obtain ⟨c, isIn, eq⟩ := List.mem_map.mp isIn
  have apart := quiet c isIn
  simp [isQuiet, eq] at apart

private theorem not_prefix_quiet (t : Text) (quiet : ∀ c ∈ t, isQuiet c = true) :
    ¬Text.ofString "false" <+: t.asciiLower := by
  intro starts
  have isIn := starts.mem (show CodePoint.ofChar 'f' ∈ Text.ofString "false" by decide)
  obtain ⟨c, isIn, eq⟩ := List.mem_map.mp isIn
  have apart := quiet c isIn
  simp [isQuiet, eq] at apart

private theorem quiet_number (t : Text) (document : Json)
    (value : Denotes .standard t (.value document))
    (numeric : (∃ n, document = .int n) ∨ ∃ x, document = .number x) :
    ∀ c ∈ t, isQuiet c = true :=
  fun c isIn => isQuiet_numeral c (isNumeral_of_denotes t document value numeric c isIn)

private theorem quiet_int (n : Int) (short : Numeral.isTooLong n = false) :
    ∀ c ∈ Text.ofInt n, isQuiet c = true :=
  quiet_number _ _ (denotes_ofInt (by simp [Grammar.standard]) n short) (.inl ⟨n, rfl⟩)

private theorem quiet_double (layout : Double.Layout) (x : Double) (finite : x.isFinite = true) :
    ∀ c ∈ x.toText layout, isQuiet c = true :=
  quiet_number _ _ (denotes_toText layout x finite) (.inr ⟨x, rfl⟩)

private theorem not_prefix_cons (c : CodePoint) (t : Text)
    (other : c.asciiLower ≠ CodePoint.ofChar 'f') :
    ¬Text.ofString "false" <+: Text.asciiLower (c :: t) := by
  intro starts
  have word : Text.ofString "false" = CodePoint.ofChar 'f' :: Text.ofString "alse" := rfl
  rw [word, Text.asciiLower_cons, List.cons_prefix_cons] at starts
  exact other starts.1.symm

-- Only one value starts with its word
private theorem prefix_false_iff (depth : Nat) (value : Json) (writable : Writable value) :
    Text.ofString "false" <+: (render .stored depth value).asciiLower ↔ value = .bool false := by
  -- Any other value starts with another character or has no letter of the word
  have other (t : Text) (distinct : value ≠ .bool false)
      (starts : ¬Text.ofString "false" <+: t.asciiLower) :
      Text.ofString "false" <+: t.asciiLower ↔ value = .bool false :=
    iff_of_false starts distinct
  cases value with
  | null => exact other _ (by simp) (not_prefix_cons _ _ (by decide))
  | bool b =>
    cases b with
    | false => exact iff_of_true (List.prefix_refl _) rfl
    | true => exact other _ (by simp) (not_prefix_cons _ _ (by decide))
  | int n => exact other _ (by simp) (not_prefix_quiet _ (quiet_int n writable))
  | number x => exact other _ (by simp) (not_prefix_quiet _ (quiet_double _ x writable))
  | string t => exact other _ (by simp) (not_prefix_cons _ _ (by decide))
  | array items =>
    cases items with
    | nil => exact other _ (by simp) (not_prefix_cons _ _ (by decide))
    | cons => exact other _ (by simp) (not_prefix_cons (CodePoint.ofChar '[') _ (by decide))
  | object members =>
    cases members with
    | nil => exact other _ (by simp) (not_prefix_cons _ _ (by decide))
    | cons => exact other _ (by simp) (not_prefix_cons (CodePoint.ofChar '\x7b') _ (by decide))

/-! ## Documents -/

variable (letters : ∀ c ∈ name, c.isAsciiLower = true)
include letters

private theorem notMem_falseMark (c : CodePoint)
    (apart : c.isAsciiLower = false ∧ c ∉ falseMark []) : c ∉ falseMark name := by
  intro isIn
  rcases List.mem_cons.mp isIn with rfl | isIn
  · exact apart.2 List.mem_cons_self
  rcases List.mem_append.mp isIn with isIn | isIn
  · rw [letters c isIn] at apart
    exact absurd apart.1 (by decide)
  · exact apart.2 (List.mem_cons_of_mem _ isIn)

-- A bracket or a comma is no part of what is searched for
private theorem infix_between (start last : CodePoint) (t : Text)
    (starts : start.asciiLower.isAsciiLower = false ∧ start.asciiLower ∉ falseMark [])
    (ends : last.asciiLower.isAsciiLower = false ∧ last.asciiLower ∉ falseMark []) :
    falseMark name <:+: Text.asciiLower (start :: (t ++ [last])) ↔
      falseMark name <:+: t.asciiLower := by
  have nowhere : ¬falseMark name <:+: [] := by simp [falseMark]
  rw [Text.asciiLower_cons, Text.asciiLower_append, ← List.nil_append (_ :: _),
    infix_apart (notMem_falseMark name letters _ starts), or_iff_right nowhere]
  exact (infix_apart (notMem_falseMark name letters _ ends)).trans (or_iff_left nowhere)

private theorem infix_comma (s t : Text) :
    falseMark name <:+: Text.asciiLower (s ++ 0x2c :: t) ↔
      falseMark name <:+: s.asciiLower ∨ falseMark name <:+: t.asciiLower := by
  have comma := notMem_falseMark name letters (CodePoint.asciiLower 0x2c) (by decide)
  rw [Text.asciiLower_append, Text.asciiLower_cons, infix_apart comma]

-- What is found across the colon is a member
private theorem infix_member (depth : Nat) (member : Text) (value : Json)
    (writable : Writable value) :
    falseMark name <:+: Text.asciiLower (Style.stored.string member
        ++ 0x3a :: render .stored depth value) ↔
      (value = .bool false ∧ EndsAs name member) ∨
        falseMark name <:+: (render .stored depth value).asciiLower := by
  have colon : CodePoint.asciiLower 0x3a = 0x3a := by decide
  have mark : falseMark name = (.quote :: name ++ [.quote]) ++ 0x3a :: Text.ofString "false" := by
    simp [falseMark]
  have before : (0x3a : CodePoint) ∉ .quote :: name ++ [.quote] := by
    intro isIn
    simp only [List.cons_append, List.mem_cons, List.mem_append, List.not_mem_nil,
      or_false] at isIn
    rcases isIn with eq | isIn | eq
    · exact absurd eq (by decide)
    · exact absurd (letters _ isIn) (by decide)
    · exact absurd eq (by decide)
  rw [Text.asciiLower_append, Text.asciiLower_cons, colon, infix_across,
    or_iff_right (not_infix_string .stored name letters member), or_comm]
  refine or_congr_left ?_
  rw [← prefix_false_iff depth value writable, ← suffix_string_iff .stored name letters member]
  constructor
  · rintro ⟨x, y, eq, ends, starts⟩
    rw [mark, List.append_cons_inj_of_notMem before (by decide)] at eq
    obtain ⟨rfl, -, rfl⟩ := eq
    exact ⟨starts, ends⟩
  · rintro ⟨starts, ends⟩
    exact ⟨_, _, mark, ends, starts⟩

omit letters in
private theorem lineBreak_stored (depth : Nat) : Style.stored.lineBreak depth = [] := rfl

mutual

-- Brackets and commas have no part in what is found
private theorem search_render : ∀ (document : Json) (depth : Nat), Writable document →
    (falseMark name <:+: (render .stored depth document).asciiLower ↔
      HasEntry (EndsAs name) (.bool false) document.allMembers)
  | .null, _, _ =>
    iff_of_false (not_infix_noQuote name (Text.ofString "null") (by decide)) not_hasEntry_nil
  | .bool true, _, _ =>
    iff_of_false (not_infix_noQuote name (Text.ofString "true") (by decide)) not_hasEntry_nil
  | .bool false, _, _ =>
    iff_of_false (not_infix_noQuote name (Text.ofString "false") (by decide)) not_hasEntry_nil
  | .int n, _, short =>
    iff_of_false (not_infix_quiet name _ (quiet_int n short)) not_hasEntry_nil
  | .number x, _, finite =>
    iff_of_false (not_infix_quiet name _ (quiet_double _ x finite)) not_hasEntry_nil
  | .string t, _, _ =>
    iff_of_false (not_infix_string .stored name letters t) not_hasEntry_nil
  | .array [], _, _ =>
    iff_of_false (not_infix_noQuote name (Text.ofString "[]") (by decide)) not_hasEntry_nil
  | .object [], _, _ =>
    iff_of_false (not_infix_noQuote name (Text.ofString "\x7b\x7d") (by decide))
      not_hasEntry_nil
  | .array (item :: items), depth, writable => by
    have inside := search_items (item :: items) (depth + 1) writable
    have whole : render .stored depth (.array (item :: items)) =
        0x5b :: (renderItems .stored (depth + 1) (item :: items) ++ [0x5d]) := by
      rw [render, lineBreak_stored, List.append_nil]
      · rfl
      · simp
    rw [whole, infix_between name letters _ _ _ (by decide) (by decide), inside]
    exact Iff.rfl
  | .object (member :: members), depth, writable => by
    have inside := search_members (member :: members) (depth + 1) writable
    have whole : render .stored depth (.object (member :: members)) =
        0x7b :: (renderMembers .stored (depth + 1) (member :: members) ++ [0x7d]) := by
      rw [render, lineBreak_stored, List.append_nil]
      · rfl
      · simp
    rw [whole, infix_between name letters _ _ _ (by decide) (by decide), inside]
    exact Iff.rfl

private theorem search_items : ∀ (items : List Json) (depth : Nat), WritableItems items →
    (falseMark name <:+: (renderItems .stored depth items).asciiLower ↔
      HasEntry (EndsAs name) (.bool false) (allMembersOfItems items))
  | [], _, _ => iff_of_false (not_infix_noQuote name [] (by decide)) not_hasEntry_nil
  | [item], depth, writable => by
    have first := search_render item depth writable.1
    rw [allMembersOfItems, allMembersOfItems, List.append_nil]
    exact first
  | item :: next :: items, depth, writable => by
    have first := search_render item depth writable.1
    have rest := search_items (next :: items) depth writable.2
    have whole : renderItems .stored depth (item :: next :: items) =
        render .stored depth item ++ 0x2c :: renderItems .stored depth (next :: items) := by
      rw [renderItems, lineBreak_stored, List.nil_append, List.append_assoc]
      rfl
    rw [whole, infix_comma name letters, first, rest, ← hasEntry_append]
    exact Iff.rfl

private theorem search_members : ∀ (members : List (Text × Json)) (depth : Nat),
    WritableMembers members →
    (falseMark name <:+: (renderMembers .stored depth members).asciiLower ↔
      HasEntry (EndsAs name) (.bool false) (allMembersOfMembers members))
  | [], _, _ => iff_of_false (not_infix_noQuote name [] (by decide)) not_hasEntry_nil
  | [(member, value)], depth, writable => by
    have first := search_render value depth writable.1
    have whole : renderMembers .stored depth [(member, value)] =
        Style.stored.string member ++ 0x3a :: render .stored depth value := by
      rw [renderMembers, lineBreak_stored, List.nil_append, List.append_assoc]
      rfl
    rw [whole, infix_member name letters depth member value writable.1, first,
      allMembersOfMembers, allMembersOfMembers, List.append_nil, hasEntry_cons]
  | (member, value) :: next :: members, depth, writable => by
    have first := search_render value depth writable.1
    have rest := search_members (next :: members) depth writable.2
    have whole : renderMembers .stored depth ((member, value) :: next :: members) =
        (Style.stored.string member ++ 0x3a :: render .stored depth value)
          ++ 0x2c :: renderMembers .stored depth (next :: members) := by
      rw [renderMembers, lineBreak_stored, List.nil_append]
      simp only [List.append_assoc]
      rfl
    rw [whole, infix_comma name letters, infix_member name letters depth member value writable.1,
      first, rest, or_assoc, ← hasEntry_append, ← hasEntry_cons]
    exact Iff.rfl

end

/-- A search in a stored document finds its members with the value false whose name ends like what
is searched for. -/
theorem infix_write_iff (document : Json) (writable : Writable document) :
    falseMark name <:+: (write .stored document).asciiLower ↔
      ∃ member, (member, .bool false) ∈ document.allMembers ∧ EndsAs name member :=
  search_render name letters document 0 writable

end Json

end Tenancy
