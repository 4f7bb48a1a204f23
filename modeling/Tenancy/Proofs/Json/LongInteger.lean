import Tenancy.Proofs.Json.Compact

/-!
# Integers of too many digits

An integer of more than 4300 digits is in no document that the reader takes, though nothing in the
standard forbids it. A text that has no such integer where a token may start is a document whether
there is a limit or not, and if it is no document the reader says where it does not fit.
-/
namespace Tenancy.Json

/-- The grammar of the reader if integers had no limit. -/
def Grammar.unlimited : Grammar := ⟨true, none⟩

/-- The marks behind which a token starts: an opening bracket or brace, a comma and a colon. -/
def IsMark (c : CodePoint) : Prop := c = 0x5b ∨ c = 0x7b ∨ c = 0x2c ∨ c = 0x3a

/-- Whether a token may start behind a text: outside of strings, and at the start or behind a blank
or a mark. -/
structure StartsToken (before : Text) : Prop where
  strings : EndsStrings before
  last : ∀ c ∈ before.getLast?, c.isJsonBlank = true ∨ IsMark c

/-- Whether nothing at the start of a text goes on with an integer or makes it a number with a
fraction or an exponent. -/
structure EndsInteger (t : Text) : Prop where
  noDigit : ∀ c ∈ t.head?, c.isDigit = false
  noFraction : ∀ part digits rest, t = part ++ rest → ¬IsFraction part (some digits)
  noExponent : ∀ part power rest, t = part ++ rest → ¬IsExponent part (some power)

/-- Whether a text has an integer of too many digits where a token may start. -/
def HasLongInteger (t : Text) : Prop :=
  ∃ before negative whole behind, t = before ++ (signText negative ++ (whole ++ behind)) ∧
    StartsToken before ∧ IsWhole whole ∧ Numeral.digitLimit < whole.length ∧ EndsInteger behind

/-! ## Phrases end their strings -/

theorem endsStrings_blanks {blanks : Text} (isBlank : Blanks blanks) : EndsStrings blanks := by
  apply endsStrings_noQuote
  rintro c isIn rfl
  exact absurd (isBlank _ isIn) (by decide)

section
variable {s t : Text} {c d : CodePoint} (notQuote : c ≠ .quote)
include notQuote

theorem endsStrings_cons (ends : EndsStrings t) : EndsStrings (c :: t) := by
  have one : EndsStrings [c] := endsStrings_noQuote [c] (by simpa using notQuote)
  exact endsStrings_append one ends

theorem endsStrings_around (notQuote' : d ≠ .quote) (ends : EndsStrings t) :
    EndsStrings (c :: (t ++ [d])) := by
  have last : EndsStrings [d] := endsStrings_noQuote [d] (by simpa using notQuote')
  exact endsStrings_cons notQuote (endsStrings_append ends last)

theorem endsStrings_between (first : EndsStrings s) (second : EndsStrings t) :
    EndsStrings (s ++ c :: t) :=
  endsStrings_append first (endsStrings_cons notQuote second)

end

private theorem endsStrings_number {grammar : Grammar} {negative : Bool} {t : Text}
    {document : Json} (isNumber : IsNumber grammar negative t document) :
    EndsStrings (signText negative ++ t) := by
  have sign : EndsStrings (signText negative) := by
    cases negative with
    | true => exact endsStrings_noQuote [0x2d] (by simp; decide)
    | false => exact endsStrings_noQuote [] (by simp)
  have number : EndsStrings t := by
    apply endsStrings_noQuote
    rintro c isIn rfl
    rcases isNumeral_number grammar negative t document isNumber _ isIn with
      digit | eq | eq | eq | eq | eq
    · exact absurd digit (by decide)
    all_goals exact absurd eq (by decide)
  exact endsStrings_append sign number

private theorem endsStrings_word {grammar : Grammar} {t : Text} {document : Json}
    (known : (t, document) ∈ grammar.words) : EndsStrings t := by
  have clear : ∀ entry ∈ Grammar.unlimited.words, entry.1.all (· != .quote) = true := by
    simp only [Grammar.words, Grammar.unlimited, if_true, List.cons_append, List.nil_append,
      List.forall_mem_cons, List.not_mem_nil, false_imp_iff, implies_true, and_true]
    decide
  have unlimited : (t, document) ∈ Grammar.unlimited.words := by
    unfold Grammar.words at known ⊢
    rcases List.mem_append.mp known with isIn | isIn
    · exact List.mem_append_left _ isIn
    · split at isIn
      · exact List.mem_append_right _ isIn
      · cases isIn
  apply endsStrings_noQuote
  intro c isIn
  simpa using List.all_eq_true.mp (clear _ unlimited) c isIn

/-- A phrase ends its strings. -/
theorem Denotes.endsStrings {grammar : Grammar} {t : Text} {phrase : Phrase}
    (denotes : Denotes grammar t phrase) : EndsStrings t := by
  induction denotes with
  | word known => exact endsStrings_word known
  | number negative isNumber => exact endsStrings_number isNumber
  | string spells => exact endsStrings_string spells
  | emptyArray isBlank =>
    exact endsStrings_around (by decide) (by decide) (endsStrings_blanks isBlank)
  | array _ ih => exact endsStrings_around (by decide) (by decide) ih
  | emptyObject isBlank =>
    exact endsStrings_around (by decide) (by decide) (endsStrings_blanks isBlank)
  | object _ ih => exact endsStrings_around (by decide) (by decide) ih
  | element isBlank _ isBlank' ih =>
    exact endsStrings_append (endsStrings_blanks isBlank)
      (endsStrings_append ih (endsStrings_blanks isBlank'))
  | lastItem _ ih => exact ih
  | item _ _ ih ih' => exact endsStrings_between (by decide) ih ih'
  | @member before t behind rest name _ isBlank spells isBlank' _ ih =>
    have name : EndsStrings (before ++ .quote :: (t ++ [.quote])) :=
      endsStrings_append (endsStrings_blanks isBlank) (endsStrings_string spells)
    have whole := endsStrings_append name
      (endsStrings_between (c := 0x3a) (by decide) (endsStrings_blanks isBlank') ih)
    simpa only [List.append_assoc, List.cons_append, List.nil_append] using whole
  | lastMember _ ih => exact ih
  | nextMember _ _ ih ih' => exact endsStrings_between (by decide) ih ih'

/-! ## Where tokens start -/

theorem startsToken_nil : StartsToken [] :=
  ⟨endsStrings_noQuote [] (by simp), by simp⟩

theorem startsToken_blanks {blanks : Text} (isBlank : Blanks blanks) : StartsToken blanks :=
  ⟨endsStrings_blanks isBlank, fun c last => .inl (isBlank c (List.mem_of_getLast? last))⟩

theorem startsToken_mark {t : Text} (ends : EndsStrings t) (c : CodePoint) (isMark : IsMark c) :
    StartsToken (t ++ [c]) := by
  have notQuote : c ≠ .quote := by
    rcases isMark with rfl | rfl | rfl | rfl <;> decide
  refine ⟨endsStrings_between notQuote ends (endsStrings_noQuote [] (by simp)), ?_⟩
  intro d last
  rw [List.getLast?_concat] at last
  obtain rfl := Option.some.inj last
  exact .inr isMark

theorem StartsToken.append {s t : Text} (first : StartsToken s) (second : StartsToken t) :
    StartsToken (s ++ t) := by
  refine ⟨endsStrings_append first.strings second.strings, fun c last => ?_⟩
  rw [List.getLast?_append] at last
  cases behind : t.getLast? with
  | none =>
    rw [behind] at last
    exact first.last c last
  | some d =>
    rw [behind] at last
    exact second.last c (behind.trans last)

namespace HasLongInteger

/-- What has such an integer has it behind anything that a token may start behind. -/
theorem behind {before t : Text} (starts : StartsToken before) (long : HasLongInteger t) :
    HasLongInteger (before ++ t) := by
  obtain ⟨start, negative, whole, behind, rfl, starts', isWhole, many, ends⟩ := long
  exact ⟨before ++ start, negative, whole, behind, by rw [List.append_assoc],
    starts.append starts', isWhole, many, ends⟩

theorem behind_mark {s t : Text} (ends : EndsStrings s) (c : CodePoint) (isMark : IsMark c)
    (long : HasLongInteger t) : HasLongInteger (s ++ c :: t) := by
  have found := long.behind (startsToken_mark ends c isMark)
  rwa [List.append_assoc, List.singleton_append] at found

theorem behind_blanks {t : Text} (long : HasLongInteger (skipBlanks t)) : HasLongInteger t := by
  obtain ⟨blanks, isBlank, eq⟩ := eq_blanks_append t
  rw [eq]
  exact long.behind (startsToken_blanks isBlank)

end HasLongInteger

theorem not_hasLongInteger (t : Text) (few : t.length ≤ Numeral.digitLimit) :
    ¬HasLongInteger t := by
  rintro ⟨before, negative, whole, behind, rfl, -, -, many, -⟩
  simp only [List.length_append] at few
  omega

/-! ## Where the reader meets one -/

private theorem readUnicodeEscape_stop (mark t : Text) (n : Nat) :
    readUnicodeEscape mark t ≠ .error (.integerTooLong n) := by
  intro failed
  unfold readUnicodeEscape at failed
  repeat' split at failed
  all_goals simp at failed

private theorem readString_stop (opening : Text) (fuel : Nat) (t : Text) (n : Nat) :
    readString opening fuel t ≠ .error (.integerTooLong n) := by
  induction fuel generalizing t with
  | zero => simp [readString]
  | succ fuel ih =>
    intro failed
    cases t with
    | nil => simp [readString] at failed
    | cons c t =>
      simp only [readString] at failed
      split at failed
      next => cases failed
      next =>
        split at failed
        next =>
          split at failed
          next => cases failed
          next letter t =>
            split at failed
            next =>
              rcases (bind_error_iff _ _ _).mp failed with unit | ⟨⟨point, tail⟩, -, failed⟩
              · exact readUnicodeEscape_stop _ t n unit
              rcases (bind_error_iff _ _ _).mp failed with more | ⟨⟨s, rest⟩, -, failed⟩
              · exact ih tail more
              · cases failed
            next =>
              split at failed
              next =>
                rcases (bind_error_iff _ _ _).mp failed with more | ⟨⟨s, rest⟩, -, failed⟩
                · exact ih t more
                · cases failed
              next => cases failed
        next =>
          split at failed
          next => cases failed
          next =>
            rcases (bind_error_iff _ _ _).mp failed with more | ⟨⟨s, rest⟩, -, failed⟩
            · exact ih t more
            · cases failed

-- A whole part of several digits takes all of them
private theorem takeWhole_rest (t whole rest : Text) (taken : takeWhole t = some (whole, rest))
    (several : 1 < whole.length) : ∀ c ∈ rest.head?, c.isDigit = false := by
  unfold takeWhole at taken
  split at taken
  next =>
    obtain ⟨rfl, -⟩ := Prod.mk.inj (Option.some.inj taken)
    simp at several
  next =>
    split at taken
    next => cases taken
    next =>
      obtain ⟨-, rfl⟩ := Prod.mk.inj (Option.some.inj taken)
      intro c head
      have stops := List.head?_dropWhile_not CodePoint.isDigit t
      rw [head] at stops
      exact stops

-- Digits that stop before another one, where no fraction and no exponent follows
private theorem endsInteger_rest (t : Text) (noDigit : ∀ c ∈ t.head?, c.isDigit = false)
    (noFraction : takeFraction t = none) (noExponent : takeExponent t = none) : EndsInteger t := by
  refine ⟨noDigit, ?_, ?_⟩
  · rintro part digits rest rfl isFraction
    cases isFraction with
    | present are =>
      obtain ⟨first, others, rfl⟩ := List.exists_cons_of_ne_nil are.nonempty
      have digit := are.all first List.mem_cons_self
      simp [takeFraction, digit] at noFraction
  · rintro part power rest rfl isExponent
    cases isExponent with
    | @present mark sign digits below isMark isSign are =>
      obtain ⟨first, others, rfl⟩ := List.exists_cons_of_ne_nil are.nonempty
      have digit := are.all first List.mem_cons_self
      have signed := takeSign_complete sign (first :: others ++ rest) below isSign fun c head => by
        obtain rfl := Option.some.inj head
        exact digit
      simp only [takeExponent, List.cons_append, List.append_assoc, if_pos isMark] at noExponent
      simp only [List.cons_append] at signed
      simp [signed, digit] at noExponent

private theorem readNumber_long (start : Text) (negative : Bool) (t : Text) (n : Nat)
    (failed : readNumber start negative t = .error (.integerTooLong n)) :
    HasLongInteger (signText negative ++ t) := by
  unfold readNumber at failed
  split at failed
  next => cases failed
  next whole rest taken =>
    obtain ⟨rfl, isWhole⟩ := takeWhole_sound t whole rest taken
    split at failed
    next noFraction noExponent =>
      split at failed
      next many =>
        rw [noFraction] at noExponent
        refine ⟨[], negative, whole, rest, rfl, startsToken_nil, isWhole, many, ?_⟩
        have several : 1 < whole.length := Nat.lt_trans (by decide) many
        exact endsInteger_rest rest (takeWhole_rest _ whole rest taken several) noFraction
          noExponent
      next => cases failed
    next => cases failed

private theorem readScalar_long (t : Text) (n : Nat)
    (failed : readScalar t = .error (.integerTooLong n)) : HasLongInteger t := by
  unfold readScalar at failed
  split at failed
  next => cases failed
  next =>
    split at failed
    next rest _ => exact readNumber_long _ true rest n failed
    next => exact readNumber_long t false t n failed

/-- A text at which one of the three readers with some fuel stops for an integer has it. -/
structure MeetsLong (fuel : Nat) : Prop where
  value : ∀ t n, readValue fuel t = .error (.integerTooLong n) → HasLongInteger t
  items : ∀ t n, readItems fuel t = .error (.integerTooLong n) → HasLongInteger t
  members : ∀ t n, readMembers fuel t = .error (.integerTooLong n) → HasLongInteger t

section
variable (fuel : Nat) (inner : MeetsLong fuel)
include inner

private theorem readValue_long (t : Text) (n : Nat)
    (failed : readValue (fuel + 1) t = .error (.integerTooLong n)) : HasLongInteger t := by
  have nothing : EndsStrings [] := startsToken_nil.strings
  cases t with
  | nil => cases failed
  | cons c t =>
    simp only [readValue] at failed
    split at failed
    next =>
      rcases (bind_error_iff _ _ _).mp failed with string | ⟨⟨s, rest⟩, -, failed⟩
      · exact absurd string (readString_stop _ _ t n)
      · cases failed
    next =>
      split at failed
      next bracket =>
        split at failed
        next => cases failed
        next =>
          rcases (bind_error_iff _ _ _).mp failed with inside | ⟨⟨documents, rest⟩, -, failed⟩
          · exact (inner.items _ n inside).behind_blanks.behind_mark nothing c (.inl bracket)
          · cases failed
      next =>
        split at failed
        next brace =>
          split at failed
          next => cases failed
          next =>
            rcases (bind_error_iff _ _ _).mp failed with inside | ⟨⟨members, rest⟩, -, failed⟩
            · exact (inner.members _ n inside).behind_blanks.behind_mark nothing c
                (.inr (.inl brace))
            · cases failed
        next => exact readScalar_long (c :: t) n failed

omit inner in
-- What stands before a mark behind a value ends its strings
private theorem value_endsStrings (t tail behind : Text) (document : Json) (c : CodePoint)
    (read : readValue fuel t = .ok (document, tail)) (found : skipBlanks tail = c :: behind) :
    ∃ before, t = before ++ c :: behind ∧ EndsStrings before := by
  obtain ⟨taken, rfl, value⟩ := (readsSound fuel).value t document tail read
  obtain ⟨blanks, isBlank, eq⟩ := eq_blanks_append tail
  refine ⟨taken ++ blanks, ?_, endsStrings_append value.endsStrings (endsStrings_blanks isBlank)⟩
  rw [List.append_assoc, ← found, ← eq]

private theorem readItems_long (t : Text) (n : Nat)
    (failed : readItems (fuel + 1) t = .error (.integerTooLong n)) : HasLongInteger t := by
  simp only [readItems] at failed
  rcases (bind_error_iff _ _ _).mp failed with first | ⟨⟨document, tail⟩, read, failed⟩
  · exact inner.value t n first
  dsimp only at failed
  split at failed
  next => cases failed
  next behind comma =>
    rcases (bind_error_iff _ _ _).mp failed with more | ⟨⟨others, rest⟩, -, failed⟩
    · obtain ⟨before, rfl, ends⟩ := value_endsStrings fuel t tail behind document _ read comma
      exact (inner.items _ n more).behind_blanks.behind_mark ends _ (.inr (.inr (.inl rfl)))
    · cases failed
  next => cases failed

private theorem readMembers_long (t : Text) (n : Nat)
    (failed : readMembers (fuel + 1) t = .error (.integerTooLong n)) : HasLongInteger t := by
  unfold readMembers at failed
  split at failed
  next fuel' t fuelEq =>
    obtain rfl := Nat.succ.inj fuelEq
    rcases (bind_error_iff _ _ _).mp failed with string | ⟨⟨name, tail⟩, string, inside⟩
    · exact absurd string (readString_stop _ _ t n)
    obtain ⟨body, rfl, spells⟩ := readString_sound _ _ t name tail string
    obtain ⟨blanks, isBlank, eq⟩ := eq_blanks_append tail
    dsimp only at inside
    split at inside
    next behind colon =>
      have ends := endsStrings_append (endsStrings_string spells) (endsStrings_blanks isBlank)
      have shape : (0x22 : CodePoint) :: (body ++ .quote :: tail) =
          .quote :: (body ++ [.quote]) ++ blanks ++ 0x3a :: behind := by
        rw [eq, colon]
        simp only [List.append_assoc, List.cons_append, List.nil_append]
        rfl
      rw [shape]
      -- The integer is in the value or in a member behind it
      have inValue : HasLongInteger (skipBlanks behind) := by
        rcases (bind_error_iff _ _ _).mp inside with value | ⟨⟨document, tail'⟩, value, inside⟩
        · exact inner.value _ n value
        dsimp only at inside
        split at inside
        next => cases inside
        next behind' comma =>
          rcases (bind_error_iff _ _ _).mp inside with more | ⟨⟨others, rest⟩, -, inside⟩
          · obtain ⟨before, shape', ends'⟩ :=
              value_endsStrings fuel _ tail' behind' document _ value comma
            rw [shape']
            exact (inner.members _ n more).behind_blanks.behind_mark ends' _
              (.inr (.inr (.inl rfl)))
          · cases inside
        next => cases inside
      exact inValue.behind_blanks.behind_mark ends _ (.inr (.inr (.inr rfl)))
    next => cases inside
  next => cases failed

end

/-- Where the readers stop for an integer there is one. -/
theorem meetsLong (fuel : Nat) : MeetsLong fuel := by
  induction fuel with
  | zero =>
    refine ⟨?_, ?_, ?_⟩
    · intro t n failed
      cases failed
    · intro t n failed
      cases failed
    · intro t n failed
      simp [readMembers] at failed
  | succ fuel ih =>
    exact ⟨readValue_long fuel ih, readItems_long fuel ih, readMembers_long fuel ih⟩

/-- A text is refused where it does not fit, or for an integer that it has. -/
theorem readDecoded_error (t : Text) (fault : ReadFault) (failed : readDecoded t = .error fault) :
    (∃ cause, fault = .malformed cause) ∨
      ∃ digits, fault = .integerTooLong digits ∧ HasLongInteger t := by
  unfold readDecoded at failed
  split at failed
  next => cases failed
  next stop stopped =>
    obtain rfl := Except.error.inj failed
    cases stop with
    | problem cause rest => exact .inl ⟨_, rfl⟩
    | integerTooLong digits =>
      refine .inr ⟨digits, rfl, ?_⟩
      rcases (bind_error_iff _ _ _).mp stopped with value | ⟨⟨document, rest⟩, -, ends⟩
      · exact ((meetsLong _).value _ digits value).behind_blanks
      · dsimp only at ends
        split at ends <;> cases ends

theorem read_error (t : Text) (fault : ReadFault) (failed : read t = .error fault) :
    (∃ cause, fault = .malformed cause) ∨
      ∃ digits, fault = .integerTooLong digits ∧ HasLongInteger t := by
  unfold Json.read at failed
  split at failed
  next => exact .inl ⟨_, (Except.error.inj failed).symm⟩
  next => exact readDecoded_error t fault failed

/-! ## Documents without a limit -/

/-- What the reader takes is a document without a limit to integers. -/
theorem Denotes.unlimited {t : Text} {phrase : Phrase} (denotes : Denotes .ofReader t phrase) :
    Denotes .unlimited t phrase := by
  induction denotes with
  | word known => exact .word known
  | number negative isNumber =>
    refine .number negative ?_
    cases isNumber with
    | integer isWhole _ => exact .integer isWhole (by simp [Grammar.unlimited])
    | double isWhole isFraction isExponent parts =>
      exact .double isWhole isFraction isExponent parts
  | string spells => exact .string spells
  | emptyArray isBlank => exact .emptyArray isBlank
  | array _ ih => exact .array ih
  | emptyObject isBlank => exact .emptyObject isBlank
  | object _ ih => exact .object ih
  | element isBlank _ isBlank' ih => exact .element isBlank ih isBlank'
  | lastItem _ ih => exact .lastItem ih
  | item _ _ ih ih' => exact .item ih ih'
  | member isBlank spells isBlank' _ ih => exact .member isBlank spells isBlank' ih
  | lastMember _ ih => exact .lastMember ih
  | nextMember _ _ ih ih' => exact .nextMember ih ih'

-- What ends a number ends an integer
private theorem EndsNumber.endsInteger {t : Text} (ends : EndsNumber t) : EndsInteger t := by
  refine ⟨ends.noDigit, ?_, ?_⟩
  · rintro part digits rest rfl isFraction
    cases isFraction with
    | present => exact ends.noPoint _ rfl rfl
  · rintro part power rest rfl isExponent
    cases isExponent with
    | present isMark =>
      obtain ⟨-, -, lower, upper⟩ := ends _ rfl
      exact isMark.elim lower upper

/-- A phrase without a limit is one of the reader's, or it has an integer that is too long wherever
no number goes on behind it. -/
theorem Denotes.limited {t : Text} {phrase : Phrase} (denotes : Denotes .unlimited t phrase) :
    Denotes .ofReader t phrase ∨ ∀ rest, EndsNumber rest → HasLongInteger (t ++ rest) := by
  have nothing : EndsStrings [] := startsToken_nil.strings
  induction denotes with
  | word known => exact .inl (.word known)
  | @number negative t document isNumber =>
    cases isNumber with
    | integer isWhole _ =>
      by_cases short : t.length ≤ Numeral.digitLimit
      · left
        refine .number negative (.integer isWhole fun limit isLimit => ?_)
        obtain rfl := Option.some.inj isLimit
        exact short
      · right
        intro rest ends
        exact ⟨[], negative, t, rest, List.append_assoc .., startsToken_nil, isWhole,
          Nat.lt_of_not_le short, ends.endsInteger⟩
    | double isWhole isFraction isExponent parts =>
      exact .inl (.number negative (.double isWhole isFraction isExponent parts))
  | string spells => exact .inl (.string spells)
  | emptyArray isBlank => exact .inl (.emptyArray isBlank)
  | array _ ih =>
    refine ih.imp .array fun long rest _ => ?_
    have inside := long (0x5d :: rest) (endsNumber_cons _ _ (by decide))
    simpa using inside.behind_mark nothing _ (.inl rfl)
  | emptyObject isBlank => exact .inl (.emptyObject isBlank)
  | object _ ih =>
    refine ih.imp .object fun long rest _ => ?_
    have inside := long (0x7d :: rest) (endsNumber_cons _ _ (by decide))
    simpa using inside.behind_mark nothing _ (.inr (.inl rfl))
  | element isBlank _ isBlank' ih =>
    refine ih.imp (.element isBlank · isBlank') fun long rest ends => ?_
    have inside := long _ (endsNumber_blanks _ rest isBlank' ends)
    simpa using inside.behind (startsToken_blanks isBlank)
  | lastItem _ ih => exact ih.imp .lastItem id
  | @item t others document documents element _ ih ih' =>
    rcases ih with first | long
    · refine ih'.imp (.item first) fun long rest ends => ?_
      simpa using (long rest ends).behind_mark first.endsStrings _ (.inr (.inr (.inl rfl)))
    · right
      intro rest _
      simpa using long (0x2c :: (others ++ rest)) (endsNumber_cons _ _ (by decide))
  | @member before t behind others name document isBlank spells isBlank' _ ih =>
    refine ih.imp (.member isBlank spells isBlank') fun long rest ends => ?_
    have start : EndsStrings (before ++ (.quote :: (t ++ [.quote])) ++ behind) :=
      endsStrings_append
        (endsStrings_append (endsStrings_blanks isBlank) (endsStrings_string spells))
        (endsStrings_blanks isBlank')
    simpa using (long rest ends).behind_mark start _ (.inr (.inr (.inr rfl)))
  | lastMember _ ih => exact ih.imp .lastMember id
  | @nextMember t others name document members member _ ih ih' =>
    rcases ih with first | long
    · refine ih'.imp (.nextMember first) fun long rest ends => ?_
      simpa using (long rest ends).behind_mark first.endsStrings _ (.inr (.inr (.inl rfl)))
    · right
      intro rest _
      simpa using long (0x2c :: (others ++ rest)) (endsNumber_cons _ _ (by decide))

/-- A text without such an integer is read if it is a document, and what it denotes is given; if it
is none, the reader says where it does not fit. -/
theorem read_of_short (t : Text) (short : ¬HasLongInteger t) :
    (∀ document, IsDocument .unlimited t document → read t = .ok document) ∧
      ((∀ document, ¬IsDocument .unlimited t document) →
        ∃ cause, read t = .error (.malformed cause)) := by
  constructor
  · intro document isDocument
    rcases Denotes.limited isDocument with limited | long
    · exact read_of_isDocument t document limited
    · have found := long [] (by simp [EndsNumber])
      rw [List.append_nil] at found
      exact absurd found short
  · intro none
    cases outcome : read t with
    | ok document => exact absurd (isDocument_of_read t document outcome).unlimited (none document)
    | error fault =>
      rcases read_error t fault outcome with ⟨cause, rfl⟩ | ⟨digits, -, long⟩
      · exact ⟨cause, rfl⟩
      · exact absurd long short

end Tenancy.Json
