import Tenancy.Proofs.Json.Soundness
import Tenancy.Proofs.Text.Surrogate

/-!
# Every document is read

The converse of soundness: the reader takes the text of a phrase from in front of any rest, provided
that the rest cannot go on with a number. A derivation may have taken blanks that the reader has not
looked at yet, so what is said of an element is where the reader stands behind the next blanks.
-/
namespace Tenancy.Json

/-- Whether nothing at the start of a text goes on with a number. -/
def EndsNumber (t : Text) : Prop :=
  ∀ c ∈ t.head?, c.isDigit = false ∧ c ≠ 0x2e ∧ c ≠ CodePoint.ofChar 'e' ∧ c ≠ CodePoint.ofChar 'E'

/-! ## Strings -/

private theorem readString_plain (opening : Text) (fuel : Nat) (c : CodePoint) (tail t rest : Text)
    (printable : 0x20 ≤ c.val) (notQuote : c ≠ .quote) (notEscape : c ≠ .backslash)
    (read : readString opening fuel tail = .ok (t, rest)) :
    readString opening (fuel + 1) (c :: tail) = .ok (c :: t, rest) := by
  simp only [readString, if_neg notQuote, if_neg notEscape, if_neg (Nat.not_lt.mpr printable), read]
  rfl

private theorem escapes_apart : ∀ entry ∈ escapes, entry.1 ≠ CodePoint.ofChar 'u' :=
  forall_escapes _ (by decide)

private theorem readString_letter (opening : Text) (fuel : Nat) (letter c : CodePoint)
    (tail t rest : Text) (denoted : (letter, c) ∈ escapes)
    (read : readString opening fuel tail = .ok (t, rest)) :
    readString opening (fuel + 1) (.backslash :: letter :: tail) = .ok (c :: t, rest) := by
  have mark : ¬CodePoint.backslash = .quote := by decide
  simp only [readString, if_neg mark, if_true, if_neg (escapes_apart _ denoted),
    (escaped?_eq_some_iff letter c).mpr denoted, read]
  rfl

-- Whether a text starts with no escape of a unit, or with that of a unit that is no low surrogate
private def NoLowEscape (t : Text) : Prop :=
  (∀ rest, t ≠ 0x5c :: 0x75 :: rest) ∨
    ∃ a b c d rest unit, t = 0x5c :: 0x75 :: a :: b :: c :: d :: rest ∧
      unit? a b c d = some unit ∧ ¬unit.isLowSurrogate = true

private theorem spells_noLowEscape (t s rest : Text) (spells : Spells t s) (apart : ¬EscapesLow t) :
    NoLowEscape (t ++ .quote :: rest) := by
  cases spells with
  | nil => exact .inl fun _ eq => absurd (List.cons.inj eq).1 (by decide)
  | plain _ _ notEscape => exact .inl fun _ eq => absurd (List.cons.inj eq).1 notEscape
  | letter denoted =>
    exact .inl fun _ eq => escapes_apart _ denoted (List.cons.inj (List.cons.inj eq).2).1
  | unit denoted =>
    exact .inr ⟨_, _, _, _, _, _, rfl, denoted, fun isLow =>
      apart ⟨_, _, _, _, _, _, rfl, denoted, isLow⟩⟩
  | pair denoted isHigh =>
    exact .inr ⟨_, _, _, _, _, _, rfl, denoted, CodePoint.not_isLowSurrogate_of_high _ isHigh⟩

-- The escape of a unit that is not joined to what follows it
private theorem readUnicodeEscape_single (mark : Text) (a b c d next : CodePoint) (rest : Text)
    (unit : CodePoint) (denoted : unit? a b c d = some unit)
    (apart : unit.isHighSurrogate = true → NoLowEscape (next :: rest)) :
    readUnicodeEscape mark (a :: b :: c :: d :: next :: rest) = .ok (unit, next :: rest) := by
  simp only [readUnicodeEscape, denoted]
  split
  next high =>
    split
    next eq =>
      rcases apart high with other | ⟨a', b', c', d', rest', unit', same, denoted', notLow⟩
      · exact absurd eq (other _)
      · rw [eq] at same
        simp only [List.cons.injEq, true_and] at same
        obtain ⟨rfl, rfl, rfl, rfl, -⟩ := same
        simp only [denoted', notLow]
        rfl
    next => rfl
  next => rfl

private theorem readString_unicode (opening : Text) (fuel : Nat) (point : CodePoint)
    (tail behind t rest : Text)
    (unit : readUnicodeEscape (0x75 :: tail) tail = .ok (point, behind))
    (read : readString opening fuel behind = .ok (t, rest)) :
    readString opening (fuel + 1) (.backslash :: 0x75 :: tail) = .ok (point :: t, rest) := by
  have mark : ¬CodePoint.backslash = .quote := by decide
  have letter : (0x75 : CodePoint) = CodePoint.ofChar 'u' := rfl
  simp only [readString, if_neg mark, if_true, if_pos letter, unit]
  exact congrArg (· >>= fun behind => Except.ok (point :: behind.1, behind.2)) read

-- An escape is read only if something stands behind it, and the quotation mark does at least
private theorem append_quote_eq_cons (t rest : Text) :
    ∃ next more, t ++ .quote :: rest = next :: more := by
  cases t with
  | nil => exact ⟨_, _, rfl⟩
  | cons next more => exact ⟨_, _, rfl⟩

/-- What a text spells is read from in front of a quotation mark. -/
theorem readString_spells (opening t s rest : Text) (spells : Spells t s) (fuel : Nat)
    (enough : t.length < fuel) :
    readString opening fuel (t ++ .quote :: rest) = .ok (s, rest) := by
  induction spells generalizing fuel with
  | nil =>
    obtain ⟨fuel, rfl⟩ := Nat.exists_eq_succ_of_ne_zero (Nat.ne_of_gt enough)
    simp [readString]
  | plain printable notQuote notEscape _ ih =>
    obtain ⟨fuel, rfl⟩ := Nat.exists_eq_succ_of_ne_zero (Nat.ne_of_gt (Nat.zero_lt_of_lt enough))
    rw [List.length_cons] at enough
    exact readString_plain opening fuel _ _ _ rest printable notQuote notEscape
      (ih fuel (by omega))
  | letter denoted _ ih =>
    obtain ⟨fuel, rfl⟩ := Nat.exists_eq_succ_of_ne_zero (Nat.ne_of_gt (Nat.zero_lt_of_lt enough))
    simp only [List.length_cons] at enough
    exact readString_letter opening fuel _ _ _ _ rest denoted (ih fuel (by omega))
  | @unit a b c d _ t s denoted apart more ih =>
    obtain ⟨fuel, rfl⟩ := Nat.exists_eq_succ_of_ne_zero (Nat.ne_of_gt (Nat.zero_lt_of_lt enough))
    simp only [List.length_cons] at enough
    have behind := ih fuel (by omega)
    have alone := fun isHigh => spells_noLowEscape t s rest more (apart isHigh)
    obtain ⟨next, tail, eq⟩ := append_quote_eq_cons t rest
    refine readString_unicode opening fuel _ (a :: b :: c :: d :: (t ++ .quote :: rest)) _ s rest ?_
      behind
    rw [eq] at alone ⊢
    exact readUnicodeEscape_single _ a b c d next tail _ denoted alone
  | @pair a b c d a' b' c' d' high low t s denoted isHigh denoted' isLow _ ih =>
    obtain ⟨fuel, rfl⟩ := Nat.exists_eq_succ_of_ne_zero (Nat.ne_of_gt (Nat.zero_lt_of_lt enough))
    simp only [List.length_cons] at enough
    have behind := ih fuel (by omega)
    obtain ⟨next, tail, eq⟩ := append_quote_eq_cons t rest
    refine readString_unicode opening fuel _ (a :: b :: c :: d :: 0x5c :: 0x75 :: a' :: b' :: c'
      :: d' :: (t ++ .quote :: rest)) _ s rest ?_ behind
    simp only [eq, readUnicodeEscape, denoted, denoted', isHigh, isLow, if_true]

/-! ## Numbers -/

theorem EndsNumber.noDigit {rest : Text} (ends : EndsNumber rest) :
    ∀ c ∈ rest.head?, c.isDigit = false := fun c member => (ends c member).1

theorem EndsNumber.noPoint {rest : Text} (ends : EndsNumber rest) :
    ∀ c ∈ rest.head?, c ≠ 0x2e := fun c member => (ends c member).2.1

private theorem takeWhile_digits (digits rest : Text) (all : ∀ c ∈ digits, c.isDigit = true)
    (ends : ∀ c ∈ rest.head?, c.isDigit = false) :
    (digits ++ rest).takeWhile CodePoint.isDigit = digits ∧
      (digits ++ rest).dropWhile CodePoint.isDigit = rest := by
  have none : rest.takeWhile CodePoint.isDigit = [] ∧ rest.dropWhile CodePoint.isDigit = rest := by
    cases rest with
    | nil => exact ⟨rfl, rfl⟩
    | cons c rest =>
      have not := ends c rfl
      simp [not]
  constructor
  · rw [List.takeWhile_append_of_pos all, none.1, List.append_nil]
  · rw [List.dropWhile_append_of_pos all, none.2]

private theorem takeWhole_complete (whole rest : Text) (isWhole : IsWhole whole)
    (ends : ∀ c ∈ rest.head?, c.isDigit = false) :
    takeWhole (whole ++ rest) = some (whole, rest) := by
  obtain ⟨taken, dropped⟩ := takeWhile_digits whole rest isWhole.all ends
  obtain ⟨first, others, rfl⟩ := List.exists_cons_of_ne_nil isWhole.nonempty
  unfold takeWhole
  split
  next eq =>
    obtain ⟨rfl, rfl⟩ := List.cons.inj eq
    obtain ⟨-, rfl⟩ := List.cons.inj (isWhole.start rfl)
    rfl
  next => rw [taken, dropped]

private theorem takeFraction_complete (fraction rest : Text) (digits : Option Text)
    (isFraction : IsFraction fraction digits)
    (ends : ∀ c ∈ rest.head?, c.isDigit = false ∧ c ≠ 0x2e) :
    takeFraction (fraction ++ rest) = digits.map fun digits => (digits, rest) := by
  cases isFraction with
  | absent =>
    unfold takeFraction
    split
    next eq => exact absurd rfl (ends 0x2e (by rw [← List.nil_append rest, eq]; rfl)).2
    next => rfl
  | present are =>
    obtain ⟨taken, dropped⟩ := takeWhile_digits _ rest are.all fun c head => (ends c head).1
    obtain ⟨first, others, rfl⟩ := List.exists_cons_of_ne_nil are.nonempty
    simp only [List.cons_append] at taken dropped
    simp only [takeFraction, List.cons_append, taken, dropped, Option.map_some]

theorem takeSign_complete (sign t : Text) (below : Bool)
    (isSign : (sign, below) ∈ exponentSigns) (start : ∀ c ∈ t.head?, c.isDigit = true) :
    Numeral.takeSign (sign ++ t) = (below, t) := by
  simp only [exponentSigns, List.mem_cons, List.not_mem_nil, or_false, Prod.mk.injEq] at isSign
  rcases isSign with ⟨rfl, rfl⟩ | ⟨rfl, rfl⟩ | ⟨rfl, rfl⟩
  · -- Digits do not start with a sign
    rw [List.nil_append]
    unfold Numeral.takeSign
    split
    next => exact absurd (start _ rfl) (by decide)
    next => exact absurd (start _ rfl) (by decide)
    next => rfl
  · rfl
  · rfl

private theorem takeExponent_complete (exponent rest : Text) (power : Option Int)
    (isExponent : IsExponent exponent power) (ends : EndsNumber rest) :
    takeExponent (exponent ++ rest) = power.map fun power => (power, rest) := by
  cases isExponent with
  | absent =>
    rw [List.nil_append]
    unfold takeExponent
    split
    next mark _ =>
      obtain ⟨-, -, lower, upper⟩ := ends mark rfl
      simp [lower, upper]
    next => rfl
  | @present mark sign digits below isMark isSign are =>
    obtain ⟨taken, dropped⟩ := takeWhile_digits digits rest are.all ends.noDigit
    obtain ⟨first, others, rfl⟩ := List.exists_cons_of_ne_nil are.nonempty
    have signed := takeSign_complete sign (first :: others ++ rest) below isSign fun c head => by
      obtain rfl := Option.some.inj head
      exact are.all _ List.mem_cons_self
    simp only [takeExponent, List.cons_append, List.append_assoc, if_pos isMark]
    simp only [List.cons_append] at signed taken dropped
    simp only [signed, taken, dropped, Option.map_some]

private theorem exponent_head (exponent rest : Text) (power : Option Int)
    (isExponent : IsExponent exponent power) (ends : EndsNumber rest) :
    ∀ c ∈ (exponent ++ rest).head?, c.isDigit = false ∧ c ≠ 0x2e := by
  cases isExponent with
  | absent => exact fun c head => ⟨ends.noDigit c head, ends.noPoint c head⟩
  | present isMark =>
    intro c head
    obtain rfl := Option.some.inj head
    rcases isMark with rfl | rfl <;> decide

private theorem fraction_head (fraction rest : Text) (digits : Option Text)
    (isFraction : IsFraction fraction digits) (ends : ∀ c ∈ rest.head?, c.isDigit = false) :
    ∀ c ∈ (fraction ++ rest).head?, c.isDigit = false := by
  cases isFraction with
  | absent => exact ends
  | present =>
    intro c head
    obtain rfl := Option.some.inj head
    decide

private theorem readNumber_complete (start : Text) (negative : Bool) (t rest : Text)
    (document : Json) (isNumber : IsNumber .ofReader negative t document)
    (ends : EndsNumber rest) : readNumber start negative (t ++ rest) = .ok (document, rest) := by
  have noExponent := takeExponent_complete [] rest none .absent ends
  have noFraction := takeFraction_complete [] rest none .absent fun c head =>
    ⟨ends.noDigit c head, ends.noPoint c head⟩
  cases isNumber with
  | integer isWhole short =>
    rw [List.nil_append] at noExponent noFraction
    have few : ¬Numeral.digitLimit < t.length := Nat.not_lt.mpr (short _ rfl)
    simp only [readNumber, takeWhole_complete t rest isWhole ends.noDigit, noFraction,
      Option.map_none, Option.elim_none, noExponent, few, if_false]
  | @double whole fraction exponent digits power isWhole isFraction isExponent parts =>
    have mark := takeExponent_complete exponent rest power isExponent ends
    have head := exponent_head exponent rest power isExponent ends
    have point := takeFraction_complete fraction (exponent ++ rest) digits isFraction head
    have first := takeWhole_complete whole (fraction ++ (exponent ++ rest)) isWhole
      (fraction_head fraction _ digits isFraction fun c member => (head c member).1)
    -- Behind the fraction stands the exponent, also where there is no fraction
    have behind : (digits.map fun digits => (digits, exponent ++ rest)).elim
        (fraction ++ (exponent ++ rest)) (·.2) = exponent ++ rest := by
      cases isFraction <;> rfl
    simp only [readNumber, List.append_assoc, first, point, behind, mark]
    cases isExponent with
    | present => cases digits <;> rfl
    | absent =>
      cases digits with
      | some => rfl
      | none => exact absurd parts (by simp)

/-! ## Scalars -/

-- Whether a code point starts neither a string nor an array nor an object, and ends no array; a
-- scalar starts with nothing else
private def StartsScalar (c : CodePoint) : Prop :=
  c.isJsonBlank = false ∧ c ≠ .quote ∧ c ≠ CodePoint.ofChar '[' ∧ c ≠ CodePoint.ofChar '\x7b' ∧
    c ≠ 0x5d ∧ c ≠ 0xfeff

private instance : DecidablePred StartsScalar := fun _ => instDecidableAnd

private theorem digit_startsScalar (c : CodePoint) (digit : c.isDigit = true) : StartsScalar c := by
  constructor
  · simp only [CodePoint.isDigit, Bool.and_eq_true, decide_eq_true_eq] at digit
    simp only [CodePoint.isJsonBlank, Bool.or_eq_false_iff, beq_eq_false_iff_ne]
    omega
  · refine ⟨?_, ?_, ?_, ?_, ?_⟩ <;>
      · rintro rfl
        exact absurd digit (by decide)

private theorem word_startsScalar (word : Text) (document : Json)
    (known : (word, document) ∈ words) : ∃ c rest, word = c :: rest ∧ StartsScalar c := by
  simp only [words, List.mem_cons, List.not_mem_nil, or_false, Prod.mk.injEq] at known
  rcases known with ⟨rfl, -⟩ | ⟨rfl, -⟩ | ⟨rfl, -⟩ | ⟨rfl, -⟩ | ⟨rfl, -⟩ | ⟨rfl, -⟩
  · exact ⟨CodePoint.ofChar 'n', _, rfl, by decide⟩
  · exact ⟨CodePoint.ofChar 't', _, rfl, by decide⟩
  · exact ⟨CodePoint.ofChar 'f', _, rfl, by decide⟩
  · exact ⟨CodePoint.ofChar 'N', _, rfl, by decide⟩
  · exact ⟨CodePoint.ofChar 'I', _, rfl, by decide⟩
  · exact ⟨CodePoint.ofChar '-', _, rfl, by decide⟩

theorem IsNumber.start {grammar : Grammar} {negative : Bool} {t : Text} {document : Json}
    (isNumber : IsNumber grammar negative t document) :
    ∃ first rest, t = first :: rest ∧ first.isDigit = true := by
  have digits {whole : Text} (isWhole : IsWhole whole) :
      ∃ first rest, whole = first :: rest ∧ first.isDigit = true := by
    cases whole with
    | nil => exact absurd rfl isWhole.nonempty
    | cons first rest => exact ⟨first, rest, rfl, isWhole.all first List.mem_cons_self⟩
  cases isNumber with
  | integer isWhole => exact digits isWhole
  | double isWhole =>
    obtain ⟨first, rest, rfl, digit⟩ := digits isWhole
    exact ⟨first, _, rfl, digit⟩

private theorem number_startsScalar {grammar : Grammar} {negative : Bool} {t : Text}
    {document : Json} (isNumber : IsNumber grammar negative t document) :
    ∃ c rest, signText negative ++ t = c :: rest ∧ StartsScalar c := by
  cases negative with
  | true => exact ⟨_, t, rfl, by decide⟩
  | false =>
    obtain ⟨first, rest, rfl, digit⟩ := isNumber.start
    exact ⟨first, rest, rfl, digit_startsScalar first digit⟩

-- No word starts with a digit or with a sign before one
private theorem words_apart (negative : Bool) (first : CodePoint) (digit : first.isDigit = true)
    (t : Text) : (words.findSome? fun (word, value) =>
      (Text.after? word (signText negative ++ first :: t)).map fun rest => (value, rest)) =
        none := by
  have other (c : CodePoint) (letter : c.isDigit = false) : ¬c = first := by
    rintro rfl
    rw [digit] at letter
    cases letter
  have letters : CodePoint.isDigit (CodePoint.ofChar 'n') = false ∧
      CodePoint.isDigit (CodePoint.ofChar 't') = false ∧
      CodePoint.isDigit (CodePoint.ofChar 'f') = false ∧
      CodePoint.isDigit (CodePoint.ofChar 'N') = false ∧
      CodePoint.isDigit (CodePoint.ofChar 'I') = false ∧
      CodePoint.isDigit (CodePoint.ofChar '-') = false := by decide
  obtain ⟨n, t, f, big, infinity, minus⟩ := letters
  cases negative with
  | true =>
    have sign (c : Char) (not : CodePoint.ofChar c ≠ 0x2d) : ¬CodePoint.ofChar c = 0x2d := not
    simp [words, signText, Text.ofString, Text.after?, other _ infinity, sign 'n' (by decide),
      sign 't' (by decide), sign 'f' (by decide), sign 'N' (by decide), sign 'I' (by decide)]
  | false =>
    simp [words, signText, Text.ofString, Text.after?, other _ n, other _ t, other _ f, other _ big,
      other _ infinity, other _ minus]

private theorem readScalar_number (negative : Bool) (t rest : Text) (document : Json)
    (isNumber : IsNumber .ofReader negative t document) (ends : EndsNumber rest) :
    readScalar (signText negative ++ t ++ rest) = .ok (document, rest) := by
  have read := fun start => readNumber_complete start negative t rest document isNumber ends
  obtain ⟨first, others, rfl, digit⟩ := isNumber.start
  have noWord := words_apart negative first digit (others ++ rest)
  rw [List.append_assoc, List.cons_append]
  simp only [readScalar, noWord]
  cases negative with
  | true => exact read _
  | false =>
    split
    next eq =>
      obtain ⟨rfl, -⟩ := List.cons.inj eq
      exact absurd digit (by decide)
    next => exact read _

private theorem readScalar_word (word rest : Text) (document : Json)
    (known : (word, document) ∈ words) : readScalar (word ++ rest) = .ok (document, rest) := by
  simp only [words, List.mem_cons, List.not_mem_nil, or_false, Prod.mk.injEq] at known
  rcases known with ⟨rfl, rfl⟩ | ⟨rfl, rfl⟩ | ⟨rfl, rfl⟩ | ⟨rfl, rfl⟩ | ⟨rfl, rfl⟩ | ⟨rfl, rfl⟩ <;>
    rfl

private theorem readValue_scalar (fuel : Nat) (c : CodePoint) (t : Text) (starts : StartsScalar c) :
    readValue (fuel + 1) (c :: t) = readScalar (c :: t) := by
  obtain ⟨-, notQuote, notBracket, notBrace, -⟩ := starts
  rw [readValue, if_neg notQuote, if_neg notBracket, if_neg notBrace]

/-! ## Blanks -/

theorem skipBlanks_cons (c : CodePoint) (t : Text) (shown : c.isJsonBlank = false) :
    skipBlanks (c :: t) = c :: t := by
  rw [skipBlanks, List.dropWhile_cons_of_neg (by simp [shown])]

theorem skipBlanks_append (blanks t : Text) (isBlank : Blanks blanks) :
    skipBlanks (blanks ++ t) = skipBlanks t :=
  List.dropWhile_append_of_pos isBlank

theorem endsNumber_cons (c : CodePoint) (t : Text)
    (apart : c.isDigit = false ∧ c ≠ 0x2e ∧ c ≠ CodePoint.ofChar 'e' ∧ c ≠ CodePoint.ofChar 'E') :
    EndsNumber (c :: t) := by
  intro d head
  obtain rfl := Option.some.inj head
  exact apart

theorem endsNumber_blanks (blanks t : Text) (isBlank : Blanks blanks)
    (ends : EndsNumber t) :
    EndsNumber (blanks ++ t) := by
  cases blanks with
  | nil => exact ends
  | cons c blanks =>
    have blank := isBlank c List.mem_cons_self
    simp only [CodePoint.isJsonBlank, Bool.or_eq_true, beq_iff_eq] at blank
    refine endsNumber_cons c _ ⟨?_, ?_, ?_, ?_⟩
    · simp only [CodePoint.isDigit, Bool.and_eq_false_iff, decide_eq_false_iff_not]
      omega
    all_goals
      rintro rfl
      revert blank
      decide

/-! ## Phrases -/

/-- A value starts with no blank, with no bracket that ends an array and with no byte order mark. -/
theorem Denotes.start {t : Text} {document : Json} (value : Denotes .ofReader t (.value document)) :
    ∃ c rest, t = c :: rest ∧ c.isJsonBlank = false ∧ c ≠ 0x5d ∧ c ≠ 0xfeff := by
  have scalar {c : CodePoint} {rest : Text} (eq : t = c :: rest) (starts : StartsScalar c) :
      ∃ c rest, t = c :: rest ∧ c.isJsonBlank = false ∧ c ≠ 0x5d ∧ c ≠ 0xfeff :=
    let ⟨shown, _, _, _, apart⟩ := starts
    ⟨c, rest, eq, shown, apart⟩
  cases value with
  | word known =>
    obtain ⟨c, rest, eq, starts⟩ := word_startsScalar _ _ known
    exact scalar eq starts
  | number negative isNumber =>
    obtain ⟨c, rest, eq, starts⟩ := number_startsScalar isNumber
    exact scalar eq starts
  | string => exact ⟨_, _, rfl, by decide⟩
  | emptyArray => exact ⟨_, _, rfl, by decide⟩
  | array => exact ⟨_, _, rfl, by decide⟩
  | emptyObject => exact ⟨_, _, rfl, by decide⟩
  | object => exact ⟨_, _, rfl, by decide⟩

/-- What the reader of a phrase gives for its text in front of a rest, with fuel that is measured by
the text. -/
def IsRead (t : Text) : Phrase → Prop
  | .value document => ∀ fuel rest, 2 * t.length ≤ fuel → EndsNumber rest →
    readValue fuel (t ++ rest) = .ok (document, rest)
  | .element document => ∀ fuel rest, 2 * t.length ≤ fuel → EndsNumber rest →
    ∃ tail, readValue fuel (skipBlanks (t ++ rest)) = .ok (document, tail) ∧
      skipBlanks tail = skipBlanks rest
  | .items documents => ∀ fuel rest, 2 * t.length < fuel →
    readItems fuel (skipBlanks (t ++ 0x5d :: rest)) = .ok (documents, rest)
  | .member name document => ∀ fuel rest, 2 * t.length ≤ fuel → EndsNumber rest →
    ∃ body colon behind tail, skipBlanks (t ++ rest) = 0x22 :: body ∧
      readString (0x22 :: body) body.length.succ body = .ok (name, colon) ∧
      skipBlanks colon = 0x3a :: behind ∧
      readValue fuel (skipBlanks behind) = .ok (document, tail) ∧
      skipBlanks tail = skipBlanks rest
  | .members members => ∀ fuel rest, 2 * t.length < fuel →
    readMembers fuel (skipBlanks (t ++ 0x7d :: rest)) = .ok (members, rest)

-- A bracket right behind the first one would end the array, but no element starts with it
private theorem readValue_array (fuel : Nat) (t rest : Text) (documents : List Json)
    (inside : readItems fuel (skipBlanks t) = .ok (documents, rest)) :
    readValue (fuel + 1) (0x5b :: t) = .ok (.array documents, rest) := by
  rw [readValue, if_neg (by decide),
    if_pos (show (0x5b : CodePoint) = CodePoint.ofChar '[' from rfl)]
  split
  next eq =>
    rw [eq] at inside
    cases fuel with
    | zero => cases inside
    | succ fuel =>
      rw [readItems] at inside
      obtain ⟨⟨document, tail⟩, value, -⟩ := (bind_ok_iff _ _ _).mp inside
      obtain ⟨taken, same, denoted⟩ := (readsSound fuel).value _ document tail value
      obtain ⟨c, others, rfl, -, apart, -⟩ := denoted.start
      exact absurd (List.cons.inj same).1.symm apart
  next =>
    rw [inside]
    rfl

private theorem readValue_object (fuel : Nat) (t rest : Text) (members : List (Text × Json))
    (inside : readMembers fuel (skipBlanks t) = .ok (members, rest)) :
    readValue (fuel + 1) (0x7b :: t) = .ok (.object (collapse members), rest) := by
  rw [readValue, if_neg (by decide), if_neg (by decide),
    if_pos (show (0x7b : CodePoint) = CodePoint.ofChar '\x7b' from rfl)]
  split
  next eq =>
    rw [eq] at inside
    cases fuel <;> simp [readMembers] at inside
  next =>
    rw [inside]
    rfl

private theorem exists_succ (fuel n : Nat) (enough : n < fuel) : ∃ fuel', fuel = fuel' + 1 :=
  Nat.exists_eq_succ_of_ne_zero (Nat.ne_of_gt (Nat.zero_lt_of_lt enough))

/-- Every phrase is read. -/
theorem isRead_of_denotes (t : Text) (phrase : Phrase) (denotes : Denotes .ofReader t phrase) :
    IsRead t phrase := by
  -- Each rule is one step of its reader; the fuel pays for two steps a code point
  induction denotes with
  | @word t document known =>
    intro fuel rest enough _
    obtain ⟨c, others, eq, starts⟩ := word_startsScalar _ _ known
    have read := readScalar_word t rest document known
    obtain ⟨fuel, rfl⟩ := exists_succ fuel 0 (by rw [eq, List.length_cons] at enough; omega)
    rw [eq] at read ⊢
    exact (readValue_scalar fuel c _ starts).trans read
  | @number negative t document isNumber =>
    intro fuel rest enough ends
    obtain ⟨c, others, eq, starts⟩ := number_startsScalar isNumber
    have read := readScalar_number negative t rest document isNumber ends
    obtain ⟨fuel, rfl⟩ := exists_succ fuel 0 (by rw [eq, List.length_cons] at enough; omega)
    rw [eq] at read ⊢
    exact (readValue_scalar fuel c _ starts).trans read
  | @string t s spells =>
    intro fuel rest enough _
    simp only [List.length_cons, List.length_append] at enough
    obtain ⟨fuel, rfl⟩ := exists_succ fuel 0 (by omega)
    have read := readString_spells (.quote :: (t ++ .quote :: rest)) t s rest spells
      (t ++ .quote :: rest).length.succ (by rw [List.length_append]; omega)
    rw [List.cons_append, List.append_assoc, List.singleton_append, readValue, if_pos rfl, read]
    rfl
  | @emptyArray blanks isBlank =>
    intro fuel rest enough _
    simp only [List.length_cons] at enough
    obtain ⟨fuel, rfl⟩ := exists_succ fuel 0 (by omega)
    have closed : skipBlanks (blanks ++ 0x5d :: rest) = 0x5d :: rest := by
      rw [skipBlanks_append blanks _ isBlank]
      exact skipBlanks_cons _ _ rfl
    rw [List.cons_append, List.append_assoc, List.singleton_append, readValue, if_neg (by decide),
      if_pos (show (0x5b : CodePoint) = CodePoint.ofChar '[' from rfl), closed]
    rfl
  | @array t documents _ ih =>
    intro fuel rest enough _
    simp only [List.length_cons, List.length_append] at enough
    obtain ⟨fuel, rfl⟩ := exists_succ fuel 0 (by omega)
    rw [List.cons_append, List.append_assoc]
    exact readValue_array fuel _ rest documents (ih fuel rest (by omega))
  | @emptyObject blanks isBlank =>
    intro fuel rest enough _
    simp only [List.length_cons] at enough
    obtain ⟨fuel, rfl⟩ := exists_succ fuel 0 (by omega)
    have closed : skipBlanks (blanks ++ 0x7d :: rest) = 0x7d :: rest := by
      rw [skipBlanks_append blanks _ isBlank]
      exact skipBlanks_cons _ _ rfl
    rw [List.cons_append, List.append_assoc, List.singleton_append, readValue, if_neg (by decide),
      if_neg (by decide), if_pos (show (0x7b : CodePoint) = CodePoint.ofChar '\x7b' from rfl),
      closed]
    rfl
  | @object t members _ ih =>
    intro fuel rest enough _
    simp only [List.length_cons, List.length_append] at enough
    obtain ⟨fuel, rfl⟩ := exists_succ fuel 0 (by omega)
    rw [List.cons_append, List.append_assoc]
    exact readValue_object fuel _ rest members (ih fuel rest (by omega))
  | @element before t behind document isBlank value isBlank' ih =>
    intro fuel rest enough ends
    simp only [List.length_append] at enough
    refine ⟨behind ++ rest, ?_, skipBlanks_append behind rest isBlank'⟩
    obtain ⟨c, others, eq, shown, -⟩ := value.start
    have read := ih fuel (behind ++ rest) (by omega) (endsNumber_blanks behind rest isBlank' ends)
    rw [List.append_assoc, List.append_assoc, skipBlanks_append before _ isBlank]
    rw [eq] at read ⊢
    rw [List.cons_append, skipBlanks_cons c _ shown]
    exact read
  | @lastItem t document _ ih =>
    intro fuel rest enough
    obtain ⟨fuel, rfl⟩ := exists_succ fuel _ enough
    obtain ⟨tail, read, left⟩ := ih fuel (0x5d :: rest) (by omega) (endsNumber_cons _ _ (by decide))
    rw [skipBlanks_cons 0x5d rest rfl] at left
    simp only [readItems, read, left, bind, Except.bind]
  | @item t others document documents _ _ ih ih' =>
    intro fuel rest enough
    obtain ⟨fuel, rfl⟩ := exists_succ fuel _ enough
    simp only [List.length_append, List.length_cons] at enough
    obtain ⟨tail, read, left⟩ := ih fuel (0x2c :: (others ++ 0x5d :: rest)) (by omega)
      (endsNumber_cons _ _ (by decide))
    have more := ih' fuel rest (by omega)
    rw [skipBlanks_cons 0x2c _ rfl] at left
    rw [List.append_assoc, List.cons_append]
    simp only [readItems, read, left, more, bind, Except.bind]
  | @member before t behind others name document isBlank spells isBlank' _ ih =>
    intro fuel rest enough ends
    simp only [List.length_append, List.length_cons] at enough
    obtain ⟨tail, read, left⟩ := ih fuel rest (by omega) ends
    have colon : skipBlanks (behind ++ 0x3a :: (others ++ rest)) = 0x3a :: (others ++ rest) := by
      rw [skipBlanks_append behind _ isBlank']
      exact skipBlanks_cons _ _ rfl
    refine ⟨t ++ .quote :: (behind ++ 0x3a :: (others ++ rest)), _, _, tail, ?_,
      readString_spells _ t name _ spells _ (by rw [List.length_append]; omega), colon, read, left⟩
    rw [List.append_assoc, skipBlanks_append before _ isBlank]
    simp only [List.cons_append, List.append_assoc]
    exact skipBlanks_cons .quote _ rfl
  | @lastMember t name document _ ih =>
    intro fuel rest enough
    obtain ⟨fuel, rfl⟩ := exists_succ fuel _ enough
    obtain ⟨body, colon, behind, tail, eq, string, found, read, left⟩ :=
      ih fuel (0x7d :: rest) (by omega) (endsNumber_cons _ _ (by decide))
    rw [skipBlanks_cons 0x7d rest rfl] at left
    rw [eq]
    simp only [readMembers, string, found, read, left, bind, Except.bind]
  | @nextMember t others name document members _ _ ih ih' =>
    intro fuel rest enough
    obtain ⟨fuel, rfl⟩ := exists_succ fuel _ enough
    simp only [List.length_append, List.length_cons] at enough
    obtain ⟨body, colon, behind, tail, eq, string, found, read, left⟩ :=
      ih fuel (0x2c :: (others ++ 0x7d :: rest)) (by omega) (endsNumber_cons _ _ (by decide))
    have more := ih' fuel rest (by omega)
    rw [skipBlanks_cons 0x2c _ rfl] at left
    rw [List.append_assoc, List.cons_append, eq]
    simp only [readMembers, string, found, read, left, more, bind, Except.bind]

/-! ## Whole texts -/

/-- Every document is read, and gives what it denotes. -/
theorem read_of_isDocument (t : Text) (document : Json)
    (isDocument : IsDocument .ofReader t document) :
    read t = .ok document := by
  obtain ⟨tail, value, left⟩ :=
    isRead_of_denotes t _ isDocument (2 * t.length + 2) [] (by omega) (by simp [EndsNumber])
  rw [List.append_nil] at value
  have whole : readDocument t = .ok document := by
    have ends : skipBlanks tail = [] := left
    simp only [readDocument, value, ends, bind, Except.bind]
  -- A byte order mark is neither a blank nor the start of a value
  have noMark : ∀ rest, t ≠ 0xfeff :: rest := by
    rintro rest rfl
    generalize eq : (0xfeff : CodePoint) :: rest = t at isDocument
    cases isDocument with
    | @element before t behind _ isBlank inside =>
      cases before with
      | nil =>
        obtain ⟨c, others, rfl, -, -, apart⟩ := inside.start
        exact apart (List.cons.inj eq).1.symm
      | cons c before =>
        obtain rfl := (List.cons.inj eq).1
        exact absurd (isBlank _ List.mem_cons_self) (by decide)
  unfold Json.read
  split
  next => exact absurd rfl (noMark _)
  next => rw [readDecoded, whole]

/-- The reader takes the documents of its grammar and nothing else. -/
theorem read_iff (t : Text) (document : Json) :
    read t = .ok document ↔ IsDocument .ofReader t document :=
  ⟨isDocument_of_read t document, read_of_isDocument t document⟩

end Tenancy.Json
