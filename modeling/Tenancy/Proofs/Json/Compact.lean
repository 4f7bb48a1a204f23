import Tenancy.Proofs.Json.RoundTrip

/-!
# Stored texts are compact

A stored document is written in ASCII, and outside its strings there is neither a blank nor a letter
that a word for a number that is not finite would need. A written text is put together from few
kinds of pieces, so a property of texts that is kept by putting them together holds of the whole
text if it holds of the pieces.
-/
namespace Tenancy.Json

/-! ## Outside of strings -/

/-- Where a scan of a document stands. -/
inductive Place where
  | outside
  | inside
  /-- Inside of a string, behind a backslash. -/
  | escaped

/-- What stands outside of strings from a place on. -/
def unquotedFrom : Place → Text → Text
  | _, [] => []
  | .outside, c :: t => if c = .quote then unquotedFrom .inside t else c :: unquotedFrom .outside t
  | .inside, c :: t =>
    if c = .quote then unquotedFrom .outside t
    else if c = .backslash then unquotedFrom .escaped t
    else unquotedFrom .inside t
  | .escaped, _ :: t => unquotedFrom .inside t

/-- What stands outside of the strings of a document. -/
def unquoted (t : Text) : Text := unquotedFrom .outside t

/-- A digit is shown as it is. -/
theorem hexDigit_shown (c : CodePoint) (digit : c.hexDigit?.isSome = true) :
    c ≠ .quote ∧ c ≠ .backslash ∧ 0x20 ≤ c.val ∧ c.val < 0x7f := by
  refine ⟨?_, ?_, ?_⟩
  · rintro rfl
    exact absurd digit (by decide)
  · rintro rfl
    exact absurd digit (by decide)
  · simp only [CodePoint.hexDigit?, CodePoint.isDigit, Bool.and_eq_true, decide_eq_true_eq] at digit
    split_ifs at digit
    · omega
    · omega
    · omega
    · cases digit

private theorem unit?_digits (a b c d unit : CodePoint) (denoted : unit? a b c d = some unit) :
    ∀ digit ∈ [a, b, c, d], digit.hexDigit?.isSome = true := by
  unfold unit? at denoted
  split at denoted
  next ha hb hc hd => simp [ha, hb, hc, hd]
  next => cases denoted

/-- A string ends at its closing quotation mark. -/
theorem unquotedFrom_spells (t s rest : Text) (spells : Spells t s) :
    unquotedFrom .inside (t ++ .quote :: rest) = unquoted rest := by
  have escape : ¬CodePoint.backslash = .quote := by decide
  -- Digits are skipped one by one
  have digits (digits tail : Text) (all : ∀ digit ∈ digits, digit.hexDigit?.isSome = true) :
      unquotedFrom .inside (digits ++ tail) = unquotedFrom .inside tail := by
    induction digits with
    | nil => rfl
    | cons c digits ih =>
      obtain ⟨notQuote, notEscape, -⟩ := hexDigit_shown c (all c List.mem_cons_self)
      rw [List.cons_append, unquotedFrom, if_neg notQuote, if_neg notEscape]
      exact ih fun digit isIn => all digit (List.mem_cons_of_mem c isIn)
  induction spells with
  | nil => rw [List.nil_append, unquotedFrom, if_pos rfl, unquoted]
  | plain _ notQuote notEscape _ ih =>
    rw [List.cons_append, unquotedFrom, if_neg notQuote, if_neg notEscape, ih]
  | letter _ _ ih =>
    rw [List.cons_append, unquotedFrom, if_neg escape, if_pos rfl, List.cons_append, unquotedFrom,
      ih]
  | @unit a b c d _ t _ denoted _ _ ih =>
    simp only [List.cons_append, unquotedFrom, if_neg escape, if_true]
    exact (digits [a, b, c, d] _ (unit?_digits a b c d _ denoted)).trans ih
  | @pair a b c d a' b' c' d' _ _ t _ denoted _ denoted' _ _ ih =>
    simp only [List.cons_append]
    rw [unquotedFrom, if_neg escape, if_pos rfl, unquotedFrom]
    refine (digits [a, b, c, d] _ (unit?_digits a b c d _ denoted)).trans ?_
    rw [unquotedFrom, if_neg escape, if_pos rfl, unquotedFrom]
    exact (digits [a', b', c', d'] _ (unit?_digits a' b' c' d' _ denoted')).trans ih

/-! ## Ends of strings -/

/-- Whether a text ends the strings that it starts. -/
def EndsStrings (t : Text) : Prop := ∀ rest, unquoted (t ++ rest) = unquoted t ++ unquoted rest

theorem endsStrings_append {s t : Text} (first : EndsStrings s) (second : EndsStrings t) :
    EndsStrings (s ++ t) := by
  intro rest
  rw [List.append_assoc, first, second, first, List.append_assoc]

private theorem unquoted_noQuote (t rest : Text) (noQuote : ∀ c ∈ t, c ≠ .quote) :
    unquoted (t ++ rest) = t ++ unquoted rest := by
  induction t with
  | nil => rfl
  | cons c t ih =>
    have here := noQuote c List.mem_cons_self
    have behind := ih fun d isIn => noQuote d (List.mem_cons_of_mem c isIn)
    rw [unquoted] at behind
    rw [List.cons_append, unquoted, unquotedFrom, if_neg here, behind, List.cons_append]

private theorem unquoted_whole (t : Text) (noQuote : ∀ c ∈ t, c ≠ .quote) : unquoted t = t := by
  have eq := unquoted_noQuote t [] noQuote
  rw [List.append_nil] at eq
  exact eq.trans (List.append_nil t)

theorem endsStrings_noQuote (t : Text) (noQuote : ∀ c ∈ t, c ≠ .quote) : EndsStrings t := by
  intro rest
  rw [unquoted_whole t noQuote]
  exact unquoted_noQuote t rest noQuote

private theorem unquoted_string {t s : Text} (spells : Spells t s) (rest : Text) :
    unquoted (.quote :: (t ++ [.quote]) ++ rest) = unquoted rest := by
  rw [List.cons_append, List.append_assoc, unquoted, unquotedFrom, if_pos rfl]
  exact unquotedFrom_spells t s rest spells

private theorem unquoted_string_nil {t s : Text} (spells : Spells t s) :
    unquoted (.quote :: (t ++ [.quote])) = [] := by
  rw [← List.append_nil (_ :: _), unquoted_string spells]
  rfl

theorem endsStrings_string {t s : Text} (spells : Spells t s) :
    EndsStrings (.quote :: (t ++ [.quote])) := by
  intro rest
  rw [unquoted_string spells, unquoted_string_nil spells, List.nil_append]

/-! ## Pieces of a text -/

/-- A property of texts that holds of every piece of written texts, and of pieces together. -/
structure OfPieces (style : Style) (P : Text → Prop) : Prop where
  nil : P []
  append : ∀ {s t}, P s → P t → P (s ++ t)
  fixed : ∀ piece ∈ ["null", "true", "false", "[", "]", "[]", "\x7b", "\x7d", "\x7b\x7d", ","],
    P (Text.ofString piece)
  colon : P style.colon
  lineBreak : ∀ depth, P (style.lineBreak depth)
  string : ∀ t, P (style.string t)
  int : ∀ n, Numeral.isTooLong n = false → P (Text.ofInt n)
  number : ∀ x : Double, x.isFinite = true → P (x.toText style.layout)

namespace OfPieces

variable {style : Style} {P : Text → Prop}

mutual

/-- What holds of the pieces of a written text holds of the whole text. -/
theorem render (pieces : OfPieces style P) : ∀ (document : Json) (depth : Nat),
    Writable document → P (render style depth document)
  | .null, _, _ => pieces.fixed "null" (by simp)
  | .bool true, _, _ => pieces.fixed "true" (by simp)
  | .bool false, _, _ => pieces.fixed "false" (by simp)
  | .int n, _, short => pieces.int n short
  | .number x, _, finite => pieces.number x finite
  | .string t, _, _ => pieces.string t
  | .array [], _, _ => pieces.fixed "[]" (by simp)
  | .array (item :: items), depth, writable =>
    have inside := pieces.renderItems (item :: items) (depth + 1) writable
    pieces.append (pieces.append (pieces.append (pieces.fixed "[" (by simp)) inside)
      (pieces.lineBreak depth)) (pieces.fixed "]" (by simp))
  | .object [], _, _ => pieces.fixed "\x7b\x7d" (by simp)
  | .object (member :: members), depth, writable =>
    have inside := pieces.renderMembers (member :: members) (depth + 1) writable
    pieces.append (pieces.append (pieces.append (pieces.fixed "\x7b" (by simp)) inside)
      (pieces.lineBreak depth)) (pieces.fixed "\x7d" (by simp))

theorem renderItems (pieces : OfPieces style P) : ∀ (items : List Json) (depth : Nat),
    WritableItems items → P (renderItems style depth items)
  | [], _, _ => pieces.nil
  | [item], depth, writable =>
    pieces.append (pieces.lineBreak depth) (pieces.render item depth writable.1)
  | item :: next :: items, depth, writable =>
    have first := pieces.append (pieces.lineBreak depth) (pieces.render item depth writable.1)
    have rest := pieces.renderItems (next :: items) depth writable.2
    pieces.append (pieces.append first (pieces.fixed "," (by simp))) rest

theorem renderMembers (pieces : OfPieces style P) : ∀ (members : List (Text × Json)) (depth : Nat),
    WritableMembers members → P (renderMembers style depth members)
  | [], _, _ => pieces.nil
  | [(name, value)], depth, writable =>
    have name := pieces.append (pieces.append (pieces.lineBreak depth) (pieces.string name))
      pieces.colon
    pieces.append name (pieces.render value depth writable.1)
  | (name, value) :: next :: members, depth, writable =>
    have name := pieces.append (pieces.append (pieces.lineBreak depth) (pieces.string name))
      pieces.colon
    have first := pieces.append name (pieces.render value depth writable.1)
    have rest := pieces.renderMembers (next :: members) depth writable.2
    pieces.append (pieces.append first (pieces.fixed "," (by simp))) rest

end

end OfPieces

/-! ## Numerals -/

/-- The characters that numbers are written with. -/
def IsNumeral (c : CodePoint) : Prop :=
  c.isDigit = true ∨ c = 0x2b ∨ c = 0x2d ∨ c = 0x2e ∨ c = CodePoint.ofChar 'e' ∨
    c = CodePoint.ofChar 'E'

theorem isNumeral_number (grammar : Grammar) (negative : Bool) (t : Text) (document : Json)
    (isNumber : IsNumber grammar negative t document) : ∀ c ∈ t, IsNumeral c := by
  cases isNumber with
  | integer isWhole => exact fun c isIn => .inl (isWhole.all c isIn)
  | @double whole fraction exponent _ _ isWhole isFraction isExponent _ =>
    have inFraction : ∀ c ∈ fraction, IsNumeral c := by
      cases isFraction with
      | absent => exact fun c isIn => absurd isIn List.not_mem_nil
      | present are =>
        intro c isIn
        rcases List.mem_cons.mp isIn with rfl | isIn
        · exact .inr (.inr (.inr (.inl rfl)))
        · exact .inl (are.all c isIn)
    have inExponent : ∀ c ∈ exponent, IsNumeral c := by
      cases isExponent with
      | absent => exact fun c isIn => absurd isIn List.not_mem_nil
      | present isMark isSign are =>
        intro c isIn
        rcases List.mem_cons.mp isIn with rfl | isIn
        · exact .inr (.inr (.inr (.inr isMark)))
        · rcases List.mem_append.mp isIn with inSign | isIn
          · simp only [exponentSigns, List.mem_cons, List.not_mem_nil, or_false,
              Prod.mk.injEq] at isSign
            rcases isSign with ⟨rfl, -⟩ | ⟨rfl, -⟩ | ⟨rfl, -⟩
            · cases inSign
            · exact .inr (.inl (List.mem_singleton.mp inSign))
            · exact .inr (.inr (.inl (List.mem_singleton.mp inSign)))
          · exact .inl (are.all c isIn)
    intro c isIn
    simp only [List.mem_append] at isIn
    rcases isIn with isIn | isIn | isIn
    · exact .inl (isWhole.all c isIn)
    · exact inFraction c isIn
    · exact inExponent c isIn

/-- A number is written with the characters of numbers. -/
theorem isNumeral_of_denotes (t : Text) (document : Json)
    (value : Denotes .standard t (.value document))
    (numeric : (∃ n, document = .int n) ∨ ∃ x, document = .number x) : ∀ c ∈ t, IsNumeral c := by
  have noWord : ∀ entry ∈ Grammar.standard.words, document ≠ entry.2 := by
    simp only [Grammar.words, Grammar.standard]
    rcases numeric with ⟨n, rfl⟩ | ⟨x, rfl⟩ <;> simp
  cases value with
  | word known => exact absurd rfl (noWord _ known)
  | number negative isNumber =>
    intro c isIn
    rcases List.mem_append.mp isIn with inSign | isIn
    · cases negative with
      | true => exact .inr (.inr (.inl (List.mem_singleton.mp inSign)))
      | false => cases inSign
    · exact isNumeral_number .standard negative _ _ isNumber c isIn
  | string => simp at numeric
  | emptyArray => simp at numeric
  | array => simp at numeric
  | emptyObject => simp at numeric
  | object => simp at numeric

/-! ## Compact texts -/

/-- Whether a character may stand outside of the strings of a compact text. -/
def IsBare (c : CodePoint) : Prop :=
  c.isBlank = false ∧ c ≠ CodePoint.ofChar 'N' ∧ c ≠ CodePoint.ofChar 'I'

/-- A piece of text in ASCII that ends all its strings and is bare outside of them. -/
structure Compact (t : Text) : Prop where
  printable : ∀ c ∈ t, 0x20 ≤ c.val ∧ c.val ≤ 0x7e
  closed : ∀ rest, unquoted (t ++ rest) = unquoted t ++ unquoted rest
  bare : ∀ c ∈ unquoted t, IsBare c

private theorem compact_append {s t : Text} (first : Compact s) (second : Compact t) :
    Compact (s ++ t) where
  printable c isIn := (List.mem_append.mp isIn).elim (first.printable c) (second.printable c)
  closed := endsStrings_append first.closed second.closed
  bare c isIn := by
    rw [first.closed] at isIn
    exact (List.mem_append.mp isIn).elim (first.bare c) (second.bare c)

-- Whether a character may stand outside of strings in what is written
private def isShown (c : CodePoint) : Bool :=
  0x21 ≤ c.val && c.val ≤ 0x7e && c != .quote && c != CodePoint.ofChar 'N' &&
    c != CodePoint.ofChar 'I'

private theorem isShown_iff (c : CodePoint) : isShown c = true ↔ (0x21 ≤ c.val ∧ c.val ≤ 0x7e) ∧
    c ≠ .quote ∧ c ≠ CodePoint.ofChar 'N' ∧ c ≠ CodePoint.ofChar 'I' := by
  simp [isShown, and_assoc]

-- Text without strings
private theorem compact_of_shown (t : Text) (all : t.all isShown = true) : Compact t := by
  have shown : ∀ c ∈ t, _ := fun c isIn => (isShown_iff c).mp (List.all_eq_true.mp all c isIn)
  have noQuote : ∀ c ∈ t, c ≠ .quote := fun c isIn => (shown c isIn).2.1
  refine ⟨fun c isIn => ?_, endsStrings_noQuote t noQuote, fun c isIn => ?_⟩
  · have := (shown c isIn).1
    omega
  · rw [unquoted_whole t noQuote] at isIn
    obtain ⟨range, -, letters⟩ := shown c isIn
    refine ⟨?_, letters⟩
    simp [CodePoint.isBlank, CodePoint.isWhiteSpace]
    omega

private theorem isShown_numeral (c : CodePoint) (numeral : IsNumeral c) : isShown c = true := by
  rcases numeral with digit | rfl | rfl | rfl | rfl | rfl
  · rw [isShown_iff]
    refine ⟨?_, ?_, ?_, ?_⟩
    · simp only [CodePoint.isDigit, Bool.and_eq_true, decide_eq_true_eq] at digit
      omega
    all_goals
      rintro rfl
      exact absurd digit (by decide)
  all_goals decide

private theorem escapes_printable :
    ∀ entry ∈ escapes, 0x20 ≤ entry.1.val ∧ entry.1.val ≤ 0x7e :=
  forall_escapes _ (by decide)

/-- An escape of a unit is made of the backslash, its mark and digits. -/
theorem mem_unitEscape (unit : CodePoint) (small : unit.val < 0x10000) :
    ∀ c ∈ unitEscape unit.val, c = .backslash ∨ c = 0x75 ∨ c.hexDigit?.isSome = true := by
  obtain ⟨a, b, c, d, digits, denoted⟩ := unitEscape_digits unit small
  rw [digits]
  intro e isIn
  rcases List.mem_cons.mp isIn with rfl | isIn
  · exact .inl rfl
  rcases List.mem_cons.mp isIn with rfl | isIn
  · exact .inr (.inl rfl)
  · exact .inr (.inr (unit?_digits a b c d unit denoted e isIn))

private theorem unitEscape_printable (unit : CodePoint) (small : unit.val < 0x10000) :
    ∀ c ∈ unitEscape unit.val, 0x20 ≤ c.val ∧ c.val ≤ 0x7e := by
  intro c isIn
  rcases mem_unitEscape unit small c isIn with rfl | rfl | digit
  · decide
  · decide
  · have := hexDigit_shown c digit
    omega

-- Everything else than the printable characters of ASCII is escaped
private theorem character_printable (style : Style) (ascii : style.ascii = true) (c : CodePoint) :
    ∀ d ∈ style.character c, 0x20 ≤ d.val ∧ d.val ≤ 0x7e := by
  have form := character_form style c
  generalize style.character c = text at form
  cases form with
  | plain printable _ _ shown =>
    intro d isIn
    rw [List.mem_singleton.mp isIn]
    have := shown ascii
    omega
  | letter letter _ denoted _ =>
    intro d isIn
    simp only [List.mem_cons, List.not_mem_nil, or_false] at isIn
    rcases isIn with rfl | rfl
    · decide
    · exact escapes_printable _ ((escaped?_eq_some_iff d c).mp denoted)
  | unit small => exact unitEscape_printable c small
  | pair large =>
    obtain ⟨isHigh, isLow⟩ := CodePoint.splitSurrogates_surrogates c large
    rw [CodePoint.isHighSurrogate_iff] at isHigh
    rw [CodePoint.isLowSurrogate_iff] at isLow
    intro d isIn
    rcases List.mem_append.mp isIn with isIn | isIn
    · exact unitEscape_printable _ (by omega) d isIn
    · exact unitEscape_printable _ (by omega) d isIn

private theorem compact_string (style : Style) (ascii : style.ascii = true) (t : Text) :
    Compact (style.string t) := by
  have spells := spells_written style t
  refine ⟨fun c isIn => ?_, endsStrings_string spells, fun c isIn => ?_⟩
  · simp only [Style.string, List.cons_append, List.mem_cons, List.mem_append, List.mem_flatMap,
      List.not_mem_nil, or_false] at isIn
    rcases isIn with rfl | ⟨point, -, isIn⟩ | rfl
    · decide
    · exact character_printable style ascii point c isIn
    · decide
  · have none : unquoted (style.string t) = [] := unquoted_string_nil spells
    rw [none] at isIn
    cases isIn

/-- The pieces of stored texts are compact. -/
theorem compact_pieces : OfPieces .stored Compact where
  nil := compact_of_shown [] rfl
  append := compact_append
  fixed piece isIn := by
    apply compact_of_shown
    revert piece
    decide
  colon := compact_of_shown _ (by decide)
  lineBreak _ := compact_of_shown [] rfl
  string := compact_string .stored rfl
  int n short := compact_of_shown _ <| List.all_eq_true.mpr fun c isIn => isShown_numeral c
    (isNumeral_of_denotes _ _ (denotes_ofInt (by simp [Grammar.standard]) n short) (.inl ⟨n, rfl⟩)
      c isIn)
  number x finite := compact_of_shown _ <| List.all_eq_true.mpr fun c isIn => isShown_numeral c
    (isNumeral_of_denotes _ _ (denotes_toText _ x finite) (.inr ⟨x, rfl⟩) c isIn)

/-- Stored texts are compact. -/
theorem compact_write (document : Json) (writable : Writable document) :
    Compact (write .stored document) :=
  compact_pieces.render document 0 writable

end Tenancy.Json
