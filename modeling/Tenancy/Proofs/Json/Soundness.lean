import Mathlib.Data.List.TakeWhile
import Mathlib.Tactic.Convert
import Tenancy.Proofs.Json.Grammar
import Tenancy.Proofs.Outcome

/-!
# What the reader takes is a document

Every reading consumes a text of its phrase and gives what that text denotes. A text may hold other
documents that a longer or shorter text would be; the reader takes exactly the one in front of the
rest that it leaves.
-/
namespace Tenancy.Json

/-! ## Strings -/

theorem escaped?_eq_some_iff (letter c : CodePoint) :
    escaped? letter = some c ↔ (letter, c) ∈ escapes := by
  constructor
  · intro denoted
    unfold escaped? at denoted
    split_ifs at denoted with h h h h h h h h <;> obtain rfl := Option.some.inj denoted <;>
      subst h <;> decide
  · intro denoted
    simp only [escapes, List.mem_cons, List.not_mem_nil, or_false, Prod.mk.injEq] at denoted
    rcases denoted with ⟨rfl, rfl⟩ | ⟨rfl, rfl⟩ | ⟨rfl, rfl⟩ | ⟨rfl, rfl⟩ | ⟨rfl, rfl⟩ |
      ⟨rfl, rfl⟩ | ⟨rfl, rfl⟩ | ⟨rfl, rfl⟩ <;> rfl

-- An escape is that of one unit, or of a pair. A high surrogate alone has no low one behind it that
-- would have been joined to it, provided that something follows that one
private theorem readUnicodeEscape_sound (mark t rest : Text) (point : CodePoint)
    (read : readUnicodeEscape mark t = .ok (point, rest)) :
    (∃ a b c d, t = a :: b :: c :: d :: rest ∧ unit? a b c d = some point ∧
      (point.isHighSurrogate = true → ∀ a b c d behind tail low,
        rest = 0x5c :: 0x75 :: a :: b :: c :: d :: behind :: tail →
          unit? a b c d = some low → ¬low.isLowSurrogate = true)) ∨
    ∃ a b c d high a' b' c' d' low,
      t = a :: b :: c :: d :: 0x5c :: 0x75 :: a' :: b' :: c' :: d' :: rest ∧
      (unit? a b c d = some high ∧ high.isHighSurrogate = true) ∧
      (unit? a' b' c' d' = some low ∧ low.isLowSurrogate = true) ∧
      point = .joinSurrogates high low := by
  unfold readUnicodeEscape at read
  split at read
  next a b c d next rest' =>
    split at read
    next => cases read
    next unit denoted =>
      split at read
      next isHigh =>
        split at read
        next eq =>
          split at read
          next => cases read
          next second denoted' =>
            split at read
            next isLow =>
              obtain ⟨rfl, rfl⟩ := Prod.mk.inj (Except.ok.inj read)
              exact .inr ⟨a, b, c, d, unit, _, _, _, _, second, by rw [eq], ⟨denoted, isHigh⟩,
                ⟨denoted', isLow⟩, rfl⟩
            next notLow =>
              obtain ⟨rfl, rfl⟩ := Prod.mk.inj (Except.ok.inj read)
              refine .inl
                ⟨a, b, c, d, rfl, denoted, fun _ a' b' c' d' behind tail low same is => ?_⟩
              rw [eq] at same
              simp only [List.cons.injEq, true_and] at same
              obtain ⟨rfl, rfl, rfl, rfl, -⟩ := same
              obtain rfl := Option.some.inj (denoted'.symm.trans is)
              exact notLow
        next other =>
          obtain ⟨rfl, rfl⟩ := Prod.mk.inj (Except.ok.inj read)
          exact .inl ⟨a, b, c, d, rfl, denoted,
            fun _ _ _ _ _ _ _ _ same => absurd same (other _ _ _ _ _ _)⟩
      next notHigh =>
        obtain ⟨rfl, rfl⟩ := Prod.mk.inj (Except.ok.inj read)
        exact .inl ⟨a, b, c, d, rfl, denoted, fun isHigh => absurd isHigh notHigh⟩
  next => cases read

/-- A string is read up to its closing quotation mark. -/
theorem readString_sound (opening : Text) (fuel : Nat) (t s rest : Text)
    (read : readString opening fuel t = .ok (s, rest)) :
    ∃ body, t = body ++ .quote :: rest ∧ Spells body s := by
  -- Each step reads one code point
  induction fuel generalizing t s with
  | zero => cases read
  | succ fuel ih =>
    cases t with
    | nil => cases read
    | cons c t =>
      simp only [readString] at read
      split at read
      next quote =>
        obtain ⟨rfl, rfl⟩ := Prod.mk.inj (Except.ok.inj read)
        exact ⟨[], by rw [quote]; rfl, .nil⟩
      next notQuote =>
        split at read
        next escape =>
          subst escape
          split at read
          next => cases read
          next letter t =>
            split at read
            next unicode =>
              obtain ⟨⟨point, tail⟩, unit, read⟩ := (bind_ok_iff _ _ _).mp read
              obtain ⟨⟨s', rest'⟩, behind, read⟩ := (bind_ok_iff _ _ _).mp read
              obtain ⟨rfl, rfl⟩ := Prod.mk.inj (Except.ok.inj read)
              obtain ⟨body, rfl, spells⟩ := ih tail s' behind
              rcases readUnicodeEscape_sound _ t _ point unit with
                ⟨a, b, c, d, rfl, denoted, apart⟩ |
                ⟨a, b, c, d, high, a', b', c', d', low, rfl, ⟨denoted, isHigh⟩,
                  ⟨denoted', isLow⟩, rfl⟩
              · refine ⟨_, by rw [unicode]; rfl, .unit denoted (fun isHigh starts => ?_) spells⟩
                -- The quotation mark at least stands behind the low surrogate
                obtain ⟨a', b', c', d', more, low, rfl, denoted', isLow⟩ := starts
                cases more with
                | nil => exact apart isHigh a' b' c' d' _ _ low rfl denoted' isLow
                | cons next more => exact apart isHigh a' b' c' d' _ _ low rfl denoted' isLow
              · exact ⟨_, by rw [unicode]; rfl, .pair denoted isHigh denoted' isLow spells⟩
            next =>
              split at read
              next point denoted =>
                obtain ⟨⟨s', rest'⟩, behind, read⟩ := (bind_ok_iff _ _ _).mp read
                obtain ⟨rfl, rfl⟩ := Prod.mk.inj (Except.ok.inj read)
                obtain ⟨body, rfl, spells⟩ := ih t s' behind
                exact ⟨_, rfl, .letter ((escaped?_eq_some_iff letter point).mp denoted) spells⟩
              next => cases read
        next notEscape =>
          split at read
          next => cases read
          next printable =>
            obtain ⟨⟨s', rest'⟩, behind, read⟩ := (bind_ok_iff _ _ _).mp read
            obtain ⟨rfl, rfl⟩ := Prod.mk.inj (Except.ok.inj read)
            obtain ⟨body, rfl, spells⟩ := ih t s' behind
            exact ⟨_, rfl, .plain (Nat.le_of_not_lt printable) notQuote notEscape spells⟩

/-! ## Numbers -/

-- The digits in front of a text, if there are any
private theorem areDigits_takeWhile (t : Text) (some : t.takeWhile CodePoint.isDigit ≠ []) :
    AreDigits (t.takeWhile CodePoint.isDigit) :=
  ⟨some, fun _ member => List.mem_takeWhile_imp member⟩

theorem takeWhole_sound (t whole rest : Text) (taken : takeWhole t = some (whole, rest)) :
    t = whole ++ rest ∧ IsWhole whole := by
  unfold takeWhole at taken
  split at taken
  next =>
    obtain ⟨rfl, rfl⟩ := Prod.mk.inj (Option.some.inj taken)
    exact ⟨rfl, ⟨by simp, by simp; rfl⟩, fun _ => rfl⟩
  next notZero =>
    split at taken
    next => cases taken
    next some =>
      obtain ⟨rfl, rfl⟩ := Prod.mk.inj (Option.some.inj taken)
      refine ⟨List.takeWhile_append_dropWhile.symm, areDigits_takeWhile t (by simpa using some),
        fun zero => ?_⟩
      -- Digits that start with a zero have been taken before
      cases t with
      | nil => cases zero
      | cons c t =>
        rw [List.takeWhile_cons] at zero
        split at zero
        · exact absurd (congrArg (· :: t) (Option.some.inj zero)) (notZero t)
        · cases zero

private theorem takeFraction_sound (t : Text) : ∃ fraction,
    t = fraction ++ (takeFraction t).elim t (·.2) ∧
      IsFraction fraction ((takeFraction t).map (·.1)) := by
  unfold takeFraction
  split
  next rest =>
    split
    next => exact ⟨[], rfl, .absent⟩
    next some =>
      exact ⟨_, congrArg _ List.takeWhile_append_dropWhile.symm,
        .present (areDigits_takeWhile rest (by simpa using some))⟩
  next => exact ⟨[], rfl, .absent⟩

private theorem takeSign_sound (t : Text) : ∃ sign, t = sign ++ (Numeral.takeSign t).2 ∧
    (sign, (Numeral.takeSign t).1) ∈ exponentSigns := by
  unfold Numeral.takeSign
  split
  · exact ⟨[0x2d], rfl, .tail _ (.tail _ (.head _))⟩
  · exact ⟨[0x2b], rfl, .tail _ (.head _)⟩
  · exact ⟨[], rfl, .head _⟩

private theorem takeExponent_sound (t : Text) : ∃ exponent,
    t = exponent ++ (takeExponent t).elim t (·.2) ∧
      IsExponent exponent ((takeExponent t).map (·.1)) := by
  cases t with
  | nil => exact ⟨[], rfl, .absent⟩
  | cons mark t =>
    obtain ⟨sign, eq, isSign⟩ := takeSign_sound t
    simp only [takeExponent]
    split
    next isMark =>
      split
      next => exact ⟨[], rfl, .absent⟩
      next some =>
        refine ⟨mark :: (sign ++ _), ?_, .present isMark isSign
          (areDigits_takeWhile _ (by simpa using some))⟩
        rw [Option.elim_some, List.cons_append, List.append_assoc,
          List.takeWhile_append_dropWhile, ← eq]
    next => exact ⟨[], rfl, .absent⟩

private theorem readNumber_sound (start : Text) (negative : Bool) (t rest : Text)
    (document : Json) (read : readNumber start negative t = .ok (document, rest)) :
    ∃ number, t = number ++ rest ∧ IsNumber .ofReader negative number document := by
  unfold readNumber at read
  split at read
  next => cases read
  next whole tail taken =>
    obtain ⟨rfl, isWhole⟩ := takeWhole_sound t whole tail taken
    obtain ⟨fraction, eq, isFraction⟩ := takeFraction_sound tail
    obtain ⟨exponent, eq', isExponent⟩ :=
      takeExponent_sound ((takeFraction tail).elim tail (·.2))
    split at read
    next noFraction noExponent =>
      split at read
      next => cases read
      next short =>
        obtain ⟨rfl, rfl⟩ := Prod.mk.inj (Except.ok.inj read)
        refine ⟨whole, rfl, .integer isWhole fun limit isLimit => ?_⟩
        obtain rfl := Option.some.inj isLimit
        exact Nat.le_of_not_lt short
    next fraction' exponent' parts =>
      obtain ⟨rfl, rfl⟩ := Prod.mk.inj (Except.ok.inj read)
      refine ⟨whole ++ (fraction ++ exponent), ?_, ?_⟩
      · rw [List.append_assoc, List.append_assoc]
        refine congrArg (whole ++ ·) (eq.trans (congrArg (fraction ++ ·) ?_))
        refine eq'.trans (congrArg (exponent ++ ·) ?_)
        cases takeExponent ((takeFraction tail).elim tail (·.2)) <;> rfl
      · have present : (takeFraction tail).isSome ∨
            (takeExponent ((takeFraction tail).elim tail (·.2))).isSome := by
          by_contra none
          rw [not_or, Option.not_isSome_iff_eq_none, Option.not_isSome_iff_eq_none] at none
          exact parts none.1 none.2
        have number : IsNumber .ofReader negative _ _ := .double isWhole isFraction isExponent
          (by rwa [Option.isSome_map, Option.isSome_map])
        convert number using 3
        · cases takeFraction tail <;> rfl
        · cases takeExponent ((takeFraction tail).elim tail (·.2)) <;> rfl

private theorem after?_eq_some (start t rest : Text) (found : Text.after? start t = some rest) :
    t = start ++ rest := by
  induction start generalizing t with
  | nil => exact Option.some.inj found
  | cons a start ih =>
    cases t with
    | nil => cases found
    | cons c t =>
      simp only [Text.after?] at found
      split at found
      next same => rw [same, ih t found, List.cons_append]
      next => cases found

/-- A scalar is a word or a number. -/
theorem readScalar_sound (t rest : Text) (document : Json)
    (read : readScalar t = .ok (document, rest)) :
    ∃ scalar, t = scalar ++ rest ∧ Denotes .ofReader scalar (.value document) := by
  unfold readScalar at read
  split at read
  next reading found =>
    obtain rfl := Except.ok.inj read
    obtain ⟨⟨word, value⟩, known, eq⟩ := List.exists_of_findSome?_eq_some found
    obtain ⟨tail, after, same⟩ := Option.map_eq_some_iff.mp eq
    obtain ⟨rfl, rfl⟩ := Prod.mk.inj same
    exact ⟨word, after?_eq_some word t tail after, .word known⟩
  next =>
    split at read
    next tail _ =>
      obtain ⟨number, rfl, isNumber⟩ := readNumber_sound _ true tail rest document read
      exact ⟨signText true ++ number, rfl, .number true isNumber⟩
    next =>
      obtain ⟨number, rfl, isNumber⟩ := readNumber_sound t false t rest document read
      exact ⟨signText false ++ number, rfl, .number false isNumber⟩

/-! ## Blanks -/

/-- The blanks in front of a text are skipped. -/
theorem eq_blanks_append (t : Text) : ∃ blanks, Blanks blanks ∧ t = blanks ++ skipBlanks t :=
  ⟨t.takeWhile CodePoint.isJsonBlank, fun _ member => List.mem_takeWhile_imp member,
    List.takeWhile_append_dropWhile.symm⟩

theorem Blanks.nil : Blanks [] := fun _ member => by cases member

theorem Blanks.append {s t : Text} (first : Blanks s) (second : Blanks t) : Blanks (s ++ t) :=
  fun c member => (List.mem_append.mp member).elim (first c) (second c)

section
variable {grammar : Grammar} {blanks t : Text} (isBlank : Blanks blanks)
include isBlank

theorem Denotes.blanks_element {document : Json} (element : Denotes grammar t (.element document)) :
    Denotes grammar (blanks ++ t) (.element document) := by
  cases element with
  | element isBlank' value behind =>
    rw [← List.append_assoc]
    exact .element (isBlank.append isBlank') value behind

theorem Denotes.blanks_items {documents : List Json}
    (items : Denotes grammar t (.items documents)) :
    Denotes grammar (blanks ++ t) (.items documents) := by
  cases items with
  | lastItem element => exact .lastItem (element.blanks_element isBlank)
  | item element more =>
    rw [← List.append_assoc]
    exact .item (element.blanks_element isBlank) more

theorem Denotes.blanks_members {members : List (Text × Json)}
    (inside : Denotes grammar t (.members members)) :
    Denotes grammar (blanks ++ t) (.members members) := by
  have longer {t name : Text} {document : Json}
      (member : Denotes grammar t (.member name document)) :
      Denotes grammar (blanks ++ t) (.member name document) := by
    cases member with
    | member isBlank' spells behind element =>
      rw [← List.append_assoc]
      exact .member (isBlank.append isBlank') spells behind element
  cases inside with
  | lastMember member => exact .lastMember (longer member)
  | nextMember member more =>
    rw [← List.append_assoc]
    exact .nextMember (longer member) more

end

/-! ## Documents -/

/-- What the three readers with some fuel take. -/
structure ReadsSound (fuel : Nat) : Prop where
  value : ∀ t document rest, readValue fuel t = .ok (document, rest) →
    ∃ taken, t = taken ++ rest ∧ Denotes .ofReader taken (.value document)
  items : ∀ t documents rest, readItems fuel t = .ok (documents, rest) →
    ∃ taken, t = taken ++ 0x5d :: rest ∧ Denotes .ofReader taken (.items documents)
  members : ∀ t members rest, readMembers fuel t = .ok (members, rest) →
    ∃ taken, t = taken ++ 0x7d :: rest ∧ Denotes .ofReader taken (.members members)

section
variable (fuel : Nat) (inner : ReadsSound fuel)
include inner

private theorem readValue_sound (t rest : Text) (document : Json)
    (read : readValue (fuel + 1) t = .ok (document, rest)) :
    ∃ taken, t = taken ++ rest ∧ Denotes .ofReader taken (.value document) := by
  cases t with
  | nil => cases read
  | cons c t =>
    simp only [readValue] at read
    split at read
    next quote =>
      obtain ⟨⟨s, tail⟩, string, read⟩ := (bind_ok_iff _ _ _).mp read
      obtain ⟨rfl, rfl⟩ := Prod.mk.inj (Except.ok.inj read)
      obtain ⟨body, rfl, spells⟩ := readString_sound _ _ t s tail string
      exact ⟨_, by rw [quote, List.cons_append, List.append_assoc]; rfl, .string spells⟩
    next =>
      obtain ⟨blanks, isBlank, eq⟩ := eq_blanks_append t
      split at read
      next bracket =>
        split at read
        next closed =>
          obtain ⟨rfl, rfl⟩ := Prod.mk.inj (Except.ok.inj read)
          refine ⟨_, ?_, .emptyArray isBlank⟩
          rw [bracket, eq, closed, List.cons_append, List.append_assoc]
          rfl
        next =>
          obtain ⟨⟨documents, tail⟩, inside, read⟩ := (bind_ok_iff _ _ _).mp read
          obtain ⟨rfl, rfl⟩ := Prod.mk.inj (Except.ok.inj read)
          obtain ⟨taken, same, items⟩ := inner.items _ documents tail inside
          refine ⟨_, ?_, .array (items.blanks_items isBlank)⟩
          rw [bracket, eq, same, List.cons_append, List.append_assoc, List.append_assoc]
          rfl
      next =>
        split at read
        next brace =>
          split at read
          next closed =>
            obtain ⟨rfl, rfl⟩ := Prod.mk.inj (Except.ok.inj read)
            refine ⟨_, ?_, .emptyObject isBlank⟩
            rw [brace, eq, closed, List.cons_append, List.append_assoc]
            rfl
          next =>
            obtain ⟨⟨members, tail⟩, inside, read⟩ := (bind_ok_iff _ _ _).mp read
            obtain ⟨rfl, rfl⟩ := Prod.mk.inj (Except.ok.inj read)
            obtain ⟨taken, same, members⟩ := inner.members _ members tail inside
            refine ⟨_, ?_, .object (members.blanks_members isBlank)⟩
            rw [brace, eq, same, List.cons_append, List.append_assoc, List.append_assoc]
            rfl
        next => exact readScalar_sound (c :: t) rest document read

-- A value and the blanks behind it are an element
private theorem element_sound (t tail : Text) (document : Json)
    (read : readValue fuel t = .ok (document, tail)) :
    ∃ taken, t = taken ++ skipBlanks tail ∧ Denotes .ofReader taken (.element document) := by
  obtain ⟨taken, rfl, value⟩ := inner.value t document tail read
  obtain ⟨blanks, isBlank, eq⟩ := eq_blanks_append tail
  refine ⟨taken ++ blanks, ?_, .element .nil value isBlank⟩
  rw [List.append_assoc, ← eq]

private theorem readItems_sound (t rest : Text) (documents : List Json)
    (read : readItems (fuel + 1) t = .ok (documents, rest)) :
    ∃ taken, t = taken ++ 0x5d :: rest ∧ Denotes .ofReader taken (.items documents) := by
  simp only [readItems] at read
  obtain ⟨⟨document, tail⟩, value, read⟩ := (bind_ok_iff _ _ _).mp read
  obtain ⟨taken, eq, element⟩ := element_sound fuel inner t tail document value
  dsimp only at read
  split at read
  next closed =>
    obtain ⟨rfl, rfl⟩ := Prod.mk.inj (Except.ok.inj read)
    exact ⟨taken, by rw [eq, closed], .lastItem element⟩
  next behind comma =>
    obtain ⟨⟨others, tail'⟩, more, read⟩ := (bind_ok_iff _ _ _).mp read
    obtain ⟨rfl, rfl⟩ := Prod.mk.inj (Except.ok.inj read)
    obtain ⟨taken', same, items⟩ := inner.items _ others tail' more
    obtain ⟨blanks, isBlank, eq'⟩ := eq_blanks_append behind
    refine ⟨_, ?_, .item element (items.blanks_items isBlank)⟩
    rw [eq, comma, eq', same, List.append_assoc, List.cons_append, List.append_assoc]
  next => cases read

private theorem readMembers_sound (t rest : Text) (members : List (Text × Json))
    (read : readMembers (fuel + 1) t = .ok (members, rest)) :
    ∃ taken, t = taken ++ 0x7d :: rest ∧ Denotes .ofReader taken (.members members) := by
  unfold readMembers at read
  split at read
  next fuel' t fuelEq =>
    obtain rfl := Nat.succ.inj fuelEq
    obtain ⟨⟨name, tail⟩, string, inside⟩ := (bind_ok_iff _ _ _).mp read
    obtain ⟨body, string, spells⟩ := readString_sound _ _ t name tail string
    obtain ⟨blanks, isBlank, colon⟩ := eq_blanks_append tail
    dsimp only at inside
    split at inside
    next behind found =>
      obtain ⟨⟨document, tail'⟩, value, inside⟩ := (bind_ok_iff _ _ _).mp inside
      obtain ⟨taken, same, element⟩ := element_sound fuel inner _ tail' document value
      obtain ⟨blanks', isBlank', eq⟩ := eq_blanks_append behind
      have member : Denotes .ofReader
          (.quote :: (body ++ .quote :: (blanks ++ 0x3a :: (blanks' ++ taken))))
          (.member name document) :=
        .member .nil spells isBlank (element.blanks_element isBlank')
      have shape : (0x22 : CodePoint) :: t =
          .quote :: (body ++ .quote :: (blanks ++ 0x3a :: (blanks' ++ taken)))
            ++ skipBlanks tail' := by
        rw [string, colon, found, eq, same]
        simp only [List.append_assoc, List.cons_append]
        rfl
      dsimp only at inside
      rw [shape]
      split at inside
      next closed =>
        obtain ⟨rfl, rfl⟩ := Prod.mk.inj (Except.ok.inj inside)
        exact ⟨_, by rw [closed], .lastMember member⟩
      next behind' comma =>
        obtain ⟨⟨others, tail''⟩, more, inside⟩ := (bind_ok_iff _ _ _).mp inside
        obtain ⟨rfl, rfl⟩ := Prod.mk.inj (Except.ok.inj inside)
        obtain ⟨taken', same', members⟩ := inner.members _ others tail'' more
        obtain ⟨blanks'', isBlank'', eq'⟩ := eq_blanks_append behind'
        refine ⟨_, ?_, .nextMember member (members.blanks_members isBlank'')⟩
        rw [comma, eq', same']
        simp only [List.append_assoc, List.cons_append]
      next => cases inside
    next => cases inside
  next => cases read

end

/-- The readers take phrases of their sorts. -/
theorem readsSound (fuel : Nat) : ReadsSound fuel := by
  -- The three readers call each other with one step less
  induction fuel with
  | zero =>
    refine ⟨?_, ?_, ?_⟩
    · intro t document rest read
      cases read
    · intro t documents rest read
      cases read
    · intro t members rest read
      simp [readMembers] at read
  | succ fuel ih =>
    exact ⟨fun t document rest => readValue_sound fuel ih t rest document,
      fun t documents rest => readItems_sound fuel ih t rest documents,
      fun t members rest => readMembers_sound fuel ih t rest members⟩

/-- What the reader takes is a document, and it gives what the text denotes. -/
theorem isDocument_of_read (t : Text) (document : Json) (success : read t = .ok document) :
    IsDocument .ofReader t document := by
  have decoded : readDecoded t = .ok document := by
    unfold Json.read at success
    split at success
    · cases success
    · exact success
  have whole : readDocument t = .ok document := by
    unfold readDecoded at decoded
    split at decoded
    next eq =>
      obtain rfl := Except.ok.inj decoded
      exact eq
    next => cases decoded
  obtain ⟨⟨found, rest⟩, value, ends⟩ := (bind_ok_iff _ _ _).mp whole
  obtain ⟨taken, eq, element⟩ := element_sound _ (readsSound _) _ rest found value
  obtain ⟨blanks, isBlank, start⟩ := eq_blanks_append t
  dsimp only at ends
  split at ends
  next none =>
    obtain rfl := Except.ok.inj ends
    rw [none, List.append_nil] at eq
    rw [start, eq]
    exact element.blanks_element isBlank
  next => cases ends

end Tenancy.Json
