import Tenancy.Json.Reader

/-!
# The grammar of documents

Which texts are documents, and what they denote, said without a reader. The grammar is that of the
standard; the reader's has three words more, for the numbers that are not finite, and no integer of
too many digits. The phrases of the grammar are the sorts of one relation, so that an induction over
how a text is derived has a case for each rule.
-/
namespace Tenancy.Json

/-- What a grammar takes besides what every grammar takes. -/
structure Grammar where
  /-- Whether there are words for the numbers that are not finite. -/
  extended : Bool
  /-- The greatest number of digits of an integer, if there is one. -/
  limit : Option Nat

namespace Grammar

def standard : Grammar := ⟨false, none⟩

/-- The grammar that the reader is for. -/
def ofReader : Grammar := ⟨true, some Numeral.digitLimit⟩

/-- The words that are values by themselves. -/
def words (grammar : Grammar) : List (Text × Json) :=
  [(Text.ofString "null", .null), (Text.ofString "true", .bool true),
    (Text.ofString "false", .bool false)]
  ++ if grammar.extended then
    [(Text.ofString "NaN", .number .nan), (Text.ofString "Infinity", .number (.infinite false)),
      (Text.ofString "-Infinity", .number (.infinite true))]
  else []

end Grammar

/-- Whether a text is made of blanks. -/
def Blanks (t : Text) : Prop := ∀ c ∈ t, c.isJsonBlank = true

/-! ## Strings -/

/-- The letters behind a backslash, with what they stand for. -/
def escapes : List (CodePoint × CodePoint) :=
  [(.quote, .quote), (.backslash, .backslash), (CodePoint.ofChar '/', CodePoint.ofChar '/'),
    (CodePoint.ofChar 'b', 0x08), (CodePoint.ofChar 'f', 0x0c), (CodePoint.ofChar 'n', 0x0a),
    (CodePoint.ofChar 'r', 0x0d), (CodePoint.ofChar 't', 0x09)]

/-- What can be checked of every escape holds of them all. -/
theorem forall_escapes (p : CodePoint × CodePoint → Prop) [DecidablePred p]
    (all : escapes.all (p ·) = true) : ∀ entry ∈ escapes, p entry :=
  fun entry isIn => of_decide_eq_true (List.all_eq_true.mp all entry isIn)

/-- Whether a text starts with the escape of a low surrogate. -/
def EscapesLow (t : Text) : Prop :=
  ∃ a b c d rest low, t = .backslash :: 0x75 :: a :: b :: c :: d :: rest ∧
    unit? a b c d = some low ∧ low.isLowSurrogate = true

/-- What a text between quotation marks spells. The escapes of a surrogate pair spell the code point
that the pair denotes. -/
inductive Spells : Text → Text → Prop
  | nil : Spells [] []
  | plain {c : CodePoint} {t s : Text} (printable : 0x20 ≤ c.val) (notQuote : c ≠ .quote)
      (notEscape : c ≠ .backslash) (more : Spells t s) : Spells (c :: t) (c :: s)
  | letter {letter c : CodePoint} {t s : Text} (denoted : (letter, c) ∈ escapes)
      (more : Spells t s) : Spells (.backslash :: letter :: t) (c :: s)
  | unit {a b c d unit : CodePoint} {t s : Text} (denoted : unit? a b c d = some unit)
      (apart : unit.isHighSurrogate = true → ¬EscapesLow t) (more : Spells t s) :
      Spells (.backslash :: 0x75 :: a :: b :: c :: d :: t) (unit :: s)
  | pair {a b c d a' b' c' d' high low : CodePoint} {t s : Text}
      (denoted : unit? a b c d = some high) (isHigh : high.isHighSurrogate = true)
      (denoted' : unit? a' b' c' d' = some low) (isLow : low.isLowSurrogate = true)
      (more : Spells t s) :
      Spells (.backslash :: 0x75 :: a :: b :: c :: d
        :: .backslash :: 0x75 :: a' :: b' :: c' :: d' :: t) (.joinSurrogates high low :: s)

/-! ## Numbers -/

/-- A sign where the number is negative. -/
def signText (negative : Bool) : Text := if negative then [0x2d] else []

/-- Whether a text is made of digits, of which there is one at least. -/
structure AreDigits (t : Text) : Prop where
  nonempty : t ≠ []
  all : ∀ c ∈ t, c.isDigit = true

/-- Whether a text is a whole part: a zero is the only digit or not the first one. -/
structure IsWhole (t : Text) : Prop extends AreDigits t where
  start : t.head? = some 0x30 → t = [0x30]

/-- A fraction and its digits, if it is there. -/
inductive IsFraction : Text → Option Text → Prop
  | absent : IsFraction [] none
  | present {digits : Text} (are : AreDigits digits) : IsFraction (0x2e :: digits) (some digits)

/-- The signs of an exponent, and whether they make it negative. -/
def exponentSigns : List (Text × Bool) := [([], false), ([0x2b], false), ([0x2d], true)]

/-- An exponent and what it denotes, if it is there. -/
inductive IsExponent : Text → Option Int → Prop
  | absent : IsExponent [] none
  | present {mark : CodePoint} {sign digits : Text} {below : Bool}
      (isMark : mark = CodePoint.ofChar 'e' ∨ mark = CodePoint.ofChar 'E')
      (isSign : (sign, below) ∈ exponentSigns) (are : AreDigits digits) :
      IsExponent (mark :: (sign ++ digits))
        (some (if below then -(Text.decimalValue digits : Int) else Text.decimalValue digits))

/-- A number without its sign: an integer if it has neither a fraction nor an exponent. -/
inductive IsNumber (grammar : Grammar) (negative : Bool) : Text → Json → Prop
  | integer {whole : Text} (isWhole : IsWhole whole)
      (short : ∀ limit ∈ grammar.limit, whole.length ≤ limit) :
      IsNumber grammar negative whole
        (.int (if negative then -(Text.decimalValue whole : Int) else Text.decimalValue whole))
  | double {whole fraction exponent : Text} {digits : Option Text} {power : Option Int}
      (isWhole : IsWhole whole) (isFraction : IsFraction fraction digits)
      (isExponent : IsExponent exponent power) (parts : digits.isSome ∨ power.isSome) :
      IsNumber grammar negative (whole ++ (fraction ++ exponent))
        (.number (Double.ofDigits negative whole (digits.getD []) (power.getD 0)))

/-! ## Phrases -/

/-- A phrase of the grammar: what a text of its sort denotes. -/
inductive Phrase where
  | value (document : Json)
  /-- A value with blanks around it. -/
  | element (document : Json)
  /-- Elements with commas between them. -/
  | items (documents : List Json)
  | member (name : Text) (document : Json)
  /-- Members with commas between them. -/
  | members (members : List (Text × Json))

/-- The texts of phrases. An object has the last value of a repeated name, at its first place. -/
inductive Denotes (grammar : Grammar) : Text → Phrase → Prop
  | word {t : Text} {document : Json} (known : (t, document) ∈ grammar.words) :
      Denotes grammar t (.value document)
  | number (negative : Bool) {t : Text} {document : Json}
      (isNumber : IsNumber grammar negative t document) :
      Denotes grammar (signText negative ++ t) (.value document)
  | string {t s : Text} (spells : Spells t s) :
      Denotes grammar (.quote :: (t ++ [.quote])) (.value (.string s))
  | emptyArray {blanks : Text} (isBlank : Blanks blanks) :
      Denotes grammar (0x5b :: (blanks ++ [0x5d])) (.value (.array []))
  | array {t : Text} {documents : List Json} (inside : Denotes grammar t (.items documents)) :
      Denotes grammar (0x5b :: (t ++ [0x5d])) (.value (.array documents))
  | emptyObject {blanks : Text} (isBlank : Blanks blanks) :
      Denotes grammar (0x7b :: (blanks ++ [0x7d])) (.value (.object []))
  | object {t : Text} {members : List (Text × Json)}
      (inside : Denotes grammar t (.members members)) :
      Denotes grammar (0x7b :: (t ++ [0x7d])) (.value (.object (collapse members)))
  | element {before t behind : Text} {document : Json} (isBlank : Blanks before)
      (value : Denotes grammar t (.value document)) (isBlank' : Blanks behind) :
      Denotes grammar (before ++ (t ++ behind)) (.element document)
  | lastItem {t : Text} {document : Json} (element : Denotes grammar t (.element document)) :
      Denotes grammar t (.items [document])
  | item {t rest : Text} {document : Json} {documents : List Json}
      (element : Denotes grammar t (.element document))
      (more : Denotes grammar rest (.items documents)) :
      Denotes grammar (t ++ 0x2c :: rest) (.items (document :: documents))
  | member {before t behind rest name : Text} {document : Json} (isBlank : Blanks before)
      (spells : Spells t name) (isBlank' : Blanks behind)
      (element : Denotes grammar rest (.element document)) :
      Denotes grammar (before ++ .quote :: (t ++ .quote :: (behind ++ 0x3a :: rest)))
        (.member name document)
  | lastMember {t name : Text} {document : Json}
      (member : Denotes grammar t (.member name document)) :
      Denotes grammar t (.members [(name, document)])
  | nextMember {t rest name : Text} {document : Json} {members : List (Text × Json)}
      (member : Denotes grammar t (.member name document))
      (more : Denotes grammar rest (.members members)) :
      Denotes grammar (t ++ 0x2c :: rest) (.members ((name, document) :: members))

/-- Whether a text is a document, and which one: a value with blanks around it and nothing else. -/
def IsDocument (grammar : Grammar) (t : Text) (document : Json) : Prop :=
  Denotes grammar t (.element document)

end Tenancy.Json
