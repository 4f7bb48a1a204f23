import Tenancy.Proofs.Sql.Sendable

/-!
# Tokens of statements

A statement is read one code point after the other. What a code point means depends on whether it
stands between tokens, in a word or inside quotes. Everything that the renderer has no use for ends
the reading: the quotes of literals, comments, and what would end a statement. So a text that is
read has no such thing outside quoted names.
-/
namespace Tenancy.Sql

/-! ## Reading -/

inductive Token where
  | word (t : Text)
  /-- A quoted name, as it is without quotes. -/
  | quoted (name : Text)
  | symbol (c : CodePoint)
  deriving DecidableEq

/-- Where the reading of a statement is. -/
inductive Mode where
  | between
  | word (t : Text)
  | inQuotes (name : Text)
  /-- Behind a quote in quotes, which ends the name unless another one follows. -/
  | quote (name : Text)
  /-- Behind the first of two percent signs in quotes. -/
  | percent (name : Text)
  /-- Behind a dash, which may begin an arrow. -/
  | dash

/-- What has been read of a statement. -/
structure Scan where
  tokens : List Token
  mode : Mode

namespace Scan

/-- The character around a name. -/
def nameQuote : Dialect → CodePoint
  | .mysql => CodePoint.ofChar '`'
  | _ => CodePoint.ofChar '"'

/-- Whether a driver takes a percent sign for the beginning of a parameter, even inside quotes. -/
def marksPercent : Dialect → Bool
  | .sqlite => false
  | _ => true

def isWordCharacter (c : CodePoint) : Bool :=
  c.isAsciiLower || c.isAsciiUpper || c.isDigit || c == CodePoint.ofChar '_' ||
    c == CodePoint.ofChar '$' || 0x80 ≤ c.val

def isSymbol (c : CodePoint) : Bool := c.isOneOf "(),.=*?%:>"

/-- The next code point between tokens. -/
def begin (dialect : Dialect) (tokens : List Token) (c : CodePoint) : Option Scan :=
  if c = .space ∨ c = .newline then some ⟨tokens, .between⟩
  else if c = nameQuote dialect then some ⟨tokens, .inQuotes []⟩
  else if isWordCharacter c then some ⟨tokens, .word [c]⟩
  else if isSymbol c then some ⟨tokens ++ [.symbol c], .between⟩
  else if c = CodePoint.ofChar '-' then some ⟨tokens, .dash⟩
  else none

/-- The next code point. -/
def next (dialect : Dialect) (scan : Scan) (c : CodePoint) : Option Scan :=
  match scan.mode with
  | .between => begin dialect scan.tokens c
  | .word t =>
    if isWordCharacter c then some { scan with mode := .word (t ++ [c]) }
    else begin dialect (scan.tokens ++ [.word t]) c
  | .inQuotes name =>
    if c = nameQuote dialect then some { scan with mode := .quote name }
    else if marksPercent dialect && c == CodePoint.ofChar '%' then
      some { scan with mode := .percent name }
    else some { scan with mode := .inQuotes (name ++ [c]) }
  | .quote name =>
    if c = nameQuote dialect then some { scan with mode := .inQuotes (name ++ [c]) }
    else begin dialect (scan.tokens ++ [.quoted name]) c
  | .percent name =>
    if c = CodePoint.ofChar '%' then some { scan with mode := .inQuotes (name ++ [c]) } else none
  | .dash =>
    if c = CodePoint.ofChar '>' then
      some ⟨scan.tokens ++ [.symbol (CodePoint.ofChar '-'), .symbol c], .between⟩
    else none

/-- The tokens, if the statement may end here. -/
def finish (scan : Scan) : Option (List Token) :=
  match scan.mode with
  | .between => some scan.tokens
  | .word t => some (scan.tokens ++ [.word t])
  | .quote name => some (scan.tokens ++ [.quoted name])
  | _ => none

/-- What has been read, behind other tokens. -/
def behind (before : List Token) (scan : Scan) : Scan :=
  { scan with tokens := before ++ scan.tokens }

end Scan

/-- The tokens of a statement. -/
def tokens (dialect : Dialect) (t : Text) : Option (List Token) :=
  (t.foldlM (Scan.next dialect) ⟨[], .between⟩).bind Scan.finish

namespace Token

/-- The characters of names without quotes. -/
def isNameCharacter (c : CodePoint) : Bool :=
  -- Of the letters outside ASCII only two stand without quotes
  c.isAsciiLower || c.isDigit || c == CodePoint.ofChar '_' || c == CodePoint.ofChar '$' ||
    c == CodePoint.ofChar 'ı' || c == CodePoint.ofChar 'ſ'

/-- Whether a word is a name that no database changes. -/
def isName : Text → Bool
  | [] => false
  | c :: rest =>
    isNameCharacter c && !c.isDigit && c != CodePoint.ofChar '$' && rest.all isNameCharacter

/-- The name that a token denotes. -/
def name? : Token → Option Text
  | .word t => if isName t then some t else none
  | .quoted name => some name
  | .symbol _ => none

/-- The token of a name. -/
def ofName (name : Text) : Token := if isBare name then .word name else .quoted name

theorem beq_val (c d : CodePoint) : (c == d) = (c.val == d.val) := by
  rw [Bool.eq_iff_iff, beq_iff_eq, beq_iff_eq, Fin.ext_iff]

private theorem isNameCharacter_eq (c : CodePoint) : isNameCharacter c = isBareCharacter c := by
  simp only [isNameCharacter, beq_val]
  rfl

private theorem isName_eq (name : Text) : isName name = isBare name := by
  cases name with
  | nil => rfl
  | cons c rest =>
    have others : rest.all isNameCharacter = rest.all isBareCharacter :=
      congrArg rest.all (funext isNameCharacter_eq)
    rw [isName, isBare, isNameCharacter_eq, others, bne, beq_val]
    rfl

theorem name?_ofName (name : Text) : (ofName name).name? = some name := by
  rw [ofName]
  split
  next bare => rw [name?, isName_eq, if_pos bare]
  next => rfl

end Token

/-! ## Texts one after the other -/

namespace Scan

variable (dialect : Dialect)

private theorem begin_behind (before tokens : List Token) (c : CodePoint) :
    begin dialect (before ++ tokens) c = (begin dialect tokens c).map (behind before) := by
  unfold begin
  split <;> try rfl
  split <;> try rfl
  split <;> try rfl
  split
  · simp [behind]
  · split <;> rfl

private theorem next_behind (before : List Token) (scan : Scan) (c : CodePoint) :
    next dialect (scan.behind before) c = (next dialect scan c).map (behind before) := by
  obtain ⟨tokens, mode⟩ := scan
  cases mode with
  | between => exact begin_behind dialect before tokens c
  | word t =>
    simp only [next, behind]
    split
    · rfl
    · rw [List.append_assoc]
      exact begin_behind dialect before _ c
  | inQuotes name =>
    simp only [next, behind]
    split
    · rfl
    · split <;> rfl
  | quote name =>
    simp only [next, behind]
    split
    · rfl
    · rw [List.append_assoc]
      exact begin_behind dialect before _ c
  | percent name =>
    simp only [next, behind]
    split <;> rfl
  | dash =>
    simp only [next, behind]
    split
    · simp [behind]
    · rfl

/-- What stands before does not change what is read. -/
theorem foldlM_behind (before : List Token) (t : Text) (scan : Scan) :
    t.foldlM (next dialect) (scan.behind before) =
      (t.foldlM (next dialect) scan).map (behind before) := by
  induction t generalizing scan with
  | nil => rfl
  | cons c rest ih =>
    rw [List.foldlM_cons, List.foldlM_cons, next_behind]
    cases next dialect scan c with
    | none => rfl
    | some after => exact ih after

theorem finish_behind (before : List Token) (scan : Scan) :
    (scan.behind before).finish = scan.finish.map (before ++ ·) := by
  obtain ⟨tokens, mode⟩ := scan
  cases mode <;> simp [finish, behind]

/-- A code point that no token goes on with. -/
def isSeparator (c : CodePoint) : Bool := c.isOneOf "(),.=*?%:> \n"

private theorem isSeparator_apart (c : CodePoint) (separator : isSeparator c = true) :
    isWordCharacter c = false ∧ c ≠ nameQuote dialect := by
  have each : (Text.ofString "(),.=*?%:> \n").all (fun d => !isWordCharacter d &&
      d != CodePoint.ofChar '`' && d != CodePoint.ofChar '"') = true := rfl
  have this := List.all_eq_true.mp each c (List.contains_iff_mem.mp separator)
  simp only [Bool.and_eq_true, Bool.not_eq_true', bne_iff_ne] at this
  refine ⟨this.1.1, ?_⟩
  cases dialect
  · exact this.1.2
  · exact this.2
  · exact this.2

/-- A separator ends the token before it. -/
theorem next_separator (scan : Scan) (before : List Token) (finished : scan.finish = some before)
    (c : CodePoint) (separator : isSeparator c = true) :
    next dialect scan c = next dialect ⟨before, .between⟩ c := by
  obtain ⟨noWord, noQuote⟩ := isSeparator_apart dialect c separator
  obtain ⟨tokens, mode⟩ := scan
  cases mode with
  | between =>
    obtain rfl := Option.some.inj finished
    rfl
  | word t =>
    obtain rfl := Option.some.inj finished
    rw [next, noWord]
    rfl
  | quote name =>
    obtain rfl := Option.some.inj finished
    simp only [next, if_neg noQuote]
  | inQuotes | percent | dash => cases finished

end Scan

/-! ## Texts that are read -/

/-- A text that is read as tokens if it does not touch a token before it, and that stays on one
line. -/
structure Reads (dialect : Dialect) (t : Text) (read : List Token) : Prop where
  scan : ∀ before, ∃ scan, t.foldlM (Scan.next dialect) ⟨before, .between⟩ = some scan ∧
    scan.finish = some (before ++ read)
  flat : .newline ∉ t

/-- A text that is read as tokens and that what comes next does not touch. -/
structure Opens (dialect : Dialect) (t : Text) (read : List Token) : Prop where
  scan : ∀ before,
    t.foldlM (Scan.next dialect) ⟨before, .between⟩ = some ⟨before ++ read, .between⟩
  flat : .newline ∉ t

/-- Whether a text begins with a separator. -/
def isApart (t : Text) : Bool := t.head?.any Scan.isSeparator

section
variable {dialect : Dialect} {s t : Text} {first second : List Token}

theorem Reads.tokens (reads : Reads dialect t first) : tokens dialect t = some first := by
  obtain ⟨scan, read, finished⟩ := reads.scan []
  rw [Sql.tokens, read]
  exact finished

theorem Opens.reads (opens : Opens dialect t first) : Reads dialect t first :=
  ⟨fun before => ⟨_, opens.scan before, rfl⟩, opens.flat⟩

theorem Opens.append_reads (opens : Opens dialect s first) (reads : Reads dialect t second) :
    Reads dialect (s ++ t) (first ++ second) := by
  constructor
  · intro before
    obtain ⟨scan, read, finished⟩ := reads.scan (before ++ first)
    refine ⟨scan, ?_, by rw [finished, List.append_assoc]⟩
    rw [List.foldlM_append, opens.scan]
    exact read
  · exact fun member => (List.mem_append.mp member).elim opens.flat reads.flat

-- A text that does not touch what comes before it is read as after it
theorem foldlM_apart (scan : Scan) (before : List Token)
    (finished : scan.finish = some before) (apart : isApart t = true) :
    t.foldlM (Scan.next dialect) scan = t.foldlM (Scan.next dialect) ⟨before, .between⟩ := by
  cases t with
  | nil => cases apart
  | cons c rest =>
    rw [List.foldlM_cons, List.foldlM_cons,
      Scan.next_separator dialect scan before finished c apart]

theorem Reads.append_reads (before : Reads dialect s first) (after : Reads dialect t second)
    (apart : isApart t = true) : Reads dialect (s ++ t) (first ++ second) := by
  constructor
  · intro tokens
    obtain ⟨scan, read, finished⟩ := before.scan tokens
    obtain ⟨last, rest, ended⟩ := after.scan (tokens ++ first)
    refine ⟨last, ?_, by rw [ended, List.append_assoc]⟩
    rw [List.foldlM_append, read]
    exact (foldlM_apart scan _ finished apart).trans rest
  · exact fun member => (List.mem_append.mp member).elim before.flat after.flat

theorem Reads.append_opens (before : Reads dialect s first) (after : Opens dialect t second)
    (apart : isApart t = true) : Opens dialect (s ++ t) (first ++ second) := by
  constructor
  · intro tokens
    obtain ⟨scan, read, finished⟩ := before.scan tokens
    rw [List.foldlM_append, read, ← List.append_assoc, ← after.scan]
    exact foldlM_apart scan _ finished apart
  · exact fun member => (List.mem_append.mp member).elim before.flat after.flat

/-! ## Fixed texts and names -/

private theorem foldlM_fixed (before : List Token) :
    t.foldlM (Scan.next dialect) ⟨before, .between⟩ =
      (t.foldlM (Scan.next dialect) ⟨[], .between⟩).map (Scan.behind before) := by
  have behind := Scan.foldlM_behind dialect before t ⟨[], .between⟩
  rwa [Scan.behind, List.append_nil] at behind

theorem reads_of_tokens (read : tokens dialect t = some first) (flat : .newline ∉ t) :
    Reads dialect t first := by
  refine ⟨fun before => ?_, flat⟩
  rw [foldlM_fixed]
  obtain ⟨scan, eq, finished⟩ := Option.bind_eq_some_iff.mp read
  refine ⟨scan.behind before, ?_, ?_⟩
  · rw [eq]
    rfl
  · rw [Scan.finish_behind, finished]
    rfl

theorem opens_of_foldlM
    (read : t.foldlM (Scan.next dialect) ⟨[], .between⟩ = some ⟨first, .between⟩)
    (flat : .newline ∉ t) : Opens dialect t first := by
  refine ⟨fun before => ?_, flat⟩
  rw [foldlM_fixed, read]
  rfl

end

section
variable (dialect : Dialect)

private theorem nameQuote_eq : Scan.nameQuote dialect = quoteCharacter dialect := by
  cases dialect <;> rfl

private theorem marksPercent_eq : Scan.marksPercent dialect = doublesPercent dialect := by
  cases dialect <;> rfl

-- What belongs to a word is no gap and no quote
private theorem isWordCharacter_apart (c : CodePoint) (word : Scan.isWordCharacter c = true) :
    c ≠ .space ∧ c ≠ .newline ∧ c ≠ Scan.nameQuote dialect := by
  have apart : c.val ≠ 0x20 ∧ c.val ≠ 0x0a ∧ c.val ≠ 0x22 ∧ c.val ≠ 0x60 := by
    simp only [Scan.isWordCharacter, CodePoint.isAsciiLower, CodePoint.isAsciiUpper,
      CodePoint.isDigit, Token.beq_val, Bool.or_eq_true, Bool.and_eq_true, decide_eq_true_eq,
      beq_iff_eq, show (CodePoint.ofChar '_').val = 0x5f from rfl,
      show (CodePoint.ofChar '$').val = 0x24 from rfl] at word
    omega
  obtain ⟨noSpace, noNewline, noQuote, noBackquote⟩ := apart
  refine ⟨fun same => noSpace (congrArg Fin.val same),
    fun same => noNewline (congrArg Fin.val same), ?_⟩
  cases dialect
  · exact fun same => noBackquote (congrArg Fin.val same)
  · exact fun same => noQuote (congrArg Fin.val same)
  · exact fun same => noQuote (congrArg Fin.val same)

private theorem isBareCharacter_word (c : CodePoint) (bare : isBareCharacter c = true) :
    Scan.isWordCharacter c = true := by
  simp only [isBareCharacter, CodePoint.isAsciiLower, CodePoint.isDigit, Bool.or_eq_true,
    Bool.and_eq_true, decide_eq_true_eq, beq_iff_eq] at bare
  simp only [Scan.isWordCharacter, CodePoint.isAsciiLower, CodePoint.isAsciiUpper,
    CodePoint.isDigit, Token.beq_val, Bool.or_eq_true, Bool.and_eq_true, decide_eq_true_eq,
    beq_iff_eq, show (CodePoint.ofChar '_').val = 0x5f from rfl,
    show (CodePoint.ofChar '$').val = 0x24 from rfl]
  omega

private theorem foldlM_word (before : List Token) (t rest : Text)
    (word : rest.all Scan.isWordCharacter = true) :
    rest.foldlM (Scan.next dialect) ⟨before, .word t⟩ = some ⟨before, .word (t ++ rest)⟩ := by
  induction rest generalizing t with
  | nil =>
    rw [List.append_nil]
    rfl
  | cons c rest ih =>
    rw [List.all_cons, Bool.and_eq_true] at word
    have read : Scan.next dialect ⟨before, .word t⟩ c = some ⟨before, .word (t ++ [c])⟩ := by
      simp only [Scan.next, word.1, if_true]
    rw [List.foldlM_cons, read]
    refine (ih (t ++ [c]) word.2).trans ?_
    rw [List.append_assoc]
    rfl

/-- A word is read as one token. -/
theorem reads_word (t : Text) (some : t ≠ []) (word : t.all Scan.isWordCharacter = true) :
    Reads dialect t [.word t] := by
  constructor
  · intro before
    cases t with
    | nil => exact absurd rfl some
    | cons c rest =>
      rw [List.all_cons, Bool.and_eq_true] at word
      obtain ⟨noSpace, noNewline, noQuote⟩ := isWordCharacter_apart dialect c word.1
      refine ⟨⟨before, .word ([c] ++ rest)⟩, ?_, rfl⟩
      have read : Scan.next dialect ⟨before, .between⟩ c = Option.some ⟨before, .word [c]⟩ := by
        simp only [Scan.next, Scan.begin, noSpace, noNewline, or_self, if_false, noQuote, word.1,
          if_true]
      rw [List.foldlM_cons, read]
      exact foldlM_word dialect before [c] rest word.2
  · intro member
    exact (isWordCharacter_apart dialect _ (List.all_eq_true.mp word _ member)).2.1 rfl

-- What is written twice inside quotes is read once
private theorem foldlM_quotedCharacter (before : List Token) (name : Text) (c : CodePoint) :
    (quotedCharacter dialect c).foldlM (Scan.next dialect) ⟨before, .inQuotes name⟩ =
      some ⟨before, .inQuotes (name ++ [c])⟩ := by
  have percent : (c == CodePoint.ofChar '%') = (c.val == 0x25) := Token.beq_val c _
  by_cases quote : c = quoteCharacter dialect
  · have isQuote : c = Scan.nameQuote dialect := quote.trans (nameQuote_eq dialect).symm
    have twice : quotedCharacter dialect c = [c, c] := by simp [quotedCharacter, quote]
    have closed : Scan.next dialect ⟨before, .inQuotes name⟩ c = some ⟨before, .quote name⟩ := by
      simp only [Scan.next, if_pos isQuote]
    have again : Scan.next dialect ⟨before, .quote name⟩ c =
        some ⟨before, .inQuotes (name ++ [c])⟩ := by
      simp only [Scan.next, if_pos isQuote]
    simp only [twice, List.foldlM_cons, List.foldlM_nil, closed, again, Option.bind_eq_bind,
      Option.bind_some]
    rfl
  · have noQuote : c ≠ Scan.nameQuote dialect := fun same =>
      quote (same.trans (nameQuote_eq dialect))
    by_cases marked : (doublesPercent dialect && c.val == 0x25) = true
    · have twice : quotedCharacter dialect c = [c, c] := by simp [quotedCharacter, marked]
      have first : (Scan.marksPercent dialect && c == CodePoint.ofChar '%') = true := by
        rwa [percent, marksPercent_eq]
      have isPercent : c = CodePoint.ofChar '%' := by
        rw [Bool.and_eq_true, beq_iff_eq] at first
        exact first.2
      have begun : Scan.next dialect ⟨before, .inQuotes name⟩ c =
          some ⟨before, .percent name⟩ := by
        simp only [Scan.next, if_neg noQuote, first, if_true]
      have again : Scan.next dialect ⟨before, .percent name⟩ c =
          some ⟨before, .inQuotes (name ++ [c])⟩ := by
        simp only [Scan.next, if_pos isPercent]
      simp only [twice, List.foldlM_cons, List.foldlM_nil, begun, again, Option.bind_eq_bind,
        Option.bind_some]
      rfl
    · have once : quotedCharacter dialect c = [c] := by simp [quotedCharacter, quote, marked]
      have other : (Scan.marksPercent dialect && c == CodePoint.ofChar '%') = false := by
        rw [percent, marksPercent_eq]
        exact Bool.eq_false_iff.mpr marked
      rw [once, List.foldlM_cons]
      simp only [Scan.next, if_neg noQuote, other, Bool.false_eq_true, if_false,
        Option.bind_eq_bind, Option.bind_some]
      rfl

private theorem foldlM_quoted (before : List Token) (name rest : Text) :
    (rest.flatMap (quotedCharacter dialect)).foldlM (Scan.next dialect) ⟨before, .inQuotes name⟩ =
      some ⟨before, .inQuotes (name ++ rest)⟩ := by
  induction rest generalizing name with
  | nil =>
    rw [List.append_nil]
    rfl
  | cons c rest ih =>
    rw [List.flatMap_cons, List.foldlM_append, foldlM_quotedCharacter]
    refine (ih (name ++ [c])).trans ?_
    rw [List.append_assoc]
    rfl

private theorem flat_identifier (name : Text) (flat : .newline ∉ name) :
    .newline ∉ identifier dialect name := by
  have noQuote : CodePoint.newline ≠ quoteCharacter dialect := by
    cases dialect <;> decide
  rw [identifier]
  split
  · exact flat
  · intro member
    simp only [List.cons_append, List.mem_cons, List.mem_append, List.mem_flatMap, noQuote,
      List.not_mem_nil, or_false, false_or] at member
    obtain ⟨c, inName, among⟩ := member
    rw [quotedCharacter] at among
    have same : CodePoint.newline = c := by
      split at among <;> simpa using among
    exact flat (same ▸ inName)

-- A name is read as one token, however many lines it takes
private theorem scan_identifier (name : Text) (before : List Token) :
    ∃ scan, (identifier dialect name).foldlM (Scan.next dialect) ⟨before, .between⟩ = some scan ∧
      scan.finish = some (before ++ [.ofName name]) := by
  rw [identifier, Token.ofName]
  split
  next bare =>
    have word : name.all Scan.isWordCharacter = true := by
      cases name with
      | nil => cases bare
      | cons c rest =>
        simp only [isBare, Bool.and_eq_true] at bare
        rw [List.all_cons, isBareCharacter_word c bare.1.1.1, Bool.true_and, List.all_eq_true]
        exact fun d member => isBareCharacter_word d (List.all_eq_true.mp bare.2 d member)
    refine (reads_word dialect name ?_ word).scan before
    rintro rfl
    cases bare
  next =>
    refine ⟨⟨before, .quote name⟩, ?_, rfl⟩
    have opened : Scan.next dialect ⟨before, .between⟩ (quoteCharacter dialect) =
        some ⟨before, .inQuotes []⟩ := by
      cases dialect <;> rfl
    have closed : Scan.next dialect ⟨before, .inQuotes name⟩ (quoteCharacter dialect) =
        some ⟨before, .quote name⟩ := by
      simp only [Scan.next, nameQuote_eq, if_true]
    rw [List.cons_append, List.foldlM_cons, opened]
    simp only [Option.bind_eq_bind, Option.bind_some]
    rw [List.foldlM_append, foldlM_quoted, List.nil_append]
    simp only [Option.bind_eq_bind, Option.bind_some, List.foldlM_cons, closed]
    rfl

/-- A name is read as one token, which ends where the name ends. -/
theorem reads_identifier (name : Text) (flat : .newline ∉ name) :
    Reads dialect (identifier dialect name) [.ofName name] :=
  ⟨scan_identifier dialect name, flat_identifier dialect name flat⟩

/-- A name between two texts is read as one token, even if it has line breaks. -/
theorem tokens_identifier (name s t : Text) (first second : List Token)
    (opens : Opens dialect s first) (reads : Reads dialect t second) (apart : isApart t = true) :
    tokens dialect (s ++ identifier dialect name ++ t) =
      some (first ++ [.ofName name] ++ second) := by
  obtain ⟨named, read, finished⟩ := scan_identifier dialect name first
  obtain ⟨last, rest, ended⟩ := reads.scan (first ++ [.ofName name])
  have opened : s.foldlM (Scan.next dialect) ⟨[], .between⟩ = some ⟨first, .between⟩ :=
    opens.scan []
  have whole : (s ++ identifier dialect name ++ t).foldlM (Scan.next dialect) ⟨[], .between⟩ =
      some last := by
    rw [List.foldlM_append, List.foldlM_append, opened]
    simp only [Option.bind_eq_bind, Option.bind_some]
    rw [read]
    exact (foldlM_apart named _ finished apart).trans rest
  rw [tokens, whole]
  exact ended

end

end Tenancy.Sql
