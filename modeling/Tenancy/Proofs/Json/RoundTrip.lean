import Tenancy.Proofs.Json.Completeness
import Tenancy.Proofs.Json.Number
import Tenancy.Proofs.Json.String

/-!
# Written documents read back

In every style what the writer writes is a document, and the reader takes it back, up to what the
style does to strings and up to repeated names. The proof that a written text is in the grammar
follows the document; that it is read is then a case of completeness.
-/
namespace Tenancy.Json

/-! ## What is read back -/

mutual

/-- Whether every number has a text that is read back. -/
def Writable : Json → Prop
  | .int n => Numeral.isTooLong n = false
  | .number x => x.isFinite = true
  | .array items => WritableItems items
  | .object members => WritableMembers members
  | _ => True

/-- Every element is writable. -/
def WritableItems : List Json → Prop
  | [] => True
  | item :: rest => Writable item ∧ WritableItems rest

/-- Every member is writable. -/
def WritableMembers : List (Text × Json) → Prop
  | [] => True
  | (_, value) :: rest => Writable value ∧ WritableMembers rest

end

mutual

/-- The document that is read from the text of a document in a style. -/
def reread (style : Style) : Json → Json
  | .string t => .string (style.reading t)
  | .array items => .array (rereadItems style items)
  | .object members => .object (collapse (rereadMembers style members))
  | scalar => scalar

/-- The elements that are read, in order. -/
def rereadItems (style : Style) : List Json → List Json
  | [] => []
  | item :: rest => reread style item :: rereadItems style rest

/-- The members that are read, in order and with repetitions. -/
def rereadMembers (style : Style) : List (Text × Json) → List (Text × Json)
  | [] => []
  | (name, value) :: rest =>
    (style.reading name, reread style value) :: rereadMembers style rest

end

/-! ## Written phrases -/

private theorem lineBreak_blanks (style : Style) (depth : Nat) :
    Blanks (style.lineBreak depth) := by
  intro c member
  unfold Style.lineBreak at member
  split at member
  · cases member
  · rcases List.mem_cons.mp member with rfl | space
    · rfl
    · rw [(List.mem_replicate.mp space).2]
      rfl

private theorem colon_blanks (style : Style) :
    ∃ blanks, style.colon = 0x3a :: blanks ∧ Blanks blanks := by
  unfold Style.colon
  split
  · exact ⟨[], rfl, Blanks.nil⟩
  · exact ⟨[0x20], rfl, fun c member => by rw [List.mem_singleton.mp member]; rfl⟩

section
variable {grammar : Grammar} (style : Style)

private theorem denotes_string (t : Text) :
    Denotes grammar (style.string t) (.value (.string (style.reading t))) :=
  .string (spells_written style t)

-- A value on a line of its own, up to a break behind it
private theorem denotes_line (depth : Nat) (t behind : Text) (document : Json)
    (isBlank : Blanks behind) (value : Denotes grammar t (.value document)) :
    Denotes grammar (style.lineBreak depth ++ (t ++ behind)) (.element document) :=
  .element (lineBreak_blanks style depth) value isBlank

private theorem denotes_member (depth : Nat) (name t behind : Text) (document : Json)
    (isBlank : Blanks behind) (value : Denotes grammar t (.value document)) :
    Denotes grammar
      (style.lineBreak depth ++ (style.string name ++ (style.colon ++ (t ++ behind))))
      (.member (style.reading name) document) := by
  obtain ⟨blanks, colon, isBlank'⟩ := colon_blanks style
  have member := Denotes.member (lineBreak_blanks style depth) (spells_written style name)
    Blanks.nil (.element isBlank' value isBlank)
  rw [colon, Style.string]
  simp only [List.cons_append, List.append_assoc, List.nil_append] at member ⊢
  exact member

mutual

/-- The text of a document in a style denotes what is read from it. -/
theorem denotes_render (room : ∀ limit ∈ grammar.limit, Numeral.digitLimit ≤ limit) :
    ∀ (document : Json) (depth : Nat), Writable document →
      Denotes grammar (render style depth document) (.value (reread style document))
  | .null, _, _ => .word (List.mem_append_left _ (.head _))
  | .bool true, _, _ => .word (List.mem_append_left _ (.tail _ (.head _)))
  | .bool false, _, _ => .word (List.mem_append_left _ (.tail _ (.tail _ (.head _))))
  | .int n, _, short => denotes_ofInt room n short
  | .number x, _, finite => denotes_toText style.layout x finite
  | .string t, _, _ => denotes_string style t
  | .array [], _, _ => .emptyArray Blanks.nil
  | .array (item :: items), depth, writable => by
    have inside := denotes_renderItems room (item :: items) (depth + 1) depth writable
      (List.cons_ne_nil _ _)
    have shape : render style depth (.array (item :: items)) = 0x5b ::
        (renderItems style (depth + 1) (item :: items) ++ style.lineBreak depth ++ [0x5d]) := by
      have bracket : Text.ofString "[" = [0x5b] ∧ Text.ofString "]" = [0x5d] := ⟨rfl, rfl⟩
      simp only [render, bracket.1, bracket.2, List.append_assoc, List.cons_append,
        List.nil_append]
    rw [shape]
    exact .array inside
  | .object [], _, _ => .emptyObject Blanks.nil
  | .object (member :: members), depth, writable => by
    have inside := denotes_renderMembers room (member :: members) (depth + 1) depth writable
      (List.cons_ne_nil _ _)
    have shape : render style depth (.object (member :: members)) = 0x7b ::
        (renderMembers style (depth + 1) (member :: members) ++ style.lineBreak depth
          ++ [0x7d]) := by
      have brace : Text.ofString "\x7b" = [0x7b] ∧ Text.ofString "\x7d" = [0x7d] := ⟨rfl, rfl⟩
      simp only [render, brace.1, brace.2, List.append_assoc, List.cons_append, List.nil_append]
    rw [shape]
    exact .object inside

/-- The text of elements with the break before the closing bracket. -/
theorem denotes_renderItems (room : ∀ limit ∈ grammar.limit, Numeral.digitLimit ≤ limit) :
    ∀ (items : List Json) (depth outer : Nat), WritableItems items → items ≠ [] →
      Denotes grammar (renderItems style depth items ++ style.lineBreak outer)
        (.items (rereadItems style items))
  | [], _, _, _, nonempty => absurd rfl nonempty
  | [item], depth, outer, writable, _ => by
    have value := denotes_render room item depth writable.1
    rw [renderItems, List.append_assoc]
    exact .lastItem (denotes_line style depth _ _ _ (lineBreak_blanks style outer) value)
  | item :: next :: items, depth, outer, writable, _ => by
    have value := denotes_render room item depth writable.1
    have more := denotes_renderItems room (next :: items) depth outer writable.2
      (List.cons_ne_nil _ _)
    have line := denotes_line style depth _ [] _ Blanks.nil value
    have comma : Text.ofString "," = [0x2c] := rfl
    rw [renderItems, comma, List.append_assoc, List.append_assoc]
    rw [List.append_nil] at line
    exact .item line more

/-- The text of members with the break before the closing brace. -/
theorem denotes_renderMembers (room : ∀ limit ∈ grammar.limit, Numeral.digitLimit ≤ limit) :
    ∀ (members : List (Text × Json)) (depth outer : Nat), WritableMembers members → members ≠ [] →
      Denotes grammar (renderMembers style depth members ++ style.lineBreak outer)
        (.members (rereadMembers style members))
  | [], _, _, _, nonempty => absurd rfl nonempty
  | [(name, item)], depth, outer, writable, _ => by
    have value := denotes_render room item depth writable.1
    rw [renderMembers]
    simp only [List.append_assoc]
    exact .lastMember (denotes_member style depth name _ _ _ (lineBreak_blanks style outer) value)
  | (name, item) :: next :: members, depth, outer, writable, _ => by
    have value := denotes_render room item depth writable.1
    have more := denotes_renderMembers room (next :: members) depth outer writable.2
      (List.cons_ne_nil _ _)
    have line := Denotes.nextMember (denotes_member style depth name _ [] _ Blanks.nil value) more
    have comma : Text.ofString "," = [0x2c] := rfl
    rw [renderMembers, comma]
    simp only [List.append_assoc, List.nil_append, List.cons_append] at line ⊢
    exact line

end

/-! ## Whole texts -/

/-- What is written is a document. -/
theorem isDocument_write (room : ∀ limit ∈ grammar.limit, Numeral.digitLimit ≤ limit)
    (document : Json) (writable : Writable document) :
    IsDocument grammar (write style document) (reread style document) := by
  have element := Denotes.element Blanks.nil (denotes_render style room document 0 writable)
    Blanks.nil
  rw [List.nil_append, List.append_nil] at element
  exact element

end

/-- The reader takes back a document from its whole text. -/
theorem read_write (style : Style) (document : Json) (writable : Writable document) :
    read (write style document) = .ok (reread style document) := by
  apply read_of_isDocument
  refine isDocument_write style (fun limit isLimit => ?_) document writable
  obtain rfl := Option.some.inj isLimit
  exact Nat.le_refl _

end Tenancy.Json
