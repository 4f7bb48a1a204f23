import Mathlib.Data.List.Induction
import Mathlib.Data.List.Nodup

/-!
# Distinct elements

The distinct elements of a list, each at its first place, while the list grows at its end. Members
under distinct names are found under their names, whichever end the search starts from.
-/
namespace Tenancy

variable {α : Type} [BEq α] [LawfulBEq α]

theorem eraseDups_concat (l : List α) (a : α) :
    (l ++ [a]).eraseDups = if l.contains a then l.eraseDups else l.eraseDups ++ [a] := by
  rw [List.eraseDups_append]
  by_cases member : a ∈ l <;> simp [List.cons_removeAll, member, List.eraseDups_cons]

theorem nodup_eraseDups (l : List α) : l.eraseDups.Nodup := by
  induction l using List.reverseRecOn with
  | nil => exact List.nodup_nil
  | append_singleton l a ih =>
    rw [eraseDups_concat]
    split
    next => exact ih
    next fresh => exact List.nodup_append.mpr ⟨ih, List.nodup_singleton a, by
      rintro b member _ single rfl
      rw [List.mem_singleton.mp single] at member
      exact fresh (List.contains_iff_mem.mpr (List.mem_eraseDups.mp member))⟩

section
variable {β : Type} (name : α) (members : List (α × β))

theorem lookup_eq_find? :
    members.lookup name = (members.find? (·.1 == name)).map (·.2) := by
  induction members with
  | nil => rfl
  | cons first rest ih =>
    rw [List.lookup_cons, List.find?_cons, BEq.comm, ih]
    cases first.1 == name <;> rfl

variable (unique : (members.map (·.1)).Nodup)
include unique

theorem find?_name_iff (member : α × β) :
    members.find? (·.1 == name) = some member ↔ member ∈ members ∧ member.1 = name := by
  constructor
  · intro found
    have named := List.find?_some found
    exact ⟨List.mem_of_find?_eq_some found, beq_iff_eq.mp named⟩
  · rintro ⟨isIn, rfl⟩
    cases found : members.find? (·.1 == member.1) with
    | none =>
      rw [List.find?_eq_none] at found
      exact absurd (beq_self_eq_true member.1) (found member isIn)
    | some other =>
      have named := List.find?_some found
      rw [List.inj_on_of_nodup_map unique (List.mem_of_find?_eq_some found) isIn
        (beq_iff_eq.mp named)]

theorem find?_reverse :
    members.reverse.find? (·.1 == name) = members.find? (·.1 == name) := by
  have reversed : (members.reverse.map (·.1)).Nodup := by
    rw [List.map_reverse, List.nodup_reverse]
    exact unique
  refine Option.ext fun member => ?_
  rw [find?_name_iff name members unique, find?_name_iff name members.reverse reversed,
    List.mem_reverse]

theorem lookup_iff_mem (b : β) : members.lookup name = some b ↔ (name, b) ∈ members := by
  rw [lookup_eq_find?, Option.map_eq_some_iff]
  constructor
  · rintro ⟨member, found, rfl⟩
    obtain ⟨isIn, rfl⟩ := (find?_name_iff name members unique member).mp found
    exact isIn
  · intro isIn
    exact ⟨(name, b), (find?_name_iff name members unique _).mpr ⟨isIn, rfl⟩, rfl⟩

end

end Tenancy
