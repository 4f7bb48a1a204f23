import Tenancy.Database.Query
import Tenancy.Proofs.Distinct

/-!
# Grouping

The groups of rows are, in some order, one for each key that occurs, with all rows of that key.
-/
namespace Tenancy.Database

open Sql

/-- The key of a row. -/
def keyOf (groupBy : List Expr) (frame : Frame) : List Cell := groupBy.map (evaluate frame)

/-- The rows of a key. -/
def withKey (groupBy : List Expr) (rows : List Frame) (key : List Cell) : List Frame :=
  rows.filter (keyOf groupBy · == key)

/-- The keys that occur, each once. -/
def keysOf (groupBy : List Expr) (rows : List Frame) : List (List Cell) :=
  (rows.map (keyOf groupBy)).eraseDups

section
variable (groupBy : List Expr)

-- A row goes to the group of its key, if that is there
private theorem addToGroup_present (key : List Cell) (frame : Frame) (keys : List (List Cell))
    (members : List Cell → List Frame) (distinct : keys.Nodup) (present : key ∈ keys) :
    addToGroup key frame (keys.map fun k => (k, members k)) =
      keys.map fun k => (k, if k = key then members k ++ [frame] else members k) := by
  induction keys with
  | nil => cases present
  | cons k keys ih =>
    obtain ⟨fresh, distinct⟩ := List.nodup_cons.mp distinct
    rw [List.map_cons, addToGroup, List.map_cons]
    by_cases eq : k = key
    · subst eq
      rw [if_pos rfl, if_pos rfl]
      congr 1
      apply List.map_congr_left
      intro other member
      rw [if_neg]
      rintro rfl
      exact fresh member
    · rw [if_neg eq, if_neg eq, ih distinct ((List.mem_cons.mp present).resolve_left (Ne.symm eq))]

-- A row of a new key makes a group behind the others
private theorem addToGroup_fresh (key : List Cell) (frame : Frame) (keys : List (List Cell))
    (members : List Cell → List Frame) (fresh : key ∉ keys) :
    addToGroup key frame (keys.map fun k => (k, members k)) =
      (keys.map fun k => (k, members k)) ++ [(key, [frame])] := by
  induction keys with
  | nil => rfl
  | cons k keys ih =>
    obtain ⟨differ, fresh⟩ := List.ne_and_not_mem_of_not_mem_cons fresh
    rw [List.map_cons, addToGroup, if_neg (Ne.symm differ), ih fresh, List.cons_append]

-- The groups before they are sorted
private theorem foldl_addToGroup (rows : List Frame) :
    rows.foldl (fun grouped frame => addToGroup (keyOf groupBy frame) frame grouped) [] =
      (keysOf groupBy rows).map fun key => (key, withKey groupBy rows key) := by
  -- The induction takes rows off the end, as the fold puts the last row into its group last
  induction rows using List.reverseRecOn with
  | nil => rfl
  | append_singleton rows frame ih =>
    have members (key : List Cell) : withKey groupBy (rows ++ [frame]) key =
        if key = keyOf groupBy frame then withKey groupBy rows key ++ [frame]
        else withKey groupBy rows key := by
      by_cases eq : key = keyOf groupBy frame
      · simp [withKey, eq]
      · simp [withKey, eq, Ne.symm eq]
    have keys : keysOf groupBy (rows ++ [frame]) =
        if (rows.map (keyOf groupBy)).contains (keyOf groupBy frame) then keysOf groupBy rows
        else keysOf groupBy rows ++ [keyOf groupBy frame] := by
      rw [keysOf, List.map_append, List.map_singleton, eraseDups_concat]
      rfl
    rw [List.foldl_append, ih, List.foldl_cons, List.foldl_nil, keys]
    simp only [members]
    split
    next present =>
      exact addToGroup_present _ _ _ _ (nodup_eraseDups _)
        (List.mem_eraseDups.mpr (List.contains_iff_mem.mp present))
    next absent =>
      -- No row before had this key, so its group starts here and the others stay as they are
      have fresh : keyOf groupBy frame ∉ keysOf groupBy rows :=
        fun member => absent (List.contains_iff_mem.mpr (List.mem_eraseDups.mp member))
      have none : withKey groupBy rows (keyOf groupBy frame) = [] := by
        apply List.filter_eq_nil_iff.mpr
        intro other member same
        exact absent (List.contains_iff_mem.mpr (eq_of_beq same ▸ List.mem_map_of_mem member))
      have others : (keysOf groupBy rows).map (fun key => (key,
          if key = keyOf groupBy frame then withKey groupBy rows key ++ [frame]
          else withKey groupBy rows key)) =
            (keysOf groupBy rows).map fun key => (key, withKey groupBy rows key) := by
        apply List.map_congr_left
        intro key member
        rw [if_neg]
        rintro rfl
        exact fresh member
      rw [addToGroup_fresh _ _ _ _ fresh, List.map_append, List.map_singleton, if_pos rfl, none,
        List.nil_append]
      exact congrArg (· ++ [(keyOf groupBy frame, [frame])]) others.symm

/-- The groups are those of the keys that occur. -/
theorem groups_perm (rows : List Frame) :
    (groups groupBy rows).Perm ((keysOf groupBy rows).map (withKey groupBy rows)) := by
  have sorted := (List.mergeSort_perm (rows.foldl (fun grouped frame =>
    addToGroup (keyOf groupBy frame) frame grouped) []) fun a b => keysLe a.1 b.1).map (·.2)
  have unsorted : ((keysOf groupBy rows).map fun key => (key, withKey groupBy rows key)).map (·.2) =
      (keysOf groupBy rows).map (withKey groupBy rows) := by
    rw [List.map_map]
    rfl
  rw [← unsorted, ← foldl_addToGroup groupBy rows]
  exact sorted

end

end Tenancy.Database
