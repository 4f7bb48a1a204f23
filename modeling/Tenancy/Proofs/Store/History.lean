import Tenancy.Proofs.Distinct
import Tenancy.Proofs.Store.Row

/-!
# Rows of a history

What rows writes make one after the other is a matter of lists: each workspace has one row, in the
order of the first writes, with its last token, its last settings, and the author and the time of
its last write.
-/
namespace Tenancy.Store

/-- The rows that writes make one after the other. -/
def rowsOf (history : List Written) : List WorkspaceRow :=
  history.foldl (fun rows written => written.apply rows) []

/-- The workspaces that were written, in the order of their first writes. -/
def idsOf (history : List Written) : List Text := (history.map (·.id)).eraseDups

/-- The writes of one workspace. -/
def writesOf (history : List Written) (id : Text) : List Written :=
  history.filter (·.id == id)

/-- The writes of a token only. -/
def tokenWrites (history : List Written) (id : Text) : List Written :=
  (writesOf history id).filter (·.settings.isNone)

/-- The writes of settings. -/
def settingsWrites (history : List Written) (id : Text) : List Written :=
  (writesOf history id).filter (·.settings.isSome)

/-- The token of a workspace after a history: the last one that was written as such, or else the
one that was minted for the first settings. -/
def tokenOf (history : List Written) (id : Text) : Text :=
  match (tokenWrites history id).getLast? with
  | some written => written.token
  | none => (settingsWrites history id).head?.elim [] (·.token)

/-- The settings of a workspace after a history: the last ones that were written. -/
def settingsOf (history : List Written) (id : Text) : Option StoredSettings :=
  (settingsWrites history id).getLast?.bind (·.settings)

/-- The row of a workspace after a history, if it was written; author and time are those of the last
write. -/
def row? (history : List Written) (id : Text) : Option WorkspaceRow :=
  (writesOf history id).getLast?.map fun last =>
    ⟨id, tokenOf history id, settingsOf history id, last.modifiedBy, last.seconds⟩

theorem row?_id (history : List Written) (id : Text) (row : WorkspaceRow)
    (found : row? history id = some row) : row.id = id := by
  obtain ⟨last, -, rfl⟩ := Option.map_eq_some_iff.mp found
  rfl

theorem row?_eq_none_iff (history : List Written) (id : Text) :
    row? history id = none ↔ id ∉ idsOf history := by
  rw [row?, Option.map_eq_none_iff, List.getLast?_eq_none_iff, writesOf, List.filter_eq_nil_iff,
    idsOf, List.mem_eraseDups, List.mem_map]
  simp only [beq_iff_eq, not_exists, not_and]

-- A write changes the row of its own workspace only
private theorem row?_other (history : List Written) (written : Written) (id : Text)
    (apart : written.id ≠ id) : row? (history ++ [written]) id = row? history id := by
  have writes : writesOf (history ++ [written]) id = writesOf history id := by
    simp [writesOf, apart]
  simp only [row?, tokenOf, settingsOf, tokenWrites, settingsWrites, writes]

section
variable (history : List Written) (written : Written)

private theorem writesOf_own :
    writesOf (history ++ [written]) written.id = writesOf history written.id ++ [written] := by
  simp [writesOf]

private theorem tokenOf_token (isToken : written.settings = none) :
    tokenOf (history ++ [written]) written.id = written.token := by
  simp [tokenOf, tokenWrites, writesOf_own, isToken]

-- The first settings bring a token
private theorem tokenOf_first (settings : StoredSettings)
    (isSettings : written.settings = some settings) (first : writesOf history written.id = []) :
    tokenOf (history ++ [written]) written.id = written.token := by
  simp [tokenOf, tokenWrites, settingsWrites, writesOf_own, isSettings, first]

-- Later settings leave the token: the first settings stay the first ones, and where no token has
-- been written there have been settings before
private theorem tokenOf_kept (settings : StoredSettings)
    (isSettings : written.settings = some settings) (last : Written)
    (before : last ∈ writesOf history written.id) :
    tokenOf (history ++ [written]) written.id = tokenOf history written.id := by
  have tokens : tokenWrites (history ++ [written]) written.id = tokenWrites history written.id := by
    simp [tokenWrites, writesOf_own, isSettings]
  have others : settingsWrites (history ++ [written]) written.id =
      settingsWrites history written.id ++ [written] := by
    simp [settingsWrites, writesOf_own, isSettings]
  rw [tokenOf, tokens, others, tokenOf]
  split
  next => rfl
  next none =>
    -- No token was written, so the write before had settings, and the first of them are not new
    have noToken := List.filter_eq_nil_iff.mp (List.getLast?_eq_none_iff.mp none) last before
    have member : last ∈ settingsWrites history written.id :=
      List.mem_filter.mpr ⟨before, by simpa [Option.isSome_iff_ne_none] using noToken⟩
    rw [List.head?_append_of_ne_nil _ (List.ne_nil_of_mem member)]

private theorem settingsOf_token (isToken : written.settings = none) :
    settingsOf (history ++ [written]) written.id = settingsOf history written.id := by
  simp [settingsOf, settingsWrites, writesOf_own, isToken]

private theorem settingsOf_settings (settings : StoredSettings)
    (isSettings : written.settings = some settings) :
    settingsOf (history ++ [written]) written.id = some settings := by
  simp [settingsOf, settingsWrites, writesOf_own, isSettings]

-- A write makes the row of a new workspace, and changes the row of one that is there
private theorem row?_own :
    row? (history ++ [written]) written.id = some (match row? history written.id with
      | none => written.newRow
      | some row => written.update row) := by
  rw [row?, writesOf_own, List.getLast?_concat, Option.map_some]
  -- The workspace has a row exactly if something was written for it before
  cases last : (writesOf history written.id).getLast? with
  | none =>
    have first := List.getLast?_eq_none_iff.mp last
    have none : settingsOf history written.id = none := by
      simp [settingsOf, settingsWrites, first]
    rw [row?, last, Option.map_none]
    cases settings : written.settings with
    | none =>
      rw [tokenOf_token history written settings, settingsOf_token history written settings, none,
        Written.newRow, settings]
    | some stored =>
      rw [tokenOf_first history written stored settings first,
        settingsOf_settings history written stored settings, Written.newRow, settings]
  | some before =>
    have member := List.mem_of_getLast? last
    rw [row?, last, Option.map_some]
    cases settings : written.settings with
    | none =>
      rw [tokenOf_token history written settings, settingsOf_token history written settings]
      simp only [Written.update, settings]
    | some stored =>
      rw [tokenOf_kept history written stored settings before member,
        settingsOf_settings history written stored settings]
      simp only [Written.update, settings]

/-- Settings that are written are those of the row. -/
theorem row?_settings (settings : StoredSettings) (isSettings : written.settings = some settings) :
    ∃ row, row? (history ++ [written]) written.id = some row ∧ row.settings = some settings := by
  rw [row?_own]
  cases row? history written.id with
  | none => exact ⟨_, rfl, isSettings⟩
  | some row =>
    refine ⟨_, rfl, ?_⟩
    simp only [Written.update, isSettings]

end

/-! ## The rows that writes make -/

theorem rowsOf_concat (history : List Written) (written : Written) :
    rowsOf (history ++ [written]) = written.apply (rowsOf history) := by
  simp [rowsOf]

private theorem idsOf_append (history : List Written) (written : Written) :
    idsOf (history ++ [written]) =
      if (history.map (·.id)).contains written.id then idsOf history
      else idsOf history ++ [written.id] := by
  rw [idsOf, List.map_append, List.map_singleton, eraseDups_concat]
  rfl

private theorem mem_idsOf_iff (history : List Written) (id : Text) :
    id ∈ idsOf history ↔ (history.map (·.id)).contains id = true := by
  rw [idsOf, List.mem_eraseDups, List.contains_iff_mem]

theorem nodup_idsOf (history : List Written) : (idsOf history).Nodup := nodup_eraseDups _

-- Rows that are those of a history belong to its workspaces
private theorem ids_of_rows (history : List Written) (rows : List WorkspaceRow)
    (same : rows.map some = (idsOf history).map (row? history)) :
    rows.map (·.id) = idsOf history := by
  apply List.map_injective_iff.mpr (Option.some_injective Text)
  calc (rows.map (·.id)).map some
      = (rows.map some).map (Option.map (·.id)) := by
        rw [List.map_map, List.map_map]
        rfl
    _ = (idsOf history).map (fun id => (row? history id).map (·.id)) := by
        rw [same, List.map_map]
        rfl
    _ = (idsOf history).map some := by
        apply List.map_congr_left
        intro id member
        cases row : row? history id with
        | none => exact absurd member ((row?_eq_none_iff history id).mp row)
        | some found => rw [Option.map_some, row?_id history id found row]

-- What a write does to the row of a workspace that has one
private theorem row?_append (history : List Written) (written : Written) (id : Text)
    (member : id ∈ idsOf history) :
    row? (history ++ [written]) id = (row? history id).map fun row =>
      if row.id == written.id then written.update row else row := by
  cases row : row? history id with
  | none => exact absurd member ((row?_eq_none_iff history id).mp row)
  | some found =>
    have own := row?_id history id found row
    rw [Option.map_some]
    by_cases eq : written.id = id
    · subst eq
      rw [row?_own, row, own, beq_self_eq_true, if_pos rfl]
    · rw [row?_other history written id eq, row, own, if_neg fun same => eq (eq_of_beq same).symm]

/-- The rows that writes make are those of their history. -/
theorem rowsOf_spec (history : List Written) :
    (rowsOf history).map some = (idsOf history).map (row? history) := by
  -- The last write is the last to be applied, so the induction takes it off the end
  induction history using List.reverseRecOn with
  | nil => rfl
  | append_singleton history written ih =>
    have present : (rowsOf history).any (·.id == written.id) = true ↔
        written.id ∈ idsOf history := by
      rw [← ids_of_rows history _ ih, List.any_eq_true, List.mem_map]
      simp only [beq_iff_eq]
    rw [mem_idsOf_iff] at present
    rw [rowsOf_concat, Written.apply, idsOf_append]
    split
    next found =>
      -- No new workspace: each row is changed as its history says
      rw [if_pos (present.mp found)]
      calc ((rowsOf history).map fun row =>
            if row.id == written.id then written.update row else row).map some
          = ((rowsOf history).map some).map (Option.map fun row =>
              if row.id == written.id then written.update row else row) := by
            rw [List.map_map, List.map_map]
            rfl
        _ = (idsOf history).map (row? (history ++ [written])) := by
            rw [ih, List.map_map]
            exact List.map_congr_left fun id member =>
              (row?_append history written id member).symm
    next fresh =>
      -- A new workspace: its row comes last, and the other rows do not see the write
      have absent := fun contained => fresh (present.mpr contained)
      have new : written.id ∉ idsOf history := (mem_idsOf_iff history _).not.mpr absent
      have others : (idsOf history).map (row? (history ++ [written])) =
          (idsOf history).map (row? history) :=
        List.map_congr_left fun id member =>
          row?_other history written id fun eq => new (eq ▸ member)
      rw [if_neg absent, List.map_append, List.map_append, ih, others, List.map_singleton,
        List.map_singleton, row?_own, (row?_eq_none_iff history written.id).mpr new]

/-- A workspace has at most one row. -/
theorem ids_rowsOf (history : List Written) : (rowsOf history).map (·.id) = idsOf history :=
  ids_of_rows history _ (rowsOf_spec history)

/-- The row of an id among rows. -/
theorem filter_rowsOf (history : List Written) (id : Text) :
    (rowsOf history).filter (·.id == id) = (row? history id).toList := by
  have owners : ((rowsOf history).filter (·.id == id)).map some =
      ((idsOf history).filter (· == id)).map (row? history) := by
    have owned (other : Text) (member : other ∈ idsOf history) :
        (row? history other).any (·.id == id) = (other == id) := by
      cases row : row? history other with
      | none => exact absurd member ((row?_eq_none_iff history other).mp row)
      | some found => rw [Option.any_some, row?_id history other found row]
    calc ((rowsOf history).filter (·.id == id)).map some
        = ((rowsOf history).map some).filter (·.any (·.id == id)) := by
          rw [List.filter_map]
          rfl
      _ = ((idsOf history).filter fun other => (row? history other).any (·.id == id)).map
            (row? history) := by
          rw [rowsOf_spec, List.filter_map]
          rfl
      _ = ((idsOf history).filter (· == id)).map (row? history) := by
          rw [List.filter_congr owned]
  apply List.map_injective_iff.mpr (Option.some_injective WorkspaceRow)
  rw [owners, List.filter_beq]
  cases row : row? history id with
  | none =>
    rw [List.count_eq_zero_of_not_mem ((row?_eq_none_iff history id).mp row)]
    rfl
  | some found =>
    have member : id ∈ idsOf history := by
      by_contra absent
      rw [(row?_eq_none_iff history id).mpr absent] at row
      cases row
    rw [List.count_eq_one_of_mem (nodup_idsOf history) member]
    exact congrArg ([·]) row

/-! ## Octets -/

/-- Whether the texts of a row have octets. Those of settings are no part of it: they are stored by
a text of their own. -/
structure WorkspaceRow.Encodable (row : WorkspaceRow) : Prop where
  id : row.id.isEncodable = true
  token : row.token.isEncodable = true
  modifiedBy : row.modifiedBy.isEncodable = true

-- A write that the database can keep makes rows whose texts have octets
private theorem apply_encodable (written : Written) (storable : written.Storable)
    (rows : List WorkspaceRow) (all : ∀ row ∈ rows, row.Encodable) :
    ∀ row ∈ written.apply rows, row.Encodable := by
  intro row member
  rw [Written.apply] at member
  split at member
  next =>
    obtain ⟨old, inRows, rfl⟩ := List.mem_map.mp member
    have encodable := all old inRows
    split
    next =>
      rw [Written.update]
      split
      · exact ⟨encodable.id, storable.token, storable.modifiedBy⟩
      · exact ⟨encodable.id, encodable.token, storable.modifiedBy⟩
    next => exact encodable
  next =>
    rcases List.mem_append.mp member with old | new
    · exact all row old
    · rw [List.mem_singleton.mp new]
      exact ⟨storable.id, storable.token, storable.modifiedBy⟩

theorem rowsOf_encodable (history : List Written)
    (storable : ∀ written ∈ history, written.Storable) :
    ∀ row ∈ rowsOf history, row.Encodable := by
  induction history using List.reverseRecOn with
  | nil =>
    intro row member
    cases member
  | append_singleton history written ih =>
    rw [rowsOf_concat]
    exact apply_encodable written (storable written (by simp)) _
      (ih fun other member => storable other (List.mem_append_left _ member))

/-- The row of a workspace is one of the rows. -/
theorem mem_rowsOf (history : List Written) (id : Text) (row : WorkspaceRow)
    (found : row? history id = some row) : row ∈ rowsOf history := by
  have one := filter_rowsOf history id
  rw [found, Option.toList_some] at one
  have member : row ∈ (rowsOf history).filter (·.id == id) := by
    rw [one]
    exact List.mem_singleton_self row
  exact List.mem_of_mem_filter member

end Tenancy.Store
