import Tenancy.Config.Settings
import Tenancy.Proofs.Distinct

/-!
# The sources of settings

The names of variables and of assignments are brought to lower case before a setting is looked up,
and of several names that become equal the last counts. What is found under a name is therefore
what the last assignment of that name says, in whichever case the name is written; and each name is
left once, so that what is no setting can be told by looking names up.
-/
namespace Tenancy.Settings

variable {α : Type}

/-- What the assignments say of a name in lower case: the last one of that name counts. -/
def assigned? (assignments : List (Text × α)) (name : Text) : Option α :=
  (assignments.reverse.find? (·.1.lower == name)).map (·.2)

/-- What is configured for a setting: what the environment says, or else what the file says. -/
def configured? (environment : Environment) (file : Text) (name : String) : Option Text :=
  (assigned? environment (variableName name)).or
    (assigned? (EnvFile.read environment file) (variableName name)).join

/-- The names that an environment file may assign to. -/
def IsSetting (name : Text) : Prop :=
  ∃ known ∈ names, name = variableName known ∨ name = Text.ofString known

/-- Assignments say nothing besides settings; an empty value says nothing. -/
def OnlySettings (assignments : List (Text × Option Text)) : Prop :=
  ∀ name value, assigned? assignments name = some (some value) → value ≠ [] → IsSetting name

/-! ## Names in lower case -/

theorem lookup_assign (name : Text) (value : α) (assigned : List (Text × α)) (other : Text) :
    (EnvFile.assign name value assigned).lookup other =
      if other = name then some value else assigned.lookup other := by
  induction assigned with
  | nil =>
    rw [EnvFile.assign, List.lookup_cons]
    split
    next same => rw [if_pos (beq_iff_eq.mp same)]
    next differs => rw [if_neg (beq_eq_false_iff_ne.mp differs)]
  | cons first rest ih =>
    obtain ⟨held, old⟩ := first
    rw [EnvFile.assign]
    by_cases present : held = name
    · subst present
      rw [if_pos rfl, List.lookup_cons, List.lookup_cons]
      split
      next same => rw [if_pos (beq_iff_eq.mp same)]
      next differs => rw [if_neg (beq_eq_false_iff_ne.mp differs)]
    · rw [if_neg present, List.lookup_cons, List.lookup_cons, ih]
      split
      next same =>
        rw [beq_iff_eq.mp same, if_neg present]
      next => rfl

theorem names_assign (name : Text) (value : α) (assigned : List (Text × α)) :
    (EnvFile.assign name value assigned).map (·.1) =
      if (assigned.map (·.1)).contains name then assigned.map (·.1)
      else assigned.map (·.1) ++ [name] := by
  induction assigned with
  | nil => rfl
  | cons first rest ih =>
    obtain ⟨held, old⟩ := first
    by_cases present : held = name
    · subst present
      simp [EnvFile.assign]
    · simp only [EnvFile.assign, if_neg present, List.map_cons, ih, List.contains_cons,
        beq_eq_false_iff_ne.mpr (Ne.symm present), Bool.false_or]
      split <;> rfl

private theorem foldCase_concat (assignments : List (Text × α)) (last : Text × α) :
    foldCase (assignments ++ [last]) =
      EnvFile.assign last.1.lower last.2 (foldCase assignments) := by
  simp only [foldCase, List.foldl_append, List.foldl_cons, List.foldl_nil]

/-- What is found under a name is what the last assignment of the name says. -/
theorem lookup_foldCase (assignments : List (Text × α)) (name : Text) :
    (foldCase assignments).lookup name = assigned? assignments name := by
  induction assignments using List.reverseRecOn with
  | nil => rfl
  | append_singleton assignments last ih =>
    rw [foldCase_concat, lookup_assign, ih, assigned?, assigned?, List.reverse_concat,
      List.find?_cons]
    by_cases same : name = last.1.lower
    · subst same
      rw [if_pos rfl, beq_self_eq_true]
      rfl
    · rw [if_neg same, beq_eq_false_iff_ne.mpr (Ne.symm same)]

/-- Each name is left once, in the place where it came first. -/
theorem names_foldCase (assignments : List (Text × α)) :
    (foldCase assignments).map (·.1) = (assignments.map (·.1.lower)).eraseDups := by
  induction assignments using List.reverseRecOn with
  | nil => rfl
  | append_singleton assignments last ih =>
    rw [foldCase_concat, names_assign, ih, List.map_append, List.map_singleton, eraseDups_concat]
    have known : (assignments.map (·.1.lower)).eraseDups.contains last.1.lower =
        (assignments.map (·.1.lower)).contains last.1.lower := by
      rw [Bool.eq_iff_iff, List.contains_iff_mem, List.contains_iff_mem, List.mem_eraseDups]
    rw [known]

theorem mem_foldCase_iff (assignments : List (Text × α)) (name : Text) (value : α) :
    (name, value) ∈ foldCase assignments ↔ assigned? assignments name = some value := by
  have unique : ((foldCase assignments).map (·.1)).Nodup := by
    rw [names_foldCase]
    exact nodup_eraseDups _
  rw [← lookup_foldCase, lookup_iff_mem name _ unique]

/-! ## Looking settings up -/

theorem given?_foldCase (environment : Environment) (file : Text) (name : String) :
    given? (foldCase environment) (foldCase (EnvFile.read environment file)) name =
      configured? environment file name := by
  rw [given?, lookup_foldCase, lookup_foldCase, configured?]
  cases assigned? environment (variableName name) <;> rfl

/-- Nothing is refused as no setting exactly where only settings are assigned. -/
theorem strangers_eq_nil_iff (assignments : List (Text × Option Text)) :
    strangers (foldCase assignments) = [] ↔ OnlySettings assignments := by
  rw [strangers, List.map_eq_nil_iff, List.filter_eq_nil_iff]
  -- The checks of one assignment, as its name and value
  have check (name : Text) (value : Option Text) :
      (value.any (!·.isEmpty) && names.all fun known =>
          name != variableName known && name != Text.ofString known) = true ↔
        (∃ text, value = some text ∧ text ≠ []) ∧ ¬IsSetting name := by
    rw [Bool.and_eq_true, Option.any_eq_true, List.all_eq_true, IsSetting]
    simp only [Bool.and_eq_true, bne_iff_ne, Bool.not_eq_true', List.isEmpty_eq_false_iff,
      not_exists, not_and, not_or, ne_eq]
  constructor
  · intro none name value assigned nonempty
    by_contra stranger
    exact none _ ((mem_foldCase_iff assignments name _).mpr assigned)
      ((check name _).mpr ⟨⟨value, rfl, nonempty⟩, stranger⟩)
  · rintro only ⟨name, value⟩ member stranger
    obtain ⟨⟨text, rfl, nonempty⟩, unknown⟩ := (check name value).mp stranger
    exact unknown (only name text ((mem_foldCase_iff assignments name _).mp member) nonempty)

end Tenancy.Settings
