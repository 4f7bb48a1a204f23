import Tenancy.Store.Basic

/-!
# Results of steps

What a step gives and where it leaves what it reaches. The parts of a step run one after the other;
the first that fails ends it, and what the parts before have done stays.
-/
namespace Tenancy.Step

variable {δ α β : Type}

/-- The outcome of a step, and what it reaches afterwards. -/
def result (step : Step δ α) (world : World δ) : Except Fault α × World δ := step.run.run world

theorem result_bind (first : Step δ α) (next : α → Step δ β) (world : World δ) :
    result (first >>= next) world = match result first world with
      | (.ok a, after) => result (next a) after
      | (.error fault, after) => (.error fault, after) := by
  unfold result ExceptT.run StateT.run
  simp only [bind, ExceptT.bind, ExceptT.mk, StateT.bind, ExceptT.bindCont]
  cases first world with
  | mk outcome after => cases outcome <;> rfl

theorem result_bind_ok (first : Step δ α) (next : α → Step δ β) (world after : World δ) (a : α)
    (success : result first world = (.ok a, after)) :
    result (first >>= next) world = result (next a) after := by
  rw [result_bind, success]

theorem result_bind_error (first : Step δ α) (next : α → Step δ β) (world after : World δ)
    (fault : Fault) (failure : result first world = (.error fault, after)) :
    result (first >>= next) world = (.error fault, after) := by
  rw [result_bind, failure]

/-- What only looks at a result leaves what was reached with it. -/
theorem result_bind_snd (first : Step δ α) (next : α → Step δ β) (world : World δ)
    (looks : ∀ a after, (result (next a) after).2 = after) :
    (result (first >>= next) world).2 = (result first world).2 := by
  rw [result_bind]
  rcases result first world with ⟨outcome, after⟩
  cases outcome with
  | ok a => exact looks a after
  | error fault => rfl

theorem result_tryCatch (step : Step δ α) (handler : Fault → Step δ α) (world : World δ) :
    result (tryCatch step handler) world = match result step world with
      | (.ok a, after) => (.ok a, after)
      | (.error fault, after) => result (handler fault) after := by
  unfold result ExceptT.run StateT.run
  simp only [tryCatch, tryCatchThe, MonadExceptOf.tryCatch, ExceptT.tryCatch, ExceptT.mk, bind,
    StateT.bind]
  cases step world with
  | mk outcome after => cases outcome <;> rfl

theorem result_tryCatch_ok (step : Step δ α) (handler : Fault → Step δ α) (world after : World δ)
    (a : α) (success : result step world = (.ok a, after)) :
    result (tryCatch step handler) world = (.ok a, after) := by
  rw [result_tryCatch, success]

theorem result_tryCatch_error (step : Step δ α) (handler : Fault → Step δ α)
    (world after : World δ) (fault : Fault) (failure : result step world = (.error fault, after)) :
    result (tryCatch step handler) world = result (handler fault) after := by
  rw [result_tryCatch, failure]

theorem result_ofExcept (outcome : Except Fault α) (world : World δ) :
    result (ofExcept outcome) world = (outcome, world) := by
  cases outcome <;> rfl

theorem result_readClock (world : World δ) :
    result readClock world = (match world.clock.toInt with
      | .ok seconds => .ok seconds
      | .error cause => .error (.conversion cause), world) := by
  have read : result readClock world = result (match world.clock.toInt with
      | .ok seconds => return seconds
      | .error cause => throw (.conversion cause) : Step δ Int) world := rfl
  rw [read]
  cases world.clock.toInt <;> rfl

theorem result_mintToken (world : World δ) :
    result mintToken world =
      (.ok (Token.ofSeed world.seeds.next), { world with seeds := world.seeds.advance }) :=
  rfl

private theorem result_get (world : World δ) :
    result (get : Step δ (World δ)) world = (.ok world, world) :=
  rfl

private theorem result_set (world after : World δ) :
    result (set after : Step δ PUnit) world = (.ok ⟨⟩, after) :=
  rfl

theorem result_connect [Engine δ] (checkout : Checkout) (world : World δ) :
    result (connect checkout) world = ((Engine.connect checkout world.database).1,
      { world with database := (Engine.connect checkout world.database).2 }) := by
  simp only [connect, result_bind, result_get, result_set]
  cases (Engine.connect checkout world.database).1 <;> rfl

theorem result_execute [Engine δ] (dialect : Dialect) (statement : Sql.Statement)
    (world : World δ) :
    result (execute dialect statement) world =
      ((Engine.execute dialect statement world.database).1,
        { world with database := (Engine.execute dialect statement world.database).2 }) := by
  simp only [execute, result_bind, result_get, result_set]
  cases (Engine.execute dialect statement world.database).1 <;> rfl

end Tenancy.Step
