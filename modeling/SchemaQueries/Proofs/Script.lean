import Mathlib.Data.Prod.Basic
import SchemaQueries.Proofs.Steps
import SchemaQueries.Script

/-!
# Runs, action by action

A run changes files and reports events, and nothing else. A script that is put together from others runs
as they do, one after the other, and a failure of one of them ends it.

## Main results

* `Script.run_snd` — what a run does not change.
* `Script.run_lift_bind`, `Script.run_orFail_bind`, … — scripts that can fail, action by action.
* `Script.run_bind_eq_ok_iff` — scripts that go through one after the other.
-/

set_option autoImplicit false
set_option relaxedAutoImplicit false

namespace SchemaQueries

/-! ### What is not changed -/

/-- An action changes neither the input nor the endpoint. -/
theorem World.perform_snd (w : World) (action : Action) :
    (w.perform action).2.input = w.input ∧ (w.perform action).2.endpoint = w.endpoint := by
  have hchange (result : Except SystemError FileSystem) :
      (w.change result).2.input = w.input ∧ (w.change result).2.endpoint = w.endpoint := by
    cases result <;> exact ⟨rfl, rfl⟩
  cases action with
  | createDirectory | truncateFile | createFile | writeFile => exact hchange _
  | _ => exact ⟨rfl, rfl⟩

namespace Script

variable {α β : Type}

/-- A run changes neither the input nor the endpoint. -/
theorem run_snd (script : Script α) (w : World) :
    (script.run w).2.input = w.input ∧ (script.run w).2.endpoint = w.endpoint := by
  induction script generalizing w with
  | done a => exact ⟨rfl, rfl⟩
  | ask action next ih =>
    obtain ⟨hinput, hendpoint⟩ := w.perform_snd action
    obtain ⟨hinput', hendpoint'⟩ := ih (w.perform action).1 (w.perform action).2
    exact ⟨hinput'.trans hinput, hendpoint'.trans hendpoint⟩

/-! ### Scripts that can fail -/

section Failing

variable {ε ε' : Type}

/-- Scripts one after the other may be put in brackets either way. -/
theorem bind_assoc {γ : Type} (script : Script α) (f : α → Script β) (g : β → Script γ) :
    (script.bind f).bind g = script.bind fun a => (f a).bind g := by
  induction script with
  | done a => rfl
  | ask action next ih => exact congrArg (ask action) (funext fun x => ih x)

/-- What follows an action is the rest of the script. -/
theorem perform_bind (action : Action) (f : action.Result → Script β) :
    (perform action).bind f = ask action f := rfl

/-- What follows a script that cannot fail. -/
theorem run_lift_bind (script : Script α) (f : α → ExceptT ε Script β) :
    ((liftM script : ExceptT ε Script α) >>= f).run = script.bind fun a => (f a).run :=
  bind_assoc script (done ∘ Except.ok) (ExceptT.bindCont f)

/-- What follows a result that is there. -/
theorem run_liftExcept_bind (result : Except ε α) (f : α → ExceptT ε Script β) :
    ((liftM result : ExceptT ε Script α) >>= f).run =
      match result with
      | .ok a => (f a).run
      | .error e => done (.error e) := by
  cases result <;> rfl

/-- What follows a script that can fail. -/
theorem run_bindE (script : ExceptT ε Script α) (f : α → ExceptT ε Script β) :
    (script >>= f).run = script.run.bind fun
      | .ok a => (f a).run
      | .error e => done (.error e) :=
  congrArg (Script.bind script.run) (funext fun x => by cases x <;> rfl)

/-- What follows a script whose failure is put in other words. -/
theorem run_orFail_bind (script : Script (Except ε α)) (reason : ε → ε')
    (f : α → ExceptT ε' Script β) :
    (script.orFail reason >>= f).run = script.bind fun
      | .ok a => (f a).run
      | .error e => done (.error (reason e)) := by
  refine (bind_assoc script _ (ExceptT.bindCont f)).trans ?_
  exact congrArg (Script.bind script) (funext fun x => by cases x <;> rfl)

/-- Steps of scripts that leave the world as it is are steps of what they give. -/
theorem run_bind_eq {script : ExceptT ε Script α} {f : α → ExceptT ε Script β} {x : Except ε α}
    {g : α → Except ε β} {w w' : World} (hscript : script.run.run w = (x, w'))
    (hf : ∀ a, (f a).run.run w' = (g a, w')) : (script >>= f).run.run w = (x >>= g, w') := by
  rw [run_bindE, run_bind, hscript]
  cases x with
  | error e => rfl
  | ok a => exact hf a

/-- A script that can fail, followed by another one, goes through exactly if it does and then the other
one. -/
theorem run_bind_eq_ok_iff {script : ExceptT ε Script α} {f : α → ExceptT ε Script β} {w w' : World}
    {b : β} : (script >>= f).run.run w = (.ok b, w') ↔
      ∃ a v, script.run.run w = (.ok a, v) ∧ (f a).run.run v = (.ok b, w') := by
  rw [run_bindE, run_bind]
  rcases script.run.run w with ⟨_ | a, v⟩
  · simp [run]
  · refine ⟨fun h => ⟨a, v, rfl, h⟩, ?_⟩
    rintro ⟨_, _, hfirst, h⟩
    cases hfirst
    exact h

/-- A result with its failure put in other words goes through exactly if it is there. -/
theorem run_known_eq_ok_iff {result : Except ε α} {reason : ε → ε'} {w w' : World} {a : α} :
    (known result reason).run.run w = (.ok a, w') ↔ result = .ok a ∧ w' = w := by
  show (result.mapError reason, w) = (.ok a, w') ↔ _
  rw [Prod.mk.injEq, Steps.mapError_eq_ok_iff, eq_comm (a := w)]

/-- A script whose failure is put in other words goes through exactly if it does so itself. -/
theorem run_orFail_eq_ok_iff {script : Script (Except ε α)} {reason : ε → ε'} {w w' : World} {a : α} :
    (script.orFail reason).run.run w = (.ok a, w') ↔ script.run w = (.ok a, w') := by
  show (script.bind _).run w = _ ↔ _
  rw [run_bind]
  show ((script.run w).1.mapError reason, (script.run w).2) = _ ↔ _
  rw [Prod.mk.injEq, Steps.mapError_eq_ok_iff, Prod.ext_iff]

end Failing

end Script

end SchemaQueries
