import SchemaQueries.Proofs.Script

/-!
# Runs in which actions fail

A world gives a script what the files have to offer. A system may fail an action all the same: a
permission is missing, a limit is reached, a device is full. Then the script goes on with the failure,
and the world is as it was before. Only a write leaves something behind, for its file has been opened by
then: the file holds what has been written until the write breaks off.

What fails is given from outside, action by action, so that runs can be compared that meet the same
failures.

## Main definitions

* `Fault`, `World.fail` — how an action fails, and what that leaves behind.
* `Script.Step`, `Script.Takes` — the actions of a run, each with its failure, and the run that takes
  them.
* `Script.runWith` — the run that meets given failures.
* `Script.Write`, `Script.writesTo` — the writes to a file.
* `Script.Runs` — a run in which any action may fail, but no write breaks off.
* `Script.Reads` — a script that changes no file.

## Main results

* `Script.takes_run` — a run in which nothing fails.
* `Script.Takes.unique` — the failures decide what a script comes to.
* `Script.Takes.ask_inv`, `Script.Takes.bind_inv`, `Script.Runs.bindE_inv`, … — a run taken apart.
* `Script.Takes.of_reads` — a script that changes no file leaves the files as they are, whatever fails.
-/

set_option autoImplicit false
set_option relaxedAutoImplicit false

namespace SchemaQueries

/-- How an action fails. -/
structure Fault where
  error : SystemError
  /-- Where the first line of a file is asked for: the file has been opened. -/
  opened : Bool
  /-- Where a file is written: so many bytes of the content have been written. -/
  written : Nat
  deriving DecidableEq, Repr

namespace World

/-- What a script gets when its action fails, and how the world is afterwards. Only a write that breaks
off changes it. What comes of sending a text is up to the endpoint alone, and a report does not fail. -/
def fail (w : World) (fault : Fault) : (action : Action) → action.Result × World
  | .pathExists _ => (false, w)
  | .readFile _ => (.error fault.error, w)
  | .readFirstLine _ =>
    (.error (if fault.opened then .reading fault.error else .opening fault.error), w)
  | .createDirectory _ => (.error fault.error, w)
  | .truncateFile _ => (.error fault.error, w)
  | .createFile _ => (.error fault.error, w)
  | .writeFile path content =>
    (.error fault.error, (w.change (w.files.write path (content.take fault.written))).2)
  | .readInput => (.error fault.error, w)
  | .post url body => w.perform (.post url body)
  | .report event => w.perform (.report event)

/-- What a script gets, and how the world is afterwards, whether the action fails or not. -/
def answer (w : World) (action : Action) : Option Fault → action.Result × World
  | none => w.perform action
  | some fault => w.fail fault action

/-- A report does not fail, and changes nothing else. -/
theorem answer_report (w : World) (event : Event) (fault : Option Fault) :
    w.answer (.report event) fault = ((), { w with events := w.events ++ [event] }) := by
  cases fault <;> rfl

end World

namespace Script

variable {α β : Type}

/-! ### Steps -/

/-- An action of a run, and how it fails if it does. -/
structure Step where
  action : Action
  fault : Option Fault
  deriving DecidableEq, Repr

/-- The script takes these steps from one world to another one and comes to this result. -/
inductive Takes : Script α → World → List Step → α → World → Prop
  | done (a : α) (w : World) : Takes (.done a) w [] a w
  | ask {action : Action} {next : action.Result → Script α} {w w' : World} {steps : List Step} {a : α}
      (fault : Option Fault) :
      Takes (next (w.answer action fault).1) (w.answer action fault).2 steps a w' →
      Takes (.ask action next) w (⟨action, fault⟩ :: steps) a w'

/-- The run of a script whose actions fail as it is said, one after the other; beyond that none fails.
What comes first are its steps. -/
def runWith : Script α → List (Option Fault) → World → List Step × α × World
  | done a, _, w => ([], a, w)
  | ask action next, faults, w =>
    let fault := faults.headD none
    let answer := w.answer action fault
    let rest := (next answer.1).runWith faults.tail answer.2
    (⟨action, fault⟩ :: rest.1, rest.2)

/-- Whatever fails, a script takes its steps to the end. -/
theorem takes_runWith (script : Script α) (faults : List (Option Fault)) (w : World) :
    Takes script w (script.runWith faults w).1 (script.runWith faults w).2.1
      (script.runWith faults w).2.2 := by
  induction script generalizing faults w with
  | done a => exact .done a w
  | ask action next ih =>
    have hrest := ih (w.answer action (faults.headD none)).1 faults.tail
      (w.answer action (faults.headD none)).2
    exact .ask (faults.headD none) hrest

/-- A run in which nothing fails. -/
theorem takes_run (script : Script α) (w : World) :
    ∃ steps, Takes script w steps (script.run w).1 (script.run w).2 ∧
      ∀ step ∈ steps, step.fault = none := by
  induction script generalizing w with
  | done a => exact ⟨[], .done a w, List.forall_mem_nil _⟩
  | ask action next ih =>
    obtain ⟨steps, htakes, hsteps⟩ := ih (w.perform action).1 (w.perform action).2
    exact ⟨_, .ask none htakes, List.forall_mem_cons.mpr ⟨rfl, hsteps⟩⟩

namespace Takes

variable {script : Script α} {w v w' : World} {a : α} {steps : List Step}

/-- The steps of a script and what it comes to are those that its failures lead to. -/
theorem runWith_eq (h : Takes script w steps a w') :
    script.runWith (steps.map (·.fault)) w = (steps, a, w') := by
  induction h with
  | done a w => rfl
  | ask fault _ ih =>
    rw [runWith, List.map_cons, List.headD_cons, List.tail_cons]
    dsimp only
    rw [ih]

/-- The failures decide which steps a script takes and what it comes to. -/
theorem unique {steps' : List Step} {a' : α} {w'' : World} (h : Takes script w steps a w')
    (h' : Takes script w steps' a' w'')
    (hfaults : steps.map (·.fault) = steps'.map (·.fault)) : steps = steps' ∧ a = a' ∧ w' = w'' := by
  have heq := h.runWith_eq
  rw [hfaults, h'.runWith_eq] at heq
  cases heq
  exact ⟨rfl, rfl, rfl⟩

/-- Where nothing fails, a script comes to what its run comes to. -/
theorem run_eq (h : Takes script w steps a w') (hfree : ∀ step ∈ steps, step.fault = none) :
    script.run w = (a, w') := by
  induction h with
  | done a w => rfl
  | ask fault _ ih =>
    obtain ⟨hnone, hrest⟩ := List.forall_mem_cons.mp hfree
    obtain rfl : fault = none := hnone
    exact ih hrest

/-- A script that is done takes no steps. -/
theorem done_inv {b : α} (h : Takes (.done b) w steps a w') : steps = [] ∧ a = b ∧ w' = w := by
  cases h
  exact ⟨rfl, rfl, rfl⟩

/-- A script that asks for something goes on with the answer. -/
theorem ask_inv {action : Action} {next : action.Result → Script α}
    (h : Takes (.ask action next) w steps a w') :
    ∃ fault rest, steps = ⟨action, fault⟩ :: rest ∧
      Takes (next (w.answer action fault).1) (w.answer action fault).2 rest a w' := by
  cases h with
  | ask fault h => exact ⟨fault, _, rfl, h⟩

/-- A script that is followed by another one takes its steps first. -/
theorem bind {f : α → Script β} {b : β} {more : List Step} (h : Takes script w steps a v)
    (hf : Takes (f a) v more b w') : Takes (script.bind f) w (steps ++ more) b w' := by
  induction h with
  | done a w => exact hf
  | ask fault _ ih => exact .ask fault (ih hf)

/-- The steps of a script that is followed by another one are those of the two scripts. -/
theorem bind_inv {f : α → Script β} {b : β} (h : Takes (script.bind f) w steps b w') :
    ∃ first rest a v, steps = first ++ rest ∧ Takes script w first a v ∧ Takes (f a) v rest b w' := by
  induction script generalizing w steps with
  | done a => exact ⟨[], steps, a, w, rfl, .done a w, h⟩
  | ask action next ih =>
    obtain ⟨fault, tail, rfl, hnext⟩ := ask_inv h
    obtain ⟨first, rest, a, v, rfl, hfirst, hrest⟩ := ih _ hnext
    exact ⟨_, rest, a, v, rfl, .ask fault hfirst, hrest⟩

end Takes

/-! ### Writes -/

/-- A content that is written to a file, and how the write breaks off if it does. -/
structure Write where
  content : Bytes
  fault : Option Fault

/-- What a write leaves in the file. -/
def Write.left (write : Write) : Bytes :=
  match write.fault with
  | none => write.content
  | some fault => write.content.take fault.written

/-- A write that does not break off leaves the whole content. -/
theorem Write.left_eq {write : Write} (h : write.fault = none) : write.left = write.content := by
  rw [left, h]

/-- The step as a write to the file, if it is one. -/
def Step.writeTo? (path : String) (step : Step) : Option Write :=
  match step.action with
  | .writeFile path' content => if path' = path then some ⟨content, step.fault⟩ else none
  | _ => none

/-- The writes to a file, one after the other. -/
def writesTo (path : String) (steps : List Step) : List Write :=
  steps.filterMap (Step.writeTo? path)

/-- The writes of two parts of a run, one after the other. -/
theorem writesTo_append (path : String) (steps more : List Step) :
    writesTo path (steps ++ more) = writesTo path steps ++ writesTo path more :=
  List.filterMap_append

/-! ### Runs in which no write breaks off -/

/-- The step is a write that breaks off. -/
def Step.BreaksOff (step : Step) : Prop :=
  step.fault ≠ none ∧ ∃ path content, step.action = .writeFile path content

/-- Where no write breaks off, none of the writes to a file does. -/
theorem fault_eq_none_of_writesTo {path : String} {steps : List Step}
    (h : ∀ step ∈ steps, ¬ step.BreaksOff) : ∀ write ∈ writesTo path steps, write.fault = none := by
  intro write hwrite
  obtain ⟨⟨action, fault⟩, hstep, hwrite⟩ := List.mem_filterMap.mp hwrite
  cases action with
  | writeFile path' content =>
    obtain ⟨-, hwrite⟩ := Option.ite_none_right_eq_some.mp hwrite
    cases hwrite
    by_contra hfault
    exact h _ hstep ⟨hfault, path', content, rfl⟩
  | _ => cases hwrite

/-- The script runs from one world to another one with this result. Any action but a report may fail,
and what comes of sending a text is up to the endpoint; but no write breaks off, so no failure leaves
part of a file. -/
def Runs (script : Script α) (w : World) (a : α) (w' : World) : Prop :=
  ∃ steps, Takes script w steps a w' ∧ ∀ step ∈ steps, ¬ step.BreaksOff

/-- A run in which nothing fails. -/
theorem runs_run (script : Script α) (w : World) :
    Runs script w (script.run w).1 (script.run w).2 := by
  obtain ⟨steps, htakes, hsteps⟩ := script.takes_run w
  exact ⟨steps, htakes, fun step hstep hbreaks => hbreaks.1 (hsteps step hstep)⟩

namespace Runs

variable {ε ε' : Type} {w w' : World} {a : α}

/-- A script that is done has not changed anything. -/
theorem done_inv {b : α} (h : Runs (.done b) w a w') : a = b ∧ w' = w := by
  obtain ⟨steps, htakes, -⟩ := h
  exact htakes.done_inv.2

/-- A script that is followed by another one runs first. -/
theorem bind_inv {script : Script α} {f : α → Script β} {b : β}
    (h : Runs (script.bind f) w b w') : ∃ a v, Runs script w a v ∧ Runs (f a) v b w' := by
  obtain ⟨steps, htakes, hwhole⟩ := h
  obtain ⟨first, rest, a, v, rfl, hfirst, hrest⟩ := htakes.bind_inv
  obtain ⟨hwhole, hwhole'⟩ := List.forall_mem_append.mp hwhole
  exact ⟨a, v, ⟨first, hfirst, hwhole⟩, ⟨rest, hrest, hwhole'⟩⟩

/-- A script that can fail and is followed by another one fails, or goes through and the other one
runs. -/
theorem bindE_inv {script : ExceptT ε Script α} {f : α → ExceptT ε Script β} {r : Except ε β}
    (h : Runs (script >>= f).run w r w') :
    (∃ e, Runs script.run w (.error e) w' ∧ r = .error e) ∨
      ∃ a v, Runs script.run w (.ok a) v ∧ Runs (f a).run v r w' := by
  rw [run_bindE] at h
  obtain ⟨x, v, hscript, hrest⟩ := h.bind_inv
  cases x with
  | error e =>
    obtain ⟨rfl, rfl⟩ := hrest.done_inv
    exact .inl ⟨e, hscript, rfl⟩
  | ok a => exact .inr ⟨a, v, hscript, hrest⟩

/-- A result that is there without asking leaves the world as it is. -/
theorem known_inv {result : Except ε α} {reason : ε → ε'} {r : Except ε' α}
    (h : Runs (known result reason).run w r w') : r = result.mapError reason ∧ w' = w :=
  h.done_inv

/-- A script whose failure is put in other words runs as the script itself. -/
theorem orFail_inv {script : Script (Except ε α)} {reason : ε → ε'} {r : Except ε' α}
    (h : Runs (script.orFail reason).run w r w') :
    ∃ x, Runs script w x w' ∧ r = x.mapError reason := by
  obtain ⟨x, v, hscript, hrest⟩ := h.bind_inv
  obtain ⟨rfl, rfl⟩ := hrest.done_inv
  exact ⟨x, hscript, rfl⟩

end Runs

/-- What follows a report finds the files as they were. -/
theorem Runs.report_inv {ε : Type} {event : Event} {f : Unit → ExceptT ε Script β} {w w' : World}
    {r : Except ε β}
    (h : Runs ((liftM (perform (.report event)) : ExceptT ε Script Unit) >>= f).run w r w') :
    ∃ v, v.files = w.files ∧ Runs (f ()).run v r w' := by
  rw [run_lift_bind, perform_bind] at h
  obtain ⟨steps, htakes, hwhole⟩ := h
  obtain ⟨fault, rest, rfl, hrest⟩ := htakes.ask_inv
  rw [World.answer_report] at hrest
  exact ⟨{ w with events := w.events ++ [event] }, rfl, rest, hrest,
    (List.forall_mem_cons.mp hwhole).2⟩

end Script

/-! ### Scripts that change no file -/

/-- The action changes no file. -/
def Action.IsReading : Action → Prop
  | .createDirectory _ | .truncateFile _ | .createFile _ | .writeFile _ _ => False
  | _ => True

/-- Such an action leaves the files as they are, whether it fails or not. -/
theorem World.files_answer (w : World) {action : Action} (h : action.IsReading)
    (fault : Option Fault) : (w.answer action fault).2.files = w.files := by
  cases action with
  | createDirectory | truncateFile | createFile | writeFile => exact h.elim
  | pathExists | readFile | readFirstLine | readInput | post | report => cases fault <;> rfl

namespace Script

variable {α β ε ε' : Type}

/-- The script asks for nothing that changes a file, and its results are as required. -/
inductive Reads (P : α → Prop) : Script α → Prop
  | done {a : α} : P a → Reads P (.done a)
  | ask {action : Action} {next : action.Result → Script α} : action.IsReading →
      (∀ x, Reads P (next x)) → Reads P (.ask action next)

/-- If a step fails, its failure is as required. -/
def FailsWith (P : ε → Prop) (x : Except ε α) : Prop :=
  ∀ e, x = .error e → P e

namespace Reads

variable {P : ε → Prop}

/-- Two such scripts, one after the other. -/
theorem bind {R : α → Prop} {Q : β → Prop} {script : Script α} {f : α → Script β}
    (h : script.Reads R) (hf : ∀ a, R a → (f a).Reads Q) : (script.bind f).Reads Q := by
  induction h with
  | done ha => exact hf _ ha
  | ask haction _ ih => exact .ask haction ih

/-- Two such scripts that can fail, one after the other. -/
theorem bindE {script : ExceptT ε Script α} {f : α → ExceptT ε Script β}
    (h : script.run.Reads (FailsWith P)) (hf : ∀ a, (f a).run.Reads (FailsWith P)) :
    (script >>= f).run.Reads (FailsWith P) := by
  rw [run_bindE]
  apply h.bind
  intro x hx
  cases x with
  | error e =>
    apply Reads.done
    intro e' he'
    cases he'
    exact hx e rfl
  | ok a => exact hf a

/-- Asking for one thing that changes no file, and going on. -/
theorem perform_bind {action : Action} {f : action.Result → ExceptT ε Script β}
    (h : action.IsReading) (hf : ∀ x, (f x).run.Reads (FailsWith P)) :
    ((liftM (perform action) : ExceptT ε Script _) >>= f).run.Reads (FailsWith P) := by
  rw [run_lift_bind]
  exact .ask h hf

/-- A result that is there without asking. -/
theorem known {result : Except ε' α} {reason : ε' → ε} (h : ∀ e, P (reason e)) :
    (known result reason).run.Reads (FailsWith P) := by
  apply Reads.done
  intro e he
  cases result with
  | error e' =>
    obtain rfl : reason e' = e := Except.error.inj he
    exact h e'
  | ok a => cases he

/-- A result at once. -/
theorem pure (a : α) : (Pure.pure a : ExceptT ε Script α).run.Reads (FailsWith P) :=
  .done nofun

end Reads

/-- A script that changes no file leaves the files as they are, whatever fails. -/
theorem Takes.of_reads {R : α → Prop} {script : Script α} {w w' : World} {steps : List Step} {a : α}
    (h : Takes script w steps a w') (hreads : script.Reads R) : R a ∧ w'.files = w.files := by
  induction h with
  | done =>
    cases hreads with
    | done ha => exact ⟨ha, rfl⟩
  | ask fault _ ih =>
    cases hreads with
    | ask haction hnext =>
      obtain ⟨ha, hfiles⟩ := ih (hnext _)
      exact ⟨ha, hfiles.trans (World.files_answer _ haction fault)⟩

/-- So it is with a run in which no write breaks off. -/
theorem Runs.of_reads {R : α → Prop} {script : Script α} {w w' : World} {a : α}
    (h : Runs script w a w') (hreads : script.Reads R) : R a ∧ w'.files = w.files := by
  obtain ⟨steps, htakes, -⟩ := h
  exact htakes.of_reads hreads

end Script

end SchemaQueries
