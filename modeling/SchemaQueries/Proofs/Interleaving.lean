import SchemaQueries.Proofs.Faults
import SchemaQueries.Proofs.FileSystem.Siblings

/-!
# Scripts that run side by side

Two scripts run side by side: their steps may come in any order, and any of them may fail. If each script
asks for one file only, and the files are two in the same directory, then neither of them changes what
the other one asks for. So what becomes of a file depends only on what its own path leads to at the
beginning and on the failures of its own script, and all orders come to the same.

## Main definitions

* `Action.About`, `Script.About` — an action, and a script, that asks for one file only.
* `Script.Interleaves` — two scripts that run side by side.
* `Script.weave` — the run of two scripts in a given order and with given failures.

## Main results

* `World.answer_of_about` — what one step does, and what it depends on.
* `Script.interleaves_weave` — there is a run for each order and for all failures.
* `Script.Interleaves.own` — a script comes to what it comes to alone.
* `Script.Interleaves.confluent` — all orders with the same failures come to the same.
* `Script.Interleaves.exists_takes` — one after the other is such an order.
-/

set_option autoImplicit false
set_option relaxedAutoImplicit false

namespace SchemaQueries

open FileSystem (ChangesOnly Location SameChange Siblings join)

variable {directory file file' text : String}

/-! ### One action -/

/-- The action asks only for what the text leads to, or reports something. -/
def Action.About (text : String) : Action → Prop
  | .pathExists path | .readFirstLine path | .truncateFile path | .createFile path
  | .writeFile path _ => path = text
  | .report _ => True
  | .readFile _ | .createDirectory _ | .readInput | .post _ _ => False

namespace World

variable {w u : World} {action : Action}

/-- The files are left as they are in both worlds, or the same file is stored at the same place. -/
def SameStep (text : String) (w u : World) (fs fs' : FileSystem) : Prop :=
  fs = w.files ∧ fs' = u.files ∨
    ∃ place content, w.files.Offers text place ∧ fs = w.files.set place (.file content) ∧
      fs' = u.files.set place (.file content)

/-- What becomes of the same change in both worlds. -/
theorem change_of_sameChange {r r' : Except SystemError FileSystem}
    (h : SameChange text w.files u.files r r') :
    (u.change r').1 = (w.change r).1 ∧ SameStep text w u (w.change r).2.files (u.change r').2.files := by
  cases h with
  | refused e => exact ⟨rfl, .inl ⟨rfl, rfl⟩⟩
  | stored content hoffers => exact ⟨rfl, .inr ⟨_, content, hoffers, rfl, rfl⟩⟩

/-- An action about a file depends only on what its path leads to, and stores at most that file.

**Proof sketch.** By cases on the action. Asking for the file looks at what its path leads to and
changes nothing; emptying, creating and writing make the same change wherever the path leads to the
same. -/
theorem perform_of_about (h : action.About text)
    (hlocate : u.files.locate text = w.files.locate text) :
    (u.perform action).1 = (w.perform action).1 ∧
      SameStep text w u (w.perform action).2.files (u.perform action).2.files := by
  cases action with
  | pathExists path =>
    subst h
    refine ⟨?_, .inl ⟨rfl, rfl⟩⟩
    rw [perform, perform, FileSystem.has, FileSystem.has, FileSystem.lookup_congr hlocate]
  | readFirstLine path =>
    subst h
    refine ⟨?_, .inl ⟨rfl, rfl⟩⟩
    rw [perform, perform, firstLine, firstLine, FileSystem.lookup_congr hlocate]
  | truncateFile path =>
    subst h
    exact change_of_sameChange (FileSystem.sameChange_truncate hlocate)
  | createFile path =>
    subst h
    exact change_of_sameChange (FileSystem.sameChange_createNew hlocate)
  | writeFile path content =>
    subst h
    exact change_of_sameChange (FileSystem.sameChange_write hlocate content)
  | report event => exact ⟨rfl, .inl ⟨rfl, rfl⟩⟩
  | readFile | createDirectory | readInput | post => exact h.elim

/-- So it is with an action that fails: it stores at most what has been written by then. -/
theorem fail_of_about (h : action.About text) (fault : Fault)
    (hlocate : u.files.locate text = w.files.locate text) :
    (u.fail fault action).1 = (w.fail fault action).1 ∧
      SameStep text w u (w.fail fault action).2.files (u.fail fault action).2.files := by
  cases action with
  | pathExists | readFirstLine | truncateFile | createFile | report =>
    exact ⟨rfl, .inl ⟨rfl, rfl⟩⟩
  | writeFile path content =>
    subst h
    have hsame := change_of_sameChange
      (FileSystem.sameChange_write hlocate (content.take fault.written))
    exact ⟨rfl, hsame.2⟩
  | readFile | createDirectory | readInput | post => exact h.elim

/-- A step about a file depends only on what its path leads to, and stores at most that file. -/
theorem answer_of_about (h : action.About text) (fault : Option Fault)
    (hlocate : u.files.locate text = w.files.locate text) :
    (u.answer action fault).1 = (w.answer action fault).1 ∧
      SameStep text w u (w.answer action fault).2.files (u.answer action fault).2.files := by
  cases fault with
  | none => exact perform_of_about h hlocate
  | some fault => exact fail_of_about h fault hlocate

/-- What the path leads to afterwards depends only on what it has led to. -/
theorem locate_answer_congr (h : action.About text) (fault : Option Fault)
    (hlocate : u.files.locate text = w.files.locate text) :
    (u.answer action fault).2.files.locate text = (w.answer action fault).2.files.locate text := by
  rcases (answer_of_about h fault hlocate).2 with ⟨hw, hu⟩ | ⟨place, content, hoffers, hw, hu⟩
  · rw [hw, hu, hlocate]
  · rw [hw, hu, hoffers.locate_set, (hoffers.congr hlocate).locate_set]

/-- What the path to a sibling leads to does not change. -/
theorem locate_answer_sibling (hsiblings : Siblings directory file file')
    (h : action.About (join directory file)) (fault : Option Fault) :
    (w.answer action fault).2.files.locate (join directory file') =
      w.files.locate (join directory file') := by
  rcases (answer_of_about h fault (u := w) rfl).2 with ⟨hw, -⟩ | ⟨place, content, hoffers, hw, -⟩
  · rw [hw]
  · rw [hw, hoffers.locate_sibling hsiblings]

/-- Nothing else changes. -/
theorem changesOnly_answer (hsiblings : Siblings directory file file')
    (h : action.About (join directory file)) (fault : Option Fault) :
    ChangesOnly directory file file' w.files (w.answer action fault).2.files := by
  rcases (answer_of_about h fault (u := w) rfl).2 with ⟨hw, -⟩ | ⟨place, content, hoffers, hw, -⟩
  · rw [hw]
    exact .refl _ _ _ _
  · rw [hw]
    exact .of_offers hsiblings hoffers content

end World

namespace Script

variable {α β : Type}

/-! ### Scripts about one file -/

/-- The script asks only for what the text leads to, and reports. -/
inductive About (text : String) : Script α → Prop
  | done (a : α) : About text (.done a)
  | ask {action : Action} {next : action.Result → Script α} : action.About text →
      (∀ x, About text (next x)) → About text (.ask action next)

/-- Two such scripts, one after the other. -/
theorem About.bind {script : Script α} {f : α → Script β} (h : script.About text)
    (hf : ∀ a, (f a).About text) : (script.bind f).About text := by
  induction h with
  | done a => exact hf a
  | ask haction _ ih => exact .ask haction ih

/-- A script about one file does not write another one. -/
theorem Takes.writesTo_eq_nil {script : Script α} {w w' : World} {steps : List Step} {a : α}
    (h : Takes script w steps a w') (habout : script.About text) {path : String} (hne : path ≠ text) :
    writesTo path steps = [] := by
  induction h with
  | done a w => rfl
  | @ask action next w w' steps a fault _ ih =>
    cases habout with
    | ask haction hnext =>
      have hrest := ih (hnext _)
      cases action with
      | writeFile path' content =>
        obtain rfl : path' = text := haction
        have hother : Step.writeTo? path ⟨.writeFile path' content, fault⟩ = none := if_neg hne.symm
        rw [writesTo, List.filterMap_cons_none hother]
        exact hrest
      | _ => exact hrest

/-! ### Scripts side by side -/

/-- Two scripts run side by side from one world to another one, each with its steps and its result.
Whenever both of them ask for something, it may be either of them that goes on; and any step may fail,
as each of the scripts is told. -/
inductive Interleaves :
    Script α → Script β → World → List Step → List Step → α → β → World → Prop
  | done (a : α) (b : β) (w : World) : Interleaves (.done a) (.done b) w [] [] a b w
  | left {action : Action} {next : action.Result → Script α} {right : Script β} {w w' : World}
      {steps more : List Step} {a : α} {b : β} (fault : Option Fault) :
      Interleaves (next (w.answer action fault).1) right (w.answer action fault).2 steps more a b w' →
      Interleaves (.ask action next) right w (⟨action, fault⟩ :: steps) more a b w'
  | right {action : Action} {next : action.Result → Script β} {left : Script α} {w w' : World}
      {steps more : List Step} {a : α} {b : β} (fault : Option Fault) :
      Interleaves left (next (w.answer action fault).1) (w.answer action fault).2 steps more a b w' →
      Interleaves left (.ask action next) w steps (⟨action, fault⟩ :: more) a b w'

/-- The run of two scripts side by side in an order, which says `true` where the left one goes on. Their
actions fail as it is said; beyond the order, the left script runs before the right one. What comes first
are the steps of both. -/
def weave : List Bool → Script α → Script β → List (Option Fault) → List (Option Fault) → World →
    (List Step × List Step) × α × β × World
  | [], left, right, faults, faults', w =>
    let first := left.runWith faults w
    let second := right.runWith faults' first.2.2
    ((first.1, second.1), first.2.1, second.2.1, second.2.2)
  | true :: order, .ask action next, right, faults, faults', w =>
    let fault := faults.headD none
    let answer := w.answer action fault
    let rest := weave order (next answer.1) right faults.tail faults' answer.2
    ((⟨action, fault⟩ :: rest.1.1, rest.1.2), rest.2)
  | false :: order, left, .ask action next, faults, faults', w =>
    let fault := faults'.headD none
    let answer := w.answer action fault
    let rest := weave order left (next answer.1) faults faults'.tail answer.2
    ((rest.1.1, ⟨action, fault⟩ :: rest.1.2), rest.2)
  | true :: order, .done a, right, faults, faults', w => weave order (.done a) right faults faults' w
  | false :: order, left, .done b, faults, faults', w => weave order left (.done b) faults faults' w

variable {left : Script α} {right : Script β} {w v w' w'' : World} {steps more steps' more' : List Step}
  {a a' : α} {b b' : β}

/-- One script and then the other one is an order in which both can run side by side. -/
theorem interleaves_of_takes (hleft : Takes left w steps a v) (hright : Takes right v more b w') :
    Interleaves left right w steps more a b w' := by
  induction hleft with
  | ask fault _ ih => exact .left fault (ih hright)
  | done a w =>
    induction hright with
    | done b w => exact .done a b w
    | ask fault _ ih => exact .right fault ih

/-- Whatever the order is and whatever fails, two scripts can run side by side to their ends.

**Proof sketch.** Induction on the order. A script whose turn it is takes one step if it is not done
yet. When the order is used up, the first script goes on to its end and then the other one. -/
theorem interleaves_weave (order : List Bool) (left : Script α) (right : Script β)
    (faults faults' : List (Option Fault)) (w : World) :
    Interleaves left right w (weave order left right faults faults' w).1.1
      (weave order left right faults faults' w).1.2 (weave order left right faults faults' w).2.1
      (weave order left right faults faults' w).2.2.1
      (weave order left right faults faults' w).2.2.2 := by
  induction order generalizing left right faults faults' w with
  | nil => exact interleaves_of_takes (takes_runWith left faults w) (takes_runWith right faults' _)
  | cons goesLeft order ih =>
    cases goesLeft with
    | true =>
      cases left with
      | done a => exact ih _ _ _ _ _
      | ask action next => exact .left _ (ih _ _ _ _ _)
    | false =>
      cases right with
      | done b =>
        rw [weave]
        exact ih _ _ _ _ _
      | ask action next =>
        rw [weave]
        exact .right _ (ih _ _ _ _ _)

namespace Interleaves

/-- Side by side, neither script is the first one. -/
theorem symm (h : Interleaves left right w steps more a b w') :
    Interleaves right left w more steps b a w' := by
  induction h with
  | done a b w => exact .done b a w
  | left fault _ ih => exact .right fault ih
  | right fault _ ih => exact .left fault ih

/-- A script about one file comes to what it comes to alone, with the same failures, wherever the path to
its file leads to the same as at the beginning.

**Proof sketch.** By induction on the order of the steps. A step of the script itself depends only on
what the path leads to, and so does what the path leads to afterwards (`World.answer_of_about`). A step
of the other script does not change what the path leads to (`World.locate_answer_sibling`). -/
theorem own (hsiblings : Siblings directory file file')
    (h : Interleaves left right w steps more a b w')
    (hleft : left.About (join directory file)) (hright : right.About (join directory file'))
    {u : World} (hlocate : u.files.locate (join directory file) = w.files.locate (join directory file)) :
    ∃ u', Takes left u steps a u' ∧
      u'.files.locate (join directory file) = w'.files.locate (join directory file) := by
  induction h generalizing u with
  | done a b w => exact ⟨u, .done a u, hlocate⟩
  | left fault _ ih =>
    cases hleft with
    | ask haction hnext =>
      obtain ⟨hresult, -⟩ := World.answer_of_about haction fault hlocate
      obtain ⟨u', htakes, hend⟩ :=
        ih (hnext _) hright (World.locate_answer_congr haction fault hlocate)
      rw [← hresult] at htakes
      exact ⟨u', .ask fault htakes, hend⟩
  | right fault _ ih =>
    cases hright with
    | ask haction hnext =>
      apply ih hleft (hnext _)
      rw [hlocate, World.locate_answer_sibling hsiblings.symm haction fault]

/-- Two scripts about two files change nothing else. -/
theorem changesOnly (hsiblings : Siblings directory file file')
    (h : Interleaves left right w steps more a b w')
    (hleft : left.About (join directory file)) (hright : right.About (join directory file')) :
    ChangesOnly directory file file' w.files w'.files := by
  induction h with
  | done a b w => exact .refl _ _ _ _
  | left fault _ ih =>
    cases hleft with
    | ask haction hnext =>
      exact (World.changesOnly_answer hsiblings haction fault).trans (ih (hnext _) hright)
  | right fault _ ih =>
    cases hright with
    | ask haction hnext =>
      exact (World.changesOnly_answer hsiblings.symm haction fault).symm.trans (ih hleft (hnext _))

/-- Two scripts about two files come to the same in all orders, as long as each of them meets the same
failures. -/
theorem confluent (hsiblings : Siblings directory file file')
    (hleft : left.About (join directory file)) (hright : right.About (join directory file'))
    (h : Interleaves left right w steps more a b w')
    (h' : Interleaves left right w steps' more' a' b' w'')
    (hfaults : steps.map (·.fault) = steps'.map (·.fault))
    (hfaults' : more.map (·.fault) = more'.map (·.fault)) :
    steps = steps' ∧ more = more' ∧ a = a' ∧ b = b' ∧ w'.files.Same w''.files := by
  obtain ⟨u, htakes, hfile⟩ := h.own hsiblings hleft hright rfl
  obtain ⟨u', htakes', hfile'⟩ := h'.own hsiblings hleft hright rfl
  obtain ⟨v, hmore, hsibling⟩ := h.symm.own hsiblings.symm hright hleft rfl
  obtain ⟨v', hmore', hsibling'⟩ := h'.symm.own hsiblings.symm hright hleft rfl
  obtain ⟨rfl, rfl, rfl⟩ := htakes.unique htakes' hfaults
  obtain ⟨rfl, rfl, rfl⟩ := hmore.unique hmore' hfaults'
  refine ⟨rfl, rfl, rfl, rfl, ?_⟩
  exact (h.changesOnly hsiblings hleft hright).same hsiblings
    (h'.changesOnly hsiblings hleft hright) (hfile'.symm.trans hfile) (hsibling'.symm.trans hsibling)

end Interleaves

/-- The path to a sibling leads to the same after a script about one file has run alone. -/
theorem Takes.locate_sibling (hsiblings : Siblings directory file file')
    (hleft : left.About (join directory file)) (h : Takes left w steps a v) :
    v.files.locate (join directory file') = w.files.locate (join directory file') := by
  -- Beside the script runs one that does nothing, and leaves its own path as it is.
  have hinterleaves := interleaves_of_takes h (.done () v)
  obtain ⟨u, hdone, hlocate⟩ := hinterleaves.symm.own hsiblings.symm (.done ()) hleft rfl
  obtain ⟨-, -, rfl⟩ := hdone.done_inv
  exact hlocate.symm

/-- Scripts that run side by side may as well run one after the other, each of them with its steps.

**Proof sketch.** Each of them takes its steps wherever the path to its file leads to the same as at the
beginning (`Interleaves.own`), so the second one takes them after the first one as well. That is one of
the orders, and all orders come to the same (`Interleaves.confluent`). -/
theorem Interleaves.exists_takes (hsiblings : Siblings directory file file')
    (hleft : left.About (join directory file)) (hright : right.About (join directory file'))
    (h : Interleaves left right w steps more a b w') :
    ∃ v w₁, Takes left w steps a v ∧ Takes right v more b w₁ ∧ w'.files.Same w₁.files := by
  obtain ⟨v, htakes, -⟩ := h.own hsiblings hleft hright rfl
  obtain ⟨w₁, hmore, -⟩ := h.symm.own hsiblings.symm hright hleft
    (htakes.locate_sibling hsiblings hleft)
  have horder := interleaves_of_takes htakes hmore
  obtain ⟨-, -, -, -, hsame⟩ := h.confluent hsiblings hleft hright horder rfl rfl
  exact ⟨v, w₁, htakes, hmore, hsame⟩

end Script

end SchemaQueries
