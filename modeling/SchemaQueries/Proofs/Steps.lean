import Mathlib.Data.List.Forall2

/-!
# Steps that can fail

Facts about `Except`: how a step followed by another one comes out, and how a list of steps does.

## Main definitions

* `Steps.GivesIf` — a step gives a result under a condition, and fails otherwise.

## Main results

* `Steps.bind_eq_ok_iff`, `Steps.bind_eq_error_iff` — two steps in a row.
* `Steps.mapM_eq_ok_iff` — what a list of steps leads to when all go through.
* `Steps.mapM_eq_error_iff` — a list of steps fails as its first failing step does.
* `Steps.GivesIf.bind`, `Steps.GivesIf.mapM` — the conditions of steps add up.
-/

set_option autoImplicit false
set_option relaxedAutoImplicit false

namespace SchemaQueries.Steps

variable {α β ε : Type}

/-- A step behind one that has gone through. -/
theorem ok_bind {a : α} {next : α → Except ε β} : (.ok a : Except ε α) >>= next = next a := rfl

/-- What follows a step that goes through. -/
theorem bind_of_ok {x : Except ε α} {a : α} {next : α → Except ε β} (h : x = .ok a) :
    x >>= next = next a := by
  rw [h, ok_bind]

/-- Two steps in a row go through exactly if the first one does and then the second one. -/
theorem bind_eq_ok_iff {x : Except ε α} {next : α → Except ε β} {b : β} :
    x >>= next = .ok b ↔ ∃ a, x = .ok a ∧ next a = .ok b := by
  cases x <;> simp [bind, Except.bind]

/-- Two steps in a row fail exactly if the first one does, or it goes through and the second one
fails. -/
theorem bind_eq_error_iff {x : Except ε α} {next : α → Except ε β} {e : ε} :
    x >>= next = .error e ↔ x = .error e ∨ ∃ a, x = .ok a ∧ next a = .error e := by
  cases x <;> simp [bind, Except.bind]

/-- What is made of a result is the result of a step that goes through. -/
theorem map_eq_ok_iff {x : Except ε α} {f : α → β} {b : β} :
    x.map f = .ok b ↔ ∃ a, x = .ok a ∧ f a = b := by
  cases x <;> simp [Except.map]

/-- What is made of failures makes no difference to results. -/
theorem mapError_eq_ok_iff {ε' : Type} {x : Except ε α} {f : ε → ε'} {a : α} :
    x.mapError f = .ok a ↔ x = .ok a := by
  cases x with
  | error e => exact ⟨nofun, nofun⟩
  | ok b => exact ⟨fun h => congrArg Except.ok (Except.ok.inj h),
      fun h => congrArg Except.ok (Except.ok.inj h)⟩

/-- Putting a failure in other words gives a failure exactly if there was one. -/
theorem mapError_eq_error_iff {ε' : Type} {x : Except ε α} {f : ε → ε'} {e : ε'} :
    x.mapError f = .error e ↔ ∃ e', x = .error e' ∧ f e' = e := by
  cases x <;> simp [Except.mapError]

/-! ### Lists of steps -/

variable {step : α → Except ε β}

/-- A list of steps goes through exactly if its first step and the others do. -/
theorem mapM_cons_eq_ok_iff {x : α} {xs : List α} {ys : List β} :
    (x :: xs).mapM step = .ok ys ↔ ∃ y rest, step x = .ok y ∧ xs.mapM step = .ok rest ∧
      ys = y :: rest := by
  rw [List.mapM_cons, bind_eq_ok_iff]
  simp only [bind_eq_ok_iff, pure, Except.pure, Except.ok.injEq, eq_comm (a := ys)]
  exact ⟨fun ⟨y, hy, rest, h⟩ => ⟨y, rest, hy, h⟩, fun ⟨y, rest, hy, h⟩ => ⟨y, hy, rest, h⟩⟩

/-- A list of steps fails exactly if its first step does, or that one goes through and the others
fail. -/
theorem mapM_cons_eq_error_iff {x : α} {xs : List α} {e : ε} :
    (x :: xs).mapM step = .error e ↔
      step x = .error e ∨ ∃ y, step x = .ok y ∧ xs.mapM step = .error e := by
  rw [List.mapM_cons, bind_eq_error_iff]
  simp only [bind_eq_error_iff, pure, Except.pure, reduceCtorEq, and_false, exists_false, or_false]

/-- A list of steps goes through with results `ys` exactly if each step does with its own
result. -/
theorem mapM_eq_ok_iff {xs : List α} {ys : List β} :
    xs.mapM step = .ok ys ↔ List.Forall₂ (fun x y => step x = .ok y) xs ys := by
  induction xs generalizing ys with
  | nil =>
    rw [List.mapM_nil, List.forall₂_nil_left_iff]
    exact ⟨fun h => (Except.ok.inj h).symm, fun h => h ▸ rfl⟩
  | cons x xs ih =>
    rw [mapM_cons_eq_ok_iff, List.forall₂_cons_left_iff]
    simp only [ih]

/-- A list of steps fails exactly if one of them fails and all steps before it go through.

**Proof sketch.** Induction on the list. Either its first step fails, or this one goes through and the
failure is among the others, where it has one more step in front of it. -/
theorem mapM_eq_error_iff {xs : List α} {e : ε} :
    xs.mapM step = .error e ↔
      ∃ before x after, xs = before ++ x :: after ∧ (∀ w ∈ before, ∃ y, step w = .ok y) ∧
        step x = .error e := by
  induction xs with
  | nil => simp [pure, Except.pure]
  | cons x xs ih =>
    rw [mapM_cons_eq_error_iff, ih]
    constructor
    · rintro (hx | ⟨y, hy, before, w, after, rfl, hb, hw⟩)
      · exact ⟨[], x, xs, rfl, by simp, hx⟩
      · exact ⟨x :: before, w, after, rfl, by simpa using ⟨⟨y, hy⟩, hb⟩, hw⟩
    · rintro ⟨before, w, after, hsplit, hb, hw⟩
      cases before with
      | nil =>
        obtain ⟨rfl, rfl⟩ := List.cons.inj hsplit
        exact .inl hw
      | cons v before =>
        obtain ⟨rfl, rfl⟩ := List.cons.inj hsplit
        obtain ⟨⟨y, hy⟩, hb⟩ := List.forall_mem_cons.mp hb
        exact .inr ⟨y, hy, before, w, after, rfl, hb, hw⟩

/-- A list of steps goes through if and only if each of them does. -/
theorem exists_mapM_eq_ok_iff {xs : List α} :
    (∃ ys, xs.mapM step = .ok ys) ↔ ∀ x ∈ xs, ∃ y, step x = .ok y := by
  induction xs with
  | nil => simp [pure, Except.pure]
  | cons x xs ih =>
    rw [List.forall_mem_cons, ← ih]
    simp only [mapM_cons_eq_ok_iff]
    exact ⟨fun ⟨_, y, rest, hy, hrest, _⟩ => ⟨⟨y, hy⟩, rest, hrest⟩,
      fun ⟨⟨y, hy⟩, rest, hrest⟩ => ⟨y :: rest, y, rest, hy, hrest, rfl⟩⟩

/-- Each result of a list of steps is that of one of them. -/
theorem exists_of_mem_of_mapM_eq_ok {xs : List α} {ys : List β} (h : xs.mapM step = .ok ys) {y : β}
    (hy : y ∈ ys) : ∃ x ∈ xs, step x = .ok y := by
  induction xs generalizing ys with
  | nil =>
    obtain rfl : [] = ys := Except.ok.inj h
    exact absurd hy List.not_mem_nil
  | cons x xs ih =>
    obtain ⟨z, rest, hz, hrest, rfl⟩ := mapM_cons_eq_ok_iff.mp h
    rcases List.mem_cons.mp hy with rfl | hy
    · exact ⟨x, List.mem_cons_self, hz⟩
    · obtain ⟨w, hw, hstep⟩ := ih hrest hy
      exact ⟨w, List.mem_cons_of_mem x hw, hstep⟩

/-- What is made of each result of a list of steps may be made of it in its own step. -/
theorem map_mapM {γ : Type} (f : β → γ) (xs : List α) :
    (xs.mapM step).map (List.map f) = xs.mapM fun x => (step x).map f := by
  induction xs with
  | nil => rfl
  | cons x xs ih =>
    rw [List.mapM_cons, List.mapM_cons, ← ih]
    cases step x with
    | error e => rfl
    | ok y => cases xs.mapM step <;> rfl

/-- What every step keeps, a list of steps one after the other keeps. -/
theorem foldlM_invariant {P : β → Prop} {next : β → α → Except ε β} {xs : List α} {b b' : β}
    (hstep : ∀ b x b', P b → next b x = .ok b' → P b') (hb : P b)
    (h : xs.foldlM next b = .ok b') : P b' := by
  induction xs generalizing b with
  | nil =>
    obtain rfl : b = b' := Except.ok.inj h
    exact hb
  | cons x xs ih =>
    rw [List.foldlM_cons, bind_eq_ok_iff] at h
    obtain ⟨c, hc, h⟩ := h
    exact ih (hstep b x c hb hc) h

/-! ### Results under a condition -/

/-- The step gives `a` where `p` holds, and fails where it does not. -/
structure GivesIf (p : Prop) (x : Except ε α) (a : α) : Prop where
  eq_ok : p → x = .ok a
  exists_eq_error : ¬ p → ∃ e, x = .error e

namespace GivesIf

variable {γ ε' : Type} {p q : Prop} {x : Except ε α} {a : α}

/-- A result is given under every condition that holds. -/
theorem of_ok (h : x = .ok a) : GivesIf True x a :=
  ⟨fun _ => h, fun hp => absurd trivial hp⟩

/-- The condition may be put in other words. -/
theorem congr (h : GivesIf p x a) (hpq : p ↔ q) : GivesIf q x a :=
  ⟨fun hq => h.eq_ok (hpq.mpr hq), fun hq => h.exists_eq_error fun hp => hq (hpq.mp hp)⟩

/-- Two steps in a row give the result of the second one where the conditions of both hold. -/
theorem bind {next : α → Except ε γ} {b : γ} (h : GivesIf p x a) (hn : GivesIf q (next a) b) :
    GivesIf (p ∧ q) (x >>= next) b where
  eq_ok := fun ⟨hp, hq⟩ => bind_eq_ok_iff.mpr ⟨a, h.eq_ok hp, hn.eq_ok hq⟩
  exists_eq_error := fun hpq => by
    by_cases hp : p
    · obtain ⟨e, he⟩ := hn.exists_eq_error fun hq => hpq ⟨hp, hq⟩
      exact ⟨e, bind_eq_error_iff.mpr (.inr ⟨a, h.eq_ok hp, he⟩)⟩
    · obtain ⟨e, he⟩ := h.exists_eq_error hp
      exact ⟨e, bind_eq_error_iff.mpr (.inl he)⟩

/-- What is made of a result is given under the same condition. -/
theorem map (h : GivesIf p x a) (f : α → γ) : GivesIf p (x.map f) (f a) where
  eq_ok := fun hp => by rw [h.eq_ok hp]; rfl
  exists_eq_error := fun hp => by
    obtain ⟨e, he⟩ := h.exists_eq_error hp
    exact ⟨e, by rw [he]; rfl⟩

/-- What is made of a failure makes no difference to the condition. -/
theorem mapError (h : GivesIf p x a) (f : ε → ε') : GivesIf p (x.mapError f) a where
  eq_ok := fun hp => by rw [h.eq_ok hp]; rfl
  exists_eq_error := fun hp => by
    obtain ⟨e, he⟩ := h.exists_eq_error hp
    exact ⟨f e, by rw [he]; rfl⟩

/-- A list of steps gives the results of all steps where all conditions hold. -/
theorem mapM {xs : List α} {c : α → Prop} {r : α → β} (h : ∀ x ∈ xs, GivesIf (c x) (step x) (r x)) :
    GivesIf (∀ x ∈ xs, c x) (xs.mapM step) (xs.map r) := by
  induction xs with
  | nil => exact (of_ok rfl).congr (by simp)
  | cons x xs ih =>
    obtain ⟨hx, hxs⟩ := List.forall_mem_cons.mp h
    have hcons : GivesIf True (pure (r x :: xs.map r) : Except ε (List β)) (r x :: xs.map r) :=
      of_ok rfl
    rw [List.mapM_cons, List.map_cons]
    refine congr (bind hx (bind (ih hxs) hcons)) ?_
    rw [List.forall_mem_cons, and_true]

end GivesIf

end SchemaQueries.Steps
