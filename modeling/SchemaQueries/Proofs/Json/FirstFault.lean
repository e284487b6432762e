import SchemaQueries.Proofs.Json.Counterparts

/-!
# Where the first problem lies

Objects and arrays are read part by part, and reading stops at the first part that fails. So a failure
names the way to this part, whatever stands behind it.

## Main definitions

* `Json.Tree.Around`, `Json.Draft.Around` — an object with a gap for the value of one member.
* `Json.PointsInto` — what is read stands inside something else, and the way to it is put to its failures.

## Main results

* `Json.PointsInto.comp` — gaps inside gaps.
* `Json.pointsInto_readRecord` — the way into a record is the key of the member.
* `Json.readItems_append_eq_error` — the way into an array is the number of items in front.
-/

set_option autoImplicit false
set_option relaxedAutoImplicit false

namespace SchemaQueries.Json

open Steps (bind_eq_ok_iff bind_of_ok map_eq_ok_iff mapError_eq_ok_iff)

variable {V E α β γ : Type} {types : List Type} {title : Title} {strictness : Strictness}

/-! ### Gaps -/

/-- The members of an object around a gap for one more. -/
structure Tree.Around where
  before : List (Option String × Tree)
  after : List (Option String × Tree)

/-- The object with a member in the gap. -/
def Tree.Around.put (o : Tree.Around) (key : String) (x : Tree) : Tree :=
  .object (o.before ++ (some key, x) :: o.after)

/-- The members of an object around a gap for one more, as far as they can be read. -/
structure Draft.Around where
  before : List (Except Fault String × Draft)
  after : List (Except Fault String × Draft)
  ending : ObjectEnd

namespace Draft.Around

variable {o : Draft.Around} {key : String} {d : Draft}

/-- The object with a member in the gap. -/
def put (o : Draft.Around) (key : String) (d : Draft) : Draft :=
  .object (o.before ++ (.ok key, d) :: o.after) o.ending

/-- What the members around the gap say. -/
def tree (o : Draft.Around) : Tree.Around :=
  ⟨treeOfMembers o.before, treeOfMembers o.after⟩

/-- There is no fault around the gap. -/
def IsSound (o : Draft.Around) : Prop :=
  membersSkipFault? o.before = none ∧ membersSkipFault? o.after = none ∧ o.ending.skipFault? = none

/-- The object says what its members say. -/
theorem tree_put : (o.put key d).tree = o.tree.put key d.tree := by
  simp only [put, Draft.tree, tree, Tree.Around.put, treeOfMembers_eq_map, List.map_append,
    List.map_cons]
  rfl

/-- The object is without a fault if nothing around the gap and nothing in it has one. -/
theorem skipFault?_put_eq_none_iff :
    (o.put key d).skipFault? = none ↔ o.IsSound ∧ d.skipFault? = none := by
  simp only [put, Draft.skipFault?, Option.or_eq_none_iff, IsSound, membersSkipFault?_eq_none_iff,
    List.forall_mem_append, List.forall_mem_cons]
  exact ⟨fun ⟨⟨hbefore, hd, hafter⟩, hending⟩ => ⟨⟨hbefore, hafter, hending⟩, hd⟩,
    fun ⟨⟨hbefore, hafter, hending⟩, hd⟩ => ⟨⟨hbefore, hd, hafter⟩, hending⟩⟩

end Draft.Around

/-- A draft that says an object with a gap filled is one. -/
theorem Draft.exists_put {d : Draft} {o : Tree.Around} {key : String} {x : Tree}
    (htree : d.tree = o.put key x) :
    ∃ (o' : Draft.Around) (d' : Draft), d = o'.put key d' ∧ o'.tree = o ∧ d'.tree = x := by
  cases d with
  | object members ending =>
    rw [Draft.tree, Tree.Around.put, Tree.object.injEq, treeOfMembers_eq_map,
      List.map_eq_append_iff] at htree
    obtain ⟨before, rest, rfl, hbefore, hrest⟩ := htree
    obtain ⟨⟨k, d'⟩, after, rfl, hmember, hafter⟩ := List.map_eq_cons_iff.mp hrest
    obtain ⟨hkey, hd'⟩ := Prod.mk.inj hmember
    cases k with
    | error f => cases hkey
    | ok k =>
      obtain rfl : k = key := Option.some.inj hkey
      refine ⟨⟨before, after, ending⟩, d', rfl, ?_, hd'⟩
      rw [Around.tree, treeOfMembers_eq_map, treeOfMembers_eq_map, hbefore, hafter]
  | null | bool | number | string | array | broken => cases htree

/-! ### Texts of parts -/

namespace Tree

/-- The text of an array has a text of each item. -/
theorem WritesItems.exists_writes {first : Bool} {items : List Tree} {cs : List Char}
    (h : WritesItems first items cs) {x : Tree} (hx : x ∈ items) : ∃ value, x.Writes value := by
  induction items generalizing first cs with
  | nil => cases hx
  | cons y items ih =>
    cases h with
    | item _ _ hy hitems =>
      rcases List.mem_cons.mp hx with rfl | hx
      · exact ⟨_, hy⟩
      · exact ih hitems hx

/-- The text of an object has a text of each value. -/
theorem WritesMembers.exists_writes {first : Bool} {members : List (Option String × Tree)}
    {cs : List Char} (h : WritesMembers first members cs) {m : Option String × Tree} (hm : m ∈ members) :
    ∃ value, m.2.Writes value := by
  induction members generalizing first cs with
  | nil => cases hm
  | cons m' members ih =>
    cases h with
    | member _ _ _ _ _ hx hmembers =>
      rcases List.mem_cons.mp hm with rfl | hm
      · exact ⟨_, hx⟩
      · exact ih hmembers hm

/-- The text of an object with a gap filled has a text of what is in the gap. -/
theorem Around.exists_writes {o : Around} {key : String} {x : Tree} {cs : List Char}
    (h : (o.put key x).Writes cs) : ∃ value, x.Writes value := by
  generalize hput : o.put key x = whole at h
  cases h with
  | object hmembers =>
    obtain rfl := Tree.object.inj hput
    exact hmembers.exists_writes (List.mem_append_right _ List.mem_cons_self)
  | null | bool | number | string | array => cases hput

end Tree

/-! ### Members -/

section Members

variable {σ : Type} {intake : Intake σ} {s s' s₁ : σ} {ending : ObjectEnd}
  {before after : List (Except Fault String × Draft)} {key : String}

/-- The members in front are read first, and then the ones behind them. -/
theorem readMembers_append : readMembers intake ending s (before ++ after) =
    readMembers intake .closed s before >>= fun s₁ => readMembers intake ending s₁ after := by
  induction before generalizing s with
  | nil => rfl
  | cons member before ih =>
    obtain ⟨k, d⟩ := member
    simp only [List.cons_append, readMembers, ih, bind_assoc]

/-- Where an object is read, each member is taken after the ones in front of it. -/
theorem exists_take_of_readMembers {d : Draft}
    (h : readMembers intake ending s (before ++ (.ok key, d) :: after) = .ok s') :
    ∃ s₁ take, readMembers intake .closed s before = .ok s₁ ∧ intake s₁ key = .ok take ∧
      ∃ s₂, take d = .ok s₂ := by
  rw [readMembers_append, bind_eq_ok_iff] at h
  obtain ⟨s₁, hbefore, h⟩ := h
  rw [readMembers, readKey, Steps.ok_bind, bind_eq_ok_iff] at h
  obtain ⟨take, htake, h⟩ := h
  obtain ⟨s₂, hs₂, -⟩ := bind_eq_ok_iff.mp h
  exact ⟨s₁, take, hbefore, htake, s₂, mapError_eq_ok_iff.mp hs₂⟩

/-- Where the members in front are read and this one is not, its failure is that of the object. -/
theorem readMembers_append_eq_error {take : Draft → Except Failure σ} {d : Draft} {f : Failure}
    (hbefore : readMembers intake .closed s before = .ok s₁) (htake : intake s₁ key = .ok take)
    (hd : take d = .error f) :
    readMembers intake ending s (before ++ (.ok key, d) :: after) = .error (f.within (.key key)) := by
  rw [readMembers_append, bind_of_ok hbefore, readMembers, readKey, Steps.ok_bind, bind_of_ok htake, hd]
  rfl

end Members

/-! ### Entries -/

section Outcomes

variable {x : Except E α} {y : Except E β}

/-- Of two steps that come out in the same way, one goes through if the other one does. -/
theorem exists_eq_ok_of_map_eq (h : (x.map fun _ => ()) = y.map fun _ => ()) {b : β} (hy : y = .ok b) :
    ∃ a, x = .ok a := by
  rw [hy] at h
  obtain ⟨a, ha, -⟩ := map_eq_ok_iff.mp h
  exact ⟨a, ha⟩

/-- And it fails as the other one does. -/
theorem eq_error_of_map_eq (h : (x.map fun _ => ()) = y.map fun _ => ()) {e : E} (hy : y = .error e) :
    x = .error e := by
  rw [hy] at h
  cases x with
  | error e' => exact congrArg Except.error (Except.error.inj h)
  | ok a => cases h

end Outcomes

namespace Form

/-- What becomes of a value in the entry of a name: whether it is read, and else its failure. -/
def outcome : {types : List Type} → Form V E types → String → V → Except E Unit
  | [], _, _, _ => .ok ()
  | _ :: _, (entry, rest), name, v =>
    if entry.name = name then (entry.read v).map fun _ => () else outcome rest name v

/-- A value that is put in comes out as it does in its entry. -/
theorem map_fill_eq_outcome : {types : List Type} → {form : Form V E types} → {slots : Slots types} →
    {name : String} → {fill : V → Except E (Slots types)} → {v : V} →
    form.place slots name = .free fill → (fill v).map (fun _ => ()) = form.outcome name v
  | [], _, _, _, _, _, h => nomatch h
  | _ :: _, (entry, rest), (found, slots), name, fill, v, h => by
    unfold outcome
    rcases place_eq_free_iff.mp h with ⟨hname, -, rfl⟩ | ⟨hname, fillRest, hplace, rfl⟩
    · rw [if_pos hname]
      dsimp only
      cases entry.read v <;> rfl
    · rw [if_neg hname, ← map_fill_eq_outcome hplace]
      dsimp only
      cases fillRest v <;> rfl

end Form

/-- A member that a record knows, if it is taken, comes out as it does in its entry. -/
theorem map_take_eq_outcome {form : Form Draft Failure types} {slots : Slots types} {key : String}
    {take : Draft → Except Failure (Slots types)} (hkey : key ∈ form.names)
    (htake : recordIntake strictness form slots key = .ok take) (d : Draft) :
    (take d).map (fun _ => ()) = form.outcome key d := by
  rcases recordIntake_eq_ok_iff.mp htake with hplace | ⟨hplace, -, -⟩
  · exact Form.map_fill_eq_outcome hplace
  · exact absurd hkey (form.place_eq_unknown_iff.mp hplace)

/-! ### The way into a part -/

/-- The reader reads a part of what it is given with `inner`. Where it reads the whole with some part,
the part is read, and with any other part that fails, it fails with the failure of this part, to which
the steps to the part are put. -/
def PointsInto (read : Draft → Except Failure α) (around : Draft → Draft) (steps : Path)
    (inner : Draft → Except Failure β) : Prop :=
  ∀ d a, read (around d) = .ok a → (∃ b, inner d = .ok b) ∧
    ∀ d' f, inner d' = .error f → read (around d') = .error ⟨steps ++ f.path, f.cause⟩

namespace PointsInto

variable {read : Draft → Except Failure α} {around around' : Draft → Draft} {steps steps' : Path}
  {inner : Draft → Except Failure β} {innermost : Draft → Except Failure γ}

/-- The way into a part of a part goes by the part. -/
theorem comp (h : PointsInto read around steps inner) (h' : PointsInto inner around' steps' innermost) :
    PointsInto read (around ∘ around') (steps ++ steps') innermost := by
  intro d a hd
  obtain ⟨⟨b, hb⟩, hfail⟩ := h (around' d) a hd
  obtain ⟨hc, hfail'⟩ := h' d b hb
  refine ⟨hc, fun d' f hf => ?_⟩
  rw [Function.comp_apply, hfail _ _ (hfail' d' f hf), List.append_assoc]

/-- What is made of the whole makes no difference to the way. -/
theorem bind_pure {δ : Type} (h : PointsInto read around steps inner) (g : α → δ) :
    PointsInto (fun d => read d >>= fun a => .ok (g a)) around steps inner := by
  intro d e hd
  obtain ⟨a, ha, -⟩ := bind_eq_ok_iff.mp hd
  obtain ⟨hb, hfail⟩ := h d a ha
  refine ⟨hb, fun d' f hf => ?_⟩
  dsimp only
  rw [hfail d' f hf]
  rfl

/-- What may be missing is read as it is where it is there. -/
theorem readOption {reader : Reader α} {room : Nat} (h : PointsInto (reader room) around steps inner)
    (hnull : ∀ d, around d ≠ .null) : PointsInto (Json.readOption reader room) around steps inner := by
  have heq (d : Draft) : Json.readOption reader room (around d) = (reader room (around d)).map some := by
    have hd := hnull d
    generalize around d = whole at hd
    cases whole with
    | null => exact absurd rfl hd
    | bool | number | string | array | object | broken => rfl
  intro d a hd
  rw [heq, map_eq_ok_iff] at hd
  obtain ⟨a', ha', -⟩ := hd
  obtain ⟨hb, hfail⟩ := h d a' ha'
  refine ⟨hb, fun d' f hf => ?_⟩
  rw [heq, hfail d' f hf]
  rfl

end PointsInto

/-- The way into a member of a record is its key. -/
theorem pointsInto_readRecord {form : Nat → Form Draft Failure types} {room : Nat} {key : String}
    {inner : Draft → Except Failure β} (o : Draft.Around) (hkey : key ∈ (form room).names)
    (hinner : ∀ d, (form room).outcome key d = (inner d).map fun _ => ()) :
    PointsInto (readRecord title strictness form (room + 1)) (o.put key) [.key key] inner := by
  intro d values h
  obtain ⟨slots, hslots, -⟩ := bind_eq_ok_iff.mp h
  obtain ⟨s₁, take, hbefore, htake, s₂, hs₂⟩ := exists_take_of_readMembers hslots
  have houtcome (d : Draft) : (take d).map (fun _ => ()) = (inner d).map fun _ => () :=
    (map_take_eq_outcome hkey htake d).trans (hinner d)
  refine ⟨exists_eq_ok_of_map_eq (houtcome d).symm hs₂, fun d' f hf => ?_⟩
  have htake' : take d' = .error f := eq_error_of_map_eq (houtcome d') hf
  have hmembers : readMembers (recordIntake strictness (form room)) o.ending (Slots.empty types)
      (o.before ++ (.ok key, d') :: o.after) = .error (f.within (.key key)) :=
    readMembers_append_eq_error hbefore htake htake'
  rw [Draft.Around.put, readRecord, nested, hmembers]
  rfl

/-! ### Items -/

/-- Where the items in front are read and this one is not, its failure is that of the array, at the place
that it has there. -/
theorem readItems_append_eq_error {item : Draft → Except Failure α} {ending : ArrayEnd} {i : Nat}
    {before after : List Draft} {d : Draft} {f : Failure} {as : List α}
    (hbefore : readItems item .closed i before = .ok as) (hd : item d = .error f) :
    readItems item ending i (before ++ d :: after) = .error (f.within (.index (i + before.length))) := by
  induction before generalizing i as with
  | nil =>
    rw [List.nil_append, readItems, hd]
    rfl
  | cons first before ih =>
    rw [readItems, bind_eq_ok_iff] at hbefore
    obtain ⟨a, ha, hrest⟩ := hbefore
    obtain ⟨rest, hrest, -⟩ := bind_eq_ok_iff.mp hrest
    rw [List.cons_append, readItems, bind_of_ok ha, ih hrest, List.length_cons, Nat.add_right_comm]
    rfl

end SchemaQueries.Json
