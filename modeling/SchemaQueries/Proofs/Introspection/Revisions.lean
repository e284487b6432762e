import SchemaQueries.Introspection.Response
import SchemaQueries.Proofs.Json.Counterparts

/-!
# Revisions of an answer

An answer may be written in many ways. The members of an object may come in any order, and there may be
more of them, if the decoder does not know their names there. Which names it knows depends on what a value
is read as, and for types and type references on their kind. The data of an answer must not have any other
members than the schema.

## Main definitions

* `Introspection.Role` — what the values of an answer are read as.
* `Introspection.Role.rows` — the members that are known, with their roles.
* `Introspection.Revised` — a tree is another one with members moved and unknown ones added.

## Main results

* `Introspection.Revised.readable` — a value that is kept as it stands is still a value.
* `Introspection.Revises.counterpart`, `Introspection.RevisesDraft.counterpart` — each value that is read
  has its counterpart in a revision.
-/

set_option autoImplicit false
set_option relaxedAutoImplicit false

namespace SchemaQueries.Introspection

open Json (Carried Counterpart Draft Placed Tree Strictness keyed valuesOf)

/-! ### Roles -/

/-- What the values of an answer are read as. -/
inductive Role where
  | answer | data | schema | type | field | argument | enumValue | reference | error
  /-- A string, or nothing. -/
  | text
  /-- A list of values that are read alike. -/
  | list (item : Role)
  /-- The value of an unknown member that is kept as it stands until all members have been met. -/
  | kept
  /-- The value of an unknown member that is passed over. -/
  | skipped
  deriving DecidableEq, Repr

/-- The known members of a type of a kind, without the kind. -/
def TypeKind.rows : TypeKind → List (String × Role)
  | object => [("name", .text), ("description", .text), ("fields", .list .field)]
  | enum => [("name", .text), ("description", .text), ("enumValues", .list .enumValue)]
  | inputObject => [("name", .text), ("description", .text), ("inputFields", .list .argument)]
  | scalar => [("name", .text), ("description", .text)]
  | interface | union => []

/-- The known members of a type reference of a kind, without the kind. -/
def RefKind.rows : RefKind → List (String × Role)
  | nonNull | list => [("ofType", .reference)]
  | named _ => [("name", .text)]

namespace Role

/-- The known members of a value with this role. -/
def rows (x : Tree) : Role → List (String × Role)
  | answer => [("data", data), ("errors", list error)]
  | data => [("__schema", schema)]
  | schema => [("types", list type)]
  | type => ("kind", text) :: (x.variant? "kind" typeKinds).elim [] TypeKind.rows
  | field => [("name", text), ("description", text), ("args", list argument), ("type", reference)]
  | argument => [("name", text), ("description", text), ("type", reference)]
  | enumValue => [("name", text), ("description", text)]
  | reference => ("kind", text) :: (x.variant? "kind" refKinds).elim [] RefKind.rows
  | error => [("message", text)]
  | text | list _ | kept | skipped => []

/-- Whether a value with this role is kept as it stands before its content is looked at. -/
def isKept : Role → Bool
  | type | field | argument | enumValue | reference | text | kept => true
  | list item => item.isKept
  | answer | data | schema | error | skipped => false

/-- The role is that of a single value and not of a list. -/
def IsSingle : Role → Prop
  | list _ => False
  | _ => True

/-- The role of what stands in a value with this role and is not known. -/
def rest (role : Role) : Role :=
  if role.isKept then kept else skipped

/-- The role of a member of an object. -/
def member (x : Tree) (role : Role) : Option String → Role
  | some name => ((role.rows x).lookup name).getD role.rest
  | none => role.rest

/-- The role of an item of an array: a list has items that are read alike, and a record has one item for
each of its members. -/
def item (x : Tree) : Role → Nat → Role
  | list item, _ => item
  | role, i => ((role.rows x)[i]?.map Prod.snd).getD role.rest

/-- Whether a value may have this member besides those that it has: its name is not known there, and if it
is kept as it stands, it is a value that nests at most so many arrays and objects. -/
def Admits (role : Role) (room : Nat) (x : Tree) (m : Option String × Tree) : Prop :=
  role ≠ data ∧ (∃ name, m.1 = some name ∧ name ∉ (role.rows x).map Prod.fst) ∧
    (role.isKept → m.2.Readable room)

end Role

/-! ### Revisions -/

mutual

/-- The second tree is a revision of the first one, which has this role and nests at most so many arrays
and objects. Anywhere in it, the members of objects may be in another order, and there may be more of
them, as far as the roles of these objects admit them. -/
inductive Revised : Nat → Role → Tree → Tree → Prop
  | null {room : Nat} {role : Role} : Revised room role .null .null
  | bool {room : Nat} {role : Role} {b : Bool} : Revised room role (.bool b) (.bool b)
  | number {room : Nat} {role : Role} {n : Option Json.Number} :
      Revised room role (.number n) (.number n)
  | string {room : Nat} {role : Role} {s : Option String} : Revised room role (.string s) (.string s)
  | array {room : Nat} {role : Role} {items items' : List Tree} :
      RevisedItems (room - 1) (role.item (.array items)) items items' →
      Revised room role (.array items) (.array items')
  | object {room : Nat} {role : Role} {members changed added members' : List (Option String × Tree)} :
      RevisedMembers (room - 1) (role.member (.object members)) members changed →
      (∀ m ∈ added, role.Admits (room - 1) (.object members) m) →
      (changed ++ added).Perm members' → Revised room role (.object members) (.object members')

/-- Each item is a revision, in its own role. -/
inductive RevisedItems : Nat → (Nat → Role) → List Tree → List Tree → Prop
  | nil {room : Nat} {roles : Nat → Role} : RevisedItems room roles [] []
  | cons {room : Nat} {roles : Nat → Role} {x x' : Tree} {items items' : List Tree} :
      Revised room (roles 0) x x' → RevisedItems room (fun i => roles (i + 1)) items items' →
      RevisedItems room roles (x :: items) (x' :: items')

/-- The value of each member is a revision, in the role of its name. -/
inductive RevisedMembers : Nat → (Option String → Role) → List (Option String × Tree) →
    List (Option String × Tree) → Prop
  | nil {room : Nat} {roles : Option String → Role} : RevisedMembers room roles [] []
  | cons {room : Nat} {roles : Option String → Role} {name : Option String} {x x' : Tree}
      {members members' : List (Option String × Tree)} :
      Revised room (roles name) x x' → RevisedMembers room roles members members' →
      RevisedMembers room roles ((name, x) :: members) ((name, x') :: members')

end

/-- The members of an object are revised in their places, and none is added. -/
theorem Revised.of_members {room : Nat} {role : Role} {members members' : List (Option String × Tree)}
    (h : RevisedMembers (room - 1) (role.member (.object members)) members members') :
    Revised room role (.object members) (.object members') :=
  .object h (List.forall_mem_nil _) (by rw [List.append_nil])

mutual

/-- A tree is a revision of itself. -/
theorem Revised.refl : (x : Tree) → (room : Nat) → (role : Role) → Revised room role x x
  | .null, _, _ => .null
  | .bool _, _, _ => .bool
  | .number _, _, _ => .number
  | .string _, _, _ => .string
  | .array items, _, _ => .array (RevisedItems.refl items _ _)
  | .object members, _, _ => .of_members (RevisedMembers.refl members _ _)

/-- So are items. -/
theorem RevisedItems.refl : (items : List Tree) → (room : Nat) → (roles : Nat → Role) →
    RevisedItems room roles items items
  | [], _, _ => .nil
  | x :: items, _, _ => .cons (Revised.refl x _ _) (RevisedItems.refl items _ _)

/-- So are members. -/
theorem RevisedMembers.refl : (members : List (Option String × Tree)) → (room : Nat) →
    (roles : Option String → Role) → RevisedMembers room roles members members
  | [], _, _ => .nil
  | (_, x) :: members, _, _ => .cons (Revised.refl x _ _) (RevisedMembers.refl members _ _)

end

/-! ### The known members -/

namespace Role

variable {role i : Role} {x : Tree} {name : String}

/-- No name is known twice. -/
theorem nodup_rows (role : Role) (x : Tree) : ((role.rows x).map Prod.fst).Nodup := by
  cases role with
  | type =>
    unfold rows
    cases x.variant? "kind" typeKinds with
    | none => simp
    | some kind => cases kind <;> simp [TypeKind.rows]
  | reference =>
    unfold rows
    cases x.variant? "kind" refKinds with
    | none => simp
    | some kind => cases kind <;> simp [RefKind.rows]
  | answer | data | schema | field | argument | enumValue | error | text | list | kept | skipped =>
    simp [rows]

/-- What stands in a value that is kept is kept. -/
theorem isKept_of_mem_rows (hrole : role.isKept) {row : String × Role} (hrow : row ∈ role.rows x) :
    row.2.isKept := by
  revert row
  cases role with
  | type =>
    unfold rows
    cases x.variant? "kind" typeKinds with
    | none => simp [isKept]
    | some kind => cases kind <;> simp [TypeKind.rows, isKept]
  | reference =>
    unfold rows
    cases x.variant? "kind" refKinds with
    | none => simp [isKept]
    | some kind => cases kind <;> simp [RefKind.rows, isKept]
  | field | argument | enumValue | text | list | kept => simp [rows, isKept]
  | answer | data | schema | error | skipped => cases hrole

/-- An unknown member of a value that is kept is kept as it stands. -/
theorem isKept_rest (hrole : role.isKept) : role.rest.isKept := by
  rw [rest, if_pos hrole]
  rfl

/-- The members of an object that is kept are kept. -/
theorem isKept_member (hrole : role.isKept) (name : Option String) : (role.member x name).isKept := by
  cases name with
  | none => exact isKept_rest hrole
  | some name =>
    rw [member]
    cases hrow : (role.rows x).lookup name with
    | none => exact isKept_rest hrole
    | some i =>
      obtain ⟨before, after, hrows, -⟩ := List.lookup_eq_some_iff.mp hrow
      exact isKept_of_mem_rows hrole (hrows ▸ List.mem_append_cons_self)

/-- The items of an array that is kept are kept. -/
theorem isKept_item (hrole : role.isKept) (n : Nat) : (role.item x n).isKept := by
  unfold item
  split
  · exact hrole
  · cases hrow : (role.rows x)[n]? with
    | none => exact isKept_rest hrole
    | some row => exact isKept_of_mem_rows hrole (List.mem_of_getElem? hrow)

/-- A known member has its role. -/
theorem member_of_mem_rows (hrow : (name, i) ∈ role.rows x) : role.member x (some name) = i := by
  obtain ⟨before, after, hrows⟩ := List.append_of_mem hrow
  have hlookup : (role.rows x).lookup name = some i := by
    refine List.lookup_eq_some_iff.mpr ⟨before, after, hrows, fun row hbefore => ?_⟩
    have hnodup := role.nodup_rows x
    rw [hrows, List.map_append, List.map_cons] at hnodup
    have hne := (List.nodup_append.mp hnodup).2.2 row.1 (List.mem_map_of_mem hbefore)
    exact bne_iff_ne.mpr (hne name List.mem_cons_self).symm
  rw [member, hlookup]
  rfl

/-- An item of a record has the role of its member. -/
theorem item_of_getElem? (hrole : role.IsSingle) {row : String × Role} {n : Nat}
    (hrow : (role.rows x)[n]? = some row) : role.item x n = row.2 := by
  unfold item
  split
  · exact hrole.elim
  · rw [hrow]
    rfl

end Role

/-! ### Values that are kept -/

mutual

/-- A value that is kept as it stands is still a value when it is revised. -/
theorem Revised.readable {room : Nat} {role : Role} {x x' : Tree} :
    Revised room role x x' → role.isKept → x.Readable room → x'.Readable room
  | .null, _, h | .bool, _, h | .number, _, h | .string, _, h => h
  | .array hitems, hrole, h => by
    obtain ⟨r, rfl, hreadable⟩ := Tree.readable_array_iff.mp h
    exact Tree.readable_array_iff.mpr ⟨r, rfl, hitems.readable (Role.isKept_item hrole) hreadable⟩
  | .object hmembers hadded hperm, hrole, h => by
    obtain ⟨r, rfl, hreadable⟩ := Tree.readable_object_iff.mp h
    refine Tree.readable_object_iff.mpr ⟨r, rfl, fun m hm => ?_⟩
    rcases List.mem_append.mp (hperm.mem_iff.mpr hm) with hm | hm
    · exact hmembers.readable (Role.isKept_member hrole) hreadable m hm
    · obtain ⟨-, ⟨name, hname, -⟩, hvalue⟩ := hadded m hm
      exact ⟨⟨name, hname⟩, hvalue hrole⟩

/-- So is each item. -/
theorem RevisedItems.readable {room : Nat} {roles : Nat → Role} {items items' : List Tree} :
    RevisedItems room roles items items' → (∀ n, (roles n).isKept) → (∀ x ∈ items, x.Readable room) →
    ∀ x ∈ items', x.Readable room
  | .nil, _, h => h
  | .cons hx hitems, hroles, h => by
    obtain ⟨hfirst, hrest⟩ := List.forall_mem_cons.mp h
    exact List.forall_mem_cons.mpr
      ⟨hx.readable (hroles 0) hfirst, hitems.readable (fun n => hroles (n + 1)) hrest⟩

/-- So is the value of each member. -/
theorem RevisedMembers.readable {room : Nat} {roles : Option String → Role}
    {members members' : List (Option String × Tree)} : RevisedMembers room roles members members' →
    (∀ name, (roles name).isKept) →
    (∀ m ∈ members, (∃ name, m.1 = some name) ∧ m.2.Readable room) →
    ∀ m ∈ members', (∃ name, m.1 = some name) ∧ m.2.Readable room
  | .nil, _, h => h
  | .cons hx hmembers, hroles, h => by
    obtain ⟨⟨hname, hfirst⟩, hrest⟩ := List.forall_mem_cons.mp h
    exact List.forall_mem_cons.mpr
      ⟨⟨hname, hx.readable (hroles _) hfirst⟩, hmembers.readable hroles hrest⟩

end

/-! ### Counterparts -/

/-- The values under a name are revised in the role of the name. -/
theorem RevisedMembers.forall₂_valuesOf {room : Nat} {roles : Option String → Role}
    {members members' : List (Option String × Tree)} (name : Option String) :
    RevisedMembers room roles members members' →
    List.Forall₂ (Revised room (roles name)) (valuesOf name members) (valuesOf name members')
  | .nil => .nil
  | @RevisedMembers.cons _ _ other x x' _ _ hx hmembers => by
    have hrest := hmembers.forall₂_valuesOf name
    by_cases hname : other = name
    · obtain rfl := hname
      rw [Json.valuesOf_cons_self, Json.valuesOf_cons_self]
      exact .cons hx hrest
    · rw [Json.valuesOf_cons_of_ne hname, Json.valuesOf_cons_of_ne hname]
      exact hrest

/-- The names are still there. -/
theorem RevisedMembers.exists_mem {room : Nat} {roles : Option String → Role}
    {members members' : List (Option String × Tree)} : RevisedMembers room roles members members' →
    ∀ m ∈ members', ∃ x, (m.1, x) ∈ members
  | .nil => List.forall_mem_nil _
  | @RevisedMembers.cons _ _ other x x' _ _ hx hmembers => by
    refine List.forall_mem_cons.mpr ⟨⟨x, List.mem_cons_self⟩, fun m hm => ?_⟩
    obtain ⟨y, hy⟩ := hmembers.exists_mem m hm
    exact ⟨y, List.mem_cons_of_mem _ hy⟩

/-- The items of a record have their counterparts in the same places. -/
theorem RevisedItems.placed {room : Nat} {roles : Nat → Role} {items items' : List Tree}
    {rows : List (String × Role)} : RevisedItems room roles items items' →
    (∀ n row, rows[n]? = some row → roles n = row.2) → Placed (Revised room) rows items items'
  | .nil, _ => by
    unfold Placed
    rfl
  | .cons hx hitems, hrows =>
    match rows with
    | [] => List.cons_ne_nil _ _
    | row :: rows =>
      ⟨_, _, rfl, hrows 0 row rfl ▸ hx, hitems.placed fun n row hrow => hrows (n + 1) row hrow⟩

/-- Items that are read alike have their counterparts in the same places. -/
theorem RevisedItems.forall₂ {room : Nat} {role : Role} {items items' : List Tree} :
    RevisedItems room (fun _ => role) items items' → List.Forall₂ (Revised room role) items items'
  | .nil => .nil
  | .cons hx hitems => .cons hx hitems.forall₂

/-- The value of a known member has its counterpart under the same name.

**Proof sketch.** Only the members that are known and changed have this name, and members in another order
have the same values under it. The order of one value is its own. -/
theorem Revised.forall₂_valuesOf {room : Nat} {role i : Role} {name : String}
    {members members' : List (Option String × Tree)}
    (h : Revised room role (.object members) (.object members'))
    (hrow : (name, i) ∈ role.rows (.object members))
    (hlength : (valuesOf (some name) members).length ≤ 1) :
    List.Forall₂ (Revised (room - 1) i) (valuesOf (some name) members)
      (valuesOf (some name) members') := by
  cases h with
  | @object _ _ _ changed added _ hmembers hadded hperm =>
    have hchanged := hmembers.forall₂_valuesOf (some name)
    rw [Role.member_of_mem_rows hrow] at hchanged
    have hnone : valuesOf (some name) added = [] := by
      refine Json.valuesOf_eq_nil_iff.mpr fun m hm hname => ?_
      obtain ⟨-, ⟨other, hother, hunknown⟩, -⟩ := hadded m hm
      obtain rfl : other = name := Option.some.inj (hother.symm.trans hname)
      exact hunknown (List.mem_map_of_mem hrow)
    have hvalues : (valuesOf (some name) changed).Perm (valuesOf (some name) members') := by
      have hperm := hperm.filterMap fun m => if m.1 = some name then some m.2 else none
      rw [List.filterMap_append] at hperm
      rw [← List.append_nil (valuesOf (some name) changed), ← hnone]
      exact hperm
    rw [hchanged.length_eq] at hlength
    have heq : valuesOf (some name) changed = valuesOf (some name) members' := by
      match hsome : valuesOf (some name) changed with
      | [] => exact (List.nil_perm.mp (hsome ▸ hvalues)).symm
      | [x] => exact List.singleton_perm.mp (hsome ▸ hvalues)
      | _ :: _ :: _ => simp [hsome] at hlength
    exact heq ▸ hchanged

/-- The members of a revision are those that were there, or are admitted. -/
theorem Revised.exists_mem {room : Nat} {role : Role} {members members' : List (Option String × Tree)}
    (h : Revised room role (.object members) (.object members')) : ∀ m ∈ members',
      (∃ x, (m.1, x) ∈ members) ∨ role ≠ .data ∧ ∃ name, m.1 = some name := by
  cases h with
  | object hmembers hadded hperm =>
    intro m hm
    rcases List.mem_append.mp (hperm.mem_iff.mpr hm) with hm | hm
    · exact .inl (hmembers.exists_mem m hm)
    · obtain ⟨hdata, ⟨name, hname, -⟩, -⟩ := hadded m hm
      exact .inr ⟨hdata, name, hname⟩

section Counterparts

variable {V : Type} {R : Role → Tree → Tree → Prop} {S : Role → V → V → Prop} {tree : V → Tree}

/-- What follows for the values of two lists follows for the counterparts among them. -/
theorem forall₂_imp_of_mem {T U : V → V → Prop} {vs vs' : List V} (h : List.Forall₂ T vs vs')
    (himp : ∀ v ∈ vs, ∀ v' ∈ vs', T v v' → U v v') : List.Forall₂ U vs vs' := by
  induction h with
  | nil => exact .nil
  | cons hv _ ih =>
    refine .cons (himp _ List.mem_cons_self _ List.mem_cons_self hv) (ih fun v hv v' hv' => ?_)
    exact himp v (List.mem_cons_of_mem _ hv) v' (List.mem_cons_of_mem _ hv')

/-- The trees of the values under a name. -/
theorem valuesOf_map (name : String) (ms : List (String × V)) :
    valuesOf (some name) (ms.map fun m => (some m.1, tree m.2)) = (valuesOf name ms).map tree := by
  induction ms with
  | nil => rfl
  | cons m ms ih =>
    by_cases hname : m.1 = name <;> simp_all [valuesOf]

/-- The values of the members of an object have their counterparts in a revision of what it says. -/
theorem carried_of_revised {room : Nat} {role : Role} {ms ms' : List (String × V)}
    (h : Revised room role (.object (ms.map fun m => (some m.1, tree m.2)))
      (.object (ms'.map fun m => (some m.1, tree m.2))))
    (hS : ∀ i, ∀ m ∈ ms, ∀ m' ∈ ms', Revised (room - 1) i (tree m.2) (tree m'.2) → S i m.2 m'.2) :
    Carried S (role.rows (.object (ms.map fun m => (some m.1, tree m.2)))) ms ms' := by
  intro name i hrow hlength
  have hvalues := h.forall₂_valuesOf hrow (by rw [valuesOf_map, List.length_map]; exact hlength)
  rw [valuesOf_map, valuesOf_map, List.forall₂_map_left_iff, List.forall₂_map_right_iff] at hvalues
  exact forall₂_imp_of_mem hvalues fun v hv v' hv' =>
    hS i (name, v) (Json.mem_valuesOf.mp hv) (name, v') (Json.mem_valuesOf.mp hv')

/-- Items have their counterparts where what they say has. -/
theorem placed_of_map : {rows : List (String × Role)} → {items items' : List V} →
    Placed R rows (items.map tree) (items'.map tree) →
    (∀ i, ∀ v ∈ items, ∀ v' ∈ items', R i (tree v) (tree v') → S i v v') → Placed S rows items items'
  | rows, [], items', h, _ => by
    unfold Placed at h ⊢
    exact List.map_eq_nil_iff.mp h
  | [], v :: items, items', h, _ => fun hnil => h (by rw [hnil]; rfl)
  | (_, i) :: rows, v :: items, items', h, hS => by
    obtain ⟨x', rest, heq, hx, hrest⟩ := h
    obtain ⟨v', items', rfl, rfl, rfl⟩ := List.map_eq_cons_iff.mp heq
    refine ⟨v', items', rfl, hS i v List.mem_cons_self v' List.mem_cons_self hx, ?_⟩
    exact placed_of_map hrest fun i v hv v' hv' =>
      hS i v (List.mem_cons_of_mem _ hv) v' (List.mem_cons_of_mem _ hv')

/-- The items of a record have their counterparts in a revision of what it says. -/
theorem placed_of_revised {room : Nat} {role : Role} {items items' : List V}
    (hrole : role.IsSingle)
    (h : Revised room role (.array (items.map tree)) (.array (items'.map tree)))
    (hS : ∀ i, ∀ v ∈ items, ∀ v' ∈ items', Revised (room - 1) i (tree v) (tree v') → S i v v') :
    Placed S (role.rows (.array (items.map tree))) items items' := by
  cases h with
  | array hitems =>
    exact placed_of_map (hitems.placed fun n row hrow => Role.item_of_getElem? hrole hrow) hS

/-- The items of a list have their counterparts in a revision of what it says. -/
theorem forall₂_of_revised {room : Nat} {item : Role} {items items' : List V}
    (h : Revised room (.list item) (.array (items.map tree)) (.array (items'.map tree)))
    (hS : ∀ v ∈ items, ∀ v' ∈ items', Revised (room - 1) item (tree v) (tree v') → S item v v') :
    List.Forall₂ (S item) items items' := by
  cases h with
  | array hitems =>
    have hforall := hitems.forall₂
    rw [List.forall₂_map_left_iff, List.forall₂_map_right_iff] at hforall
    exact forall₂_imp_of_mem hforall hS

end Counterparts

/-! ### Revisions of values and drafts -/

/-- The second value is a revision of the first one and nests fewer arrays and objects than this. -/
def Revises (bound : Nat) (role : Role) (j j' : Json) : Prop :=
  (∃ room, Revised room role j.tree j'.tree) ∧ j'.depth < bound

/-- The second draft is a revision of the first one, and neither has a fault. -/
def RevisesDraft (room : Nat) (role : Role) (d d' : Draft) : Prop :=
  Revised room role d.tree d'.tree ∧ d.skipFault? = none ∧ d'.skipFault? = none

/-- A tree other than an array or an object is its only revision. -/
theorem Revised.eq_or {room : Nat} {role : Role} {x x' : Tree} (h : Revised room role x x') :
    x' = x ∨ (∃ items, x = .array items) ∨ ∃ members, x = .object members := by
  cases h with
  | null | bool | number | string => exact .inl rfl
  | array => exact .inr (.inl ⟨_, rfl⟩)
  | object => exact .inr (.inr ⟨_, rfl⟩)

section Values

variable {bound : Nat} {role item : Role} {j j' : Json}

/-- A value other than an array or an object is its only revision. -/
theorem Revises.eq_or (h : Revises bound role j j') :
    j' = j ∨ (∃ items, j = .array items) ∨ ∃ ms, j = .object ms := by
  obtain ⟨⟨room, h⟩, -⟩ := h
  cases j with
  | array items => exact .inr (.inl ⟨items, rfl⟩)
  | object ms => exact .inr (.inr ⟨ms, rfl⟩)
  | null | bool | number | string =>
    have htree := h.eq_or
    cases j' <;> simp_all [Json.tree]

/-- The values that a record reads have their counterparts in a revision of it.

**Proof sketch.** A revision of an object is an object, and one of an array an array; every other value
is its only revision. The members that are known are carried over to revisions of them
(`carried_of_revised`), and the items stay where they are (`placed_of_revised`). All of these nest less
than the value that holds them. -/
theorem Revises.counterpart (h : Revises bound role j j') (hrole : role.IsSingle) :
    Counterpart (Revises j'.depth) (role.rows j.tree) j j' := by
  cases j with
  | object ms =>
    obtain ⟨⟨room, h⟩, -⟩ := h
    cases j' with
    | object ms' =>
      simp only [Json.tree, Json.treesOfMembers_eq_map] at h ⊢
      exact ⟨ms', rfl, carried_of_revised h fun i m _ m' hm' hv =>
        ⟨⟨_, hv⟩, Json.depth_lt_of_mem_members hm'⟩⟩
    | null | bool | number | string | array => cases h
  | array items =>
    obtain ⟨⟨room, h⟩, -⟩ := h
    cases j' with
    | array items' =>
      simp only [Json.tree, Json.treesOfItems_eq_map] at h ⊢
      exact ⟨items', rfl, placed_of_revised hrole h fun i v _ v' hv' hv =>
        ⟨⟨_, hv⟩, Json.depth_lt_of_mem_items hv'⟩⟩
    | null | bool | number | string | object => cases h
  | null | bool | number | string => exact h.eq_or.resolve_right (by simp)

/-- So do the items of a list. -/
theorem Revises.forall₂ {items : List Json} (h : Revises bound (.list item) (.array items) j') :
    ∃ items', j' = .array items' ∧ List.Forall₂ (Revises j'.depth item) items items' := by
  obtain ⟨⟨room, h⟩, -⟩ := h
  cases j' with
  | array items' =>
    simp only [Json.tree, Json.treesOfItems_eq_map] at h
    have hitems : List.Forall₂ (Revises (Json.array items').depth item) items items' :=
      forall₂_of_revised h fun v _ v' hv' hv => ⟨⟨_, hv⟩, Json.depth_lt_of_mem_items hv'⟩
    exact ⟨items', rfl, hitems⟩
  | null | bool | number | string | object => cases h

end Values

section Drafts

variable {room : Nat} {role item : Role} {strictness : Strictness} {d d' : Draft}

/-- The values that a record reads have their counterparts in a revision of it. A strict one has no other
members.

**Proof sketch.** As for values, members are carried over and items stay in their places. In addition
each name of the revised object can be read: it is either that of a member of the first object or that
of an added one, of which the same is said. A strict record is the data of an answer, to which nothing
is added. -/
theorem RevisesDraft.counterpart (h : RevisesDraft room role d d') (hrole : role.IsSingle)
    (hstrict : strictness = .strict → role = .data) :
    Draft.Counterpart (RevisesDraft (room - 1)) (role.rows d.tree) strictness d d' := by
  obtain ⟨h, hfault, hfault'⟩ := h
  cases d with
  | object members ending =>
    cases d' with
    | object members' ending' =>
      rintro ms rfl
      obtain ⟨ms', rfl⟩ : ∃ ms', members' = keyed ms' := by
        refine Json.exists_keyed fun m hm => ?_
        rcases h.exists_mem m hm with ⟨x, hx⟩ | ⟨-, hname⟩
        · rw [Json.treeOfMembers_keyed] at hx
          obtain ⟨m', -, hm'⟩ := List.mem_map.mp hx
          exact ⟨m'.1, (Prod.mk.inj hm').1.symm⟩
        · exact hname
      rw [Draft.skipFault?, Option.or_eq_none_iff, Json.membersSkipFault?_eq_none_iff] at hfault hfault'
      simp only [Draft.tree, Json.treeOfMembers_keyed] at h ⊢
      refine ⟨ms', ending', rfl, carried_of_revised h fun i m hm m' hm' hv => ⟨hv, ?_, ?_⟩,
        fun hs m hm => ?_⟩
      · exact hfault.1 _ (List.mem_map_of_mem hm)
      · exact hfault'.1 _ (List.mem_map_of_mem hm')
      · rcases h.exists_mem _ (List.mem_map_of_mem hm) with ⟨x, hx⟩ | ⟨hdata, -⟩
        · obtain ⟨m', hm', heq⟩ := List.mem_map.mp hx
          obtain ⟨hname, -⟩ := Prod.mk.inj heq
          exact ⟨m'.2, Option.some.inj hname ▸ hm'⟩
        · exact absurd (hstrict hs) hdata
    | null | bool | number | string | array | broken => cases h
  | array items ending =>
    cases d' with
    | array items' ending' =>
      rw [Draft.skipFault?, Option.or_eq_none_iff, Json.itemsSkipFault?_eq_none_iff] at hfault hfault'
      simp only [Draft.tree, Json.treeOfItems_eq_map] at h ⊢
      exact ⟨items', ending', rfl, placed_of_revised hrole h fun i v hmem v' hmem' hv =>
        ⟨hv, hfault.1 v hmem, hfault'.1 v' hmem'⟩⟩
    | null | bool | number | string | object | broken => cases h
  | null | bool | number | string | broken => trivial

/-- So do the items of a list. -/
theorem RevisesDraft.forall₂ {items : List Draft} {ending : Json.ArrayEnd}
    (h : RevisesDraft room (.list item) (.array items ending) d') :
    ∃ items' ending', d' = .array items' ending' ∧ ending'.skipFault? = none ∧
      List.Forall₂ (RevisesDraft (room - 1) item) items items' := by
  obtain ⟨h, hfault, hfault'⟩ := h
  cases d' with
  | array items' ending' =>
    rw [Draft.skipFault?, Option.or_eq_none_iff, Json.itemsSkipFault?_eq_none_iff] at hfault hfault'
    simp only [Draft.tree, Json.treeOfItems_eq_map] at h
    have hitems : List.Forall₂ (RevisesDraft (room - 1) item) items items' :=
      forall₂_of_revised h fun v hmem v' hmem' hv => ⟨hv, hfault.1 v hmem, hfault'.1 v' hmem'⟩
    exact ⟨items', ending', rfl, hfault'.2, hitems⟩
  | null | bool | number | string | object | broken => cases h

end Drafts

end SchemaQueries.Introspection
