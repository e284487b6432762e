import SchemaQueries.Proofs.Json.Grammar
import SchemaQueries.Proofs.Json.Thorough

/-!
# What a JSON text says

A JSON text says a tree: its values with the members of its objects in order, whatever white space stands
between them and however the characters of its strings are spelled. A tree leaves open what cannot be
read: a number that is out of range, and a string with half of a surrogate pair.

## Main definitions

* `Json.Tree` — what a text says.
* `Json.Tree.isSame` — whether two trees are the same.
* `Json.Tree.Writes` — a text is one of the ways to write a tree.
* `Json.Tree.Starts` — a text starts with a tree.
* `Json.Draft.tree`, `Json.tree` — the tree of a draft, and that of a value.
* `Json.Tree.Readable` — a tree that is that of a value.

## Main results

* `Json.Tree.Writes.isValue`, `Json.IsValue.exists_writes` — the texts of trees are the JSON values.
* `Json.scanStringFrom_of_quotes` — a string is read as what its units of UTF-16 stand for.
* `Json.readWhole_eq_ok_iff` — a draft is read as it stands exactly if it is the tree of a value that nests
  few enough arrays and objects.
* `Json.Tree.readable_array_iff`, `Json.Tree.readable_object_iff` — when a tree is that of such a value.
-/

set_option autoImplicit false
set_option relaxedAutoImplicit false

namespace SchemaQueries.Json

open Steps (bind_eq_ok_iff mapError_eq_ok_iff)

/-! ### Strings -/

/-- The units of UTF-16 of a character. -/
def unitsOf (c : Char) : List Nat :=
  if c.toNat < 0x10000 then [c.toNat] else [highSurrogate c, lowSurrogate c]

/-- The text with the closing quote spells these units of UTF-16. -/
inductive Quotes : List Nat → List Char → Prop
  | close : Quotes [] ['"']
  /-- A character that stands for itself. -/
  | plain {c : Char} {units : List Nat} {cs : List Char} : c ≠ '"' → c ≠ '\\' → 0x20 ≤ c.toNat →
      Quotes units cs → Quotes (unitsOf c ++ units) (c :: cs)
  /-- A backslash and a letter. -/
  | letter {letter c : Char} {units : List Nat} {cs : List Char} : (letter, c) ∈ letterEscapes →
      Quotes units cs → Quotes (unitsOf c ++ units) ('\\' :: letter :: cs)
  /-- Any unit, by its hexadecimal digits. -/
  | unit {x₁ x₂ x₃ x₄ : Char} {n : Nat} {units : List Nat} {cs : List Char} :
      unit? x₁ x₂ x₃ x₄ = some n → Quotes units cs →
      Quotes (n :: units) ('\\' :: 'u' :: x₁ :: x₂ :: x₃ :: x₄ :: cs)

/-- The characters that units of UTF-16 stand for, behind the first half of a surrogate pair that waits
for the second one. There are none if a half stands alone. -/
def charsFrom? : Option Nat → List Nat → Option (List Char)
  | none, [] => some []
  | some _, [] => none
  | none, n :: units =>
    if 0xDC00 ≤ n && n ≤ 0xDFFF then none
    else if 0xD800 ≤ n && n ≤ 0xDBFF then charsFrom? (some n) units
    else (charsFrom? none units).map (Char.ofNat n :: ·)
  | some first, n :: units =>
    if 0xDC00 ≤ n && n ≤ 0xDFFF then
      (charsFrom? none units).map
        (Char.ofNat (0x10000 + (first - 0xD800) * 0x400 + (n - 0xDC00)) :: ·)
    else none

/-- The text that units of UTF-16 stand for. -/
def textOfUnits? (units : List Nat) : Option String :=
  (charsFrom? none units).map String.ofList

/-- The units of a character stand for it. -/
theorem charsFrom?_unitsOf (c : Char) (units : List Nat) :
    charsFrom? none (unitsOf c ++ units) = (charsFrom? none units).map (c :: ·) := by
  have hcode := toNat_not_surrogate c
  unfold unitsOf
  split
  · have hsecond : (0xDC00 ≤ c.toNat && c.toNat ≤ 0xDFFF) = false := by
      simp only [Bool.and_eq_false_iff, decide_eq_false_iff_not]
      omega
    have hfirst : (0xD800 ≤ c.toNat && c.toNat ≤ 0xDBFF) = false := by
      simp only [Bool.and_eq_false_iff, decide_eq_false_iff_not]
      omega
    rw [List.singleton_append, charsFrom?, hsecond, hfirst, Char.ofNat_toNat]
    rfl
  · next hc =>
    obtain ⟨hhigh, hlow, hvalue⟩ := surrogates_of_le (Nat.le_of_not_lt hc)
    have hsecond : ¬ 0xDC00 ≤ highSurrogate c := by omega
    simp [charsFrom?, hhigh, hlow, hsecond, hvalue]

/-- A character does not complete a surrogate pair. -/
theorem charsFrom?_some_unitsOf (first : Nat) (c : Char) (units : List Nat) :
    charsFrom? (some first) (unitsOf c ++ units) = none := by
  have hcode := toNat_not_surrogate c
  obtain ⟨n, rest, hunits, hn⟩ :
      ∃ n rest, unitsOf c = n :: rest ∧ (0xDC00 ≤ n && n ≤ 0xDFFF) = false := by
    simp only [Bool.and_eq_false_iff, decide_eq_false_iff_not]
    unfold unitsOf
    split
    · exact ⟨_, _, rfl, by omega⟩
    · next hc =>
      have hhigh := (surrogates_of_le (Nat.le_of_not_lt hc)).1
      exact ⟨_, _, rfl, by omega⟩
  rw [hunits, List.cons_append, charsFrom?, hn]
  rfl

namespace StringProgress

/-- What a reader makes of the string if these units follow. -/
def text? (p : StringProgress) (units : List Nat) : Option String :=
  if p.minded.isSome then none
  else (charsFrom? p.half units).map fun cs => String.ofList (p.seen.reverse ++ cs)

/-- At the end of the string, the reader makes of it what it has come to. -/
theorem toOption_result (p : StringProgress) : p.result.toOption = p.text? [] := by
  obtain ⟨seen, half, minded⟩ := p
  cases minded <;> cases half <;> simp [result, settle, text?, charsFrom?, Except.toOption]

/-- A character is read as its units. -/
theorem text?_push (p : StringProgress) (c : Char) (units : List Nat) :
    (p.push c).text? units = p.text? (unitsOf c ++ units) := by
  obtain ⟨seen, half, minded⟩ := p
  cases minded with
  | some f => cases half <;> simp [push, settle, text?]
  | none =>
    cases half with
    | none => simp [push, settle, text?, charsFrom?_unitsOf, Function.comp_def]
    | some first => simp [push, settle, text?, charsFrom?_some_unitsOf]

/-- A unit is read as itself. -/
theorem text?_pushUnit (p : StringProgress) (n : Nat) (units : List Nat) :
    (p.pushUnit n).text? units = p.text? (n :: units) := by
  obtain ⟨seen, half, minded⟩ := p
  cases minded with
  | some f =>
    cases half <;> simp only [pushUnit, text?] <;> split_ifs <;> simp_all
  | none =>
    cases half with
    | none =>
      simp only [pushUnit, text?, charsFrom?]
      split_ifs <;> simp_all [Function.comp_def]
    | some first =>
      simp only [pushUnit, text?, charsFrom?]
      split_ifs <;> simp_all [Function.comp_def]

end StringProgress

/-- A string is read up to its closing quote, as what its units stand for.

**Proof sketch.** Induction on the spelling. Each character, letter or unit is added to what has been
read, and adding it first or having it among the units that follow comes to the same text. -/
theorem scanStringFrom_of_quotes {units : List Nat} {key : List Char} (h : Quotes units key)
    (p : StringProgress) : ∃ value, (∀ rest, scanStringFrom p (key ++ rest) = .complete value rest) ∧
      value.toOption = p.text? units := by
  induction h generalizing p with
  | close => exact ⟨p.result, fun rest => by simp [scanStringFrom], p.toOption_result⟩
  | @plain c units cs hquote hback hlow _ ih =>
    obtain ⟨value, hvalue, htext⟩ := ih (p.push c)
    refine ⟨value, fun rest => ?_, htext.trans (p.text?_push c units)⟩
    rw [List.cons_append, scanStringFrom]
    · rw [if_neg hquote, if_neg (by omega), hvalue]
    all_goals simp [hback]
  | @letter letter c units cs hmem _ ih =>
    obtain ⟨hshort, hu⟩ := shortEscape?_of_mem hmem
    obtain ⟨value, hvalue, htext⟩ := ih (p.push c)
    refine ⟨value, fun rest => ?_, htext.trans (p.text?_push c units)⟩
    rw [List.cons_append, List.cons_append, scanStringFrom]
    · simp only [hshort]
      rw [hvalue]
    all_goals simp [hu]
  | @unit _ _ _ _ n units cs hunit _ ih =>
    obtain ⟨value, hvalue, htext⟩ := ih (p.pushUnit n)
    refine ⟨value, fun rest => ?_, htext.trans (p.text?_pushUnit n units)⟩
    simp only [List.cons_append, scanStringFrom, hunit]
    rw [hvalue]

/-- The text with the closing quote is a string, and this is what it stands for. -/
def Spells (s : Option String) (key : List Char) : Prop :=
  ∃ units, Quotes units key ∧ textOfUnits? units = s

/-- A spelling of units has the form of a string. -/
theorem Quotes.isQuoted {units : List Nat} {key : List Char} (h : Quotes units key) : IsQuoted key := by
  induction h with
  | close => exact .close
  | plain hquote hback hlow _ ih => exact .plain hquote hback hlow ih
  | letter hmem _ ih => exact .letter hmem ih
  | unit hunit _ ih => exact .unit hunit ih

/-- A text in the form of a string stands for something. -/
theorem IsQuoted.exists_spells {key : List Char} (h : IsQuoted key) : ∃ s, Spells s key := by
  suffices hunits : ∃ units, Quotes units key by
    obtain ⟨units, hunits⟩ := hunits
    exact ⟨_, units, hunits, rfl⟩
  induction h with
  | close => exact ⟨_, .close⟩
  | plain hquote hback hlow _ ih =>
    obtain ⟨units, hunits⟩ := ih
    exact ⟨_, .plain hquote hback hlow hunits⟩
  | letter hmem _ ih =>
    obtain ⟨units, hunits⟩ := ih
    exact ⟨_, .letter hmem hunits⟩
  | unit hunit _ ih =>
    obtain ⟨units, hunits⟩ := ih
    exact ⟨_, .unit hunit hunits⟩

/-- A string is read up to its closing quote, as what it stands for. -/
theorem scanString_of_spells {s : Option String} {key : List Char} (h : Spells s key) :
    ∃ value, (∀ rest, scanString (key ++ rest) = .complete value rest) ∧ value.toOption = s := by
  obtain ⟨units, hunits, rfl⟩ := h
  exact scanStringFrom_of_quotes hunits .start

/-! ### Trees -/

/-- What a JSON text says. A number is missing if it is out of range, and a string if it has half of a
surrogate pair. -/
inductive Tree where
  | null
  | bool (b : Bool)
  | number (n : Option Number)
  | string (s : Option String)
  | array (items : List Tree)
  | object (members : List (Option String × Tree))

namespace Tree

mutual

/-- Whether two trees are the same. -/
def isSame : Tree → Tree → Bool
  | .null, .null => Bool.true
  | .bool b, .bool b' => b == b'
  | .number n, .number n' => n == n'
  | .string s, .string s' => s == s'
  | .array items, .array items' => areSame items items'
  | .object members, .object members' => haveSame members members'
  | _, _ => Bool.false

/-- Whether two lists of items are the same. -/
def areSame : List Tree → List Tree → Bool
  | [], [] => Bool.true
  | x :: items, y :: items' => x.isSame y && areSame items items'
  | _, _ => Bool.false

/-- Whether two lists of members are the same. -/
def haveSame : List (Option String × Tree) → List (Option String × Tree) → Bool
  | [], [] => Bool.true
  | (name, x) :: members, (name', y) :: members' =>
    name == name' && x.isSame y && haveSame members members'
  | _, _ => Bool.false

end

mutual

/-- The test finds trees the same exactly if they are equal. -/
theorem isSame_iff (x y : Tree) : x.isSame y ↔ x = y := by
  cases x with
  | array items => cases y with
    | array items' => rw [isSame, areSame_iff items items', array.injEq]
    | _ => simp [isSame]
  | object members => cases y with
    | object members' => rw [isSame, haveSame_iff members members', object.injEq]
    | _ => simp [isSame]
  | _ => cases y <;> simp [isSame]

/-- The test finds lists of items the same exactly if they are equal. -/
theorem areSame_iff (items items' : List Tree) : areSame items items' ↔ items = items' := by
  match items, items' with
  | [], [] | [], _ :: _ | _ :: _, [] => simp [areSame]
  | x :: items, y :: items' =>
    rw [areSame, Bool.and_eq_true, isSame_iff x y, areSame_iff items items', List.cons.injEq]

/-- The test finds lists of members the same exactly if they are equal. -/
theorem haveSame_iff (members members' : List (Option String × Tree)) :
    haveSame members members' ↔ members = members' := by
  match members, members' with
  | [], [] | [], _ :: _ | _ :: _, [] => simp [haveSame]
  | (name, x) :: members, (name', y) :: members' =>
    rw [haveSame, Bool.and_eq_true, Bool.and_eq_true, beq_iff_eq, isSame_iff x y,
      haveSame_iff members members', List.cons.injEq, Prod.mk.injEq]

end

instance : DecidableEq Tree := fun x y => decidable_of_iff _ (isSame_iff x y)

mutual

/-- The text is one of the ways to write the tree. -/
inductive Writes : Tree → List Char → Prop
  | null : Writes .null "null".toList
  | bool {b : Bool} : Writes (.bool b) (if b then "true".toList else "false".toList)
  | number {t : NumberText} {cs : List Char} : SpelledNumber t cs [] →
      Writes (.number t.value.toOption) cs
  | string {s : Option String} {cs : List Char} : Spells s cs → Writes (.string s) ('"' :: cs)
  | array {items : List Tree} {cs : List Char} : WritesItems Bool.true items cs →
      Writes (.array items) ('[' :: cs)
  | object {members : List (Option String × Tree)} {cs : List Char} :
      WritesMembers Bool.true members cs → Writes (.object members) ('\x7b' :: cs)

/-- The text is one of the ways to write the items from here on, with the closing bracket. -/
inductive WritesItems : Bool → List Tree → List Char → Prop
  | close {first : Bool} {blanks : List Char} : Blank blanks → WritesItems first [] (blanks ++ [']'])
  | item {first : Bool} {x : Tree} {items : List Tree} {before blanks value rest : List Char} :
      Separator first before → Blank blanks → Writes x value → WritesItems Bool.false items rest →
      WritesItems first (x :: items) (before ++ (blanks ++ (value ++ rest)))

/-- The text is one of the ways to write the members from here on, with the closing brace. -/
inductive WritesMembers : Bool → List (Option String × Tree) → List Char → Prop
  | close {first : Bool} {blanks : List Char} : Blank blanks →
      WritesMembers first [] (blanks ++ ['\x7d'])
  | member {first : Bool} {name : Option String} {x : Tree} {members : List (Option String × Tree)}
      {before blanks key blanks' blanks'' value rest : List Char} : Separator first before →
      Blank blanks → Spells name key → Blank blanks' → Blank blanks'' → Writes x value →
      WritesMembers Bool.false members rest →
      WritesMembers first ((name, x) :: members)
        (before ++ (blanks ++ '"' :: (key ++ (blanks' ++ ':' :: (blanks'' ++ (value ++ rest))))))

end

/-- The text starts with the tree, behind white space. What stands behind it is left open. -/
def Starts (x : Tree) (text : List Char) : Prop :=
  ∃ before value rest, Blank before ∧ x.Writes value ∧ text = before ++ (value ++ rest)

mutual

/-- The texts of trees are JSON values. -/
theorem Writes.isValue {x : Tree} {cs : List Char} : x.Writes cs → IsValue cs
  | .null => .word (by decide)
  | .bool (b := b) => by cases b <;> exact .word (by decide)
  | .number h => .number h
  | .string ⟨_, h, _⟩ => .string h.isQuoted
  | .array h => .array h.isItems
  | .object h => .object h.isMembers

/-- The texts of items are items. -/
theorem WritesItems.isItems {first : Bool} {items : List Tree} {cs : List Char} :
    WritesItems first items cs → IsItems first cs
  | .close h => .close h
  | .item hbefore hblanks hx h => .item hbefore hblanks hx.isValue h.isItems

/-- The texts of members are members. -/
theorem WritesMembers.isMembers {first : Bool} {members : List (Option String × Tree)}
    {cs : List Char} : WritesMembers first members cs → IsMembers first cs
  | .close h => .close h
  | .member hbefore hblanks ⟨_, hkey, _⟩ hblanks' hblanks'' hx h =>
    .member hbefore hblanks hkey.isQuoted hblanks' hblanks'' hx.isValue h.isMembers

end

end Tree

mutual

/-- Every JSON value says something. -/
theorem IsValue.exists_writes {cs : List Char} : IsValue cs → ∃ x : Tree, x.Writes cs
  | .word hw => by
    simp only [List.mem_cons, List.not_mem_nil, or_false] at hw
    rcases hw with rfl | rfl | rfl
    · exact ⟨_, .null⟩
    · exact ⟨_, .bool (b := Bool.true)⟩
    · exact ⟨_, .bool (b := Bool.false)⟩
  | .number h => ⟨_, .number h⟩
  | .string h => by
    obtain ⟨s, hs⟩ := h.exists_spells
    exact ⟨_, .string hs⟩
  | .array h => by
    obtain ⟨items, hitems⟩ := h.exists_writesItems
    exact ⟨_, .array hitems⟩
  | .object h => by
    obtain ⟨members, hmembers⟩ := h.exists_writesMembers
    exact ⟨_, .object hmembers⟩

/-- So do items. -/
theorem IsItems.exists_writesItems {first : Bool} {cs : List Char} :
    IsItems first cs → ∃ items, Tree.WritesItems first items cs
  | .close h => ⟨[], .close h⟩
  | .item hbefore hblanks hx h => by
    obtain ⟨x, hx⟩ := hx.exists_writes
    obtain ⟨items, hitems⟩ := h.exists_writesItems
    exact ⟨_, .item hbefore hblanks hx hitems⟩

/-- So do members. -/
theorem IsMembers.exists_writesMembers {first : Bool} {cs : List Char} :
    IsMembers first cs → ∃ members, Tree.WritesMembers first members cs
  | .close h => ⟨[], .close h⟩
  | .member hbefore hblanks hkey hblanks' hblanks'' hx h => by
    obtain ⟨name, hname⟩ := hkey.exists_spells
    obtain ⟨x, hx⟩ := hx.exists_writes
    obtain ⟨members, hmembers⟩ := h.exists_writesMembers
    exact ⟨_, .member hbefore hblanks hname hblanks' hblanks'' hx hmembers⟩

end

/-! ### The tree of a draft -/

mutual

/-- What a draft says, if it has no fault. -/
def Draft.tree : Draft → Tree
  | .null | .broken _ _ => .null
  | .bool b => .bool b
  | .number n => .number n.toOption
  | .string s => .string s.toOption
  | .array items _ => .array (treeOfItems items)
  | .object members _ => .object (treeOfMembers members)

/-- What the items say. -/
def treeOfItems : List Draft → List Tree
  | [] => []
  | first :: rest => first.tree :: treeOfItems rest

/-- What the members say. -/
def treeOfMembers : List (Except Fault String × Draft) → List (Option String × Tree)
  | [] => []
  | (key, first) :: rest => (key.toOption, first.tree) :: treeOfMembers rest

end

/-- What the items say, item by item. -/
theorem treeOfItems_eq_map (items : List Draft) : treeOfItems items = items.map Draft.tree := by
  induction items with
  | nil => rfl
  | cons first rest ih => rw [treeOfItems, ih, List.map_cons]

/-- What the members say, member by member. -/
theorem treeOfMembers_eq_map (members : List (Except Fault String × Draft)) :
    treeOfMembers members = members.map fun m => (m.1.toOption, m.2.tree) := by
  induction members with
  | nil => rfl
  | cons first rest ih =>
    obtain ⟨key, first⟩ := first
    rw [treeOfMembers, ih, List.map_cons]

mutual

/-- Every tree is that of a draft without a fault. -/
theorem Tree.exists_draft : (x : Tree) → ∃ d : Draft, d.tree = x ∧ d.skipFault? = none
  | .null => ⟨.null, rfl, rfl⟩
  | .bool b => ⟨.bool b, rfl, rfl⟩
  | .number (some n) => ⟨.number (.ok n), rfl, rfl⟩
  | .number none => ⟨.number (.error .numberOutOfRange), rfl, rfl⟩
  | .string (some s) => ⟨.string (.ok s), rfl, rfl⟩
  | .string none => ⟨.string (.error .endInValue), rfl, rfl⟩
  | .array items => by
    obtain ⟨ds, rfl, hfaults⟩ := Tree.exists_items items
    exact ⟨.array ds .closed, rfl, by rw [Draft.skipFault?, hfaults]; rfl⟩
  | .object members => by
    obtain ⟨ds, rfl, hfaults⟩ := Tree.exists_members members
    exact ⟨.object ds .closed, rfl, by rw [Draft.skipFault?, hfaults]; rfl⟩

/-- So are items. -/
theorem Tree.exists_items : (items : List Tree) →
    ∃ ds : List Draft, treeOfItems ds = items ∧ itemsSkipFault? ds = none
  | [] => ⟨[], rfl, rfl⟩
  | x :: items => by
    obtain ⟨d, rfl, hfault⟩ := x.exists_draft
    obtain ⟨ds, rfl, hfaults⟩ := Tree.exists_items items
    exact ⟨d :: ds, rfl, by rw [itemsSkipFault?, hfault, hfaults]; rfl⟩

/-- So are members. -/
theorem Tree.exists_members : (members : List (Option String × Tree)) →
    ∃ ds : List (Except Fault String × Draft),
      treeOfMembers ds = members ∧ membersSkipFault? ds = none
  | [] => ⟨[], rfl, rfl⟩
  | (some name, x) :: members => by
    obtain ⟨d, rfl, hfault⟩ := x.exists_draft
    obtain ⟨ds, rfl, hfaults⟩ := Tree.exists_members members
    exact ⟨(.ok name, d) :: ds, rfl, by rw [membersSkipFault?, hfault, hfaults]; rfl⟩
  | (none, x) :: members => by
    obtain ⟨d, rfl, hfault⟩ := x.exists_draft
    obtain ⟨ds, rfl, hfaults⟩ := Tree.exists_members members
    exact ⟨(.error .endInValue, d) :: ds, rfl, by rw [membersSkipFault?, hfault, hfaults]; rfl⟩

end

/-! ### The tree of a value -/

mutual

/-- What a value says. -/
def tree : Json → Tree
  | .null => .null
  | .bool b => .bool b
  | .number n => .number (some n)
  | .string s => .string (some s)
  | .array items => .array (treesOfItems items)
  | .object members => .object (treesOfMembers members)

/-- What the items of an array say. -/
def treesOfItems : List Json → List Tree
  | [] => []
  | first :: rest => first.tree :: treesOfItems rest

/-- What the members of an object say. -/
def treesOfMembers : List (String × Json) → List (Option String × Tree)
  | [] => []
  | (key, first) :: rest => (some key, first.tree) :: treesOfMembers rest

end

/-- What the items of an array say, item by item. -/
theorem treesOfItems_eq_map (items : List Json) : treesOfItems items = items.map tree := by
  induction items with
  | nil => rfl
  | cons first rest ih => rw [treesOfItems, ih, List.map_cons]

/-- What the members of an object say, member by member. -/
theorem treesOfMembers_eq_map (members : List (String × Json)) :
    treesOfMembers members = members.map fun m => (some m.1, m.2.tree) := by
  induction members with
  | nil => rfl
  | cons first rest ih =>
    obtain ⟨key, first⟩ := first
    rw [treesOfMembers, ih, List.map_cons]

mutual

/-- Values that say the same are the same. -/
theorem eq_of_tree_eq : {j j' : Json} → j.tree = j'.tree → j = j'
  | .null, j', h | .bool _, j', h | .number _, j', h | .string _, j', h => by
    cases j' <;> simp_all [tree]
  | .array items, j', h => by
    cases j' with
    | array items' => rw [eq_of_treesOfItems_eq (Tree.array.inj h)]
    | null | bool | number | string | object => cases h
  | .object members, j', h => by
    cases j' with
    | object members' => rw [eq_of_treesOfMembers_eq (Tree.object.inj h)]
    | null | bool | number | string | array => cases h

/-- So are items. -/
theorem eq_of_treesOfItems_eq : {items items' : List Json} → treesOfItems items = treesOfItems items' →
    items = items'
  | [], [], _ => rfl
  | j :: items, j' :: items', h => by
    obtain ⟨hj, hitems⟩ := List.cons.inj h
    rw [eq_of_tree_eq hj, eq_of_treesOfItems_eq hitems]

/-- So are members. -/
theorem eq_of_treesOfMembers_eq : {members members' : List (String × Json)} →
    treesOfMembers members = treesOfMembers members' → members = members'
  | [], [], _ => rfl
  | (key, j) :: members, (key', j') :: members', h => by
    obtain ⟨hmember, hmembers⟩ := List.cons.inj h
    obtain ⟨hkey, hj⟩ := Prod.mk.inj hmember
    rw [Option.some.inj hkey, eq_of_tree_eq hj, eq_of_treesOfMembers_eq hmembers]

end

/-! ### Whole values -/

mutual

/-- A draft is read as it stands exactly if it is the tree of a value that nests few enough arrays and
objects.

**Proof sketch.** Recursion on the draft, together with the items and the members. A word, a number or a
string holds nothing, and is read exactly if it has no fault. An array or object takes one level of the
room, and its fault is the first one of what it holds and of its ending. -/
theorem readWhole_eq_ok_iff : {d : Draft} → {room : Nat} → {j : Json} →
    (readWhole room d = .ok j ↔ d.skipFault? = none ∧ j.tree = d.tree ∧ j.depth ≤ room)
  | .null, _, j => by cases j <;> simp [readWhole, Draft.skipFault?, Draft.tree, tree, depth]
  | .bool _, _, j => by
    cases j <;> simp [readWhole, Draft.skipFault?, Draft.tree, tree, depth, eq_comm]
  | .number n, _, j => by
    cases n <;> cases j <;>
      simp [readWhole, Draft.skipFault?, Draft.tree, tree, depth, Except.map, Except.mapError,
        Except.toOption, eq_comm]
  | .string s, _, j => by
    cases s <;> cases j <;>
      simp [readWhole, Draft.skipFault?, Draft.tree, tree, depth, Except.map, Except.mapError,
        Except.toOption, eq_comm]
  | .broken _ _, _, j => by simp [readWhole, Draft.skipFault?]
  | .array items ending, 0, j => by
    cases j <;> simp [readWhole, nested, Draft.tree, tree, depth]
  | .array items ending, room + 1, j => by
    rw [readWhole, nested, bind_eq_ok_iff, Draft.skipFault?, Option.or_eq_none_iff, Draft.tree]
    constructor
    · rintro ⟨js, hjs, h⟩
      cases h
      obtain ⟨hfault, htree, hdepth⟩ := readWholeItems_eq_ok_iff.mp hjs
      exact ⟨hfault, congrArg Tree.array htree, Nat.succ_le_succ hdepth⟩
    · rintro ⟨hfault, htree, hdepth⟩
      cases j with
      | array js =>
        refine ⟨js, readWholeItems_eq_ok_iff.mpr ⟨hfault, Tree.array.inj htree, ?_⟩, rfl⟩
        exact Nat.le_of_succ_le_succ hdepth
      | null | bool | number | string | object => cases htree
  | .object members ending, 0, j => by
    cases j <;> simp [readWhole, nested, Draft.tree, tree, depth]
  | .object members ending, room + 1, j => by
    rw [readWhole, nested, bind_eq_ok_iff, Draft.skipFault?, Option.or_eq_none_iff, Draft.tree]
    constructor
    · rintro ⟨ms, hms, h⟩
      cases h
      obtain ⟨hfault, htree, hdepth⟩ := readWholeMembers_eq_ok_iff.mp hms
      exact ⟨hfault, congrArg Tree.object htree, Nat.succ_le_succ hdepth⟩
    · rintro ⟨hfault, htree, hdepth⟩
      cases j with
      | object ms =>
        refine ⟨ms, readWholeMembers_eq_ok_iff.mpr ⟨hfault, Tree.object.inj htree, ?_⟩, rfl⟩
        exact Nat.le_of_succ_le_succ hdepth
      | null | bool | number | string | array => cases htree

/-- So it is with items.

**Proof sketch.** The first item and the rest are read one after the other, and being without a fault,
saying values and nesting few enough arrays and objects are all said item by item. At the end it matters
whether the array is closed. -/
theorem readWholeItems_eq_ok_iff : {items : List Draft} → {ending : ArrayEnd} → {room i : Nat} →
    {js : List Json} → (readWholeItems ending room i items = .ok js ↔
      (itemsSkipFault? items = none ∧ ending.skipFault? = none) ∧
        treesOfItems js = treeOfItems items ∧ depthOfItems js ≤ room)
  | [], ending, _, _, js => by
    rw [readWholeItems, bind_eq_ok_iff]
    simp only [failAt_fault?_eq_ok_iff]
    cases js <;> simp [itemsSkipFault?, treesOfItems, treeOfItems, depthOfItems, pure, Except.pure]
  | first :: rest, ending, room, i, js => by
    rw [readWholeItems, bind_eq_ok_iff, itemsSkipFault?, Option.or_eq_none_iff, treeOfItems]
    simp only [mapError_eq_ok_iff, readWhole_eq_ok_iff, bind_eq_ok_iff, readWholeItems_eq_ok_iff]
    constructor
    · rintro ⟨j, ⟨hfirst, htree, hdepth⟩, js', ⟨⟨hrest, hending⟩, htrees, hdepths⟩, h⟩
      cases h
      refine ⟨⟨⟨hfirst, hrest⟩, hending⟩, ?_, Nat.max_le.mpr ⟨hdepth, hdepths⟩⟩
      rw [treesOfItems, htree, htrees]
    · rintro ⟨⟨⟨hfirst, hrest⟩, hending⟩, htrees, hdepths⟩
      cases js with
      | nil => cases htrees
      | cons j js =>
        obtain ⟨htree, htrees⟩ := List.cons.inj htrees
        obtain ⟨hdepth, hdepths⟩ := Nat.max_le.mp hdepths
        exact ⟨j, ⟨hfirst, htree, hdepth⟩, js, ⟨⟨hrest, hending⟩, htrees, hdepths⟩, rfl⟩

/-- So it is with members.

**Proof sketch.** As for items, except that each member has a key. A key that cannot be read is none of
any value. -/
theorem readWholeMembers_eq_ok_iff : {members : List (Except Fault String × Draft)} →
    {ending : ObjectEnd} → {room : Nat} → {ms : List (String × Json)} →
    (readWholeMembers ending room members = .ok ms ↔
      (membersSkipFault? members = none ∧ ending.skipFault? = none) ∧
        treesOfMembers ms = treeOfMembers members ∧ depthOfMembers ms ≤ room)
  | [], ending, _, ms => by
    rw [readWholeMembers, readEnd_eq_ok_iff]
    cases ms <;> simp [membersSkipFault?, treesOfMembers, treeOfMembers, depthOfMembers]
  | (.error f, first) :: rest, ending, room, ms => by
    cases ms <;>
      simp [readWholeMembers, readKey, treesOfMembers, treeOfMembers, Except.toOption, bind, Except.bind]
  | (.ok key, first) :: rest, ending, room, ms => by
    rw [readWholeMembers, readKey, Steps.ok_bind, bind_eq_ok_iff, membersSkipFault?,
      Option.or_eq_none_iff, treeOfMembers]
    simp only [mapError_eq_ok_iff, readWhole_eq_ok_iff, bind_eq_ok_iff, readWholeMembers_eq_ok_iff]
    constructor
    · rintro ⟨j, ⟨hfirst, htree, hdepth⟩, ms', ⟨⟨hrest, hending⟩, htrees, hdepths⟩, h⟩
      cases h
      refine ⟨⟨⟨hfirst, hrest⟩, hending⟩, ?_, Nat.max_le.mpr ⟨hdepth, hdepths⟩⟩
      rw [treesOfMembers, htree, htrees]
      rfl
    · rintro ⟨⟨⟨hfirst, hrest⟩, hending⟩, htrees, hdepths⟩
      cases ms with
      | nil => cases htrees
      | cons m ms =>
        obtain ⟨key', j⟩ := m
        obtain ⟨hmember, hmembers⟩ := List.cons.inj htrees
        obtain ⟨hkey, htree⟩ := Prod.mk.inj hmember
        obtain rfl : key' = key := Option.some.inj hkey
        obtain ⟨hdepth, hdepths⟩ := Nat.max_le.mp hdepths
        exact ⟨j, ⟨hfirst, htree, hdepth⟩, ms, ⟨⟨hrest, hending⟩, hmembers, hdepths⟩, rfl⟩

end

/-! ### Nesting -/

/-- The items of an array nest fewer arrays and objects than the array. -/
theorem depth_lt_of_mem_items {items : List Json} {j : Json} (h : j ∈ items) :
    j.depth < (Json.array items).depth := by
  refine Nat.lt_succ_of_le ?_
  induction items with
  | nil => cases h
  | cons first rest ih =>
    rcases List.mem_cons.mp h with rfl | h
    · exact Nat.le_max_left _ _
    · exact (ih h).trans (Nat.le_max_right _ _)

/-- So do the values of the members of an object. -/
theorem depth_lt_of_mem_members {ms : List (String × Json)} {m : String × Json} (h : m ∈ ms) :
    m.2.depth < (Json.object ms).depth := by
  refine Nat.lt_succ_of_le ?_
  induction ms with
  | nil => cases h
  | cons first rest ih =>
    rcases List.mem_cons.mp h with rfl | h
    · exact Nat.le_max_left _ _
    · exact (ih h).trans (Nat.le_max_right _ _)

/-! ### Trees of values -/

namespace Tree

/-- The tree is that of a value that nests at most so many arrays and objects. -/
def Readable (room : Nat) (x : Tree) : Prop :=
  ∃ j : Json, j.tree = x ∧ j.depth ≤ room

/-- Items are those of an array exactly if each of them is a value. -/
theorem exists_treesOfItems_iff {room : Nat} {items : List Tree} :
    (∃ js, treesOfItems js = items ∧ depthOfItems js ≤ room) ↔ ∀ x ∈ items, x.Readable room := by
  induction items with
  | nil => exact iff_of_true ⟨[], rfl, Nat.zero_le _⟩ (List.forall_mem_nil _)
  | cons x items ih =>
    rw [List.forall_mem_cons, ← ih]
    constructor
    · rintro ⟨js, hjs, hdepth⟩
      cases js with
      | nil => cases hjs
      | cons j js =>
        obtain ⟨hj, hjs⟩ := List.cons.inj hjs
        obtain ⟨hdepth, hdepths⟩ := Nat.max_le.mp hdepth
        exact ⟨⟨j, hj, hdepth⟩, js, hjs, hdepths⟩
    · rintro ⟨⟨j, rfl, hdepth⟩, js, rfl, hdepths⟩
      exact ⟨j :: js, rfl, Nat.max_le.mpr ⟨hdepth, hdepths⟩⟩

/-- Members are those of an object exactly if each of them has a name and a value.

**Proof sketch.** Induction on the members. The first one is that of a value with a name, and the bound
on the depth of all members is a bound on the depth of each. -/
theorem exists_treesOfMembers_iff {room : Nat} {members : List (Option String × Tree)} :
    (∃ js, treesOfMembers js = members ∧ depthOfMembers js ≤ room) ↔
      ∀ m ∈ members, (∃ name, m.1 = some name) ∧ m.2.Readable room := by
  induction members with
  | nil => exact iff_of_true ⟨[], rfl, Nat.zero_le _⟩ (List.forall_mem_nil _)
  | cons m members ih =>
    rw [List.forall_mem_cons, ← ih]
    constructor
    · rintro ⟨js, hjs, hdepth⟩
      cases js with
      | nil => cases hjs
      | cons m' js =>
        obtain ⟨key, j⟩ := m'
        obtain ⟨rfl, hrest⟩ := List.cons.inj hjs
        obtain ⟨hdepth, hdepths⟩ := Nat.max_le.mp hdepth
        exact ⟨⟨⟨key, rfl⟩, j, rfl, hdepth⟩, js, hrest, hdepths⟩
    · obtain ⟨name, x⟩ := m
      rintro ⟨⟨⟨key, hkey⟩, j, hj, hdepth⟩, js, rfl, hdepths⟩
      refine ⟨(key, j) :: js, ?_, Nat.max_le.mpr ⟨hdepth, hdepths⟩⟩
      rw [treesOfMembers, hj, ← hkey]

/-- An array is a value exactly if there is room for it, and each of its items is a value. -/
theorem readable_array_iff {room : Nat} {items : List Tree} :
    (array items).Readable room ↔ ∃ r, room = r + 1 ∧ ∀ x ∈ items, x.Readable r := by
  simp only [← exists_treesOfItems_iff]
  constructor
  · rintro ⟨j, htree, hdepth⟩
    cases j with
    | array js =>
      obtain ⟨r, rfl⟩ := Nat.exists_eq_add_of_le' (Nat.le_of_add_left_le hdepth)
      exact ⟨r, rfl, js, array.inj htree, Nat.le_of_succ_le_succ hdepth⟩
    | null | bool | number | string | object => cases htree
  · rintro ⟨r, rfl, js, rfl, hdepth⟩
    exact ⟨.array js, rfl, Nat.succ_le_succ hdepth⟩

/-- An object is a value exactly if there is room for it, and each of its members has a name and a
value. -/
theorem readable_object_iff {room : Nat} {members : List (Option String × Tree)} :
    (object members).Readable room ↔
      ∃ r, room = r + 1 ∧ ∀ m ∈ members, (∃ name, m.1 = some name) ∧ m.2.Readable r := by
  simp only [← exists_treesOfMembers_iff]
  constructor
  · rintro ⟨j, htree, hdepth⟩
    cases j with
    | object js =>
      obtain ⟨r, rfl⟩ := Nat.exists_eq_add_of_le' (Nat.le_of_add_left_le hdepth)
      exact ⟨r, rfl, js, object.inj htree, Nat.le_of_succ_le_succ hdepth⟩
    | null | bool | number | string | array => cases htree
  · rintro ⟨r, rfl, js, rfl, hdepth⟩
    exact ⟨.object js, rfl, Nat.succ_le_succ hdepth⟩

end Tree

end SchemaQueries.Json
