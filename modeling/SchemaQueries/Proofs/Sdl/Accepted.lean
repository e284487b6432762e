import SchemaQueries.Proofs.Sdl.ParsingParts
import SchemaQueries.Proofs.Sdl.Tokens
import SchemaQueries.Sdl.Reader

/-!
# What an accepted schema says

Whatever the tokens of a text are, their names are names of GraphQL, their integers fit into 64 bits,
and no more than `maxOpen` brackets are open at a time. So every document that is read from a text
can be written down again, as far as its strings and numbers can.

## Main definitions

* `Sdl.Token.IsReadable`, `Sdl.Readable` — tokens as they occur in a text, behind so many open
  brackets.

## Main results

* `Sdl.readable_tokens` — the tokens of a text without floating-point numbers are such tokens.
* `Sdl.isLegible_of_value`, `Sdl.isLegible_of_field`, … — what is read from such tokens can be written
  down.
* `Sdl.isLegible_of_read` — so can every definition of a document that is read from a text.
-/

set_option autoImplicit false
set_option relaxedAutoImplicit false

namespace SchemaQueries.Sdl

open Steps (bind_eq_ok_iff)

/-! ### Tokens as they occur in a text -/

/-- A token that can be written down, if `holds` says which strings can. -/
def Token.IsReadable (holds : String → Prop) : Token → Prop
  | .name s => isName s.toList = true
  | .int n => -9223372036854775808 ≤ n ∧ n < 9223372036854775808
  | .float _ => False
  | .string s => holds s
  | _ => True

/-- Tokens that can be written down behind so many open brackets, up to the place where a text ceases
to be tokens. -/
def Readable (holds : String → Prop) : Nat → List Token → Prop
  | _, [] => True
  | opened, t :: ts => t ≠ .malformed →
    t.IsReadable holds ∧ openAfter opened t ≤ maxOpen ∧ Readable holds (openAfter opened t) ts

/-- The integer that a lexeme stands for fits into 64 bits. -/
theorem integer?_bounds {cs : List Char} {n : Int} (h : integer? cs = some n) :
    -9223372036854775808 ≤ n ∧ n < 9223372036854775808 := by
  have hpow : Nat.pow 2 63 = 9223372036854775808 := rfl
  unfold integer? at h
  simp only at h
  split_ifs at h <;> cases h <;> omega

/-- A token of a text that is not a floating-point number can be written down, if its string can. -/
theorem StartsWith.isReadable {holds : String → Prop} {cs lexeme after : List Char} {t : Token}
    (h : StartsWith cs t lexeme after) (hfloat : ∀ x, t ≠ .float x)
    (hstring : ∀ s, t = .string s → holds s) : t.IsReadable holds := by
  cases h with
  | spread | tornBlock | mark => trivial
  | block | quoted => exact hstring _ rfl
  | name hc hword =>
    rw [Token.IsReadable, String.toList_ofList, isName, hc, List.all_eq_true.mpr hword]
    rfl
  | float => exact absurd rfl (hfloat _)
  | int _ _ hn => exact integer?_bounds hn

/-- The tokens of a text can be written down, if none of them is a floating-point number and its
strings can.

**Proof sketch.** Induction on the fuel. Each token but a malformed one has been scanned from the start
of what is left, so it has the form of its kind, and it opens no more brackets than are allowed, or
reading would have stopped. -/
theorem readable_tokensFrom {holds : String → Prop} {opened : Nat} {p : Position} {cs : List Char}
    {fuel : Nat}
    (hfloat : ∀ x, .float x ∉ (tokensFrom opened p cs fuel).1.map (·.2))
    (hstring : ∀ s, .string s ∈ (tokensFrom opened p cs fuel).1.map (·.2) → holds s) :
    Readable holds opened ((tokensFrom opened p cs fuel).1.map (·.2)) := by
  induction fuel generalizing opened p cs with
  | zero => trivial
  | succ fuel ih =>
    rw [tokensFrom] at hfloat hstring ⊢
    rcases hskip : skip p cs with ⟨here, _ | ⟨c, rest⟩⟩
    · trivial
    · rcases ht : token (c :: rest) with ⟨t, lexeme, after⟩
      simp only [hskip, ht] at hfloat hstring ⊢
      by_cases hstop : (decide (t = .malformed) || decide (maxOpen < openAfter opened t)) = true
      · rw [if_pos hstop]
        exact fun hvalid => absurd rfl hvalid
      · rw [if_neg hstop] at hfloat hstring ⊢
        have hopened : openAfter opened t ≤ maxOpen := by
          simp only [Bool.or_eq_true, decide_eq_true_eq, not_or] at hstop
          omega
        simp only [List.map_cons, List.mem_cons, not_or] at hfloat hstring
        refine fun hvalid => ⟨(startsWith_of_token ht hvalid).isReadable
          (fun x heq => (hfloat x).1 heq.symm) (fun s heq => hstring s (.inl heq.symm)), hopened, ?_⟩
        exact ih (fun x => (hfloat x).2) fun s hs => hstring s (.inr hs)

/-- The tokens of a text can be written down, if none of them is a floating-point number and its
strings can. -/
theorem readable_tokens {holds : String → Prop} {cs : List Char}
    (hfloat : ∀ x, .float x ∉ (tokens cs).1.map (·.2))
    (hstring : ∀ s, .string s ∈ (tokens cs).1.map (·.2) → holds s) :
    Readable holds 0 ((tokens cs).1.map (·.2)) :=
  readable_tokensFrom hfloat hstring

/-! ### Single tokens -/

variable {holds : String → Prop} {opened : Nat} {ts rest : List Token}

/-- What stands behind a punctuation character that is read. -/
theorem readable_of_mark {c : Char} (hts : Readable holds opened ts) {u : Unit}
    (h : mark c ts = .ok (u, rest)) :
    openAfter opened (.mark c) ≤ maxOpen ∧ Readable holds (openAfter opened (.mark c)) rest := by
  unfold mark at h
  split at h
  · split_ifs at h with heq
    · cases h
      subst heq
      exact (hts (by simp)).2
    · cases h
  · cases h

/-- What stands behind the next punctuation character. -/
theorem readable_drop {c : Char} (hts : Readable holds opened ts) (h : nextIsMark c ts = true) :
    openAfter opened (.mark c) ≤ maxOpen ∧
      Readable holds (openAfter opened (.mark c)) (ts.drop 1) := by
  unfold nextIsMark at h
  split at h
  · obtain rfl := of_decide_eq_true h
    exact (hts (by simp)).2
  · exact absurd h (by decide)

/-- A name that is read, and what stands behind it. -/
theorem isName_of_name (hts : Readable holds opened ts) {s : String}
    (h : name ts = .ok (s, rest)) :
    isName s.toList = true ∧ opened ≤ maxOpen ∧ Readable holds opened rest := by
  unfold name at h
  split at h
  · cases h
    exact hts (by simp)
  · cases h

/-- A description that is read, and what stands behind it. -/
theorem holds_of_description (hts : Readable holds opened ts) {text : Option String}
    (h : description ts = .ok (text, rest)) :
    (∀ s ∈ text, holds s) ∧ Readable holds opened rest := by
  unfold description at h
  split at h
  · cases h
    obtain ⟨hs, -, hrest⟩ := hts (by simp)
    refine ⟨fun s hs' => ?_, hrest⟩
    obtain rfl := Option.mem_some.mp hs'
    exact hs
  · cases h
  · cases h
    exact ⟨by simp, hts⟩

/-! ### Repetitions -/

section Repetition

variable {α : Type} {item : List Token → Except Refusal (Taken α)} {P : α → Prop} {xs : List α}
  {bound : Nat}

/-- Each of many items says what one does.

**Proof sketch.** Induction on the bound. As long as more is to come one item is read, and what it says
and the readable rest are passed on. -/
theorem forall_of_many {more : List Token → Bool}
    (hitem : ∀ {ts rest x}, Readable holds opened ts → more ts = true → item ts = .ok (x, rest) →
      P x ∧ Readable holds opened rest)
    (hts : Readable holds opened ts) (h : many more item bound ts = .ok (xs, rest)) :
    (∀ x ∈ xs, P x) ∧ Readable holds opened rest := by
  induction bound generalizing ts xs with
  | zero =>
    cases h
    exact ⟨by simp, hts⟩
  | succ bound ih =>
    rw [many] at h
    split_ifs at h with hmore
    · obtain ⟨⟨x, ts₁⟩, hx, h⟩ := bind_eq_ok_iff.mp h
      obtain ⟨⟨later, ts₂⟩, hlater, h⟩ := bind_eq_ok_iff.mp h
      cases h
      obtain ⟨hfirst, hts₁⟩ := hitem hts hmore hx
      obtain ⟨hall, hrest⟩ := ih hts₁ hlater
      exact ⟨List.forall_mem_cons.mpr ⟨hfirst, hall⟩, hrest⟩
    · cases h
      exact ⟨by simp, hts⟩

/-- Each item between brackets says what one does with one more bracket open.

**Proof sketch.** The first bracket is passed, which opens one more, and the last one closes it again.
In between stand one item and then as many as there are (`forall_of_many`). -/
theorem forall_of_optionalGroup {o c : Char} (ho : openAfter opened (.mark o) = opened + 1)
    (hc : openAfter (opened + 1) (.mark c) = opened)
    (hitem : ∀ {ts rest x}, Readable holds (opened + 1) ts → item ts = .ok (x, rest) →
      P x ∧ Readable holds (opened + 1) rest)
    (hts : Readable holds opened ts) (h : optionalGroup o c item bound ts = .ok (xs, rest)) :
    (∀ x ∈ xs, P x) ∧ Readable holds opened rest := by
  unfold optionalGroup at h
  split_ifs at h with hnext
  · obtain ⟨-, hts⟩ := readable_drop hts hnext
    rw [ho] at hts
    obtain ⟨⟨x, ts₁⟩, hx, h⟩ := bind_eq_ok_iff.mp h
    obtain ⟨⟨later, ts₂⟩, hlater, h⟩ := bind_eq_ok_iff.mp h
    obtain ⟨⟨u, ts₃⟩, hclose, h⟩ := bind_eq_ok_iff.mp h
    cases h
    obtain ⟨hfirst, hts₁⟩ := hitem hts hx
    obtain ⟨hall, hts₂⟩ := forall_of_many (fun hts _ => hitem hts) hts₁ hlater
    obtain ⟨-, hrest⟩ := readable_of_mark hts₂ hclose
    rw [hc] at hrest
    exact ⟨List.forall_mem_cons.mpr ⟨hfirst, hall⟩, hrest⟩
  · cases h
    exact ⟨by simp, hts⟩

/-- Names between separators are names.

**Proof sketch.** A separator in front may be passed over. The first name is read, and then each further
one behind its separator, which neither opens nor closes a bracket. -/
theorem isName_of_separatedNames {c : Char} (hc : openAfter opened (.mark c) = opened)
    {names : List String} (hts : Readable holds opened ts)
    (h : separatedNames c bound ts = .ok (names, rest)) :
    (∀ s ∈ names, isName s.toList = true) ∧ Readable holds opened rest := by
  have hstart : Readable holds opened (if nextIsMark c ts then ts.drop 1 else ts) := by
    split_ifs with hnext
    · have hdrop := (readable_drop hts hnext).2
      rwa [hc] at hdrop
    · exact hts
  obtain ⟨⟨first, ts₁⟩, hfirst, h⟩ := bind_eq_ok_iff.mp h
  obtain ⟨⟨later, ts₂⟩, hlater, h⟩ := bind_eq_ok_iff.mp h
  cases h
  obtain ⟨hname, -, hts₁⟩ := isName_of_name hstart hfirst
  obtain ⟨hall, hrest⟩ := forall_of_many (P := fun s => isName s.toList = true)
    (fun hts hmore hitem => by
      have hdrop := (readable_drop hts hmore).2
      rw [hc] at hdrop
      obtain ⟨hs, -, hrest⟩ := isName_of_name hdrop hitem
      exact ⟨hs, hrest⟩) hts₁ hlater
  exact ⟨List.forall_mem_cons.mpr ⟨hname, hall⟩, hrest⟩

end Repetition

/-! ### Type references -/

/-- A name or a list, without the non-null mark behind it. -/
def plainTypeRef (bound : Nat) : List Token → Except Refusal (Taken TypeRef)
  | .name s :: rest => .ok (.named s, rest)
  | .mark '[' :: rest => do
    let (item, ts) ← typeRef bound rest
    let ((), ts) ← mark ']' ts
    .ok (.list item, ts)
  | ts => refuse ts

/-- A type reference is read in two steps. -/
theorem typeRef_succ (bound : Nat) (ts : List Token) :
    typeRef (bound + 1) ts = (do
      let (inner, ts) ← plainTypeRef bound ts
      if nextIsMark '!' ts then .ok (.nonNull inner, ts.drop 1) else .ok (inner, ts)) := by
  unfold typeRef
  split
  · rfl
  · simp only [plainTypeRef, bind_assoc]
  · next hname hlist => rw [plainTypeRef.eq_3 bound ts hname hlist]

/-- A type reference that is read can be written down, and its lists open no more brackets than may be
open.

**Proof sketch.** Induction on the bound. A non-null mark is read at most once behind a name or a
list, so that no non-null type is directly inside another one. -/
theorem isWritable_of_typeRef {bound : Nat} {r : TypeRef} (hts : Readable holds opened ts)
    (h : typeRef bound ts = .ok (r, rest)) :
    r.IsWritable ∧ opened + r.lists ≤ maxOpen ∧ Readable holds opened rest := by
  induction bound generalizing opened ts r rest with
  | zero => cases h
  | succ bound ih =>
    rw [typeRef_succ] at h
    obtain ⟨⟨inner, ts₁⟩, hinner, h⟩ := bind_eq_ok_iff.mp h
    have hplain : inner.IsWritable ∧ (∀ u, inner ≠ .nonNull u) ∧ opened + inner.lists ≤ maxOpen ∧
        Readable holds opened ts₁ := by
      unfold plainTypeRef at hinner
      split at hinner
      · cases hinner
        obtain ⟨hs, hopened, hts₁⟩ := hts (by simp)
        exact ⟨hs, fun _ => by simp, hopened, hts₁⟩
      · obtain ⟨⟨item, ts₂⟩, hitem, hinner⟩ := bind_eq_ok_iff.mp hinner
        obtain ⟨⟨u, ts₃⟩, hclose, hinner⟩ := bind_eq_ok_iff.mp hinner
        cases hinner
        obtain ⟨hwritable, hlists, hts₂⟩ := ih (hts (by simp)).2.2 hitem
        obtain ⟨-, hts₁⟩ := readable_of_mark hts₂ hclose
        have hopened : opened + 1 + item.lists ≤ maxOpen := hlists
        refine ⟨hwritable, fun _ => by simp, ?_, hts₁⟩
        rw [TypeRef.lists]
        omega
      · cases hinner
    obtain ⟨hwritable, hnot, hlists, hts₁⟩ := hplain
    simp only at h
    split_ifs at h with hnext
    · cases h
      exact ⟨⟨hwritable, hnot⟩, hlists, (readable_drop hts₁ hnext).2⟩
    · cases h
      exact ⟨hwritable, hlists, hts₁⟩

/-! ### Values -/

/-- A member that is put among others keeps the keys in ascending order. -/
theorem mem_or_of_mem_insertMember {key : String} {v : Value} {members : List (String × Value)}
    {m : String × Value} (h : m ∈ Value.insertMember key v members) :
    m = (key, v) ∨ m ∈ members := by
  induction members with
  | nil => exact .inl (List.mem_singleton.mp h)
  | cons n members ih =>
    rw [Value.insertMember] at h
    split_ifs at h
    · exact (List.mem_cons.mp h).imp id id
    · exact (List.mem_cons.mp h).imp id (List.mem_cons_of_mem _)
    · rcases List.mem_cons.mp h with rfl | h
      · exact .inr (by simp)
      · exact (ih h).imp id (List.mem_cons_of_mem _)

/-- Keys stay in ascending order when a member is put among others. -/
theorem pairwise_insertMember (key : String) (v : Value) {members : List (String × Value)}
    (h : members.Pairwise fun m m' => m.1 < m'.1) :
    (Value.insertMember key v members).Pairwise fun m m' => m.1 < m'.1 := by
  induction members with
  | nil => exact List.pairwise_singleton _ _
  | cons n members ih =>
    obtain ⟨hn, hmembers⟩ := List.pairwise_cons.mp h
    rw [Value.insertMember]
    split_ifs with hlt heq
    · refine List.pairwise_cons.mpr ⟨List.forall_mem_cons.mpr ⟨hlt, fun m hm => ?_⟩, h⟩
      exact String.lt_trans hlt (hn m hm)
    · exact List.pairwise_cons.mpr ⟨fun m hm => heq ▸ hn m hm, hmembers⟩
    · refine List.pairwise_cons.mpr ⟨fun m hm => ?_, ih hmembers⟩
      rcases mem_or_of_mem_insertMember hm with rfl | hm
      · by_contra hnot
        exact heq (String.le_antisymm (String.not_lt.mp hnot) (String.not_lt.mp hlt))
      · exact hn m hm

/-- The members of an object are members as they were written, with ascending keys. -/
theorem exists_objectOf_eq (members : List (String × Value)) :
    ∃ sorted, Value.objectOf members = .object sorted ∧ (∀ m ∈ sorted, m ∈ members) ∧
      sorted.Pairwise fun m m' => m.1 < m'.1 := by
  have hfold (written seen : List (String × Value)) (hseen : ∀ m ∈ seen, m ∈ members)
      (hwritten : ∀ m ∈ written, m ∈ members) (hsorted : seen.Pairwise fun m m' => m.1 < m'.1) :
      (∀ m ∈ written.foldl (fun sorted m => Value.insertMember m.1 m.2 sorted) seen,
        m ∈ members) ∧
      (written.foldl (fun sorted m => Value.insertMember m.1 m.2 sorted) seen).Pairwise
        fun m m' => m.1 < m'.1 := by
    induction written generalizing seen with
    | nil => exact ⟨hseen, hsorted⟩
    | cons m written ih =>
      obtain ⟨hm, hwritten⟩ := List.forall_mem_cons.mp hwritten
      refine ih _ (fun x hx => ?_) hwritten (pairwise_insertMember _ _ hsorted)
      rcases mem_or_of_mem_insertMember hx with rfl | hx
      · exact hm
      · exact hseen x hx
  obtain ⟨hmem, hsorted⟩ := hfold members [] (by simp) (fun _ h => h) .nil
  exact ⟨_, rfl, hmem, hsorted⟩

/-- Each value that is read within the bound can be written down. -/
def ReadsValues (holds : String → Prop) (takesVariables : Bool) (bound : Nat) : Prop :=
  ∀ {opened : Nat} {ts rest : List Token} {v : Value}, Readable holds opened ts →
    value takesVariables bound ts = .ok (v, rest) →
    v.IsLegible holds takesVariables opened ∧ Readable holds opened rest

/-- Each item of a list that is read within the bound can be written down. -/
def ReadsItems (holds : String → Prop) (takesVariables : Bool) (bound : Nat) : Prop :=
  ∀ {opened : Nat} {ts rest : List Token} {items : List Value}, Readable holds (opened + 1) ts →
    listItems takesVariables bound ts = .ok (items, rest) →
    (∀ v ∈ items, v.IsLegible holds takesVariables (opened + 1)) ∧ Readable holds opened rest

/-- Each member of an object that is read within the bound can be written down. -/
def ReadsMembers (holds : String → Prop) (takesVariables : Bool) (bound : Nat) : Prop :=
  ∀ {opened : Nat} {ts rest : List Token} {members : List (String × Value)},
    Readable holds (opened + 1) ts →
    objectMembers takesVariables bound ts = .ok (members, rest) →
    (∀ m ∈ members, isName m.1.toList = true ∧ m.2.IsLegible holds takesVariables (opened + 1)) ∧
      Readable holds opened rest

section Values

variable {takesVariables : Bool} {bound : Nat}

/-- A word that is read as a value is one of the three that stand for themselves, or an enum value. -/
theorem isLegible_of_word {s : String} (hs : isName s.toList = true) (hopened : opened ≤ maxOpen) :
    (if s = "true" then Value.boolean true else if s = "false" then .boolean false
      else if s = "null" then .null else .enum s).IsLegible holds takesVariables opened := by
  split_ifs with htrue hfalse hnull
  · exact .boolean hopened
  · exact .boolean hopened
  · exact .null hopened
  · exact .enum hopened hs ⟨htrue, hfalse, hnull⟩

/-- A value that starts with a punctuation character is a list, an object or a variable.

**Proof sketch.** A bracket starts a list, a brace an object, and a dollar sign a variable where these
are allowed. The members of an object are put in the order of their keys, which loses those with a key
that comes again and adds none. -/
theorem isLegible_of_marked {c : Char} {v : Value} (hitems : ReadsItems holds takesVariables bound)
    (hmembers : ReadsMembers holds takesVariables bound)
    (hts : Readable holds opened (.mark c :: ts))
    (h : value takesVariables (bound + 1) (.mark c :: ts) = .ok (v, rest)) :
    v.IsLegible holds takesVariables opened ∧ Readable holds opened rest := by
  unfold value at h
  dsimp only at h
  split_ifs at h with hlist hobject hvar
  · subst hlist
    obtain ⟨⟨items, ts₁⟩, hread, h⟩ := bind_eq_ok_iff.mp h
    cases h
    obtain ⟨-, hopened, hts⟩ := hts (by simp)
    obtain ⟨hall, hrest⟩ := hitems (show Readable holds (opened + 1) _ from hts) hread
    exact ⟨.list hopened hall, hrest⟩
  · subst hobject
    obtain ⟨⟨members, ts₁⟩, hread, h⟩ := bind_eq_ok_iff.mp h
    cases h
    obtain ⟨-, hopened, hts⟩ := hts (by simp)
    obtain ⟨hall, hrest⟩ := hmembers (show Readable holds (opened + 1) _ from hts) hread
    obtain ⟨sorted, hsame, hmem, hsorted⟩ := exists_objectOf_eq members
    rw [hsame]
    exact ⟨.object hopened (fun m hm => (hall m (hmem m hm)).1)
      (fun m hm => (hall m (hmem m hm)).2) hsorted, hrest⟩
  · obtain ⟨⟨s, ts₁⟩, hname, h⟩ := bind_eq_ok_iff.mp h
    cases h
    simp only [Bool.and_eq_true, decide_eq_true_eq] at hvar
    obtain ⟨rfl, htakes⟩ := hvar
    obtain ⟨hs, hopened, hrest⟩ := isName_of_name (hts (by simp)).2.2 hname
    exact ⟨.var hopened htakes hs, hrest⟩
  · cases h

/-- Values within a bound can be written down if items and members within a smaller one can.

**Proof sketch.** By cases on the first token. A token that opens a list or an object leads to items or
members, and every other one is a value by itself, except a floating-point number, which is not
readable. -/
theorem readsValues_succ (hitems : ReadsItems holds takesVariables bound)
    (hmembers : ReadsMembers holds takesVariables bound) :
    ReadsValues holds takesVariables (bound + 1) := by
  intro opened ts rest v hts h
  match ts, h with
  | .mark c :: ts, h => exact isLegible_of_marked hitems hmembers hts h
  | .name s :: ts, h =>
    cases h
    obtain ⟨hs, hopened, hrest⟩ := hts (by simp)
    exact ⟨isLegible_of_word hs hopened, hrest⟩
  | .int n :: ts, h =>
    cases h
    obtain ⟨hn, hopened, hrest⟩ := hts (by simp)
    exact ⟨.int hopened hn.1 hn.2, hrest⟩
  | .float x :: ts, h =>
    exact (hts (by simp)).1.elim
  | .string s :: ts, h =>
    cases h
    obtain ⟨hs, hopened, hrest⟩ := hts (by simp)
    exact ⟨.string hopened hs, hrest⟩
  | .tornString :: ts, h => cases h
  | [], h => cases h

/-- Items within a bound can be written down if values and items within a smaller one can. -/
theorem readsItems_succ (hvalues : ReadsValues holds takesVariables bound)
    (hitems : ReadsItems holds takesVariables bound) :
    ReadsItems holds takesVariables (bound + 1) := by
  intro opened ts rest items hts h
  unfold listItems at h
  split_ifs at h with hclose
  · cases h
    exact ⟨by simp, (readable_drop hts hclose).2⟩
  · obtain ⟨⟨v, ts₁⟩, hv, h⟩ := bind_eq_ok_iff.mp h
    obtain ⟨⟨later, ts₂⟩, hlater, h⟩ := bind_eq_ok_iff.mp h
    cases h
    obtain ⟨hlegible, hts₁⟩ := hvalues hts hv
    obtain ⟨hall, hrest⟩ := hitems hts₁ hlater
    exact ⟨List.forall_mem_cons.mpr ⟨hlegible, hall⟩, hrest⟩

/-- Members within a bound can be written down if values and members within a smaller one can. -/
theorem readsMembers_succ (hvalues : ReadsValues holds takesVariables bound)
    (hmembers : ReadsMembers holds takesVariables bound) :
    ReadsMembers holds takesVariables (bound + 1) := by
  intro opened ts rest members hts h
  unfold objectMembers at h
  split_ifs at h with hclose
  · cases h
    exact ⟨by simp, (readable_drop hts hclose).2⟩
  · obtain ⟨⟨key, ts₁⟩, hkey, h⟩ := bind_eq_ok_iff.mp h
    obtain ⟨⟨u, ts₂⟩, hmark, h⟩ := bind_eq_ok_iff.mp h
    obtain ⟨⟨v, ts₃⟩, hv, h⟩ := bind_eq_ok_iff.mp h
    obtain ⟨⟨later, ts₄⟩, hlater, h⟩ := bind_eq_ok_iff.mp h
    cases h
    obtain ⟨hname, -, hts₁⟩ := isName_of_name hts hkey
    obtain ⟨hlegible, hts₃⟩ := hvalues (readable_of_mark hts₁ hmark).2 hv
    obtain ⟨hall, hrest⟩ := hmembers hts₃ hlater
    exact ⟨List.forall_mem_cons.mpr ⟨⟨hname, hlegible⟩, hall⟩, hrest⟩

/-- Values, items and members that are read can be written down.

**Proof sketch.** Induction on the bound, for all three at a time, because they call each other. -/
theorem reads_values (holds : String → Prop) (takesVariables : Bool) (bound : Nat) :
    ReadsValues holds takesVariables bound ∧ ReadsItems holds takesVariables bound ∧
      ReadsMembers holds takesVariables bound := by
  induction bound with
  | zero => refine ⟨?_, ?_, ?_⟩ <;> intro _ _ _ _ _ h <;> cases h
  | succ bound ih =>
    obtain ⟨hvalues, hitems, hmembers⟩ := ih
    exact ⟨readsValues_succ hitems hmembers, readsItems_succ hvalues hitems,
      readsMembers_succ hvalues hmembers⟩

end Values

/-- A value that is read can be written down. -/
theorem isLegible_of_value {takesVariables : Bool} {bound : Nat} {v : Value}
    (hts : Readable holds opened ts) (h : value takesVariables bound ts = .ok (v, rest)) :
    v.IsLegible holds takesVariables opened ∧ Readable holds opened rest :=
  (reads_values holds takesVariables bound).1 hts h

/-! ### Directives -/

variable {bound : Nat}

/-- A directive that is read can be written down. -/
theorem isLegible_of_directive {d : Schema.Directive} (hts : Readable holds opened ts)
    (h : directive bound ts = .ok (d, rest)) :
    d.IsLegible holds opened ∧ Readable holds opened rest := by
  obtain ⟨⟨u, ts₁⟩, hmark, h⟩ := bind_eq_ok_iff.mp h
  obtain ⟨⟨s, ts₂⟩, hname, h⟩ := bind_eq_ok_iff.mp h
  obtain ⟨⟨arguments, ts₃⟩, harguments, h⟩ := bind_eq_ok_iff.mp h
  cases h
  obtain ⟨hs, hopened, hts₂⟩ := isName_of_name (readable_of_mark hts hmark).2 hname
  obtain ⟨hall, hrest⟩ := forall_of_optionalGroup rfl rfl
    (P := fun a => isName a.1.toList = true ∧ a.2.IsLegible holds true (opened + 1))
    (fun {ts rest a} hts h => by
      obtain ⟨⟨key, ts₁⟩, hkey, h⟩ := bind_eq_ok_iff.mp h
      obtain ⟨⟨u, ts₂⟩, hmark, h⟩ := bind_eq_ok_iff.mp h
      obtain ⟨⟨v, ts₃⟩, hv, h⟩ := bind_eq_ok_iff.mp h
      cases h
      obtain ⟨hname, -, hts₁⟩ := isName_of_name hts hkey
      obtain ⟨hlegible, hrest⟩ := isLegible_of_value (readable_of_mark hts₁ hmark).2 hv
      exact ⟨⟨hname, hlegible⟩, hrest⟩) hts₂ harguments
  exact ⟨⟨hopened, hs, fun a ha => (hall a ha).1, fun a ha => (hall a ha).2⟩, hrest⟩

/-- Directives that are read can be written down. -/
theorem isLegible_of_directives {attached : List Schema.Directive} (hts : Readable holds opened ts)
    (h : directives bound ts = .ok (attached, rest)) :
    (∀ d ∈ attached, d.IsLegible holds opened) ∧ Readable holds opened rest :=
  forall_of_many (fun hts _ => isLegible_of_directive hts) hts h

/-! ### Members of types -/

/-- A default value that is read can be written down. -/
theorem isLegible_of_defaultValue {default : Option Value} (hts : Readable holds opened ts)
    (h : defaultValue bound ts = .ok (default, rest)) :
    (∀ v ∈ default, v.IsLegible holds false opened) ∧ Readable holds opened rest := by
  unfold defaultValue at h
  split_ifs at h with hnext
  · obtain ⟨⟨v, ts₁⟩, hv, h⟩ := bind_eq_ok_iff.mp h
    cases h
    obtain ⟨hlegible, hrest⟩ := isLegible_of_value (readable_drop hts hnext).2 hv
    refine ⟨fun x hx => ?_, hrest⟩
    obtain rfl := Option.mem_some.mp hx
    exact hlegible
  · cases h
    exact ⟨by simp, hts⟩

/-- An argument or an input field that is read can be written down. -/
theorem isLegible_of_inputValue {v : Schema.InputValue} (hts : Readable holds opened ts)
    (h : inputValue bound ts = .ok (v, rest)) :
    v.IsLegible holds opened ∧ Readable holds opened rest := by
  rw [inputValue_eq] at h
  obtain ⟨⟨text, ts₁⟩, htext, h⟩ := bind_eq_ok_iff.mp h
  obtain ⟨⟨s, ts₂⟩, hname, h⟩ := bind_eq_ok_iff.mp h
  obtain ⟨⟨u, ts₃⟩, hmark, h⟩ := bind_eq_ok_iff.mp h
  obtain ⟨⟨type, ts₄⟩, htype, h⟩ := bind_eq_ok_iff.mp h
  obtain ⟨⟨default, ts₅⟩, hdefault, h⟩ := bind_eq_ok_iff.mp h
  obtain ⟨⟨attached, ts₆⟩, hattached, h⟩ := bind_eq_ok_iff.mp h
  cases h
  obtain ⟨hholds, hts₁⟩ := holds_of_description hts htext
  obtain ⟨hs, -, hts₂⟩ := isName_of_name hts₁ hname
  obtain ⟨hwritable, hnests, hts₄⟩ := isWritable_of_typeRef (readable_of_mark hts₂ hmark).2 htype
  obtain ⟨hdefault, hts₅⟩ := isLegible_of_defaultValue hts₄ hdefault
  obtain ⟨hdirectives, hrest⟩ := isLegible_of_directives hts₅ hattached
  exact ⟨⟨hs, hholds, hwritable, hnests, hdefault, hdirectives⟩, hrest⟩

/-- Arguments in parentheses that are read can be written down. -/
theorem isLegible_of_argumentDefinitions {arguments : List Schema.InputValue}
    (hts : Readable holds opened ts) (h : argumentDefinitions bound ts = .ok (arguments, rest)) :
    (∀ v ∈ arguments, v.IsLegible holds (opened + 1)) ∧ Readable holds opened rest :=
  forall_of_optionalGroup rfl rfl isLegible_of_inputValue hts h

/-- A field that is read can be written down. -/
theorem isLegible_of_field {f : Schema.Field} (hts : Readable holds 1 ts)
    (h : field bound ts = .ok (f, rest)) : f.IsLegible holds ∧ Readable holds 1 rest := by
  obtain ⟨⟨text, ts₁⟩, htext, h⟩ := bind_eq_ok_iff.mp h
  obtain ⟨⟨s, ts₂⟩, hname, h⟩ := bind_eq_ok_iff.mp h
  obtain ⟨⟨arguments, ts₃⟩, harguments, h⟩ := bind_eq_ok_iff.mp h
  obtain ⟨⟨u, ts₄⟩, hmark, h⟩ := bind_eq_ok_iff.mp h
  obtain ⟨⟨type, ts₅⟩, htype, h⟩ := bind_eq_ok_iff.mp h
  obtain ⟨⟨attached, ts₆⟩, hattached, h⟩ := bind_eq_ok_iff.mp h
  cases h
  obtain ⟨hholds, hts₁⟩ := holds_of_description hts htext
  obtain ⟨hs, -, hts₂⟩ := isName_of_name hts₁ hname
  obtain ⟨hall, hts₃⟩ := isLegible_of_argumentDefinitions hts₂ harguments
  obtain ⟨hwritable, hnests, hts₅⟩ := isWritable_of_typeRef (readable_of_mark hts₃ hmark).2 htype
  obtain ⟨hdirectives, hrest⟩ := isLegible_of_directives hts₅ hattached
  exact ⟨⟨hs, hholds, hall, hwritable, hnests, hdirectives⟩, hrest⟩

/-- An enum value that is read can be written down. -/
theorem isLegible_of_enumValue {v : Schema.EnumValue} (hts : Readable holds 1 ts)
    (h : enumValue bound ts = .ok (v, rest)) : v.IsLegible holds ∧ Readable holds 1 rest := by
  obtain ⟨⟨text, ts₁⟩, htext, h⟩ := bind_eq_ok_iff.mp h
  obtain ⟨⟨s, ts₂⟩, hname, h⟩ := bind_eq_ok_iff.mp h
  obtain ⟨⟨attached, ts₃⟩, hattached, h⟩ := bind_eq_ok_iff.mp h
  cases h
  obtain ⟨hholds, hts₁⟩ := holds_of_description hts htext
  obtain ⟨hs, -, hts₂⟩ := isName_of_name hts₁ hname
  obtain ⟨hdirectives, hrest⟩ := isLegible_of_directives hts₂ hattached
  exact ⟨⟨hs, hholds, hdirectives⟩, hrest⟩

/-! ### Types -/

/-- The interfaces of a type that are read are names. -/
theorem isName_of_interfaces {implemented : List String} (hts : Readable holds opened ts)
    (h : interfaces bound ts = .ok (implemented, rest)) :
    (∀ s ∈ implemented, isName s.toList = true) ∧ Readable holds opened rest := by
  unfold interfaces at h
  split at h
  · exact isName_of_separatedNames rfl (hts (by simp)).2.2 h
  · cases h
    exact ⟨by simp, hts⟩

/-- The members of a union type that are read are names. -/
theorem isName_of_unionMembers {members : List String} (hts : Readable holds opened ts)
    (h : unionMembers bound ts = .ok (members, rest)) :
    (∀ s ∈ members, isName s.toList = true) ∧ Readable holds opened rest := by
  unfold unionMembers at h
  split_ifs at h with hnext
  · exact isName_of_separatedNames rfl (readable_drop hts hnext).2 h
  · cases h
    exact ⟨by simp, hts⟩

/-- What is read of a type behind the word for its kind can be written down.

**Proof sketch.** By cases on the kind. The name comes first, then for some kinds the interfaces, then
the directives, then what is between the braces or behind the equals sign. Each part is read from
readable tokens and leaves readable ones. -/
theorem isLegible_of_typeBody {kind : TypeKind} {s : String} {attached : List Schema.Directive}
    {body : Schema.TypeBody} (hts : Readable holds 0 ts)
    (h : typeBody bound kind ts = .ok ((s, attached, body), rest)) :
    isName s.toList = true ∧ (∀ d ∈ attached, d.IsLegible holds 0) ∧ body.IsLegible holds ∧
      Readable holds 0 rest := by
  obtain ⟨⟨s, ts₁⟩, hname, h⟩ := bind_eq_ok_iff.mp h
  obtain ⟨hs, -, hts₁⟩ := isName_of_name hts hname
  have hfields {ts rest : List Token} {fields : List Schema.Field} (hts : Readable holds 0 ts)
      (h : optionalGroup '\x7b' '\x7d' (field bound) bound ts = .ok (fields, rest)) :
      (∀ f ∈ fields, f.IsLegible holds) ∧ Readable holds 0 rest :=
    forall_of_optionalGroup rfl rfl isLegible_of_field hts h
  cases kind with
  | scalar =>
    obtain ⟨⟨attached, ts₂⟩, hattached, h⟩ := bind_eq_ok_iff.mp h
    cases h
    obtain ⟨hdirectives, hrest⟩ := isLegible_of_directives hts₁ hattached
    exact ⟨hs, hdirectives, trivial, hrest⟩
  | object | interface =>
    obtain ⟨⟨implemented, ts₂⟩, himplemented, h⟩ := bind_eq_ok_iff.mp h
    obtain ⟨⟨attached, ts₃⟩, hattached, h⟩ := bind_eq_ok_iff.mp h
    obtain ⟨⟨fields, ts₄⟩, hgroup, h⟩ := bind_eq_ok_iff.mp h
    cases h
    obtain ⟨hnames, hts₂⟩ := isName_of_interfaces hts₁ himplemented
    obtain ⟨hdirectives, hts₃⟩ := isLegible_of_directives hts₂ hattached
    obtain ⟨hall, hrest⟩ := hfields hts₃ hgroup
    exact ⟨hs, hdirectives, ⟨hnames, hall⟩, hrest⟩
  | union =>
    obtain ⟨⟨attached, ts₂⟩, hattached, h⟩ := bind_eq_ok_iff.mp h
    obtain ⟨⟨members, ts₃⟩, hmembers, h⟩ := bind_eq_ok_iff.mp h
    cases h
    obtain ⟨hdirectives, hts₂⟩ := isLegible_of_directives hts₁ hattached
    obtain ⟨hnames, hrest⟩ := isName_of_unionMembers hts₂ hmembers
    exact ⟨hs, hdirectives, hnames, hrest⟩
  | enum =>
    obtain ⟨⟨attached, ts₂⟩, hattached, h⟩ := bind_eq_ok_iff.mp h
    obtain ⟨⟨values, ts₃⟩, hvalues, h⟩ := bind_eq_ok_iff.mp h
    cases h
    obtain ⟨hdirectives, hts₂⟩ := isLegible_of_directives hts₁ hattached
    obtain ⟨hall, hrest⟩ := forall_of_optionalGroup rfl rfl isLegible_of_enumValue hts₂ hvalues
    exact ⟨hs, hdirectives, hall, hrest⟩
  | input =>
    obtain ⟨⟨attached, ts₂⟩, hattached, h⟩ := bind_eq_ok_iff.mp h
    obtain ⟨⟨fields, ts₃⟩, hgroup, h⟩ := bind_eq_ok_iff.mp h
    cases h
    obtain ⟨hdirectives, hts₂⟩ := isLegible_of_directives hts₁ hattached
    obtain ⟨hall, hrest⟩ := forall_of_optionalGroup rfl rfl isLegible_of_inputValue hts₂ hgroup
    exact ⟨hs, hdirectives, hall, hrest⟩

/-! ### Definitions -/

/-- An extension that is read can be written down. -/
theorem isLegible_of_typeExtension {d : Schema.Definition} (hts : Readable holds 0 ts)
    (h : typeExtension bound ts = .ok (d, rest)) : d.IsLegible holds ∧ Readable holds 0 rest := by
  obtain ⟨⟨word, ts₁⟩, hword, h⟩ := bind_eq_ok_iff.mp h
  obtain ⟨-, -, hts₁⟩ := isName_of_name hts hword
  simp only at h
  split at h
  · cases h
  · obtain ⟨⟨⟨s, attached, body⟩, ts₂⟩, hbody, h⟩ := bind_eq_ok_iff.mp h
    simp only at h
    split_ifs at h with hnothing
    · cases h
    · cases h
      obtain ⟨hs, hdirectives, hlegible, hrest⟩ := isLegible_of_typeBody hts₁ hbody
      exact ⟨⟨hs, hdirectives, hlegible, Bool.not_eq_true _ ▸ hnothing⟩, hrest⟩

/-- A root operation and the name of its type that are read are names. -/
theorem isName_of_rootEntry {e : String × String} (hts : Readable holds opened ts)
    (h : rootEntry ts = .ok (e, rest)) :
    isName e.2.toList = true ∧ Readable holds opened rest := by
  obtain ⟨⟨operation, ts₁⟩, hoperation, h⟩ := bind_eq_ok_iff.mp h
  obtain ⟨⟨u, ts₂⟩, hmark, h⟩ := bind_eq_ok_iff.mp h
  obtain ⟨⟨type, ts₃⟩, htype, h⟩ := bind_eq_ok_iff.mp h
  cases h
  obtain ⟨-, -, hts₁⟩ := isName_of_name hts hoperation
  obtain ⟨hname, -, hrest⟩ := isName_of_name (readable_of_mark hts₁ hmark).2 htype
  exact ⟨hname, hrest⟩

/-- Root operation types stay names when one more is added. -/
theorem isLegible_of_addRoot? {roots roots' : Schema.Roots} {e : String × String}
    (hroots : roots.IsLegible) (he : isName e.2.toList = true)
    (h : addRoot? roots e = some roots') : roots'.IsLegible := by
  have hnew : ∀ s ∈ some e.2, isName s.toList = true := fun s hs => by
    obtain rfl := Option.mem_some.mp hs
    exact he
  unfold addRoot? at h
  split_ifs at h <;> cases h
  · exact { hroots with query := hnew }
  · exact { hroots with mutation := hnew }
  · exact { hroots with subscription := hnew }

/-- Root operation types that are put together from names are names. -/
theorem isLegible_of_foldlM_addRoot? {entries : List (String × String)} {roots roots' : Schema.Roots}
    (hroots : roots.IsLegible) (hentries : ∀ e ∈ entries, isName e.2.toList = true)
    (h : entries.foldlM addRoot? roots = some roots') : roots'.IsLegible := by
  induction entries generalizing roots with
  | nil =>
    cases h
    exact hroots
  | cons e entries ih =>
    obtain ⟨he, hentries⟩ := List.forall_mem_cons.mp hentries
    rw [List.foldlM_cons] at h
    obtain ⟨next, hnext, h⟩ := Option.bind_eq_some_iff.mp h
    exact ih (isLegible_of_addRoot? hroots he hnext) hentries h

/-- A definition of the root operation types that is read can be written down. -/
theorem isLegible_of_schemaDefinition {d : Schema.Definition} (hts : Readable holds 0 ts)
    (h : schemaDefinition bound ts = .ok (d, rest)) :
    d.IsLegible holds ∧ Readable holds 0 rest := by
  obtain ⟨⟨word, ts₁⟩, hword, h⟩ := bind_eq_ok_iff.mp h
  obtain ⟨⟨attached, ts₂⟩, hattached, h⟩ := bind_eq_ok_iff.mp h
  obtain ⟨⟨u, ts₃⟩, hopen, h⟩ := bind_eq_ok_iff.mp h
  obtain ⟨⟨entries, ts₄⟩, hentries, h⟩ := bind_eq_ok_iff.mp h
  obtain ⟨⟨v, ts₅⟩, hclose, h⟩ := bind_eq_ok_iff.mp h
  obtain ⟨-, -, hts₁⟩ := isName_of_name hts hword
  obtain ⟨hdirectives, hts₂⟩ := isLegible_of_directives hts₁ hattached
  obtain ⟨hall, hts₄⟩ := forall_of_many (P := fun e : String × String => isName e.2.toList = true)
    (fun hts _ => isName_of_rootEntry hts) (readable_of_mark hts₂ hopen).2 hentries
  have hrest : Readable holds 0 ts₅ := (readable_of_mark hts₄ hclose).2
  simp only at h
  split at h
  · next roots hroots =>
    cases h
    exact ⟨⟨hdirectives, isLegible_of_foldlM_addRoot? ⟨by simp, by simp, by simp⟩ hall hroots⟩, hrest⟩
  · cases h

/-- A place that is read leaves what stands behind it. -/
theorem readable_of_location {place : Schema.Location} (hts : Readable holds opened ts)
    (h : location ts = .ok (place, rest)) : Readable holds opened rest := by
  unfold location at h
  split at h
  · split at h
    · cases h
      exact (hts (by simp)).2.2
    · cases h
  · cases h

/-- Places that are read leave what stands behind them. -/
theorem readable_of_locations {places : List Schema.Location} (hts : Readable holds opened ts)
    (h : locations bound ts = .ok (places, rest)) : Readable holds opened rest := by
  unfold locations at h
  split_ifs at h with hplaces hmark
  · obtain ⟨⟨first, ts₁⟩, hfirst, h⟩ := bind_eq_ok_iff.mp h
    obtain ⟨⟨later, ts₂⟩, hlater, h⟩ := bind_eq_ok_iff.mp h
    cases h
    have hts₁ := readable_of_location (readable_drop hts hmark).2 hfirst
    exact (forall_of_many (P := fun _ => True) (fun hts hmore h =>
      ⟨trivial, readable_of_location (readable_drop hts hmore).2 h⟩) hts₁ hlater).2
  · obtain ⟨⟨first, ts₁⟩, hfirst, h⟩ := bind_eq_ok_iff.mp h
    obtain ⟨⟨later, ts₂⟩, hlater, h⟩ := bind_eq_ok_iff.mp h
    cases h
    have hts₁ := readable_of_location hts hfirst
    exact (forall_of_many (P := fun _ => True) (fun hts hmore h =>
      ⟨trivial, readable_of_location (readable_drop hts hmore).2 h⟩) hts₁ hlater).2
  · cases h
    exact hts

/-- A word that is read leaves what stands behind it. -/
theorem readable_of_word {s : String} {u : Unit} (hts : Readable holds opened ts)
    (h : word s ts = .ok (u, rest)) : Readable holds opened rest := by
  unfold word at h
  split at h
  · split_ifs at h
    · cases h
      exact (hts (by simp)).2.2
    · cases h
  · cases h

/-- The definition of a directive that is read can be written down, apart from its places. -/
theorem isLegible_of_directiveDefinition {text : Option String} {d : Schema.Definition}
    (htext : ∀ s ∈ text, holds s) (hts : Readable holds 0 ts)
    (h : directiveDefinition bound text ts = .ok (d, rest)) :
    d.IsLegible holds ∧ Readable holds 0 rest := by
  obtain ⟨⟨u, ts₁⟩, hmark, h⟩ := bind_eq_ok_iff.mp h
  obtain ⟨⟨s, ts₂⟩, hname, h⟩ := bind_eq_ok_iff.mp h
  obtain ⟨⟨arguments, ts₃⟩, harguments, h⟩ := bind_eq_ok_iff.mp h
  obtain ⟨hs, -, hts₂⟩ := isName_of_name (readable_of_mark hts hmark).2 hname
  obtain ⟨hall, hts₃⟩ := isLegible_of_argumentDefinitions hts₂ harguments
  simp only at h
  split at h
  all_goals
    obtain ⟨⟨v, ts₄⟩, hword, h⟩ := bind_eq_ok_iff.mp h
    obtain ⟨⟨places, ts₅⟩, hplaces, h⟩ := bind_eq_ok_iff.mp h
    cases h
  · exact ⟨⟨hs, htext, hall⟩,
      readable_of_locations (readable_of_word (hts₃ (by simp)).2.2 hword) hplaces⟩
  · exact ⟨⟨hs, htext, hall⟩, readable_of_locations (readable_of_word hts₃ hword) hplaces⟩

/-- A definition that is read behind its description can be written down. -/
theorem isLegible_of_describedDefinition {text : Option String} {d : Schema.Definition}
    (htext : ∀ s ∈ text, holds s) (hts : Readable holds 0 ts)
    (h : describedDefinition bound text ts = .ok (d, rest)) :
    d.IsLegible holds ∧ Readable holds 0 rest := by
  unfold describedDefinition at h
  split at h
  · have hlater := (hts (by simp)).2.2
    split_ifs at h
    · exact isLegible_of_directiveDefinition htext hlater h
    · split at h
      · cases h
      · obtain ⟨⟨⟨s, attached, body⟩, ts₁⟩, hbody, h⟩ := bind_eq_ok_iff.mp h
        cases h
        obtain ⟨hs, hdirectives, hlegible, hrest⟩ := isLegible_of_typeBody hlater hbody
        exact ⟨⟨hs, htext, hdirectives, hlegible⟩, hrest⟩
  · cases h

/-- A definition that is read can be written down, apart from the places where a directive may
stand. -/
theorem isLegible_of_definition {d : Schema.Definition} (hts : Readable holds 0 ts)
    (h : definition bound ts = .ok (d, rest)) : d.IsLegible holds ∧ Readable holds 0 rest := by
  unfold definition at h
  split at h
  · exact isLegible_of_schemaDefinition hts h
  · exact isLegible_of_typeExtension (hts (by simp)).2.2 h
  · obtain ⟨hs, -, hlater⟩ := hts (by simp)
    refine isLegible_of_describedDefinition (fun s hs' => ?_) hlater h
    obtain rfl := Option.mem_some.mp hs'
    exact hs
  · cases h
  · exact isLegible_of_describedDefinition (by simp) hts h

/-- A document that is read holds a definition, and its definitions can be written down. -/
theorem isLegible_of_document {d : Schema.Document} (hts : Readable holds 0 ts)
    (h : document ts = .ok d) :
    d.definitions ≠ [] ∧ ∀ x ∈ d.definitions, x.IsLegible holds := by
  obtain ⟨⟨first, ts₁⟩, hfirst, h⟩ := bind_eq_ok_iff.mp h
  obtain ⟨⟨later, ts₂⟩, hlater, h⟩ := bind_eq_ok_iff.mp h
  cases h
  obtain ⟨hlegible, hts₁⟩ := isLegible_of_definition hts hfirst
  obtain ⟨hall, -⟩ := forall_of_many (fun hts _ => isLegible_of_definition hts) hts₁ hlater
  exact ⟨List.cons_ne_nil _ _, List.forall_mem_cons.mpr ⟨hlegible, hall⟩⟩

/-- A document is read from a text exactly if it is from the tokens of the text. -/
theorem read_eq_ok {cs : List Char} {d : Schema.Document} :
    read cs = .ok d ↔ document ((tokens cs).1.map (·.2)) = .ok d := by
  rw [read]
  cases hdocument : document ((tokens cs).1.map (·.2)) with
  | ok d' => simp [hdocument]
  | error refusal => cases refusal <;> simp [hdocument]

/-- A document that is read from a text holds a definition, and its definitions can be written down,
if the text holds no floating-point number and its strings can be written down. -/
theorem isLegible_of_read {cs : List Char} {d : Schema.Document} (h : read cs = .ok d)
    (hfloat : ∀ x, .float x ∉ (tokens cs).1.map (·.2))
    (hstring : ∀ s, .string s ∈ (tokens cs).1.map (·.2) → holds s) :
    d.definitions ≠ [] ∧ ∀ x ∈ d.definitions, x.IsLegible holds :=
  isLegible_of_document (readable_tokens hfloat hstring) (read_eq_ok.mp h)

end SchemaQueries.Sdl
