import SchemaQueries.Text.Layout

/-!
# Lines indented by their open braces

Texts in which braces stand at the ends of lines only, an opening one behind other characters and a
closing one alone, and in which every line is indented by as many levels as braces are open. A line
that closes a brace is indented as if that brace were no longer open.

## Main definitions

* `Text.indentCounter?` — the counter of 32 bits by which a printer indents its lines.
* `Text.Nests` — a text leads from a number of open braces to another one, within a limit.
* `Text.Line`, `Text.Indented` — a line, and lines one after the other, with that indentation.

## Main results

* `Text.Nests.indentCounter?_eq` — the counter holds the indentation of the open braces.
* `Text.Indented.nests`, `Text.Indented.exists_margin` — what holds at every place of an indented
  text, and of every line of it.
-/

set_option autoImplicit false
set_option relaxedAutoImplicit false

namespace SchemaQueries.Text

/-! ### Open braces -/

/-- The indentation counter of a printer that has reached `counter` and prints the text: an opening
brace adds `indent`, a closing one takes it off. There is no counter any more if it exceeds 32 bits
or gets below zero. -/
def indentCounter? (indent : Nat) : Nat → List Char → Option Nat
  | counter, [] => some counter
  | counter, c :: rest =>
    if c = '\x7b' then
      if counter + indent < UInt32.size then indentCounter? indent (counter + indent) rest else none
    else if c = '\x7d' then
      if indent ≤ counter then indentCounter? indent (counter - indent) rest else none
    else indentCounter? indent counter rest

/-- Behind `k` open braces the text leads to `k'` of them. At no place are more than `limit` open,
and none is closed where none is open. -/
inductive Nests (limit : Nat) : Nat → List Char → Nat → Prop
  | nil {k : Nat} (hk : k ≤ limit) : Nests limit k [] k
  | cons {k k' : Nat} {c : Char} {cs : List Char} (hopening : c ≠ '\x7b') (hclosing : c ≠ '\x7d')
    (h : Nests limit k cs k') : Nests limit k (c :: cs) k'
  | opening {k k' : Nat} {cs : List Char} (h : Nests limit (k + 1) cs k') :
    Nests limit k ('\x7b' :: cs) k'
  | closing {k k' : Nat} {cs : List Char} (hk : k + 1 ≤ limit) (h : Nests limit k cs k') :
    Nests limit (k + 1) ('\x7d' :: cs) k'

namespace Nests

variable {limit k j k' : Nat} {cs ds before after : List Char}

/-- No more braces are open before the text than may be. -/
theorem le_limit (h : Nests limit k cs k') : k ≤ limit := by
  induction h with
  | nil hk => exact hk
  | cons _ _ _ ih => exact ih
  | opening _ ih => exact Nat.le_of_succ_le ih
  | closing hk _ _ => exact hk

/-- Two texts, one after the other. -/
theorem append (h : Nests limit k cs j) (h' : Nests limit j ds k') :
    Nests limit k (cs ++ ds) k' := by
  induction h with
  | nil _ => exact h'
  | cons hopening hclosing _ ih => exact .cons hopening hclosing (ih h')
  | opening _ ih => exact .opening (ih h')
  | closing hk _ ih => exact .closing hk (ih h')

/-- A text without braces. -/
theorem of_forall_ne (hk : k ≤ limit) (h : ∀ c ∈ cs, c ≠ '\x7b' ∧ c ≠ '\x7d') :
    Nests limit k cs k := by
  induction cs with
  | nil => exact .nil hk
  | cons c cs ih =>
    obtain ⟨hc, hcs⟩ := List.forall_mem_cons.mp h
    exact .cons hc.1 hc.2 (ih hcs)

/-- The start of a text leads to some number of open braces. -/
theorem exists_of_append (h : Nests limit k (before ++ after) k') :
    ∃ j ≤ limit, Nests limit k before j := by
  induction before generalizing k with
  | nil => exact ⟨k, h.le_limit, .nil h.le_limit⟩
  | cons c before ih =>
    cases h with
    | cons hopening hclosing h =>
      obtain ⟨j, hj, hbefore⟩ := ih h
      exact ⟨j, hj, .cons hopening hclosing hbefore⟩
    | opening h =>
      obtain ⟨j, hj, hbefore⟩ := ih h
      exact ⟨j, hj, .opening hbefore⟩
    | closing hk h =>
      obtain ⟨j, hj, hbefore⟩ := ih h
      exact ⟨j, hj, .closing hk hbefore⟩

/-- The open braces are those that have been opened and not closed. -/
theorem count_eq (h : Nests limit k cs k') : k + cs.count '\x7b' = k' + cs.count '\x7d' := by
  induction h with
  | nil _ => rfl
  | cons hopening hclosing _ ih =>
    rwa [List.count_cons_of_ne hopening, List.count_cons_of_ne hclosing]
  | opening _ ih =>
    rw [List.count_cons_self, List.count_cons_of_ne (by decide)]
    omega
  | closing _ _ ih =>
    rw [List.count_cons_self, List.count_cons_of_ne (by decide)]
    omega

/-- Where the indentation of the greatest number of open braces fits into 32 bits, the counter holds
the indentation of the braces that are open. -/
theorem indentCounter?_eq {indent : Nat} (hindent : limit * indent < UInt32.size)
    (h : Nests limit k cs k') : indentCounter? indent (indent * k) cs = some (indent * k') := by
  induction h with
  | nil _ => rfl
  | cons hopening hclosing _ ih => rw [indentCounter?, if_neg hopening, if_neg hclosing, ih]
  | @opening k k' cs h ih =>
    have hfits : indent * k + indent < UInt32.size := by
      rw [← Nat.mul_succ, Nat.mul_comm]
      exact Nat.lt_of_le_of_lt (Nat.mul_le_mul_right indent h.le_limit) hindent
    rw [indentCounter?, if_pos rfl, if_pos hfits, ← Nat.mul_succ, ih]
  | @closing k k' cs hk _ ih =>
    have hle : indent ≤ indent * (k + 1) := Nat.le_mul_of_pos_right indent (Nat.succ_pos k)
    have hless : indent * (k + 1) - indent = indent * k := by rw [Nat.mul_succ, Nat.add_sub_cancel]
    rw [indentCounter?, if_neg (by decide), if_pos rfl, if_pos hle, hless, ih]

end Nests

/-! ### Lines -/

/-- The text can stand within a line: it has neither line feeds nor braces. -/
def IsInline (cs : List Char) : Prop :=
  ∀ c ∈ cs, c ≠ '\n' ∧ c ≠ '\x7b' ∧ c ≠ '\x7d'

/-- The text can stand behind the margin of a line: it does not start with a space. -/
structure StartsLine (cs : List Char) : Prop where
  isInline : IsInline cs
  head_ne : ∃ c ∈ cs.head?, c ≠ ' '

/-- Two texts within a line. -/
theorem IsInline.append {cs ds : List Char} (h : IsInline cs) (h' : IsInline ds) :
    IsInline (cs ++ ds) :=
  List.forall_mem_append.mpr ⟨h, h'⟩

/-- What does not start with a space does not do so with more behind it. -/
theorem exists_head_append {cs : List Char} (h : ∃ c ∈ cs.head?, c ≠ ' ') (ds : List Char) :
    ∃ c ∈ (cs ++ ds).head?, c ≠ ' ' := by
  obtain ⟨c, hc, hne⟩ := h
  obtain ⟨rest, rfl⟩ := List.head?_eq_some_iff.mp hc
  exact ⟨c, rfl, hne⟩

/-- What starts a line does so with more behind it. -/
theorem StartsLine.append {cs ds : List Char} (h : StartsLine cs) (h' : IsInline ds) :
    StartsLine (cs ++ ds) where
  isInline := h.isInline.append h'
  head_ne := exists_head_append h.head_ne ds

/-- A line, without its line feed, that is indented by `indent` spaces for each of the braces that
are open before it, the one left out that it closes. Behind it `k'` braces are open instead of
`k`. -/
inductive Line (indent : Nat) : Nat → List Char → Nat → Prop
  | blank {k : Nat} : Line indent k [] k
  | plain {k : Nat} {content : List Char} (hcontent : StartsLine content) :
    Line indent k (List.replicate (indent * k) ' ' ++ content) k
  | opening {k : Nat} {content : List Char} (hcontent : StartsLine content) :
    Line indent k (List.replicate (indent * k) ' ' ++ (content ++ ['\x7b'])) (k + 1)
  | closing {k : Nat} : Line indent (k + 1) (List.replicate (indent * k) ' ' ++ ['\x7d']) k

/-- A margin has no other characters than spaces. -/
theorem isInline_replicate (n : Nat) : IsInline (List.replicate n ' ') := by
  intro c hc
  obtain rfl := List.eq_of_mem_replicate hc
  decide

/-- The spaces before what starts a line are those of its margin. -/
theorem length_takeWhile_margin (n : Nat) {content : List Char}
    (h : ∃ c ∈ content.head?, c ≠ ' ') :
    ((List.replicate n ' ' ++ content).takeWhile (· == ' ')).length = n := by
  obtain ⟨c, hc, hne⟩ := h
  obtain ⟨rest, rfl⟩ := List.head?_eq_some_iff.mp hc
  rw [List.takeWhile_append_of_pos (by simp), List.takeWhile_cons_of_neg (by simpa using hne),
    List.append_nil, List.length_replicate]

namespace Line

variable {indent limit k k' : Nat} {line : List Char}

/-- A line has no line feed. -/
theorem lineFeed_not_mem (h : Line indent k line k') : '\n' ∉ line := by
  have hinline {cs : List Char} (hcs : IsInline cs) : '\n' ∉ cs := fun hmem => (hcs _ hmem).1 rfl
  have hmargin := isInline_replicate
  cases h with
  | blank => exact List.not_mem_nil
  | plain hcontent => exact hinline ((hmargin _).append hcontent.isInline)
  | opening hcontent =>
    rw [← List.append_assoc, List.mem_append, not_or]
    exact ⟨hinline ((hmargin _).append hcontent.isInline), by decide⟩
  | closing =>
    rw [List.mem_append, not_or]
    exact ⟨hinline (hmargin _), by decide⟩

/-- A line leads from the braces that are open before it to those that are open behind it. -/
theorem nests (h : Line indent k line k') (hk : k ≤ limit) (hk' : k' ≤ limit) :
    Nests limit k line k' := by
  have hinline {cs : List Char} {k : Nat} (hk : k ≤ limit) (hcs : IsInline cs) :
      Nests limit k cs k := .of_forall_ne hk fun c hc => (hcs c hc).2
  have hmargin := isInline_replicate
  cases h with
  | blank => exact .nil hk
  | plain hcontent => exact hinline hk ((hmargin _).append hcontent.isInline)
  | opening hcontent =>
    exact (hinline hk (hmargin _)).append
      ((hinline hk hcontent.isInline).append (.opening (.nil hk')))
  | closing => exact (hinline hk (hmargin _)).append (.closing hk (.nil hk'))

/-- A line that is not blank is indented by the braces that are open before it, the one left out
that it closes.

**Proof sketch.** By cases on the line. What is written in a line holds no closing brace, and it does
not start with a space, so the spaces in front are those of the margin. A closing brace is indented by
the braces that it leaves open. -/
theorem margin (h : Line indent k line k') (hne : line ≠ []) :
    ∃ j, k = j + line.count '\x7d' ∧ line.count '\x7d' ≤ 1 ∧
      (line.takeWhile (· == ' ')).length = indent * j := by
  have hzero {cs : List Char} (hcs : IsInline cs) : cs.count '\x7d' = 0 :=
    List.count_eq_zero.mpr fun hmem => (hcs _ hmem).2.2 rfl
  have hmargin := isInline_replicate
  cases h with
  | blank => exact absurd rfl hne
  | plain hcontent =>
    rw [hzero ((hmargin _).append hcontent.isInline)]
    exact ⟨k, rfl, Nat.zero_le 1, length_takeWhile_margin _ hcontent.head_ne⟩
  | @opening k content hcontent =>
    have hcount : (List.replicate (indent * k) ' ' ++ (content ++ ['\x7b'])).count '\x7d' = 0 := by
      rw [List.count_append, List.count_append, hzero (hmargin _), hzero hcontent.isInline]
      rfl
    rw [hcount]
    exact ⟨k, rfl, Nat.zero_le 1, length_takeWhile_margin _ (exists_head_append hcontent.head_ne _)⟩
  | closing =>
    have hcount : (List.replicate (indent * k') ' ' ++ ['\x7d']).count '\x7d' = 1 := by
      rw [List.count_append, hzero (hmargin _)]
      rfl
    rw [hcount]
    exact ⟨k', rfl, Nat.le_refl 1, length_takeWhile_margin _ ⟨'\x7d', rfl, by decide⟩⟩

end Line

/-! ### Texts -/

/-- The first texts with a separator between them are where all of them start. -/
theorem joinWith_prefix (separator : List Char) {xs ys : List (List Char)} (h : xs <+: ys) :
    joinWith separator xs <+: joinWith separator ys := by
  induction xs generalizing ys with
  | nil => exact List.nil_prefix
  | cons x xs ih =>
    obtain ⟨ys, rfl, hys⟩ := List.cons_prefix_iff.mp h
    have ih := ih hys
    cases xs with
    | nil =>
      cases ys with
      | nil => exact List.prefix_rfl
      | cons y ys => exact (List.prefix_append x separator).trans (List.prefix_append _ _)
    | cons y xs =>
      obtain ⟨ys, rfl, -⟩ := List.cons_prefix_iff.mp hys
      exact (List.prefix_append_right_inj _).mpr ih

/-- Lines one after the other, each with its line feed, behind `k` open braces. Behind them `k'`
braces are open, and never more than `limit` before a line. -/
inductive Indented (limit indent : Nat) : Nat → List Char → Nat → Prop
  | nil {k : Nat} (hk : k ≤ limit) : Indented limit indent k [] k
  | cons {k j k' : Nat} {line rest : List Char} (hk : k ≤ limit) (hline : Line indent k line j)
    (h : Indented limit indent j rest k') : Indented limit indent k (line ++ '\n' :: rest) k'

namespace Indented

variable {limit indent k j k' : Nat} {cs ds : List Char}

/-- No more braces are open before the text than may be. -/
theorem le_limit (h : Indented limit indent k cs k') : k ≤ limit := by
  cases h with
  | nil hk => exact hk
  | cons hk _ _ => exact hk

/-- Two texts, one after the other. -/
theorem append (h : Indented limit indent k cs j) (h' : Indented limit indent j ds k') :
    Indented limit indent k (cs ++ ds) k' := by
  induction h with
  | nil _ => exact h'
  | cons hk hline _ ih =>
    rw [List.append_assoc, List.cons_append]
    exact .cons hk hline (ih h')

/-- One line. -/
theorem singleton {line : List Char} (hk : k ≤ limit) (hk' : k' ≤ limit)
    (hline : Line indent k line k') : Indented limit indent k (line ++ ['\n']) k' :=
  .cons hk hline (.nil hk')

/-- Texts one after the other that lead back to where they start. -/
theorem flatMap {α : Type} {f : α → List Char} {xs : List α} (hk : k ≤ limit)
    (h : ∀ x ∈ xs, Indented limit indent k (f x) k) : Indented limit indent k (xs.flatMap f) k := by
  induction xs with
  | nil => exact .nil hk
  | cons x xs ih =>
    obtain ⟨hx, hxs⟩ := List.forall_mem_cons.mp h
    rw [List.flatMap_cons]
    exact hx.append (ih hxs)

/-- Texts with a blank line between them that lead back to where they start. -/
theorem joinWith {α : Type} {f : α → List Char} {xs : List α} (hk : k ≤ limit)
    (h : ∀ x ∈ xs, Indented limit indent k (f x) k) :
    Indented limit indent k (Text.joinWith ['\n'] (xs.map f)) k := by
  induction xs with
  | nil => exact .nil hk
  | cons x xs ih =>
    obtain ⟨hx, hxs⟩ := List.forall_mem_cons.mp h
    cases xs with
    | nil => exact hx
    | cons y ys =>
      rw [List.map_cons, List.map_cons, Text.joinWith, ← List.map_cons, List.append_assoc]
      exact hx.append (.cons hk .blank (ih hxs))

/-- An indented text leads from the braces that are open before it to those behind it. -/
theorem nests (h : Indented limit indent k cs k') : Nests limit k cs k' := by
  induction h with
  | nil hk => exact .nil hk
  | cons hk hline h ih =>
    exact (hline.nests hk h.le_limit).append (.cons (by decide) (by decide) ih)

/-- A line of an indented text that is not blank is indented by the braces that are open before it,
the one left out that it closes.

**Proof sketch.** Induction on the lines. The line is the first one, or it is a line of the rest,
and then the braces of the first one are counted on both sides. -/
theorem exists_margin (h : Indented limit indent k cs k') {before after : List (List Char)}
    {line : List Char} (hlines : cs.splitOn '\n' = before ++ line :: after) (hne : line ≠ []) :
    ∃ j ≤ limit, k + before.flatten.count '\x7b' =
        before.flatten.count '\x7d' + (j + line.count '\x7d') ∧
      line.count '\x7d' ≤ 1 ∧ (line.takeWhile (· == ' ')).length = indent * j := by
  induction h generalizing before with
  | nil hk =>
    cases before with
    | nil => exact absurd (List.cons.inj hlines).1.symm hne
    | cons first before => simp at hlines
  | @cons k j k' first rest hk hline h ih =>
    rw [List.splitOn_append_cons_self_of_not_mem hline.lineFeed_not_mem] at hlines
    cases before with
    | nil =>
      obtain ⟨rfl, -⟩ := List.cons.inj hlines
      obtain ⟨j, hj, hone, hmargin⟩ := hline.margin hne
      exact ⟨j, by omega, by simpa using hj, hone, hmargin⟩
    | cons other before =>
      obtain ⟨rfl, hrest⟩ := List.cons.inj hlines
      obtain ⟨i, hi, hcount, hone, hmargin⟩ := ih hrest
      have hfirst := (hline.nests hk h.le_limit).count_eq
      refine ⟨i, hi, ?_, hone, hmargin⟩
      rw [List.flatten_cons, List.count_append, List.count_append]
      omega

end Indented

end SchemaQueries.Text
