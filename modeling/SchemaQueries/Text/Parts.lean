/-!
# Parts of a text

## Main definitions

* `Text.splitBefore` — a text in two, in front of the first character of some kind.
* `Text.partsBetween` — the parts of a text between separators.

## Main results

* `Text.splitBefore_append` — nothing is lost when a text is cut in two.
* `Text.takeWhile_append_of_head?`, `Text.dropWhile_append_of_head?` — a text is cut where a character
  of some kind follows others.
-/

set_option autoImplicit false
set_option relaxedAutoImplicit false

namespace SchemaQueries.Text

/-- The text in front of the first such character, and the text from it on. -/
def splitBefore (stop : Char → Bool) (cs : List Char) : List Char × List Char :=
  (cs.takeWhile fun c => !stop c, cs.dropWhile fun c => !stop c)

/-- The two parts are the text. -/
theorem splitBefore_append (stop : Char → Bool) (cs : List Char) :
    (splitBefore stop cs).1 ++ (splitBefore stop cs).2 = cs := by
  simp [splitBefore, List.takeWhile_append_dropWhile]

/-- What goes on up to a character that stops it is taken. -/
theorem takeWhile_append_of_head? {p : Char → Bool} {cs rest : List Char} (hcs : ∀ c ∈ cs, p c = true)
    (hrest : ∀ c ∈ rest.head?, p c = false) : (cs ++ rest).takeWhile p = cs := by
  rw [List.takeWhile_append_of_pos hcs]
  cases rest with
  | nil => simp
  | cons c rest => simp [hrest c (by simp)]

/-- What stands from that character on is left. -/
theorem dropWhile_append_of_head? {p : Char → Bool} {cs rest : List Char} (hcs : ∀ c ∈ cs, p c = true)
    (hrest : ∀ c ∈ rest.head?, p c = false) : (cs ++ rest).dropWhile p = rest := by
  rw [List.dropWhile_append_of_pos hcs]
  cases rest with
  | nil => simp
  | cons c rest => simp [hrest c (by simp)]

/-- Behind the longest start of a text that goes on in that way, a character stops it. -/
theorem head?_dropWhile {p : Char → Bool} {cs : List Char} :
    ∀ c ∈ (cs.dropWhile p).head?, p c = false := by
  intro c hc
  have hstop := List.head?_dropWhile_not p cs
  rw [Option.mem_def.mp hc] at hstop
  exact hstop

/-- The parts of a text between separators: one more than there are separators. -/
def partsBetween (isSeparator : Char → Bool) : List Char → List (List Char)
  | [] => [[]]
  | c :: rest =>
    if isSeparator c then [] :: partsBetween isSeparator rest
    else
      match partsBetween isSeparator rest with
      | [] => [[c]]
      | first :: others => (c :: first) :: others

end SchemaQueries.Text
