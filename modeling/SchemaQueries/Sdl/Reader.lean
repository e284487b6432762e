import SchemaQueries.Sdl.Grammar

/-!
# Reading a schema

A schema document from the text of it, or the place at which the text ceases to be one.

## Main definitions

* `Sdl.ReadError` — why a text is no schema document.
* `Sdl.read` — the document of a text.
-/

set_option autoImplicit false
set_option relaxedAutoImplicit false

namespace SchemaQueries.Sdl

/-- Why a text is no schema document. -/
inductive ReadError where
  /-- The text cannot go on as it does at this place. -/
  | unexpected (p : Position)
  /-- A block string has no value, because its indentation ends inside a character. -/
  | tornString
  deriving DecidableEq, Repr

/-- The place of the token that stands `remaining` tokens before the end. -/
def placeOf (located : List (Position × Token)) (stop : Position) (remaining : Nat) : Position :=
  match located.drop (located.length - remaining) with
  | (p, _) :: _ => p
  | [] => stop

/-- The document of a text. -/
def read (cs : List Char) : Except ReadError Schema.Document :=
  let (located, stop) := tokens cs
  match document (located.map (·.2)) with
  | .ok d => .ok d
  | .error (.unexpected remaining) => .error (.unexpected (placeOf located stop remaining))
  | .error .tornString => .error .tornString

/-- The first line of the wording of a failure. -/
def ReadError.message : ReadError → String
  | unexpected p =>
    "unable to parse schema SDL: schema parse error: Parse error at " ++ toString p.line ++ ":"
      ++ toString p.column
  | tornString => "a block string is indented by a part of a character"

end SchemaQueries.Sdl
