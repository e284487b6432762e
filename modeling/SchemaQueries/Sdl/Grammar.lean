import SchemaQueries.Schema.Basic
import SchemaQueries.Sdl.Token

/-!
# The grammar of the schema language

Reading a schema document from its tokens. The grammar needs one token of lookahead and reserves
no word: every name may be the name of anything. A refusal points at the first token that the
document cannot go on with.

## Main definitions

* `Sdl.Refusal` — where and why tokens form no document.
* `Sdl.value`, `Sdl.typeRef`, `Sdl.definition` — the parts of a document.
* `Sdl.document` — a document from all its tokens.

## Implementation notes

Every function takes the tokens at hand and returns what it read with the tokens behind it. The
functions that repeat or nest take a bound on the number of repetitions; a bound above twice the
number of tokens is never reached, because of any two repetitions in a row one takes a token.
-/

set_option autoImplicit false
set_option relaxedAutoImplicit false

namespace SchemaQueries.Sdl

open SchemaQueries.Schema

/-- Why tokens form no document. -/
inductive Refusal where
  /-- The document cannot go on with the token that stands `remaining` tokens before the end. -/
  | unexpected (remaining : Nat)
  /-- A block string has no value, because its indentation ends inside a character. -/
  | tornString
  deriving DecidableEq, Repr

/-- What was read, and the tokens behind it. -/
abbrev Taken (α : Type) := α × List Token

/-- Refuses the first of the tokens at hand. -/
def refuse {α : Type} (ts : List Token) : Except Refusal (Taken α) :=
  .error (.unexpected ts.length)

/-- The punctuation character `c`. -/
def mark (c : Char) : List Token → Except Refusal (Taken Unit)
  | .mark d :: rest => if c = d then .ok ((), rest) else refuse (.mark d :: rest)
  | ts => refuse ts

/-- A name. -/
def name : List Token → Except Refusal (Taken String)
  | .name s :: rest => .ok (s, rest)
  | ts => refuse ts

/-- Whether the next token is the punctuation character `c`. -/
def nextIsMark (c : Char) : List Token → Bool
  | .mark d :: _ => c = d
  | _ => false

/-- Reads items while `more` holds of the tokens at hand, at most `bound` of them. -/
def many {α : Type} (more : List Token → Bool)
    (item : List Token → Except Refusal (Taken α)) :
    Nat → List Token → Except Refusal (Taken (List α))
  | 0, ts => .ok ([], ts)
  | bound + 1, ts =>
    if more ts then do
      let (first, ts) ← item ts
      let (rest, ts) ← many more item bound ts
      return (first :: rest, ts)
    else .ok ([], ts)

/-- Reads one item and then more of them up to the punctuation character `close`, which it takes
too. -/
def manyUpTo {α : Type} (close : Char) (item : List Token → Except Refusal (Taken α))
    (bound : Nat) (ts : List Token) : Except Refusal (Taken (List α)) := do
  let (first, ts) ← item ts
  let (rest, ts) ← many (!nextIsMark close ·) item bound ts
  let ((), ts) ← mark close ts
  return (first :: rest, ts)

/-- What stands between the punctuation characters `opening` and `close`, at least one item, or
nothing if the next token is not `opening`. -/
def optionalGroup {α : Type} (opening close : Char)
    (item : List Token → Except Refusal (Taken α)) (bound : Nat) (ts : List Token) :
    Except Refusal (Taken (List α)) :=
  if nextIsMark opening ts then manyUpTo close item bound (ts.drop 1) else .ok ([], ts)

/-- Names with the punctuation character `separator` between them, and possibly before the
first. -/
def separatedNames (separator : Char) (bound : Nat) (ts : List Token) :
    Except Refusal (Taken (List String)) := do
  let ts := if nextIsMark separator ts then ts.drop 1 else ts
  let (first, ts) ← name ts
  let (rest, ts) ← many (nextIsMark separator) (fun ts => name (ts.drop 1)) bound ts
  return (first :: rest, ts)

/-! ### Values and types -/

mutual

/-- A value. Variables are admitted only if `takesVariables` says so. -/
def value (takesVariables : Bool) : Nat → List Token → Except Refusal (Taken Value)
  | 0, ts => refuse ts
  | bound + 1, ts =>
    match ts with
    | .name s :: rest =>
      .ok (if s = "true" then .boolean true else if s = "false" then .boolean false
        else if s = "null" then .null else .enum s, rest)
    | .int n :: rest => .ok (.int n, rest)
    | .float x :: rest => .ok (.float x, rest)
    | .string s :: rest => .ok (.string s, rest)
    | .tornString :: _ => .error .tornString
    | .mark c :: rest =>
      if c = '[' then do
        let (items, ts) ← listItems takesVariables bound rest
        return (.list items, ts)
      else if c = '\x7b' then do
        let (members, ts) ← objectMembers takesVariables bound rest
        return (Value.objectOf members, ts)
      else if c = '$' && takesVariables then do
        let (s, ts) ← name rest
        return (.variable s, ts)
      else refuse ts
    | _ => refuse ts

/-- The items of a list value with the bracket behind them. -/
def listItems (takesVariables : Bool) : Nat → List Token → Except Refusal (Taken (List Value))
  | 0, ts => refuse ts
  | bound + 1, ts =>
    if nextIsMark ']' ts then .ok ([], ts.drop 1)
    else do
      let (first, ts) ← value takesVariables bound ts
      let (rest, ts) ← listItems takesVariables bound ts
      return (first :: rest, ts)

/-- The members of an object value with the brace behind them. -/
def objectMembers (takesVariables : Bool) :
    Nat → List Token → Except Refusal (Taken (List (String × Value)))
  | 0, ts => refuse ts
  | bound + 1, ts =>
    if nextIsMark '\x7d' ts then .ok ([], ts.drop 1)
    else do
      let (key, ts) ← name ts
      let ((), ts) ← mark ':' ts
      let (first, ts) ← value takesVariables bound ts
      let (rest, ts) ← objectMembers takesVariables bound ts
      return ((key, first) :: rest, ts)

end

/-- A type that may be followed by one mark of a non-null type. -/
def typeRef : Nat → List Token → Except Refusal (Taken TypeRef)
  | 0, ts => refuse ts
  | bound + 1, ts => do
    let (inner, ts) ← match ts with
      | .name s :: rest => .ok (TypeRef.named s, rest)
      | .mark '[' :: rest => do
        let (item, ts) ← typeRef bound rest
        let ((), ts) ← mark ']' ts
        .ok (TypeRef.list item, ts)
      | ts => refuse ts
    if nextIsMark '!' ts then .ok (.nonNull inner, ts.drop 1) else .ok (inner, ts)

/-! ### Parts of definitions -/

/-- An argument of a directive. -/
def argument (bound : Nat) (ts : List Token) : Except Refusal (Taken (String × Value)) := do
  let (key, ts) ← name ts
  let ((), ts) ← mark ':' ts
  let (v, ts) ← value true bound ts
  return ((key, v), ts)

/-- A directive. -/
def directive (bound : Nat) (ts : List Token) : Except Refusal (Taken Directive) := do
  let ((), ts) ← mark '@' ts
  let (s, ts) ← name ts
  let (arguments, ts) ← optionalGroup '(' ')' (argument bound) bound ts
  return (⟨s, arguments⟩, ts)

/-- Any number of directives. -/
def directives (bound : Nat) (ts : List Token) : Except Refusal (Taken (List Directive)) :=
  many (nextIsMark '@') (directive bound) bound ts

/-- A description, if the next token is a string. -/
def description : List Token → Except Refusal (Taken (Option String))
  | .string s :: rest => .ok (some s, rest)
  | .tornString :: _ => .error .tornString
  | ts => .ok (none, ts)

/-- An argument definition or an input field. -/
def inputValue (bound : Nat) (ts : List Token) : Except Refusal (Taken InputValue) := do
  let (text, ts) ← description ts
  let (s, ts) ← name ts
  let ((), ts) ← mark ':' ts
  let (type, ts) ← typeRef bound ts
  let (default, ts) ←
    if nextIsMark '=' ts then do
      let (v, ts) ← value false bound (ts.drop 1)
      .ok (some v, ts)
    else .ok (none, ts)
  let (attached, ts) ← directives bound ts
  return (⟨text, s, type, default, attached⟩, ts)

/-- The definitions of arguments in parentheses, if there are any. -/
def argumentDefinitions (bound : Nat) (ts : List Token) :
    Except Refusal (Taken (List InputValue)) :=
  optionalGroup '(' ')' (inputValue bound) bound ts

/-- A field of an object or interface type. -/
def field (bound : Nat) (ts : List Token) : Except Refusal (Taken Field) := do
  let (text, ts) ← description ts
  let (s, ts) ← name ts
  let (arguments, ts) ← argumentDefinitions bound ts
  let ((), ts) ← mark ':' ts
  let (type, ts) ← typeRef bound ts
  let (attached, ts) ← directives bound ts
  return (⟨text, s, arguments, type, attached⟩, ts)

/-- A value of an enum type. -/
def enumValue (bound : Nat) (ts : List Token) : Except Refusal (Taken EnumValue) := do
  let (text, ts) ← description ts
  let (s, ts) ← name ts
  let (attached, ts) ← directives bound ts
  return (⟨text, s, attached⟩, ts)

/-- The interfaces of a type, if the next token is the word for them. -/
def interfaces (bound : Nat) : List Token → Except Refusal (Taken (List String))
  | .name "implements" :: rest => separatedNames '&' bound rest
  | ts => .ok ([], ts)

/-- The members of a union type, if the next token is an equals sign. -/
def unionMembers (bound : Nat) (ts : List Token) : Except Refusal (Taken (List String)) :=
  if nextIsMark '=' ts then separatedNames '|' bound (ts.drop 1) else .ok ([], ts)

/-! ### Types -/

/-- The kinds of types. -/
inductive TypeKind where
  | scalar | object | interface | union | enum | input
  deriving DecidableEq, Repr

/-- The kind of type that a word introduces. -/
def TypeKind.ofWord? (s : String) : Option TypeKind :=
  if s = "scalar" then some .scalar
  else if s = "type" then some .object
  else if s = "interface" then some .interface
  else if s = "union" then some .union
  else if s = "enum" then some .enum
  else if s = "input" then some .input
  else none

/-- A type behind the word for its kind: its name, its directives and what is said about it. -/
def typeBody (bound : Nat) (kind : TypeKind) (ts : List Token) :
    Except Refusal (Taken (String × List Directive × TypeBody)) := do
  let (s, ts) ← name ts
  match kind with
  | .scalar => do
    let (attached, ts) ← directives bound ts
    return ((s, attached, .scalar), ts)
  | .object => do
    let (implemented, ts) ← interfaces bound ts
    let (attached, ts) ← directives bound ts
    let (fields, ts) ← optionalGroup '\x7b' '\x7d' (field bound) bound ts
    return ((s, attached, .object implemented fields), ts)
  | .interface => do
    let (implemented, ts) ← interfaces bound ts
    let (attached, ts) ← directives bound ts
    let (fields, ts) ← optionalGroup '\x7b' '\x7d' (field bound) bound ts
    return ((s, attached, .interface implemented fields), ts)
  | .union => do
    let (attached, ts) ← directives bound ts
    let (members, ts) ← unionMembers bound ts
    return ((s, attached, .union members), ts)
  | .enum => do
    let (attached, ts) ← directives bound ts
    let (values, ts) ← optionalGroup '\x7b' '\x7d' (enumValue bound) bound ts
    return ((s, attached, .enum values), ts)
  | .input => do
    let (attached, ts) ← directives bound ts
    let (fields, ts) ← optionalGroup '\x7b' '\x7d' (inputValue bound) bound ts
    return ((s, attached, .input fields), ts)

/-- Whether an extension says nothing. The interfaces of an interface type do not count. -/
def saysNothing (attached : List Directive) : TypeBody → Bool
  | .scalar => attached.isEmpty
  | .object implemented fields => attached.isEmpty && implemented.isEmpty && fields.isEmpty
  | .interface _ fields => attached.isEmpty && fields.isEmpty
  | .union members => attached.isEmpty && members.isEmpty
  | .enum values => attached.isEmpty && values.isEmpty
  | .input fields => attached.isEmpty && fields.isEmpty

/-- An extension behind the word `extend`. One that says nothing is refused at its first token. -/
def typeExtension (bound : Nat) (start : List Token) : Except Refusal (Taken Definition) := do
  let (word, ts) ← name start
  match TypeKind.ofWord? word with
  | none => refuse start
  | some kind => do
    let ((s, attached, body), ts) ← typeBody bound kind ts
    if saysNothing attached body then refuse start
    else return (.extension ⟨s, attached, body⟩, ts)

/-! ### Other definitions -/

/-- A root operation and the type of its name. -/
def rootEntry (ts : List Token) : Except Refusal (Taken (String × String)) := do
  let (operation, ts) ← name ts
  let ((), ts) ← mark ':' ts
  let (type, ts) ← name ts
  return ((operation, type), ts)

/-- Adds one root operation type, unless the operation is unknown or already there. -/
def addRoot? (roots : Roots) (entry : String × String) : Option Roots :=
  if entry.1 = "query" then
    if roots.query.isNone then some { roots with query := some entry.2 } else none
  else if entry.1 = "mutation" then
    if roots.mutation.isNone then some { roots with mutation := some entry.2 } else none
  else if entry.1 = "subscription" then
    if roots.subscription.isNone then some { roots with subscription := some entry.2 } else none
  else none

/-- A schema definition. Unknown and repeated operations are refused at its first token. -/
def schemaDefinition (bound : Nat) (start : List Token) : Except Refusal (Taken Definition) := do
  let (_, ts) ← name start
  let (attached, ts) ← directives bound ts
  let ((), ts) ← mark '\x7b' ts
  let (entries, ts) ← many (!nextIsMark '\x7d' ·) rootEntry bound ts
  let ((), ts) ← mark '\x7d' ts
  match entries.foldlM addRoot? ⟨none, none, none⟩ with
  | some roots => return (.schema attached roots, ts)
  | none => refuse start

/-- The name of a place where a directive may stand. -/
def location : List Token → Except Refusal (Taken Location)
  | .name s :: rest =>
    match Location.ofName? s with
    | some place => .ok (place, rest)
    | none => refuse (.name s :: rest)
  | ts => refuse ts

/-- Whether the next token is a name. -/
def nextIsName : List Token → Bool
  | .name _ :: _ => true
  | _ => false

/-- The places behind the word `on`, possibly none. -/
def locations (bound : Nat) (ts : List Token) : Except Refusal (Taken (List Location)) :=
  if nextIsMark '|' ts || nextIsName ts then do
    let (first, ts) ← location (if nextIsMark '|' ts then ts.drop 1 else ts)
    let (rest, ts) ← many (nextIsMark '|') (fun ts => location (ts.drop 1)) bound ts
    return (first :: rest, ts)
  else .ok ([], ts)

/-- The word `s`. -/
def word (s : String) : List Token → Except Refusal (Taken Unit)
  | .name t :: rest => if s = t then .ok ((), rest) else refuse (.name t :: rest)
  | ts => refuse ts

/-- A directive definition behind the word for it. -/
def directiveDefinition (bound : Nat) (text : Option String) (ts : List Token) :
    Except Refusal (Taken Definition) := do
  let ((), ts) ← mark '@' ts
  let (s, ts) ← name ts
  let (arguments, ts) ← argumentDefinitions bound ts
  let (repeatable, ts) := match ts with
    | .name "repeatable" :: rest => (true, rest)
    | ts => (false, ts)
  let ((), ts) ← word "on" ts
  let (places, ts) ← locations bound ts
  return (.directive ⟨text, s, arguments, repeatable, places⟩, ts)

/-- A definition that may have a description, behind that description. -/
def describedDefinition (bound : Nat) (text : Option String) (ts : List Token) :
    Except Refusal (Taken Definition) :=
  match ts with
  | .name s :: rest =>
    if s = "directive" then directiveDefinition bound text rest
    else
      match TypeKind.ofWord? s with
      | none => refuse ts
      | some kind => do
        let ((t, attached, body), ts) ← typeBody bound kind rest
        return (.type ⟨text, t, attached, body⟩, ts)
  | _ => refuse ts

/-- A definition. -/
def definition (bound : Nat) (ts : List Token) : Except Refusal (Taken Definition) :=
  match ts with
  | .name "schema" :: _ => schemaDefinition bound ts
  | .name "extend" :: rest => typeExtension bound rest
  | .string s :: rest => describedDefinition bound (some s) rest
  | .tornString :: _ => .error .tornString
  | _ => describedDefinition bound none ts

/-- A document: one or more definitions, and nothing behind them. -/
def document (ts : List Token) : Except Refusal Document := do
  let bound := 2 * ts.length + 2
  let (first, rest) ← definition bound ts
  let (later, _) ← many (!·.isEmpty) (definition bound) bound rest
  return ⟨first :: later⟩

end SchemaQueries.Sdl
