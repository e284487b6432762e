import SchemaQueries.Sdl.Literal

/-!
# Tokens of the schema language

A schema text is read as a sequence of tokens, with blanks, commas, line ends and comments between
them. Where the characters at hand form no token, the sequence ends with a mark for that.

## Main definitions

* `Sdl.Token`, `Sdl.Position` — a token, and a place in a text.
* `Sdl.skip` — passes over what stands between tokens.
* `Sdl.token` — the token at the start of a text.
* `Sdl.tokens` — the tokens of a text with their positions.

## Implementation notes

A tab moves the column by eight, a carriage return and a byte order mark by nothing. At most
`maxOpen` brackets are open at a time; the next opening bracket forms no token.
-/

set_option autoImplicit false
set_option relaxedAutoImplicit false

namespace SchemaQueries.Sdl

/-- A place in a text. Lines and columns count from one. -/
structure Position where
  line : Nat
  column : Nat
  deriving DecidableEq, Repr

/-- The place of the first character. -/
def Position.start : Position := ⟨1, 1⟩

/-- A token. -/
inductive Token where
  /-- One of the punctuation characters. -/
  | mark (c : Char)
  /-- Three points. -/
  | spread
  | name (s : String)
  | int (n : Int)
  | float (x : Binary64)
  | string (s : String)
  /-- A block string whose indentation ends inside a character. -/
  | tornString
  /-- The characters form no token. -/
  | malformed
  deriving DecidableEq, Repr

/-- The punctuation characters. -/
def marks : List Char :=
  ['(', ')', '[', ']', '\x7b', '\x7d', '!', '$', ':', '=', '@', '|', '&']

/-- Whether a name can start with the character. -/
def isNameStart (c : Char) : Bool :=
  c == '_' || c.isAlpha

/-- Whether a name can go on with the character. -/
def isNameRest (c : Char) : Bool :=
  isNameStart c || c.isDigit

/-- Whether a text is a name: a letter or an underscore, then letters, digits and underscores. -/
def isName : List Char → Bool
  | [] => false
  | c :: rest => isNameStart c && rest.all isNameRest

/-- Whether a number ends before the character. -/
def endsNumber (c : Char) : Bool :=
  c == ' ' || c == '\n' || c == '\r' || c == '\t' || c == ',' || c == '#' || marks.contains c

/-! ### Between tokens -/

/-- The place after passing over what stands between tokens, and the text from there on. Within a
comment, which goes to the end of its line, nothing moves the place but the end of the line. -/
def skipFrom (inComment : Bool) (p : Position) : List Char → Position × List Char
  | [] => (p, [])
  | c :: rest =>
    if inComment then
      if c = '\n' || c = '\r' then skipFrom false ⟨p.line + 1, 1⟩ rest
      else skipFrom true p rest
    else if c = ' ' || c = ',' then skipFrom false ⟨p.line, p.column + 1⟩ rest
    else if c = '\t' then skipFrom false ⟨p.line, p.column + 8⟩ rest
    else if c = '\r' || c = '\ufeff' then skipFrom false p rest
    else if c = '\n' then skipFrom false ⟨p.line + 1, 1⟩ rest
    else if c = '#' then skipFrom true p rest
    else (p, c :: rest)

/-- Passes over what stands between tokens. -/
def skip (p : Position) (cs : List Char) : Position × List Char :=
  skipFrom false p cs

/-- The place after a token of these characters. -/
def Position.after (p : Position) (lexeme : List Char) : Position :=
  lexeme.foldl (fun q c => if c = '\n' then ⟨q.line + 1, 1⟩ else ⟨q.line, q.column + 1⟩) p

/-! ### One token -/

/-- The characters of a string up to its closing quote, the quote left out, and the text behind
it. `escaped` says that a backslash stands before the text. -/
def stringBody (escaped : Bool) : List Char → Option (List Char × List Char)
  | [] => none
  | c :: rest =>
    if c = '\n' then none
    else if c = '"' && !escaped then some ([], rest)
    else (stringBody (c = '\\' && !escaped) rest).map fun (body, after) => (c :: body, after)

/-- The characters of a block string up to its closing triple quote, which no backslash stands
before, and the text behind it. `escaped` says that a backslash stands before the text. -/
def blockBody (escaped : Bool) : List Char → Option (List Char × List Char)
  | [] => none
  | '"' :: '"' :: '"' :: rest =>
    if escaped then
      (blockBody false rest).map fun (body, after) => ('"' :: '"' :: '"' :: body, after)
    else some ([], rest)
  | c :: rest => (blockBody (c == '\\') rest).map fun (body, after) => (c :: body, after)

/-- The token at the start of a text that is not empty, its characters, and the text behind it. -/
def token (cs : List Char) : Token × List Char × List Char :=
  let malformed : Token × List Char × List Char := (.malformed, [], cs)
  match cs with
  | '.' :: '.' :: '.' :: rest => (.spread, ['.', '.', '.'], rest)
  | '"' :: '"' :: '"' :: rest =>
    match blockBody false rest with
    | none => malformed
    | some (body, after) =>
      let lexeme := ['"', '"', '"'] ++ body ++ ['"', '"', '"']
      match blockValue body with
      | some value => (.string (String.ofList value), lexeme, after)
      | none => (.tornString, lexeme, after)
  | '"' :: rest =>
    match stringBody false rest with
    | none => malformed
    | some (body, after) =>
      match unescape? body with
      | some value => (.string (String.ofList value), '"' :: body ++ ['"'], after)
      | none => malformed
  | c :: rest =>
    if marks.contains c then (.mark c, [c], rest)
    else if isNameStart c then
      let lexeme := c :: rest.takeWhile isNameRest
      (.name (String.ofList lexeme), lexeme, rest.dropWhile isNameRest)
    else if c = '-' || c.isDigit then
      let lexeme := c :: rest.takeWhile (!endsNumber ·)
      let after := rest.dropWhile (!endsNumber ·)
      if lexeme.any fun x => x == '.' || x == 'e' || x == 'E' then
        match float? lexeme with
        | some x => (.float x, lexeme, after)
        | none => malformed
      else
        match integer? lexeme with
        | some n => (.int n, lexeme, after)
        | none => malformed
    else malformed
  | [] => malformed

/-! ### All tokens -/

/-- The greatest number of brackets that are open at a time. -/
def maxOpen : Nat := 50

/-- The number of open brackets after a token. -/
def openAfter (opened : Nat) : Token → Nat
  | .mark c =>
    if c = '(' || c = '[' || c = '\x7b' then opened + 1
    else if c = ')' || c = ']' || c = '\x7d' then opened - 1
    else opened
  | _ => opened

/-- The tokens of a text with their positions, and the place where the text ends. At most `fuel`
tokens are read. -/
def tokensFrom (opened : Nat) (p : Position) (cs : List Char) :
    Nat → List (Position × Token) × Position
  | 0 => ([], p)
  | fuel + 1 =>
    match skip p cs with
    | (here, []) => ([], here)
    | (here, c :: rest) =>
      let (t, lexeme, after) := token (c :: rest)
      if t = .malformed || maxOpen < openAfter opened t then ([(here, .malformed)], here)
      else
        let (later, stop) := tokensFrom (openAfter opened t) (here.after lexeme) after fuel
        ((here, t) :: later, stop)

/-- The tokens of a text with their positions, and the place where the text ends. -/
def tokens (cs : List Char) : List (Position × Token) × Position :=
  tokensFrom 0 .start cs (cs.length + 1)

end SchemaQueries.Sdl
