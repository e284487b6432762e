import SchemaQueries.Network.Host

/-!
# Addresses

An address of something on a network, and the form that it is brought into before something is
sent to it: the scheme and the host in small letters, no service number that the scheme implies, a
path without `.` and `..`, and characters that an address cannot hold as bytes in hexadecimal
digits.

## Main definitions

* `Network.Scheme` — what an address says first: how one speaks with what is there.
* `Network.Url` — an address in its normal form.
* `Network.UrlError` — why a text is no address.
* `Network.Url.ofText` — the address that a text denotes.
* `Network.Url.text` — the text of an address.

## Implementation notes

A name of a path that looks like a drive, such as `C:`, is never taken back by `..`, whatever the
scheme is. Only in addresses of files does it also stand for the host.
-/

set_option autoImplicit false
set_option relaxedAutoImplicit false

namespace SchemaQueries.Network

/-! ### Schemes -/

/-- How one speaks with what is at an address. -/
inductive Scheme where
  | http | https | ws | wss | ftp | file
  /-- A scheme whose hosts and paths follow no rules that are known here. -/
  | other (name : List Char)
  deriving DecidableEq, Repr

namespace Scheme

/-- The name of a scheme. -/
def name : Scheme → List Char
  | http => "http".toList
  | https => "https".toList
  | ws => "ws".toList
  | wss => "wss".toList
  | ftp => "ftp".toList
  | file => "file".toList
  | other name => name

/-- The scheme with a name. -/
def ofName (name : List Char) : Scheme :=
  ([http, https, ws, wss, ftp, file].find? fun s => s.name = name).getD (other name)

/-- Whether the rules for addresses of the web hold. -/
def isKnown : Scheme → Bool
  | other _ => false
  | _ => true

/-- The number of the service that a scheme implies. -/
def impliedService? : Scheme → Option Nat
  | http | ws => some 80
  | https | wss => some 443
  | ftp => some 21
  | file | other _ => none

end Scheme

/-! ### Addresses -/

/-- Where something is: a host, a service of it, and who asks. -/
structure Authority where
  /-- The name of a user, with some characters as bytes. -/
  user : List Char
  /-- The password of the user, with some characters as bytes. -/
  password : List Char
  host : Host
  /-- The number of the service at the host, unless it is the one that the scheme implies. -/
  service : Option Nat
  deriving DecidableEq, Repr

/-- An address in its normal form. -/
structure Url where
  scheme : Scheme
  authority : Option Authority
  path : List Char
  query : Option (List Char)
  fragment : Option (List Char)
  deriving DecidableEq, Repr

namespace Authority

/-- The user and the password, with the sign that ends them. -/
def accountText (a : Authority) : List Char :=
  if a.user.isEmpty && a.password.isEmpty then []
  else a.user ++ (if a.password.isEmpty then [] else ':' :: a.password) ++ ['@']

/-- The host with the number of the service. -/
def placeText (a : Authority) : List Char :=
  a.host.text ++ (match a.service with
    | none => []
    | some service => ':' :: Nat.toDigits 10 service)

/-- The text of an authority. -/
def text (a : Authority) : List Char :=
  a.accountText ++ a.placeText

end Authority

namespace Url

/-- The query with its question mark. -/
def queryText (u : Url) : List Char :=
  match u.query with
  | none => []
  | some query => '?' :: query

/-- The fragment with its sign. -/
def fragmentText (u : Url) : List Char :=
  match u.fragment with
  | none => []
  | some fragment => '#' :: fragment

/-- What stands between the scheme and the path. Where there is no authority, a path that starts
with two slashes is kept from looking like one. -/
def authorityText (u : Url) : List Char :=
  match u.authority with
  | some a => ['/', '/'] ++ a.text
  | none => if ['/', '/'].isPrefixOf u.path then ['/', '.'] else []

/-- The characters of the text of an address. -/
def chars (u : Url) : List Char :=
  u.scheme.name ++ ':' :: u.authorityText ++ u.path ++ u.queryText ++ u.fragmentText

/-- The text of an address. -/
def text (u : Url) : String :=
  String.ofList u.chars

end Url

/-- Why a text is no address. -/
inductive UrlError where
  | relative
  | invalidHost (e : HostError)
  | invalidService
  deriving DecidableEq, Repr

/-- The wording of what is wrong with an address. -/
def UrlError.message : UrlError → String
  | relative => "relative URL without a base"
  | invalidHost e => e.message
  | invalidService => "invalid port number"

/-! ### Characters -/

/-- Whether the character can stand in a scheme. -/
def isSchemeChar (c : Char) : Bool :=
  c.isAlphanum || c == '+' || c == '-' || c == '.'

/-- Whether the character is cut off at the ends of an address. -/
def isMargin (c : Char) : Bool :=
  c.toNat ≤ 0x20

/-- Whether the character is dropped wherever it stands. -/
def isBreak (c : Char) : Bool :=
  c == '\t' || c == '\n' || c == '\r'

/-- Whether the character separates the names of a path. -/
def isSlash (known : Bool) (c : Char) : Bool :=
  c == '/' || (known && c == '\\')

/-- Whether the character ends a path. -/
def endsPath (c : Char) : Bool :=
  c == '?' || c == '#'

/-- The characters that a fragment holds as bytes. -/
def fragmentReserved : List Char := [' ', '"', '<', '>', '\x60']

/-- The characters that a path holds as bytes. -/
def pathReserved : List Char := ['#', '?', '\x7b', '\x7d'] ++ fragmentReserved

/-- The characters that a user and a password hold as bytes. -/
def accountReserved : List Char :=
  ['/', ':', ';', '=', '@', '[', '\\', ']', '^', '|'] ++ pathReserved

/-- The characters that a query holds as bytes. -/
def queryReserved (known : Bool) : List Char :=
  [' ', '"', '#', '<', '>'] ++ (if known then ['\''] else [])

/-! ### Paths -/

/-- The name with every dot that is written as a byte as itself. -/
def plainDots : List Char → List Char
  | '%' :: '2' :: 'e' :: rest => '.' :: plainDots rest
  | '%' :: '2' :: 'E' :: rest => '.' :: plainDots rest
  | c :: rest => c :: plainDots rest
  | [] => []

/-- Whether the name stands for the place where it is. -/
def isHere (name : List Char) : Bool :=
  plainDots name = ['.']

/-- Whether the name stands for the place above. -/
def isAbove (name : List Char) : Bool :=
  plainDots name = ['.', '.']

/-- The letter in a name that looks like a drive. -/
def drive? : List Char → Option Char
  | [letter, ':'] => if letter.isAlpha then some letter else none
  | [letter, '|'] => if letter.isAlpha then some letter else none
  | _ => none

/-- The names so far, in reverse, without the last one. A drive stays. -/
def above : List (List Char) → List (List Char)
  | [] => []
  | name :: seen => if (drive? name).isSome then name :: seen else seen

/-- The names of a path without `.` and `..`. The names so far are given in reverse. -/
def resolveDots (seen : List (List Char)) : List (List Char) → List (List Char)
  | [] => seen.reverse
  | name :: rest =>
    let seen := if isAbove name then above seen else if isHere name then seen else name :: seen
    if rest.isEmpty && (isAbove name || isHere name) then ([] :: seen).reverse
    else resolveDots seen rest

/-- The names between the slashes of a path, each with some characters as bytes. -/
def namesOf (known : Bool) (cs : List Char) : List (List Char) :=
  let relative := if (cs.head?.map (isSlash known)).getD false then cs.drop 1 else cs
  (Text.partsBetween (isSlash known) relative).map (percentEncode pathReserved)

/-- The text of a path with these names. -/
def pathText (names : List (List Char)) : List Char :=
  names.flatMap ('/' :: ·)

/-- The normal form of a path. -/
def normalPath (known : Bool) (cs : List Char) : List Char :=
  pathText (resolveDots [] (namesOf known cs))

/-- The names of a path to a file, and whether they start with a drive. A drive is written with a
colon. -/
def fileNames (cs : List Char) : List (List Char) × Bool :=
  match resolveDots [] (namesOf true cs) with
  | [] => ([], false)
  | first :: rest =>
    match drive? first with
    | some letter => ([letter, ':'] :: rest, true)
    | none => (first :: rest, false)

/-- The text of a path to a file. Slashes that follow one another at its start count as one. -/
def filePathText (names : List (List Char)) : List Char :=
  '/' :: (pathText names).dropWhile (· == '/')

/-! ### Hosts and services -/

/-- The text in front of the colon that ends a host, and the text from it on. Colons between
brackets belong to the host. -/
def splitHost (inBrackets : Bool) : List Char → List Char × List Char
  | [] => ([], [])
  | c :: rest =>
    if c = ':' && !inBrackets then ([], c :: rest)
    else
      let (host, service) := splitHost (c = '[' || (inBrackets && c ≠ ']')) rest
      (c :: host, service)

/-- The number of a service in the digits behind a host, unless it is the implied one. -/
def serviceOf (scheme : Scheme) (digits : List Char) : Except UrlError (Option Nat) :=
  let service := Text.ofDigits digits
  if !digits.all Char.isDigit || 65535 < service then .error .invalidService
  else .ok (if digits.isEmpty || scheme.impliedService? = some service then none else some service)

/-- The host that a text denotes in an address with this scheme. -/
def hostOf (scheme : Scheme) (cs : List Char) : Except UrlError Host :=
  if scheme.isKnown then
    if cs.isEmpty then .error (.invalidHost .empty) else (Host.ofText cs).mapError .invalidHost
  else (Host.ofOpaque cs).mapError .invalidHost

/-- The user and the password in front of the last sign that ends them, and the text behind it. -/
def splitAccount (cs : List Char) : Option (List Char × List Char) × List Char :=
  let (placeReversed, accountReversed) := Text.splitBefore (· == '@') cs.reverse
  match accountReversed with
  | [] => (none, cs)
  | _ :: account =>
    let (user, password) := Text.splitBefore (· == ':') account.reverse
    (some (user, password.drop 1), placeReversed.reverse)

/-- The authority in a text, and what is left of the text. Something is left where a backslash,
which ends the number of a service, does not end the authority. A service needs a host, and so does
a user, even one without a name if more of the address follows. -/
def authorityOf (scheme : Scheme) (cs rest : List Char) :
    Except UrlError (Authority × List Char) := do
  let (account, place) := splitAccount cs
  let (user, password) := account.getD ([], [])
  let (hostText, service) := splitHost false place
  let (digits, left) := Text.splitBefore (· == '\\') (service.drop 1)
  let host ← hostOf scheme hostText
  if host.isEmpty && (!service.isEmpty || (cs = ['@'] && !rest.isEmpty)) then
    throw (.invalidHost .empty)
  let service ← serviceOf scheme digits
  if host.isEmpty && !(user.isEmpty && password.isEmpty) then throw (.invalidHost .empty)
  return ({
    user := percentEncode accountReserved user
    password := percentEncode accountReserved password
    host, service }, left)

/-! ### Addresses from texts -/

/-- The scheme of an address and the text behind its colon. -/
def splitScheme (cs : List Char) : Option (List Char × List Char) :=
  match cs.dropWhile isSchemeChar with
  | ':' :: rest =>
    let scheme := cs.takeWhile isSchemeChar
    if (scheme.head?.map Char.isAlpha).getD false then some (scheme.map Char.toLower, rest)
    else none
  | _ => none

/-- The query and the fragment in what follows a path. -/
def Url.withTail (u : Url) (tail : List Char) : Url :=
  let (query, fragment) := Text.splitBefore (· == '#') tail
  { u with
    query := if query.isEmpty then none
      else some (percentEncode (queryReserved u.scheme.isKnown) (query.drop 1))
    fragment := if fragment.isEmpty then none
      else some (percentEncode fragmentReserved (fragment.drop 1)) }

/-- The address that starts with an authority. -/
def Url.ofAuthority (scheme : Scheme) (cs : List Char) : Except UrlError Url := do
  let known := scheme.isKnown
  let (authorityText, rest) := Text.splitBefore (fun c => isSlash known c || endsPath c) cs
  let (authority, left) ← authorityOf scheme authorityText rest
  let (path, tail) := Text.splitBefore endsPath (left ++ rest)
  return Url.withTail {
    scheme, authority := some authority
    path := if path.isEmpty && !known then [] else normalPath known path
    query := none, fragment := none } tail

/-- The host of a file and the path to it. Only behind two slashes a host can stand, and a name that
looks like a drive belongs to the path. -/
def splitFileHost : List Char → List Char × List Char
  | a :: b :: rest =>
    if isSlash true a && isSlash true b then
      let (host, path) := Text.splitBefore (fun c => isSlash true c || endsPath c) rest
      if (drive? host).isSome then ([], rest) else (host, path)
    else ([], a :: b :: rest)
  | cs => ([], cs)

/-- The host on which a file is. The own one is not named. -/
def fileHost (cs : List Char) : Except UrlError Host := do
  if cs.isEmpty then return .name []
  let host ← (Host.ofText cs).mapError .invalidHost
  return if host = .name "localhost".toList then .name [] else host

/-- The address of a file. Where the path starts with a drive, the host is not named. -/
def Url.ofFile (cs : List Char) : Except UrlError Url := do
  let (hostText, rest) := splitFileHost cs
  let host ← fileHost hostText
  let (path, tail) := Text.splitBefore endsPath rest
  let (names, startsWithDrive) := fileNames path
  return Url.withTail {
    scheme := .file
    authority := some ⟨[], [], if startsWithDrive then .name [] else host, none⟩
    path := filePathText names
    query := none, fragment := none } tail

/-- The address with a scheme whose rules are not known. -/
def Url.ofOther (scheme : Scheme) (cs : List Char) : Except UrlError Url :=
  match cs with
  | '/' :: '/' :: rest => Url.ofAuthority scheme rest
  | _ =>
    let (path, tail) := Text.splitBefore endsPath cs
    .ok (Url.withTail {
      scheme, authority := none
      path := if path.head? = some '/' then normalPath false path else percentEncode [] path
      query := none, fragment := none } tail)

/-- The address that a text denotes. -/
def Url.ofText (text : String) : Except UrlError Url :=
  let trimmed := ((text.toList.dropWhile isMargin).reverse.dropWhile isMargin).reverse
  match splitScheme (trimmed.filter fun c => !isBreak c) with
  | none => .error .relative
  | some (name, rest) =>
    match Scheme.ofName name with
    | .file => Url.ofFile rest
    | .other name => Url.ofOther (.other name) rest
    | scheme => Url.ofAuthority scheme (rest.dropWhile (isSlash true))

end SchemaQueries.Network
