import SchemaQueries.FileSystem.Path
import SchemaQueries.Network.Url

/-!
# Asking an endpoint

Where something is sent to, what comes back, and when that counts as an answer.

## Main definitions

* `Network.Outcome` — what comes of a request.
* `Network.Failure` — why there is no answer.
* `Network.target` — where something is sent to.
* `Network.answer` — the answer in what comes of a request.
* `Network.offline` — what comes of requests where there is no network.
-/

set_option autoImplicit false
set_option relaxedAutoImplicit false

namespace SchemaQueries.Network

/-- What comes of a request. -/
inductive Outcome where
  | reply (status : Nat) (body : String)
  /-- The name of the host cannot be looked up. -/
  | unknownHost (reason : String)
  | noConnection (e : SystemError)
  deriving DecidableEq, Repr

/-- Why there is no answer from an address. -/
inductive Failure where
  | invalidUrl (e : UrlError)
  /-- The address is not one of the web. -/
  | schemeNotAllowed (url : Url)
  /-- The address cannot stand in a request. -/
  | unsendable (url : Url)
  | unknownHost (url : Url) (reason : String)
  | noConnection (url : Url) (e : SystemError)
  | refused (url : Url) (status : Nat)
  deriving DecidableEq, Repr

/-- The phrases that belong to the numbers of refusals. -/
def reasonPhrases : List (Nat × String) :=
  [(400, "Bad Request"), (401, "Unauthorized"), (402, "Payment Required"), (403, "Forbidden"),
    (404, "Not Found"), (405, "Method Not Allowed"), (406, "Not Acceptable"),
    (407, "Proxy Authentication Required"), (408, "Request Timeout"), (409, "Conflict"),
    (410, "Gone"), (411, "Length Required"), (412, "Precondition Failed"),
    (413, "Payload Too Large"), (414, "URI Too Long"), (415, "Unsupported Media Type"),
    (416, "Range Not Satisfiable"), (417, "Expectation Failed"), (418, "I'm a teapot"),
    (421, "Misdirected Request"), (422, "Unprocessable Entity"), (423, "Locked"),
    (424, "Failed Dependency"), (425, "Too Early"), (426, "Upgrade Required"),
    (428, "Precondition Required"), (429, "Too Many Requests"),
    (431, "Request Header Fields Too Large"), (451, "Unavailable For Legal Reasons"),
    (500, "Internal Server Error"), (501, "Not Implemented"), (502, "Bad Gateway"),
    (503, "Service Unavailable"), (504, "Gateway Timeout"), (505, "HTTP Version Not Supported"),
    (506, "Variant Also Negotiates"), (507, "Insufficient Storage"), (508, "Loop Detected"),
    (510, "Not Extended"), (511, "Network Authentication Required")]

/-- A number with its phrase. -/
def statusText (status : Nat) : String :=
  toString status ++ " " ++ (reasonPhrases.lookup status).getD "<unknown status code>"

/-- The wording of a failure. -/
def Failure.message : Failure → String
  | invalidUrl e => "builder error: " ++ e.message
  | schemeNotAllowed url => "builder error for url (" ++ url.text ++ "): URL scheme is not allowed"
  | unsendable url => "builder error for url (" ++ url.text ++ "): Parsed Url is not a valid Uri"
  | unknownHost url reason =>
    "error sending request for url (" ++ url.text
      ++ "): client error (Connect): dns error: failed to lookup address information: " ++ reason
  | noConnection url e =>
    "error sending request for url (" ++ url.text
      ++ "): client error (Connect): tcp connect error: " ++ e.message
  | refused url status =>
    "HTTP status " ++ (if status < 500 then "client" else "server") ++ " error ("
      ++ statusText status ++ ") for url (" ++ url.text ++ ")"

/-! ### Where something is sent to -/

/-- Whether the user and the password can be taken out of an address: they have to be texts. -/
def Authority.hasReadableAccount (a : Authority) : Bool :=
  (percentDecodedText? a.user).isSome
    && (!a.user.isEmpty || (percentDecodedText? a.password).isSome)

/-- The address without the user and the password, which are sent apart from it. -/
def Url.withoutAccount (u : Url) : Url :=
  { u with authority := u.authority.map fun a =>
      if a.hasReadableAccount then { a with user := [], password := [] } else a }

/-- How many characters an address in a request may have. -/
def maxSentLength : Nat := 65534

/-- Whether the host can stand in a request, where hosts hold no quotes and no braces. -/
def Host.isSendable (host : Host) : Bool :=
  !host.text.any (['"', '\x60', '\x7b', '\x7d'].contains ·)

/-- Whether the address can stand in a request. -/
def Url.isSendable (u : Url) : Bool :=
  u.authority.all (·.host.isSendable) && u.chars.length ≤ maxSentLength

/-- Where something is sent to that is to go to an address. -/
def target (text : String) : Except Failure Url := do
  let url ← (Url.ofText text).mapError .invalidUrl
  let url := url.withoutAccount
  if url.scheme ≠ .http && url.scheme ≠ .https then throw (.schemeNotAllowed url)
  if !url.isSendable then throw (.unsendable url)
  return url

/-! ### What comes back -/

/-- The answer of an address in what comes of a request. Refusals have numbers from 400 to 599,
and replies without content have none even if something is sent. -/
def answer (url : Url) : Outcome → Except Failure String
  | .unknownHost reason => .error (.unknownHost url reason)
  | .noConnection e => .error (.noConnection url e)
  | .reply status body =>
    if 400 ≤ status && status < 600 then .error (.refused url status)
    else if status = 204 || status = 304 then .ok ""
    else .ok body

/-- What comes of a request where there is no network: the own host is known by its name, but not
reached, as are hosts that are given by their numbers. -/
def offline (url : Url) : Outcome :=
  match url.authority.map Authority.host with
  | some (.name text) =>
    if text = "localhost".toList then .noConnection .networkUnreachable
    else .unknownHost "Temporary failure in name resolution"
  | _ => .noConnection .networkUnreachable

end SchemaQueries.Network
