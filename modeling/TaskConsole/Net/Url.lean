import TaskConsole.Net.Host
import TaskConsole.Net.Path

/-!
# Targets — absolute addresses, read leniently and kept in normal form

A text is read as browsers do: control characters around it are dropped, line breaks
and tabs within it ignored.  What remains is kept in normal form, so that writing it
is simple.

* `Credentials`, `Url` — where a request goes, and in whose name;
* `Url.read?` — a text read, nothing when it is no absolute address with a valid host
  and port;
* `Url.withoutCredentials`, `Url.isSendable` — what a request carries, and whether there
  can be one;
* `Url.text` — the normal form, without the default port. -/

namespace TaskConsole

open Text

/-- In whose name a request is made, percent encoded. -/
structure Credentials where
  username : List Char
  password : Option (List Char)
  deriving DecidableEq

namespace Credentials

/-- The credentials of a text: a name, and after a colon a password that is not empty. -/
def ofText (cs : List Char) : Credentials :=
  let encode := Percent.encode Percent.credentialSet
  let password := (cs.dropWhile (· != ':')).tail
  { username := encode (cs.takeWhile (· != ':'))
    password := if password = [] then none else some (encode password) }

/-- Neither name nor password. -/
def isEmpty (c : Credentials) : Bool := c.username.isEmpty && c.password.isNone

/-- A part of the credentials is a text once its bytes are put back. -/
def isReadable (cs : List Char) : Bool := (Utf8.decode? (Percent.decode cs)).isSome

/-- The credentials can be handed over beside the target: the name is a text, and so is
the password where the name is empty. -/
def areSeparable (c : Credentials) : Bool :=
  isReadable c.username && (!c.username.isEmpty || (c.password.map isReadable).getD false)

/-- The text of credentials before a host. -/
def text (c : Credentials) : List Char :=
  c.username ++ (match c.password with
    | some p => ':' :: p
    | none => []) ++ ['@']

end Credentials

/-- An absolute address in normal form. -/
structure Url where
  scheme : Scheme
  credentials : Option Credentials
  host : Option Host
  -- the port asked, when it is not the default of the scheme
  port : Option UInt16
  -- the path, which starts with a slash wherever there is a host
  path : String
  query : Option String
  -- the fragment, if there is one; it is never sent
  fragment : Option String
  deriving DecidableEq

namespace Url

/-! ## Characters -/

/-- A control character of ASCII or a space. -/
def isControlOrSpace (c : Char) : Bool := c.toNat ≤ 0x20

/-- A tab or a line break, which is ignored everywhere. -/
def isIgnored (c : Char) : Bool := c == '\t' || c == '\n' || c == '\r'

/-- A character at which a path ends. -/
def endsPath (c : Char) : Bool := c == '?' || c == '#'

/-- A character at which credentials, host and port end. -/
def endsAuthority (s : Scheme) (c : Char) : Bool := s.isSlashIn c || endsPath c

/-! ## Ports -/

/-- A port: nothing, or digits of a number below 65536. -/
def readPort? (cs : List Char) : Option (Option UInt16) :=
  if cs = [] then some none
  else ((digits? cs).filter (· < 65536)).map fun n => some (UInt16.ofNat n)

/-- The characters up to the colon before a port, which is no colon in brackets, and
the rest. -/
def splitPort : Bool → List Char → List Char × List Char
  | _, [] => ([], [])
  | inBrackets, c :: cs =>
    if c = ':' ∧ inBrackets = false then ([], c :: cs)
    else
      let (host, rest) := splitPort (c = '[' || (inBrackets && c != ']')) cs
      (c :: host, rest)

/-! ## Credentials, host and port -/

/-- The characters after the last `@`, which ends the credentials. -/
def afterCredentials (cs : List Char) : List Char :=
  (cs.reverse.takeWhile (· != '@')).reverse

/-- The credentials before the last `@`. -/
def readCredentials (cs : List Char) : Option Credentials :=
  let front := cs.take (cs.length - (afterCredentials cs).length - 1)
  (some (Credentials.ofText front)).filter (!·.isEmpty)

/-- A host may be left out where the scheme is none of the web, and nothing stands around
it: no credentials, no colon, and no lone `@`. -/
def mayLackHost (s : Scheme) (authority rest : List Char) : Bool :=
  !s.isSpecial && (readCredentials authority).isNone
    && (authority.head? != some '@' || (authority.length == 1 && rest.isEmpty))

/-- Credentials, host and port before a path, and the path that is left over: a back
slash ends a port in every scheme. -/
def readAuthority? (s : Scheme) (authority rest : List Char) :
    Option (Url × List Char) := do
  let (hostText, portText) := splitPort false (afterCredentials authority)
  let host ← if s.isSpecial then Host.read? hostText else Host.readOpaque? hostText
  guard (hostText ≠ [] ∨ (portText = [] ∧ mayLackHost s authority rest))
  let port ← readPort? (portText.tail.takeWhile (· != '\\'))
  let url : Url :=
    { scheme := s, credentials := readCredentials authority, host
      port := port.filter fun p => some p != s.defaultPort?
      path := "", query := none, fragment := none }
  return (url, portText.tail.dropWhile (· != '\\'))

/-! ## Paths and what follows them -/

/-- An address with the query and the fragment of a text that starts with them. -/
def withQuery (u : Url) (cs : List Char) : Url :=
  let set := Percent.querySet ++ (if u.scheme.isSpecial then [Char.ofNat 0x27] else [])
  { u with
    query := match cs with
      | '?' :: q => some (String.ofList (Percent.encode set (q.takeWhile (· != '#'))))
      | _ => none
    fragment := match cs.dropWhile (· != '#') with
      | '#' :: f => some (String.ofList (Percent.encode Percent.fragmentSet f))
      | _ => none }

/-- An address with the path, query and fragment of a text.  Only outside the web, and
only after a host, a path may be empty. -/
def withPath (u : Url) (cs : List Char) : Url :=
  let pathText := cs.takeWhile fun c => !endsPath c
  let inner := match pathText with
    | [] => []
    | c :: tail => if u.scheme.isSlashIn c then tail else c :: tail
  let (path, namesDrive) :=
    if pathText = [] ∧ u.scheme.isSpecial = false then ([], false) else Path.read u.scheme inner
  withQuery
    { u with path := String.ofList path, host := if namesDrive then some .nowhere else u.host }
    (cs.dropWhile fun c => !endsPath c)

/-! ## Whole addresses -/

/-- An address that consists of a scheme only. -/
def ofScheme (s : Scheme) (host : Option Host) : Url :=
  { scheme := s, credentials := none, host, port := none, path := "", query := none
    fragment := none }

/-- An address after the two slashes before its host. -/
def readHosted? (s : Scheme) (cs : List Char) : Option Url := do
  let rest := cs.dropWhile fun c => !endsAuthority s c
  let (url, more) ← readAuthority? s (cs.takeWhile fun c => !endsAuthority s c) rest
  return url.withPath (more ++ rest)

/-- An address of a file: a host between two slashes and a path, or only a path. -/
def readFile? (cs : List Char) : Option Url :=
  let bare := ofScheme .file (some .nowhere)
  match cs with
  | a :: b :: rest =>
    if isSlash a && isSlash b then
      let hostText := rest.takeWhile fun c => !endsAuthority .file c
      let path := rest.dropWhile fun c => !endsAuthority .file c
      if Path.isDrive hostText then some (bare.withPath rest)
      else if hostText = [] then some (bare.withPath path)
      else (Host.read? hostText).map fun host =>
        let named := if host = .name "localhost" then .nowhere else host
        (ofScheme .file (some named)).withPath path
    else some (bare.withPath cs)
  | _ => some (bare.withPath cs)

/-- An address without a host, and with a path that is kept as it stands. -/
def readOpaque (s : Scheme) (cs : List Char) : Url :=
  let path := Percent.encode [] (cs.takeWhile fun c => !endsPath c)
  withQuery { ofScheme s none with path := String.ofList path }
    (cs.dropWhile fun c => !endsPath c)

/-- The address that a text names. -/
def read? (s : String) : Option Url := do
  let trimmed := ((s.toList.dropWhile isControlOrSpace).reverse.dropWhile
    isControlOrSpace).reverse
  let (scheme, cs) ← Scheme.split? (trimmed.filter fun c => !isIgnored c)
  if scheme = .file then readFile? cs
  else if scheme.isSpecial then readHosted? scheme (cs.dropWhile isSlash)
  else
    match cs with
    | '/' :: '/' :: rest => readHosted? scheme rest
    | '/' :: _ => some ((ofScheme scheme none).withPath cs)
    | _ => some (readOpaque scheme cs)

/-! ## Texts -/

/-- Host and port, the port only when it is not the default. -/
def authorityText (u : Url) : String :=
  (match u.host with
    | some host => host.text
    | none => "") ++
  (match u.port with
    | some port => ":" ++ Text.showNat port.toNat
    | none => "")

/-- Path and query. -/
def pathText (u : Url) : String :=
  u.path ++ (match u.query with
    | some q => "?" ++ q
    | none => "")

/-- The text of a target without credentials and fragment: what a request asks for. -/
def requestText (u : Url) : String :=
  u.scheme.text ++ "://" ++ u.authorityText ++ u.pathText

/-- What stands before the path: credentials, host and port behind two slashes.  Where
there are none, a path that starts with two slashes gets a point in front. -/
def frontText (u : Url) : String :=
  if u.host = none then (if u.path.startsWith "//" then "/." else "")
  else
    "//" ++ String.ofList ((u.credentials.map Credentials.text).getD []) ++ u.authorityText

/-- The normal form of an address. -/
def text (u : Url) : String :=
  u.scheme.text ++ ":" ++ u.frontText ++ u.pathText ++ (match u.fragment with
    | some f => "#" ++ f
    | none => "")

/-! ## Requests -/

/-- An address without its credentials, which are handed over beside it; those that are no
text stay. -/
def withoutCredentials (u : Url) : Url :=
  { u with credentials := u.credentials.filter (!·.areSeparable) }

/-- The characters that a host name may hold, but that no request can carry: a quotation
mark, a grave accent and braces. -/
def unsendableChars : List Char := ['"', Char.ofNat 0x60, '\x7b', '\x7d']

/-- The greatest length of an address that a request can carry. -/
def maxLength : Nat := 65534

/-- A request can be made to an address. -/
def isSendable (u : Url) : Bool :=
  u.scheme.isHttp && u.text.length ≤ maxLength
    && match u.host with
      | some (.name s) => !s.toList.any unsendableChars.contains
      | _ => true

end Url

end TaskConsole
