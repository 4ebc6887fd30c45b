/-!
# Schemes — the first word of an address

The schemes of the web have a host always, take back slashes for slashes and have
default ports; for all others an address is read as it stands.

* `Scheme` — the schemes that are told apart;
* `Scheme.isSpecial`, `Scheme.defaultPort?` — what the schemes of the web share;
* `Scheme.split?` — the scheme of a text, and what follows it. -/

namespace TaskConsole

/-- The first word of an address. -/
inductive Scheme where
  | http
  | https
  | ws
  | wss
  | ftp
  | file
  | other (name : String)
  deriving DecidableEq

namespace Scheme

/-- The name of a scheme. -/
def text : Scheme → String
  | http => "http"
  | https => "https"
  | ws => "ws"
  | wss => "wss"
  | ftp => "ftp"
  | file => "file"
  | other name => name

/-- The scheme with a name in lower case. -/
def ofName (name : String) : Scheme :=
  ([http, https, ws, wss, ftp, file].find? (·.text == name)).getD (other name)

/-- A scheme of the web. -/
def isSpecial : Scheme → Bool
  | other _ => false
  | _ => true

/-- A scheme in which requests are made. -/
def isHttp : Scheme → Bool
  | http | https => true
  | _ => false

/-- The port that is meant when none is given. -/
def defaultPort? : Scheme → Option UInt16
  | http | ws => some 80
  | https | wss => some 443
  | ftp => some 21
  | file | other _ => none

/-- A character that may stand in the name of a scheme. -/
def isNameChar (c : Char) : Bool := c.isAlphanum || c == '+' || c == '-' || c == '.'

/-- The scheme of a text, which begins with a letter and ends before a colon, and what
follows the colon. -/
def split? (cs : List Char) : Option (Scheme × List Char) :=
  match cs.takeWhile isNameChar, cs.dropWhile isNameChar with
  | first :: more, ':' :: rest =>
    if first.isAlpha then
      some (ofName (String.ofList ((first :: more).map Char.toLower)), rest)
    else none
  | _, _ => none

end Scheme

end TaskConsole
