import TaskConsole.Text.Blank
import TaskConsole.Text.Numeral

/-!
# Settings — five optional texts resolved to values

Every setting has a default, so resolution never fails.  A text that is blank
counts as unset; a port that is set but not a port number has a default of its
own, so that a typing mistake is told apart from an unset port.

* `RawSettings` — the texts as they are found, each possibly absent;
* `Settings` — the resolved values, durations in seconds;
* `Settings.resolve` — the rule for each field. -/

namespace TaskConsole

open Text

/-- The texts of the settings, as found in the environment of the program. -/
structure RawSettings where
  gossipBind : Option String := none
  gossipPort : Option String := none
  httpTimeout : Option String := none
  refreshInterval : Option String := none
  statusClearDelay : Option String := none

/-- Resolved settings. -/
structure Settings where
  gossipBind : String
  gossipPort : UInt16
  httpTimeout : Nat
  refreshInterval : Nat
  statusClearDelay : Nat
  deriving DecidableEq, Repr

namespace Settings

/-- The address used when none is set. -/
def defaultBind : String := "127.0.0.1"

/-- The port used when none is set. -/
def defaultPort : UInt16 := 5504

/-- The port used when the text that is set is no port number. -/
def fallbackPort : UInt16 := 5000

/-- The address text, trimmed. -/
def resolveBind (raw : Option String) : String :=
  (raw.bind trimmed?).getD defaultBind

/-- The port: unset and blank are one case, and garbage is another. -/
def resolvePort (raw : Option String) : UInt16 :=
  match raw.bind trimmed? with
  | none => defaultPort
  | some text =>
    match naturalBelow? 65536 text.toList with
    | some n => UInt16.ofNat n
    | none => fallbackPort

/-- A duration: a positive number of seconds below 2⁶⁴, else the default. -/
def resolveSeconds (raw : Option String) (default : Nat) : Nat :=
  let seconds := raw.bind fun text => naturalBelow? 18446744073709551616 (trimChars text.toList)
  (seconds.filter (0 < ·)).getD default

/-- All settings from their texts. -/
def resolve (raw : RawSettings) : Settings where
  gossipBind := resolveBind raw.gossipBind
  gossipPort := resolvePort raw.gossipPort
  httpTimeout := resolveSeconds raw.httpTimeout 30
  refreshInterval := resolveSeconds raw.refreshInterval 10
  statusClearDelay := resolveSeconds raw.statusClearDelay 5

end Settings

end TaskConsole
