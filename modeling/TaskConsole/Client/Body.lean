import TaskConsole.Failure
import TaskConsole.Json.Parser
import TaskConsole.Text.Blank

/-!
# Reply bodies — the shapes that a scheduler's answer can take

* `ReplyBody`, `ReplyBody.classify` — a body sorted by its shape;
* `errorText` — what a body says about a failure: its message, else its text, else
  what the transport says. -/

namespace TaskConsole

/-- The verdict of the scheduler on a request that changes something. -/
structure Verdict where
  success : Bool
  message : String
  deriving DecidableEq, Repr

/-- The shapes of a reply body. -/
inductive ReplyBody where
  | taskList (items : List Json)
  -- an object with a flag `success` and a text `message`
  | verdict (v : Verdict)
  -- any other object with a text `message` that is not empty
  | message (text : String)
  | unrecognized
  | malformed

/-- The text `message` of an object, unless it is empty. -/
def messageOf? (ms : Json.Members) : Option String :=
  ((Json.lookup "message" ms).bind Json.text?).filter (· ≠ "")

/-- The verdict that an object states, if it has both members in the right kind. -/
def verdictOf? (ms : Json.Members) : Option Verdict := do
  let success ← (Json.lookup "success" ms).bind Json.flag?
  let message ← (Json.lookup "message" ms).bind Json.text?
  return { success, message }

namespace ReplyBody

/-- The shape of a value. -/
def ofJson : Json → ReplyBody
  | .array items => taskList items
  | .object ms =>
    match verdictOf? ms, messageOf? ms with
    | some v, _ => verdict v
    | none, some text => message text
    | none, none => unrecognized
  | _ => unrecognized

/-- The shape of a body. -/
def classify (body : List UInt8) : ReplyBody :=
  match Json.parse? body with
  | some v => ofJson v
  | none => malformed

end ReplyBody

/-- The text of a failed request: the `message` of an object, else the body without
the blanks around it, else the fallback. -/
def errorText (body : List UInt8) (fallback : String) : String :=
  match ((Json.parse? body).bind Json.members?).bind messageOf? with
  | some text => text
  | none => (Text.trimmed? (String.ofList (Utf8.decodeLossy body))).getD fallback

end TaskConsole
