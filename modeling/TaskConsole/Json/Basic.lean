import TaskConsole.Json.Number

/-!
# JSON values — documents and how their members are looked up

An object keeps its members in the order written, also those whose key occurs
more than once; a lookup finds the last of them.

* `Json` — the six kinds of values;
* `Json.lookup` — the member of a key;
* `Json.text?`, `Json.flag?`, `Json.members?` — a value as the kind that is expected. -/

namespace TaskConsole

/-- A JSON value. -/
inductive Json where
  | null
  | bool (value : Bool)
  | number (value : Json.Number)
  | string (value : String)
  | array (items : List Json)
  | object (members : List (String × Json))

namespace Json

/-- The members of an object, in the order written. -/
abbrev Members := List (String × Json)

/-- The value of a key: that of its last occurrence. -/
def lookup (key : String) (members : Members) : Option Json :=
  (members.reverse.find? fun m => m.1 == key).map (·.2)

/-- The text of a string. -/
def text? : Json → Option String
  | string s => some s
  | _ => none

/-- The value of a boolean. -/
def flag? : Json → Option Bool
  | bool b => some b
  | _ => none

/-- The members of an object. -/
def members? : Json → Option Members
  | object ms => some ms
  | _ => none

/-- An integer of 64 bits as a value. -/
def ofInt (n : Int64) : Json :=
  number (.integer n.toInt ⟨n.le_toInt, by have := n.toInt_lt; omega⟩)

/-- A value that may be absent, written as `null` then. -/
def ofOption {α : Type} (encode : α → Json) : Option α → Json
  | none => null
  | some a => encode a

end Json

end TaskConsole
