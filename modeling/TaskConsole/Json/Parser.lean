import TaskConsole.Json.Basic
import TaskConsole.Json.Token
import TaskConsole.Text.Utf8

/-!
# Reading JSON — from bytes to a value

The reader takes one token after another.  It keeps the arrays and objects that
are still open, the innermost first, and what it expects next; a document is read
when its tokens end with a finished value and nothing open.  More than 127
levels of nesting are refused.

* `Frame`, `Expects` — an open array or object, and what may come next;
* `Reading.step?` — one token;
* `Json.parse?` — a whole document, as bytes of UTF-8. -/

namespace TaskConsole.Json

/-- The number of arrays and objects that may be open at once. -/
def maxDepth : Nat := 127

/-- An array or object that is still open, its finished parts last first. -/
inductive Frame where
  | array (items : List Json)
  | object (members : Members) (key : String)

/-- What the reader expects next. -/
inductive Expects where
  | value
  -- the first item of an array, or its end
  | item
  -- the first key of an object, or its end
  | member
  | key (members : Members)
  | colon (members : Members) (key : String)
  -- a comma or the end of the innermost open frame, after this value
  | next (value : Json)

/-- A document that is being read. -/
structure Reading where
  -- the open arrays and objects, the innermost first
  frames : List Frame
  expects : Expects

namespace Reading

/-- The reader before the first token. -/
def start : Reading := ⟨[], .value⟩

/-- A further open frame, unless there are too many. -/
def enter? (frames : List Frame) (frame : Frame) (expects : Expects) : Option Reading :=
  if frames.length < maxDepth then some ⟨frame :: frames, expects⟩ else none

/-- A token where a value may begin. -/
def beginValue? (frames : List Frame) : Token → Option Reading
  | .null => some ⟨frames, .next .null⟩
  | .bool b => some ⟨frames, .next (.bool b)⟩
  | .number n => some ⟨frames, .next (.number n)⟩
  | .string s => some ⟨frames, .next (.string s)⟩
  | .openArray => enter? frames (.array []) .item
  | .openObject => enter? frames (.object [] "") .member
  | _ => none

/-- One token. -/
def step? (r : Reading) (token : Token) : Option Reading :=
  match r.expects, token, r.frames with
  | .item, .closeArray, .array _ :: frames => some ⟨frames, .next (.array [])⟩
  | .member, .closeObject, .object _ _ :: frames => some ⟨frames, .next (.object [])⟩
  | .value, token, frames => beginValue? frames token
  | .item, token, frames => beginValue? frames token
  | .member, .string k, frames => some ⟨frames, .colon [] k⟩
  | .key ms, .string k, frames => some ⟨frames, .colon ms k⟩
  | .colon ms k, .colon, .object _ _ :: frames => some ⟨.object ms k :: frames, .value⟩
  | .next v, .comma, .array vs :: frames => some ⟨.array (v :: vs) :: frames, .value⟩
  | .next v, .comma, .object ms k :: frames =>
    some ⟨.object ((k, v) :: ms) k :: frames, .key ((k, v) :: ms)⟩
  | .next v, .closeArray, .array vs :: frames =>
    some ⟨frames, .next (.array (v :: vs).reverse)⟩
  | .next v, .closeObject, .object ms k :: frames =>
    some ⟨frames, .next (.object ((k, v) :: ms).reverse)⟩
  | _, _, _ => none

/-- The value of a document that is read to its end. -/
def result? : Reading → Option Json
  | ⟨[], .next v⟩ => some v
  | _ => none

end Reading

/-- The value of a sequence of tokens. -/
def ofTokens? (tokens : List Token) : Option Json := do
  (← tokens.foldlM Reading.step? .start).result?

/-- The value of a text. -/
def ofChars? (cs : List Char) : Option Json := do ofTokens? (← Token.scan? cs)

/-- The value of a document of UTF-8 bytes; nothing when the bytes are none. -/
def parse? (bytes : List UInt8) : Option Json := do ofChars? (← Utf8.decode? bytes)

end TaskConsole.Json
