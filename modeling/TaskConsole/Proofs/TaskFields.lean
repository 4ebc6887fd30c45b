import TaskConsole.Proofs.Blanks
import TaskConsole.Proofs.NumberValues
import TaskConsole.Proofs.Outcomes
import TaskConsole.Task.Codec

/-! # The fields of a task — each depends on the value of its own key alone

    A task has twelve fields, each with a key and a kind of value of its own
    (`Task.Field`), and an object decides each of them by the last value under its key
    (`Task.get_ofMembers`).  A value that is of no use for the kind (`Task.Kind.Unusable`)
    leaves the field as it is in a blank task, just as no value at all.  So what is done
    to an object under some of its keys shows in the fields of these keys and nowhere
    else (`Task.Edits`, `Task.Edits.get_eq`). -/

namespace TaskConsole

/-! ## Numerals with a sign -/

namespace Text

/-- A text is a numeral: digits, with a sign in front or with none. -/
inductive Signed : List Char → Int → Prop
  | plain {ds : List Char} (hne : ds ≠ []) (hd : ∀ c ∈ ds, isDigit c = true) :
      Signed ds (decimalValue ds)
  | plus {ds : List Char} (hne : ds ≠ []) (hd : ∀ c ∈ ds, isDigit c = true) :
      Signed ('+' :: ds) (decimalValue ds)
  | minus {ds : List Char} (hne : ds ≠ []) (hd : ∀ c ∈ ds, isDigit c = true) :
      Signed ('-' :: ds) (-(decimalValue ds : Int))

theorem digits?_eq_some_iff {cs : List Char} {n : Nat} :
    digits? cs = some n ↔ cs ≠ [] ∧ (∀ c ∈ cs, isDigit c = true) ∧ decimalValue cs = n := by
  rw [digits?, Option.ite_none_right_eq_some, List.all_eq_true, Option.some.injEq, and_assoc]

theorem digits?_eq_some {cs : List Char} (hne : cs ≠ [])
    (hd : ∀ c ∈ cs, isDigit c = true) : digits? cs = some (decimalValue cs) :=
  digits?_eq_some_iff.mpr ⟨hne, hd, rfl⟩

/-- A text is a numeral without a minus: digits, with a plus in front or with none. -/
inductive Natural : List Char → Nat → Prop
  | plain {ds : List Char} (hne : ds ≠ []) (hd : ∀ c ∈ ds, isDigit c = true) :
      Natural ds (decimalValue ds)
  | plus {ds : List Char} (hne : ds ≠ []) (hd : ∀ c ∈ ds, isDigit c = true) :
      Natural ('+' :: ds) (decimalValue ds)

/-- Those are the numerals that are read, where there is no minus. -/
theorem natural?_eq_some_iff {cs : List Char} {n : Nat} :
    natural? cs = some n ↔ Natural cs n := by
  constructor
  · intro h
    unfold natural? at h
    split at h
    · obtain ⟨hne, hd, rfl⟩ := digits?_eq_some_iff.mp h
      exact .plus hne hd
    · obtain ⟨hne, hd, rfl⟩ := digits?_eq_some_iff.mp h
      exact .plain hne hd
  · intro h
    cases h with
    | plain hne hd =>
        -- no digit is a sign
        unfold natural?
        split
        · exact absurd (hd '+' List.mem_cons_self) (by decide)
        · exact digits?_eq_some hne hd
    | plus hne hd => exact digits?_eq_some hne hd

/-- The digits of a number are a numeral. -/
theorem natural_showNat (n : Nat) : Natural (showNat n).toList n := by
  rw [showNat, String.toList_ofList]
  have hplain := Natural.plain (decimal_ne_nil n) isDigit_of_mem_decimal
  rwa [decimalValue_decimal] at hplain

/-- A numeral without a minus is one where there may be a minus. -/
theorem Natural.signed {cs : List Char} {n : Nat} (h : Natural cs n) : Signed cs n := by
  cases h with
  | plain hne hd => exact .plain hne hd
  | plus hne hd => exact .plus hne hd

/-- And those, where there may be one. -/
theorem integer?_eq_some_iff {cs : List Char} {n : Int} :
    integer? cs = some n ↔ Signed cs n := by
  constructor
  · intro h
    unfold integer? at h
    split at h
    · obtain ⟨_, hm, rfl⟩ := Option.map_eq_some_iff.mp h
      obtain ⟨k, hk, ⟨⟩⟩ := Option.bind_eq_some_iff.mp hm
      obtain ⟨hne, hd, rfl⟩ := digits?_eq_some_iff.mp hk
      exact .minus hne hd
    · obtain ⟨_, hm, rfl⟩ := Option.map_eq_some_iff.mp h
      obtain ⟨k, hk, ⟨⟩⟩ := Option.bind_eq_some_iff.mp hm
      exact (natural?_eq_some_iff.mp hk).signed
  · intro h
    cases h with
    | plain hne hd =>
        unfold integer?
        split
        · exact absurd (hd '-' List.mem_cons_self) (by decide)
        · rw [natural?_eq_some_iff.mpr (.plain hne hd)]
          rfl
    | plus hne hd =>
        show Option.map _ (digits? _ >>= _) = _
        rw [digits?_eq_some hne hd]
        rfl
    | minus hne hd =>
        show Option.map _ (digits? _ >>= _) = _
        rw [digits?_eq_some hne hd]
        rfl

end Text

open Text in
/-- A text has no integer of 64 bits when it is no numeral, or one outside the range. -/
theorem int64OfText?_eq_none_iff {s : String} :
    int64OfText? s = none ↔ ∀ mid n, Trims s.toList mid → Signed mid n →
      n < leastInt64 ∨ greatestInt64 < n := by
  rw [int64OfText?, Option.map_eq_none_iff, Option.filter_eq_none_iff]
  constructor
  · intro h mid n hmid hn
    rw [← trimChars_eq_iff] at hmid
    rw [← integer?_eq_some_iff, ← hmid] at hn
    have hout := of_decide_eq_false (Bool.eq_false_iff.mpr (h n hn))
    omega
  · intro h n hn hin
    have hout := h _ n (trims_trimChars _) (integer?_eq_some_iff.mp hn)
    have := of_decide_eq_true hin
    omega

/-! ## The last value of a key -/

namespace Json

/-- The members of a key. -/
def under (key : String) (ms : Members) : Members := ms.filter fun m => m.1 == key

/-- A key is looked up among its own members, where the last one counts. -/
theorem lookup_eq_getLast? (key : String) (ms : Members) :
    lookup key ms = (under key ms).getLast?.map (·.2) := by
  rw [lookup, ← List.head?_filter, List.filter_reverse, List.head?_reverse, under]

theorem under_cons (key : String) (m : String × Json) (ms : Members) :
    under key (m :: ms) = if m.1 == key then m :: under key ms else under key ms :=
  List.filter_cons

theorem under_cons_of_ne {key other : String} (h : other ≠ key) (v : Json) (ms : Members) :
    under key ((other, v) :: ms) = under key ms := by
  rw [under_cons, if_neg fun heq => h (eq_of_beq heq)]

/-- An object without the members of some keys. -/
def without (keys : List String) (ms : Members) : Members := ms.filter fun m => m.1 ∉ keys

/-- An object with `null` in place of the values of some keys. -/
def nulled (keys : List String) (ms : Members) : Members :=
  ms.map fun m => if m.1 ∈ keys then (m.1, null) else m

variable {key : String} {keys : List String}

theorem lookup_without (h : key ∈ keys) (ms : Members) : lookup key (without keys ms) = none := by
  rw [lookup, Option.map_eq_none_iff, List.find?_eq_none]
  intro m hm hkey
  have hnot := (List.mem_filter.mp (List.mem_reverse.mp hm)).2
  rw [← eq_of_beq hkey] at h
  exact of_decide_eq_true hnot h

theorem lookup_nulled (h : key ∈ keys) {ms : Members} {v : Json}
    (hv : lookup key (nulled keys ms) = some v) : v = null := by
  obtain ⟨m, hm, rfl⟩ := Option.map_eq_some_iff.mp hv
  have hkey : (m.1 == key) = true := List.find?_some (p := fun m : String × Json => m.1 == key) hm
  obtain ⟨l, -, hl⟩ := List.mem_map.mp (List.mem_reverse.mp (List.mem_of_find?_eq_some hm))
  split at hl
  · rw [← hl]
  · next hnot =>
      rw [hl, eq_of_beq hkey] at hnot
      exact absurd h hnot

end Json

/-! ## The fields -/

namespace Task

open Json (Members lookup under without nulled lookup_eq_getLast? under_cons under_cons_of_ne)

/-- What the value of a field is read as. -/
inductive Kind where
  | integer
  | text
  | moment
  | flag

/-- What a usable value brings. -/
def Kind.Content : Kind → Type
  | integer => Int64
  | text => String
  | moment => Timestamp
  | flag => Bool

/-- How a value is read. -/
def Kind.read? : (k : Kind) → Json → Option k.Content
  | integer => Json.int64?
  | text => Json.text?
  | moment => Json.timestamp?
  | flag => Json.flag?

/-- A value of no use for a kind: one of another type, or a text that names nothing. -/
def Kind.Unusable : Kind → Json → Prop
  | integer, v => (∀ n, v ≠ .number n) ∧ ∀ s, v = .string s →
      ∀ mid n, Text.Trims s.toList mid → Text.Signed mid n → n < leastInt64 ∨ greatestInt64 < n
  | text, v => ∀ s, v ≠ .string s
  | moment, v => ∀ s, v = .string s → Timestamp.read? s = none
  | flag, v => ∀ b, v ≠ .bool b

/-- Those are the values that are not read. -/
theorem Kind.read?_eq_none_iff {k : Kind} {v : Json} : k.read? v = none ↔ k.Unusable v := by
  cases k with
  | integer =>
      cases v with
      | number n =>
          refine ⟨fun h => ?_, fun h => absurd rfl (h.1 n)⟩
          exact absurd (n.int64?_eq.symm.trans h) (Option.some_ne_none _)
      | string s =>
          show int64OfText? s = none ↔ _
          rw [int64OfText?_eq_none_iff]
          refine ⟨fun h => ⟨fun n hn => Json.noConfusion hn, ?_⟩, fun h => h.2 s rfl⟩
          rintro _ ⟨⟩
          exact h
      | _ => exact ⟨fun _ => ⟨fun n hn => Json.noConfusion hn,
          fun s hs => Json.noConfusion hs⟩, fun _ => rfl⟩
  | text =>
      show v.text? = none ↔ _
      rw [Option.eq_none_iff_forall_not_mem]
      exact forall_congr' fun s => not_congr Json.text?_eq_some_iff
  | moment =>
      show v.text?.bind Timestamp.read? = none ↔ _
      rw [Option.bind_eq_none_iff]
      exact forall_congr' fun s => imp_congr_left Json.text?_eq_some_iff
  | flag =>
      show v.flag? = none ↔ _
      rw [Option.eq_none_iff_forall_not_mem]
      exact forall_congr' fun b => not_congr Json.flag?_eq_some_iff

theorem Kind.read?_null (k : Kind) : k.read? .null = none := by
  cases k <;> rfl

/-- The fields of a task. -/
inductive Field where
  | id
  | name
  | cronSchedule
  | actionName
  | actionFunction
  | actionConfiguration
  | timeout
  | nextExecution
  | enabled
  | immediate
  | blackoutStart
  | blackoutEnd

namespace Field

/-- The key under which an object gives the field. -/
def key : Field → String
  | id => "id"
  | name => "name"
  | cronSchedule => "cron_schedule"
  | actionName => "action_name"
  | actionFunction => "action_function"
  | actionConfiguration => "action_configuration"
  | timeout => "timeout"
  | nextExecution => "next_execution"
  | enabled => "enabled"
  | immediate => "immediate"
  | blackoutStart => "blackout_start"
  | blackoutEnd => "blackout_end"

/-- What is expected under the key. -/
def kind : Field → Kind
  | id | timeout => .integer
  | name | cronSchedule | actionName | actionFunction | actionConfiguration => .text
  | nextExecution | blackoutStart | blackoutEnd => .moment
  | enabled | immediate => .flag

/-- What the field of a task holds: only an id and a moment can be absent. -/
def Value : Field → Type
  | id => Option Int64
  | timeout => Int64
  | name | cronSchedule | actionName | actionFunction | actionConfiguration => String
  | nextExecution | blackoutStart | blackoutEnd => Option Timestamp
  | enabled | immediate => Bool

/-- The field without a value of use. -/
def blank : (f : Field) → f.Value
  | id => (none : Option Int64)
  | timeout => (0 : Int64)
  | name | cronSchedule | actionName | actionFunction | actionConfiguration => ""
  | nextExecution | blackoutStart | blackoutEnd => (none : Option Timestamp)
  | enabled => true
  | immediate => false

/-- The field as a value gives it, if there is one of use. -/
def fill : (f : Field) → Option f.kind.Content → f.Value
  | id, n => n
  | timeout, n => n.getD (0 : Int64)
  | name, s | cronSchedule, s | actionName, s | actionFunction, s | actionConfiguration, s =>
      s.getD ""
  | nextExecution, t | blackoutStart, t | blackoutEnd, t => t
  | enabled, b => b.getD true
  | immediate, b => b.getD false

theorem fill_none (f : Field) : f.fill none = f.blank := by
  cases f <;> rfl

end Field

/-- A field of a task. -/
def get (t : Task) : (f : Field) → f.Value
  | .id => t.id
  | .name => t.name
  | .cronSchedule => t.cronSchedule
  | .actionName => t.actionName
  | .actionFunction => t.actionFunction
  | .actionConfiguration => t.actionConfiguration
  | .timeout => t.timeout
  | .nextExecution => t.nextExecution
  | .enabled => t.enabled
  | .immediate => t.immediate
  | .blackoutStart => t.blackoutStart
  | .blackoutEnd => t.blackoutEnd

/-- A task is its fields. -/
@[ext] theorem eq_of_get_eq {t u : Task} (h : ∀ f, t.get f = u.get f) : t = u := by
  cases t
  cases u
  rw [mk.injEq]
  exact ⟨h .id, h .name, h .cronSchedule, h .actionName, h .actionFunction,
    h .actionConfiguration, h .timeout, h .nextExecution, h .enabled, h .immediate,
    h .blackoutStart, h .blackoutEnd⟩

/-- **EACH FIELD** is decided by the last value under its key. -/
theorem get_ofMembers (ms : Members) (f : Field) :
    (ofMembers ms).get f = f.fill ((lookup f.key ms).bind f.kind.read?) := by
  cases f <;> rfl

/-- Without a value of use, a field is blank. -/
theorem get_ofMembers_of_unusable {ms : Members} {f : Field}
    (h : ∀ v, lookup f.key ms = some v → f.kind.Unusable v) :
    (ofMembers ms).get f = f.blank := by
  have hnone : (lookup f.key ms).bind f.kind.read? = none :=
    Option.bind_eq_none_iff.mpr fun v hv => Kind.read?_eq_none_iff.mpr (h v hv)
  rw [get_ofMembers, hnone, f.fill_none]

/-! ## Edits of an object -/

/-- An object edited at some keys: their values are replaced or left out, one by one, and
members are put in under keys that no field has. -/
inductive Edits (keys : List String) : Members → Members → Prop
  | nil : Edits keys [] []
  | keep (m : String × Json) {ms others : Members} :
      Edits keys ms others → Edits keys (m :: ms) (m :: others)
  | replace {key : String} (hkey : key ∈ keys) (v w : Json) {ms others : Members} :
      Edits keys ms others → Edits keys ((key, v) :: ms) ((key, w) :: others)
  | delete {key : String} (hkey : key ∈ keys) (v : Json) {ms others : Members} :
      Edits keys ms others → Edits keys ((key, v) :: ms) others
  | add {key : String} (hkey : ∀ f : Field, f.key ≠ key) (v : Json) {ms others : Members} :
      Edits keys ms others → Edits keys ms ((key, v) :: others)

variable {keys : List String} {ms others : Members}

/-- The members of every other field stay as they are. -/
theorem Edits.under_eq (h : Edits keys ms others) {f : Field} (hf : f.key ∉ keys) :
    under f.key others = under f.key ms := by
  have hne {key : String} (hkey : key ∈ keys) : key ≠ f.key := fun heq => hf (heq ▸ hkey)
  induction h with
  | nil => rfl
  | keep m _ ih => rw [under_cons, under_cons, ih]
  | replace hkey v w _ ih => rw [under_cons_of_ne (hne hkey), ih, under_cons_of_ne (hne hkey)]
  | delete hkey v _ ih => rw [ih, under_cons_of_ne (hne hkey)]
  | add hkey v _ ih => rw [under_cons_of_ne (hkey f).symm, ih]

/-- **EVERY OTHER FIELD** of the task stays as it is. -/
theorem Edits.get_eq (h : Edits keys ms others) {f : Field} (hf : f.key ∉ keys) :
    (ofMembers others).get f = (ofMembers ms).get f := by
  rw [get_ofMembers, get_ofMembers, lookup_eq_getLast?, h.under_eq hf, ← lookup_eq_getLast?]

theorem edits_without (keys : List String) (ms : Members) : Edits keys ms (without keys ms) := by
  induction ms with
  | nil => exact .nil
  | cons m ms ih =>
      rw [without, List.filter_cons]
      split
      · exact .keep m ih
      · next hm => exact .delete (by simpa using hm) m.2 ih

theorem edits_nulled (keys : List String) (ms : Members) : Edits keys ms (nulled keys ms) := by
  induction ms with
  | nil => exact .nil
  | cons m ms ih =>
      rw [nulled, List.map_cons]
      split
      · next hm => exact .replace hm m.2 .null ih
      · exact .keep m ih

theorem get_ofMembers_without {f : Field} (hf : f.key ∈ keys) :
    (ofMembers (without keys ms)).get f = f.blank := by
  rw [get_ofMembers, Json.lookup_without hf, Option.bind_none, f.fill_none]

/-- Values of no use are as good as none. -/
theorem ofMembers_without
    (h : ∀ f : Field, f.key ∈ keys → ∀ v, lookup f.key ms = some v → f.kind.Unusable v) :
    ofMembers (without keys ms) = ofMembers ms := by
  ext f
  by_cases hf : f.key ∈ keys
  · rw [get_ofMembers_of_unusable (h f hf), get_ofMembers_without hf]
  · exact (edits_without keys ms).get_eq hf

/-- And so is `null`, which no kind has a use for. -/
theorem ofMembers_nulled (keys : List String) (ms : Members) :
    ofMembers (nulled keys ms) = ofMembers (without keys ms) := by
  ext f
  by_cases hf : f.key ∈ keys
  · rw [get_ofMembers_without hf, get_ofMembers_of_unusable]
    intro v hv
    rw [Json.lookup_nulled hf hv]
    exact Kind.read?_eq_none_iff.mp (f.kind.read?_null)
  · rw [(edits_nulled keys ms).get_eq hf, (edits_without keys ms).get_eq hf]

/-- **ONE BAD FIELD NEVER HARMS THE OTHERS.**  An object describes a task whatever its members
    are, and for any set of keys

    * whatever the values of these keys are replaced by, `null` or anything else, whether they
      are left out, and whatever is put in under keys that no field has, the fields of all
      other keys stay as they are;
    * where these keys are left out, or have the value `null`, their fields are blank: no id and
      no moment, empty texts, the timeout zero, enabled and not immediate;
    * where each of these keys has a value of no use for its field, or none, the task is the
      very one that is described without them. -/
theorem fields_stand_alone (ms : Members) (keys : List String) :
    ∃ task bare, ofJson? (.object ms) = some task
      ∧ ofJson? (.object (without keys ms)) = some bare
      ∧ ofJson? (.object (nulled keys ms)) = some bare
      ∧ (∀ others, Edits keys ms others → ∃ edited, ofJson? (.object others) = some edited
        ∧ ∀ f : Field, f.key ∉ keys → edited.get f = task.get f)
      ∧ (∀ f : Field, bare.get f = if f.key ∈ keys then f.blank else task.get f)
      ∧ ((∀ f : Field, f.key ∈ keys → ∀ v, lookup f.key ms = some v → f.kind.Unusable v) →
        task = bare) := by
  refine ⟨ofMembers ms, ofMembers (without keys ms), rfl, rfl,
    congrArg some (ofMembers_nulled keys ms), ?_, ?_, ?_⟩
  · intro others hedits
    exact ⟨ofMembers others, rfl, fun f hf => hedits.get_eq hf⟩
  · intro f
    split
    · next hf => exact get_ofMembers_without hf
    · next hf => exact (edits_without keys ms).get_eq hf
  · exact fun hunusable => (ofMembers_without hunusable).symm

/-- An object with a value of no use for each kind of field. -/
def mistyped : Members :=
  [("id", .string "twelve"), ("name", .ofInt 7), ("timeout", .string "9223372036854775808"),
   ("next_execution", .string "soon"), ("enabled", .string "no"), ("action_name", .string "run")]

/-- It describes a blank task, but for the one text that it gives. -/
theorem fields_stand_alone_mistyped :
    ofJson? (.object mistyped) = some { actionName := "run" } := by
  obtain ⟨task, bare, htask, hbare, -, -, -, hunusable⟩ := fields_stand_alone mistyped
    ["id", "name", "timeout", "next_execution", "enabled"]
  have hnone : ∀ f : Field, f.key ∈ ["id", "name", "timeout", "next_execution", "enabled"] →
      (lookup f.key mistyped).bind f.kind.read? = none := by
    intro f hf
    cases f with
    | id | name | timeout | nextExecution | enabled => rfl
    | _ => exact absurd hf (by decide)
  rw [htask, hunusable, ← hbare]
  · rfl
  · intro f hf v hv
    exact Kind.read?_eq_none_iff.mp (Option.bind_eq_none_iff.mp (hnone f hf) v hv)

end Task

end TaskConsole
