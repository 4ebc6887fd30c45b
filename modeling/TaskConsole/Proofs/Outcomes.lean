import TaskConsole.Console.Basic
import TaskConsole.Proofs.Requests

/-! # Outcomes — every call of a client ends in one class of outcome

    Five things can go wrong with a call, and they are looked at in one order,
    whatever the call:

    * no address of a scheduler is known;
    * the task to update was never saved;
    * nothing can be sent to the address, or what was sent is lost on the way: no
      reply, half a reply, or a status of no success;
    * the body of a complete reply says something that the call does not understand;
    * the body of a reply to a list request is a message.

    Each class has its own condition (`Client.Ends`), and what a call returns is read
    off the condition that holds (`Client.carryOut_ends`). -/

namespace TaskConsole

/-! ## What a body says -/

namespace Json

theorem text?_eq_some_iff {v : Json} {s : String} : v.text? = some s ↔ v = .string s := by
  cases v with
  | string t =>
      constructor
      · intro h
        exact congrArg Json.string (Option.some.inj h)
      · rintro ⟨⟩
        rfl
  | _ => exact ⟨fun h => absurd h.symm (Option.some_ne_none s), fun h => by cases h⟩

theorem flag?_eq_some_iff {v : Json} {b : Bool} : v.flag? = some b ↔ v = .bool b := by
  cases v with
  | bool c =>
      constructor
      · intro h
        exact congrArg Json.bool (Option.some.inj h)
      · rintro ⟨⟩
        rfl
  | _ => exact ⟨fun h => absurd h.symm (Option.some_ne_none b), fun h => by cases h⟩

end Json

/-- A body states a verdict: it is an object with a flag `success` and a text `message`,
    whatever else is in it. -/
def States (body : List UInt8) (v : Verdict) : Prop :=
  ∃ ms, Json.parse? body = some (.object ms)
    ∧ Json.lookup "success" ms = some (.bool v.success)
    ∧ Json.lookup "message" ms = some (.string v.message)

/-- A body complains: it is an object with a text `message` that is not empty, be there a
    flag `success` or not. -/
def Complains (body : List UInt8) (text : String) : Prop :=
  ∃ ms, Json.parse? body = some (.object ms)
    ∧ Json.lookup "message" ms = some (.string text) ∧ text ≠ ""

/-- A body lists items: it is an array. -/
def Lists (body : List UInt8) (items : List Json) : Prop :=
  Json.parse? body = some (.array items)

theorem States.unique {body : List UInt8} {v w : Verdict} (hv : States body v)
    (hw : States body w) : v = w := by
  obtain ⟨ms, hms, hsv, hmv⟩ := hv
  obtain ⟨ms', hms', hsw, hmw⟩ := hw
  cases hms.symm.trans hms'
  obtain ⟨success, message⟩ := v
  cases hsv.symm.trans hsw
  cases hmv.symm.trans hmw
  rfl

theorem Complains.unique {body : List UInt8} {text other : String}
    (h : Complains body text) (ho : Complains body other) : text = other := by
  obtain ⟨ms, hms, hm, -⟩ := h
  obtain ⟨ms', hms', hm', -⟩ := ho
  cases hms.symm.trans hms'
  cases hm.symm.trans hm'
  rfl

theorem Lists.unique {body : List UInt8} {items others : List Json}
    (h : Lists body items) (ho : Lists body others) : items = others := by
  cases Option.some.inj (Eq.trans (Eq.symm h) ho)
  rfl

theorem Lists.not_complains {body : List UInt8} {items : List Json} (h : Lists body items)
    (text : String) : ¬ Complains body text := by
  rintro ⟨ms, hms, -⟩
  cases Option.some.inj (Eq.trans (Eq.symm h) hms)

theorem verdictOf?_eq_some_iff {ms : Json.Members} {v : Verdict} :
    verdictOf? ms = some v ↔ Json.lookup "success" ms = some (.bool v.success)
      ∧ Json.lookup "message" ms = some (.string v.message) := by
  constructor
  · intro h
    obtain ⟨success, hs, h⟩ := Option.bind_eq_some_iff.mp h
    obtain ⟨message, hm, h⟩ := Option.bind_eq_some_iff.mp h
    obtain ⟨j, hj, hflag⟩ := Option.bind_eq_some_iff.mp hs
    obtain ⟨k, hk, htext⟩ := Option.bind_eq_some_iff.mp hm
    rw [Json.flag?_eq_some_iff] at hflag
    rw [Json.text?_eq_some_iff] at htext
    cases h
    exact ⟨hflag ▸ hj, htext ▸ hk⟩
  · rintro ⟨hs, hm⟩
    rw [verdictOf?, hs, hm]
    rfl

theorem messageOf?_eq_some_iff {ms : Json.Members} {text : String} :
    messageOf? ms = some text
      ↔ Json.lookup "message" ms = some (.string text) ∧ text ≠ "" := by
  rw [messageOf?, Option.filter_eq_some_iff, Option.bind_eq_some_iff, decide_eq_true_iff]
  refine and_congr_left fun _ => ?_
  constructor
  · rintro ⟨j, hj, htext⟩
    rw [hj, Json.text?_eq_some_iff.mp htext]
  · intro h
    exact ⟨_, h, rfl⟩

/-! ## Calls and their answers -/

/-- The calls of a client. -/
inductive Call where
  | fetch
  | run (id : Int64)
  | create (task : Task)
  | update (task : Task)
  | save (task : Task)

/-- What a call that succeeds returns. -/
inductive Answer where
  | tasks (tasks : List Task)
  | verdict (v : Verdict)
  | saved (result : SaveResult)

namespace Call

/-- The operation of a call: to save is to create or to update. -/
def operation : Call → Operation
  | fetch => .fetch
  | run id => .run id
  | create task => .create task
  | update task => .update task
  | save task => .save task

/-- The call is an update of a task that was never saved. -/
def LacksId (call : Call) : Prop := ∃ task, call = .update task ∧ task.id = none

/-- What a verdict means to a call; a list request does not ask for one. -/
def answer? : Call → Verdict → Option Answer
  | fetch, _ => none
  | run _, v => some (.verdict v)
  | create _, v => some (.saved (v.saved true))
  | update _, v => some (.saved (v.saved false))
  | save task, v => some (.saved (v.saved task.id.isNone))

/-- A body is what a call asks for: a list of items, of which the objects are tasks, or
    else a verdict. -/
def Accepts (call : Call) (body : List UInt8) (answer : Answer) : Prop :=
  (call = .fetch ∧ ∃ items, Lists body items
      ∧ answer = .tasks (items.filterMap Task.ofJson?))
    ∨ ∃ v, States body v ∧ call.answer? v = some answer

/-- What a call makes of a body. -/
def read : Call → List UInt8 → Except Failure Answer
  | fetch, body => (ReplyBody.classify body).tasks.map .tasks
  | run _, body => (ReplyBody.classify body).theVerdict.map .verdict
  | create _, body => (ReplyBody.classify body).theVerdict.map fun v => .saved (v.saved true)
  | update _, body =>
    (ReplyBody.classify body).theVerdict.map fun v => .saved (v.saved false)
  | save task, body =>
    (ReplyBody.classify body).theVerdict.map fun v => .saved (v.saved task.id.isNone)

/-- The ways in which a call can understand a body. -/
inductive Reads (call : Call) (body : List UInt8) : Except Failure Answer → Prop where
  | accepted (answer : Answer) : call.Accepts body answer → Reads call body (.ok answer)
  | complaint (text : String) : call = .fetch → Complains body text →
      Reads call body (.error (.service text))
  | unexpected (text : String) : (∀ answer, ¬ call.Accepts body answer) →
      (call = .fetch → ∀ text, ¬ Complains body text) →
      Reads call body (.error (.unexpectedResponse text))

end Call

/-- A body is read as a verdict when it states one, and is unexpected else. -/
theorem ReplyBody.theVerdict_cases (body : List UInt8) :
    (∃ v, States body v ∧ (classify body).theVerdict = .ok v)
      ∨ ((∀ v, ¬ States body v) ∧ (classify body).theVerdict = .error .unexpected) := by
  have hobject {j : Json} (hp : Json.parse? body = some j) (hj : ∀ ms, j ≠ .object ms) :
      ∀ v, ¬ States body v := by
    rintro v ⟨ms, hms, -⟩
    exact hj ms (Option.some.inj (hp.symm.trans hms))
  rw [classify]
  cases hp : Json.parse? body with
  | none =>
      refine Or.inr ⟨?_, rfl⟩
      rintro v ⟨ms, hms, -⟩
      exact Option.some_ne_none _ (hms.symm.trans hp)
  | some j =>
      cases j with
      | object ms =>
          cases hv : verdictOf? ms with
          | some v =>
              refine Or.inl ⟨v, ⟨ms, hp, verdictOf?_eq_some_iff.mp hv⟩, ?_⟩
              simp only [ofJson, hv, theVerdict]
          | none =>
              refine Or.inr ⟨?_, ?_⟩
              · rintro v ⟨ms', hms', hstates⟩
                cases hp.symm.trans hms'
                rw [verdictOf?_eq_some_iff.mpr hstates] at hv
                exact Option.some_ne_none v hv
              · simp only [ofJson, hv]
                cases messageOf? ms <;> rfl
      | _ => exact Or.inr ⟨hobject hp (fun ms h => by cases h), rfl⟩

namespace Call

/-- **A LIST REQUEST** takes an array for a list, and a message for a complaint. -/
theorem fetch_reads (body : List UInt8) : fetch.Reads body (fetch.read body) := by
  have haccepts {answer : Answer} (h : fetch.Accepts body answer) :
      ∃ items, Lists body items ∧ answer = .tasks (items.filterMap Task.ofJson?) := by
    rcases h with ⟨-, h⟩ | ⟨v, -, hv⟩
    · exact h
    · exact absurd hv.symm (Option.some_ne_none answer)
  have hunexpected {text : String} (hlist : ∀ items, ¬ Lists body items)
      (hmessage : ∀ text, ¬ Complains body text) :
      fetch.Reads body (.error (.unexpectedResponse text)) := by
    refine .unexpected text ?_ fun _ => hmessage
    intro answer h
    obtain ⟨items, hitems, -⟩ := haccepts h
    exact hlist items hitems
  rw [read, ReplyBody.classify]
  cases hp : Json.parse? body with
  | none =>
      refine hunexpected ?_ ?_
      · intro items h
        exact Option.some_ne_none _ (h.symm.trans hp)
      · rintro text ⟨ms, hms, -⟩
        exact Option.some_ne_none _ (hms.symm.trans hp)
  | some j =>
      have hlist (hj : ∀ items, j ≠ .array items) (items : List Json) :
          ¬ Lists body items := fun h => hj items (Option.some.inj (hp.symm.trans h))
      have hmessage (hj : ∀ ms, j ≠ .object ms) (text : String) :
          ¬ Complains body text := by
        rintro ⟨ms, hms, -⟩
        exact hj ms (Option.some.inj (hp.symm.trans hms))
      cases j with
      | array items => exact .accepted _ (Or.inl ⟨rfl, items, hp, rfl⟩)
      | object ms =>
          -- the message decides, whether the object is a verdict or not
          have hcases : (ReplyBody.ofJson (.object ms)).tasks
              = (messageOf? ms).elim (.error .unexpected)
                  fun text => .error (.service text) := by
            simp only [ReplyBody.ofJson]
            cases hv : verdictOf? ms with
            | none => cases messageOf? ms <;> rfl
            | some v =>
                have hlookup := (verdictOf?_eq_some_iff.mp hv).2
                by_cases hm : v.message = ""
                · have hnone : messageOf? ms = none := by
                    rw [Option.eq_none_iff_forall_ne_some]
                    intro text htext
                    obtain ⟨ht, hne⟩ := messageOf?_eq_some_iff.mp htext
                    rw [hlookup, hm] at ht
                    cases ht
                    exact hne rfl
                  rw [hnone]
                  simp only [ReplyBody.tasks, if_pos hm, Option.elim_none]
                · rw [messageOf?_eq_some_iff.mpr ⟨hlookup, hm⟩]
                  simp only [ReplyBody.tasks, if_neg hm, Option.elim_some]
          show fetch.Reads body ((ReplyBody.ofJson (.object ms)).tasks.map .tasks)
          rw [hcases]
          cases hm : messageOf? ms with
          | some text => exact .complaint text rfl ⟨ms, hp, messageOf?_eq_some_iff.mp hm⟩
          | none =>
              refine hunexpected (hlist fun items h => by cases h) ?_
              rintro text ⟨ms', hms', hcomplains⟩
              cases hp.symm.trans hms'
              rw [messageOf?_eq_some_iff.mpr hcomplains] at hm
              exact Option.some_ne_none text hm
      | _ =>
          exact hunexpected (hlist fun items h => by cases h)
            (hmessage fun ms h => by cases h)

/-- **ANY OTHER CALL** takes a verdict for its answer, and nothing else. -/
theorem reads_of_answer {call : Call} {body : List UInt8} {f : Verdict → Answer}
    (hcall : call ≠ .fetch) (hanswer : ∀ v, call.answer? v = some (f v))
    (hread : call.read body = (ReplyBody.classify body).theVerdict.map f) :
    call.Reads body (call.read body) := by
  rw [hread]
  rcases ReplyBody.theVerdict_cases body with ⟨v, hv, hok⟩ | ⟨hno, herror⟩
  · rw [hok]
    exact .accepted (f v) (Or.inr ⟨v, hv, hanswer v⟩)
  · rw [herror]
    refine .unexpected _ ?_ fun h => absurd h hcall
    rintro answer (⟨h, -⟩ | ⟨v, hv, -⟩)
    · exact hcall h
    · exact hno v hv

theorem reads (call : Call) (body : List UInt8) : call.Reads body (call.read body) := by
  cases call with
  | fetch => exact fetch_reads body
  | run id => exact reads_of_answer (by exact nofun) (fun _ => rfl) rfl
  | create task => exact reads_of_answer (by exact nofun) (fun _ => rfl) rfl
  | update task => exact reads_of_answer (by exact nofun) (fun _ => rfl) rfl
  | save task => exact reads_of_answer (by exact nofun) (fun _ => rfl) rfl

/-- Only a list request takes an array, and only a verdict answers the others. -/
theorem Accepts.unique {call : Call} {body : List UInt8} {answer other : Answer}
    (h : call.Accepts body answer) (ho : call.Accepts body other) : answer = other := by
  rcases h with ⟨hf, items, hitems, rfl⟩ | ⟨v, hv, hanswer⟩
  · rcases ho with ⟨-, items', hitems', rfl⟩ | ⟨v, -, hother⟩
    · rw [hitems.unique hitems']
    · rw [hf] at hother
      exact absurd hother.symm (Option.some_ne_none other)
  · rcases ho with ⟨hf, -⟩ | ⟨v', hv', hother⟩
    · rw [hf] at hanswer
      exact absurd hanswer.symm (Option.some_ne_none answer)
    · rw [hv.unique hv'] at hanswer
      exact Option.some.inj (hanswer.symm.trans hother)

/-- A list request that has its list has no complaint. -/
theorem Accepts.not_complains {call : Call} {body : List UInt8} {answer : Answer}
    (h : call.Accepts body answer) (hcall : call = .fetch) (text : String) :
    ¬ Complains body text := by
  rcases h with ⟨-, items, hitems, -⟩ | ⟨v, -, hanswer⟩
  · exact hitems.not_complains text
  · rw [hcall] at hanswer
    exact absurd hanswer.symm (Option.some_ne_none answer)

theorem read_eq_ok_iff {call : Call} {body : List UInt8} {answer : Answer} :
    call.read body = .ok answer ↔ call.Accepts body answer := by
  have hreads := call.reads body
  constructor
  · intro h
    rw [h] at hreads
    cases hreads with
    | accepted answer haccepts => exact haccepts
  · intro h
    cases hr : call.read body with
    | ok other =>
        rw [hr] at hreads
        cases hreads with
        | accepted other hother => rw [h.unique hother]
    | error f =>
        rw [hr] at hreads
        cases hreads with
        | complaint text hcall htext => exact absurd htext (h.not_complains hcall text)
        | unexpected text hno _ => exact absurd h (hno answer)

theorem read_eq_service_iff {call : Call} {body : List UInt8} {text : String} :
    call.read body = .error (.service text) ↔ call = .fetch ∧ Complains body text := by
  have hreads := call.reads body
  constructor
  · intro h
    rw [h] at hreads
    cases hreads with
    | complaint text hcall htext => exact ⟨hcall, htext⟩
  · rintro ⟨hcall, htext⟩
    cases hr : call.read body with
    | ok answer =>
        rw [hr] at hreads
        cases hreads with
        | accepted answer haccepts => exact absurd htext (haccepts.not_complains hcall text)
    | error f =>
        rw [hr] at hreads
        cases hreads with
        | complaint other _ hother => rw [htext.unique hother]
        | unexpected _ _ hno => exact absurd htext (hno hcall text)

theorem read_eq_unexpected_iff {call : Call} {body : List UInt8} :
    (∃ text, call.read body = .error (.unexpectedResponse text))
      ↔ (∀ answer, ¬ call.Accepts body answer)
        ∧ (call = .fetch → ∀ text, ¬ Complains body text) := by
  have hreads := call.reads body
  constructor
  · rintro ⟨text, h⟩
    rw [h] at hreads
    cases hreads with
    | unexpected text haccepts hcomplains => exact ⟨haccepts, hcomplains⟩
  · rintro ⟨haccepts, hcomplains⟩
    cases hr : call.read body with
    | ok answer =>
        rw [hr] at hreads
        cases hreads with
        | accepted answer h => exact absurd h (haccepts answer)
    | error f =>
        rw [hr] at hreads
        cases hreads with
        | complaint text hcall htext => exact absurd htext (hcomplains hcall text)
        | unexpected text _ _ => exact ⟨text, rfl⟩

end Call

/-! ## What becomes of a call -/

/-- What was sent is lost: there is no reply, or half a one, or its status is no success. -/
def Delivery.IsLost : Delivery → Prop
  | closed => True
  | truncated => True
  | complete status _ => status < 200 ∨ 299 < status

/-- A delivery is lost, or it is a complete reply with a status of success. -/
theorem Delivery.payload_cases (url : Url) (d : Delivery) :
    (d.IsLost ∧ ∃ text, d.payload url = .error (.transport text))
      ∨ ∃ status body, d = .complete status body ∧ 200 ≤ status ∧ status ≤ 299
        ∧ d.payload url = .ok body := by
  cases d with
  | closed => exact Or.inl ⟨trivial, _, rfl⟩
  | truncated => exact Or.inl ⟨trivial, _, rfl⟩
  | complete status body =>
      by_cases hs : 200 ≤ status ∧ status ≤ 299
      · refine Or.inr ⟨status, body, rfl, hs.1, hs.2, ?_⟩
        rw [payload, if_pos]
        simp only [Status.isSuccess, Bool.and_eq_true, decide_eq_true_iff]
        exact hs
      · have hlost : status < 200 ∨ 299 < status := by omega
        refine Or.inl ⟨hlost, errorText body ("HTTP " ++ Status.line status), ?_⟩
        rw [payload, if_neg]
        simp only [Status.isSuccess, Bool.and_eq_true, decide_eq_true_iff]
        exact hs

namespace Client

/-- What a call returns over a network. -/
def carryOut (c : Client) (net : Network) : Call → Except Failure Answer
  | .fetch => (c.fetchTasks net).map .tasks
  | .run id => (c.requestRun net id).map .verdict
  | .create task => (c.createTask net task).map .saved
  | .update task => (c.updateTask net task).map .saved
  | .save task => (c.saveTask net task).map .saved

/-- The address is known, and nothing can be sent below it. -/
def CannotSend (c : Client) (op : Operation) : Prop :=
  ∃ base path, c.baseUrl = some base ∧ op.path? = some path
    ∧ ∀ url : Url, ¬ url.IsTargetOf (addressBelow base path)

/-- What a client sends for an operation is answered by a complete reply with a status of
    success. -/
def Receives (c : Client) (net : Network) (op : Operation) (body : List UInt8) : Prop :=
  ∃ request status, c.Makes op request ∧ net request = .complete status body
    ∧ 200 ≤ status ∧ status ≤ 299

/-- The ways in which a call can end. -/
inductive Ends (c : Client) (net : Network) (call : Call) : Except Failure Answer → Prop where
  | noBackend : c.baseUrl = none → Ends c net call (.error .noBackend)
  | missingId : c.baseUrl ≠ none → call.LacksId → Ends c net call (.error .missingId)
  | unsent (text : String) : c.CannotSend call.operation →
      Ends c net call (.error (.transport text))
  | lost (request : Request) (text : String) : c.Makes call.operation request →
      (net request).IsLost → Ends c net call (.error (.transport text))
  | replied (body : List UInt8) (result : Except Failure Answer) :
      c.Receives net call.operation body → call.Reads body result → Ends c net call result

/-- A call prepares its request, sends it and reads the body of the reply. -/
theorem carryOut_eq (c : Client) (net : Network) (call : Call) :
    c.carryOut net call = (c.prepare call.operation).bind fun request =>
      ((net request).payload request.url).bind call.read := by
  -- what is read is read alike, and a result says besides whether the task is new
  have hread {α : Type} (op : Operation) (reader : ReplyBody → Except Failure α)
      (f : α → Answer) (hcall : ∀ body, call.read body = (reader (.classify body)).map f) :
      ((c.prepare op).bind fun request => ((net request).payload request.url).bind
        fun body => reader (.classify body)).map f
      = (c.prepare op).bind fun request =>
        ((net request).payload request.url).bind call.read := by
    cases c.prepare op with
    | error f => rfl
    | ok request =>
        show (((net request).payload request.url).bind _).map f
          = ((net request).payload request.url).bind call.read
        cases (net request).payload request.url with
        | error f => rfl
        | ok body => exact (hcall body).symm
  have hsaved (op : Operation) (creating : Bool)
      (hcall : ∀ body, call.read body = (ReplyBody.classify body).theVerdict.map
        fun v => .saved (v.saved creating)) :
      ((do
        let request ← c.prepare op
        return (← (net request).verdict request.url).saved creating).map Answer.saved)
      = (c.prepare op).bind fun request =>
        ((net request).payload request.url).bind call.read := by
    rw [← hread op _ _ hcall]
    cases c.prepare op with
    | error f => rfl
    | ok request =>
        show (((net request).verdict request.url).bind _).map Answer.saved
          = ((net request).verdict request.url).map _
        cases (net request).verdict request.url <;> rfl
  cases call with
  | fetch => exact hread .fetch ReplyBody.tasks .tasks fun _ => rfl
  | run id => exact hread (.run id) ReplyBody.theVerdict .verdict fun _ => rfl
  | create task => exact hsaved (.create task) true fun _ => rfl
  | update task => exact hsaved (.update task) false fun _ => rfl
  | save task =>
      simp only [carryOut, saveTask, Call.operation, Operation.save]
      cases hid : task.id with
      | none =>
          refine hsaved (.create task) true fun body => ?_
          rw [Call.read, hid]
          rfl
      | some id =>
          refine hsaved (.update task) false fun body => ?_
          rw [Call.read, hid]
          rfl

/-! ## The conditions -/

/-- Only an update can lack an id, and so its path. -/
theorem path?_eq_none_iff (call : Call) : call.operation.path? = none ↔ call.LacksId := by
  constructor
  · intro h
    cases call with
    | update task => exact ⟨task, rfl, Option.map_eq_none_iff.mp h⟩
    | save task =>
        simp only [Call.operation, Operation.save] at h
        cases hid : task.id with
        | none =>
            rw [hid] at h
            exact absurd h (Option.some_ne_none _)
        | some id =>
            rw [hid] at h
            have hnone : task.id = none := Option.map_eq_none_iff.mp h
            exact absurd (hid.symm.trans hnone) (Option.some_ne_none _)
    | _ => exact absurd h (Option.some_ne_none _)
  · rintro ⟨task, rfl, hid⟩
    exact Option.map_eq_none_iff.mpr hid

/-- **EVERY CALL ENDS IN ONE OF FIVE WAYS.** -/
theorem carryOut_ends (c : Client) (net : Network) (call : Call) :
    c.Ends net call (c.carryOut net call) := by
  rw [carryOut_eq]
  have hcases := c.prepare_cases call.operation
  cases hp : c.prepare call.operation with
  | error f =>
      rw [hp] at hcases
      show c.Ends net call (.error f)
      cases hcases with
      | noBackend hbase => exact .noBackend hbase
      | missingId base hbase hpath =>
          refine .missingId ?_ ((path?_eq_none_iff call).mp hpath)
          rw [hbase]
          exact Option.some_ne_none base
      | unsendable base path text hbase hpath hno =>
          exact .unsent text ⟨base, path, hbase, hpath, hno⟩
  | ok request =>
      have hmakes := prepare_eq_ok_iff.mp hp
      show c.Ends net call (((net request).payload request.url).bind call.read)
      rcases (net request).payload_cases request.url with
        ⟨hlost, text, herror⟩ | ⟨status, body, hcomplete, hlo, hhi, hok⟩
      · rw [herror]
        exact .lost request text hmakes hlost
      · rw [hok]
        exact .replied body _ ⟨request, status, hmakes, hcomplete, hlo, hhi⟩ (call.reads body)

/-! ## What each condition leads to -/

theorem carryOut_of_none {c : Client} (h : c.baseUrl = none) (net : Network) (call : Call) :
    c.carryOut net call = .error .noBackend := by
  rw [carryOut_eq, prepare_of_none h]
  rfl

theorem carryOut_of_lacksId {c : Client} (h : c.baseUrl ≠ none) (net : Network) {call : Call}
    (hid : call.LacksId) : c.carryOut net call = .error .missingId := by
  obtain ⟨base, hbase⟩ := Option.ne_none_iff_exists'.mp h
  rw [carryOut_eq, prepare_of_no_path hbase ((path?_eq_none_iff call).mpr hid)]
  rfl

theorem carryOut_of_cannotSend {c : Client} {call : Call} (h : c.CannotSend call.operation)
    (net : Network) : ∃ text, c.carryOut net call = .error (.transport text) := by
  obtain ⟨base, path, hbase, hpath, hno⟩ := h
  rcases target_of_some hbase hpath with ⟨url, hurl, -⟩ | ⟨-, text, herror⟩
  · exact absurd hurl (hno url)
  · refine ⟨text, ?_⟩
    rw [carryOut_eq, prepare_of_some hbase hpath, herror]
    rfl

theorem carryOut_of_lost {c : Client} {net : Network} {call : Call} {request : Request}
    (h : c.Makes call.operation request) (hlost : (net request).IsLost) :
    ∃ text, c.carryOut net call = .error (.transport text) := by
  rcases (net request).payload_cases request.url with
    ⟨-, text, herror⟩ | ⟨status, body, hcomplete, hlo, hhi, -⟩
  · refine ⟨text, ?_⟩
    rw [carryOut_eq, prepare_eq_ok_iff.mpr h]
    show ((net request).payload request.url).bind call.read = _
    rw [herror]
    rfl
  · rw [hcomplete] at hlost
    have hlost' : status < 200 ∨ 299 < status := hlost
    omega

/-- After a complete reply with a status of success, the body decides. -/
theorem carryOut_of_receives {c : Client} {net : Network} {call : Call} {body : List UInt8}
    (h : c.Receives net call.operation body) : c.carryOut net call = call.read body := by
  obtain ⟨request, status, hmakes, hcomplete, hlo, hhi⟩ := h
  rw [carryOut_eq, prepare_eq_ok_iff.mpr hmakes]
  show ((net request).payload request.url).bind call.read = _
  rw [hcomplete, Delivery.payload, if_pos]
  · rfl
  · simp only [Status.isSuccess, Bool.and_eq_true, decide_eq_true_iff]
    exact ⟨hlo, hhi⟩

/-! ## The classes of outcomes -/

/-- Each class of outcomes has its own condition; the earlier ones go before the later. -/
structure Partitions (c : Client) (net : Network) (call : Call) : Prop where
  -- no address is known, whatever else is wrong
  noBackend : c.carryOut net call = .error .noBackend ↔ c.baseUrl = none
  -- with an address: the task to update was never saved
  missingId : c.carryOut net call = .error .missingId ↔ c.baseUrl ≠ none ∧ call.LacksId
  -- with an address and an id: nothing can be sent, or what was sent is lost
  transport : (∃ text, c.carryOut net call = .error (.transport text))
    ↔ c.CannotSend call.operation
      ∨ ∃ request, c.Makes call.operation request ∧ (net request).IsLost
  -- after a complete reply with a status of success: the body is what the call asks for
  answered : ∀ answer, c.carryOut net call = .ok answer
    ↔ ∃ body, c.Receives net call.operation body ∧ call.Accepts body answer
  -- or it is a message in place of a list
  service : ∀ text, c.carryOut net call = .error (.service text)
    ↔ call = .fetch ∧ ∃ body, c.Receives net call.operation body ∧ Complains body text
  -- or it is neither
  unexpected : (∃ text, c.carryOut net call = .error (.unexpectedResponse text))
    ↔ ∃ body, c.Receives net call.operation body ∧ (∀ answer, ¬ call.Accepts body answer)
      ∧ (call = .fetch → ∀ text, ¬ Complains body text)
  -- there is no other outcome
  never_bind : ∀ reason, c.carryOut net call ≠ .error (.bind reason)

/-- **THE CLASSES PARTITION ALL OUTCOMES**, for every client, every call and every reply. -/
theorem outcomes_partition (c : Client) (net : Network) (call : Call) :
    c.Partitions net call := by
  have hends := c.carryOut_ends net call
  refine ⟨?_, ?_, ?_, ?_, ?_, ?_, ?_⟩
  · refine ⟨fun h => ?_, fun h => carryOut_of_none h net call⟩
    rw [h] at hends
    cases hends with
    | noBackend hbase => exact hbase
    | replied body result _ hreads => cases hreads
  · refine ⟨fun h => ?_, fun h => carryOut_of_lacksId h.1 net h.2⟩
    rw [h] at hends
    cases hends with
    | missingId hbase hid => exact ⟨hbase, hid⟩
    | replied body result _ hreads => cases hreads
  · constructor
    · rintro ⟨text, h⟩
      rw [h] at hends
      cases hends with
      | unsent text hcannot => exact Or.inl hcannot
      | lost request text hmakes hlost => exact Or.inr ⟨request, hmakes, hlost⟩
      | replied body result _ hreads => cases hreads
    · rintro (hcannot | ⟨request, hmakes, hlost⟩)
      · exact carryOut_of_cannotSend hcannot net
      · exact carryOut_of_lost hmakes hlost
  · intro answer
    constructor
    · intro h
      rw [h] at hends
      cases hends with
      | replied body result hreceives hreads =>
          cases hreads with
          | accepted answer haccepts => exact ⟨body, hreceives, haccepts⟩
    · rintro ⟨body, hreceives, haccepts⟩
      rw [carryOut_of_receives hreceives, Call.read_eq_ok_iff]
      exact haccepts
  · intro text
    constructor
    · intro h
      rw [h] at hends
      cases hends with
      | replied body result hreceives hreads =>
          cases hreads with
          | complaint text hcall htext => exact ⟨hcall, body, hreceives, htext⟩
    · rintro ⟨hcall, body, hreceives, htext⟩
      rw [carryOut_of_receives hreceives, Call.read_eq_service_iff]
      exact ⟨hcall, htext⟩
  · constructor
    · rintro ⟨text, h⟩
      rw [h] at hends
      cases hends with
      | replied body result hreceives hreads =>
          cases hreads with
          | unexpected text haccepts hcomplains =>
              exact ⟨body, hreceives, haccepts, hcomplains⟩
    · rintro ⟨body, hreceives, hno⟩
      rw [carryOut_of_receives hreceives, Call.read_eq_unexpected_iff]
      exact hno
  · intro reason h
    rw [h] at hends
    cases hends with
    | replied body result _ hreads => cases hreads

end Client

end TaskConsole
