import TaskConsole.Dashboard.App
import TaskConsole.Proofs.ErrorTexts
import TaskConsole.Proofs.Provenance
import TaskConsole.Proofs.TaskLists

/-! # Blank messages — which failures are told with blanks only

    Every stage of a call that can fail has a text for it, and none of these texts is
    blank but one: the message that the scheduler itself gives, which is told as it is
    if it is not empty (`Complains`).  So a failure is told with a blank text exactly if
    the reply has such a message and is taken for a complaint (`Delivery.ComplainsTo`),
    and nothing else can do that, no status, no other body and no lost connection.

    The same goes for what the console tells of a failed request, whatever happened
    before (`Session.tells_blank_iff`), and so for what the dashboard shows. -/

namespace TaskConsole

open Text (isBlankText)

/-! ## What is said of a body -/

/-- Of a body nothing blank is told but the message of an object, unless the fallback is
    blank. -/
theorem errorText_blank_iff {body : List UInt8} {fallback text : String}
    (hfallback : isBlankText fallback = false) (htext : isBlankText text = true) :
    errorText body fallback = text ↔ Complains body text := by
  rw [errorText_eq_iff]
  constructor
  · intro hexplains
    cases hexplains with
    | message _ hcomplains => exact hcomplains
    | raw _ _ hraw hne =>
        obtain ⟨cs, -, htrims⟩ := hraw
        exact absurd (htrims.eq_empty htext) hne
    | fallback _ _ =>
        rw [htext] at hfallback
        exact absurd hfallback.symm Bool.false_ne_true
  · exact .message text

/-! ## Failures with a text -/

/-- Something fails, and this text is told of it. -/
def FailsWith {α : Type} (x : Except Failure α) (text : String) : Prop :=
  ∃ f, x = .error f ∧ f.message = text

section FailsWith

variable {α β : Type} {x : Except Failure α} {text : String}

@[simp] theorem failsWith_error_iff {f : Failure} :
    FailsWith (.error f : Except Failure α) text ↔ f.message = text := by
  constructor
  · rintro ⟨_, ⟨⟩, h⟩
    exact h
  · exact fun h => ⟨f, rfl, h⟩

@[simp] theorem not_failsWith_ok {a : α} : ¬ FailsWith (.ok a) text := by
  rintro ⟨_, ⟨⟩, _⟩

/-- A stage fails, or what comes after it does. -/
theorem failsWith_bind_iff {next : α → Except Failure β} :
    FailsWith (x.bind next) text ↔ FailsWith x text ∨ ∃ a, x = .ok a ∧ FailsWith (next a) text := by
  cases x with
  | error f => simp [Except.bind]
  | ok a => simp [Except.bind]

theorem failsWith_map_iff {f : α → β} : FailsWith (x.map f) text ↔ FailsWith x text := by
  cases x with
  | error e => simp [Except.map]
  | ok a => simp [Except.map]

end FailsWith

theorem Failure.message_transport (text : String) : (transport text).message = text := rfl

/-! ## The stages of a call -/

namespace Client

variable {c : Client} {f : Failure}

/-- A target that is refused is refused with a text. -/
theorem isBlankText_of_target {path : String} (h : c.target path = .error f) :
    isBlankText f.message = false := by
  cases hbase : c.baseUrl with
  | none =>
      rw [target_of_none hbase] at h
      cases h
      decide
  | some base =>
      have hok : c.endpoint path = .ok (String.ofList (joinPath base.toList path.toList)) := by
        rw [endpoint, hbase]
      simp only [target, hok, bind, Except.bind] at h
      split at h
      · split at h
        · cases h
        · cases h
          rw [Failure.message_transport]
          exact Text.isBlankText_append_left (Text.isBlankText_append_left rfl _) _
      · cases h
        decide

/-- And so is an operation. -/
theorem isBlankText_of_prepare {op : Operation} (h : c.prepare op = .error f) :
    isBlankText f.message = false := by
  cases hbase : c.baseUrl with
  | none =>
      rw [prepare_of_none hbase] at h
      cases h
      decide
  | some base =>
      cases hpath : op.path? with
      | none =>
          rw [prepare_of_no_path hbase hpath] at h
          cases h
          decide
      | some path =>
          rw [prepare_of_some hbase hpath] at h
          cases htarget : c.target path with
          | error g =>
              rw [htarget] at h
              cases h
              exact isBlankText_of_target htarget
          | ok url =>
              rw [htarget] at h
              cases h

end Client

/-- A line of a status begins with the name of the protocol. -/
theorem Status.isBlankText_line (status : Nat) : isBlankText ("HTTP " ++ line status) = false :=
  Text.isBlankText_append_left rfl _

theorem Status.isSuccess_eq_false_iff {status : Nat} :
    isSuccess status = false ↔ status < 200 ∨ 299 < status := by
  rw [← Bool.not_eq_true, isSuccess, Bool.and_eq_true, decide_eq_true_iff, decide_eq_true_iff]
  omega

/-- A delivery that brings no body is told with a text of the transport, which is not blank, or
    with what the body of a failed reply says. -/
theorem Delivery.payload_failsWith_iff {d : Delivery} {url : Url} {text : String}
    (htext : isBlankText text = true) :
    FailsWith (d.payload url) text ↔ ∃ status body, d = .complete status body
      ∧ Complains body text ∧ (status < 200 ∨ 299 < status) := by
  constructor
  · rintro ⟨f, hf, rfl⟩
    cases d with
    | closed =>
        cases hf
        rw [Failure.message_transport, Text.isBlankText_append_left
          (Text.isBlankText_append_left rfl _) _] at htext
        exact absurd htext Bool.false_ne_true
    | truncated =>
        cases hf
        exact absurd htext (by decide)
    | complete status body =>
        cases hs : Status.isSuccess status with
        | true =>
            rw [payload, if_pos hs] at hf
            cases hf
        | false =>
            rw [payload, hs, if_neg Bool.false_ne_true] at hf
            cases hf
            rw [Failure.message_transport] at htext ⊢
            exact ⟨status, body, rfl,
              (errorText_blank_iff (Status.isBlankText_line status) htext).mp rfl,
              Status.isSuccess_eq_false_iff.mp hs⟩
  · rintro ⟨status, body, rfl, hcomplains, hstatus⟩
    refine ⟨.transport text, ?_, rfl⟩
    rw [payload, Status.isSuccess_eq_false_iff.mpr hstatus, if_neg Bool.false_ne_true,
      (errorText_blank_iff (Status.isBlankText_line status) htext).mpr hcomplains]

/-- Of a body that is no list, nothing blank is told but its message. -/
theorem ReplyBody.tasks_of_failsWith {b : ReplyBody} {text : String}
    (htext : isBlankText text = true) (h : FailsWith b.tasks text) :
    b.tasks = .error (.service text) := by
  obtain ⟨f, hf, rfl⟩ := h
  cases b with
  | taskList items => cases hf
  | verdict v =>
      rw [tasks] at hf ⊢
      split at hf
      · cases hf
        exact absurd htext (by decide)
      · next hne =>
          cases hf
          rw [if_neg hne]
          rfl
  | message text =>
      cases hf
      rfl
  | _ =>
      cases hf
      exact absurd htext (by decide)

/-- And of one that is no verdict, nothing blank at all. -/
theorem ReplyBody.not_failsWith_theVerdict {b : ReplyBody} {text : String}
    (htext : isBlankText text = true) : ¬ FailsWith b.theVerdict text := by
  rintro ⟨f, hf, rfl⟩
  cases b with
  | verdict v => cases hf
  | _ =>
      cases hf
      exact absurd htext (by decide)

/-- So a call tells nothing blank of a body but a message in place of a list. -/
theorem Call.read_failsWith_iff {call : Call} {body : List UInt8} {text : String}
    (htext : isBlankText text = true) :
    FailsWith (call.read body) text ↔ call = .fetch ∧ Complains body text := by
  constructor
  · intro h
    cases call with
    | fetch =>
        have hservice := ReplyBody.tasks_of_failsWith htext (failsWith_map_iff.mp h)
        apply read_eq_service_iff.mp
        rw [read, hservice]
        rfl
    | _ =>
        exact absurd (failsWith_map_iff.mp h) (ReplyBody.not_failsWith_theVerdict htext)
  · intro h
    exact ⟨.service text, read_eq_service_iff.mpr h, rfl⟩

/-! ## Calls -/

/-- A reply is taken for a complaint: its body is an object with a message, and it answers a
    list request, or its status is no success. -/
def Delivery.ComplainsTo (d : Delivery) (op : Operation) (text : String) : Prop :=
  ∃ status body, d = .complete status body ∧ Complains body text
    ∧ (op = .fetch ∨ status < 200 ∨ 299 < status)

theorem Call.operation_eq_fetch_iff {call : Call} : call.operation = .fetch ↔ call = .fetch := by
  cases call with
  | fetch => exact Iff.intro (fun _ => rfl) fun _ => rfl
  | save task =>
      refine ⟨fun h => ?_, fun h => by cases h⟩
      rw [operation, Operation.save] at h
      cases hid : task.id with
      | none =>
          rw [hid] at h
          cases h
      | some id =>
          rw [hid] at h
          cases h
  | _ =>
      constructor
      · intro h
        cases h
      · intro h
        cases h

/-- **A DELIVERY** is told with a blank text exactly if it complains with it. -/
theorem Delivery.read_failsWith_iff {d : Delivery} {url : Url} {call : Call} {text : String}
    (htext : isBlankText text = true) :
    FailsWith ((d.payload url).bind call.read) text ↔ d.ComplainsTo call.operation text := by
  rw [failsWith_bind_iff, payload_failsWith_iff htext]
  constructor
  · rintro (⟨status, body, hd, hcomplains, hstatus⟩ | ⟨body, hbody, hread⟩)
    · exact ⟨status, body, hd, hcomplains, Or.inr hstatus⟩
    · obtain ⟨hcall, hcomplains⟩ := (Call.read_failsWith_iff htext).mp hread
      rcases d.payload_cases url with ⟨-, other, hlost⟩ | ⟨status, other, hd, -, -, hok⟩
      · rw [hlost] at hbody
        cases hbody
      · rw [hok] at hbody
        cases hbody
        exact ⟨status, body, hd, hcomplains, Or.inl (Call.operation_eq_fetch_iff.mpr hcall)⟩
  · rintro ⟨status, body, rfl, hcomplains, hwhy⟩
    by_cases hstatus : status < 200 ∨ 299 < status
    · exact Or.inl ⟨status, body, rfl, hcomplains, hstatus⟩
    · have hcall := Call.operation_eq_fetch_iff.mp (hwhy.resolve_right hstatus)
      have hok : Status.isSuccess status = true := by
        rw [← Bool.not_eq_false, Status.isSuccess_eq_false_iff]
        exact hstatus
      refine Or.inr ⟨body, ?_, (Call.read_failsWith_iff htext).mpr ⟨hcall, hcomplains⟩⟩
      rw [payload, if_pos hok]

/-- **A CALL** fails with a blank text exactly if the reply to it complains with it. -/
theorem Client.carryOut_failsWith_iff {c : Client} {net : Network} {call : Call} {text : String}
    (htext : isBlankText text = true) :
    FailsWith (c.carryOut net call) text ↔ ∃ request, c.Makes call.operation request
      ∧ (net request).ComplainsTo call.operation text := by
  rw [carryOut_eq, failsWith_bind_iff]
  constructor
  · rintro (⟨f, hf, rfl⟩ | ⟨request, hrequest, hfails⟩)
    · rw [isBlankText_of_prepare hf] at htext
      exact absurd htext Bool.false_ne_true
    · exact ⟨request, prepare_eq_ok_iff.mp hrequest, (Delivery.read_failsWith_iff htext).mp hfails⟩
  · rintro ⟨request, hmakes, hcomplains⟩
    exact Or.inr ⟨request, prepare_eq_ok_iff.mpr hmakes,
      (Delivery.read_failsWith_iff htext).mpr hcomplains⟩

/-! ## What the console tells -/

/-- The text of an event that tells of a failed request. -/
def ConsoleEvent.failure? : ConsoleEvent → Option String
  | refreshFailed message => some message
  | operationFailed message => some message
  | _ => none

namespace Operation

/-- The call of an operation. -/
def call : Operation → Call
  | fetch => .fetch
  | run id => .run id
  | create task => .create task
  | update task => .update task

theorem operation_call (op : Operation) : op.call.operation = op := by
  cases op <;> rfl

theorem failure?_failure (op : Operation) (f : Failure) :
    (op.failure f).failure? = some f.message := by
  cases op <;> rfl

/-- An outcome tells of a failure exactly if its delivery cannot be read, with the same text. -/
theorem failure?_outcome {op : Operation} {url : Url} {d : Delivery} {text : String} :
    (op.outcome url d).failure? = some text
      ↔ FailsWith ((d.payload url).bind op.call.read) text := by
  -- success tells of no failure, whatever it brings
  have hok {α : Type} (a : α) {event : ConsoleEvent} (hevent : event.failure? = none) :
      event.failure? = some text ↔ FailsWith (.ok a) text := by
    simp [hevent]
  have herror {α : Type} (f : Failure) : (op.failure f).failure? = some text
      ↔ FailsWith (.error f : Except Failure α) text := by
    rw [op.failure?_failure, failsWith_error_iff, Option.some.injEq]
  have hverdict (f : Verdict → Answer) : FailsWith ((d.payload url).bind fun body =>
      (ReplyBody.classify body).theVerdict.map f) text ↔ FailsWith (d.verdict url) text := by
    show _ ↔ FailsWith ((d.payload url).bind fun body => (ReplyBody.classify body).theVerdict) text
    simp only [failsWith_bind_iff, failsWith_map_iff]
  cases op with
  | fetch =>
      have htasks : FailsWith ((d.payload url).bind Call.fetch.read) text
          ↔ FailsWith (d.tasks url) text := by
        show FailsWith ((d.payload url).bind fun body => (ReplyBody.classify body).tasks.map _) text
          ↔ FailsWith ((d.payload url).bind fun body => (ReplyBody.classify body).tasks) text
        simp only [failsWith_bind_iff, failsWith_map_iff]
      refine Iff.trans ?_ htasks.symm
      simp only [outcome]
      cases d.tasks url with
      | ok tasks => exact hok tasks rfl
      | error f => exact herror f
  | _ =>
      refine Iff.trans ?_ (hverdict _).symm
      simp only [outcome]
      cases d.verdict url with
      | ok v => exact hok v rfl
      | error f => exact herror f

end Operation

/-- **A TICKET ENDS IN SOMETHING BLANK** exactly if its request is answered with a complaint
    that is. -/
theorem Ticket.failure?_outcome {t : Ticket} {d : Delivery} {text : String}
    (htext : isBlankText text = true) : (t.outcome d).failure? = some text
      ↔ t.request?.isSome = true ∧ d.ComplainsTo t.operation text := by
  cases hr : t.request? with
  | some request =>
      rw [outcome_of_sent hr, Operation.failure?_outcome,
        Delivery.read_failsWith_iff htext, Operation.operation_call]
      exact ⟨fun h => ⟨rfl, h⟩, fun h => h.2⟩
  | none =>
      -- what cannot be prepared says why
      obtain ⟨f, hprepared, houtcome⟩ := outcome_of_unsent hr
      rw [houtcome, Operation.failure?_failure]
      constructor
      · intro h
        rw [← Option.some.inj h, Client.isBlankText_of_prepare hprepared] at htext
        exact absurd htext Bool.false_ne_true
      · rintro ⟨hsome, -⟩
        exact absurd hsome Bool.false_ne_true

namespace Session

/-- A notice tells of no failed request. -/
theorem failure?_of_notice? {a : Step} {event : ConsoleEvent} (h : a.notice? = some event) :
    event.failure? = none := by
  have hnotice := Step.isNotice_of_notice? h
  cases event with
  | refreshFailed message => exact absurd hnotice Bool.false_ne_true
  | operationFailed message => exact absurd hnotice Bool.false_ne_true
  | _ => rfl

/-- **A STEP TELLS SOMETHING BLANK** of a failed request exactly if it brings a reply that
    complains so. -/
theorem tells_blank_iff {s : Session} {a : Step} {text : String}
    (htext : isBlankText text = true) :
    (∃ event ∈ (s.step a).2.events, event.failure? = some text)
      ↔ s.receiving = true ∧ ∃ i d t, a = .answer i d ∧ s.outstanding[i]? = some t
        ∧ t.request?.isSome = true ∧ d.ComplainsTo t.operation text := by
  constructor
  · rintro ⟨event, hevent, hfailure⟩
    cases hr : s.receiving with
    | false =>
        rw [step_unheard hr] at hevent
        exact absurd hevent List.not_mem_nil
    | true =>
        refine ⟨rfl, ?_⟩
        rw [step_events hr] at hevent
        rcases List.mem_append.mp hevent with hanswered | htold
        · cases a with
          | answer i d =>
              obtain ⟨t, ht, rfl⟩ := List.mem_map.mp hanswered
              exact ⟨i, d, t, rfl, Option.mem_toList.mp ht,
                (Ticket.failure?_outcome htext).mp hfailure⟩
          | _ => exact absurd hanswered List.not_mem_nil
        · rw [failure?_of_notice? (mem_told.mp htold)] at hfailure
          exact absurd hfailure.symm (Option.some_ne_none text)
  · rintro ⟨hr, i, d, t, rfl, ht, hcomplains⟩
    refine ⟨t.outcome d, ?_, (Ticket.failure?_outcome htext).mpr hcomplains⟩
    rw [step_events hr, answered, ht]
    exact List.mem_append_left _ List.mem_cons_self

end Session

/-- What is told of a failed request is what the dashboard shows. -/
theorem App.status_onEvent {event : ConsoleEvent} {text : String}
    (h : event.failure? = some text) (app : App) :
    (app.onEvent event).status = some { text, isError := true } := by
  cases event with
  | refreshFailed message =>
      cases h
      rfl
  | operationFailed message =>
      cases h
      rfl
  | _ => exact absurd h.symm (Option.some_ne_none text)

/-! ## The whole -/

/-- **WHICH FAILURES ARE BLANK.**  A call fails with a blank text exactly if its request is
    answered with an object that has this text for a message, which is not empty, and that is
    taken for a complaint.  No step of the console tells of a blank failure, whatever was done
    before, unless it brings such a reply; and what it tells is what the dashboard shows. -/
theorem blank_failures_complain (c : Client) {text : String} (htext : isBlankText text = true) :
    (∀ net call, FailsWith (c.carryOut net call) text
      ↔ ∃ request, c.Makes call.operation request
        ∧ (net request).ComplainsTo call.operation text)
    ∧ (∀ steps n reaction, ((Session.opened c).run steps).2[n]? = some reaction →
      ((∃ event ∈ reaction.events, event.failure? = some text)
        ↔ ∃ s i d t, s = ((Session.opened c).run (steps.take n)).1
          ∧ steps[n]? = some (.answer i d) ∧ s.receiving = true
          ∧ s.outstanding[i]? = some t ∧ t.request?.isSome = true
          ∧ d.ComplainsTo t.operation text))
    ∧ ∀ (app : App) event, event.failure? = some text →
      (app.onEvent event).status = some { text, isError := true } := by
  refine ⟨fun net call => Client.carryOut_failsWith_iff htext, ?_,
    fun app event h => App.status_onEvent h app⟩
  intro steps n reaction hreaction
  rw [Session.run_reactions, Option.map_eq_some_iff] at hreaction
  obtain ⟨a, ha, rfl⟩ := hreaction
  rw [Session.tells_blank_iff htext, ha]
  constructor
  · rintro ⟨hr, i, d, t, rfl, ht, hcomplains⟩
    exact ⟨_, i, d, t, rfl, rfl, hr, ht, hcomplains⟩
  · rintro ⟨_, i, d, t, rfl, hanswer, hr, ht, hcomplains⟩
    cases Option.some.inj hanswer
    exact ⟨hr, i, d, t, rfl, ht, hcomplains⟩

/-- An object whose message is a blank. -/
def blankEnvelope : List UInt8 := Utf8.encode "\x7b\"message\":\" \"\x7d"

/-- It complains with the blank. -/
theorem complains_blankEnvelope : Complains blankEnvelope " " := by
  have hfallback : isBlankText "-" = false := by decide
  exact (errorText_blank_iff hfallback rfl).mp (by decide +kernel)

/-- A list request that is answered with it. -/
def blankReply : List Step := [.refresh, .answer 0 (.complete 500 blankEnvelope)]

/-- The list request fails with the blank, and the step that brings the reply tells so. -/
theorem blank_failures_complain_blankEnvelope :
    isBlankText " " = true
      ∧ FailsWith (Client.tenNet.carryOut (fun _ => .complete 500 blankEnvelope) .fetch) " "
      ∧ ∃ reaction, ((Session.opened Client.tenNet).run blankReply).2[1]? = some reaction
        ∧ ∃ event ∈ reaction.events, event.failure? = some " " := by
  have hblank : isBlankText " " = true := rfl
  have hcomplains (op : Operation) : (Delivery.complete 500 blankEnvelope).ComplainsTo op " " :=
    ⟨500, blankEnvelope, rfl, complains_blankEnvelope, .inr (by decide)⟩
  have hprepares : (Ticket.mk Client.tenNet .fetch).request?.isSome = true := by decide +kernel
  obtain ⟨hcalls, hsteps, -⟩ := blank_failures_complain Client.tenNet hblank
  refine ⟨hblank, ?_, _, rfl, ?_⟩
  · obtain ⟨request, hrequest⟩ := Option.isSome_iff_exists.mp hprepares
    have hmakes := Client.prepare_eq_ok_iff.mp (Ticket.prepared_of_sent hrequest)
    exact (hcalls _ .fetch).mpr ⟨request, hmakes, hcomplains .fetch⟩
  · exact (hsteps blankReply 1 _ rfl).mpr
      ⟨_, 0, _, ⟨Client.tenNet, .fetch⟩, rfl, rfl, rfl, rfl, hprepares, hcomplains .fetch⟩

/-- **A BLANK FAILURE**: with this reply, a list request fails with a blank, be the status a
    success or none, and the line that the dashboard shows is blank. -/
theorem blankEnvelope_shows_nothing :
    FailsWith (Client.tenNet.fetchTasks fun _ => .complete 200 blankEnvelope) " "
      ∧ FailsWith (Client.tenNet.requestRun (fun _ => .complete 500 blankEnvelope) 7) " "
      ∧ ((((Session.opened Client.tenNet).run blankReply).2.flatMap (·.events)).foldl
          App.onEvent {}).status = some { text := " ", isError := true }
      ∧ isBlankText " " = true := by
  refine ⟨⟨.service " ", ?_, rfl⟩, ⟨.transport " ", ?_, rfl⟩, ?_, rfl⟩
  · decide +kernel
  · decide +kernel
  · decide +kernel

end TaskConsole
