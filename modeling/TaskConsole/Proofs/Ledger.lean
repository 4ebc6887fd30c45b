import TaskConsole.Console.Session

/-! # Ledgers — every request of a session, by its number

    A session forgets a request once it is answered, and an event does not say
    which request it ends.  A LEDGER runs beside the session and remembers both:

    * every request that the console begins gets the next number, whether it can be
      prepared or not;
    * an outstanding ticket, and an event that waits, carry the number of their
      request; an event that no request ends in carries none;
    * a request is SETTLED when the event that carries its number is applied.

    The ledger only watches.  A `Chronicle` is a session with its ledger, and its
    session takes exactly the steps of the session alone (`run_session`). -/

namespace TaskConsole

/-! ## What ends a request -/

/-- The events in which an operation can end. -/
inductive Operation.EndsWith : Operation → ConsoleEvent → Prop where
  | fetched (tasks : List Task) : EndsWith .fetch (.tasksReplaced tasks)
  | fetchFailed (message : String) : EndsWith .fetch (.refreshFailed message)
  | ran (id : Int64) (v : Verdict) : EndsWith (.run id) (.runResult v)
  | runFailed (id : Int64) (message : String) :
      EndsWith (.run id) (.operationFailed message)
  | created (task : Task) (v : Verdict) :
      EndsWith (.create task) (.saveResult (v.saved true))
  | createFailed (task : Task) (message : String) :
      EndsWith (.create task) (.operationFailed message)
  | updated (task : Task) (v : Verdict) :
      EndsWith (.update task) (.saveResult (v.saved false))
  | updateFailed (task : Task) (message : String) :
      EndsWith (.update task) (.operationFailed message)

/-- The operation asks for the list. -/
def Operation.isFetch : Operation → Bool
  | fetch => true
  | _ => false

/-- A save is none, be the task new or old. -/
theorem Operation.isFetch_save (task : Task) : (Operation.save task).isFetch = false := by
  simp only [Operation.save]
  cases task.id with
  | none => rfl
  | some id => rfl

theorem Operation.failure_endsWith (op : Operation) (f : Failure) :
    op.EndsWith (op.failure f) := by
  cases op with
  | fetch => exact .fetchFailed f.message
  | run id => exact .runFailed id f.message
  | create task => exact .createFailed task f.message
  | update task => exact .updateFailed task f.message

/-- Whatever a request meets with, the event is one in which its operation ends. -/
theorem Operation.outcome_endsWith (op : Operation) (url : Url) (d : Delivery) :
    op.EndsWith (op.outcome url d) := by
  cases op with
  | fetch =>
      simp only [outcome]
      cases d.tasks url with
      | ok tasks => exact .fetched tasks
      | error f => exact failure_endsWith .fetch f
  | run id =>
      simp only [outcome]
      cases d.verdict url with
      | ok v => exact .ran id v
      | error f => exact failure_endsWith (.run id) f
  | create task =>
      simp only [outcome]
      cases d.verdict url with
      | ok v => exact .created task v
      | error f => exact failure_endsWith (.create task) f
  | update task =>
      simp only [outcome]
      cases d.verdict url with
      | ok v => exact .updated task v
      | error f => exact failure_endsWith (.update task) f

namespace Ticket

theorem prepared_of_sent {t : Ticket} {request : Request} (h : t.request? = some request) :
    t.prepared = .ok request := by
  simp only [request?] at h
  cases hprepared : t.prepared with
  | error f =>
      rw [hprepared] at h
      exact absurd h.symm (Option.some_ne_none request)
  | ok other =>
      rw [hprepared] at h
      exact congrArg Except.ok (Option.some.inj h)

/-- What a request meets with decides how its ticket ends. -/
theorem outcome_of_sent {t : Ticket} {request : Request} (h : t.request? = some request)
    (d : Delivery) : t.outcome d = t.operation.outcome request.url d := by
  simp only [outcome, prepared_of_sent h]

/-- Without a request, the reason why there is none does. -/
theorem outcome_of_unsent {t : Ticket} (h : t.request? = none) :
    ∃ f, t.prepared = .error f ∧ ∀ d, t.outcome d = t.operation.failure f := by
  simp only [request?] at h
  cases hprepared : t.prepared with
  | ok request =>
      rw [hprepared] at h
      exact absurd h (Option.some_ne_none request)
  | error f =>
      refine ⟨f, rfl, fun d => ?_⟩
      simp only [outcome, hprepared]

/-- So it ends in a failure, whatever it is for. -/
theorem fails_of_unsent {t : Ticket} (h : t.request? = none) (d : Delivery) :
    ∃ message, t.outcome d = .refreshFailed message ∨ t.outcome d = .operationFailed message := by
  obtain ⟨f, -, houtcome⟩ := outcome_of_unsent h
  refine ⟨f.message, ?_⟩
  rw [houtcome]
  cases t.operation with
  | fetch => exact Or.inl rfl
  | run id => exact Or.inr rfl
  | create task => exact Or.inr rfl
  | update task => exact Or.inr rfl

/-- A ticket ends in an event of its operation, with a request or without. -/
theorem outcome_endsWith (t : Ticket) (d : Delivery) : t.operation.EndsWith (t.outcome d) := by
  cases h : t.request? with
  | some request =>
      rw [outcome_of_sent h]
      exact t.operation.outcome_endsWith request.url d
  | none =>
      obtain ⟨f, -, houtcome⟩ := outcome_of_unsent h
      rw [houtcome]
      exact t.operation.failure_endsWith f

end Ticket

/-- The end of a list request settles that, and no run or save. -/
theorem Operation.EndsWith.settlesRefresh_eq {op : Operation} {e : ConsoleEvent}
    (h : op.EndsWith e) : e.settlesRefresh = op.isFetch := by
  cases h <;> rfl

theorem Operation.EndsWith.settlesOperation_eq {op : Operation} {e : ConsoleEvent}
    (h : op.EndsWith e) : e.settlesOperation = !op.isFetch := by
  cases h <;> rfl

/-- The event is told by an operation of the console itself. -/
def ConsoleEvent.isNotice : ConsoleEvent → Bool
  | serviceUrlChanged _ => true
  | error _ => true
  | _ => false

/-- No request ends in a notice. -/
theorem Operation.EndsWith.isNotice_eq {op : Operation} {e : ConsoleEvent}
    (h : op.EndsWith e) : e.isNotice = false := by
  cases h <;> rfl

theorem ConsoleEvent.settlesRefresh_of_isNotice {e : ConsoleEvent}
    (h : e.isNotice = true) : e.settlesRefresh = false := by
  cases e <;> first | rfl | exact nomatch h

theorem ConsoleEvent.settlesOperation_of_isNotice {e : ConsoleEvent}
    (h : e.isNotice = true) : e.settlesOperation = false := by
  cases e <;> first | rfl | exact nomatch h

/-! ## The ledger -/

/-- The requests of a session, by number. -/
structure Ledger where
  -- all requests so far; the number of one is its place here
  begun : List Ticket := []
  -- the numbers of the outstanding tickets, in their order
  tickets : List Nat := []
  -- for each event that waits, the number of the request that it ends, if any
  origins : List (Option Nat) := []
  -- the numbers of the requests whose last event was applied
  settled : List Nat := []

namespace Ledger

/-- An event is told; without a receiver, it never waits. -/
def hear (l : Ledger) (receiving : Bool) (origin : Option Nat) : Ledger :=
  if receiving then { l with origins := l.origins ++ [origin] } else l

/-- One effect: a notice, or a request that begins. -/
def enter (l : Ledger) (receiving : Bool) : Effect → Ledger
  | .tell _ => l.hear receiving none
  | .begin client op =>
    { l with
      begun := l.begun ++ [⟨client, op⟩]
      tickets := l.tickets ++ [l.begun.length] }

/-- Effects one after the other. -/
def enterAll (l : Ledger) (receiving : Bool) : List Effect → Ledger
  | [] => l
  | e :: rest => (l.enter receiving e).enterAll receiving rest

/-- What a step takes off the lists: an answered ticket becomes an event that waits, and
    an applied event settles its request. -/
def take (l : Ledger) (receiving : Bool) : Step → Ledger
  | .answer i _ =>
    match l.tickets[i]? with
    | some number =>
      { l with tickets := l.tickets.eraseIdx i }.hear receiving (some number)
    | none => l
  | .apply i =>
    match l.origins[i]? with
    | some origin =>
      { l with
        origins := l.origins.eraseIdx i
        settled := l.settled ++ origin.toList }
    | none => l
  | _ => l

end Ledger

/-! ## A step in two halves

    A step first takes something off the lists of the session or lets the console
    change its own books, and then carries out what the console wants done. -/

namespace Session

/-- What the console wants done in a step. -/
def effects (s : Session) : Step → List Effect
  | .discovered event => (s.console.discovered event).2
  | .refresh => s.console.refresh.2
  | .runNow task => (s.console.runNow task).2
  | .save now task => (s.console.save now task).2
  | .apply i =>
    match s.unapplied[i]? with
    | some event => (s.console.apply event).2
    | none => []
  | .applyForeign event => (s.console.apply event).2
  | .answer _ _ => []
  | .closeReceiver => []

/-- The session of a step before any effect is carried out. -/
def take (s : Session) : Step → Session
  | .discovered event => { s with console := (s.console.discovered event).1 }
  | .refresh => { s with console := s.console.refresh.1 }
  | .runNow task => { s with console := (s.console.runNow task).1 }
  | .save now task => { s with console := (s.console.save now task).1 }
  | .answer i d =>
    match s.outstanding[i]? with
    | some t => ({ s with outstanding := s.outstanding.eraseIdx i }.tell [t.outcome d]).1
    | none => s
  | .apply i =>
    match s.unapplied[i]? with
    | some event =>
      { s with
        unapplied := s.unapplied.eraseIdx i
        console := (s.console.apply event).1 }
    | none => s
  | .applyForeign event => { s with console := (s.console.apply event).1 }
  | .closeReceiver => { s with receiving := false }

/-- **A STEP IN TWO HALVES.** -/
theorem step_eq (s : Session) (a : Step) :
    (s.step a).1 = ((s.take a).performAll (s.effects a)).1 := by
  cases a with
  | answer i d =>
      simp only [step, take, effects]
      cases s.outstanding[i]? with
      | none => rfl
      | some t => rfl
  | apply i =>
      simp only [step, take, effects]
      cases s.unapplied[i]? with
      | none => rfl
      | some event => rfl
  | discovered event => rfl
  | refresh => rfl
  | runNow task => rfl
  | save now task => rfl
  | applyForeign event => rfl
  | closeReceiver => rfl

theorem performAll_cons (s : Session) (e : Effect) (rest : List Effect) :
    (s.performAll (e :: rest)).1 = ((s.perform e).1.performAll rest).1 := rfl

theorem tell_console (s : Session) (events : List ConsoleEvent) :
    (s.tell events).1.console = s.console := by
  simp only [tell]
  split <;> rfl

theorem tell_receiving (s : Session) (events : List ConsoleEvent) :
    (s.tell events).1.receiving = s.receiving := by
  simp only [tell]
  split <;> rfl

theorem perform_console (s : Session) (e : Effect) : (s.perform e).1.console = s.console := by
  cases e with
  | tell event => exact tell_console s [event]
  | begin client op => rfl

theorem perform_receiving (s : Session) (e : Effect) :
    (s.perform e).1.receiving = s.receiving := by
  cases e with
  | tell event => exact tell_receiving s [event]
  | begin client op => rfl

/-- Effects do not touch the console. -/
theorem performAll_console (s : Session) (effects : List Effect) :
    (s.performAll effects).1.console = s.console := by
  induction effects generalizing s with
  | nil => rfl
  | cons e rest ih => rw [performAll_cons, ih, perform_console]

end Session

/-! ## Chronicles -/

/-- A session with its ledger. -/
structure Chronicle where
  session : Session
  ledger : Ledger := {}

namespace Chronicle

/-- The start: a console with a client, nothing in flight. -/
def opened (c : Client) : Chronicle := { session := { console := { client := c } } }

/-- One thing happens, and the ledger takes note. -/
def step (k : Chronicle) (a : Step) : Chronicle :=
  { session := (k.session.step a).1
    ledger :=
      (k.ledger.take k.session.receiving a).enterAll (k.session.take a).receiving
        (k.session.effects a) }

/-- One thing after the other. -/
def run (k : Chronicle) : List Step → Chronicle
  | [] => k
  | a :: rest => (k.step a).run rest

/-- **THE LEDGER ONLY WATCHES**: beside it, the session runs as it does alone. -/
theorem run_session (k : Chronicle) (steps : List Step) :
    (k.run steps).session = (k.session.run steps).1 := by
  induction steps generalizing k with
  | nil => rfl
  | cons a rest ih =>
      show ((k.step a).run rest).session = ((k.session.step a).1.run rest).1
      exact ih (k.step a)

end Chronicle

end TaskConsole
