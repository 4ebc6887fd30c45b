import TaskConsole.Proofs.Ledger

/-! # Reactions — what a step tells and begins

    Whatever a step makes the console want, it is of one form: a notice that the
    console tells by itself, if any, and then a request that begins, if any
    (`effects_eq`).  Which notice depends on the step alone; which request depends
    on the console as well:

    * a run or save that is refused is answered by an error, and begins nothing;
    * one that is accepted begins its request, and so does a refresh that is not
      skipped or put off, be it asked for, released by discovery or called for by an
      applied event.

    The rest of the session follows from the effects: the notice is told at once, and
    what begins becomes a ticket, which makes its request if that can be prepared. -/

namespace TaskConsole

/-! ## What an effect comes to -/

namespace Effect

/-- The ticket of an operation that begins. -/
def ticket? : Effect → Option Ticket
  | tell _ => none
  | .begin client op => some ⟨client, op⟩

/-- What is told at once. -/
def told : Effect → List ConsoleEvent
  | tell event => [event]
  | .begin _ _ => []

end Effect

namespace Session

theorem performAll_outstanding (s : Session) (effects : List Effect) :
    (s.performAll effects).1.outstanding
      = s.outstanding ++ effects.filterMap Effect.ticket? := by
  induction effects generalizing s with
  | nil => exact (List.append_nil _).symm
  | cons e rest ih =>
      rw [performAll_cons, ih]
      cases e with
      | tell event =>
          simp only [perform, tell]
          split <;> rfl
      | begin client op => exact List.append_assoc s.outstanding [⟨client, op⟩] _

/-- The requests that are made are those of the tickets. -/
theorem performAll_requests (s : Session) (effects : List Effect) :
    (s.performAll effects).2.requests
      = (effects.filterMap Effect.ticket?).filterMap (·.request?) := by
  induction effects generalizing s with
  | nil => rfl
  | cons e rest ih =>
      show (s.perform e).2.requests ++ ((s.perform e).1.performAll rest).2.requests = _
      rw [ih]
      cases e with
      | tell event =>
          simp only [perform, tell]
          split <;> rfl
      | begin client op =>
          show (Ticket.mk client op).request?.toList ++ _
            = (⟨client, op⟩ :: rest.filterMap Effect.ticket?).filterMap (·.request?)
          rw [List.filterMap_cons]
          cases (Ticket.mk client op).request? <;> rfl

/-- With a receiver, everything that is told is heard. -/
theorem performAll_events {s : Session} (h : s.receiving = true) (effects : List Effect) :
    (s.performAll effects).2.events = effects.flatMap Effect.told := by
  induction effects generalizing s with
  | nil => rfl
  | cons e rest ih =>
      show (s.perform e).2.events ++ ((s.perform e).1.performAll rest).2.events = _
      have hrest : (s.perform e).1.receiving = true := (s.perform_receiving e).trans h
      rw [ih hrest, List.flatMap_cons]
      congr 1
      cases e with
      | tell event => simp only [perform, tell, h, Effect.told, if_true]
      | begin client op => rfl

end Session

/-! ## What a step shows -/

namespace Session

/-- The event of a request that a step answers. -/
def answered (s : Session) : Step → List ConsoleEvent
  | .answer i d => (s.outstanding[i]?).toList.map (·.outcome d)
  | _ => []

theorem step_requests (s : Session) (a : Step) :
    (s.step a).2.requests
      = ((s.effects a).filterMap Effect.ticket?).filterMap (·.request?) := by
  cases a with
  | answer i d =>
      simp only [step, effects]
      cases s.outstanding[i]? with
      | none => rfl
      | some t =>
          simp only [tell]
          split <;> rfl
  | apply i =>
      simp only [step, effects]
      cases s.unapplied[i]? with
      | none => rfl
      | some event => exact performAll_requests _ _
  | closeReceiver => rfl
  | _ => exact performAll_requests _ _

/-- With a receiver, a step shows the answer that it brings and what its effects tell. -/
theorem step_events {s : Session} (h : s.receiving = true) (a : Step) :
    (s.step a).2.events = s.answered a ++ (s.effects a).flatMap Effect.told := by
  cases a with
  | answer i d =>
      simp only [step, answered, effects]
      cases s.outstanding[i]? with
      | none => rfl
      | some t =>
          simp only [tell, h, if_true]
          rfl
  | apply i =>
      simp only [step, answered, effects]
      cases s.unapplied[i]? with
      | none => rfl
      | some event =>
          refine performAll_events ?_ _
          exact h
  | closeReceiver => rfl
  | _ =>
      refine performAll_events ?_ _
      exact h

end Session

/-! ## What a step asks for -/

namespace Step

/-- The reason why a call of the operator is refused: a disabled task is not run, nor one
    that was never saved, and a task with a defect is not saved. -/
def refusal? : Step → Option String
  | runNow task =>
    if task.enabled then
      if task.id.isNone then some "Task is missing an ID" else none
    else some "Task is disabled"
  | save _ task => task.defect?.map (·.message)
  | _ => none

/-- The event that the console tells by itself. -/
def notice? : Step → Option ConsoleEvent
  | discovered (.serviceUrlChanged url) => some (.serviceUrlChanged url)
  | discovered (.error message) => some (.error message)
  | a => a.refusal?.map .error

end Step

/-- The operation whose request a step begins. -/
def Session.errand? (s : Session) : Step → Option Operation
  | .refresh => if s.console.canRefresh then some .fetch else none
  | .runNow task => if task.enabled then task.id.map .run else none
  | .save now task =>
    if task.defect?.isNone then some (.save (Console.scheduledFrom now task)) else none
  -- a list request that waits is released by an address
  | .discovered (.serviceUrlChanged url) =>
    if s.console.pendingRefresh && !s.console.loading && !Text.isBlankText url
    then some .fetch else none
  | .discovered (.error _) => none
  | .apply i =>
    if (s.unapplied[i]?).any (·.callsForRefresh) && s.console.canRefresh
    then some .fetch else none
  | .applyForeign event =>
    if event.callsForRefresh && s.console.canRefresh then some .fetch else none
  | .answer _ _ => none
  | .closeReceiver => none

/-- What calls for a refresh ends no list request. -/
theorem ConsoleEvent.settlesRefresh_of_callsForRefresh {event : ConsoleEvent}
    (h : event.callsForRefresh = true) : event.settlesRefresh = false := by
  cases event with
  | runResult v => rfl
  | saveResult r => rfl
  | _ => exact absurd h Bool.false_ne_true

namespace Console

theorem refresh_of_can {c : Console} (h : c.canRefresh = true) :
    c.refresh = ({ c with loading := true }, [.begin c.client .fetch]) := by
  rw [canRefresh, Bool.and_eq_true, Bool.not_eq_true'] at h
  rw [refresh, h.1, if_neg Bool.false_ne_true, Option.isNone_eq_false_iff.mpr h.2,
    if_neg Bool.false_ne_true]

/-- A refresh that begins nothing is skipped, or put off. -/
theorem refresh_of_cannot {c : Console} (h : c.canRefresh = false) :
    c.refresh = ({ c with pendingRefresh := c.pendingRefresh || !c.loading }, []) := by
  obtain ⟨client, loading, inFlight, pendingRefresh⟩ := c
  cases loading with
  | true =>
      show (_, []) = (_, [])
      rw [Bool.not_true, Bool.or_false]
  | false =>
      have hnone : client.baseUrl.isNone = true := Option.isSome_eq_false_iff.mp h
      rw [refresh, if_neg Bool.false_ne_true, if_pos hnone, Bool.not_false, Bool.or_true]

theorem refresh_effects (c : Console) :
    c.refresh.2 = if c.canRefresh then [.begin c.client .fetch] else [] := by
  cases h : c.canRefresh with
  | true => rw [refresh_of_can h]; rfl
  | false => rw [refresh_of_cannot h]; rfl

theorem refresh_client (c : Console) : c.refresh.1.client = c.client := by
  cases h : c.canRefresh with
  | true => rw [refresh_of_can h]
  | false => rw [refresh_of_cannot h]

/-- The books of a console after an event, before anything new begins. -/
def settledBy (c : Console) (event : ConsoleEvent) : Console :=
  { c with
    loading := c.loading && !event.settlesRefresh
    inFlight := if event.settlesOperation then c.inFlight - 1 else c.inFlight }

theorem apply_eq (c : Console) (event : ConsoleEvent) :
    c.apply event
      = if event.callsForRefresh then (c.settledBy event).refresh
        else (c.settledBy event, []) := rfl

/-- So the flag of a list request stands as before. -/
theorem settledBy_loading (c : Console) {event : ConsoleEvent}
    (h : event.callsForRefresh = true) : (c.settledBy event).loading = c.loading := by
  show (c.loading && !event.settlesRefresh) = c.loading
  rw [ConsoleEvent.settlesRefresh_of_callsForRefresh h, Bool.not_false, Bool.and_true]

/-- What applying an event comes to: a list request begins, is put off or is skipped, or
    nothing but the end of what the event settles. -/
inductive Applying (c : Console) (event : ConsoleEvent) : Console × List Effect → Prop where
  | begins : event.callsForRefresh = true → c.loading = false → c.client.baseUrl ≠ none →
      Applying c event ({ c.settledBy event with loading := true }, [.begin c.client .fetch])
  | defers : event.callsForRefresh = true → c.loading = false → c.client.baseUrl = none →
      Applying c event ({ c.settledBy event with pendingRefresh := true }, [])
  | skips : event.callsForRefresh = true → c.loading = true →
      Applying c event (c.settledBy event, [])
  | settles : event.callsForRefresh = false → Applying c event (c.settledBy event, [])

/-- **ONE APPLIED EVENT.** -/
theorem apply_applying (c : Console) (event : ConsoleEvent) :
    c.Applying event (c.apply event) := by
  rw [apply_eq]
  cases hcalls : event.callsForRefresh with
  | false => exact .settles hcalls
  | true =>
      -- what calls for a refresh leaves the flag as it is
      have hloading := c.settledBy_loading hcalls
      rw [if_pos rfl, refresh]
      split
      · rename_i hup
        exact .skips hcalls (hloading.symm.trans hup)
      · rename_i hdown
        have hl : c.loading = false := hloading.symm.trans (Bool.eq_false_iff.mpr hdown)
        split
        · rename_i hnone
          exact .defers hcalls hl (Option.isNone_iff_eq_none.mp hnone)
        · rename_i hsome
          exact .begins hcalls hl fun hnone => hsome (congrArg Option.isNone hnone)

/-- Only news from discovery changes the address. -/
theorem apply_client (c : Console) (event : ConsoleEvent) :
    (c.apply event).1.client = c.client := by
  have happlying := c.apply_applying event
  generalize c.apply event = after at happlying ⊢
  cases happlying <;> rfl

/-- What an applied event begins. -/
theorem apply_effects (c : Console) (event : ConsoleEvent) :
    (c.apply event).2
      = if event.callsForRefresh && c.canRefresh then [.begin c.client .fetch] else [] := by
  have happlying := c.apply_applying event
  generalize c.apply event = after at happlying ⊢
  cases happlying with
  | begins hcalls hl hb =>
      rw [hcalls, canRefresh, hl, Option.ne_none_iff_isSome.mp hb]
      rfl
  | defers hcalls hl hb =>
      rw [hcalls, canRefresh, hl, hb]
      rfl
  | skips hcalls hl =>
      rw [hcalls, canRefresh, hl]
      rfl
  | settles hcalls =>
      rw [hcalls]
      rfl

theorem isBlankText_retarget (c : Client) (url : String) :
    (c.retarget url).baseUrl.isSome = !Text.isBlankText url := by
  simp only [Client.retarget]
  cases Text.isBlankText url <;> rfl

end Console

/-- **ONE FORM OF STEP**: a step tells its notice, and then begins its request with the
    address that is known after it. -/
theorem Session.effects_eq (s : Session) (a : Step) :
    s.effects a = a.notice?.toList.map .tell
      ++ ((s.errand? a).map (.begin (s.take a).console.client)).toList := by
  cases a with
  | refresh =>
      simp only [effects, take, errand?, Console.refresh_effects, Console.refresh_client]
      split <;> rfl
  | runNow task =>
      simp only [effects, take, errand?, Step.notice?, Step.refusal?, Console.runNow]
      cases task.enabled with
      | false => rfl
      | true =>
          cases task.id with
          | none => rfl
          | some id => rfl
  | save now task =>
      simp only [effects, take, errand?, Step.notice?, Step.refusal?, Console.save]
      cases task.defect? with
      | none => rfl
      | some defect => rfl
  | discovered event =>
      cases event with
      | error message => rfl
      | serviceUrlChanged url =>
          simp only [effects, take, errand?, Step.notice?, Console.discovered]
          cases hp : s.console.pendingRefresh with
          | false => rfl
          | true =>
              simp only [if_true, Console.refresh_effects, Console.refresh_client,
                Console.canRefresh, Console.isBlankText_retarget, Bool.true_and]
              split <;> rfl
  | answer i d => rfl
  | apply i =>
      simp only [effects, take, errand?]
      cases s.unapplied[i]? with
      | none => rfl
      | some event =>
          simp only [Console.apply_effects, Console.apply_client, Option.any_some]
          split <;> rfl
  | applyForeign event =>
      simp only [effects, take, errand?, Console.apply_effects, Console.apply_client]
      split <;> rfl
  | closeReceiver => rfl

theorem Session.step_console (s : Session) (a : Step) :
    (s.step a).1.console = (s.take a).console := by
  rw [step_eq, performAll_console]

/-- A step makes one ticket at most: that of the request which it begins. -/
theorem Session.effects_tickets (s : Session) (a : Step) :
    (s.effects a).filterMap Effect.ticket?
      = ((s.errand? a).map (Ticket.mk (s.take a).console.client)).toList := by
  rw [effects_eq, List.filterMap_append]
  have hnotice : (a.notice?.toList.map Effect.tell).filterMap Effect.ticket? = [] := by
    cases a.notice? <;> rfl
  rw [hnotice, List.nil_append]
  cases s.errand? a <;> rfl

/-- A step makes the request that it begins, unless that cannot be prepared. -/
theorem Session.step_requests_eq (s : Session) (a : Step) :
    (s.step a).2.requests = ((s.errand? a).bind fun op =>
      ((s.step a).1.console.client.prepare op).toOption).toList := by
  rw [step_requests, effects_tickets, step_console]
  cases s.errand? a with
  | none => rfl
  | some op =>
      show [Ticket.mk (s.take a).console.client op].filterMap (·.request?)
        = (Ticket.mk (s.take a).console.client op).request?.toList
      rw [List.filterMap_cons]
      cases (Ticket.mk (s.take a).console.client op).request? <;> rfl

/-- A step tells its notice, and nothing else by itself. -/
theorem Session.effects_told (s : Session) (a : Step) :
    (s.effects a).flatMap Effect.told = a.notice?.toList := by
  rw [effects_eq, List.flatMap_append]
  have herrand : ((s.errand? a).map (Effect.begin (s.take a).console.client)).toList.flatMap
      Effect.told = [] := by
    cases s.errand? a <;> rfl
  rw [herrand, List.append_nil]
  cases a.notice? <;> rfl

/-! ## What the ledger enters -/

namespace Ledger

theorem begun_hear (l : Ledger) (receiving : Bool) (origin : Option Nat) :
    (l.hear receiving origin).begun = l.begun := by
  simp only [hear]
  split <;> rfl

theorem begun_enter (l : Ledger) (receiving : Bool) (e : Effect) :
    (l.enter receiving e).begun = l.begun ++ e.ticket?.toList := by
  cases e with
  | tell event =>
      rw [Effect.ticket?, Option.toList_none, List.append_nil]
      exact l.begun_hear receiving none
  | begin client op => rfl

theorem begun_enterAll (l : Ledger) (receiving : Bool) (effects : List Effect) :
    (l.enterAll receiving effects).begun
      = l.begun ++ effects.filterMap Effect.ticket? := by
  induction effects generalizing l with
  | nil => exact (List.append_nil _).symm
  | cons e rest ih =>
      show ((l.enter receiving e).enterAll receiving rest).begun = _
      rw [ih, begun_enter, List.append_assoc, List.filterMap_cons]
      cases e.ticket? <;> rfl

/-- What a step takes off the lists was begun before. -/
theorem begun_take (l : Ledger) (receiving : Bool) (a : Step) :
    (l.take receiving a).begun = l.begun := by
  cases a with
  | answer i d =>
      simp only [take]
      cases l.tickets[i]? with
      | none => rfl
      | some n => exact begun_hear _ receiving _
  | apply i =>
      simp only [take]
      cases l.origins[i]? with
      | none => rfl
      | some origin => rfl
  | _ => rfl

end Ledger

/-- **THE LEDGER ENTERS** the request that a step begins, with the address that is known
    after it. -/
theorem Chronicle.step_begun (k : Chronicle) (a : Step) :
    (k.step a).ledger.begun = k.ledger.begun
      ++ ((k.session.errand? a).map (Ticket.mk (k.step a).session.console.client)).toList := by
  have hclient : (k.step a).session.console = (k.session.take a).console :=
    k.session.step_console a
  show ((k.ledger.take _ a).enterAll _ (k.session.effects a)).begun = _
  rw [Ledger.begun_enterAll, Ledger.begun_take, Session.effects_tickets, hclient]

end TaskConsole
