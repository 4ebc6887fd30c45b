import TaskConsole.Proofs.Answers
import TaskConsole.Proofs.Requests

/-! # Provenance — what made an event, and what it can not overtake

    A docket says to which step an event is due.  Here is what made it, kept by every
    step:

    * an event is the notice of its step, or the end of the ticket that the step issued
      (`Source`);
    * an outstanding ticket is the one that its step issued, with the client that was
      known then (`Issues`);
    * no event is told before the notices of the steps up to its own (`Ordered`): a step
      tells its notice first, and what it begins is answered later.

    The events that the receiver of a session hears are those of the docket, up to the
    point at which it goes away (`Sound.heard`). -/

namespace TaskConsole

/-! ## What one step makes -/

namespace Session

/-- The start: a console with a client, nothing in flight. -/
def opened (c : Client) : Session := { console := { client := c } }

/-- The reaction to a step is that of the session to which the steps before it lead. -/
theorem run_reactions (s : Session) (steps : List Step) (n : Nat) :
    (s.run steps).2[n]?
      = (steps[n]?).map fun a => ((s.run (steps.take n)).1.step a).2 := by
  induction steps generalizing s n with
  | nil => rfl
  | cons a rest ih =>
      cases n with
      | zero => rfl
      | succ n => exact ih (s.step a).1 n

theorem run_append (s : Session) (steps more : List Step) :
    (s.run (steps ++ more)).1 = ((s.run steps).1.run more).1 := by
  induction steps generalizing s with
  | nil => rfl
  | cons a rest ih => exact ih (s.step a).1

/-- The session up to and with a step. -/
theorem run_take_succ (s : Session) {steps : List Step} {n : Nat} {a : Step}
    (h : steps[n]? = some a) :
    (s.run (steps.take (n + 1))).1 = ((s.run (steps.take n)).1.step a).1 := by
  rw [List.take_add_one, h, run_append]
  rfl

/-- News of an address changes the client. -/
theorem step_client_told (s : Session) (url : String) :
    (s.step (.discovered (.serviceUrlChanged url))).1.console.client
      = s.console.client.retarget url := by
  rw [step_console]
  show (s.console.discovered (.serviceUrlChanged url)).1.client = _
  simp only [Console.discovered]
  split
  · exact Console.refresh_client _
  · rfl

/-- Nothing else does. -/
theorem step_client (s : Session) {a : Step}
    (ha : ∀ url, a ≠ .discovered (.serviceUrlChanged url)) :
    (s.step a).1.console.client = s.console.client := by
  rw [step_console]
  cases a with
  | discovered event =>
      cases event with
      | serviceUrlChanged url => exact absurd rfl (ha url)
      | error message => rfl
  | refresh => exact s.console.refresh_client
  | runNow task =>
      simp only [take, Console.runNow]
      split
      · cases task.id <;> rfl
      · rfl
  | save now task =>
      simp only [take, Console.save]
      cases task.defect? <;> rfl
  | answer i d =>
      simp only [take]
      cases s.outstanding[i]? with
      | none => rfl
      | some t => exact congrArg Console.client (tell_console _ _)
  | apply i =>
      simp only [take]
      cases s.unapplied[i]? with
      | none => rfl
      | some event => exact s.console.apply_client event
  | applyForeign event => exact s.console.apply_client event
  | closeReceiver => rfl

/-- A step makes the request that the client known after it makes of what it begins. -/
theorem mem_requests {s : Session} {a : Step} {request : Request} :
    request ∈ (s.step a).2.requests ↔ ∃ op, s.errand? a = some op
      ∧ (s.step a).1.console.client.Makes op request := by
  rw [step_requests_eq, Option.mem_toList, Option.bind_eq_some_iff]
  refine exists_congr fun op => and_congr_right fun _ => ?_
  rw [← Client.prepare_eq_ok_iff]
  cases (s.step a).1.console.client.prepare op with
  | error f => exact ⟨fun h => absurd h.symm (Option.some_ne_none _), fun h => by cases h⟩
  | ok other => exact ⟨fun h => congrArg Except.ok (Option.some.inj h), fun h => by cases h; rfl⟩

/-- It makes no other. -/
theorem requests_of_mem {s : Session} {a : Step} {request : Request}
    (h : request ∈ (s.step a).2.requests) : (s.step a).2.requests = [request] := by
  rw [step_requests_eq] at h ⊢
  rw [Option.mem_toList.mp h]
  rfl

/-- A ticket of a step is for what the step begins, with the client known after it. -/
theorem mem_tickets {s : Session} {a : Step} {t : Ticket}
    (h : t ∈ (s.effects a).filterMap Effect.ticket?) :
    s.errand? a = some t.operation ∧ t.client = (s.step a).1.console.client := by
  rw [effects_tickets, Option.mem_toList, Option.map_eq_some_iff] at h
  obtain ⟨op, herrand, rfl⟩ := h
  exact ⟨herrand, congrArg Console.client (s.step_console a).symm⟩

/-- What a step tells by itself is its notice. -/
theorem mem_told {s : Session} {a : Step} {event : ConsoleEvent} :
    event ∈ (s.effects a).flatMap Effect.told ↔ a.notice? = some event := by
  rw [effects_told, Option.mem_toList]

end Session

/-- A notice of a step ends no request. -/
theorem Step.isNotice_of_notice? {a : Step} {event : ConsoleEvent}
    (h : a.notice? = some event) : event.isNotice = true := by
  have hrefused {b : Step} (hb : b.refusal?.map ConsoleEvent.error = some event) :
      event.isNotice = true := by
    obtain ⟨message, -, rfl⟩ := Option.map_eq_some_iff.mp hb
    rfl
  cases a with
  | discovered news =>
      cases news with
      | serviceUrlChanged url =>
          cases Option.some.inj h
          rfl
      | error message =>
          cases Option.some.inj h
          rfl
  | runNow task => exact hrefused h
  | save now task => exact hrefused h
  | _ => exact absurd h (Option.some_ne_none event).symm

namespace Docket

/-! ## What made an event -/

/-- A ticket was issued in a step: the step began its operation, with the client that is
    known after the step. -/
def Issues (k : Docket) (n : Nat) (t : Ticket) : Prop :=
  ∃ s a, k.calls[n]? = some (s, a) ∧ s.errand? a = some t.operation
    ∧ t.client = (s.step a).1.console.client

/-- What can have made an event that is due to a step. -/
inductive Source (k : Docket) (n : Nat) : ConsoleEvent → Prop where
  -- the step told it by itself
  | notice (s : Session) (a : Step) (event : ConsoleEvent) : k.calls[n]? = some (s, a) →
      a.notice? = some event → Source k n event
  -- the ticket of the step ended
  | ending (t : Ticket) (d : Delivery) : k.Issues n t → Source k n (t.outcome d)

/-- The docket knows what made every event, and what every ticket holds. -/
structure Traced (k : Docket) : Prop where
  tickets : List.Forall₂ k.Issues k.owed k.session.outstanding
  told : ∀ x ∈ k.told, k.Source x.1 x.2

variable {k : Docket}

/-- The steps so far keep their numbers when others are taken. -/
theorem call_later {l : Docket} (hl : k.calls <+: l.calls) {n : Nat}
    {call : Session × Step} (h : k.calls[n]? = some call) : l.calls[n]? = some call := by
  obtain ⟨more, hmore⟩ := hl
  rw [← hmore, List.getElem?_append_left (List.getElem?_eq_some_iff.mp h).1]
  exact h

theorem Issues.later {l : Docket} {n : Nat} {t : Ticket} (h : k.Issues n t)
    (hl : k.calls <+: l.calls) : l.Issues n t := by
  obtain ⟨s, a, hcall, hrest⟩ := h
  exact ⟨s, a, call_later hl hcall, hrest⟩

theorem Source.later {l : Docket} {n : Nat} {event : ConsoleEvent} (h : k.Source n event)
    (hl : k.calls <+: l.calls) : l.Source n event := by
  cases h with
  | notice s a event hcall hnotice =>
      exact .notice s a event (call_later hl hcall) hnotice
  | ending t d hissues => exact .ending t d (hissues.later hl)

/-- The request of a ticket is the one that its step shows, and the client of that step
    prepares it, or says why it cannot. -/
theorem Issues.requests {n : Nat} {t : Ticket} (h : k.Issues n t) :
    ∃ s a, k.calls[n]? = some (s, a) ∧ s.errand? a = some t.operation
      ∧ (s.step a).1.console.client.prepare t.operation = t.prepared
      ∧ (s.step a).2.requests = t.request?.toList := by
  obtain ⟨s, a, hcall, herrand, hclient⟩ := h
  refine ⟨s, a, hcall, herrand, ?_, ?_⟩
  · rw [← hclient]
    rfl
  · rw [Session.step_requests_eq, herrand, ← hclient]
    rfl

/-- **THE FIRST HALF OF A STEP** turns a ticket into the event that ends it. -/
theorem Traced.take (h : k.Traced) (a : Step) : (k.take a).Traced := by
  have hkeep {session : Session} (hout : session.outstanding = k.session.outstanding) :
      ({ k with session } : Docket).Traced := by
    refine ⟨?_, fun x hx => (h.told x hx).later List.prefix_rfl⟩
    rw [hout]
    exact h.tickets.imp fun n t ht => ht.later List.prefix_rfl
  cases a with
  | answer i d =>
      have hout := take_answer_outstanding k.session i d
      simp only [Docket.take]
      cases ht : k.session.outstanding[i]? with
      | none =>
          rw [forall₂_getElem?_none h.tickets ht]
          refine hkeep ?_
          rw [hout, List.eraseIdx_of_length_le (List.getElem?_eq_none_iff.mp ht)]
      | some t =>
          obtain ⟨n, hn, hissues⟩ := forall₂_getElem? h.tickets ht
          rw [hn]
          refine ⟨?_, ?_⟩
          · rw [hout]
            exact (forall₂_eraseIdx h.tickets i).imp fun m u hu => hu.later List.prefix_rfl
          · intro x hx
            rcases List.mem_append.mp hx with hx | hx
            · exact (h.told x hx).later List.prefix_rfl
            · rw [List.mem_singleton.mp hx]
              exact .ending t d (hissues.later List.prefix_rfl)
  | _ => exact hkeep (take_outstanding _ fun _ _ h => by cases h)

/-- **THE SECOND HALF** adds the ticket and the events of the step. -/
theorem Traced.enter (h : k.Traced) (found : Session) (a : Step) :
    (k.enter found a).Traced := by
  have hcalls : k.calls <+: (k.enter found a).calls := List.prefix_append _ _
  have hlast : (k.enter found a).calls[k.calls.length]? = some (found, a) :=
    List.getElem?_concat_length
  refine ⟨?_, ?_⟩
  · have hout := k.session.performAll_outstanding (found.effects a)
    show List.Forall₂ _ (k.owed ++ _) (k.session.performAll (found.effects a)).1.outstanding
    rw [hout]
    refine List.rel_append (h.tickets.imp fun n t ht => ht.later hcalls) ?_
    rw [List.forall₂_map_left_iff, List.forall₂_same]
    intro t ht
    exact ⟨found, a, hlast, Session.mem_tickets ht⟩
  · intro x hx
    rcases List.mem_append.mp hx with hx | hx
    · exact (h.told x hx).later hcalls
    · obtain ⟨event, hevent, rfl⟩ := List.mem_map.mp hx
      exact .notice found a event hlast (Session.mem_told.mp hevent)

theorem Traced.step (h : k.Traced) (a : Step) : (k.step a).Traced :=
  (h.take a).enter k.session a

/-- **A WHOLE RUN** is traced. -/
theorem Traced.run (h : k.Traced) (steps : List Step) : (k.run steps).Traced := by
  induction steps generalizing k with
  | nil => exact h
  | cons a rest ih => exact ih (h.step a)

theorem opened_traced (c : Client) : (opened c).Traced where
  tickets := .nil
  told := fun _ hx => absurd hx List.not_mem_nil

/-! ## What an event can not overtake -/

/-- The notices of all steps up to one are among some events. -/
def Notified (k : Docket) (n : Nat) (seen : List (Nat × ConsoleEvent)) : Prop :=
  ∀ m ≤ n, ∀ s a event, k.calls[m]? = some (s, a) → a.notice? = some event →
    (m, event) ∈ seen

/-- No event is told before the notices of the steps up to its own. -/
def Ordered (k : Docket) : Prop :=
  ∀ (j : Nat) x, k.told[j]? = some x → k.Notified x.1 (k.told.take (j + 1))

/-- What a step told by itself is due to it first. -/
theorem Settles.own_first {n : Nat} {own : List ConsoleEvent} {op : Option Operation}
    (h : k.Settles n own op) : own <+: k.eventsOf n := by
  cases h with
  | alone hevents _ => exact hevents ▸ List.prefix_rfl
  | waiting op hevents _ => exact hevents ▸ List.prefix_rfl
  | ended op event _ hevents _ => exact hevents ▸ List.prefix_append own [event]

/-- A step has told its notice. -/
theorem Sound.notice_told (h : k.Sound) {n : Nat} {s : Session} {a : Step}
    {event : ConsoleEvent} (hcall : k.calls[n]? = some (s, a))
    (hnotice : a.notice? = some event) : (n, event) ∈ k.told := by
  have hmem : event ∈ k.eventsOf n :=
    (h.settles n s a hcall).own_first.subset (Option.mem_toList.mpr hnotice)
  obtain ⟨x, hx, rfl⟩ := List.mem_map.mp hmem
  obtain ⟨hx, hn⟩ := List.mem_filter.mp hx
  rw [← of_decide_eq_true hn]
  exact hx

theorem Notified.mono {n : Nat} {seen more : List (Nat × ConsoleEvent)}
    (h : k.Notified n seen) (hsub : seen ⊆ more) : k.Notified n more :=
  fun m hm s a event hcall hnotice => hsub (h m hm s a event hcall hnotice)

/-- Events at the end of a docket keep it in order when they come after the notices that they
    must not overtake. -/
theorem Ordered.append (h : k.Ordered) {l : Docket} (more : List (Nat × ConsoleEvent))
    (htold : l.told = k.told ++ more)
    (hold : ∀ x ∈ k.told, ∀ seen, k.Notified x.1 seen → l.Notified x.1 seen)
    (hnew : ∀ (i : Nat) x, more[i]? = some x →
      l.Notified x.1 (k.told ++ more.take (i + 1))) : l.Ordered := by
  intro j x hx
  rw [htold] at hx ⊢
  by_cases hj : j < k.told.length
  · rw [List.getElem?_append_left hj] at hx
    rw [List.take_append_of_le_length hj]
    exact hold x (List.mem_of_getElem? hx) _ (h j x hx)
  · rw [Nat.not_lt] at hj
    rw [List.getElem?_append_right hj] at hx
    have hlen : j + 1 = k.told.length + (j - k.told.length + 1) := by omega
    rw [hlen, List.take_length_add_append]
    exact hnew _ x hx

theorem Ordered.take (h : k.Ordered) (hk : k.Sound) (a : Step) : (k.take a).Ordered := by
  have hcalls : (k.take a).calls = k.calls := take_calls k a
  have hsame {n : Nat} {seen : List (Nat × ConsoleEvent)} (hn : k.Notified n seen) :
      (k.take a).Notified n seen := by
    rw [Notified, hcalls]
    exact hn
  -- all notices were told before the answer
  have hall (n : Nat) : k.Notified n k.told :=
    fun _ _ _ _ _ hcall hnotice => hk.notice_told hcall hnotice
  have happend : ∃ more, (k.take a).told = k.told ++ more := by
    cases a with
    | answer i d =>
        simp only [Docket.take]
        split
        · exact ⟨_, rfl⟩
        · exact ⟨[], (List.append_nil _).symm⟩
    | _ => exact ⟨[], (List.append_nil _).symm⟩
  obtain ⟨more, hmore⟩ := happend
  refine h.append more hmore (fun x _ _ hn => hsame hn) ?_
  intro i x _
  exact (hsame (hall x.1)).mono (List.subset_append_left _ _)

theorem Ordered.enter (h : k.Ordered) (hk : k.Sound) (found : Session) (a : Step) :
    (k.enter found a).Ordered := by
  have hcalls : (k.enter found a).calls = k.calls ++ [(found, a)] := rfl
  refine h.append (((found.effects a).flatMap Effect.told).map (k.calls.length, ·))
    rfl ?_ ?_
  · intro x hx seen hn m hm s b event hcall hnotice
    have hlt : m < k.calls.length := Nat.lt_of_le_of_lt hm (hk.known x hx)
    rw [hcalls, List.getElem?_append_left hlt] at hcall
    exact hn m hm s b event hcall hnotice
  · intro i x hx m hm s b event hcall hnotice
    rw [hcalls] at hcall
    by_cases hlt : m < k.calls.length
    · -- an earlier step: its notice was told before this one
      rw [List.getElem?_append_left hlt] at hcall
      exact List.mem_append_left _ (hk.notice_told hcall hnotice)
    · -- the step itself: its notice comes first
      have hm' : m = k.calls.length := by
        have := (List.getElem?_eq_some_iff.mp hcall).1
        rw [List.length_append, List.length_singleton] at this
        omega
      subst hm'
      cases Option.some.inj (List.getElem?_concat_length.symm.trans hcall)
      refine List.mem_append_right _ ?_
      rw [Session.effects_told, hnotice]
      exact List.mem_cons_self

/-- **A WHOLE RUN** is told in order. -/
theorem Ordered.run (h : k.Ordered) (hk : k.Sound) (steps : List Step) :
    (k.run steps).Ordered := by
  induction steps generalizing k with
  | nil => exact h
  | cons a rest ih =>
      exact ih ((h.take hk a).enter (hk.take a) k.session a) (hk.step a)

theorem opened_ordered (c : Client) : (opened c).Ordered :=
  fun _ _ hx => absurd (List.mem_of_getElem? hx) List.not_mem_nil

end Docket

/-! ## What the receiver hears -/

namespace Session

theorem performAll_unheard {s : Session} (h : s.receiving = false)
    (effects : List Effect) : (s.performAll effects).2.events = [] := by
  induction effects generalizing s with
  | nil => rfl
  | cons e rest ih =>
      show (s.perform e).2.events ++ ((s.perform e).1.performAll rest).2.events = []
      rw [ih ((s.perform_receiving e).trans h), List.append_nil]
      cases e with
      | tell event => simp only [perform, tell, h, Bool.false_eq_true, if_false]
      | begin client op => rfl

/-- Without a receiver, no step is heard. -/
theorem step_unheard {s : Session} (h : s.receiving = false) (a : Step) :
    (s.step a).2.events = [] := by
  cases a with
  | answer i d =>
      simp only [step]
      cases s.outstanding[i]? with
      | none => rfl
      | some t => simp only [tell, h, Bool.false_eq_true, if_false]
  | apply i =>
      simp only [step]
      cases s.unapplied[i]? with
      | none => rfl
      | some event => exact performAll_unheard (by exact h) _
  | closeReceiver => rfl
  | _ => exact performAll_unheard (by exact h) _

/-- A receiver that went away does not come back. -/
theorem step_closed {s : Session} (h : s.receiving = false) (a : Step) :
    (s.step a).1.receiving = false := by
  by_cases ha : a = .closeReceiver
  · rw [ha]
    rfl
  · rw [step_receiving s ha]
    exact h

theorem run_unheard {s : Session} (h : s.receiving = false) (steps : List Step) :
    (s.run steps).2.flatMap (·.events) = [] := by
  induction steps generalizing s with
  | nil => rfl
  | cons a rest ih =>
      show ((s.step a).2 :: ((s.step a).1.run rest).2).flatMap _ = []
      rw [List.flatMap_cons, step_unheard h, ih (step_closed h a)]
      rfl

end Session

namespace Docket

variable {k : Docket}

/-- What was told stays told. -/
theorem step_told_grows (k : Docket) (a : Step) : k.told <+: (k.step a).told := by
  refine List.IsPrefix.trans ?_ (List.prefix_append (k.take a).told _)
  cases a with
  | answer i d =>
      simp only [Docket.take]
      split
      · exact List.prefix_append _ _
      · exact List.prefix_rfl
  | _ => exact List.prefix_rfl

theorem run_told_grows (k : Docket) (steps : List Step) : k.told <+: (k.run steps).told := by
  induction steps generalizing k with
  | nil => exact List.prefix_rfl
  | cons a rest ih => exact (k.step_told_grows a).trans (ih (k.step a))

/-- **WHAT IS HEARD** is what is told, up to where the receiver goes away. -/
theorem Sound.heard (h : k.Sound) (hr : k.session.receiving = true) (steps : List Step) :
    k.told.map (·.2) ++ (k.session.run steps).2.flatMap (·.events)
      <+: (k.run steps).told.map (·.2) := by
  induction steps generalizing k with
  | nil => exact (List.append_nil _).symm ▸ List.prefix_rfl
  | cons a rest ih =>
      show _ ++ ((k.session.step a).2 :: ((k.session.step a).1.run rest).2).flatMap _
        <+: ((k.step a).run rest).told.map _
      rw [List.flatMap_cons, ← List.append_assoc, ← h.step_told hr]
      cases hnext : (k.step a).session.receiving with
      | true =>
          rw [← step_session]
          exact ih (h.step a) hnext
      | false =>
          rw [← step_session, Session.run_unheard hnext, List.append_nil]
          exact ((k.step a).run_told_grows rest).map _

/-! ## The run beside a docket -/

/-- A docket follows a run from its start: it has the session of the run, and its steps by
    number, with what each of them found. -/
structure Follows (k : Docket) (c : Client) (steps : List Step) : Prop where
  session : k.session = ((Session.opened c).run steps).1
  calls : ∀ n : Nat, k.calls[n]? = (steps[n]?).map fun a =>
    (((Session.opened c).run (steps.take n)).1, a)
  -- the run shows what its steps show
  shown : ∀ n : Nat, ((Session.opened c).run steps).2[n]?
    = (k.calls[n]?).map fun call => (call.1.step call.2).2
  -- the docket tells what the receiver hears, in its order
  heard : ((Session.opened c).run steps).2.flatMap (·.events) <+: k.told.map (·.2)

/-- **A DOCKET FOLLOWS ITS RUN.** -/
theorem opened_follows (c : Client) (steps : List Step) :
    ((opened c).run steps).Follows c steps := by
  have hcalls (n : Nat) : ((opened c).run steps).calls[n]? = (steps[n]?).map fun a =>
      (((Session.opened c).run (steps.take n)).1, a) := by
    have h := run_calls (opened c) steps n
    rw [show (opened c).calls.length + n = n from Nat.zero_add n] at h
    exact h
  refine ⟨run_session _ steps, hcalls, ?_, (opened_sound c).heard rfl steps⟩
  intro n
  rw [hcalls, Session.run_reactions, Option.map_map]
  rfl

/-- A step of a run begins with what the steps before it lead to. -/
theorem Follows.call {c : Client} {steps : List Step} (h : k.Follows c steps) {n : Nat}
    {s : Session} {a : Step} (hcall : k.calls[n]? = some (s, a)) :
    steps[n]? = some a ∧ s = ((Session.opened c).run (steps.take n)).1 := by
  rw [h.calls] at hcall
  obtain ⟨b, hb, hpair⟩ := Option.map_eq_some_iff.mp hcall
  cases hpair
  exact ⟨hb, rfl⟩

end Docket

end TaskConsole
