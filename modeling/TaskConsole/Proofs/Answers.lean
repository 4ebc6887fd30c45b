import TaskConsole.Proofs.Reactions
import TaskConsole.Proofs.Tracking

/-! # Answers — every event of a session is due to one step, and answers it once

    An event does not say which call it answers, and requests are answered in any
    order.  A DOCKET runs beside a session and keeps, for each step, what it is due:
    every event and every outstanding ticket carries the number of the step that it
    belongs to.

    * What a step tells by itself is due to it.
    * A ticket is due to the step that began its request, and hands that on to the
      event in which it ends, whether the request was made or could not be prepared.

    So a step has told its notice, if it has one, and if it began a request, then
    either that is still outstanding or it has ended in one event, never in two
    (`Settles`, kept by every step).  All events are accounted for that way. -/

namespace TaskConsole

/-- A session with what is due to each of its steps. -/
structure Docket where
  session : Session
  -- the steps so far, each after the session that it found; its place is its number
  calls : List (Session × Step) := []
  -- for each outstanding ticket, the number of the step that it is due to
  owed : List Nat := []
  -- all events so far, each after the number of the step that it is due to
  told : List (Nat × ConsoleEvent) := []

namespace Docket

/-- The start: a console with a client, nothing due to anyone. -/
def opened (c : Client) : Docket := { session := { console := { client := c } } }

/-- The first half of a step: an answered ticket becomes an event. -/
def take (k : Docket) (a : Step) : Docket :=
  match a with
  | .answer i d =>
    match k.owed[i]?, k.session.outstanding[i]? with
    | some n, some t =>
      { k with
        session := k.session.take a
        owed := k.owed.eraseIdx i
        told := k.told ++ [(n, t.outcome d)] }
    | _, _ => { k with session := k.session.take a }
  | _ => { k with session := k.session.take a }

/-- The second half: a step gets a number, and what it asks for is due to it. -/
def enter (k : Docket) (found : Session) (a : Step) : Docket :=
  { session := (k.session.performAll (found.effects a)).1
    calls := k.calls ++ [(found, a)]
    owed := k.owed ++ ((found.effects a).filterMap Effect.ticket?).map fun _ => k.calls.length
    told := k.told ++ ((found.effects a).flatMap Effect.told).map (k.calls.length, ·) }

/-- One thing happens, and the docket takes note. -/
def step (k : Docket) (a : Step) : Docket := (k.take a).enter k.session a

/-- One thing after the other. -/
def run (k : Docket) (steps : List Step) : Docket := steps.foldl step k

/-- The events that are due to a step. -/
def eventsOf (k : Docket) (n : Nat) : List ConsoleEvent :=
  (k.told.filter (·.1 = n)).map (·.2)

/-- A ticket is due to a step: the one that began its request. -/
def Due (k : Docket) (n : Nat) (t : Ticket) : Prop :=
  ∃ s a, k.calls[n]? = some (s, a) ∧ s.errand? a = some t.operation

/-- What is due to a step that told some events by itself and began a request or none. -/
inductive Settles (k : Docket) (n : Nat) (own : List ConsoleEvent) :
    Option Operation → Prop where
  -- without a request, there is nothing else
  | alone : k.eventsOf n = own → k.owed.count n = 0 → Settles k n own none
  -- the request is outstanding, once
  | waiting (op : Operation) :
      k.eventsOf n = own → k.owed.count n = 1 → Settles k n own (some op)
  -- the request has ended, in one event
  | ended (op : Operation) (event : ConsoleEvent) : op.EndsWith event →
      k.eventsOf n = own ++ [event] → k.owed.count n = 0 → Settles k n own (some op)

/-- The docket knows what is due to every step. -/
structure Sound (k : Docket) : Prop where
  tickets : List.Forall₂ k.Due k.owed k.session.outstanding
  known : ∀ x ∈ k.told, x.1 < k.calls.length
  settles : ∀ n s a, k.calls[n]? = some (s, a) → k.Settles n a.notice?.toList (s.errand? a)

variable {k : Docket}

/-! ## Events and numbers -/

theorem eventsOf_append (k : Docket) (more : List (Nat × ConsoleEvent)) (n : Nat) :
    { k with told := k.told ++ more }.eventsOf n
      = k.eventsOf n ++ (more.filter (·.1 = n)).map (·.2) := by
  show ((k.told ++ more).filter _).map _ = _
  rw [List.filter_append, List.map_append]
  rfl

/-- Events that are all due to one step. -/
theorem map_filter_numbered (events : List ConsoleEvent) (m n : Nat) :
    ((events.map (m, ·)).filter (·.1 = n)).map (·.2) = if m = n then events else [] := by
  by_cases h : m = n
  · rw [if_pos h, List.filter_eq_self.mpr, List.map_map]
    · exact List.map_id events
    · intro x hx
      obtain ⟨e, -, rfl⟩ := List.mem_map.mp hx
      exact decide_eq_true h
  · rw [if_neg h, List.filter_eq_nil_iff.mpr]
    · rfl
    · intro x hx
      obtain ⟨e, -, rfl⟩ := List.mem_map.mp hx
      rw [decide_eq_true_iff]
      exact h

/-- What is due to a step does not depend on more than its events and tickets. -/
theorem Settles.congr {l : Docket} {n : Nat} {own : List ConsoleEvent}
    {op : Option Operation} (h : k.Settles n own op) (he : l.eventsOf n = k.eventsOf n)
    (hc : l.owed.count n = k.owed.count n) : l.Settles n own op := by
  cases h with
  | alone hown hzero => exact .alone (he.trans hown) (hc.trans hzero)
  | waiting op hown hone => exact .waiting op (he.trans hown) (hc.trans hone)
  | ended op event hends hown hzero =>
      exact .ended op event hends (he.trans hown) (hc.trans hzero)

theorem Sound.owed_lt (h : k.Sound) {n : Nat} (hn : n ∈ k.owed) : n < k.calls.length := by
  obtain ⟨i, hi⟩ := List.mem_iff_getElem?.mp hn
  obtain ⟨t, -, s, a, hcall, -⟩ := forall₂_getElem? h.tickets.flip hi
  exact (List.getElem?_eq_some_iff.mp hcall).1

/-- Nothing is due to a step that has not been taken. -/
theorem Sound.eventsOf_next (h : k.Sound) : k.eventsOf k.calls.length = [] := by
  rw [eventsOf, List.filter_eq_nil_iff.mpr]
  · rfl
  · intro x hx
    rw [decide_eq_true_iff]
    exact Nat.ne_of_lt (h.known x hx)

theorem Sound.count_owed_next (h : k.Sound) : k.owed.count k.calls.length = 0 :=
  List.count_eq_zero.mpr fun hn => Nat.lt_irrefl _ (h.owed_lt hn)

/-! ## The first half of a step -/

/-- A ticket that is answered ends the request of its step, and of no other. -/
theorem Sound.answer (h : k.Sound) {i n : Nat} {t : Ticket} (hn : k.owed[i]? = some n)
    (ht : k.session.outstanding[i]? = some t) (d : Delivery) (session : Session)
    (hout : session.outstanding = k.session.outstanding.eraseIdx i) :
    ({ k with
        session
        owed := k.owed.eraseIdx i
        told := k.told ++ [(n, t.outcome d)] } : Docket).Sound := by
  have hcount := fun m => count_eraseIdx hn m
  obtain ⟨n', hn', s₀, a₀, hcall₀, herrand₀⟩ := forall₂_getElem? h.tickets ht
  have hsame : n' = n := Option.some.inj (hn'.symm.trans hn)
  subst hsame
  refine ⟨?_, ?_, ?_⟩
  · rw [hout]
    exact forall₂_eraseIdx h.tickets i
  · intro x hx
    rcases List.mem_append.mp hx with hx | hx
    · exact h.known x hx
    · rw [List.mem_singleton.mp hx]
      exact h.owed_lt (List.mem_of_getElem? hn)
  · intro m s a hcall
    have hold := h.settles m s a hcall
    have hevents : ({ k with
        session
        owed := k.owed.eraseIdx i
        told := k.told ++ [(n', t.outcome d)] } : Docket).eventsOf m
          = k.eventsOf m ++ if n' = m then [t.outcome d] else [] := by
      refine (eventsOf_append k _ m).trans ?_
      exact congrArg _ (map_filter_numbered [t.outcome d] n' m)
    have hm := hcount m
    by_cases hnm : n' = m
    · -- the step that the ticket is due to: it was waiting for this answer
      subst hnm
      rw [if_pos rfl] at hevents
      rw [beq_self_eq_true, if_pos rfl] at hm
      have hpair : (s₀, a₀) = (s, a) := Option.some.inj (hcall₀.symm.trans hcall)
      cases hpair
      rw [herrand₀] at hold ⊢
      cases hold with
      | waiting op hown hone =>
          refine .ended _ _ (t.outcome_endsWith d) ?_ ?_
          · rw [hevents, hown]
          · show (k.owed.eraseIdx i).count n' = 0
            omega
      | ended op event hends hown hzero => omega
    · rw [if_neg hnm, List.append_nil] at hevents
      rw [beq_eq_false_iff_ne.mpr hnm, if_neg Bool.false_ne_true] at hm
      exact hold.congr hevents hm.symm

/-- Another session with the same tickets makes no difference. -/
theorem Sound.congr (h : k.Sound) {session : Session}
    (hout : session.outstanding = k.session.outstanding) :
    ({ k with session } : Docket).Sound := by
  refine ⟨?_, h.known, ?_⟩
  · rw [hout]
    exact h.tickets
  · intro n s a hcall
    exact (h.settles n s a hcall).congr rfl rfl

theorem take_answer_outstanding (s : Session) (i : Nat) (d : Delivery) :
    (s.take (.answer i d)).outstanding = s.outstanding.eraseIdx i := by
  simp only [Session.take]
  cases ht : s.outstanding[i]? with
  | none =>
      rw [List.eraseIdx_of_length_le (List.getElem?_eq_none_iff.mp ht)]
  | some t =>
      simp only [Session.tell]
      split <;> rfl

/-- Only an answer takes tickets off the list. -/
theorem take_outstanding (s : Session) {a : Step} (ha : ∀ i d, a ≠ .answer i d) :
    (s.take a).outstanding = s.outstanding := by
  cases a with
  | answer i d => exact absurd rfl (ha i d)
  | apply i =>
      simp only [Session.take]
      cases s.unapplied[i]? <;> rfl
  | _ => rfl

/-- **THE FIRST HALF OF A STEP** leaves the docket sound. -/
theorem Sound.take (h : k.Sound) (a : Step) : (k.take a).Sound := by
  cases a with
  | answer i d =>
      have hout := take_answer_outstanding k.session i d
      simp only [Docket.take]
      cases ht : k.session.outstanding[i]? with
      | none =>
          rw [forall₂_getElem?_none h.tickets ht]
          refine h.congr ?_
          rw [hout, List.eraseIdx_of_length_le (List.getElem?_eq_none_iff.mp ht)]
      | some t =>
          obtain ⟨n, hn, -⟩ := forall₂_getElem? h.tickets ht
          rw [hn]
          exact h.answer hn ht d _ hout
  | _ => exact h.congr (take_outstanding _ (by exact nofun))

/-! ## The second half of a step -/

/-- A ticket stays due to its step when others are taken. -/
theorem Due.append {n : Nat} {t : Ticket} (h : k.Due n t) (call : Session × Step)
    (l : Docket) (hl : l.calls = k.calls ++ [call]) : l.Due n t := by
  obtain ⟨s, a, hcall, herrand⟩ := h
  refine ⟨s, a, ?_, herrand⟩
  rw [hl, List.getElem?_append_left (List.getElem?_eq_some_iff.mp hcall).1]
  exact hcall

/-- A step with its tickets and its events is added to a docket. -/
theorem Sound.append (h : k.Sound) {session found : Session} {a : Step}
    {tickets : List Ticket} {events : List ConsoleEvent}
    (hout : session.outstanding = k.session.outstanding ++ tickets)
    (hdue : ∀ t ∈ tickets, found.errand? a = some t.operation)
    (hsettles : ∀ l : Docket, l.eventsOf k.calls.length = events →
      l.owed.count k.calls.length = tickets.length →
        l.Settles k.calls.length a.notice?.toList (found.errand? a)) :
    ({ session
       calls := k.calls ++ [(found, a)]
       owed := k.owed ++ tickets.map fun _ => k.calls.length
       told := k.told ++ events.map (k.calls.length, ·) } : Docket).Sound := by
  have hlast : (k.calls ++ [(found, a)])[k.calls.length]? = some (found, a) :=
    List.getElem?_concat_length
  refine ⟨?_, ?_, ?_⟩
  · rw [hout]
    refine List.rel_append (h.tickets.imp fun n t ht => ht.append (found, a) _ rfl) ?_
    rw [List.forall₂_map_left_iff, List.forall₂_same]
    intro t ht
    exact ⟨found, a, hlast, hdue t ht⟩
  · intro x hx
    show x.1 < (k.calls ++ [(found, a)]).length
    rw [List.length_append, List.length_singleton]
    rcases List.mem_append.mp hx with hx | hx
    · exact Nat.lt_succ_of_lt (h.known x hx)
    · obtain ⟨e, -, rfl⟩ := List.mem_map.mp hx
      exact Nat.lt_succ_self _
  · intro n s b hcall
    have hevents : ({ session
                      calls := k.calls ++ [(found, a)]
                      owed := k.owed ++ tickets.map fun _ => k.calls.length
                      told := k.told ++ events.map (k.calls.length, ·) } : Docket).eventsOf n
        = k.eventsOf n ++ if k.calls.length = n then events else [] := by
      refine (eventsOf_append k _ n).trans ?_
      exact congrArg _ (map_filter_numbered events k.calls.length n)
    have hcount : (k.owed ++ tickets.map fun _ => k.calls.length).count n
        = k.owed.count n + if k.calls.length = n then tickets.length else 0 := by
      rw [List.count_append, List.map_const', List.count_replicate]
      simp only [beq_iff_eq]
    by_cases hn : k.calls.length = n
    · subst hn
      have hpair : (found, a) = (s, b) := Option.some.inj (hlast.symm.trans hcall)
      cases hpair
      rw [if_pos rfl, h.eventsOf_next, List.nil_append] at hevents
      rw [if_pos rfl, h.count_owed_next, Nat.zero_add] at hcount
      exact hsettles _ hevents hcount
    · -- an earlier step: nothing new is due to it
      have hlt : n < k.calls.length := by
        have hle := (List.getElem?_eq_some_iff.mp hcall).1
        rw [List.length_append, List.length_singleton] at hle
        omega
      rw [List.getElem?_append_left hlt] at hcall
      rw [if_neg hn, List.append_nil] at hevents
      rw [if_neg hn, Nat.add_zero] at hcount
      exact (h.settles n s b hcall).congr hevents hcount

/-- **THE SECOND HALF OF A STEP** leaves the docket sound. -/
theorem Sound.enter (h : k.Sound) {found : Session} {a : Step} :
    (k.enter found a).Sound := by
  have hout := k.session.performAll_outstanding (found.effects a)
  rw [Docket.enter]
  rw [found.effects_tickets a] at hout ⊢
  rw [found.effects_told a]
  cases herrand : found.errand? a with
  | none =>
      rw [herrand] at hout
      refine h.append hout (fun t ht => absurd ht List.not_mem_nil) ?_
      intro l hevents hcount
      rw [herrand]
      exact .alone hevents hcount
  | some op =>
      rw [herrand] at hout
      refine h.append hout ?_ ?_
      · intro t ht
        rw [List.mem_singleton.mp ht]
        exact herrand
      · intro l hevents hcount
        rw [herrand]
        exact .waiting op hevents hcount

/-- **ONE STEP** leaves the docket sound. -/
theorem Sound.step (h : k.Sound) (a : Step) : (k.step a).Sound := (h.take a).enter

/-- **A WHOLE RUN** does. -/
theorem Sound.run (h : k.Sound) (steps : List Step) : (k.run steps).Sound := by
  induction steps generalizing k with
  | nil => exact h
  | cons a rest ih => exact ih (h.step a)

theorem opened_sound (c : Client) : (opened c).Sound where
  tickets := .nil
  known := fun _ hx => absurd hx List.not_mem_nil
  settles := fun _ _ _ hcall => absurd hcall (Option.some_ne_none _).symm

/-! ## The run beside which it was kept -/

theorem take_session (k : Docket) (a : Step) : (k.take a).session = k.session.take a := by
  cases a with
  | answer i d =>
      simp only [Docket.take]
      split <;> rfl
  | _ => rfl

theorem take_calls (k : Docket) (a : Step) : (k.take a).calls = k.calls := by
  cases a with
  | answer i d =>
      simp only [Docket.take]
      split <;> rfl
  | _ => rfl

theorem step_session (k : Docket) (a : Step) :
    (k.step a).session = (k.session.step a).1 := by
  show ((k.take a).session.performAll (k.session.effects a)).1 = _
  rw [take_session, Session.step_eq]

theorem step_calls (k : Docket) (a : Step) :
    (k.step a).calls = k.calls ++ [(k.session, a)] := by
  show (k.take a).calls ++ [(k.session, a)] = _
  rw [take_calls]

/-- **THE DOCKET ONLY WATCHES**: beside it, the session runs as it does alone. -/
theorem run_session (k : Docket) (steps : List Step) :
    (k.run steps).session = (k.session.run steps).1 := by
  induction steps generalizing k with
  | nil => rfl
  | cons a rest ih =>
      show ((k.step a).run rest).session = ((k.session.step a).1.run rest).1
      rw [ih, step_session]

/-- The calls so far stay where they are. -/
theorem run_calls_old (k : Docket) (steps : List Step) {n : Nat}
    (hn : n < k.calls.length) : (k.run steps).calls[n]? = k.calls[n]? := by
  induction steps generalizing k with
  | nil => rfl
  | cons a rest ih =>
      show ((k.step a).run rest).calls[n]? = _
      rw [ih, step_calls, List.getElem?_append_left hn]
      rw [step_calls, List.length_append]
      exact Nat.lt_add_right _ hn

/-- The docket numbers the steps, and knows what each of them found. -/
theorem run_calls (k : Docket) (steps : List Step) (n : Nat) :
    (k.run steps).calls[k.calls.length + n]?
      = (steps[n]?).map fun a => ((k.session.run (steps.take n)).1, a) := by
  induction steps generalizing k n with
  | nil =>
      rw [List.getElem?_nil]
      exact List.getElem?_eq_none (Nat.le_add_right _ n)
  | cons a rest ih =>
      have hlen : (k.step a).calls.length = k.calls.length + 1 := by
        rw [step_calls, List.length_append, List.length_singleton]
      show ((k.step a).run rest).calls[k.calls.length + n]? = _
      cases n with
      | zero =>
          rw [run_calls_old _ _ (by omega), step_calls]
          exact List.getElem?_concat_length
      | succ n =>
          have hrest := ih (k.step a) n
          rw [hlen, step_session] at hrest
          have hplace : k.calls.length + (n + 1) = k.calls.length + 1 + n := by omega
          rw [hplace]
          exact hrest

/-! ## The stream of events -/

/-- The answer that a step brings is told with the number of the ticket. -/
theorem Sound.take_told (h : k.Sound) (a : Step) :
    (k.take a).told.map (·.2) = k.told.map (·.2) ++ k.session.answered a := by
  cases a with
  | answer i d =>
      simp only [Docket.take, Session.answered]
      cases ht : k.session.outstanding[i]? with
      | none =>
          rw [forall₂_getElem?_none h.tickets ht]
          exact (List.append_nil _).symm
      | some t =>
          obtain ⟨n, hn, -⟩ := forall₂_getElem? h.tickets ht
          rw [hn]
          exact List.map_append
  | _ => exact (List.append_nil _).symm

/-- With a receiver, a docket hears what the receiver hears. -/
theorem Sound.step_told (h : k.Sound) (hr : k.session.receiving = true) (a : Step) :
    (k.step a).told.map (·.2) = k.told.map (·.2) ++ (k.session.step a).2.events := by
  have hnew : (((k.session.effects a).flatMap Effect.told).map
      ((k.take a).calls.length, ·)).map (·.2) = (k.session.effects a).flatMap Effect.told := by
    rw [List.map_map]
    exact List.map_id _
  show ((k.take a).told ++ _).map (·.2) = _
  rw [List.map_append, hnew, h.take_told, Session.step_events hr, List.append_assoc]

end Docket

namespace Session

theorem performAll_receiving (s : Session) (effects : List Effect) :
    (s.performAll effects).1.receiving = s.receiving := by
  induction effects generalizing s with
  | nil => rfl
  | cons e rest ih => rw [performAll_cons, ih, perform_receiving]

/-- A receiver stays until it goes away. -/
theorem step_receiving (s : Session) {a : Step} (ha : a ≠ .closeReceiver) :
    (s.step a).1.receiving = s.receiving := by
  rw [step_eq, performAll_receiving]
  cases a with
  | answer i d =>
      simp only [take]
      cases s.outstanding[i]? with
      | none => rfl
      | some t => exact tell_receiving _ _
  | apply i =>
      simp only [take]
      cases s.unapplied[i]? <;> rfl
  | closeReceiver => exact absurd rfl ha
  | _ => rfl

end Session

namespace Docket

variable {k : Docket}

/-- **THE STREAM IS ACCOUNTED FOR**: with a receiver that stays, the events of a docket
    are those of the run, in their order. -/
theorem Sound.run_told (h : k.Sound) (hr : k.session.receiving = true) {steps : List Step}
    (hopen : Step.closeReceiver ∉ steps) :
    (k.run steps).told.map (·.2)
      = k.told.map (·.2) ++ (k.session.run steps).2.flatMap (·.events) := by
  induction steps generalizing k with
  | nil => exact (List.append_nil _).symm
  | cons a rest ih =>
      rw [List.mem_cons, not_or] at hopen
      have hnext : (k.step a).session.receiving = true := by
        rw [step_session, Session.step_receiving _ (Ne.symm hopen.1)]
        exact hr
      show ((k.step a).run rest).told.map (·.2)
        = _ ++ ((k.session.step a).2 :: ((k.session.step a).1.run rest).2).flatMap _
      rw [ih (h.step a) hnext hopen.2, h.step_told hr, step_session, List.flatMap_cons,
        List.append_assoc]

end Docket

/-! ## What is due to a call -/

namespace Step

/-- A refusal is told as an error. -/
theorem notice?_of_refusal {a : Step} {message : String} (h : a.refusal? = some message) :
    a.notice? = some (.error message) := by
  cases a with
  | runNow task => exact congrArg (Option.map ConsoleEvent.error) h
  | save now task => exact congrArg (Option.map ConsoleEvent.error) h
  | _ => exact absurd h (Option.some_ne_none _).symm

end Step

namespace Session

/-- A call that is refused begins nothing. -/
theorem errand?_of_refusal (s : Session) {a : Step} {message : String}
    (h : a.refusal? = some message) : s.errand? a = none := by
  cases a with
  | runNow task =>
      simp only [Step.refusal?] at h
      simp only [errand?]
      cases hen : task.enabled with
      | false => rfl
      | true =>
          rw [hen, if_pos rfl] at h
          cases hid : task.id with
          | none => rfl
          | some id =>
              rw [hid] at h
              exact absurd h (Option.some_ne_none _).symm
  | save now task =>
      simp only [Step.refusal?] at h
      simp only [errand?]
      cases hd : task.defect? with
      | none =>
          rw [hd] at h
          exact absurd h (Option.some_ne_none _).symm
      | some defect => rfl
  | _ => exact absurd h (Option.some_ne_none _).symm

/-- Nor does it change the books. -/
theorem console_of_refusal (s : Session) {a : Step} {message : String}
    (h : a.refusal? = some message) : (s.step a).1.console = s.console := by
  have herrand := s.errand?_of_refusal h
  rw [step_console]
  cases a with
  | runNow task =>
      simp only [errand?] at herrand
      simp only [take, Console.runNow]
      cases hen : task.enabled with
      | false => rfl
      | true =>
          rw [hen, if_pos rfl] at herrand
          rw [Option.map_eq_none_iff.mp herrand, if_pos rfl]
  | save now task =>
      simp only [errand?] at herrand
      simp only [take, Console.save]
      cases hd : task.defect? with
      | none =>
          rw [hd] at herrand
          exact absurd herrand (Option.some_ne_none _)
      | some defect => rfl
  | _ => exact absurd h (Option.some_ne_none _).symm

end Session

namespace Docket

/-- A call is refused: it is answered by one error, and nothing else comes of it. -/
structure Refuses (k : Docket) (n : Nat) (s : Session) (a : Step) (message : String) :
    Prop where
  told : k.eventsOf n = [.error message]
  owes : k.owed.count n = 0
  quiet : (s.step a).2.requests = []
  console : (s.step a).1.console = s.console

/-- Every step of a run has what is due to it, and nothing else is told. -/
structure Accounts (k : Docket) (start : Session) (steps : List Step) : Prop where
  -- the session of the docket runs as it does alone, and its steps are numbered
  session : k.session = (start.run steps).1
  calls : ∀ n : Nat, k.calls[n]? = (steps[n]?).map fun a => ((start.run (steps.take n)).1, a)
  -- what is due to the steps is the stream of events, in its order
  stream : k.told.map (·.2) = (start.run steps).2.flatMap (·.events)
  known : ∀ x ∈ k.told, x.1 < steps.length
  -- what is outstanding is due to the steps that asked for it
  tickets : List.Forall₂ k.Due k.owed k.session.outstanding
  -- a step has told its notice, and its request has ended once or is outstanding
  settles : ∀ (n : Nat) (s : Session) (a : Step), k.calls[n]? = some (s, a) →
    k.Settles n a.notice?.toList (s.errand? a)
  -- that request is made in the step itself, unless it cannot be prepared
  requests : ∀ (n : Nat) (s : Session) (a : Step), k.calls[n]? = some (s, a) →
    (s.step a).2.requests = ((s.errand? a).bind fun op =>
      ((s.step a).1.console.client.prepare op).toOption).toList
  -- a call that is refused is answered at once
  refused : ∀ (n : Nat) (s : Session) (a : Step) message, k.calls[n]? = some (s, a) →
    a.refusal? = some message → k.Refuses n s a message
  -- any other run or save begins its request, and that is all that answers it
  ran : ∀ (n : Nat) s task, k.calls[n]? = some (s, .runNow task) →
    (Step.runNow task).refusal? = none →
      ∃ id, task.id = some id ∧ k.Settles n [] (some (.run id))
  saved : ∀ (n : Nat) s now task, k.calls[n]? = some (s, .save now task) →
    (Step.save now task).refusal? = none →
      k.Settles n [] (some (.save (Console.scheduledFrom now task)))
  -- a refresh is answered if it began a request, and no event is due to it if not
  refreshed : ∀ (n : Nat) s, k.calls[n]? = some (s, .refresh) →
    k.Settles n [] (if s.console.canRefresh then some .fetch else none)
  -- news from discovery is passed on, and may release a list request that waits
  moved : ∀ (n : Nat) s url, k.calls[n]? = some (s, .discovered (.serviceUrlChanged url)) →
    k.Settles n [.serviceUrlChanged url]
      (if s.console.pendingRefresh && !s.console.loading && !Text.isBlankText url
        then some .fetch else none)
  reported : ∀ (n : Nat) s message, k.calls[n]? = some (s, .discovered (.error message)) →
    k.Settles n [.error message] none

variable {k : Docket}

theorem Sound.refused (h : k.Sound) {n : Nat} {s : Session} {a : Step} {message : String}
    (hcall : k.calls[n]? = some (s, a)) (hr : a.refusal? = some message) :
    k.Refuses n s a message := by
  have hsettles := h.settles n s a hcall
  have herrand := s.errand?_of_refusal hr
  rw [herrand, Step.notice?_of_refusal hr] at hsettles
  cases hsettles with
  | alone hown hzero =>
      refine ⟨hown, hzero, ?_, s.console_of_refusal hr⟩
      rw [Session.step_requests_eq, herrand]
      rfl

theorem Sound.ran (h : k.Sound) {n : Nat} {s : Session} {task : Task}
    (hcall : k.calls[n]? = some (s, .runNow task))
    (hr : (Step.runNow task).refusal? = none) :
    ∃ id, task.id = some id ∧ k.Settles n [] (some (.run id)) := by
  have hsettles := h.settles n s _ hcall
  simp only [Step.notice?, hr, Option.map_none, Option.toList_none, Session.errand?]
    at hsettles
  simp only [Step.refusal?] at hr
  cases hen : task.enabled with
  | false =>
      rw [hen] at hr
      exact absurd hr (Option.some_ne_none _)
  | true =>
      rw [hen, if_pos rfl] at hr hsettles
      cases hid : task.id with
      | none =>
          rw [hid] at hr
          exact absurd hr (Option.some_ne_none _)
      | some id =>
          rw [hid] at hsettles
          exact ⟨id, rfl, hsettles⟩

theorem Sound.saved (h : k.Sound) {n : Nat} {s : Session} {now : Timestamp} {task : Task}
    (hcall : k.calls[n]? = some (s, .save now task))
    (hr : (Step.save now task).refusal? = none) :
    k.Settles n [] (some (.save (Console.scheduledFrom now task))) := by
  have hsettles := h.settles n s _ hcall
  simp only [Step.notice?, hr, Option.map_none, Option.toList_none, Session.errand?]
    at hsettles
  simp only [Step.refusal?] at hr
  rw [Option.map_eq_none_iff.mp hr] at hsettles
  exact hsettles

/-- **EVERY CALL IS ANSWERED ONCE**: after any steps of a console whose receiver stays,
    each step has told its notice, and what it began has ended in one event or is
    outstanding; all events are due to one step each. -/
theorem answered_once (c : Client) (steps : List Step)
    (hopen : Step.closeReceiver ∉ steps) :
    ((opened c).run steps).Accounts { console := { client := c } } steps := by
  have hsound : ((opened c).run steps).Sound := (opened_sound c).run steps
  have hcalls (n : Nat) : ((opened c).run steps).calls[n]? = (steps[n]?).map fun a =>
      (((opened c).session.run (steps.take n)).1, a) := by
    have h := run_calls (opened c) steps n
    rw [show (opened c).calls.length + n = n from Nat.zero_add n] at h
    exact h
  refine
    { session := run_session _ steps
      calls := hcalls
      stream := (opened_sound c).run_told rfl hopen
      known := ?_
      tickets := hsound.tickets
      settles := hsound.settles
      requests := fun _ s a _ => s.step_requests_eq a
      refused := fun _ _ _ _ => hsound.refused
      ran := fun _ _ _ => hsound.ran
      saved := fun _ _ _ _ => hsound.saved
      refreshed := fun n s => hsound.settles n s .refresh
      moved := fun n s url => hsound.settles n s (.discovered (.serviceUrlChanged url))
      reported := fun n s message => hsound.settles n s (.discovered (.error message)) }
  -- a number with an event is the number of a step
  intro x hx
  obtain ⟨call, hcall⟩ : ∃ call, ((opened c).run steps).calls[x.1]? = some call :=
    ⟨_, List.getElem?_eq_getElem (hsound.known x hx)⟩
  rw [hcalls] at hcall
  obtain ⟨a, ha, -⟩ := Option.map_eq_some_iff.mp hcall
  exact (List.getElem?_eq_some_iff.mp ha).1

/-- A run before any address is known, one that is refused, and a list request that waits
    for the address and meets with a closed connection; the failure of the first run comes
    last. -/
def busyMorning : List Step :=
  [.refresh, .runNow { id := some 7 }, .runNow { id := some 8, enabled := false },
    .discovered (.serviceUrlChanged "http://h:1/"), .answer 1 .closed, .answer 0 .closed]

theorem answered_once_busyMorning :
    ((opened {}).run busyMorning).Accounts {} busyMorning
      ∧ ((opened {}).run busyMorning).told
        = [(2, .error "Task is disabled"), (3, .serviceUrlChanged "http://h:1/"),
          (3, .refreshFailed "error sending request for url (http://h:1/tasks)"),
          (1, .operationFailed "No service discovered")] :=
  ⟨answered_once {} busyMorning (by simp [busyMorning]), by decide +kernel⟩

end Docket

end TaskConsole
