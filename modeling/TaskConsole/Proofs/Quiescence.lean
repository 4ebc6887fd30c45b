import Mathlib.Algebra.BigOperators.Group.List.Basic
import Mathlib.Algebra.GroupWithZero.Nat
import TaskConsole.Dashboard.Loop
import TaskConsole.Proofs.Answers
import TaskConsole.Proofs.FollowUps

/-! # Quiescence — a console that is left alone comes to rest

    Applying an event can begin a request, and that request ends in an event that is
    applied in its turn.  When neither the operator nor discovery asks for anything,
    that goes on for a while only:

    * a run or save is ended by one outcome, and that brings one list request at most;
      a list request is ended by one outcome, and that brings none (`Console.outlook`,
      which every applied outcome diminishes);
    * while somebody receives the events, no request is lost on the way: what is
      neither outstanding nor waiting is settled (`Ledger.LosesNone`);
    * so in whatever order replies come in and events are applied, there is an end to
      it (`Session.work`), and nothing is in flight then.

    The dashboard applies the events that wait, the oldest first, until none is left.
    That ends for the same reason, whenever the failures are told that an applied event
    brings (`Dashboard.TakesIn.length_le`). -/

namespace TaskConsole

/-! ## Left alone -/

/-- A reply comes in, or a received event is applied. -/
def Step.isSettling : Step → Bool
  | answer _ _ => true
  | apply _ => true
  | _ => false

theorem Step.isOwn_of_isSettling {a : Step} (h : a.isSettling = true) : a.isOwn = true := by
  cases a with
  | applyForeign event => exact h
  | _ => rfl

namespace Session

/-- The received event that a step applies. -/
def applied? (s : Session) : Step → Option ConsoleEvent
  | .apply i => s.unapplied[i]?
  | _ => none

/-- The received events that steps apply, in their order. -/
def applied (s : Session) : List Step → List ConsoleEvent
  | [] => []
  | a :: rest => (s.applied? a).toList ++ (s.step a).1.applied rest

/-- The outcomes among the events that steps apply: all but the notices. -/
def outcomes (s : Session) (steps : List Step) : List ConsoleEvent :=
  (s.applied steps).filter fun event => !event.isNotice

theorem applied?_eq_some {s : Session} {a : Step} {event : ConsoleEvent}
    (h : s.applied? a = some event) : ∃ i, a = .apply i ∧ s.unapplied[i]? = some event := by
  cases a with
  | apply i => exact ⟨i, rfl, h⟩
  | _ => exact absurd h.symm (Option.some_ne_none event)

end Session

/-! ## What an event settles -/

namespace ConsoleEvent

/-- An outcome ends a list request, or a run or save, and never both. -/
theorem settles_of_not_isNotice {event : ConsoleEvent} (h : event.isNotice = false) :
    (event.settlesRefresh = true ∧ event.settlesOperation = false)
      ∨ (event.settlesRefresh = false ∧ event.settlesOperation = true) := by
  cases event with
  | tasksReplaced tasks => exact Or.inl ⟨rfl, rfl⟩
  | refreshFailed message => exact Or.inl ⟨rfl, rfl⟩
  | operationFailed message => exact Or.inr ⟨rfl, rfl⟩
  | runResult v => exact Or.inr ⟨rfl, rfl⟩
  | saveResult r => exact Or.inr ⟨rfl, rfl⟩
  | serviceUrlChanged url => exact absurd h Bool.noConfusion
  | error message => exact absurd h Bool.noConfusion

/-- Only the end of a run or save calls for a refresh. -/
theorem settlesOperation_of_callsForRefresh {event : ConsoleEvent}
    (h : event.callsForRefresh = true) : event.settlesOperation = true := by
  cases event with
  | runResult v => rfl
  | saveResult r => rfl
  | _ => exact absurd h Bool.false_ne_true

end ConsoleEvent

namespace Console

theorem refresh_inFlight (c : Console) : c.refresh.1.inFlight = c.inFlight := by
  cases h : c.canRefresh with
  | true => rw [refresh_of_can h]
  | false => rw [refresh_of_cannot h]

theorem apply_inFlight (c : Console) (event : ConsoleEvent) :
    (c.apply event).1.inFlight
      = if event.settlesOperation then c.inFlight - 1 else c.inFlight := by
  rw [apply_eq]
  split
  · exact refresh_inFlight _
  · rfl

/-- The outcomes that can still come when nobody asks for anything: that of every run and
    save with that of the list request that it may bring, and that of the list request in
    flight. -/
def outlook (c : Console) : Nat := 2 * c.inFlight + c.loading.toNat

/-- **AN APPLIED OUTCOME** leaves fewer to come, whatever it brings. -/
theorem apply_outlook {c : Console} {event : ConsoleEvent} (hn : event.isNotice = false)
    (hf : event.settlesRefresh = true → c.loading = true)
    (ho : event.settlesOperation = true → 0 < c.inFlight) :
    (c.apply event).1.outlook + 1 ≤ c.outlook := by
  have hinFlight := c.apply_inFlight event
  simp only [outlook]
  rcases ConsoleEvent.settles_of_not_isNotice hn with ⟨hr, hs⟩ | ⟨hr, hs⟩
  · -- a list request has ended: the flag is down, and nothing begins
    have hcalls : event.callsForRefresh = false := by
      rw [← Bool.not_eq_true]
      intro hc
      rw [ConsoleEvent.settlesOperation_of_callsForRefresh hc] at hs
      exact absurd hs.symm Bool.false_ne_true
    have hloading : (c.apply event).1.loading = false := by
      rw [apply_eq, hcalls, if_neg Bool.false_ne_true]
      show (c.loading && !event.settlesRefresh) = false
      rw [hr, Bool.not_true, Bool.and_false]
    rw [hs, if_neg Bool.false_ne_true] at hinFlight
    rw [hinFlight, hloading, hf hr, Bool.toNat_false, Bool.toNat_true]
  · -- a run or save has ended, and the flag may be up for what it brings
    have hpos := ho hs
    have hle := Bool.toNat_le (c.apply event).1.loading
    rw [hs, if_pos rfl] at hinFlight
    omega

end Console

/-! ## A console that is left alone -/

namespace Chronicle

variable {k : Chronicle}

/-- What a settling step begins is a list request that an applied event calls for. -/
theorem errand?_settling {s : Session} {a : Step} (ha : a.isSettling = true)
    {op : Operation} (h : s.errand? a = some op) :
    op = .fetch ∧ ∃ i event, a = .apply i ∧ s.unapplied[i]? = some event
      ∧ event.callsForRefresh = true := by
  cases a with
  | apply i =>
      simp only [Session.errand?] at h
      split at h
      · rename_i hcalls
        rw [Bool.and_eq_true] at hcalls
        obtain ⟨event, hevent, hc⟩ := (Option.any_eq_true _ _).mp hcalls.1
        exact ⟨(Option.some.inj h).symm, i, event, rfl, hevent, hc⟩
      · exact absurd h.symm (Option.some_ne_none op)
  | answer i d => exact absurd h.symm (Option.some_ne_none op)
  | _ => exact absurd ha Bool.false_ne_true

/-- A settling step that applies nothing leaves the console as it is. -/
theorem step_unapplied (k : Chronicle) {a : Step} (ha : a.isSettling = true)
    (h : k.session.applied? a = none) :
    (k.step a).session.console = k.session.console := by
  show (k.session.step a).1.console = _
  rw [Session.step_console]
  cases a with
  | answer i d => exact k.session.take_answer_console i d
  | apply i =>
      have hnone : k.session.unapplied[i]? = none := h
      simp only [Session.take, hnone]
  | _ => exact absurd ha Bool.false_ne_true

/-- **ONE SETTLING STEP**: an outcome that is applied leaves fewer to come. -/
theorem Sound.settling_outlook (h : k.Sound) {a : Step} (ha : a.isSettling = true) :
    ((k.session.applied? a).toList.filter fun event => !event.isNotice).length
        + (k.step a).session.console.outlook
      ≤ k.session.console.outlook := by
  cases happlied : k.session.applied? a with
  | none =>
      rw [k.step_unapplied ha happlied]
      exact Nat.le_of_eq (Nat.zero_add _)
  | some event =>
      obtain ⟨i, rfl, he⟩ := Session.applied?_eq_some happlied
      rw [step_apply he]
      cases hn : event.isNotice with
      | true =>
          rw [k.session.console.apply_notice hn, Option.toList_some,
            List.filter_cons_of_neg (by rw [hn]; exact Bool.false_ne_true)]
          exact Nat.le_of_eq (Nat.zero_add _)
      | false =>
          obtain ⟨hf, ho⟩ := h.never_clips he
          have hless := Console.apply_outlook hn hf ho
          rw [Option.toList_some, List.filter_cons_of_pos (by rw [hn]; rfl)]
          show 1 + _ ≤ _
          omega

/-- **ONE SETTLING STEP**: a list request that begins takes the place of a run or save that
    has ended. -/
theorem Sound.settling_inFlight (h : k.Sound) {a : Step} (ha : a.isSettling = true) :
    (k.session.errand? a).toList.length + (k.step a).session.console.inFlight
      ≤ k.session.console.inFlight := by
  cases happlied : k.session.applied? a with
  | none =>
      rw [k.step_unapplied ha happlied]
      cases herrand : k.session.errand? a with
      | none => exact Nat.le_of_eq (Nat.zero_add _)
      | some op =>
          obtain ⟨-, i, event, rfl, he, -⟩ := errand?_settling ha herrand
          exact absurd (he.symm.trans happlied) (Option.some_ne_none event)
  | some event =>
      obtain ⟨i, rfl, he⟩ := Session.applied?_eq_some happlied
      rw [step_apply he, Console.apply_inFlight]
      cases herrand : k.session.errand? (.apply i) with
      | none =>
          show 0 + _ ≤ _
          split <;> omega
      | some op =>
          obtain ⟨-, j, other, hj, hother, hcalls⟩ := errand?_settling ha herrand
          cases hj
          cases Option.some.inj (he.symm.trans hother)
          have hs := ConsoleEvent.settlesOperation_of_callsForRefresh hcalls
          have hpos := (h.never_clips he).2 hs
          rw [hs, if_pos rfl]
          show 1 + _ ≤ _
          omega

/-- **A RUN OF SETTLING STEPS** applies no more outcomes than there were to come. -/
theorem Sound.run_outlook (h : k.Sound) {steps : List Step}
    (hall : ∀ a ∈ steps, a.isSettling = true) :
    (k.session.outcomes steps).length + (k.run steps).session.console.outlook
      ≤ k.session.console.outlook := by
  induction steps generalizing k with
  | nil => exact Nat.le_of_eq (Nat.zero_add _)
  | cons a rest ih =>
      have ha := hall a List.mem_cons_self
      have hone := h.settling_outlook ha
      have hrest := ih (h.step (Step.isOwn_of_isSettling ha))
        (fun b hb => hall b (List.mem_cons_of_mem a hb))
      have happend : k.session.outcomes (a :: rest)
          = (k.session.applied? a).toList.filter (fun event => !event.isNotice)
            ++ (k.step a).session.outcomes rest := List.filter_append _ _
      rw [happend, List.length_append]
      show _ + ((k.step a).run rest).session.console.outlook ≤ _
      omega

/-- What it begins are list requests, no more than there were runs and saves. -/
theorem Sound.run_begins (h : k.Sound) {steps : List Step}
    (hall : ∀ a ∈ steps, a.isSettling = true) :
    ∃ clients : List Client,
      (k.run steps).ledger.begun = k.ledger.begun ++ clients.map (Ticket.mk · .fetch)
        ∧ clients.length + (k.run steps).session.console.inFlight
          ≤ k.session.console.inFlight := by
  induction steps generalizing k with
  | nil => exact ⟨[], (List.append_nil _).symm, Nat.le_of_eq (Nat.zero_add _)⟩
  | cons a rest ih =>
      have ha := hall a List.mem_cons_self
      have hone := h.settling_inFlight ha
      obtain ⟨clients, hbegun, hle⟩ := ih (h.step (Step.isOwn_of_isSettling ha))
        (fun b hb => hall b (List.mem_cons_of_mem a hb))
      rw [step_begun] at hbegun
      refine ⟨(k.session.errand? a).toList.map (fun _ => (k.step a).session.console.client)
        ++ clients, ?_, ?_⟩
      · show ((k.step a).run rest).ledger.begun = _
        rw [hbegun, List.append_assoc, List.map_append]
        congr 2
        cases herrand : k.session.errand? a with
        | none => rfl
        | some op =>
            obtain ⟨rfl, -⟩ := errand?_settling ha herrand
            rfl
      · rw [List.length_append, List.length_map]
        show _ + ((k.step a).run rest).session.console.inFlight ≤ _
        omega

end Chronicle

/-! ## No request is lost -/

namespace Ledger

/-- Every request stands somewhere: on the tickets, on the events that wait, or among the
    settled ones. -/
def LosesNone (l : Ledger) : Prop := ∀ n < l.begun.length, 0 < l.places n

theorem LosesNone.hear {l : Ledger} (h : l.LosesNone) (origin : Option Nat) :
    (l.hear true origin).LosesNone := by
  intro n hn
  have hpos := h n hn
  show 0 < l.tickets.count n + (l.origins ++ [origin]).count (some n) + l.settled.count n
  rw [List.count_append]
  simp only [places] at hpos
  omega

/-- A request that begins is on the tickets. -/
theorem LosesNone.enter {l : Ledger} (h : l.LosesNone) (e : Effect) :
    (l.enter true e).LosesNone := by
  cases e with
  | tell event => exact h.hear none
  | begin client op =>
      intro n hn
      have hlt : n < (l.begun ++ [Ticket.mk client op]).length := hn
      rw [List.length_append, List.length_singleton] at hlt
      show 0 < (l.tickets ++ [l.begun.length]).count n + l.origins.count (some n)
        + l.settled.count n
      rw [List.count_append, List.count_singleton]
      by_cases hnew : n = l.begun.length
      · rw [if_pos (by rw [hnew]; exact beq_self_eq_true _)]
        omega
      · have hpos := h n (by omega)
        simp only [places] at hpos
        omega

theorem LosesNone.enterAll {l : Ledger} (h : l.LosesNone) (effects : List Effect) :
    (l.enterAll true effects).LosesNone := by
  induction effects generalizing l with
  | nil => exact h
  | cons e rest ih => exact ih (h.enter e)

/-- What is taken from one place is put in another. -/
theorem LosesNone.take {l : Ledger} (h : l.LosesNone) (a : Step) :
    (l.take true a).LosesNone := by
  cases a with
  | answer i d =>
      simp only [Ledger.take]
      cases hi : l.tickets[i]? with
      | none => exact h
      | some number =>
          intro n hn
          have hpos := h n hn
          have hcount := count_eraseIdx hi n
          simp only [places] at hpos
          show 0 < (l.tickets.eraseIdx i).count n
            + (l.origins ++ [some number]).count (some n) + l.settled.count n
          rw [List.count_append, List.count_singleton]
          have hsame : (some number == some n) = (number == n) := rfl
          rw [hsame]
          omega
  | apply i =>
      simp only [Ledger.take]
      cases hi : l.origins[i]? with
      | none => exact h
      | some origin =>
          intro n hn
          have hpos := h n hn
          have hcount := count_eraseIdx hi (some n)
          simp only [places] at hpos
          show 0 < l.tickets.count n + (l.origins.eraseIdx i).count (some n)
            + (l.settled ++ origin.toList).count n
          have hmove : origin.toList.count n = if origin == some n then 1 else 0 := by
            cases origin with
            | none => rfl
            | some m => exact List.count_singleton
          rw [List.count_append, hmove]
          omega
  | _ => exact h

end Ledger

namespace Chronicle

variable {k : Chronicle}

/-- **WITH A RECEIVER, NO REQUEST IS LOST.** -/
theorem losesNone_step (h : k.ledger.LosesNone) (hr : k.session.receiving = true) {a : Step}
    (ha : a ≠ .closeReceiver) :
    (k.step a).ledger.LosesNone ∧ (k.step a).session.receiving = true := by
  have hnext : (k.session.step a).1.receiving = true :=
    (k.session.step_receiving ha).trans hr
  refine ⟨?_, hnext⟩
  rw [Session.step_eq, Session.performAll_receiving] at hnext
  show ((k.ledger.take k.session.receiving a).enterAll (k.session.take a).receiving
    (k.session.effects a)).LosesNone
  rw [hr, hnext]
  exact (h.take a).enterAll _

theorem losesNone_run (h : k.ledger.LosesNone) (hr : k.session.receiving = true)
    {steps : List Step} (hopen : Step.closeReceiver ∉ steps) :
    (k.run steps).ledger.LosesNone ∧ (k.run steps).session.receiving = true := by
  induction steps generalizing k with
  | nil => exact ⟨h, hr⟩
  | cons a rest ih =>
      rw [List.mem_cons, not_or] at hopen
      obtain ⟨hstep, hreceiving⟩ := losesNone_step h hr (Ne.symm hopen.1)
      exact ih hstep hreceiving hopen.2

/-- **NOTHING IS IN FLIGHT** once every request is answered and every event is applied. -/
theorem Sound.idle (h : k.Sound) (hnone : k.ledger.LosesNone)
    (hout : k.session.outstanding = []) (happlied : k.session.unapplied = []) :
    k.ledger.unsettled = ∅ := by
  have htickets : k.ledger.tickets = [] := by
    have hlen := h.tracks.tickets.length_eq
    rw [hout] at hlen
    exact List.eq_nil_of_length_eq_zero hlen
  have horigins : k.ledger.origins = [] := by
    have hlen := h.tracks.waiting.length_eq
    rw [happlied] at hlen
    exact List.eq_nil_of_length_eq_zero hlen
  rw [Finset.eq_empty_iff_forall_notMem]
  intro n hn
  obtain ⟨hlt, hnot⟩ := Ledger.mem_unsettled.mp hn
  have hpos := hnone n hlt
  simp only [Ledger.places, htickets, horigins, List.count_nil,
    List.count_eq_zero_of_not_mem hnot] at hpos
  exact absurd hpos (Nat.lt_irrefl 0)

end Chronicle

/-! ## An end to it -/

/-- Taking one item out of a list takes its share out of a sum. -/
theorem sum_map_eraseIdx {α : Type} (f : α → Nat) {as : List α} {i : Nat} {a : α}
    (h : as[i]? = some a) : (as.map f).sum = f a + ((as.eraseIdx i).map f).sum := by
  obtain ⟨hi, rfl⟩ := List.getElem?_eq_some_iff.mp h
  have hp : (as[i] :: as.eraseIdx i).Perm as := List.getElem_cons_eraseIdx_perm hi
  exact (hp.map f).sum_eq.symm

theorem sum_map_of_forall {α : Type} {f : α → Nat} {as : List α} {n : Nat}
    (h : ∀ a ∈ as, f a = n) : (as.map f).sum = as.length * n := by
  have hall : ∀ m ∈ as.map f, m = n := by
    intro m hm
    obtain ⟨a, ha, rfl⟩ := List.mem_map.mp hm
    exact h a ha
  rw [List.sum_eq_card_nsmul _ n hall, List.length_map, Nat.nsmul_eq_mul]

/-- The steps that an event which waits still gives occasion for: it is applied, and the list
    request that it may call for is answered and that answer applied. -/
def ConsoleEvent.work (event : ConsoleEvent) : Nat := if event.callsForRefresh then 3 else 1

/-- The steps that a ticket still gives occasion for: it is answered, and its outcome gives
    occasion for its own. -/
def Ticket.work (t : Ticket) : Nat := if t.operation.isFetch then 2 else 4

/-- The outcome of a list request calls for no other. -/
theorem Ticket.work_outcome (t : Ticket) (d : Delivery) :
    (t.outcome d).work + 1 ≤ t.work := by
  have hsettles := (t.outcome_endsWith d).settlesOperation_eq
  simp only [ConsoleEvent.work, Ticket.work]
  cases hfetch : t.operation.isFetch with
  | false =>
      rw [if_neg Bool.false_ne_true]
      split <;> decide
  | true =>
      have hcalls : (t.outcome d).callsForRefresh = false := by
        rw [← Bool.not_eq_true]
        intro hc
        rw [ConsoleEvent.settlesOperation_of_callsForRefresh hc, hfetch] at hsettles
        exact absurd hsettles.symm Bool.false_ne_true
      rw [hcalls]
      exact Nat.le_refl 2

namespace Session

/-- The steps that a session still gives occasion for when nobody asks for anything. -/
def work (s : Session) : Nat :=
  (s.outstanding.map Ticket.work).sum + (s.unapplied.map ConsoleEvent.work).sum

theorem perform_unapplied (s : Session) (e : Effect) :
    (s.perform e).1.unapplied = s.unapplied ++ if s.receiving then e.told else [] := by
  have htell (events : List ConsoleEvent) : (s.tell events).1.unapplied
      = s.unapplied ++ if s.receiving then events else [] := by
    simp only [tell]
    cases s.receiving with
    | true => rfl
    | false => exact (List.append_nil _).symm
  cases e with
  | tell event => exact htell [event]
  | begin client op =>
      show s.unapplied = s.unapplied ++ if s.receiving then [] else []
      rw [ite_self, List.append_nil]

theorem performAll_unapplied (s : Session) (effects : List Effect) :
    (s.performAll effects).1.unapplied
      = s.unapplied ++ if s.receiving then effects.flatMap Effect.told else [] := by
  induction effects generalizing s with
  | nil =>
      show s.unapplied = s.unapplied ++ if s.receiving then [] else []
      rw [ite_self, List.append_nil]
  | cons e rest ih =>
      rw [performAll_cons, ih, perform_receiving, perform_unapplied, List.append_assoc,
        List.flatMap_cons]
      cases s.receiving with
      | true => rfl
      | false => rfl

/-- **WHAT AN APPLIED EVENT LEAVES**: it waits no more, and what it brings is one ticket at
    most, for a list request. -/
theorem apply_leaves {s : Session} {i : Nat} {event : ConsoleEvent}
    (he : s.unapplied[i]? = some event) :
    (s.step (.apply i)).1.unapplied = s.unapplied.eraseIdx i
      ∧ ∃ tickets, (s.step (.apply i)).1.outstanding = s.outstanding ++ tickets
        ∧ (∀ t ∈ tickets, t.operation.isFetch = true)
        ∧ tickets.length ≤ event.callsForRefresh.toNat := by
  have htake : s.take (.apply i) = { s with
      unapplied := s.unapplied.eraseIdx i, console := (s.console.apply event).1 } := by
    simp only [take, he]
  refine ⟨?_, ((s.errand? (.apply i)).map (Ticket.mk (s.take (.apply i)).console.client)).toList,
    ?_, ?_⟩
  · -- an applied event has no notice
    rw [step_eq, performAll_unapplied, effects_told, htake]
    show _ ++ (if s.receiving then [] else []) = _
    rw [ite_self, List.append_nil]
  · rw [step_eq, performAll_outstanding, effects_tickets, htake]
  · simp only [errand?, he, Option.any_some]
    cases hbegins : event.callsForRefresh && s.console.canRefresh with
    | false => exact ⟨fun _ ht => absurd ht List.not_mem_nil, Nat.zero_le _⟩
    | true =>
        rw [Bool.and_eq_true] at hbegins
        refine ⟨?_, ?_⟩
        · intro t ht
          rw [List.mem_singleton.mp ht]
          rfl
        · rw [hbegins.1]
          exact Nat.le_refl 1

/-- **AN APPLIED EVENT** takes from the work that is left. -/
theorem work_apply {s : Session} {i : Nat} {event : ConsoleEvent}
    (he : s.unapplied[i]? = some event) : (s.step (.apply i)).1.work + 1 ≤ s.work := by
  obtain ⟨hunapplied, tickets, houtstanding, htickets, hone⟩ := apply_leaves he
  have hrequests : (tickets.map Ticket.work).sum = tickets.length * 2 := by
    refine sum_map_of_forall ?_
    intro t ht
    rw [Ticket.work, htickets t ht, if_pos rfl]
  have hwork : event.work = 1 + 2 * event.callsForRefresh.toNat := by
    rw [ConsoleEvent.work]
    cases event.callsForRefresh <;> rfl
  simp only [work, hunapplied, houtstanding, List.map_append, List.sum_append, hrequests]
  rw [sum_map_eraseIdx ConsoleEvent.work he, hwork]
  omega

/-- **WHAT A REPLY LEAVES**: the ticket is gone, and its outcome waits if it is heard. -/
theorem answer_leaves {s : Session} {i : Nat} {t : Ticket} (ht : s.outstanding[i]? = some t)
    (d : Delivery) :
    (s.step (.answer i d)).1.outstanding = s.outstanding.eraseIdx i
      ∧ (s.step (.answer i d)).1.unapplied
        = s.unapplied ++ if s.receiving then [t.outcome d] else [] := by
  simp only [step, ht, tell]
  cases s.receiving with
  | true => exact ⟨rfl, rfl⟩
  | false => exact ⟨rfl, (List.append_nil _).symm⟩

/-- **A REPLY** does as well. -/
theorem work_answer {s : Session} {i : Nat} {t : Ticket} (ht : s.outstanding[i]? = some t)
    (d : Delivery) : (s.step (.answer i d)).1.work + 1 ≤ s.work := by
  have hwork := t.work_outcome d
  obtain ⟨houtstanding, hunapplied⟩ := answer_leaves ht d
  have hheard : ((if s.receiving then [t.outcome d] else []).map ConsoleEvent.work).sum
      ≤ (t.outcome d).work := by
    cases s.receiving with
    | true => exact Nat.le_refl _
    | false => exact Nat.zero_le _
  simp only [work, hunapplied, houtstanding, List.map_append, List.sum_append]
  rw [sum_map_eraseIdx Ticket.work ht]
  omega

/-- Replies and applied events, each of which finds what it settles. -/
inductive Settling : Session → List Step → Prop where
  | rest (s : Session) : Settling s []
  | answer {s : Session} {i : Nat} {t : Ticket} (d : Delivery) {rest : List Step} :
      s.outstanding[i]? = some t → Settling (s.step (.answer i d)).1 rest →
      Settling s (.answer i d :: rest)
  | apply {s : Session} {i : Nat} {event : ConsoleEvent} {rest : List Step} :
      s.unapplied[i]? = some event → Settling (s.step (.apply i)).1 rest →
      Settling s (.apply i :: rest)

/-- **THERE IS AN END** to replies and applied events. -/
theorem Settling.length_le {s : Session} {steps : List Step} (h : Settling s steps) :
    steps.length + (s.run steps).1.work ≤ s.work := by
  induction h with
  | rest s => exact Nat.le_of_eq (Nat.zero_add _)
  | @answer s i t d rest ht _ ih =>
      have hone := work_answer ht d
      show rest.length + 1 + ((s.step (.answer i d)).1.run rest).1.work ≤ _
      omega
  | @apply s i event rest he _ ih =>
      have hone := work_apply he
      show rest.length + 1 + ((s.step (.apply i)).1.run rest).1.work ≤ _
      omega

/-- There are steps after which nothing is outstanding and nothing waits. -/
theorem exists_settling (s : Session) :
    ∃ steps, Settling s steps ∧ (s.run steps).1.outstanding = []
      ∧ (s.run steps).1.unapplied = [] := by
  induction hw : s.work using Nat.strongRecOn generalizing s with
  | ind w ih =>
      cases hout : s.outstanding with
      | cons t others =>
          have ht : s.outstanding[0]? = some t := by
            rw [hout]
            rfl
          have hless := work_answer ht .closed
          obtain ⟨steps, hsettling, hdone⟩ := ih _ (by omega) (s.step (.answer 0 .closed)).1 rfl
          exact ⟨.answer 0 .closed :: steps, .answer _ ht hsettling, hdone⟩
      | nil =>
          cases hun : s.unapplied with
          | cons event others =>
              have he : s.unapplied[0]? = some event := by
                rw [hun]
                rfl
              have hless := work_apply he
              obtain ⟨steps, hsettling, hdone⟩ := ih _ (by omega) (s.step (.apply 0)).1 rfl
              exact ⟨.apply 0 :: steps, .apply he hsettling, hdone⟩
          | nil => exact ⟨[], .rest s, hout, hun⟩

end Session

/-! ## The loop over the events -/

/-- The failure of what cannot be prepared calls for nothing. -/
theorem Ticket.callsForRefresh_of_unsent {t : Ticket} (h : t.request? = none) (d : Delivery) :
    (t.outcome d).callsForRefresh = false := by
  obtain ⟨message, hfails | hfails⟩ := fails_of_unsent h d
  · rw [hfails]
    rfl
  · rw [hfails]
    rfl

namespace Session

/-- The number of tickets without a request. -/
def unsent (s : Session) : Nat := s.outstanding.countP (·.request?.isNone)

/-- The events that the loop over them still takes in when no reply comes: those that wait,
    each with the failure of the list request that it may bring, and the failures that are
    not told yet. -/
def toDrain (s : Session) : Nat :=
  (s.unapplied.map fun event => 1 + event.callsForRefresh.toNat).sum + s.unsent

theorem toDrain_le (s : Session) : s.toDrain ≤ 2 * s.unapplied.length + s.unsent := by
  refine Nat.add_le_add_right ?_ _
  induction s.unapplied with
  | nil => exact Nat.le_refl 0
  | cons event rest ih =>
      have hone := Bool.toNat_le event.callsForRefresh
      rw [List.map_cons, List.sum_cons, List.length_cons]
      omega

/-- An event that is applied is one less to take in, though it may bring a failure. -/
theorem toDrain_apply {s : Session} {i : Nat} {event : ConsoleEvent}
    (he : s.unapplied[i]? = some event) :
    (s.step (.apply i)).1.toDrain + 1 ≤ s.toDrain := by
  obtain ⟨hunapplied, tickets, houtstanding, -, hone⟩ := apply_leaves he
  have hunsent : tickets.countP (·.request?.isNone) ≤ tickets.length := List.countP_le_length
  simp only [toDrain, unsent, hunapplied, houtstanding, List.countP_append]
  rw [sum_map_eraseIdx (fun event => 1 + event.callsForRefresh.toNat) he]
  omega

/-- A failure that is told is to be taken in, as it was before. -/
theorem toDrain_fails {s : Session} {i : Nat} {t : Ticket} (ht : s.outstanding[i]? = some t)
    (hunsent : t.request? = none) (d : Delivery) :
    (s.step (.answer i d)).1.toDrain ≤ s.toDrain := by
  obtain ⟨houtstanding, hunapplied⟩ := answer_leaves ht d
  have hheard : ((if s.receiving then [t.outcome d] else []).map fun event =>
      1 + event.callsForRefresh.toNat).sum ≤ 1 := by
    cases s.receiving with
    | false => exact Nat.zero_le 1
    | true =>
        show 1 + (t.outcome d).callsForRefresh.toNat + 0 ≤ 1
        rw [Ticket.callsForRefresh_of_unsent hunsent d]
        exact Nat.le_refl 1
  have hcount : s.unsent = (s.outstanding.eraseIdx i).countP (·.request?.isNone) + 1 := by
    obtain ⟨hi, rfl⟩ := List.getElem?_eq_some_iff.mp ht
    have hp := List.getElem_cons_eraseIdx_perm hi
    rw [unsent, ← hp.countP_eq, List.countP_cons, hunsent]
    rfl
  have hless : (s.step (.answer i d)).1.unsent + 1 = s.unsent := by
    rw [hcount, unsent, houtstanding]
  simp only [toDrain, hunapplied, List.map_append, List.sum_append]
  omega

/-- The tickets without a request end, and the others stay; what the end of one of them
    keeps is kept. -/
theorem run_failureSteps {P : Session → Prop}
    (hstep : ∀ (s : Session) i t, P s → s.outstanding[i]? = some t → t.request? = none →
      P (s.step (.answer i .closed)).1)
    {s : Session} (hs : P s) (sent : List Ticket) {tickets : List Ticket}
    (hout : s.outstanding = sent ++ tickets) :
    P (s.run (failureSteps sent.length tickets)).1
      ∧ (s.run (failureSteps sent.length tickets)).1.outstanding
        = sent ++ tickets.filter (·.request?.isSome) := by
  induction tickets generalizing s sent with
  | nil => exact ⟨hs, hout⟩
  | cons t rest ih =>
      have ht : s.outstanding[sent.length]? = some t := by
        rw [hout, List.getElem?_append_right (Nat.le_refl _), Nat.sub_self]
        rfl
      simp only [failureSteps, List.filter_cons]
      cases hr : t.request? with
      | some request =>
          -- it stays, and the next one stands behind it
          have hrest := ih hs (sent ++ [t]) (by rw [hout, List.append_assoc]; rfl)
          rw [List.length_append, List.append_assoc] at hrest
          exact hrest
      | none =>
          refine ih (hstep s sent.length t hs ht hr) sent ?_
          rw [(answer_leaves ht .closed).1, hout, List.eraseIdx_append_of_length_le
            (Nat.le_refl _), Nat.sub_self]
          rfl

theorem tellFailures_keeps {P : Session → Prop}
    (hstep : ∀ (s : Session) i t, P s → s.outstanding[i]? = some t → t.request? = none →
      P (s.step (.answer i .closed)).1)
    {s : Session} (hs : P s) : P s.tellFailures.1 :=
  (run_failureSteps hstep hs [] rfl).1

/-- All of them have ended. -/
theorem unsent_tellFailures (s : Session) : s.tellFailures.1.unsent = 0 := by
  have hout : s.tellFailures.1.outstanding = s.outstanding.filter (·.request?.isSome) :=
    (run_failureSteps (P := fun _ => True) (fun _ _ _ _ _ _ => trivial) trivial [] rfl).2
  rw [unsent, hout, List.countP_eq_zero]
  intro t ht
  have hsome := (List.mem_filter.mp ht).2
  rw [← Option.not_isSome, hsome]
  exact Bool.false_ne_true

theorem toDrain_tellFailures (s : Session) : s.tellFailures.1.toDrain ≤ s.toDrain := by
  refine tellFailures_keeps (P := fun next => next.toDrain ≤ s.toDrain) ?_ (Nat.le_refl _)
  intro next i t hle ht hunsent
  exact Nat.le_trans (toDrain_fails ht hunsent .closed) hle

end Session

namespace Dashboard

/-- The loop over the events: the oldest is applied and shown, again and again, until none
    is left. What has no request may end at any time. -/
inductive TakesIn : Dashboard → List ConsoleEvent → Dashboard × List Request → Prop where
  | done {d : Dashboard} : d.session.unapplied = [] → TakesIn d [] (d, [])
  | next {d last : Dashboard} {event : ConsoleEvent} {others events : List ConsoleEvent}
      {requests : List Request} :
      d.session.unapplied = event :: others →
      TakesIn (d.takeEvent event).1 events (last, requests) →
      TakesIn d (event :: events) (last, (d.takeEvent event).2 ++ requests)
  | fails {d : Dashboard} {i : Nat} {t : Ticket} (delivery : Delivery)
      {events : List ConsoleEvent} {result : Dashboard × List Request} :
      d.session.outstanding[i]? = some t → t.request? = none →
      TakesIn (d.advance (.answer i delivery)).1 events result →
      TakesIn d events result

theorem TakesIn.unapplied {d : Dashboard} {events : List ConsoleEvent}
    {result : Dashboard × List Request} (h : d.TakesIn events result) :
    result.1.session.unapplied = [] := by
  induction h with
  | done hnone => exact hnone
  | next _ _ ih => exact ih
  | fails _ _ _ _ ih => exact ih

/-- **THE LOOP ENDS**, whenever the failures are told. -/
theorem TakesIn.length_le {d : Dashboard} {events : List ConsoleEvent}
    {result : Dashboard × List Request} (h : d.TakesIn events result) :
    events.length ≤ d.session.toDrain := by
  induction h with
  | done _ => exact Nat.zero_le _
  | @next d last event others events requests hun _ ih =>
      have he : d.session.unapplied[0]? = some event := by
        rw [hun]
        rfl
      have hless : (d.takeEvent event).1.session.toDrain + 1 ≤ d.session.toDrain :=
        Session.toDrain_apply he
      rw [List.length_cons]
      omega
  | fails delivery ht hunsent _ ih =>
      exact Nat.le_trans ih (Session.toDrain_fails ht hunsent delivery)

/-- The failures may be told first. -/
theorem TakesIn.of_tellFailures {d : Dashboard} {events : List ConsoleEvent}
    {result : Dashboard × List Request} (h : d.tellFailures.TakesIn events result) :
    d.TakesIn events result := by
  refine Session.tellFailures_keeps (s := d.session) (P := fun s =>
    ({ d with session := s } : Dashboard).TakesIn events result → d.TakesIn events result)
    ?_ id h
  intro s i t hs ht hunsent hnext
  exact hs (.fails .closed ht hunsent hnext)

/-- **A NUMBER OF ROUNDS** that is large enough is all of the loop, and leaves nothing to be
    told. -/
theorem takesIn_drainEvents (d : Dashboard) {n : Nat} (h : d.session.toDrain ≤ n) :
    (∃ events, d.TakesIn events (d.drainEvents n))
      ∧ (d.drainEvents n).1.session.unsent = 0 := by
  induction n generalizing d with
  | zero =>
      have hnone : d.session.unsent = 0 := by
        rw [Session.toDrain] at h
        omega
      refine ⟨⟨[], .done ?_⟩, hnone⟩
      cases hun : d.session.unapplied with
      | nil => rfl
      | cons event others =>
          -- an event that waits is one to take in
          have he : d.session.unapplied[0]? = some event := by
            rw [hun]
            rfl
          have hless := Session.toDrain_apply he
          omega
  | succ n ih =>
      simp only [drainEvents]
      cases hun : d.tellFailures.session.unapplied with
      | nil => exact ⟨⟨[], .of_tellFailures (.done hun)⟩, d.session.unsent_tellFailures⟩
      | cons event others =>
          have he : d.tellFailures.session.unapplied[0]? = some event := by
            rw [hun]
            rfl
          have htold : d.tellFailures.session.toDrain ≤ d.session.toDrain :=
            d.session.toDrain_tellFailures
          have hless : (d.tellFailures.takeEvent event).1.session.toDrain + 1
              ≤ d.tellFailures.session.toDrain := Session.toDrain_apply he
          obtain ⟨⟨events, htakes⟩, hnone⟩ := ih (d.tellFailures.takeEvent event).1 (by omega)
          exact ⟨⟨event :: events, .of_tellFailures (.next hun htakes)⟩, hnone⟩

/-- The loop of a round is long enough. -/
theorem toDrain_le_rounds (d : Dashboard) : d.session.toDrain
    ≤ 2 * d.session.unapplied.length + d.session.outstanding.length := by
  have hle := d.session.toDrain_le
  have hunsent : d.session.unsent ≤ d.session.outstanding.length := List.countP_le_length
  omega

end Dashboard

/-! ## A whole run -/

/-- What comes of a console that is left alone, with the replies and applied events that
    follow. -/
structure Chronicle.Quiesces (k : Chronicle) (steps : List Step) : Prop where
  -- two outcomes at most for a run or save that is unsettled, one for a list request
  outcomes : (k.session.outcomes steps).length
    ≤ 2 * k.ledger.operations.card + k.ledger.fetches.card
  one_fetch : k.ledger.fetches.card ≤ 1
  -- what begins are list requests, no more than there are unsettled runs and saves
  begins : ∃ clients : List Client,
    (k.run steps).ledger.begun = k.ledger.begun ++ clients.map (Ticket.mk · .fetch)
      ∧ clients.length ≤ k.ledger.operations.card
  -- when all is answered and applied, nothing is in flight
  idle : (k.run steps).session.outstanding = [] → (k.run steps).session.unapplied = [] →
    (k.run steps).session.console.isBusy = false ∧ (k.run steps).ledger.unsettled = ∅
  -- that comes to pass: there are only so many steps that find what they settle
  ends : k.session.Settling steps → steps.length ≤ k.session.work
  attained : ∃ more, (k.run steps).session.Settling more
    ∧ ((k.run steps).run more).session.outstanding = []
    ∧ ((k.run steps).run more).session.unapplied = []
  -- and so does the loop over the events that wait, whenever the failures are told that are
  -- not told yet, and those of the list requests that it brings; its rounds are enough
  drains : ∀ (d : Dashboard) (rounds : Nat), d.session = k.session →
    2 * k.session.unapplied.length + k.session.outstanding.length ≤ rounds →
    (∃ events, d.TakesIn events (d.drainEvents rounds))
      ∧ (d.drainEvents rounds).1.session.unsent = 0
      ∧ ∀ events result, d.TakesIn events result →
        events.length ≤ 2 * k.session.unapplied.length + k.session.unsent

/-- **QUIESCENCE.** A console that has seen nothing but its own events, with an open
    receiver, comes to rest once it is left alone. -/
theorem Chronicle.quiescence (c : Client) (past rest : List Step)
    (own : ∀ a ∈ past, a.isOwn = true) (hopen : Step.closeReceiver ∉ past)
    (settling : ∀ a ∈ rest, a.isSettling = true) :
    ((opened c).run past).session = (Session.run { console := { client := c } } past).1
      ∧ ((opened c).run past).Quiesces rest := by
  refine ⟨(opened c).run_session past, ?_⟩
  have hsound := (opened_sound c).run own
  have hvoid : (opened c).ledger.LosesNone := fun n hn => absurd hn (Nat.not_lt_zero n)
  obtain ⟨hnone, hreceiving⟩ := losesNone_run hvoid rfl hopen
  generalize (opened c).run past = k at hsound hnone hreceiving
  refine
    { outcomes := ?_
      one_fetch := ?_
      begins := ?_
      idle := ?_
      ends := ?_
      attained := ?_
      drains := ?_ }
  · have hall := hsound.run_outlook settling
    simp only [Console.outlook] at hall
    rw [hsound.balances.inFlight, hsound.balances.loading] at hall
    omega
  · rw [← hsound.balances.loading]
    exact Bool.toNat_le _
  · obtain ⟨clients, hbegun, hle⟩ := hsound.run_begins settling
    rw [hsound.balances.inFlight] at hle
    exact ⟨clients, hbegun, Nat.le_of_add_right_le hle⟩
  · intro hout hun
    have hclosed : Step.closeReceiver ∉ rest := by
      intro hmem
      exact absurd (settling _ hmem) Bool.false_ne_true
    have hown := fun a ha => Step.isOwn_of_isSettling (settling a ha)
    have hlast := hsound.run hown
    have hidle := hlast.idle (losesNone_run hnone hreceiving hclosed).1 hout hun
    exact ⟨hlast.isBusy_iff.mpr hidle, hidle⟩
  · intro hsettling
    exact Nat.le_of_add_right_le hsettling.length_le
  · obtain ⟨more, hsettling, hout, hun⟩ := (k.run rest).session.exists_settling
    rw [← run_session] at hout hun
    exact ⟨more, hsettling, hout, hun⟩
  · intro d rounds hd hrounds
    rw [← hd] at hrounds ⊢
    obtain ⟨htakes, hnone⟩ :=
      d.takesIn_drainEvents (Nat.le_trans d.toDrain_le_rounds hrounds)
    refine ⟨htakes, hnone, ?_⟩
    intro events result htakes
    exact Nat.le_trans htakes.length_le d.session.toDrain_le

/-- A task is run at an address that answers; then discovery tells another one, where no
    request can be sent to. -/
def strandedRun : List Step :=
  [.discovered (.serviceUrlChanged "http://10.0.0.1:3001/"), .runNow { id := some 1 },
    .discovered (.serviceUrlChanged "nowhere")]

/-- The run is answered, and all events are applied: the list request that the result of
    the run brings cannot be prepared, and its failure is told and applied last. -/
def strandedRest : List Step :=
  [.answer 0 (.complete 200 (Utf8.encode "\x7b\"success\":true,\"message\":\"queued\"\x7d")),
    .apply 0, .apply 0, .apply 0, .answer 0 .closed, .apply 0]

/-- One run and no list request are left; two outcomes are applied, and one list request
    begins and fails. -/
theorem Chronicle.quiescence_stranded :
    (∀ a ∈ strandedRun, a.isOwn = true) ∧ Step.closeReceiver ∉ strandedRun
      ∧ (∀ a ∈ strandedRest, a.isSettling = true)
      ∧ (((opened {}).run strandedRun).session.outcomes strandedRest).length = 2
      ∧ (((opened {}).run strandedRun).ledger.operations,
          ((opened {}).run strandedRun).ledger.fetches) = ({0}, ∅)
      ∧ (((opened {}).run strandedRun).run strandedRest).session.console.isBusy = false := by
  have hown : ∀ a ∈ strandedRun, a.isOwn = true := by decide
  have hopen : Step.closeReceiver ∉ strandedRun := by
    intro hmem
    simp only [strandedRun, List.mem_cons, List.not_mem_nil, or_false, reduceCtorEq] at hmem
  have hsettling : ∀ a ∈ strandedRest, a.isSettling = true := by decide
  obtain ⟨-, hquiesces⟩ := quiescence {} strandedRun strandedRest hown hopen hsettling
  have hidle := hquiesces.idle (by decide +kernel) (by decide +kernel)
  exact ⟨hown, hopen, hsettling, by decide +kernel, by decide +kernel, hidle.1⟩

end TaskConsole
