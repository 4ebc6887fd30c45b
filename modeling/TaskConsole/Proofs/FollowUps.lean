import TaskConsole.Proofs.Bookkeeping

/-! # Follow-ups — the list after a change that succeeded

    When a run or a save has succeeded, the list on the screen is out of date, and the
    console asks for it anew as the event is applied.  What comes of that depends on
    what is in flight then:

    * with no list request in flight, one begins in that very step, or, without an
      address, is put off (`refetches`, `defers`);
    * with one in flight, nothing begins.  That request has been settled when the
      console is idle again (`settled_of_idle`), but the scheduler may have answered it
      before the change, so that the list stays as it was (`staleRun`). -/

namespace TaskConsole

/-! ## Successes -/

/-- A run or a save has succeeded. -/
def ConsoleEvent.isSuccess : ConsoleEvent → Bool
  | runResult v => v.success
  | saveResult r => r.ok
  | _ => false

theorem ConsoleEvent.callsForRefresh_of_isSuccess {event : ConsoleEvent}
    (h : event.isSuccess = true) : event.callsForRefresh = true := by
  cases event with
  | runResult v => rfl
  | saveResult r => exact h
  | _ => exact absurd h Bool.false_ne_true

/-! ## What stays in the books -/

namespace Ledger

theorem settled_hear (l : Ledger) (receiving : Bool) (origin : Option Nat) :
    (l.hear receiving origin).settled = l.settled := by
  simp only [hear]
  split <;> rfl

theorem settled_enterAll (l : Ledger) (receiving : Bool) (effects : List Effect) :
    (l.enterAll receiving effects).settled = l.settled := by
  induction effects generalizing l with
  | nil => rfl
  | cons e rest ih =>
      show ((l.enter receiving e).enterAll receiving rest).settled = l.settled
      rw [ih]
      cases e with
      | tell event => exact l.settled_hear receiving none
      | begin client op => rfl

/-- What is settled stays settled. -/
theorem settled_take (l : Ledger) (receiving : Bool) (a : Step) :
    l.settled <+: (l.take receiving a).settled := by
  cases a with
  | answer i d =>
      simp only [take]
      cases l.tickets[i]? with
      | none => exact List.prefix_rfl
      | some n =>
          rw [settled_hear]
  | apply i =>
      simp only [take]
      cases l.origins[i]? with
      | none => exact List.prefix_rfl
      | some origin => exact List.prefix_append _ _
  | _ => exact List.prefix_rfl

end Ledger

namespace Chronicle

variable {k : Chronicle}

theorem step_settled (k : Chronicle) (a : Step) :
    k.ledger.settled <+: (k.step a).ledger.settled := by
  show _ <+: ((k.ledger.take _ a).enterAll _ (k.session.effects a)).settled
  rw [Ledger.settled_enterAll]
  exact k.ledger.settled_take _ a

/-- What was begun keeps its number. -/
theorem run_begun (k : Chronicle) (steps : List Step) :
    k.ledger.begun <+: (k.run steps).ledger.begun := by
  induction steps generalizing k with
  | nil => exact List.prefix_rfl
  | cons a rest ih =>
      refine List.IsPrefix.trans ?_ (ih (k.step a))
      rw [step_begun]
      exact List.prefix_append _ _

/-! ## Points of a run -/

theorem run_append (k : Chronicle) (steps more : List Step) :
    k.run (steps ++ more) = (k.run steps).run more := by
  induction steps generalizing k with
  | nil => rfl
  | cons a rest ih => exact ih (k.step a)

/-- The chronicle of a run before its `n`-th step. -/
def before (c : Client) (steps : List Step) (n : Nat) : Chronicle :=
  (opened c).run (steps.take n)

theorem before_succ (c : Client) {steps : List Step} {n : Nat} {a : Step}
    (h : steps[n]? = some a) : before c steps (n + 1) = (before c steps n).step a := by
  rw [before, List.take_add_one, h, run_append]
  rfl

/-- A later point is reached from an earlier one. -/
theorem before_of_le (c : Client) (steps : List Step) {n m : Nat} (h : n ≤ m) :
    ∃ more, before c steps m = (before c steps n).run more := by
  refine ⟨(steps.drop n).take (m - n), ?_⟩
  rw [before, before, ← run_append, ← List.take_add, Nat.add_sub_cancel' h]

theorem before_sound (c : Client) {steps : List Step} (own : ∀ a ∈ steps, a.isOwn = true)
    (n : Nat) : (before c steps n).Sound :=
  (opened_sound c).run fun a ha => own a (List.mem_of_mem_take ha)

/-- Nothing is in flight, and everything that was received is applied. -/
def IsIdle (k : Chronicle) : Prop :=
  k.session.console.isBusy = false ∧ k.session.unapplied = []

/-- A list request begins between two points of a run. -/
def Fetches (c : Client) (steps : List Step) (n m : Nat) : Prop :=
  ∃ j a, n ≤ j ∧ j < m ∧ steps[j]? = some a
    ∧ (before c steps j).session.errand? a = some .fetch

/-- A success is applied in a step. -/
def Applies (c : Client) (steps : List Step) (n : Nat) : Prop :=
  ∃ i event, steps[n]? = some (.apply i)
    ∧ (before c steps n).session.unapplied[i]? = some event ∧ event.isSuccess = true

/-! ## A success is applied -/

/-- The console after an applied event. -/
theorem step_apply {i : Nat} {event : ConsoleEvent}
    (he : k.session.unapplied[i]? = some event) :
    (k.step (.apply i)).session.console = (k.session.console.apply event).1 := by
  show (k.session.step (.apply i)).1.console = _
  rw [Session.step_console]
  simp only [Session.take, he]

theorem errand?_apply {i : Nat} {event : ConsoleEvent}
    (he : k.session.unapplied[i]? = some event) (hc : event.callsForRefresh = true) :
    k.session.errand? (.apply i)
      = if k.session.console.canRefresh then some .fetch else none := by
  simp only [Session.errand?, he, Option.any_some, hc, Bool.true_and]

/-- **WITH NONE IN FLIGHT**, a list request begins in that step. -/
theorem refetches {i : Nat} {event : ConsoleEvent}
    (he : k.session.unapplied[i]? = some event) (hc : event.callsForRefresh = true)
    (hl : k.session.console.loading = false) {base : String}
    (hb : k.session.console.client.baseUrl = some base) :
    k.session.errand? (.apply i) = some .fetch
      ∧ (k.step (.apply i)).ledger.begun
        = k.ledger.begun ++ [⟨k.session.console.client, .fetch⟩]
      ∧ (k.session.step (.apply i)).2.requests
        = (k.session.console.client.prepare .fetch).toOption.toList := by
  have herrand : k.session.errand? (.apply i) = some .fetch := by
    rw [errand?_apply he hc, Console.canRefresh, hl, hb]
    rfl
  have hclient : (k.session.step (.apply i)).1.console.client = k.session.console.client := by
    rw [Session.step_console]
    simp only [Session.take, he, Console.apply_client]
  refine ⟨herrand, ?_, ?_⟩
  · rw [step_begun, herrand]
    show _ ++ [Ticket.mk (k.session.step (.apply i)).1.console.client .fetch] = _
    rw [hclient]
  · rw [Session.step_requests_eq, herrand, Option.bind_some, hclient]

/-- Without an address, it is put off. -/
theorem defers {i : Nat} {event : ConsoleEvent}
    (he : k.session.unapplied[i]? = some event) (hc : event.callsForRefresh = true)
    (hl : k.session.console.loading = false)
    (hb : k.session.console.client.baseUrl = none) :
    (k.step (.apply i)).session.console.pendingRefresh = true := by
  have happlying := k.session.console.apply_applying event
  rw [step_apply he]
  generalize k.session.console.apply event = after at happlying ⊢
  cases happlying with
  | begins _ _ hsome => exact absurd hb hsome
  | defers => rfl
  | skips _ hup => exact absurd (hl.symm.trans hup) Bool.false_ne_true
  | settles hno => exact absurd (hno.symm.trans hc) Bool.false_ne_true

/-- **WITH ONE IN FLIGHT**, nothing begins, and nothing is put off. -/
theorem skips {i : Nat} {event : ConsoleEvent}
    (he : k.session.unapplied[i]? = some event) (hc : event.callsForRefresh = true)
    (hl : k.session.console.loading = true) :
    (k.step (.apply i)).ledger.begun = k.ledger.begun
      ∧ (k.step (.apply i)).session.console.pendingRefresh
        = k.session.console.pendingRefresh
      ∧ (k.step (.apply i)).session.console.loading = true := by
  refine ⟨?_, ?_⟩
  · rw [step_begun, errand?_apply he hc, Console.canRefresh, hl]
    exact List.append_nil _
  · have happlying := k.session.console.apply_applying event
    rw [step_apply he]
    generalize k.session.console.apply event = after at happlying ⊢
    cases happlying with
    | begins _ hdown => exact absurd (hdown.symm.trans hl) Bool.false_ne_true
    | defers _ hdown => exact absurd (hdown.symm.trans hl) Bool.false_ne_true
    | skips => exact ⟨rfl, (k.session.console.settledBy_loading hc).trans hl⟩
    | settles hno => exact absurd (hno.symm.trans hc) Bool.false_ne_true

/-- The request that was in flight then is in flight still. -/
theorem Sound.still_fetching {k : Chronicle} {i : Nat} {event : ConsoleEvent}
    (h : (k.step (.apply i)).Sound) (he : k.session.unapplied[i]? = some event)
    (hc : event.callsForRefresh = true) (hl : k.session.console.loading = true) :
    ∃ number ∈ k.ledger.fetches, number ∈ (k.step (.apply i)).ledger.fetches := by
  obtain ⟨hbegun, -, hloading⟩ := skips he hc hl
  have hcard : 0 < (k.step (.apply i)).ledger.fetches.card := by
    rw [← h.balances.loading, hloading]
    exact Nat.one_pos
  obtain ⟨number, hnumber⟩ := Finset.card_pos.mp hcard
  refine ⟨number, ?_, hnumber⟩
  obtain ⟨hunsettled, hfetch⟩ := Finset.mem_filter.mp hnumber
  obtain ⟨hlt, hnot⟩ := Ledger.mem_unsettled.mp hunsettled
  rw [hbegun] at hlt
  -- it was begun before the step, and not settled in any
  refine Finset.mem_filter.mpr ⟨Ledger.mem_unsettled.mpr ⟨hlt, ?_⟩, ?_⟩
  · exact fun hmem => hnot ((k.step_settled _).subset hmem)
  · rw [Ledger.isFetch, Ledger.operation?, hbegun] at hfetch
    exact hfetch

/-- **AN IDLE CONSOLE** has settled everything that was begun. -/
theorem Sound.settled_of_idle {k : Chronicle} (h : k.Sound) (hidle : k.IsIdle) {number : Nat}
    (hlt : number < k.ledger.begun.length) : number ∈ k.ledger.settled := by
  have hempty := h.isBusy_iff.mp hidle.1
  by_contra hnot
  have hmem := Ledger.mem_unsettled.mpr ⟨hlt, hnot⟩
  rw [hempty] at hmem
  exact absurd hmem (Finset.notMem_empty _)

/-! ## What a success leads to -/

/-- What comes of a success that is applied in a step. -/
structure FollowedUp (c : Client) (steps : List Step) (n : Nat) : Prop where
  -- with no list request in flight, one begins in that very step, with the address that
  -- is known; so one begins before the console is idle
  fetched : (before c steps n).session.console.loading = false →
    (before c steps n).session.console.client.baseUrl ≠ none →
      (∀ m, n < m → Fetches c steps n m)
        ∧ (before c steps (n + 1)).ledger.begun = (before c steps n).ledger.begun
          ++ [⟨(before c steps n).session.console.client, .fetch⟩]
        ∧ ∀ a, steps[n]? = some a → ((before c steps n).session.step a).2.requests
          = ((before c steps n).session.console.client.prepare .fetch).toOption.toList
  -- without an address, it is put off
  deferred : (before c steps n).session.console.loading = false →
    (before c steps n).session.console.client.baseUrl = none →
      (before c steps (n + 1)).session.console.pendingRefresh = true
  -- with a list request in flight, nothing begins, and nothing is put off
  skipped : (before c steps n).session.console.loading = true →
    (before c steps (n + 1)).ledger.begun = (before c steps n).ledger.begun
      ∧ (before c steps (n + 1)).session.console.pendingRefresh
        = (before c steps n).session.console.pendingRefresh
  -- and that request is settled after the success, before the console is idle
  settled : (before c steps n).session.console.loading = true →
    ∃ number ∈ (before c steps n).ledger.fetches,
      number ∈ (before c steps (n + 1)).ledger.fetches
        ∧ ∀ m, n < m → (before c steps m).IsIdle →
          number ∈ (before c steps m).ledger.settled

/-- **A SUCCESS IS FOLLOWED BY A FRESH LIST** unless the list is being fetched when it is
    applied, in every run of a console with its own events. -/
theorem followed_up (c : Client) (steps : List Step) (own : ∀ a ∈ steps, a.isOwn = true) :
    (∀ n, (before c steps n).session
        = (Session.run { console := { client := c } } (steps.take n)).1)
      ∧ ∀ n, Applies c steps n → FollowedUp c steps n := by
  refine ⟨fun n => run_session _ _, ?_⟩
  rintro n ⟨i, event, hstep, he, hsuccess⟩
  have hc := ConsoleEvent.callsForRefresh_of_isSuccess hsuccess
  have hnext := before_succ c hstep
  refine
    { fetched := ?_
      deferred := ?_
      skipped := ?_
      settled := ?_ }
  · intro hl hb
    obtain ⟨base, hbase⟩ := Option.ne_none_iff_exists'.mp hb
    obtain ⟨herrand, hbegun, hrequests⟩ := refetches he hc hl hbase
    refine ⟨fun m hm => ⟨n, .apply i, Nat.le_refl n, hm, hstep, herrand⟩, ?_, ?_⟩
    · rw [hnext]
      exact hbegun
    · intro a ha
      cases Option.some.inj (hstep.symm.trans ha)
      exact hrequests
  · intro hl hb
    rw [hnext]
    exact defers he hc hl hb
  · intro hl
    obtain ⟨hbegun, hpending, -⟩ := skips he hc hl
    rw [hnext]
    exact ⟨hbegun, hpending⟩
  · intro hl
    have hsound := before_sound c own (n + 1)
    rw [hnext] at hsound ⊢
    obtain ⟨number, hmem, hstill⟩ := hsound.still_fetching he hc hl
    refine ⟨number, hmem, hstill, ?_⟩
    intro m hm hidle
    refine (before_sound c own m).settled_of_idle hidle ?_
    obtain ⟨more, hmore⟩ := before_of_le c steps (Nat.le_of_lt hm)
    rw [hmore]
    exact Nat.lt_of_lt_of_le (Ledger.mem_unsettled.mp (Finset.mem_filter.mp hmem).1).1
      ((before c steps n).run_begun more).length_le

/-! ## The list that stays as it was -/

/-- A task is run while the list is being fetched, and the list comes after the result of
    the run. -/
def staleRun : List Step :=
  [.discovered (.serviceUrlChanged "http://10.0.0.1:3001/"), .apply 0, .refresh,
    .runNow { id := some 1 },
    .answer 1 (.complete 200 (Utf8.encode "\x7b\"success\":true,\"message\":\"queued\"\x7d")),
    .apply 0, .answer 0 (.complete 200 (Utf8.encode "[]")), .apply 0]

/-- The result of the run is applied while the list is in flight. -/
theorem staleRun_applies : Applies {} staleRun 5 :=
  ⟨0, .runResult ⟨true, "queued"⟩, rfl, by decide +kernel, rfl⟩

/-- In such a run, the list in flight is settled, and that is all. -/
theorem followed_up_staleRun : (∀ a ∈ staleRun, a.isOwn = true)
    ∧ Applies {} staleRun 5
    ∧ (before {} staleRun 5).session.console.loading = true
    ∧ FollowedUp {} staleRun 5 := by
  have hown : ∀ a ∈ staleRun, a.isOwn = true := by decide
  exact ⟨hown, staleRun_applies, by decide +kernel,
    (followed_up {} staleRun hown).2 5 staleRun_applies⟩

/-- Every success is followed by a list request of its own before the console is idle, or
    by one that is put off. -/
def AlwaysFollowedUp (c : Client) (steps : List Step) : Prop :=
  ∀ n, Applies c steps n →
    if (before c steps n).session.console.client.baseUrl = none then
      (before c steps (n + 1)).session.console.pendingRefresh = true
    else ∀ m, n < m → (before c steps m).IsIdle → Fetches c steps n m

/-- **A SUCCESS CAN GO WITHOUT**: no list request begins after the result of the run, and
    the console is idle in the end. -/
theorem staleRun_not_alwaysFollowedUp :
    (∀ a ∈ staleRun, a.isOwn = true) ∧ ¬ AlwaysFollowedUp {} staleRun := by
  refine ⟨by decide, fun hall => ?_⟩
  have hone := hall 5 staleRun_applies
  rw [if_neg (by decide +kernel)] at hone
  obtain ⟨j, a, hj, hlt, ha, herrand⟩ := hone 8 (by decide)
    ⟨by decide +kernel, by decide +kernel⟩
  have hnone : ∀ j < 8, 5 ≤ j →
      ((staleRun[j]?).bind (before {} staleRun j).session.errand?).isNone = true := by
    decide +kernel
  have hcontra := hnone j hlt hj
  rw [ha, Option.bind_some, herrand] at hcontra
  exact absurd hcontra Bool.false_ne_true

end Chronicle

end TaskConsole
