import TaskConsole.Proofs.Reactions

/-! # Deferral — a list request that waits for an address is begun once

    A refresh without an address is put off, and the mark that remembers it is cleared
    before the refresh is tried again.  That nothing is lost by clearing it rests on one
    invariant, kept by every operation and every applied event, received or not: a list
    request that waits does so for want of an address, and none is in flight
    (`Console.Defers`).

    * While it waits, nothing but news of an address can clear the mark, and no other
      list request can begin.
    * A blank address clears the mark and sets it again, since the refresh is put off
      once more.
    * The first address that is none finds no list request in flight, so the refresh
      begins one, and clears the mark for good. -/

namespace TaskConsole

/-! ## One operation -/

namespace Console

/-- A list request that waits, waits for an address, and none is in flight. -/
def Defers (c : Console) : Prop :=
  c.pendingRefresh = true → c.client.baseUrl = none ∧ c.loading = false

/-- Without an address, no list request can begin. -/
theorem canRefresh_of_none {c : Console} (h : c.client.baseUrl = none) :
    c.canRefresh = false := by
  rw [canRefresh, h]
  exact Bool.and_false _

/-- With an address and nothing in flight, one can. -/
theorem canRefresh_of_some {c : Console} {url : String} (h : c.client.baseUrl = some url)
    (hl : c.loading = false) : c.canRefresh = true := by
  rw [canRefresh, h, hl]
  rfl

/-- A refresh does not clear the mark. -/
theorem refresh_pendingRefresh {c : Console} (h : c.pendingRefresh = true) :
    c.refresh.1.pendingRefresh = true := by
  cases hc : c.canRefresh with
  | true =>
      rw [refresh_of_can hc]
      exact h
  | false =>
      rw [refresh_of_cannot hc]
      show (c.pendingRefresh || !c.loading) = true
      rw [h]
      rfl

theorem Defers.refresh {c : Console} (h : c.Defers) : c.refresh.1.Defers := by
  cases hc : c.canRefresh with
  | true =>
      rw [refresh_of_can hc]
      intro hp
      have hno := canRefresh_of_none (h hp).1
      rw [hc] at hno
      exact absurd hno.symm Bool.false_ne_true
  | false =>
      rw [refresh_of_cannot hc]
      intro hp
      show c.client.baseUrl = none ∧ c.loading = false
      cases hl : c.loading with
      | true =>
          -- skipped, so the mark stands as before, and it is down beside the flag
          have hmark : (c.pendingRefresh || !c.loading) = true := hp
          rw [hl, Bool.not_true, Bool.or_false] at hmark
          exact absurd (h hmark).2 (by rw [hl]; exact Bool.noConfusion)
      | false =>
          rw [canRefresh, hl, Bool.not_false, Bool.true_and] at hc
          exact ⟨Option.isNone_iff_eq_none.mp (Option.isSome_eq_false_iff.mp hc), rfl⟩

theorem Defers.discovered {c : Console} (h : c.Defers) (event : DiscoveryEvent) :
    (c.discovered event).1.Defers := by
  cases event with
  | error message => exact h
  | serviceUrlChanged url =>
      simp only [Console.discovered]
      cases hp : c.pendingRefresh with
      | false =>
          rw [if_neg Bool.false_ne_true]
          intro hmark
          exact absurd hmark Bool.false_ne_true
      | true =>
          rw [if_pos rfl]
          -- with the mark cleared, there is nothing to keep
          refine Defers.refresh ?_
          intro hmark
          exact absurd hmark Bool.false_ne_true

theorem Defers.runNow {c : Console} (h : c.Defers) (task : Task) :
    (c.runNow task).1.Defers := by
  simp only [Console.runNow]
  split
  · split <;> exact h
  · exact h

theorem Defers.save {c : Console} (h : c.Defers) (now : Timestamp) (task : Task) :
    (c.save now task).1.Defers := by
  simp only [Console.save]
  split <;> exact h

theorem Defers.apply {c : Console} (h : c.Defers) (event : ConsoleEvent) :
    (c.apply event).1.Defers := by
  have hsettled : (c.settledBy event).Defers := by
    intro hp
    obtain ⟨hnone, hl⟩ := h hp
    refine ⟨hnone, ?_⟩
    show (c.loading && !event.settlesRefresh) = false
    rw [hl]
    rfl
  rw [apply_eq]
  split
  · exact hsettled.refresh
  · exact hsettled

end Console

/-! ## One step -/

/-- The step brings an address, and not a blank one. -/
def Step.bringsAddress : Step → Bool
  | discovered (.serviceUrlChanged url) => !Text.isBlankText url
  | _ => false

/-- **EVERY STEP** keeps the invariant. -/
theorem Console.Defers.step {s : Session} (h : s.console.Defers) (a : Step) :
    (s.step a).1.console.Defers := by
  rw [s.step_console]
  cases a with
  | discovered event => exact h.discovered event
  | refresh => exact h.refresh
  | runNow task => exact h.runNow task
  | save now task => exact h.save now task
  | answer i d =>
      simp only [Session.take]
      cases s.outstanding[i]? with
      | none => exact h
      | some t =>
          show ((Session.tell _ _).1).console.Defers
          rw [Session.tell_console]
          exact h
  | apply i =>
      simp only [Session.take]
      cases s.unapplied[i]? with
      | none => exact h
      | some event => exact h.apply event
  | applyForeign event => exact h.apply event
  | closeReceiver => exact h

/-- A blank address puts the refresh off once more. -/
theorem Console.discovered_blank {c : Console} (h : c.Defers)
    (hp : c.pendingRefresh = true) {url : String} (hblank : Text.isBlankText url = true) :
    (c.discovered (.serviceUrlChanged url)).1.pendingRefresh = true := by
  obtain ⟨_, hl⟩ := h hp
  have hnone : (c.client.retarget url).baseUrl = none := by
    rw [Client.retarget, hblank]
    rfl
  have hc : { c with client := c.client.retarget url, pendingRefresh := false }.canRefresh
      = false := Console.canRefresh_of_none hnone
  simp only [Console.discovered]
  rw [if_pos hp]
  show ({ c with client := c.client.retarget url, pendingRefresh := false }
    : Console).refresh.1.pendingRefresh = true
  rw [Console.refresh_of_cannot hc]
  show (false || !c.loading) = true
  rw [hl]
  rfl

/-- What brings no address does not clear the mark. -/
theorem Console.Defers.pendingRefresh_step {s : Session} (h : s.console.Defers)
    (hp : s.console.pendingRefresh = true) {a : Step} (ha : a.bringsAddress = false) :
    (s.step a).1.console.pendingRefresh = true := by
  have hevent (event : ConsoleEvent) : (s.console.apply event).1.pendingRefresh = true := by
    rw [Console.apply_eq]
    split
    · exact Console.refresh_pendingRefresh hp
    · exact hp
  rw [s.step_console]
  cases a with
  | discovered event =>
      cases event with
      | error message => exact hp
      | serviceUrlChanged url =>
          exact Console.discovered_blank h hp (Bool.not_eq_eq_eq_not.mp ha)
  | refresh => exact Console.refresh_pendingRefresh hp
  | runNow task =>
      simp only [Session.take, Console.runNow]
      split
      · split <;> exact hp
      · exact hp
  | save now task =>
      simp only [Session.take, Console.save]
      split <;> exact hp
  | answer i d =>
      simp only [Session.take]
      cases s.outstanding[i]? with
      | none => exact hp
      | some t =>
          show ((Session.tell _ _).1).console.pendingRefresh = true
          rw [Session.tell_console]
          exact hp
  | apply i =>
      simp only [Session.take]
      cases s.unapplied[i]? with
      | none => exact hp
      | some event => exact hevent event
  | applyForeign event => exact hevent event
  | closeReceiver => exact hp

/-- While a list request waits, what brings no address begins no list request. -/
theorem Console.Defers.errand?_step {s : Session} (h : s.console.Defers)
    (hp : s.console.pendingRefresh = true) {a : Step} (ha : a.bringsAddress = false) :
    (s.errand? a).any (·.isFetch) = false := by
  have hno : s.console.canRefresh = false := Console.canRefresh_of_none (h hp).1
  cases a with
  | discovered event =>
      cases event with
      | error message => rfl
      | serviceUrlChanged url =>
          have hblank : Text.isBlankText url = true := Bool.not_eq_eq_eq_not.mp ha
          simp only [Session.errand?, hblank, Bool.not_true, Bool.and_false]
          rfl
  | refresh =>
      simp only [Session.errand?, hno]
      rfl
  | runNow task =>
      simp only [Session.errand?]
      split
      · cases task.id <;> rfl
      · rfl
  | save now task =>
      simp only [Session.errand?]
      split
      · exact Operation.isFetch_save _
      · rfl
  | answer i d => rfl
  | apply i =>
      simp only [Session.errand?, hno, Bool.and_false]
      rfl
  | applyForeign event =>
      simp only [Session.errand?, hno, Bool.and_false]
      rfl
  | closeReceiver => rfl

/-! ## A whole run -/

/-- The list requests so far. -/
def Ledger.fetchesBegun (l : Ledger) : List Ticket := l.begun.filter (·.operation.isFetch)

namespace Chronicle

variable {k : Chronicle}

theorem fetchesBegun_step (h : k.session.console.Defers)
    (hp : k.session.console.pendingRefresh = true) {a : Step}
    (ha : a.bringsAddress = false) :
    (k.step a).ledger.fetchesBegun = k.ledger.fetchesBegun := by
  have hnone := h.errand?_step hp ha
  rw [Ledger.fetchesBegun, step_begun, List.filter_append]
  cases he : k.session.errand? a with
  | none => exact List.append_nil _
  | some op =>
      rw [he] at hnone
      have hop : op.isFetch = false := hnone
      show k.ledger.begun.filter _ ++ [Ticket.mk _ op].filter _ = _
      rw [List.filter_cons_of_neg (by rw [hop]; exact Bool.false_ne_true)]
      exact List.append_nil _

/-- **ANY STEPS** keep the invariant. -/
theorem run_defers (h : k.session.console.Defers) (steps : List Step) :
    (k.run steps).session.console.Defers := by
  induction steps generalizing k with
  | nil => exact h
  | cons a rest ih => exact ih (h.step a)

/-- Steps that bring no address leave a list request waiting, and begin none. -/
theorem run_waits (h : k.session.console.Defers)
    (hp : k.session.console.pendingRefresh = true) {steps : List Step}
    (hno : ∀ a ∈ steps, a.bringsAddress = false) :
    (k.run steps).session.console.pendingRefresh = true
      ∧ (k.run steps).ledger.fetchesBegun = k.ledger.fetchesBegun := by
  induction steps generalizing k with
  | nil => exact ⟨hp, rfl⟩
  | cons a rest ih =>
      have ha := hno a List.mem_cons_self
      obtain ⟨hwaits, hbegun⟩ := ih (k := k.step a) (h.step a)
        (h.pendingRefresh_step hp ha) (fun b hb => hno b (List.mem_cons_of_mem a hb))
      exact ⟨hwaits, hbegun.trans (fetchesBegun_step h hp ha)⟩

/-- News of an address releases a list request that waits: the mark is cleared, and one
    request begins, at that address. -/
structure Releases (k : Chronicle) (url : String) : Prop where
  cleared :
    (k.step (.discovered (.serviceUrlChanged url))).session.console.pendingRefresh = false
  loading : (k.step (.discovered (.serviceUrlChanged url))).session.console.loading = true
  address : (k.step (.discovered (.serviceUrlChanged url))).session.console.client
    = { baseUrl := some url }
  begun : (k.step (.discovered (.serviceUrlChanged url))).ledger.begun
    = k.ledger.begun ++ [⟨{ baseUrl := some url }, .fetch⟩]
  -- it goes out in that step, unless no request can be made for the address
  requests : (k.session.step (.discovered (.serviceUrlChanged url))).2.requests
    = (({ baseUrl := some url } : Client).prepare .fetch).toOption.toList

theorem releases (h : k.session.console.Defers)
    (hp : k.session.console.pendingRefresh = true) {url : String}
    (hurl : Text.isBlankText url = false) : k.Releases url := by
  obtain ⟨_, hl⟩ := h hp
  have hclient : k.session.console.client.retarget url = { baseUrl := some url } := by
    rw [Client.retarget, hurl]
    rfl
  have hcan : { k.session.console with
      client := { baseUrl := some url }, pendingRefresh := false }.canRefresh = true :=
    Console.canRefresh_of_some rfl hl
  have hconsole : (k.step (.discovered (.serviceUrlChanged url))).session.console
      = { k.session.console with
          client := { baseUrl := some url }, pendingRefresh := false, loading := true } := by
    show (k.session.step _).1.console = _
    rw [Session.step_console]
    simp only [Session.take, Console.discovered, hp, hclient, if_true]
    rw [Console.refresh_of_can hcan]
  have herrand : k.session.errand? (.discovered (.serviceUrlChanged url)) = some .fetch := by
    simp only [Session.errand?, hp, hl, hurl]
    rfl
  refine ⟨?_, ?_, ?_, ?_, ?_⟩
  · rw [hconsole]
  · rw [hconsole]
  · rw [hconsole]
  · rw [step_begun, herrand, hconsole]
    rfl
  · have hnext : (k.session.step (.discovered (.serviceUrlChanged url))).1.console.client
        = { baseUrl := some url } := congrArg Console.client hconsole
    rw [Session.step_requests_eq, herrand, hnext, Option.bind_some]

/-- Without one that waits, news from discovery begins nothing. -/
theorem discovered_begun (hp : k.session.console.pendingRefresh = false)
    (event : DiscoveryEvent) :
    (k.step (.discovered event)).ledger.begun = k.ledger.begun := by
  have herrand : k.session.errand? (.discovered event) = none := by
    cases event with
    | error message => rfl
    | serviceUrlChanged url =>
        simp only [Session.errand?, hp, Bool.false_and]
        rfl
  rw [step_begun, herrand]
  exact List.append_nil _

/-- What becomes of a list request that waits: it is kept until there is an address, and
    is begun then, once. -/
structure KeepsDeferred (k : Chronicle) : Prop where
  -- it waits for want of an address, and none is in flight
  waits : k.session.console.pendingRefresh = true →
    k.session.console.client.baseUrl = none ∧ k.session.console.loading = false
  -- until there is an address, it waits on, and no list request begins
  kept : k.session.console.pendingRefresh = true →
    ∀ steps : List Step, (∀ a ∈ steps, a.bringsAddress = false) →
      (k.run steps).session.console.pendingRefresh = true
        ∧ (k.run steps).ledger.fetchesBegun = k.ledger.fetchesBegun
  -- the first address releases it in that very step
  released : k.session.console.pendingRefresh = true →
    ∀ steps : List Step, (∀ a ∈ steps, a.bringsAddress = false) →
      ∀ url, Text.isBlankText url = false → (k.run steps).Releases url
  -- and news from discovery begins nothing when none waits
  idle : k.session.console.pendingRefresh = false → ∀ event,
    (k.step (.discovered event)).ledger.begun = k.ledger.begun

theorem keepsDeferred (h : k.session.console.Defers) : k.KeepsDeferred where
  waits := h
  kept := fun hp _ hno => run_waits h hp hno
  released := by
    intro hp steps hno url hurl
    exact releases (run_defers h steps) (run_waits h hp hno).1 hurl
  idle := fun hp event => discovered_begun hp event

/-- **A DEFERRED REFRESH IS NEITHER LOST NOR BEGUN TWICE**, after any steps of a
    console, whatever events are applied to it. -/
theorem deferred_refresh (c : Client) (steps : List Step) :
    ((opened c).run steps).session = (Session.run { console := { client := c } } steps).1
      ∧ ((opened c).run steps).KeepsDeferred := by
  refine ⟨(opened c).run_session steps, keepsDeferred (run_defers ?_ steps)⟩
  intro hp
  exact absurd hp Bool.false_ne_true

/-- The list is asked for before any address is known, and again after a blank one. -/
def earlyRefreshes : List Step :=
  [.refresh, .discovered (.serviceUrlChanged " "), .refresh]

theorem deferred_refresh_early :
    ((opened {}).run earlyRefreshes).session.console.pendingRefresh = true
      ∧ ((opened {}).run earlyRefreshes).ledger.fetchesBegun = []
      ∧ ((opened {}).run earlyRefreshes).Releases "http://h:1/"
      ∧ ((opened {}).run (earlyRefreshes ++ [.discovered (.serviceUrlChanged "http://h:1/")])
          ).session.outstanding.length = 1 := by
  obtain ⟨_, hkeeps⟩ := deferred_refresh {} earlyRefreshes
  have hwaits : ((opened {}).run earlyRefreshes).session.console.pendingRefresh = true := by
    decide
  have hreleases := hkeeps.released hwaits [] (fun a ha => absurd ha List.not_mem_nil)
    "http://h:1/" (by decide)
  exact ⟨hwaits, rfl, hreleases, by decide +kernel⟩

end Chronicle

end TaskConsole
