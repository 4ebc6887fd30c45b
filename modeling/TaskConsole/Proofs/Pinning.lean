import TaskConsole.Proofs.Provenance
import TaskConsole.Proofs.Slots

/-! # Pinning — a request goes where the console pointed when it was made

    A console takes over every address that discovery tells it.  A request is made
    with the address that is known in the step that makes it, which may be the step
    that brought the address:

    * no request is made while none is known (`run_known`);
    * a ticket keeps the client with which it was issued, and its outcome is that of this
      request, whatever the console points at by then (`Traced`);
    * the news of an address is told before any outcome of a request that was begun
      with it (`Ordered`), also when none can be prepared in that very step. -/

namespace TaskConsole

/-! ## The address that is known -/

/-- The step in which discovery told the latest address, and that address. -/
structure Latest (steps : List Step) (m : Nat) (url : String) : Prop where
  told : steps[m]? = some (.discovered (.serviceUrlChanged url))
  last : ∀ i other, m < i → steps[i]? ≠ some (.discovered (.serviceUrlChanged other))

/-- The address that a console knows after some steps: the latest that discovery told, if
    that is not blank; before any was told, the one that its client came with. -/
inductive Known (c : Client) (steps : List Step) : String → Prop where
  | told (m : Nat) (url : String) : Latest steps m url → Text.isBlankText url = false →
      Known c steps url
  | brought (url : String) :
      (∀ (i : Nat) other, steps[i]? ≠ some (.discovered (.serviceUrlChanged other))) →
      c.baseUrl = some url → Known c steps url

/-- A step without a new address leaves the latest one the latest. -/
theorem Latest.concat {steps : List Step} {m : Nat} {url : String} (h : Latest steps m url)
    {a : Step} (ha : ∀ other, a ≠ .discovered (.serviceUrlChanged other)) :
    Latest (steps ++ [a]) m url := by
  have hm := (List.getElem?_eq_some_iff.mp h.told).1
  refine ⟨?_, ?_⟩
  · rw [List.getElem?_append_left hm]
    exact h.told
  · intro i other hi hsome
    by_cases hlt : i < steps.length
    · rw [List.getElem?_append_left hlt] at hsome
      exact h.last i other hi hsome
    · rw [List.getElem?_append_right (Nat.not_lt.mp hlt)] at hsome
      exact ha other (List.mem_singleton.mp (List.mem_of_getElem? hsome)).symm

/-- A step with a new address makes it the latest. -/
theorem latest_concat (steps : List Step) (url : String) :
    Latest (steps ++ [.discovered (.serviceUrlChanged url)]) steps.length url := by
  refine ⟨List.getElem?_concat_length, ?_⟩
  intro i other hi hsome
  have hlt := (List.getElem?_eq_some_iff.mp hsome).1
  rw [List.length_append, List.length_singleton] at hlt
  omega

theorem Known.concat {c : Client} {steps : List Step} {url : String} (h : Known c steps url)
    {a : Step} (ha : ∀ other, a ≠ .discovered (.serviceUrlChanged other)) :
    Known c (steps ++ [a]) url := by
  cases h with
  | told m url hlatest hblank => exact .told m url (hlatest.concat ha) hblank
  | brought url hnone hurl =>
      refine .brought url ?_ hurl
      intro i other hsome
      rcases List.mem_append.mp (List.mem_of_getElem? hsome) with hmem | hmem
      · obtain ⟨j, hj⟩ := List.mem_iff_getElem?.mp hmem
        exact hnone j other hj
      · exact ha other (List.mem_singleton.mp hmem).symm

namespace Session

/-- **THE ADDRESS OF A CONSOLE** is the one that its steps make known. -/
theorem run_known (c : Client) (steps : List Step) {base : String}
    (h : ((opened c).run steps).1.console.client.baseUrl = some base) :
    Known c steps base := by
  induction steps using List.reverseRecOn with
  | nil =>
      refine .brought base ?_ h
      exact fun i other hsome => absurd (List.mem_of_getElem? hsome) List.not_mem_nil
  | append_singleton steps a ih =>
      rw [run_append] at h
      by_cases ha : ∃ url, a = .discovered (.serviceUrlChanged url)
      · obtain ⟨url, rfl⟩ := ha
        have hclient := step_client_told ((opened c).run steps).1 url
        rw [Client.retarget_eq] at hclient
        have hset : (Client.setTo (some url)).baseUrl = some base := hclient ▸ h
        obtain ⟨hurl, hblank⟩ := Client.setTo_baseUrl.mp hset
        rw [← Option.some.inj hurl] at hblank ⊢
        exact .told _ url (latest_concat steps url) hblank
      · rw [not_exists] at ha
        refine Known.concat (ih ?_) ha
        exact (step_client _ ha) ▸ h

end Session

/-! ## Pins -/

namespace Docket

/-- The requests of a run stay with the address that was known when they were made. -/
structure Pins (k : Docket) (c : Client) (steps : List Step) : Prop where
  follows : k.Follows c steps
  -- a request goes below the address that is known after the step that makes it
  address : ∀ (n : Nat) s a, k.calls[n]? = some (s, a) → ∀ request ∈ (s.step a).2.requests,
    ∃ base path op, Known c (steps.take (n + 1)) base ∧ s.errand? a = some op
      ∧ op.path? = some path ∧ request = op.request request.url
      ∧ request.url.IsTargetOf (addressBelow base path)
  -- without one, no request is made
  silent : ∀ (n : Nat) s a, k.calls[n]? = some (s, a) →
    (∀ base, ¬ Known c (steps.take (n + 1)) base) → (s.step a).2.requests = []
  -- what is outstanding has the request that its step made, or none as the step made none,
  -- at any later time
  kept : List.Forall₂
    (fun n t => ∃ s a, k.calls[n]? = some (s, a) ∧ s.errand? a = some t.operation
      ∧ (s.step a).2.requests = t.request?.toList)
    k.owed k.session.outstanding
  -- and an outcome is that of the request of its step, or that step could make none
  ended : ∀ (n : Nat) event, (n, event) ∈ k.told → event.isNotice = false →
    ∃ s a op, k.calls[n]? = some (s, a) ∧ s.errand? a = some op
      ∧ ((∃ request d, (s.step a).2.requests = [request] ∧ event = op.outcome request.url d)
        ∨ ∃ f, (s.step a).2.requests = [] ∧ (s.step a).1.console.client.prepare op = .error f
          ∧ event = op.failure f)
  -- an outcome is told after the news of the latest address that its step knew
  order : ∀ (j n : Nat) event, k.told[j]? = some (n, event) → event.isNotice = false →
    ∀ m url, Latest (steps.take (n + 1)) m url →
      (m, .serviceUrlChanged url) ∈ k.told.take j

variable {k : Docket}

/-- What is no notice is the outcome of a request, or the failure to make one. -/
theorem Source.ended {n : Nat} {event : ConsoleEvent} (h : k.Source n event)
    (hn : event.isNotice = false) : ∃ s a op, k.calls[n]? = some (s, a)
      ∧ s.errand? a = some op
      ∧ ((∃ request d, (s.step a).2.requests = [request] ∧ event = op.outcome request.url d)
        ∨ ∃ f, (s.step a).2.requests = [] ∧ (s.step a).1.console.client.prepare op = .error f
          ∧ event = op.failure f) := by
  cases h with
  | notice s a event hcall hnotice =>
      rw [Step.isNotice_of_notice? hnotice] at hn
      exact absurd hn.symm Bool.false_ne_true
  | ending t d hissues =>
      obtain ⟨s, a, hcall, herrand, hprepare, hrequests⟩ := hissues.requests
      refine ⟨s, a, t.operation, hcall, herrand, ?_⟩
      cases hr : t.request? with
      | some request =>
          rw [hr] at hrequests
          exact Or.inl ⟨request, d, hrequests, Ticket.outcome_of_sent hr d⟩
      | none =>
          rw [hr] at hrequests
          obtain ⟨f, hprepared, houtcome⟩ := Ticket.outcome_of_unsent hr
          exact Or.inr ⟨f, hrequests, hprepare.trans hprepared, houtcome d⟩

/-- **A REQUEST GOES WHERE THE CONSOLE POINTS.** -/
theorem Follows.address {c : Client} {steps : List Step} (h : k.Follows c steps) {n : Nat}
    {s : Session} {a : Step} (hcall : k.calls[n]? = some (s, a)) {request : Request}
    (hr : request ∈ (s.step a).2.requests) :
    ∃ base path op, Known c (steps.take (n + 1)) base ∧ s.errand? a = some op
      ∧ op.path? = some path ∧ request = op.request request.url
      ∧ request.url.IsTargetOf (addressBelow base path) := by
  obtain ⟨ha, hs⟩ := h.call hcall
  obtain ⟨op, herrand, ⟨base, path, hbase, hpath, htarget⟩, hrequest⟩ :=
    Session.mem_requests.mp hr
  rw [hs, ← Session.run_take_succ _ ha] at hbase
  exact ⟨base, path, op, Session.run_known c _ hbase, herrand, hpath, hrequest, htarget⟩

/-- **AN OUTCOME FOLLOWS THE NEWS** of the address. -/
theorem Follows.order {c : Client} {steps : List Step} (h : k.Follows c steps)
    (hordered : k.Ordered) {j n : Nat} {event : ConsoleEvent}
    (hj : k.told[j]? = some (n, event)) (hn : event.isNotice = false) {m : Nat} {url : String}
    (hlatest : Latest (steps.take (n + 1)) m url) :
    (m, .serviceUrlChanged url) ∈ k.told.take j := by
  have hm : m < n + 1 := by
    have hlt := (List.getElem?_eq_some_iff.mp hlatest.told).1
    rw [List.length_take] at hlt
    omega
  have hcall : k.calls[m]? = some (((Session.opened c).run (steps.take m)).1,
      .discovered (.serviceUrlChanged url)) := by
    have htold := hlatest.told
    rw [List.getElem?_take, if_pos hm] at htold
    rw [h.calls, htold]
    rfl
  have hmem := hordered j _ hj m (Nat.le_of_lt_succ hm) _ _ _ hcall rfl
  rw [List.take_add_one, hj, List.mem_append, Option.toList_some, List.mem_singleton] at hmem
  rcases hmem with hmem | heq
  · exact hmem
  · -- the outcome itself is no news
    cases heq
    exact absurd hn Bool.noConfusion

/-- **A RUN PINS ITS REQUESTS.** -/
theorem opened_pins (c : Client) (steps : List Step) :
    ((opened c).run steps).Pins c steps := by
  have hfollows := opened_follows c steps
  have htraced := (opened_traced c).run steps
  refine
    { follows := hfollows
      address := fun n s a hcall request hr => hfollows.address hcall hr
      silent := ?_
      kept := ?_
      ended := fun n event hmem hn => (htraced.told _ hmem).ended hn
      order := ?_ }
  · intro n s a hcall hnone
    rw [List.eq_nil_iff_forall_not_mem]
    intro request hr
    obtain ⟨base, path, op, hknown, -⟩ := hfollows.address hcall hr
    exact hnone base hknown
  · refine htraced.tickets.imp fun n t hissues => ?_
    obtain ⟨s, a, hcall, herrand, -, hrequests⟩ := hissues.requests
    exact ⟨s, a, hcall, herrand, hrequests⟩
  · intro j n event hj hn m url hlatest
    exact hfollows.order ((opened_ordered c).run (opened_sound c) steps) hj hn hlatest

end Docket

/-- **REQUESTS ARE PINNED**: in every run of a console, to the address known when they were
    made; and among clients in slots, to the setting of their own slot. -/
theorem requests_pinned :
    (∀ (c : Client) (steps : List Step), ((Docket.opened c).run steps).Pins c steps)
      ∧ ∀ history : List ClientStep, Isolated history :=
  ⟨Docket.opened_pins, Slots.isolated⟩

end TaskConsole
