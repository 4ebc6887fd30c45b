import TaskConsole.Proofs.Provenance
import TaskConsole.Proofs.Quiescence

/-! # Event order — what is applied is what was told, in its order

    The main loop applies the events of its console as a queue: the oldest first, each of
    them once, and nothing else.  Then applied and waiting events together are all that
    were told (`Session.run_fifo`), and those are known:

    * the addresses among them are the ones that discovery told (`run_tells_urls`), and as
      none of those is blank, the console takes each of them over (`run_baseUrl`);
    * the lists among them are those of replies (`run_tells_list`). -/

namespace TaskConsole

/-- The address that an event tells. -/
def ConsoleEvent.url? : ConsoleEvent → Option String
  | serviceUrlChanged url => some url
  | _ => none

/-- The list that an event brings. -/
def ConsoleEvent.list? : ConsoleEvent → Option (List Task)
  | tasksReplaced tasks => some tasks
  | _ => none

/-- The address that an event of discovery tells. -/
def DiscoveryEvent.url? : DiscoveryEvent → Option String
  | serviceUrlChanged url => some url
  | error _ => none

/-- The address that discovery tells in a step. -/
def Step.url? : Step → Option String
  | discovered event => event.url?
  | _ => none

/-- The address that is told is none of blanks. -/
def DiscoveryEvent.TellsUrl (event : DiscoveryEvent) : Prop :=
  ∀ url ∈ event.url?, Text.isBlankText url = false

/-- A step as the main loop takes it: received events are applied in their order, and
    nothing else is applied. -/
def Step.InTurn : Step → Prop
  | discovered event => event.TellsUrl
  | apply i => i = 0
  | applyForeign _ => False
  | closeReceiver => False
  | _ => True

theorem Step.InTurn.isOwn {a : Step} (h : a.InTurn) : a.isOwn = true := by
  cases a with
  | applyForeign event => exact h.elim
  | _ => rfl

theorem Step.InTurn.ne_closeReceiver {a : Step} (h : a.InTurn) : a ≠ .closeReceiver := by
  rintro rfl
  exact h

/-! ## Events in their order -/

namespace Session

theorem applied_append (s : Session) (steps more : List Step) :
    s.applied (steps ++ more) = s.applied steps ++ (s.run steps).1.applied more := by
  induction steps generalizing s with
  | nil => rfl
  | cons a rest ih =>
      show _ ++ (s.step a).1.applied (rest ++ more) = (_ ++ _) ++ _
      rw [ih, List.append_assoc]
      rfl

/-- **ONE STEP IN TURN**: what is applied is the oldest that waits, and what is told waits
    behind the rest. -/
theorem step_fifo {s : Session} (hr : s.receiving = true) {a : Step} (ha : a.InTurn) :
    (s.applied? a).toList ++ (s.step a).1.unapplied = s.unapplied ++ (s.step a).2.events := by
  have htaken (hrest : (s.take a).receiving = true)
      (hsame : (s.applied? a).toList ++ (s.take a).unapplied
        = s.unapplied ++ s.answered a) :
      (s.applied? a).toList ++ (s.step a).1.unapplied
        = s.unapplied ++ (s.step a).2.events := by
    rw [step_eq, performAll_unapplied, step_events hr, hrest, if_pos rfl,
      ← List.append_assoc, hsame, List.append_assoc]
  cases a with
  | answer i d =>
      cases ht : s.outstanding[i]? with
      | none =>
          refine htaken ?_ ?_
          · simp only [take, ht, hr]
          · simp only [applied?, take, answered, ht]
            exact (List.append_nil _).symm
      | some t =>
          refine htaken ?_ ?_
          · simp only [take, ht, tell, hr, if_true]
          · simp only [applied?, take, answered, ht, tell, hr, if_true]
            rfl
  | apply i =>
      cases (show i = 0 from ha)
      cases he : s.unapplied with
      | nil =>
          have hnone : s.unapplied[0]? = none := by rw [he]; rfl
          refine (htaken ?_ ?_).trans (by rw [he])
          · simp only [take, hnone, hr]
          · simp only [applied?, take, answered, hnone]
            exact (List.append_nil _).symm
      | cons event rest =>
          have hsome : s.unapplied[0]? = some event := by rw [he]; rfl
          refine (htaken ?_ ?_).trans (by rw [he])
          · simp only [take, hsome, hr]
          · simp only [applied?, take, answered, he]
            exact (List.append_nil _).symm
  | applyForeign event => exact ha.elim
  | closeReceiver => exact ha.elim
  | _ => exact htaken hr (List.append_nil _).symm

/-- **A RUN IN TURN**: applied and waiting events are all that were told, in their order. -/
theorem run_fifo {s : Session} (hr : s.receiving = true) {steps : List Step}
    (h : ∀ a ∈ steps, a.InTurn) :
    s.applied steps ++ (s.run steps).1.unapplied
      = s.unapplied ++ (s.run steps).2.flatMap (·.events) := by
  induction steps generalizing s with
  | nil => exact (List.append_nil _).symm
  | cons a rest ih =>
      have ha := h a List.mem_cons_self
      have hnext : (s.step a).1.receiving = true :=
        (s.step_receiving ha.ne_closeReceiver).trans hr
      have hrest := ih hnext fun b hb => h b (List.mem_cons_of_mem a hb)
      show ((s.applied? a).toList ++ (s.step a).1.applied rest)
          ++ ((s.step a).1.run rest).1.unapplied
        = s.unapplied ++ ((s.step a).2.events ++ ((s.step a).1.run rest).2.flatMap (·.events))
      rw [List.append_assoc, hrest, ← List.append_assoc, step_fifo hr ha, List.append_assoc]

theorem run_receiving {s : Session} (hr : s.receiving = true) {steps : List Step}
    (h : ∀ a ∈ steps, a.InTurn) : (s.run steps).1.receiving = true := by
  induction steps generalizing s with
  | nil => exact hr
  | cons a rest ih =>
      have hnext := (s.step_receiving (h a List.mem_cons_self).ne_closeReceiver).trans hr
      exact ih hnext fun b hb => h b (List.mem_cons_of_mem a hb)

/-! ## The addresses among them -/

/-- Only a notice tells an address. -/
theorem url?_of_not_isNotice {event : ConsoleEvent} (h : event.isNotice = false) :
    event.url? = none := by
  cases event with
  | serviceUrlChanged url => exact absurd h Bool.noConfusion
  | _ => rfl

theorem filterMap_url?_of_notice (a : Step) :
    a.notice?.toList.filterMap ConsoleEvent.url? = a.url?.toList := by
  have hrefusal (reason : Option String) :
      (reason.map ConsoleEvent.error).toList.filterMap ConsoleEvent.url? = [] := by
    cases reason <;> rfl
  cases a with
  | discovered event => cases event <;> rfl
  | runNow task => exact hrefusal _
  | save now task => exact hrefusal _
  | _ => rfl

/-- **A STEP TELLS** the address that discovery tells it, and no other. -/
theorem step_tells_url {s : Session} (hr : s.receiving = true) (a : Step) :
    (s.step a).2.events.filterMap ConsoleEvent.url? = a.url?.toList := by
  have hanswered : (s.answered a).filterMap ConsoleEvent.url? = [] := by
    cases a with
    | answer i d =>
        simp only [answered]
        cases s.outstanding[i]? with
        | none => rfl
        | some t =>
            have hends := t.outcome_endsWith d
            show [t.outcome d].filterMap ConsoleEvent.url? = []
            rw [List.filterMap_cons, url?_of_not_isNotice hends.isNotice_eq]
            rfl
    | _ => rfl
  rw [step_events hr, List.filterMap_append, hanswered, effects_told, filterMap_url?_of_notice,
    List.nil_append]

theorem run_tells_urls {s : Session} (hr : s.receiving = true) {steps : List Step}
    (h : ∀ a ∈ steps, a.InTurn) :
    ((s.run steps).2.flatMap (·.events)).filterMap ConsoleEvent.url?
      = steps.filterMap Step.url? := by
  induction steps generalizing s with
  | nil => rfl
  | cons a rest ih =>
      have hnext : (s.step a).1.receiving = true :=
        (s.step_receiving (h a List.mem_cons_self).ne_closeReceiver).trans hr
      have hrest := ih hnext fun b hb => h b (List.mem_cons_of_mem a hb)
      show ((s.step a).2.events ++ ((s.step a).1.run rest).2.flatMap (·.events)).filterMap _ = _
      rw [List.filterMap_append, hrest, step_tells_url hr, List.filterMap_cons]
      cases a.url? <;> rfl

/-- A step takes over the address that discovery tells it. -/
theorem step_baseUrl (s : Session) {a : Step} (ha : a.InTurn) :
    (s.step a).1.console.client.baseUrl = a.url?.or s.console.client.baseUrl := by
  by_cases htold : ∃ url, a = .discovered (.serviceUrlChanged url)
  · obtain ⟨url, rfl⟩ := htold
    have hblank : Text.isBlankText url = false := ha url rfl
    rw [step_client_told]
    simp only [Client.retarget, hblank]
    rfl
  · rw [not_exists] at htold
    have hnone : a.url? = none := by
      cases a with
      | discovered event =>
          cases event with
          | serviceUrlChanged url => exact absurd rfl (htold url)
          | error message => rfl
      | _ => rfl
    rw [step_client s htold, hnone]
    rfl

/-- **THE ADDRESS IN USE** is the last one that discovery told. -/
theorem run_baseUrl (s : Session) {steps : List Step} (h : ∀ a ∈ steps, a.InTurn) :
    (s.run steps).1.console.client.baseUrl
      = (steps.filterMap Step.url?).getLast?.or s.console.client.baseUrl := by
  induction steps generalizing s with
  | nil => rfl
  | cons a rest ih =>
      have hrest := ih (s.step a).1 fun b hb => h b (List.mem_cons_of_mem a hb)
      rw [step_baseUrl s (h a List.mem_cons_self)] at hrest
      rw [List.filterMap_cons]
      refine Eq.trans hrest ?_
      cases ha : a.url? with
      | none => rfl
      | some url =>
          rw [Option.some_or, List.getLast?_cons, Option.some_or]
          cases (rest.filterMap Step.url?).getLast? <;> rfl

/-! ## The lists among them -/

/-- A ticket that ends in a list had a request, and its reply brings the list. -/
theorem tasks_of_outcome {t : Ticket} {d : Delivery} {tasks : List Task}
    (h : t.outcome d = .tasksReplaced tasks) : ∃ url, d.tasks url = .ok tasks := by
  have hends := t.outcome_endsWith d
  rw [h] at hends
  cases hr : t.request? with
  | none =>
      -- without one, it would end in a failure
      obtain ⟨message, hfails | hfails⟩ := Ticket.fails_of_unsent hr d
      · cases hfails.symm.trans h
      · cases hfails.symm.trans h
  | some request =>
      rw [Ticket.outcome_of_sent hr] at h
      generalize t.operation = op at h hends
      cases hends
      simp only [Operation.outcome] at h
      refine ⟨request.url, ?_⟩
      cases htasks : d.tasks request.url with
      | ok others =>
          rw [htasks] at h
          exact congrArg Except.ok (ConsoleEvent.tasksReplaced.inj h)
      | error f =>
          rw [htasks] at h
          exact absurd h ConsoleEvent.noConfusion

/-- **A LIST IS TOLD** when a request for it is answered, as the reply brings it. -/
theorem step_tells_list {s : Session} (hr : s.receiving = true) {a : Step} {tasks : List Task}
    (h : .tasksReplaced tasks ∈ (s.step a).2.events) :
    ∃ i url d, a = .answer i d ∧ d.tasks url = .ok tasks := by
  rw [step_events hr, List.mem_append] at h
  rcases h with hanswered | htold
  · cases a with
    | answer i d =>
        obtain ⟨t, -, houtcome⟩ := List.mem_map.mp hanswered
        obtain ⟨url, htasks⟩ := tasks_of_outcome houtcome
        exact ⟨i, url, d, rfl, htasks⟩
    | _ => exact absurd hanswered List.not_mem_nil
  · -- a notice is no list
    exact absurd (Step.isNotice_of_notice? (mem_told.mp htold)) Bool.noConfusion

theorem run_tells_list {s : Session} (hr : s.receiving = true) {steps : List Step}
    (h : ∀ a ∈ steps, a.InTurn) {tasks : List Task}
    (hmem : .tasksReplaced tasks ∈ (s.run steps).2.flatMap (·.events)) :
    ∃ i url d, .answer i d ∈ steps ∧ d.tasks url = .ok tasks := by
  induction steps generalizing s with
  | nil => exact absurd hmem List.not_mem_nil
  | cons a rest ih =>
      have hnext : (s.step a).1.receiving = true :=
        (s.step_receiving (h a List.mem_cons_self).ne_closeReceiver).trans hr
      have hcases : .tasksReplaced tasks ∈ (s.step a).2.events
          ++ ((s.step a).1.run rest).2.flatMap (·.events) := hmem
      rcases List.mem_append.mp hcases with hfirst | hrest
      · obtain ⟨i, url, d, rfl, htasks⟩ := step_tells_list hr hfirst
        exact ⟨i, url, d, List.mem_cons_self, htasks⟩
      · obtain ⟨i, url, d, hanswer, htasks⟩ := ih hnext
          (fun b hb => h b (List.mem_cons_of_mem a hb)) hrest
        exact ⟨i, url, d, List.mem_cons_of_mem a hanswer, htasks⟩

end Session

end TaskConsole
