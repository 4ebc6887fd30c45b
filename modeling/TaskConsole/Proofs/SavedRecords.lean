import TaskConsole.Proofs.Provenance
import TaskConsole.Proofs.TaskCodec

/-! # Saved records — what reaches the scheduler is complete

    A task is looked at before it is sent, given a next time if it has none, and
    written.  What the scheduler reads from that is the task again (`Task.sent`): its
    moments are cut to milliseconds, which is nothing that a defect is about, so that
    what was complete here is complete there.

    * a request with a task in it is made by a save alone, and by a save exactly when
      the task has no defect and the address can be used (`save_sends_iff`);
    * the id decides the method and the path, and the id that is in the body
      (`Carries`);
    * the result of a save says which of the two was sent. -/

namespace TaskConsole

/-! ## The record -/

namespace Task

/-- What the scheduler reads of a task that is saved: its moments are cut to milliseconds,
    and a task without a next time has the present for it. -/
def sent (now : Timestamp) (task : Task) : Task :=
  { task.toMillis with nextExecution := some (task.nextExecution.getD now).toMillis }

/-- The path to which a task is saved. -/
def savePath (task : Task) : String :=
  match task.id with
  | none => "tasks"
  | some id => "tasks/" ++ Text.showInt id.toInt

/-- The method by which a task is saved. -/
def saveMethod (task : Task) : Method :=
  match task.id with
  | none => .post
  | some _ => .patch

/-- The id of a task as a value. -/
def idJson (task : Task) : Json :=
  match task.id with
  | none => .null
  | some id => .ofInt id

/-- The scheduler reads what was meant for it. -/
theorem ofMembers_scheduledFrom (now : Timestamp) (task : Task) :
    ofMembers (Console.scheduledFrom now task).members = task.sent now := by
  rw [ofMembers_members]
  rfl

/-- No defect is about a moment. -/
theorem defect?_sent (now : Timestamp) (task : Task) :
    (task.sent now).defect? = task.defect? := rfl

theorem lookup_id (task : Task) : Json.lookup "id" task.members = some task.idJson := by
  rw [idJson]
  show some (Json.ofOption _ task.id) = _
  cases task.id <;> rfl

end Task

/-! ## The operation that saves -/

namespace Operation

theorem path?_save (task : Task) : (save task).path? = some task.savePath := by
  rw [save, Task.savePath]
  cases h : task.id with
  | none => rfl
  | some id =>
      rw [path?, h]
      rfl

theorem request_save (task : Task) (url : Url) :
    (save task).request url = ⟨task.saveMethod, url, true, some task.toJson⟩ := by
  rw [save, Task.saveMethod]
  cases task.id <;> rfl

/-- An operation that ends in the result of a save carries a task, and is a new one's
    exactly when it posts. -/
theorem EndsWith.saveResult {op : Operation} {r : SaveResult}
    (h : op.EndsWith (.saveResult r)) :
    op.task?.isSome = true ∧ (r.creating = true ↔ op.method = .post) := by
  cases h with
  | created task v => exact ⟨rfl, fun _ => rfl, fun _ => rfl⟩
  | updated task v => exact ⟨rfl, fun h => absurd h Bool.false_ne_true, fun h => by cases h⟩

end Operation

/-! ## The request -/

/-- A request carries a task to a scheduler. -/
structure Request.Carries (request : Request) (base : String) (now : Timestamp)
    (task : Task) : Prop where
  method : request.method = task.saveMethod
  target : request.url.IsTargetOf (addressBelow base task.savePath)
  declares : request.declaresJson = true
  -- the body is an object with the id of the task, and is read as the whole task
  body : ∃ ms, request.body = some (.object ms) ∧ Json.lookup "id" ms = some task.idJson
    ∧ Task.ofJson? (.object ms) = some (task.sent now)
  -- what is read has a next time, and no defect
  scheduled : (task.sent now).nextExecution.isSome = true
  complete : (task.sent now).defect? = none

/-- An address can be used for a path. -/
def Client.Reaches (c : Client) (path : String) : Prop :=
  ∃ base url, c.baseUrl = some base ∧ Url.IsTargetOf url (addressBelow base path)

namespace Session

/-- A step that begins something with a task is a save. -/
theorem save_of_task {s : Session} {a : Step} {op : Operation} (h : s.errand? a = some op)
    (htask : op.task?.isSome = true) : ∃ now task, a = .save now task := by
  have hfetch {p : Bool} (h : (if p then some Operation.fetch else none) = some op) :
      ∃ now task, a = .save now task := by
    cases p with
    | false => exact absurd h.symm (Option.some_ne_none op)
    | true =>
        cases Option.some.inj h
        exact absurd htask Bool.false_ne_true
  cases a with
  | save now task => exact ⟨now, task, rfl⟩
  | refresh => exact hfetch h
  | runNow task =>
      simp only [errand?] at h
      cases hen : task.enabled with
      | false =>
          rw [hen] at h
          exact absurd h.symm (Option.some_ne_none op)
      | true =>
          rw [hen] at h
          obtain ⟨id, -, rfl⟩ := Option.map_eq_some_iff.mp h
          exact absurd htask Bool.false_ne_true
  | discovered event =>
      cases event with
      | serviceUrlChanged url => exact hfetch h
      | error message => exact absurd h.symm (Option.some_ne_none op)
  | apply i => exact hfetch h
  | applyForeign event => exact hfetch h
  | answer i d => exact absurd h.symm (Option.some_ne_none op)
  | closeReceiver => exact absurd h.symm (Option.some_ne_none op)

/-- A save begins when the task has no defect. -/
theorem errand?_save {s : Session} {now : Timestamp} {task : Task} {op : Operation} :
    s.errand? (.save now task) = some op
      ↔ task.defect? = none ∧ op = .save (Console.scheduledFrom now task) := by
  simp only [errand?]
  cases task.defect? with
  | none => exact ⟨fun h => ⟨rfl, (Option.some.inj h).symm⟩, fun h => congrArg some h.2.symm⟩
  | some defect =>
      exact ⟨fun h => absurd h.symm (Option.some_ne_none op),
        fun h => absurd h.1 (Option.some_ne_none defect)⟩

/-- What a save sends is the request of its operation. -/
theorem mem_save_requests {s : Session} {now : Timestamp} {task : Task} {request : Request} :
    request ∈ (s.step (.save now task)).2.requests ↔ task.defect? = none
      ∧ s.console.client.Makes (.save (Console.scheduledFrom now task)) request := by
  rw [mem_requests, step_client s (by exact nofun)]
  constructor
  · rintro ⟨op, herrand, hmakes⟩
    obtain ⟨hdefect, rfl⟩ := errand?_save.mp herrand
    exact ⟨hdefect, hmakes⟩
  · rintro ⟨hdefect, hmakes⟩
    exact ⟨_, errand?_save.mpr ⟨hdefect, rfl⟩, hmakes⟩

/-- **A SAVE SENDS** a request exactly when the task has no defect and the address can be
    used. -/
theorem save_sends_iff {s : Session} {now : Timestamp} {task : Task} :
    (∃ request, request ∈ (s.step (.save now task)).2.requests)
      ↔ task.defect? = none ∧ s.console.client.Reaches task.savePath := by
  constructor
  · rintro ⟨request, hr⟩
    obtain ⟨hdefect, ⟨base, path, hbase, hpath, htarget⟩, -⟩ := mem_save_requests.mp hr
    rw [Operation.path?_save] at hpath
    rw [← Option.some.inj hpath] at htarget
    exact ⟨hdefect, base, request.url, hbase, htarget⟩
  · rintro ⟨hdefect, base, url, hbase, htarget⟩
    refine ⟨(Operation.save (Console.scheduledFrom now task)).request url,
      mem_save_requests.mpr ⟨hdefect, ?_, rfl⟩⟩
    exact ⟨base, task.savePath, hbase, Operation.path?_save _, htarget⟩

/-- **WHAT IT SENDS** carries the task. -/
theorem save_carries {s : Session} {now : Timestamp} {task : Task} {request : Request}
    (h : request ∈ (s.step (.save now task)).2.requests) :
    ∃ base, s.console.client.baseUrl = some base ∧ request.Carries base now task := by
  obtain ⟨hdefect, ⟨base, path, hbase, hpath, htarget⟩, hrequest⟩ := mem_save_requests.mp h
  rw [Operation.path?_save] at hpath
  rw [← Option.some.inj hpath] at htarget
  rw [Operation.request_save] at hrequest
  refine ⟨base, hbase, ?_⟩
  refine
    { method := by rw [hrequest]; rfl
      target := htarget
      declares := by rw [hrequest]
      body := ?_
      scheduled := rfl
      complete := (task.defect?_sent now).trans hdefect }
  refine ⟨(Console.scheduledFrom now task).members, by rw [hrequest]; rfl, ?_, ?_⟩
  · exact (Console.scheduledFrom now task).lookup_id
  · exact congrArg some (task.ofMembers_scheduledFrom now)

end Session

/-! ## A whole run -/

namespace Docket

/-- The records that a run sends are complete. -/
structure SendsRecords (k : Docket) (c : Client) (steps : List Step) : Prop where
  follows : k.Follows c steps
  -- only a save sends a task
  only_saves : ∀ (n : Nat) s a, k.calls[n]? = some (s, a) →
    ∀ request ∈ (s.step a).2.requests, request.body.isSome = true →
      ∃ now task, a = .save now task
  -- it sends one when the task has no defect and the address can be used
  sends_iff : ∀ (n : Nat) s now task, k.calls[n]? = some (s, .save now task) →
    ((∃ request, request ∈ (s.step (.save now task)).2.requests)
      ↔ task.defect? = none ∧ s.console.client.Reaches task.savePath)
  -- and that is all that it sends
  carries : ∀ (n : Nat) s now task, k.calls[n]? = some (s, .save now task) →
    ∀ request ∈ (s.step (.save now task)).2.requests,
      (s.step (.save now task)).2.requests = [request]
        ∧ ∃ base, s.console.client.baseUrl = some base ∧ request.Carries base now task
  -- the result of a save is that of the request which it sent, and tells which it was
  result : ∀ (n : Nat) r, (n, .saveResult r) ∈ k.told →
    ∃ s now task request, k.calls[n]? = some (s, .save now task)
      ∧ (s.step (.save now task)).2.requests = [request]
      ∧ (r.creating = true ↔ request.method = .post)

variable {k : Docket}

theorem only_saves {s : Session} {a : Step} {request : Request}
    (h : request ∈ (s.step a).2.requests) (hbody : request.body.isSome = true) :
    ∃ now task, a = .save now task := by
  obtain ⟨op, herrand, hmakes⟩ := Session.mem_requests.mp h
  refine Session.save_of_task herrand ?_
  rw [hmakes.request_eq] at hbody
  exact Option.isSome_map.symm.trans hbody

/-- **THE RESULT OF A SAVE** tells whether the task was new. -/
theorem Source.saveResult {n : Nat} {r : SaveResult} (h : k.Source n (.saveResult r)) :
    ∃ s now task request, k.calls[n]? = some (s, .save now task)
      ∧ (s.step (.save now task)).2.requests = [request]
      ∧ (r.creating = true ↔ request.method = .post) := by
  generalize he : ConsoleEvent.saveResult r = event at h
  cases h with
  | notice s a event hcall hnotice =>
      rw [← he] at hnotice
      exact absurd (Step.isNotice_of_notice? hnotice) Bool.false_ne_true
  | ending t d hissues =>
      obtain ⟨s, a, hcall, herrand, -, hrequests⟩ := hissues.requests
      have hends := t.outcome_endsWith d
      rw [← he] at hends
      obtain ⟨htask, hcreating⟩ := hends.saveResult
      obtain ⟨now, task, rfl⟩ := Session.save_of_task herrand htask
      cases hr : t.request? with
      | none =>
          -- without a request, there would be no result
          obtain ⟨message, hfails | hfails⟩ := Ticket.fails_of_unsent hr d
          · cases he.trans hfails
          · cases he.trans hfails
      | some request =>
          rw [hr, Option.toList_some] at hrequests
          refine ⟨s, now, task, request, hcall, hrequests, ?_⟩
          have hmem : request ∈ (s.step (.save now task)).2.requests := by
            rw [hrequests]
            exact List.mem_singleton_self request
          obtain ⟨op, hop, hmakes⟩ := Session.mem_requests.mp hmem
          rw [Option.some.inj (hop.symm.trans herrand)] at hmakes
          rw [hcreating, hmakes.request_eq]
          rfl

/-- **ONLY COMPLETE RECORDS ARE SENT**, in every run of a console. -/
theorem opened_sends_records (c : Client) (steps : List Step) :
    ((opened c).run steps).SendsRecords c steps where
  follows := opened_follows c steps
  only_saves := fun _ _ _ _ _ hr hbody => only_saves hr hbody
  sends_iff := fun _ _ _ _ _ => Session.save_sends_iff
  carries := fun _ _ _ _ _ _ hr => ⟨Session.requests_of_mem hr, Session.save_carries hr⟩
  result := fun _ _ hmem => (((opened_traced c).run steps).told _ hmem).saveResult

end Docket

end TaskConsole
