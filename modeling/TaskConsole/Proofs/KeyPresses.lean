import TaskConsole.Proofs.Endpoints
import TaskConsole.Proofs.SavedRecords

/-! # Key presses — what a key does to the selected task

    A key acts on the task that is selected when it is pressed, and on nothing else.  It
    comes to one of two things, each with all that it changes:

    * one operation more is in flight (`Dashboard.begins`), and its request is made; or the
      path cannot be reached, and whatever happens next, the operation fails (`Asks`);
    * the key is refused, and one error waits to be shown (`Dashboard.refuses`).

    With an address that can be used, what begins is asked for (`Asks.request`).

    What a save sends is the task as it is written, changed under the keys of the members
    that the operator asked to change (`Json.changed`), and nowhere else: a record with a
    member under each key of a task, that is read as the task with these fields changed
    (`Request.Records`). -/

namespace TaskConsole

/-! ## Changed records -/

namespace Json

/-- Members with the value under one key changed. -/
def changed (key : String) (f : Json → Json) (ms : Members) : Members :=
  ms.map fun m => if m.1 = key then (m.1, f m.2) else m

/-- A flag turned over. -/
def negated : Json → Json
  | bool b => bool !b
  | v => v

/-- A text with more at its end. -/
def extended (suffix : String) : Json → Json
  | string s => string (s ++ suffix)
  | v => v

/-- A value in the place of one that is missing. -/
def filled (v : Json) : Json → Json
  | null => v
  | other => other

end Json

namespace Task

open Json

/-- The keys of the members that a task is written with. -/
def keys : List String :=
  ["id", "name", "cron_schedule", "action_name", "action_function", "action_configuration",
    "timeout", "next_execution", "enabled", "immediate", "blackout_start", "blackout_end"]

/-- A task is written with a member under each key. -/
theorem map_fst_members (t : Task) : t.members.map (·.1) = keys := rfl

/-- The next time of a task is written where it has one, and the present where not. -/
theorem timeJson_getD (now : Timestamp) (t : Option Timestamp) :
    timeJson (some (t.getD now)) = filled (.string now.wire) (timeJson t) := by
  cases t <;> rfl

/-- A task in its other state is written like the task, but for the flag. -/
theorem members_toggled (now : Timestamp) (t : Task) :
    (Console.scheduledFrom now (Dashboard.toggled t)).members
      = changed "next_execution" (filled (.string now.wire))
          (changed "enabled" negated t.members) := by
  simp [members, Console.scheduledFrom, Dashboard.toggled, changed, timeJson_getD, negated]

/-- A task like another is written like it, but for the id and the end of the name. -/
theorem members_duplicate (now : Timestamp) (t : Task) :
    (Console.scheduledFrom now (Dashboard.duplicate t)).members
      = changed "next_execution" (filled (.string now.wire))
          (changed "name" (extended " (copy)") (changed "id" (fun _ => .null) t.members)) := by
  simp [members, Console.scheduledFrom, Dashboard.duplicate, changed, timeJson_getD, extended,
    Json.ofOption]

end Task

/-! ## One operation of the console -/

/-- A client knows an address below which every operation that has a path can be asked for. -/
structure Client.IsUsable (c : Client) (base : String) : Prop where
  known : c.baseUrl = some base
  reaches : ∀ (op : Operation) (path : String), op.path? = some path →
    ∃ url : Url, url.IsTargetOf (addressBelow base path)

/-- A request asks for a path below a base URL, with a body or without. -/
structure Request.AsksFor (request : Request) (base : String) (method : Method)
    (path : String) (body : Option Json) : Prop where
  method_eq : request.method = method
  target : request.url.IsTargetOf (addressBelow base path)
  body_eq : request.body = body

/-- A request brings the record of a task: an object with a member under each key of a task
    and no other, that is read as this task. -/
def Request.Records (request : Request) (t : Task) : Prop :=
  ∃ ms, request.body = some (.object ms) ∧ ms.map (·.1) = Task.keys
    ∧ Task.ofJson? (.object ms) = some t

/-- A request whose body is the record of a task that is saved. -/
theorem Request.records_of_body {request : Request} {now : Timestamp} {t : Task}
    {ms : Json.Members} (hms : (Console.scheduledFrom now t).members = ms)
    (hbody : request.body = some (.object ms)) : request.Records (t.sent now) := by
  subst hms
  exact ⟨_, hbody, Task.map_fst_members _, congrArg some (t.ofMembers_scheduledFrom now)⟩

/-- With a usable address, the path of every operation is reached. -/
theorem Client.IsUsable.reaches_path {c : Client} {base : String} (h : c.IsUsable base)
    (op : Operation) {path : String} (hop : op.path? = some path) : c.Reaches path := by
  obtain ⟨url, hurl⟩ := h.reaches op path hop
  exact ⟨base, url, h.known, hurl⟩

namespace Operation

theorem save_of_some {t : Task} {id : Int64} (h : t.id = some id) : save t = update t := by
  simp only [save, h]

theorem save_of_none {t : Task} (h : t.id = none) : save t = create t := by
  simp only [save, h]

/-- What fails is an operation, unless it is a fetch. -/
theorem failure_eq {op : Operation} (h : op.isFetch = false) (f : Failure) :
    op.failure f = .operationFailed f.message := by
  cases op with
  | fetch => exact absurd h.symm Bool.false_ne_true
  | run id => rfl
  | create task => rfl
  | update task => rfl

end Operation

namespace Session

/-- The ticket of an operation that begins now. -/
def ticket (s : Session) (op : Operation) : Ticket := ⟨s.console.client, op⟩

/-- A session after an operation began: one more is in flight, and its ticket is
    outstanding. -/
def begins (s : Session) (op : Operation) : Session :=
  { s with
    console := { s.console with inFlight := s.console.inFlight + 1 }
    outstanding := s.outstanding ++ [s.ticket op] }

/-- A session after an event was told: it waits to be applied, unless nobody receives it. -/
def tells (s : Session) (event : ConsoleEvent) : Session :=
  if s.receiving then { s with unapplied := s.unapplied ++ [event] } else s

/-- **AN OPERATION THAT IS LAUNCHED** makes its request if it has one, and does nothing
    else. -/
theorem operate_launch {s : Session} {f : Console → Console × List Effect} {op : Operation}
    (hf : f s.console = s.console.launch op) :
    (s.operate f).1 = s.begins op
      ∧ (s.operate f).2.requests = (s.ticket op).request?.toList := by
  simp only [operate, hf, Console.launch, performAll, perform, List.append_nil]
  exact ⟨rfl, rfl⟩

/-- **AN OPERATION THAT IS REFUSED** tells an error, and does nothing else. -/
theorem operate_refuse {s : Session} {f : Console → Console × List Effect} {message : String}
    (hf : f s.console = (s.console, [.tell (.error message)])) :
    (s.operate f).1 = s.tells (.error message) ∧ (s.operate f).2.requests = [] := by
  simp only [operate, hf, performAll, perform, tell, tells]
  split <;> exact ⟨rfl, rfl⟩

end Session

/-! ## One key -/

namespace Dashboard

/-- A dashboard after an operation began, with the requests that are made. -/
def begins (d : Dashboard) (op : Operation) (requests : List Request) :
    Dashboard × List Request :=
  ({ d with session := d.session.begins op }, requests)

/-- A dashboard after a key was refused. -/
def refuses (d : Dashboard) (message : String) : Dashboard × List Request :=
  ({ d with session := d.session.tells (.error message) }, [])

/-- What comes of asking for a path below the address: an operation begins, with one request,
    or with nothing but a failure to come where the path cannot be reached. -/
inductive Asks (d : Dashboard) (op : Operation) (method : Method) (path : String)
    (body : Option Json) : Dashboard × List Request → Prop where
  | sent (base : String) (request : Request) : d.session.console.client.baseUrl = some base →
      (d.session.ticket op).request? = some request → request.AsksFor base method path body →
      Asks d op method path body (d.begins op [request])
  | unsent (message : String) : ¬ d.session.console.client.Reaches path →
      (d.session.ticket op).request? = none →
      (∀ delivery, (d.session.ticket op).outcome delivery = .operationFailed message) →
      Asks d op method path body (d.begins op [])

/-- What the keys do to the selected task, with an address that can be used. -/
structure KeysActOn (d : Dashboard) (base : String) (now : Timestamp) (t : Task) : Prop where
  -- a run is asked for if the task is enabled and has an id
  runs : ∀ key ∈ [Key.enter, .char 'x'], t.enabled = true → ∀ id, t.id = some id →
    ∃ request, d.press now key = d.begins (.run id) [request]
      ∧ (d.session.ticket (.run id)).request? = some request
      ∧ request.AsksFor base .post
        ("tasks/" ++ Text.showInt id.toInt ++ "/request_run") none
  -- and refused if not
  disabled : ∀ key ∈ [Key.enter, .char 'x'], t.enabled = false →
    d.press now key = d.refuses "Task is disabled"
  unsaved : ∀ key ∈ [Key.enter, .char 'x'], t.enabled = true → t.id = none →
    d.press now key = d.refuses "Task is missing an ID"
  -- the task is saved in its other state, and with a next time
  toggles : t.defect? = none → ∀ id, t.id = some id →
    ∃ op request, op = .update (Console.scheduledFrom now (toggled t))
      ∧ d.press now (.char 'e') = d.begins op [request]
      ∧ (d.session.ticket op).request? = some request
      ∧ request.AsksFor base .patch ("tasks/" ++ Text.showInt id.toInt)
        (some (.object (Json.changed "next_execution" (Json.filled (.string now.wire))
          (Json.changed "enabled" Json.negated t.members))))
      ∧ request.Records { t.toMillis with
          enabled := !t.enabled
          nextExecution := some (t.nextExecution.getD now).toMillis }
  toggle_refused : ∀ defect, t.defect? = some defect →
    d.press now (.char 'e') = d.refuses defect.message
  -- a task like it is created, under another name, without an id and with a next time
  copies : ({ t with id := none, name := t.name ++ " (copy)" } : Task).defect? = none →
    ∃ op request, op = .create (Console.scheduledFrom now (duplicate t))
      ∧ d.press now (.char 'd') = d.begins op [request]
      ∧ (d.session.ticket op).request? = some request
      ∧ request.AsksFor base .post "tasks"
        (some (.object (Json.changed "next_execution" (Json.filled (.string now.wire))
          (Json.changed "name" (Json.extended " (copy)")
            (Json.changed "id" (fun _ => .null) t.members)))))
      ∧ request.Records { t.toMillis with
          id := none
          name := t.name ++ " (copy)"
          nextExecution := some (t.nextExecution.getD now).toMillis }
  copy_refused : ∀ defect,
    ({ t with id := none, name := t.name ++ " (copy)" } : Task).defect? = some defect →
    d.press now (.char 'd') = d.refuses defect.message

section Advance

variable {d : Dashboard}

/-- Where the path can be reached, the request is made. -/
theorem Asks.request {base : String} {op : Operation} {method : Method} {path : String}
    {body : Option Json} {after : Dashboard × List Request}
    (h : d.Asks op method path body after)
    (hbase : d.session.console.client.baseUrl = some base)
    (hreaches : d.session.console.client.Reaches path) :
    ∃ request, after = d.begins op [request]
      ∧ (d.session.ticket op).request? = some request
      ∧ request.AsksFor base method path body := by
  cases h with
  | sent base' request hbase' hmakes hasks =>
      cases hbase.symm.trans hbase'
      exact ⟨request, rfl, hmakes, hasks⟩
  | unsent message hnot _ _ => exact absurd hreaches hnot

/-- **A STEP THAT LAUNCHES AN OPERATION** asks for it, and does nothing else. -/
theorem advance_launch {a : Step} {f : Console → Console × List Effect}
    (hstep : d.session.step a = d.session.operate f) {op : Operation} {path : String}
    (hf : f d.session.console = d.session.console.launch op) (hop : op.path? = some path)
    (hfetch : op.isFetch = false) {method : Method} {body : Option Json}
    (hrequest : ∀ url, op.request url = ⟨method, url, true, body⟩) :
    d.Asks op method path body (d.advance a) := by
  obtain ⟨hsession, hrequests⟩ := Session.operate_launch hf
  have hbegins : d.advance a = d.begins op (d.session.ticket op).request?.toList := by
    show ({ d with session := (d.session.step a).1 }, (d.session.step a).2.requests) = _
    rw [hstep, hsession, hrequests]
    rfl
  rw [hbegins]
  cases hmakes : (d.session.ticket op).request? with
  | some request =>
      have hprepare : d.session.console.client.prepare op = .ok request :=
        Ticket.prepared_of_sent hmakes
      obtain ⟨⟨base, path', hbase, hpath, hurl⟩, hmade⟩ := Client.prepare_eq_ok_iff.mp hprepare
      cases hop.symm.trans hpath
      rw [hrequest] at hmade
      exact .sent base request hbase hmakes
        ⟨congrArg Request.method hmade, hurl, congrArg Request.body hmade⟩
  | none =>
      obtain ⟨failure, hprepare, houtcome⟩ := Ticket.outcome_of_unsent hmakes
      refine .unsent failure.message ?_ hmakes ?_
      · -- with a path that is reached, it would have been prepared
        rintro ⟨base, url, hbase, hurl⟩
        have hok : d.session.console.client.prepare op = .ok (op.request url) :=
          Client.prepare_eq_ok_iff.mpr ⟨⟨base, path, hbase, hop, hurl⟩, rfl⟩
        cases hok.symm.trans hprepare
      · intro delivery
        rw [houtcome]
        exact Operation.failure_eq hfetch failure

/-- A step that is refused tells why. -/
theorem advance_refuse {a : Step} {f : Console → Console × List Effect}
    (hstep : d.session.step a = d.session.operate f) {message : String}
    (hf : f d.session.console = (d.session.console, [.tell (.error message)])) :
    d.advance a = d.refuses message := by
  obtain ⟨hsession, hrequests⟩ := Session.operate_refuse hf
  show ({ d with session := (d.session.step a).1 }, (d.session.step a).2.requests) = _
  rw [hstep, hsession, hrequests]
  rfl

/-- A run of a task that is enabled and has an id is asked for. -/
theorem advance_run {t : Task} (henabled : t.enabled = true) {id : Int64}
    (hid : t.id = some id) :
    d.Asks (.run id) .post ("tasks/" ++ Text.showInt id.toInt ++ "/request_run") none
      (d.advance (.runNow t)) := by
  have hf : d.session.console.runNow t = d.session.console.launch (.run id) := by
    rw [Console.runNow, if_pos henabled, hid]
  exact advance_launch (f := (·.runNow t)) rfl hf rfl rfl fun _ => rfl

/-- A save of a task without a defect asks for the task to be changed, or created if it has
    no id. -/
theorem advance_save (now : Timestamp) {t : Task} (hdefect : t.defect? = none) :
    d.Asks (.save (Console.scheduledFrom now t)) t.saveMethod t.savePath
      (some (.object (Console.scheduledFrom now t).members)) (d.advance (.save now t)) := by
  have hf : d.session.console.save now t
      = d.session.console.launch (.save (Console.scheduledFrom now t)) := by
    rw [Console.save, hdefect]
  exact advance_launch (f := (·.save now t)) rfl hf (Operation.path?_save _)
    (Operation.isFetch_save _) (Operation.request_save _)

theorem advance_save_of_defect (now : Timestamp) {t : Task} {defect : TaskDefect}
    (hdefect : t.defect? = some defect) :
    d.advance (.save now t) = d.refuses defect.message := by
  refine advance_refuse (f := (·.save now t)) rfl ?_
  show d.session.console.save now t = _
  rw [Console.save, hdefect]

end Advance

section Selected

variable {d : Dashboard} {t : Task} (hselected : d.app.selectedTask? = some t)

include hselected

theorem onSelected_of_some (f : Task → Step) : d.onSelected f = d.advance (f t) := by
  rw [onSelected, hselected]

/-- Both keys that ask for a run do the same. -/
theorem press_run (now : Timestamp) :
    ∀ key ∈ [Key.enter, .char 'x'], d.press now key = d.advance (.runNow t) := by
  intro key hkey
  rw [← onSelected_of_some hselected]
  rcases List.mem_cons.mp hkey with rfl | hkey
  · rfl
  · rw [List.mem_singleton.mp hkey]
    rfl

theorem press_toggle (now : Timestamp) :
    d.press now (.char 'e') = d.advance (.save now (toggled t)) :=
  onSelected_of_some hselected _

theorem press_copy (now : Timestamp) :
    d.press now (.char 'd') = d.advance (.save now (duplicate t)) :=
  onSelected_of_some hselected _

/-- A task without a defect that is turned over is saved in its other state. -/
theorem press_toggle_asks (now : Timestamp) (hdefect : t.defect? = none) :
    d.Asks (.save (Console.scheduledFrom now (toggled t))) t.saveMethod t.savePath
      (some (.object (Json.changed "next_execution" (Json.filled (.string now.wire))
        (Json.changed "enabled" Json.negated t.members)))) (d.press now (.char 'e')) := by
  have hasks := d.advance_save now (t := toggled t) hdefect
  rw [t.members_toggled now] at hasks
  rw [press_toggle hselected]
  exact hasks

/-- With an id, its own record is asked to change. -/
theorem press_toggle_updates (now : Timestamp) (hdefect : t.defect? = none) {id : Int64}
    (hid : t.id = some id) :
    d.Asks (.update (Console.scheduledFrom now (toggled t))) .patch
      ("tasks/" ++ Text.showInt id.toInt)
      (some (.object (Json.changed "next_execution" (Json.filled (.string now.wire))
        (Json.changed "enabled" Json.negated t.members)))) (d.press now (.char 'e')) := by
  have hop : Operation.save (Console.scheduledFrom now (toggled t))
      = .update (Console.scheduledFrom now (toggled t)) := Operation.save_of_some hid
  have hasks := press_toggle_asks hselected now hdefect
  rw [hop, Task.saveMethod, Task.savePath, hid] at hasks
  exact hasks

/-- Without one, a new record is. -/
theorem press_toggle_creates (now : Timestamp) (hdefect : t.defect? = none)
    (hid : t.id = none) :
    d.Asks (.create (Console.scheduledFrom now (toggled t))) .post "tasks"
      (some (.object (Json.changed "next_execution" (Json.filled (.string now.wire))
        (Json.changed "enabled" Json.negated t.members)))) (d.press now (.char 'e')) := by
  have hop : Operation.save (Console.scheduledFrom now (toggled t))
      = .create (Console.scheduledFrom now (toggled t)) := Operation.save_of_none hid
  have hasks := press_toggle_asks hselected now hdefect
  rw [hop, Task.saveMethod, Task.savePath, hid] at hasks
  exact hasks

theorem press_toggle_of_defect (now : Timestamp) {defect : TaskDefect}
    (hdefect : t.defect? = some defect) :
    d.press now (.char 'e') = d.refuses defect.message := by
  rw [press_toggle hselected]
  exact advance_save_of_defect now (t := toggled t) hdefect

end Selected

/-- Without a selected task, an error is shown. -/
theorem onSelected_of_none {d : Dashboard} (hnone : d.app.selectedTask? = none)
    (f : Task → Step) :
    d.onSelected f = ({ d with app := d.app.setError "No task selected" }, []) := by
  rw [onSelected, hnone]

/-- **WHAT THE KEYS DO** to the selected task. -/
theorem keysActOn {d : Dashboard} {base : String}
    (husable : d.session.console.client.IsUsable base) (now : Timestamp) {t : Task}
    (hselected : d.app.selectedTask? = some t) : d.KeysActOn base now t where
  runs := by
    intro key hkey henabled id hid
    rw [press_run hselected now key hkey]
    exact (advance_run henabled hid).request husable.known
      (husable.reaches_path (.run id) rfl)
  disabled := by
    intro key hkey hdisabled
    rw [press_run hselected now key hkey]
    refine advance_refuse (f := (·.runNow t)) rfl ?_
    show d.session.console.runNow t = _
    rw [Console.runNow, hdisabled, if_neg Bool.false_ne_true]
  unsaved := by
    intro key hkey henabled hid
    rw [press_run hselected now key hkey]
    refine advance_refuse (f := (·.runNow t)) rfl ?_
    show d.session.console.runNow t = _
    rw [Console.runNow, if_pos henabled, hid]
    rfl
  toggles := by
    intro hdefect id hid
    obtain ⟨request, hpress, hmakes, hrequest⟩ :=
      (press_toggle_updates hselected now hdefect hid).request husable.known
        (husable.reaches_path (.update { t with id := some id }) rfl)
    exact ⟨_, request, rfl, hpress, hmakes, hrequest,
      Request.records_of_body (t.members_toggled now) hrequest.body_eq⟩
  toggle_refused := fun _ => press_toggle_of_defect hselected now
  copies := by
    intro hdefect
    have hasks := d.advance_save now (t := duplicate t) hdefect
    rw [t.members_duplicate now] at hasks
    rw [press_copy hselected]
    obtain ⟨request, hpress, hmakes, hrequest⟩ := hasks.request husable.known
      (husable.reaches_path (.create t) rfl)
    exact ⟨_, request, rfl, hpress, hmakes, hrequest,
      Request.records_of_body (t.members_duplicate now) hrequest.body_eq⟩
  copy_refused := by
    intro defect hdefect
    rw [press_copy hselected]
    exact advance_save_of_defect now (t := duplicate t) hdefect

/-- **KEYS ACT ON THE SELECTED TASK**, with all that they change. -/
theorem keys_act_on_selected {d : Dashboard} {base : String}
    (husable : d.session.console.client.IsUsable base) (now : Timestamp) :
    (∀ t, d.app.selectedTask? = some t → d.KeysActOn base now t)
    -- without a selected task, these keys change the status and nothing else
    ∧ (d.app.selectedTask? = none → ∀ key ∈ [Key.enter, .char 'x', .char 'e', .char 'd'],
      d.press now key
        = ({ d with app := { d.app with status := some ⟨"No task selected", true⟩ } }, []))
    -- and no key at all changes the list
    ∧ ∀ key, (d.press now key).1.app.tasks = d.app.tasks := by
  refine ⟨fun t => keysActOn husable now, ?_,
    fun key => (d.goesOn_press now key).like.tasks⟩
  intro hnone key hkey
  simp only [List.mem_cons, List.not_mem_nil, or_false] at hkey
  rcases hkey with rfl | rfl | rfl | rfl
  · exact onSelected_of_none hnone _
  · exact onSelected_of_none hnone _
  · exact onSelected_of_none hnone _
  · exact onSelected_of_none hnone _

/-- A task that can be run, and has no next time. -/
def backup : Task where
  id := some 7
  name := "backup"
  cronSchedule := "0 3 * * *"
  actionName := "dump"
  actionFunction := "run"
  actionConfiguration := "all"
  timeout := 1000

/-- A base URL of version 4. -/
def tenNet : String := (Announcement.silent (.v4 10 0 0 1)).baseUrl

/-- The task is selected while the list and an operation are in flight. -/
def underway : Dashboard where
  app := { tasks := [backup], selected := some 0 }
  session := { console := { client := Client.retarget {} tenNet, loading := true, inFlight := 1 } }

theorem underway_isUsable : underway.session.console.client.IsUsable tenNet where
  known := congrArg Client.baseUrl (Announcement.retarget_baseUrl _ {})
  reaches := by
    intro op path hop
    obtain ⟨url, hurl, -⟩ := (Announcement.silent_unaddressed (.v4 10 0 0 1)).exists_target rfl hop
    exact ⟨url, hurl⟩

theorem keys_act_on_selected_underway :
    underway.session.console.client.IsUsable tenNet
      ∧ underway.app.selectedTask? = some backup
      ∧ (∃ request, underway.press Registry.firstDay .enter = underway.begins (.run 7) [request]
        ∧ request.AsksFor tenNet .post "tasks/7/request_run" none)
      -- the record that is sent for the other key is read as the task, disabled and with a time
      ∧ ∃ op request, underway.press Registry.firstDay (.char 'e')
          = underway.begins op [request]
        ∧ request.Records
          { backup with enabled := false, nextExecution := some Registry.firstDay } := by
  obtain ⟨hkeys, -, -⟩ := keys_act_on_selected underway_isUsable Registry.firstDay
  refine ⟨underway_isUsable, rfl, ?_, ?_⟩
  · have hpath : "tasks/" ++ Text.showInt (7 : Int64).toInt ++ "/request_run"
        = "tasks/7/request_run" := by decide +kernel
    obtain ⟨request, hpress, -, hasks⟩ :=
      (hkeys backup rfl).runs .enter List.mem_cons_self rfl 7 rfl
    rw [hpath] at hasks
    exact ⟨request, hpress, hasks⟩
  · obtain ⟨op, request, -, hpress, -, -, hrecords⟩ :=
      (hkeys backup rfl).toggles (by decide) 7 rfl
    exact ⟨op, request, hpress, hrecords⟩

end Dashboard

end TaskConsole
