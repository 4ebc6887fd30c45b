import TaskConsole.Proofs.KeyPresses
import TaskConsole.Proofs.TaskLists

/-! # Toggles — what turning a task over sends

    A listed task that is turned over is saved, and a save updates a task that has an id
    and creates one that has none.  A list may hold tasks without ids, since a record is
    read whatever its members are.  So for the selected task, with any address or none:

    * with a defect, the key is refused;
    * with an id, its own record is asked to change (`Dashboard.Toggles.updates`);
    * without one, a new task is asked for (`Dashboard.Toggles.creates`), and the list has
      two of them (`idlessList_creates`);
    * where nothing can be asked for, the operation fails, whatever happens next (`Asks`). -/

namespace TaskConsole

namespace Dashboard

/-! ## What asking comes to -/

variable {d : Dashboard}

section Asked

variable {op : Operation} {method : Method} {path : String} {body : Option Json}
  {after : Dashboard × List Request} (h : d.Asks op method path body after)

include h

/-- Where the path can be reached, a request is made, and it is the only one. -/
theorem Asks.mem_requests_iff :
    (∃ request, request ∈ after.2) ↔ d.session.console.client.Reaches path := by
  cases h with
  | sent base request hbase hmakes hasks =>
      refine ⟨fun _ => ⟨base, request.url, hbase, hasks.target⟩, fun _ => ?_⟩
      exact ⟨request, List.mem_singleton_self _⟩
  | unsent message hnot _ _ =>
      exact ⟨fun ⟨_, hr⟩ => absurd hr List.not_mem_nil, fun hreaches => absurd hreaches hnot⟩

theorem Asks.method_eq : ∀ request ∈ after.2, request.method = method := by
  intro request hr
  cases h with
  | sent base other hbase hmakes hasks =>
      rw [List.mem_singleton.mp hr]
      exact hasks.method_eq
  | unsent message hnot _ _ => exact absurd hr List.not_mem_nil

end Asked

/-! ## The key -/

/-- The record of a task in its other state, as it is sent. -/
def toggledRecord (now : Timestamp) (t : Task) : Json :=
  .object (Json.changed "next_execution" (Json.filled (.string now.wire))
    (Json.changed "enabled" Json.negated t.members))

/-- What turning the selected task over comes to. -/
structure Toggles (d : Dashboard) (now : Timestamp) (t : Task) : Prop where
  refused : ∀ defect, t.defect? = some defect →
    d.press now (.char 'e') = d.refuses defect.message
  -- the record of the task is changed in its place
  updates : t.defect? = none → ∀ id, t.id = some id →
    d.Asks (.update (Console.scheduledFrom now (toggled t))) .patch
      ("tasks/" ++ Text.showInt id.toInt) (some (toggledRecord now t))
      (d.press now (.char 'e'))
  -- a record that has no place is made
  creates : t.defect? = none → t.id = none →
    d.Asks (.create (Console.scheduledFrom now (toggled t))) .post "tasks"
      (some (toggledRecord now t)) (d.press now (.char 'e'))
  -- and that happens to no other task
  posts_iff : (∃ request ∈ (d.press now (.char 'e')).2, request.method = .post)
    ↔ t.id = none ∧ t.defect? = none ∧ d.session.console.client.Reaches "tasks"

/-- **A SELECTED TASK** is turned over. -/
theorem toggles {t : Task} (hselected : d.app.selectedTask? = some t) (now : Timestamp) :
    d.Toggles now t where
  refused := fun _ => press_toggle_of_defect hselected now
  updates := fun hdefect _ hid => press_toggle_updates hselected now hdefect hid
  creates := fun hdefect hid => press_toggle_creates hselected now hdefect hid
  posts_iff := by
    constructor
    · rintro ⟨request, hr, hpost⟩
      cases hdefect : t.defect? with
      | some defect =>
          rw [press_toggle_of_defect hselected now hdefect] at hr
          exact absurd hr List.not_mem_nil
      | none =>
          cases hid : t.id with
          | some id =>
              have hupdates := press_toggle_updates hselected now hdefect hid
              cases (hupdates.method_eq request hr).symm.trans hpost
          | none =>
              have hcreates := press_toggle_creates hselected now hdefect hid
              exact ⟨rfl, rfl, hcreates.mem_requests_iff.mp ⟨request, hr⟩⟩
    · rintro ⟨hid, hdefect, hreaches⟩
      have hcreates := press_toggle_creates hselected now hdefect hid
      obtain ⟨request, hr⟩ := hcreates.mem_requests_iff.mpr hreaches
      exact ⟨request, hr, hcreates.method_eq request hr⟩

/-- **TURNING TASKS OVER**: what the key does to every dashboard. -/
theorem toggle_updates_or_creates (d : Dashboard) (now : Timestamp) :
    (∀ t, d.app.selectedTask? = some t → d.Toggles now t)
      -- without a selected task, an error is shown
      ∧ (d.app.selectedTask? = none → d.press now (.char 'e')
        = ({ d with app := { d.app with status := some ⟨"No task selected", true⟩ } }, []))
      -- a list whose records all have ids is never added to
      ∧ ∀ items : List Json, d.app.tasks = items.filterMap Task.ofJson? →
        (∀ ms, .object ms ∈ items → (Json.lookup "id" ms).bind Json.int64? ≠ none) →
        ∀ request ∈ (d.press now (.char 'e')).2, request.method = .patch := by
  refine ⟨fun t hselected => toggles hselected now, fun hnone => onSelected_of_none hnone _, ?_⟩
  intro items htasks hids request hr
  cases hselected : d.app.selectedTask? with
  | none =>
      have hnothing : (d.press now (.char 'e')).2 = [] :=
        congrArg Prod.snd (onSelected_of_none hselected _)
      rw [hnothing] at hr
      exact absurd hr List.not_mem_nil
  | some t =>
      have htoggles := toggles hselected now
      -- the selected task is one of those that the records describe
      obtain ⟨i, -, hi⟩ := Option.bind_eq_some_iff.mp hselected
      have hmem := List.mem_of_getElem? hi
      rw [htasks, List.mem_filterMap] at hmem
      obtain ⟨v, hv, hdescribes⟩ := hmem
      obtain ⟨ms, rfl, rfl⟩ := Task.ofJson?_eq_some_iff.mp hdescribes
      obtain ⟨id, hid⟩ := Option.ne_none_iff_exists'.mp (hids ms hv)
      cases hdefect : (Task.ofMembers ms).defect? with
      | none => exact (htoggles.updates hdefect id hid).method_eq request hr
      | some defect =>
          rw [htoggles.refused defect hdefect] at hr
          exact absurd hr List.not_mem_nil

/-! ## A record without an id -/

/-- Turning tasks over never creates one. -/
def NeverCreates (d : Dashboard) : Prop :=
  ∀ now, ∀ request ∈ (d.press now (.char 'e')).2, request.method ≠ .post

/-- A scheduler announces itself, and lists a task without an id; the main loop goes on
    until a key may be pressed. -/
def idlessList : List Act :=
  [.datagrams [⟨Utf8.encode "\x7b\"type\":\"web_service\",\"service\":\x7b\"port\":3001\x7d\x7d",
      .loopback, Registry.firstDay⟩],
    .proceed {}, .proceed {}, .proceed {},
    .reply 0 (.complete 200 (Utf8.encode ("[\x7b\"name\":\"backup\",\"cron_schedule\":\"0 3 * * *\","
      ++ "\"action_name\":\"dump\",\"action_function\":\"run\",\"action_configuration\":\"all\","
      ++ "\"timeout\":1000\x7d]"))),
    .proceed {}, .proceed {}, .proceed {}, .proceed {}]

/-- **A TASK WITHOUT AN ID** is created anew: the key makes the request of a new task. -/
theorem idlessList_creates :
    ¬ ((Rounds.opened (.ok .loopback)).1.run idlessList).1.dashboard.NeverCreates := by
  intro hnever
  have hposts : (((Rounds.opened (.ok .loopback)).1.run idlessList).1.dashboard.press
      Registry.firstDay (.char 'e')).2.any (fun request => request.method = .post) = true := by
    decide +kernel
  obtain ⟨request, hr, hpost⟩ := List.any_eq_true.mp hposts
  exact hnever Registry.firstDay request hr (of_decide_eq_true hpost)

end Dashboard

end TaskConsole
