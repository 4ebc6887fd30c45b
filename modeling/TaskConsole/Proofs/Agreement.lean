import TaskConsole.Dashboard.Rounds
import TaskConsole.Proofs.EventOrder
import TaskConsole.Proofs.Outcomes
import TaskConsole.Proofs.Publication

/-! # Agreement — what the dashboard shows is what it will act on

    The console and the screen take in the same events, each in its own way: the console
    learns an address when discovery tells it, the screen when the event that the console
    told of it is applied.  In between, the two differ.  They agree at every draw:

    * what is shown comes from the events that were applied (`App.Shows`), and no key and
      no clock changes the list or the address;
    * a listener reports no address of blanks (`Listener.receive_tellsUrl`), so that the
      console takes over whatever the screen will show;
    * a round goes on to the screen only when no address is left waiting
      (`Rounds.Agrees`), whatever comes in between its moves. -/

namespace TaskConsole

/-! ## What is shown -/

namespace App

/-- What is shown comes from the events: the last address and the last list among them. -/
structure Shows (a : App) (events : List ConsoleEvent) : Prop where
  serviceUrl : a.serviceUrl = (events.filterMap ConsoleEvent.url?).getLast?
  tasks : a.tasks = (events.filterMap ConsoleEvent.list?).getLast?.getD []

/-- The address and the list are those of another state. -/
structure Like (b a : App) : Prop where
  serviceUrl : b.serviceUrl = a.serviceUrl
  tasks : b.tasks = a.tasks

variable {a b : App}

theorem Like.refl (a : App) : a.Like a := ⟨rfl, rfl⟩

theorem Shows.like {events : List ConsoleEvent} (h : a.Shows events) (hb : b.Like a) :
    b.Shows events :=
  ⟨hb.serviceUrl.trans h.serviceUrl, hb.tasks.trans h.tasks⟩

theorem like_select (a : App) (selection : Option Nat) : (a.select selection).Like a := by
  cases selection <;> exact ⟨rfl, rfl⟩

theorem like_selectOffset (a : App) (offset : Int) : (a.selectOffset offset).Like a := by
  simp only [selectOffset]
  split <;> exact a.like_select _

theorem like_clearStatus (a : App) (stale busy : Bool) : (a.clearStatus stale busy).Like a := by
  simp only [clearStatus]
  split <;> exact ⟨rfl, rfl⟩

/-- A new list is shown, whatever is selected then. -/
theorem replaceTasks_serviceUrl (a : App) (tasks : List Task) :
    (a.replaceTasks tasks).serviceUrl = a.serviceUrl :=
  (like_select _ _).serviceUrl

theorem replaceTasks_tasks (a : App) (tasks : List Task) :
    (a.replaceTasks tasks).tasks = tasks := (like_select _ _).tasks

/-- Two states differ in no more than where the window of the list begins. -/
def Alike (a b : App) : Prop := ∃ offset, b = { a with offset := offset }

/-- **DRAWING** moves the window of the list, and nothing else. -/
theorem alike_view (a : App) (size : Size) (busy : Bool) : a.Alike (a.view size busy).1 := by
  have htaskPage (width height : Nat) : a.Alike (a.taskPage width height).1 := by
    simp only [taskPage]
    split
    · exact ⟨a.offset, rfl⟩
    · exact ⟨(a.window (height - 1)).first, rfl⟩
  have hpage (width height : Nat) : a.Alike (a.page width height).1 := by
    simp only [page]
    split
    · exact ⟨a.offset, rfl⟩
    · cases a.tab with
      | tasks => exact htaskPage _ _
      | details => exact ⟨a.offset, rfl⟩
  simp only [view, viewWithin]
  split
  · exact ⟨a.offset, rfl⟩
  · exact hpage _ _

theorem like_view (a : App) (size : Size) (busy : Bool) : (a.view size busy).1.Like a := by
  obtain ⟨offset, hoffset⟩ := a.alike_view size busy
  rw [hoffset]
  exact ⟨rfl, rfl⟩

/-- **AN EVENT IS SHOWN**: an address or a list takes the place of the one before. -/
theorem Shows.onEvent {events : List ConsoleEvent} (h : a.Shows events) (event : ConsoleEvent) :
    (a.onEvent event).Shows (events ++ [event]) := by
  have hother (hlike : (a.onEvent event).Like a) (hurl : event.url? = none)
      (hlist : event.list? = none) : (a.onEvent event).Shows (events ++ [event]) := by
    refine (Shows.like ⟨?_, ?_⟩ hlike)
    · rw [List.filterMap_append, List.filterMap_cons, hurl, List.filterMap_nil,
        List.append_nil]
      exact h.serviceUrl
    · rw [List.filterMap_append, List.filterMap_cons, hlist, List.filterMap_nil,
        List.append_nil]
      exact h.tasks
  cases event with
  | tasksReplaced tasks =>
      refine ⟨?_, ?_⟩
      · rw [List.filterMap_append]
        show (a.replaceTasks tasks).serviceUrl = (_ ++ []).getLast?
        rw [List.append_nil, replaceTasks_serviceUrl]
        exact h.serviceUrl
      · rw [List.filterMap_append]
        show (a.replaceTasks tasks).tasks = (_ ++ [tasks]).getLast?.getD []
        rw [List.getLast?_concat, replaceTasks_tasks]
        rfl
  | serviceUrlChanged url =>
      refine ⟨?_, ?_⟩
      · rw [List.filterMap_append]
        show some url = (_ ++ [url]).getLast?
        rw [List.getLast?_concat]
      · rw [List.filterMap_append]
        show a.tasks = (_ ++ []).getLast?.getD []
        rw [List.append_nil]
        exact h.tasks
  | saveResult r =>
      refine hother ?_ rfl rfl
      simp only [App.onEvent]
      split <;> exact ⟨rfl, rfl⟩
  | _ => exact hother ⟨rfl, rfl⟩ rfl rfl

end App

/-! ## The session behind the screen -/

namespace Dashboard

/-- The steps of the session that a key calls for. -/
def pressed (d : Dashboard) (now : Timestamp) : Key → List Step
  | .char 'r' => [.refresh]
  | .enter => d.app.selectedTask?.toList.map .runNow
  | .char 'x' => d.app.selectedTask?.toList.map .runNow
  | .char 'e' => d.app.selectedTask?.toList.map fun task => .save now (toggled task)
  | .char 'd' => d.app.selectedTask?.toList.map fun task => .save now (duplicate task)
  | _ => []

/-- A dashboard has gone on by some steps of its session, with the same address and list on
    the screen and the same news. -/
structure GoesOn (d : Dashboard) (steps : List Step) (next : Dashboard) : Prop where
  session : next.session = (d.session.run steps).1
  like : next.app.Like d.app
  news : next.news = d.news

theorem goesOn_onSelected (d : Dashboard) (f : Task → Step) :
    d.GoesOn (d.app.selectedTask?.toList.map f) (d.onSelected f).1 := by
  simp only [onSelected]
  cases d.app.selectedTask? with
  | none => exact ⟨rfl, ⟨rfl, rfl⟩, rfl⟩
  | some task => exact ⟨rfl, ⟨rfl, rfl⟩, rfl⟩

/-- The list is asked for, and the status may tell that it has to wait. -/
theorem goesOn_askFor (d : Dashboard) (now : Timestamp) :
    d.GoesOn [.refresh] (d.press now (.char 'r')).1 := by
  have hboth (waits : Bool) : d.GoesOn [.refresh]
      (if waits then (d.advance .refresh).1.awaitDiscovery else (d.advance .refresh).1) := by
    cases waits <;> exact ⟨rfl, ⟨rfl, rfl⟩, rfl⟩
  exact hboth _

/-- **A KEY** leaves the list and the address on the screen as they are. -/
theorem goesOn_press (d : Dashboard) (now : Timestamp) (key : Key) :
    d.GoesOn (d.pressed now key) (d.press now key).1 := by
  cases key with
  | char c =>
      by_cases hr : c = 'r'
      · rw [hr]
        exact d.goesOn_askFor now
      by_cases hx : c = 'x'
      · rw [hx]
        exact d.goesOn_onSelected .runNow
      by_cases he : c = 'e'
      · rw [he]
        exact d.goesOn_onSelected fun task => .save now (toggled task)
      by_cases hd : c = 'd'
      · rw [hd]
        exact d.goesOn_onSelected fun task => .save now (duplicate task)
      · -- any other character does nothing
        have hpress : d.press now (.char c) = (d, []) := by
          simp only [press]
          split <;> simp_all
        have hpressed : d.pressed now (.char c) = [] := by
          simp only [pressed]
          split <;> simp_all
        rw [hpress, hpressed]
        exact ⟨rfl, .refl d.app, rfl⟩
  | up => exact ⟨rfl, d.app.like_selectOffset (-1), rfl⟩
  | down => exact ⟨rfl, d.app.like_selectOffset 1, rfl⟩
  | enter => exact d.goesOn_onSelected .runNow
  | _ => exact ⟨rfl, ⟨rfl, rfl⟩, rfl⟩

theorem goesOn_tidy (d : Dashboard) (due stale : Bool) :
    d.GoesOn (if due then [.refresh] else []) (d.tidy due stale).1 := by
  cases due with
  | true => exact ⟨rfl, App.like_clearStatus _ _ _, rfl⟩
  | false => exact ⟨rfl, App.like_clearStatus _ _ _, rfl⟩

theorem goesOn_draw (d : Dashboard) (size : Size) : d.GoesOn [] (d.draw size).1 :=
  ⟨rfl, d.app.like_view size d.isBusy, rfl⟩

end Dashboard

/-! ## The news of a listener -/

/-- An address that is published is none of blanks. -/
theorem Announcement.isBlankText_baseUrl (a : Announcement) :
    Text.isBlankText a.baseUrl = false := by
  have hhead : ∃ rest, a.baseUrlText = 'h' :: rest := by
    simp only [baseUrlText, withSlash]
    split
    · exact ⟨_, rfl⟩
    · exact ⟨_, rfl⟩
  obtain ⟨rest, hrest⟩ := hhead
  have hblank : Text.isBlank 'h' = false := by decide
  rw [Text.isBlankText, baseUrl, String.toList_ofList, hrest, List.all_cons, hblank,
    Bool.false_and]

/-- **WHAT A LISTENER REPORTS** tells no address of blanks. -/
theorem Listener.receive_tellsUrl (l : Listener) (batch : List Datagram) :
    ∀ event ∈ (l.receive batch).2, event.TellsUrl := by
  cases hreg : l.registry? with
  | none =>
      rw [receive_none hreg]
      exact fun event hmem => absurd hmem List.not_mem_nil
  | some r =>
      cases hf : (r.observeAll batch).freshest? with
      | none =>
          rw [receive_same hreg (Registry.refresh_of_none hf)]
          exact fun event hmem => absurd hmem List.not_mem_nil
      | some a =>
          by_cases hp : (r.observeAll batch).published = some a.baseUrl
          · rw [receive_same hreg (Registry.refresh_of_same hf hp)]
            exact fun event hmem => absurd hmem List.not_mem_nil
          · rw [receive_new hreg (Registry.refresh_of_new hf hp)]
            intro event hmem url hurl
            rw [List.mem_singleton.mp hmem] at hurl
            cases Option.some.inj hurl
            exact a.isBlankText_baseUrl

theorem Listener.start_tellsUrl (socket : Except String Address) :
    ∀ event ∈ (Listener.start {} socket).2.2, event.TellsUrl := by
  cases socket with
  | ok host =>
      rw [start_ok rfl rfl]
      exact fun event hmem => absurd hmem List.not_mem_nil
  | error reason =>
      rw [start_error rfl]
      intro event hmem url hurl
      rw [List.mem_singleton.mp hmem] at hurl
      exact absurd hurl.symm (Option.some_ne_none url)

/-! ## A round -/

/-- The events have been taken in. -/
def Phase.isDrained : Phase → Bool
  | news => false
  | events => false
  | _ => true

namespace Rounds

/-- The steps of the session in the next move. -/
def moveSteps (r : Rounds) (cue : Cue) : List Step :=
  match r.phase with
  | .news => (r.dashboard.news.head?).toList.map .discovered
  | .events => (r.dashboard.session.unapplied.head?).toList.map fun _ => .apply 0
  | .tidying => if cue.due then [.refresh] else []
  | .keys _ =>
    match cue.key? with
    | some (now, key) => if key.quits then [] else r.dashboard.pressed now key
    | none => []
  | _ => []

/-- The steps of the session in what happens. -/
def actSteps (r : Rounds) : Act → List Step
  | .datagrams _ => []
  | .reply i d => [.answer i d]
  | .proceed cue => r.moveSteps cue

/-- The steps of the session in a run. -/
def history (r : Rounds) : List Act → List Step
  | [] => []
  | a :: rest => r.actSteps a ++ (r.act a).1.history rest

/-- The console and the screen have taken in the same: the session has made some steps,
    what is shown comes from the events applied in them, and once the events of a round are
    taken in, no address waits among them. -/
structure Agrees (r : Rounds) (steps : List Step) : Prop where
  session : r.dashboard.session = (Session.run {} steps).1
  inTurn : ∀ a ∈ steps, a.InTurn
  news : ∀ event ∈ r.dashboard.news, event.TellsUrl
  shows : r.dashboard.app.Shows (Session.applied {} steps)
  drained : r.phase.isDrained = true →
    r.dashboard.session.unapplied.filterMap ConsoleEvent.url? = []

end Rounds

/-- A step that the operator or the scheduler makes: nothing is applied, and no address is
    told. -/
def Step.isOutside : Step → Bool
  | refresh => true
  | runNow _ => true
  | save _ _ => true
  | answer _ _ => true
  | _ => false

theorem Step.inTurn_of_isOutside {a : Step} (h : a.isOutside = true) : a.InTurn := by
  cases a with
  | discovered event => exact absurd h Bool.false_ne_true
  | apply i => exact absurd h Bool.false_ne_true
  | applyForeign event => exact absurd h Bool.false_ne_true
  | closeReceiver => exact absurd h Bool.false_ne_true
  | _ => trivial

theorem Step.url?_of_isOutside {a : Step} (h : a.isOutside = true) : a.url? = none := by
  cases a with
  | discovered event => exact absurd h Bool.false_ne_true
  | _ => rfl

theorem Session.applied?_of_isOutside (s : Session) {a : Step} (h : a.isOutside = true) :
    s.applied? a = none := by
  cases a with
  | apply i => exact absurd h Bool.false_ne_true
  | _ => rfl

namespace Rounds

variable {r : Rounds} {steps : List Step}

/-- **A STEP FROM OUTSIDE** keeps a console and a screen in agreement. -/
theorem Agrees.outside (h : r.Agrees steps) {more : List Step}
    (hmore : ∀ a ∈ more, a.isOutside = true) {phase : Phase} {next : Dashboard}
    (hnext : r.dashboard.GoesOn more next)
    (hphase : phase.isDrained = true → r.phase.isDrained = true) :
    Agrees { r with stage := { r.stage with dashboard := next }, phase } (steps ++ more) := by
  have hinTurn := fun a ha => Step.inTurn_of_isOutside (hmore a ha)
  have hsession := hnext.session
  have happlied (s : Session) : s.applied more = [] := by
    clear hsession hinTurn hnext
    induction more generalizing s with
    | nil => rfl
    | cons a rest ih =>
        show (s.applied? a).toList ++ _ = []
        rw [s.applied?_of_isOutside (hmore a List.mem_cons_self),
          ih (fun b hb => hmore b (List.mem_cons_of_mem a hb))]
        rfl
  refine
    { session := ?_
      inTurn := ?_
      news := ?_
      shows := ?_
      drained := ?_ }
  · show next.session = _
    rw [hsession, h.session, Session.run_append]
  · intro a ha
    rcases List.mem_append.mp ha with hold | hnew
    · exact h.inTurn a hold
    · exact hinTurn a hnew
  · show ∀ event ∈ next.news, _
    rw [hnext.news]
    exact h.news
  · rw [Session.applied_append, happlied, List.append_nil]
    exact h.shows.like hnext.like
  · intro hdrained
    have hwaiting := h.drained (hphase hdrained)
    have hreceiving := Session.run_receiving (s := {}) rfl h.inTurn
    rw [← h.session] at hreceiving
    have hfifo := Session.run_fifo hreceiving hinTurn
    have htold := Session.run_tells_urls hreceiving hinTurn
    have hurls : more.filterMap Step.url? = [] := by
      rw [List.filterMap_eq_nil_iff]
      exact fun a ha => Step.url?_of_isOutside (hmore a ha)
    rw [happlied, List.nil_append, ← hsession] at hfifo
    show next.session.unapplied.filterMap _ = []
    rw [hfifo, List.filterMap_append, hwaiting, htold, hurls]
    rfl

/-- **NEWS** are taken over by the console; the screen follows in the same round. -/
theorem Agrees.takeNews (h : r.Agrees steps) {e : DiscoveryEvent} {rest : List DiscoveryEvent}
    (hnews : r.dashboard.news = e :: rest) :
    (r.onto .news ({ r.dashboard with news := rest }.advance (.discovered e))).1.Agrees
      (steps ++ [.discovered e]) := by
  have htells := h.news
  rw [hnews] at htells
  refine
    { session := ?_
      inTurn := ?_
      news := fun event hmem => htells event (List.mem_cons_of_mem e hmem)
      shows := ?_
      drained := fun hdrained => absurd hdrained Bool.false_ne_true }
  · rw [Session.run_append, ← h.session]
    rfl
  · intro a ha
    rcases List.mem_append.mp ha with hold | hnew
    · exact h.inTurn a hold
    · rw [List.mem_singleton.mp hnew]
      exact htells e List.mem_cons_self
  · rw [Session.applied_append]
    show r.dashboard.app.Shows (_ ++ [])
    rw [List.append_nil]
    exact h.shows

/-- **AN EVENT** is applied and shown. -/
theorem Agrees.takeEvent (h : r.Agrees steps) {event : ConsoleEvent} {rest : List ConsoleEvent}
    (hevents : r.dashboard.session.unapplied = event :: rest) :
    (r.onto .events (r.dashboard.takeEvent event)).1.Agrees (steps ++ [.apply 0]) := by
  have hfirst : r.dashboard.session.applied? (.apply 0) = some event := by
    show r.dashboard.session.unapplied[0]? = some event
    rw [hevents]
    rfl
  refine
    { session := ?_
      inTurn := ?_
      news := h.news
      shows := ?_
      drained := fun hdrained => absurd hdrained Bool.false_ne_true }
  · rw [Session.run_append, ← h.session]
    rfl
  · intro a ha
    rcases List.mem_append.mp ha with hold | hnew
    · exact h.inTurn a hold
    · rw [List.mem_singleton.mp hnew]
      exact rfl
  · have happlied : (Session.run {} steps).1.applied [.apply 0] = [event] := by
      rw [← h.session]
      show (r.dashboard.session.applied? (.apply 0)).toList ++ [] = [event]
      rw [hfirst]
      rfl
    rw [Session.applied_append, happlied]
    exact h.shows.onEvent event

/-- A phase ends when nothing is left to take in. -/
theorem Agrees.next (h : r.Agrees steps) {phase : Phase}
    (hphase : phase.isDrained = true →
      r.dashboard.session.unapplied.filterMap ConsoleEvent.url? = []) :
    (r.onto phase (r.dashboard, [])).1.Agrees steps :=
  ⟨h.session, h.inTurn, h.news, h.shows, hphase⟩

/-- The mark turns, and nothing else. -/
theorem goesOn_turn {d next : Dashboard} {more : List Step} (h : d.GoesOn more next)
    (turns : Bool) (requests : List Request) :
    d.GoesOn more (if turns then (next.turn, requests) else (next, requests)).1 := by
  cases turns with
  | true => exact ⟨h.session, ⟨h.like.serviceUrl, h.like.tasks⟩, h.news⟩
  | false => exact h

theorem isOutside_pressed (d : Dashboard) (now : Timestamp) (key : Key) :
    ∀ a ∈ d.pressed now key, a.isOutside = true := by
  have hselected (f : Task → Step) (hf : ∀ task, (f task).isOutside = true) :
      ∀ a ∈ d.app.selectedTask?.toList.map f, a.isOutside = true := by
    intro a ha
    obtain ⟨task, -, rfl⟩ := List.mem_map.mp ha
    exact hf task
  simp only [Dashboard.pressed]
  split
  · intro a ha
    rw [List.mem_singleton.mp ha]
    rfl
  · exact hselected _ fun _ => rfl
  · exact hselected _ fun _ => rfl
  · exact hselected _ fun _ => rfl
  · exact hselected _ fun _ => rfl
  · exact fun a ha => absurd ha List.not_mem_nil

/-- **ONE MOVE** of the main loop keeps the agreement. -/
theorem Agrees.proceed (h : r.Agrees steps) (cue : Cue) :
    (r.proceed cue).1.Agrees (steps ++ r.moveSteps cue) := by
  have hnone : ∀ a ∈ ([] : List Step), a.isOutside = true :=
    fun a ha => absurd ha List.not_mem_nil
  have hdue : ∀ a ∈ if cue.due then [Step.refresh] else [], a.isOutside = true := by
    intro a ha
    split at ha
    · rw [List.mem_singleton.mp ha]
      rfl
    · exact absurd ha List.not_mem_nil
  have hclose {more : List Step} (hmore : ∀ a ∈ more, a.isOutside = true)
      {next : Dashboard × List Request} (hnext : r.dashboard.GoesOn more next.1)
      (turns : Bool) : (r.close turns next).1.Agrees (steps ++ more) :=
    h.outside hmore (goesOn_turn hnext turns next.2) fun hd => absurd hd Bool.false_ne_true
  have hstill : r.dashboard.GoesOn [] r.dashboard := ⟨rfl, .refl _, rfl⟩
  simp only [Rounds.proceed, moveSteps]
  cases hp : r.phase with
  | news =>
      cases hnews : r.dashboard.news with
      | nil =>
          simp only [List.head?_nil, Option.toList_none, List.map_nil, List.append_nil]
          exact h.next fun hd => absurd hd Bool.false_ne_true
      | cons e rest => exact h.takeNews hnews
  | events =>
      cases hevents : r.dashboard.session.unapplied with
      | nil =>
          simp only [List.head?_nil, Option.toList_none, List.map_nil, List.append_nil]
          refine h.next fun _ => ?_
          rw [hevents]
          rfl
      | cons event rest => exact h.takeEvent hevents
  | tidying =>
      exact h.outside hdue (r.dashboard.goesOn_tidy cue.due cue.stale) fun _ => by rw [hp]; rfl
  | drawing => exact h.outside hnone (r.dashboard.goesOn_draw cue.size) fun _ => by rw [hp]; rfl
  | keys busy =>
      cases cue.key? with
      | none => exact hclose hnone hstill _
      | some pair =>
          obtain ⟨now, key⟩ := pair
          dsimp only
          cases key.quits with
          | true => exact h.outside hnone hstill fun _ => by rw [hp]; rfl
          | false =>
              exact hclose (isOutside_pressed _ now key) (r.dashboard.goesOn_press now key) _
  | ended =>
      rw [List.append_nil]
      exact h

/-- **WHATEVER HAPPENS** keeps the agreement. -/
theorem Agrees.act (h : r.Agrees steps) (a : Act) :
    (r.act a).1.Agrees (steps ++ r.actSteps a) := by
  cases a with
  | datagrams batch =>
      show Rounds.Agrees _ (steps ++ [])
      rw [List.append_nil]
      refine ⟨h.session, h.inTurn, ?_, h.shows, h.drained⟩
      intro event hmem
      rcases List.mem_append.mp hmem with hold | hnew
      · exact h.news event hold
      · exact r.stage.listener.receive_tellsUrl batch event hnew
  | reply i d =>
      have hanswer : r.dashboard.GoesOn [.answer i d] (r.dashboard.advance (.answer i d)).1 :=
        ⟨rfl, .refl _, rfl⟩
      refine h.outside ?_ hanswer id
      intro a ha
      rw [List.mem_singleton.mp ha]
      rfl
  | proceed cue => exact h.proceed cue

/-- **A RUN OF THE MAIN LOOP** keeps the agreement. -/
theorem Agrees.run (h : r.Agrees steps) (acts : List Act) :
    (r.run acts).1.Agrees (steps ++ r.history acts) := by
  induction acts generalizing r steps with
  | nil =>
      show r.Agrees (steps ++ [])
      rw [List.append_nil]
      exact h
  | cons a rest ih =>
      have hrest := ih (h.act a)
      rw [List.append_assoc] at hrest
      exact hrest

/-- At the start, the list has been asked for. -/
theorem opened_agrees (socket : Except String Address) :
    (opened socket).1.Agrees [.refresh] where
  session := rfl
  inTurn := by
    intro a ha
    rw [List.mem_singleton.mp ha]
    trivial
  news := Listener.start_tellsUrl socket
  shows := ⟨rfl, rfl⟩
  drained := fun hdrained => absurd hdrained Bool.false_ne_true

end Rounds

/-! ## At every draw -/

/-- A reply that lists tasks brings them in its own order. -/
theorem Delivery.tasks_eq_ok {url : Url} {d : Delivery} {tasks : List Task}
    (h : d.tasks url = .ok tasks) :
    ∃ status body items, d = .complete status body ∧ 200 ≤ status ∧ status ≤ 299
      ∧ Lists body items ∧ tasks = items.filterMap Task.ofJson? := by
  rcases d.payload_cases url with ⟨-, text, hpayload⟩ | ⟨status, body, hd, hlo, hhi, hpayload⟩
  · simp only [Delivery.tasks, hpayload] at h
    cases h
  · have hread : Call.fetch.read body = .ok (.tasks tasks) := by
      simp only [Delivery.tasks, hpayload] at h
      have hbody : (ReplyBody.classify body).tasks = .ok tasks := h
      rw [Call.read, hbody]
      rfl
    rcases Call.read_eq_ok_iff.mp hread with ⟨-, items, hitems, htasks⟩ | ⟨v, -, hanswer⟩
    · exact ⟨status, body, items, hd, hlo, hhi, hitems, Answer.tasks.inj htasks⟩
    · exact absurd hanswer.symm (Option.some_ne_none _)

/-- What is shown is what will be acted on, after some steps of the session. -/
structure Dashboard.Agreement (d : Dashboard) (steps : List Step) : Prop where
  -- the address shown is the one that the next request goes to
  address : d.app.serviceUrl = d.session.console.client.baseUrl
  -- that is the last one that discovery told, and none before
  latest : d.session.console.client.baseUrl = (steps.filterMap Step.url?).getLast?
  -- the list shown is the last one that was applied, and empty before
  tasks : d.app.tasks
    = ((Session.applied {} steps).filterMap ConsoleEvent.list?).getLast?.getD []
  -- the lists that were applied are those of replies, in the order of the replies
  replied : ∀ tasks, .tasksReplaced tasks ∈ Session.applied {} steps →
    ∃ i status body items, .answer i (.complete status body) ∈ steps
      ∧ 200 ≤ status ∧ status ≤ 299 ∧ Lists body items
      ∧ tasks = items.filterMap Task.ofJson?
  -- the mark stands exactly while the outcome of some request is not applied
  busy : d.isBusy = true ↔ ((Chronicle.opened {}).run steps).ledger.unsettled.Nonempty

/-- **A DRAINED ROUND** shows what will be acted on. -/
theorem Rounds.Agrees.of_drained {r : Rounds} {steps : List Step} (h : r.Agrees steps)
    (hdrained : r.phase.isDrained = true) : r.dashboard.Agreement steps := by
  have hfifo := Session.run_fifo (s := {}) rfl h.inTurn
  have hlatest : r.dashboard.session.console.client.baseUrl
      = (steps.filterMap Step.url?).getLast? := by
    rw [h.session, Session.run_baseUrl _ h.inTurn]
    exact Option.or_none
  refine
    { address := ?_
      latest := hlatest
      tasks := h.shows.tasks
      replied := ?_
      busy := ?_ }
  · -- no address waits, so that all that were told are applied
    have hurls := congrArg (List.filterMap ConsoleEvent.url?) hfifo
    rw [← h.session, List.filterMap_append, h.drained hdrained, List.append_nil] at hurls
    rw [hlatest, h.shows.serviceUrl, hurls]
    exact congrArg List.getLast? (Session.run_tells_urls rfl h.inTurn)
  · intro tasks hmem
    have htold : .tasksReplaced tasks ∈ (Session.run {} steps).2.flatMap (·.events) := by
      have hin := List.mem_append_left (Session.run {} steps).1.unapplied hmem
      rw [hfifo] at hin
      exact hin
    obtain ⟨i, url, d, hanswer, htasks⟩ := Session.run_tells_list rfl h.inTurn htold
    obtain ⟨status, body, items, rfl, hlo, hhi, hitems, heq⟩ := Delivery.tasks_eq_ok htasks
    exact ⟨i, status, body, items, hanswer, hlo, hhi, hitems, heq⟩
  · have hsound := (Chronicle.opened_sound {}).run fun a ha => (h.inTurn a ha).isOwn
    have hsession := (Chronicle.opened {}).run_session steps
    have hbusy := hsound.isBusy_iff
    rw [hsession] at hbusy
    rw [Dashboard.isBusy, h.session, Finset.nonempty_iff_ne_empty, ← Bool.not_eq_false]
    exact not_congr hbusy

/-- **WHAT IS SHOWN IS WHAT WILL BE ACTED ON**: in every run of the main loop, whenever the
    screen is about to be drawn. -/
theorem Rounds.agreement (socket : Except String Address) (acts : List Act)
    (h : ((opened socket).1.run acts).1.phase = .drawing) :
    ((opened socket).1.run acts).1.dashboard.session
        = (Session.run {} (.refresh :: (opened socket).1.history acts)).1
      ∧ ((opened socket).1.run acts).1.dashboard.Agreement
          (.refresh :: (opened socket).1.history acts) := by
  have hagrees := (opened_agrees socket).run acts
  refine ⟨hagrees.session, hagrees.of_drained ?_⟩
  rw [h]
  rfl

/-- A scheduler announces itself; the list that waited for it is asked for, and the reply
    comes before the events of the round are taken in. -/
def firstLight : List Act :=
  [.datagrams [⟨Utf8.encode "\x7b\"type\":\"web_service\",\"service\":\x7b\"port\":3001\x7d\x7d",
      .loopback, Registry.firstDay⟩],
    .proceed {}, .proceed {}, .proceed {},
    .reply 0 (.complete 200 (Utf8.encode "[\x7b\"id\":7\x7d]")),
    .proceed {}, .proceed {}, .proceed {}]

/-- Within the round, the console is ahead of the screen; at the draw, they agree. -/
theorem Rounds.agreement_firstLight :
    ((opened (.ok .loopback)).1.run (firstLight.take 2)).1.dashboard.app.serviceUrl = none
      ∧ ((opened (.ok .loopback)).1.run (firstLight.take 2)).1.dashboard.session.console.client
        = { baseUrl := some "http://127.0.0.1:3001/" }
      ∧ ((opened (.ok .loopback)).1.run firstLight).1.phase = .drawing
      ∧ ((opened (.ok .loopback)).1.run firstLight).1.dashboard.app.serviceUrl
        = some "http://127.0.0.1:3001/"
      ∧ ((opened (.ok .loopback)).1.run firstLight).1.dashboard.app.tasks.map (·.id) = [some 7]
      ∧ ((opened (.ok .loopback)).1.run firstLight).1.dashboard.isBusy = false := by
  have hphase : ((opened (.ok .loopback)).1.run firstLight).1.phase = .drawing := by
    decide +kernel
  obtain ⟨-, hagreement⟩ := agreement (.ok .loopback) firstLight hphase
  have haddress := hagreement.address
  refine ⟨by decide +kernel, by decide +kernel, hphase, ?_, by decide +kernel,
    by decide +kernel⟩
  rw [haddress]
  decide +kernel

end TaskConsole
