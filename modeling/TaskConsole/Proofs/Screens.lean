import TaskConsole.Proofs.Agreement

/-! # Screens — a transcript is one of the ways in which the main loop can go

    The program that follows a transcript does it in whole rounds: all is taken in, the
    screen is drawn, and then one thing happens.  The main loop can do the same move by
    move (`Rounds.Reaches`), with nothing coming in between:

    * taking in all news, and all events, is taking in one after the other
      (`reaches_drain`), and the loop over the events comes to its end in it;
    * a line of a transcript is something that can happen between two rounds
      (`reaches_take`).

    So what holds at every draw of the main loop holds at every screen of a transcript. -/

namespace TaskConsole

namespace Rounds

/-- The main loop can get from one state to another, with some requests on the way. -/
def Reaches (r : Rounds) (requests : List Request) (s : Rounds) : Prop :=
  ∃ acts, r.run acts = (s, requests)

/-- Something happens first. -/
theorem Reaches.after {r s : Rounds} {a : Act} {requests : List Request}
    (h : (r.act a).1.Reaches requests s) : r.Reaches ((r.act a).2 ++ requests) s := by
  obtain ⟨acts, hacts⟩ := h
  refine ⟨a :: acts, ?_⟩
  simp only [run, hacts]

theorem Reaches.trans {r s t : Rounds} {first others : List Request}
    (hrs : r.Reaches first s) (hst : s.Reaches others t) : r.Reaches (first ++ others) t := by
  obtain ⟨acts, hacts⟩ := hrs
  induction acts generalizing r first with
  | nil =>
      cases hacts
      exact hst
  | cons a rest ih =>
      obtain ⟨rfl, rfl⟩ := Prod.mk.inj hacts
      rw [List.append_assoc]
      exact (ih rfl).after

theorem Reaches.agrees {r s : Rounds} {requests : List Request} (h : r.Reaches requests s)
    {steps : List Step} (hr : r.Agrees steps) : ∃ more, s.Agrees (steps ++ more) := by
  obtain ⟨acts, hacts⟩ := h
  have hrun := hr.run acts
  rw [hacts] at hrun
  exact ⟨_, hrun⟩

/-- News are taken in whatever other news stand on the list. -/
theorem drainNews_congr (d : Dashboard) (news others : List DiscoveryEvent) :
    ({ d with news := others } : Dashboard).drainNews news = d.drainNews news := by
  induction news generalizing d with
  | nil => rfl
  | cons e rest ih =>
      have hstep : ({ d with news := others } : Dashboard).advance (.discovered e)
          = ({ (d.advance (.discovered e)).1 with news := others },
              (d.advance (.discovered e)).2) := rfl
      simp only [Dashboard.drainNews, hstep, ih]

/-- **THE NEWS OF A ROUND** are taken in one by one. -/
theorem reaches_drainNews {d : Dashboard} {news : List DiscoveryEvent} (h : d.news = news)
    (l : Listener) :
    ({ stage := ⟨d, l⟩, phase := .news } : Rounds).Reaches (d.drainNews news).2
      { stage := ⟨(d.drainNews news).1, l⟩, phase := .events } := by
  induction news generalizing d with
  | nil =>
      refine ⟨[.proceed {}], ?_⟩
      simp only [run, act, proceed, dashboard, onto, h, Dashboard.drainNews]
      rw [← h]
      rfl
  | cons e rest ih =>
      have hmove : ({ stage := ⟨d, l⟩, phase := .news } : Rounds).act (.proceed {})
          = ({ stage := ⟨({ d with news := rest }.advance (.discovered e)).1, l⟩,
               phase := .news }, ({ d with news := rest }.advance (.discovered e)).2) := by
        simp only [act, proceed, dashboard, onto, h]
      have hall := Reaches.after (r := { stage := ⟨d, l⟩, phase := .news }) (a := .proceed {})
        (by rw [hmove]; exact ih rfl)
      rw [hmove] at hall
      rw [← drainNews_congr d (e :: rest) rest]
      exact hall

/-- Something happens first that makes no request. -/
theorem Reaches.after_silent {r s : Rounds} {a : Act} {requests : List Request}
    (hsilent : (r.act a).2 = []) (h : (r.act a).1.Reaches requests s) :
    r.Reaches requests s := by
  have hall := h.after
  rw [hsilent] at hall
  exact hall

/-- **THE EVENTS OF A ROUND** are taken in one by one, and failures come in between. -/
theorem reaches_takesIn {d : Dashboard} {events : List ConsoleEvent}
    {result : Dashboard × List Request} (h : d.TakesIn events result) (l : Listener) :
    ({ stage := ⟨d, l⟩, phase := .events } : Rounds).Reaches result.2
      { stage := ⟨result.1, l⟩, phase := .tidying } := by
  induction h with
  | done hnone =>
      refine ⟨[.proceed {}], ?_⟩
      simp only [run, act, proceed, dashboard, onto, hnone, List.append_nil]
  | @next d last event others events requests hsome _ ih =>
      have hmove : ({ stage := ⟨d, l⟩, phase := .events } : Rounds).act (.proceed {})
          = ({ stage := ⟨(d.takeEvent event).1, l⟩, phase := .events },
              (d.takeEvent event).2) := by
        simp only [act, proceed, dashboard, onto, hsome]
      have hall := Reaches.after (r := { stage := ⟨d, l⟩, phase := .events })
        (a := .proceed {}) (by rw [hmove]; exact ih)
      rw [hmove] at hall
      exact hall
  | @fails d i t delivery events result ht hunsent _ ih =>
      have hsilent : (d.advance (.answer i delivery)).2 = [] :=
        d.session.step_requests (.answer i delivery)
      exact Reaches.after_silent (r := { stage := ⟨d, l⟩, phase := .events })
        (a := .reply i delivery) hsilent ih

/-- A round comes to the point at which the screen is drawn. -/
theorem reaches_drain (s : Stage) : ({ stage := s, phase := .news } : Rounds).Reaches
    s.dashboard.drain.2
    { stage := { s with dashboard := s.dashboard.drain.1 }, phase := .drawing } := by
  obtain ⟨d, l⟩ := s
  have hnews := reaches_drainNews (d := d) rfl l
  obtain ⟨⟨events, htakes⟩, -⟩ := (d.drainNews d.news).1.takesIn_drainEvents
    (d.drainNews d.news).1.toDrain_le_rounds
  have hevents := reaches_takesIn htakes l
  have htidy : ({ stage := ⟨d.drain.1, l⟩, phase := .tidying } : Rounds).Reaches []
      { stage := ⟨d.drain.1, l⟩, phase := .drawing } := ⟨[.proceed {}], rfl⟩
  have hall := (hnews.trans hevents).trans htidy
  rw [List.append_nil] at hall
  exact hall

/-- **A SCREEN OF A TRANSCRIPT** is one of the main loop. -/
theorem reaches_present (s : Stage) (size : Size) :
    ({ stage := s, phase := .news } : Rounds).Reaches (s.present size).2.2
      { stage := (s.present size).1, phase := .keys s.dashboard.drain.1.isBusy } := by
  have hall := (reaches_drain s).trans (⟨[.proceed { size }], rfl⟩ : Reaches _ [] _)
  rw [List.append_nil] at hall
  exact hall

/-- **A LINE OF A TRANSCRIPT** is something that can happen before the next round. -/
theorem reaches_take {s : Stage} {m : Moment} {next : Stage} {requests : List Request}
    (h : s.take m = some (next, requests)) (busy : Bool) :
    ({ stage := s, phase := .keys busy } : Rounds).Reaches requests
      { stage := next, phase := .news } := by
  obtain ⟨time, what⟩ := m
  cases what with
  | datagram bytes =>
      cases h
      exact ⟨[.datagrams [⟨bytes, .loopback, time⟩], .proceed {}], rfl⟩
  | reply d =>
      cases h
      refine ⟨[.reply 0 d, .proceed {}], ?_⟩
      simp only [run, act, proceed, dashboard, onto, close, Bool.false_and,
        Bool.false_eq_true, if_false, List.append_nil]
      rfl
  | key k =>
      simp only [Stage.take] at h
      cases hq : k.quits with
      | true =>
          rw [hq, if_pos rfl] at h
          exact absurd h.symm (Option.some_ne_none _)
      | false =>
          rw [hq, if_neg Bool.false_ne_true] at h
          cases h
          refine ⟨[.proceed { key? := some (time, k) }], ?_⟩
          simp only [run, act, proceed, dashboard, onto, close, hq, Bool.false_and,
            Bool.false_eq_true, if_false, List.append_nil]

end Rounds

namespace Stage

/-- The rounds of a transcript, up to one that ends the program. -/
def follow (s : Stage) (size : Size) : List Moment → Option Stage
  | [] => some s
  | m :: rest => ((s.present size).1.take m).bind fun next => next.1.follow size rest

theorem follow_agrees {s last : Stage} {size : Size} {moments : List Moment}
    (h : s.follow size moments = some last) {steps : List Step}
    (hs : ({ stage := s, phase := .news } : Rounds).Agrees steps) :
    ∃ more, ({ stage := last, phase := .news } : Rounds).Agrees (steps ++ more) := by
  induction moments generalizing s steps with
  | nil =>
      cases h
      exact ⟨[], by rw [List.append_nil]; exact hs⟩
  | cons m rest ih =>
      obtain ⟨⟨next, requests⟩, htake, hnext⟩ := Option.bind_eq_some_iff.mp h
      obtain ⟨drawn, hdrawn⟩ := (Rounds.reaches_present s size).agrees hs
      obtain ⟨taken, htaken⟩ := (Rounds.reaches_take htake _).agrees hdrawn
      obtain ⟨more, hmore⟩ := ih hnext htaken
      rw [List.append_assoc, List.append_assoc] at hmore
      exact ⟨_, hmore⟩

/-- **THE PROGRAM SHOWS WHAT IT WILL ACT ON**: at every screen of every transcript. -/
theorem transcript_agreement (socket : Except String Address) (size : Size)
    (moments : List Moment) (s : Stage)
    (h : (opened socket).1.follow size moments = some s) :
    ∃ steps, s.dashboard.drain.1.session = (Session.run {} steps).1
      ∧ s.dashboard.drain.1.Agreement steps := by
  obtain ⟨more, hmore⟩ := follow_agrees h (Rounds.opened_agrees socket)
  obtain ⟨last, hlast⟩ := (Rounds.reaches_drain s).agrees hmore
  exact ⟨_, hlast.session, hlast.of_drained rfl⟩

end Stage

end TaskConsole
