import TaskConsole.Proofs.Agreement

/-! # Selection — what is selected is on the list

    Lists come and go between two keys, and the selection is no more than an index that is
    kept beside them.  Three things write it: a list that comes in, a key that moves it,
    and nothing else:

    * `AppStep` — everything that is ever done with what is shown, drawing included;
    * `App.Selects` — a task is selected exactly if there is one, and it is on the list;
      every step keeps that (`Selects.step`), and the main loop does nothing but such steps
      (`Rounds.run_app`);
    * a key moves the selection by one task and stops at the ends of the list, whatever
      is shown or drawn in between (`App.run_moves`). -/

namespace TaskConsole

/-! ## What is done with what is shown -/

/-- What can be done with what is shown. -/
inductive AppStep where
  | event (event : ConsoleEvent)
  | replaceTasks (tasks : List Task)
  -- by any number of tasks in either direction
  | selectOffset (offset : Int)
  | nextTab
  | setStatus (text : String)
  | setError (text : String)
  | clearStatus (stale busy : Bool)
  | render (size : Size) (busy : Bool)
  | turn

namespace AppStep

/-- The selection moves by so many tasks. -/
def movesBy (offset : Int) : AppStep → Bool
  | selectOffset other => other = offset
  | _ => false

/-- Neither another list comes in, nor does the selection move. -/
def isStill : AppStep → Bool
  | event e => e.list?.isNone
  | replaceTasks _ => false
  | selectOffset _ => false
  | _ => true

end AppStep

namespace App

/-- One thing is done. -/
def step (a : App) : AppStep → App
  | .event e => a.onEvent e
  | .replaceTasks tasks => a.replaceTasks tasks
  | .selectOffset offset => a.selectOffset offset
  | .nextTab => a.nextTab
  | .setStatus text => a.setStatus text
  | .setError text => a.setError text
  | .clearStatus stale busy => a.clearStatus stale busy
  | .render size busy => (a.view size busy).1
  | .turn => { a with spinner := (a.spinner + 1) % spinnerFrames.length }

/-- One thing after the other. -/
def run (a : App) (steps : List AppStep) : App := steps.foldl step a

variable {a : App}

theorem run_append (a : App) (steps more : List AppStep) :
    a.run (steps ++ more) = (a.run steps).run more := List.foldl_append

/-! ## What each of them does to the selection -/

/-- An index of a list, or the end of the list that lies nearest. -/
def nearest (length : Nat) (index : Int) : Nat := (max 0 (min ((length : Int) - 1) index)).toNat

theorem nearest_lt {length : Nat} (hpos : 0 < length) (index : Int) :
    nearest length index < length := by
  simp only [nearest]
  omega

theorem select_selected (a : App) (selection : Option Nat) :
    (a.select selection).selected = selection := by
  cases selection <;> rfl

/-- The selection after a list came in. -/
theorem replaceTasks_selected (a : App) (tasks : List Task) :
    (a.replaceTasks tasks).selected = if tasks = [] then none
      else if a.selected.getD 0 < tasks.length then some (a.selected.getD 0) else some 0 := by
  rw [replaceTasks, select_selected]
  cases tasks with
  | nil => rfl
  | cons t rest =>
      cases a.selected with
      | some i => rfl
      | none => rfl

/-- The selection after it was moved, on a list with tasks. -/
theorem selectOffset_selected (h : a.tasks ≠ []) (offset : Int) :
    (a.selectOffset offset).selected
      = some (nearest a.tasks.length ((a.selected.getD 0 : Nat) + offset)) := by
  rw [selectOffset, if_neg (by rw [List.isEmpty_iff]; exact h), select_selected]
  rfl

theorem selectOffset_nil (h : a.tasks = []) (offset : Int) :
    (a.selectOffset offset).selected = none := by
  rw [selectOffset, if_pos (List.isEmpty_iff.mpr h), select_selected]

/-- Drawing selects nothing. -/
theorem view_selected (a : App) (size : Size) (busy : Bool) :
    (a.view size busy).1.selected = a.selected := by
  obtain ⟨offset, hoffset⟩ := a.alike_view size busy
  rw [hoffset]

/-- **STILL STEPS** leave the list and the selection alone. -/
theorem step_still (a : App) {s : AppStep} (h : s.isStill = true) :
    (a.step s).tasks = a.tasks ∧ (a.step s).selected = a.selected := by
  cases s with
  | event e =>
      cases e with
      | tasksReplaced tasks => exact absurd h Bool.false_ne_true
      | saveResult r =>
          simp only [step, onEvent]
          split <;> exact ⟨rfl, rfl⟩
      | _ => exact ⟨rfl, rfl⟩
  | replaceTasks tasks => exact absurd h Bool.false_ne_true
  | selectOffset offset => exact absurd h Bool.false_ne_true
  | clearStatus stale busy =>
      simp only [step, clearStatus]
      split <;> exact ⟨rfl, rfl⟩
  | render size busy => exact ⟨(a.like_view size busy).tasks, a.view_selected size busy⟩
  | _ => exact ⟨rfl, rfl⟩

/-! ## The invariant -/

/-- Nothing is selected exactly if the list is empty, and what is selected is on it. -/
structure Selects (a : App) : Prop where
  none_iff : a.selected = none ↔ a.tasks = []
  lt_length : ∀ i ∈ a.selected, i < a.tasks.length

theorem Selects.of_some {i : Nat} (hi : a.selected = some i) (hlt : i < a.tasks.length) :
    a.Selects where
  none_iff := by
    have hne : a.tasks ≠ [] := List.ne_nil_of_length_pos (by omega)
    rw [hi]
    exact ⟨fun h => absurd h (Option.some_ne_none i), fun h => absurd h hne⟩
  lt_length := by
    intro j hj
    rw [← Option.some.inj (hi.symm.trans hj)]
    exact hlt

theorem Selects.of_nil (hnone : a.selected = none) (hnil : a.tasks = []) : a.Selects where
  none_iff := ⟨fun _ => hnil, fun _ => hnone⟩
  lt_length := fun i hi => absurd (hnone.symm.trans hi).symm (Option.some_ne_none i)

/-- The task is found exactly if there is one. -/
theorem Selects.selectedTask?_eq_none_iff (h : a.Selects) :
    a.selectedTask? = none ↔ a.tasks = [] := by
  rw [← h.none_iff, selectedTask?]
  cases hsel : a.selected with
  | none => exact ⟨fun _ => rfl, fun _ => rfl⟩
  | some i =>
      rw [Option.bind_some, List.getElem?_eq_getElem (h.lt_length i hsel)]
      exact ⟨fun hnone => absurd hnone (Option.some_ne_none _),
        fun hnone => absurd hnone (Option.some_ne_none i)⟩

theorem Selects.congr {b : App} (h : a.Selects) (htasks : b.tasks = a.tasks)
    (hselected : b.selected = a.selected) : b.Selects where
  none_iff := by rw [hselected, htasks]; exact h.none_iff
  lt_length := by rw [hselected, htasks]; exact h.lt_length

/-- **A LIST THAT COMES IN** has its selection, whatever was selected before. -/
theorem selects_replaceTasks (a : App) (tasks : List Task) :
    (a.replaceTasks tasks).Selects := by
  have hselected := a.replaceTasks_selected tasks
  have htasks := a.replaceTasks_tasks tasks
  by_cases hnil : tasks = []
  · rw [if_pos hnil] at hselected
    exact .of_nil hselected (htasks.trans hnil)
  · rw [if_neg hnil] at hselected
    by_cases hkept : a.selected.getD 0 < tasks.length
    · rw [if_pos hkept] at hselected
      exact .of_some hselected (by rw [htasks]; exact hkept)
    · rw [if_neg hkept] at hselected
      exact .of_some hselected (by rw [htasks]; exact List.length_pos_iff.mpr hnil)

/-- **A MOVE** ends on the list, whatever was selected before. -/
theorem selects_selectOffset (a : App) (offset : Int) : (a.selectOffset offset).Selects := by
  have htasks := (a.like_selectOffset offset).tasks
  by_cases hnil : a.tasks = []
  · exact .of_nil (selectOffset_nil hnil offset) (htasks.trans hnil)
  · refine .of_some (selectOffset_selected hnil offset) ?_
    rw [htasks]
    exact nearest_lt (List.length_pos_iff.mpr hnil) _

/-- **EVERY STEP** leaves a task selected exactly if there is one. -/
theorem Selects.step (h : a.Selects) (s : AppStep) : (a.step s).Selects := by
  cases hs : s.isStill with
  | true => exact h.congr (a.step_still hs).1 (a.step_still hs).2
  | false =>
      cases s with
      | event e =>
          cases e with
          | tasksReplaced tasks => exact (a.selects_replaceTasks tasks).congr rfl rfl
          | _ => exact absurd hs.symm Bool.false_ne_true
      | replaceTasks tasks => exact a.selects_replaceTasks tasks
      | selectOffset offset => exact a.selects_selectOffset offset
      | _ => exact absurd hs.symm Bool.false_ne_true

/-- **STEP AFTER STEP**, so does a run. -/
theorem Selects.run (h : a.Selects) (steps : List AppStep) : (a.run steps).Selects := by
  induction steps generalizing a with
  | nil => exact h
  | cons s rest ih => exact ih (h.step s)

/-! ## Moves in one direction -/

/-- Moves in one direction add up, also beyond the end of the list. -/
theorem nearest_nearest {length : Nat} (hpos : 0 < length) {index offset more : Int}
    (hdirection : (0 ≤ offset ∧ 0 ≤ more) ∨ (offset ≤ 0 ∧ more ≤ 0))
    (hlo : 0 ≤ index) (hhi : index < length) :
    nearest length ((nearest length (index + offset) : Nat) + more)
      = nearest length (index + (more + offset)) := by
  simp only [nearest]
  omega

/-- **SO MANY MOVES**, with still steps in between, end so many tasks further on, or at the
    end of the list. -/
theorem run_moves (offset : Int) {i : Nat} (hi : a.selected = some i)
    (hlt : i < a.tasks.length) {steps : List AppStep}
    (hsteps : ∀ s ∈ steps, s.movesBy offset = true ∨ s.isStill = true) :
    (a.run steps).selected = some (nearest a.tasks.length
      (i + (steps.countP (AppStep.movesBy offset) : Nat) * offset)) := by
  induction steps generalizing a i with
  | nil =>
      rw [List.countP_nil, Int.natCast_zero, Int.zero_mul, Int.add_zero]
      show a.selected = _
      rw [hi, nearest]
      congr 1
      omega
  | cons s rest ih =>
      have hrest := fun t ht => hsteps t (List.mem_cons_of_mem s ht)
      show ((a.step s).run rest).selected = _
      by_cases hmoves : s.movesBy offset = true
      · -- from where this move ends, all others go on in its direction
        obtain rfl : s = .selectOffset offset := by
          cases s with
          | selectOffset other => rw [of_decide_eq_true hmoves]
          | _ => exact absurd hmoves Bool.false_ne_true
        have hne : a.tasks ≠ [] := List.ne_nil_of_length_pos (by omega)
        have htasks := (a.like_selectOffset offset).tasks
        have hselected : (a.selectOffset offset).selected
            = some (nearest a.tasks.length (i + offset)) := by
          rw [selectOffset_selected hne, hi]
          rfl
        have hend := (a.selects_selectOffset offset).lt_length _ hselected
        show ((a.selectOffset offset).run rest).selected = _
        rw [ih hselected hend hrest, htasks, List.countP_cons_of_pos hmoves,
          nearest_nearest (by omega) ?_ (by omega) (by omega), Int.natCast_succ, Int.add_mul,
          Int.one_mul]
        rcases Int.le_total 0 offset with hdown | hup
        · exact Or.inl ⟨hdown, Int.mul_nonneg (Int.natCast_nonneg _) hdown⟩
        · exact Or.inr ⟨hup, Int.mul_nonpos_of_nonneg_of_nonpos (Int.natCast_nonneg _) hup⟩
      · have hstill := (hsteps s List.mem_cons_self).resolve_left hmoves
        obtain ⟨htasks, hselected⟩ := a.step_still hstill
        rw [ih (hselected.trans hi) (by rw [htasks]; exact hlt) hrest, htasks,
          List.countP_cons_of_neg hmoves]

end App

/-! ## The main loop -/

namespace Dashboard

theorem onSelected_app (d : Dashboard) (f : Task → Step) :
    ∃ steps, (d.onSelected f).1.app = d.app.run steps := by
  simp only [onSelected]
  cases d.app.selectedTask? with
  | none => exact ⟨[.setError "No task selected"], rfl⟩
  | some task => exact ⟨[], rfl⟩

/-- **A KEY** does nothing else with what is shown. -/
theorem press_app (d : Dashboard) (now : Timestamp) (key : Key) :
    ∃ steps, (d.press now key).1.app = d.app.run steps := by
  unfold press
  split
  · exact ⟨[.nextTab], rfl⟩
  · exact ⟨[.nextTab], rfl⟩
  · exact ⟨[.nextTab], rfl⟩
  · exact ⟨[.selectOffset 1], rfl⟩
  · exact ⟨[.selectOffset (-1)], rfl⟩
  · dsimp only
    split
    · exact ⟨[.setStatus "Waiting for service discovery..."], rfl⟩
    · exact ⟨[], rfl⟩
  · exact d.onSelected_app .runNow
  · exact d.onSelected_app .runNow
  · exact d.onSelected_app _
  · exact d.onSelected_app _
  · exact ⟨[], rfl⟩

theorem tidy_app (d : Dashboard) (due stale : Bool) :
    ∃ steps, (d.tidy due stale).1.app = d.app.run steps := by
  cases due with
  | true => exact ⟨[.clearStatus stale (d.advance .refresh).1.isBusy], rfl⟩
  | false => exact ⟨[.clearStatus stale d.isBusy], rfl⟩

theorem opened_app (news : List DiscoveryEvent) :
    ∃ steps, (opened news).1.app = ({} : App).run steps :=
  ⟨[.setStatus "Waiting for service discovery..."], rfl⟩

end Dashboard

namespace Rounds

/-- The mark may turn at the end of a round. -/
theorem close_app (r : Rounds) (turns : Bool) {next : Dashboard × List Request} {a : App}
    {steps : List AppStep} (h : next.1.app = a.run steps) :
    ∃ more, (r.close turns next).1.dashboard.app = a.run more := by
  cases turns with
  | false => exact ⟨steps, h⟩
  | true =>
      refine ⟨steps ++ [.turn], ?_⟩
      rw [App.run_append, ← h]
      rfl

/-- **A MOVE OF THE MAIN LOOP**, or what comes in between, does nothing else with what is
    shown. -/
theorem act_app (r : Rounds) (a : Act) :
    ∃ steps, (r.act a).1.dashboard.app = r.dashboard.app.run steps := by
  cases a with
  | datagrams batch => exact ⟨[], rfl⟩
  | reply i d => exact ⟨[], rfl⟩
  | proceed cue =>
      obtain ⟨stage, phase⟩ := r
      cases phase with
      | news =>
          simp only [act, proceed]
          split <;> exact ⟨[], rfl⟩
      | events =>
          simp only [act, proceed]
          split
          · exact ⟨[], rfl⟩
          · rename_i event rest hevents
            exact ⟨[.event event], rfl⟩
      | tidying => exact stage.dashboard.tidy_app cue.due cue.stale
      | drawing => exact ⟨[.render cue.size stage.dashboard.isBusy], rfl⟩
      | keys busy =>
          simp only [act, proceed]
          split
          · rename_i now key hkey
            split
            · exact ⟨[], rfl⟩
            · obtain ⟨steps, hsteps⟩ := stage.dashboard.press_app now key
              exact close_app _ _ hsteps
          · have hstill : stage.dashboard.app = stage.dashboard.app.run [] := rfl
            exact close_app _ _ hstill
      | ended => exact ⟨[], rfl⟩

/-- What is shown all through the main loop comes of such steps, from the empty screen on. -/
theorem run_app (socket : Except String Address) (acts : List Act) :
    ∃ steps, ((opened socket).1.run acts).1.dashboard.app = ({} : App).run steps := by
  have hrun (r : Rounds) : ∃ steps,
      (r.run acts).1.dashboard.app = r.dashboard.app.run steps := by
    induction acts generalizing r with
    | nil => exact ⟨[], rfl⟩
    | cons a rest ih =>
        obtain ⟨first, hfirst⟩ := r.act_app a
        obtain ⟨others, hothers⟩ := ih (r.act a).1
        refine ⟨first ++ others, ?_⟩
        rw [App.run_append, ← hfirst, ← hothers]
        rfl
  obtain ⟨first, hfirst⟩ := Dashboard.opened_app (Listener.start {} socket).2.2
  obtain ⟨others, hothers⟩ := hrun (opened socket).1
  refine ⟨first ++ others, ?_⟩
  rw [App.run_append, ← hfirst]
  exact hothers

end Rounds

/-! ## The whole contract -/

namespace App

/-- What can be said of the selection of a state. -/
structure KeepsSelection (a : App) : Prop extends Selects a where
  found : a.selectedTask? = none ↔ a.tasks = []
  -- another list keeps the index if it can, and starts at the first task else
  kept : ∀ tasks, ∀ i ∈ a.selected, i < tasks.length →
    (a.replaceTasks tasks).selected = some i
  restarted : ∀ tasks, tasks ≠ [] → (∀ i ∈ a.selected, tasks.length ≤ i) →
    (a.replaceTasks tasks).selected = some 0
  emptied : (a.replaceTasks []).selected = none
  -- so many moves down or up, with still steps in between, stop at the ends of the list
  down : ∀ i ∈ a.selected, ∀ steps : List AppStep,
    (∀ s ∈ steps, s.movesBy 1 = true ∨ s.isStill = true) →
    (a.run steps).selected
      = some (min (i + steps.countP (AppStep.movesBy 1)) (a.tasks.length - 1))
  up : ∀ i ∈ a.selected, ∀ steps : List AppStep,
    (∀ s ∈ steps, s.movesBy (-1) = true ∨ s.isStill = true) →
    (a.run steps).selected
      = some (max ((i : Int) - steps.countP (AppStep.movesBy (-1))) 0).toNat

theorem Selects.keepsSelection {a : App} (h : a.Selects) : a.KeepsSelection where
  toSelects := h
  found := h.selectedTask?_eq_none_iff
  kept := by
    intro tasks i hi hlt
    rw [replaceTasks_selected, hi, if_neg (List.ne_nil_of_length_pos (by omega))]
    exact if_pos hlt
  restarted := by
    intro tasks hne hbeyond
    rw [replaceTasks_selected, if_neg hne]
    cases hsel : a.selected with
    | none => exact if_pos (List.length_pos_iff.mpr hne)
    | some i => exact if_neg (Nat.not_lt.mpr (hbeyond i hsel))
  emptied := a.replaceTasks_selected []
  down := by
    intro i hi steps hsteps
    rw [run_moves 1 hi (h.lt_length i hi) hsteps, nearest]
    have := h.lt_length i hi
    congr 1
    omega
  up := by
    intro i hi steps hsteps
    rw [run_moves (-1) hi (h.lt_length i hi) hsteps, nearest]
    have := h.lt_length i hi
    congr 1
    omega

/-- **THE SELECTION IS ALWAYS VALID.** -/
theorem selection_valid :
    -- whatever was done with what is shown, from the empty screen on
    (∀ steps : List AppStep, (({} : App).run steps).KeepsSelection)
    -- and so at every point of the main loop
    ∧ (∀ socket acts, ((Rounds.opened socket).1.run acts).1.dashboard.app.KeepsSelection)
    -- in which the keys that move the selection do no more than that
    ∧ ∀ (d : Dashboard) now, (d.press now .down).1.app = d.app.step (.selectOffset 1)
      ∧ (d.press now .up).1.app = d.app.step (.selectOffset (-1)) := by
  have hstart : ({} : App).Selects := .of_nil rfl rfl
  have hall (steps : List AppStep) := (hstart.run steps).keepsSelection
  refine ⟨hall, ?_, fun d now => ⟨rfl, rfl⟩⟩
  intro socket acts
  obtain ⟨steps, hsteps⟩ := Rounds.run_app socket acts
  rw [hsteps]
  exact hall steps

/-- A list of three tasks, two moves down on a screen without room for them, and then a list
    of two. -/
def shrinkingSteps : List AppStep :=
  [.event (.tasksReplaced [{}, {}, {}]), .selectOffset 1, .render ⟨20, 4⟩ false,
    .selectOffset 1, .event (.tasksReplaced [{}, {}])]

/-- The third task is gone, the first one is selected, and more moves than there are tasks
    end at the second one. -/
theorem selection_valid_shrinking :
    (({} : App).run shrinkingSteps).selected = some 0
      ∧ ((({} : App).run shrinkingSteps).run (List.replicate 7 (.selectOffset 1))).selected
        = some 1 :=
  ⟨rfl, (selection_valid.1 shrinkingSteps).down 0 rfl (List.replicate 7 (.selectOffset 1))
    fun s hs => Or.inl (by rw [List.eq_of_mem_replicate hs]; rfl)⟩

end App

end TaskConsole
