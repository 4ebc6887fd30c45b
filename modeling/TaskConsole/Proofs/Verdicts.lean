import TaskConsole.Proofs.Provenance
import TaskConsole.Proofs.Quiescence

/-! # Verdicts — what an applied event brings

    An event that is applied settles what it ends.  The end of a run or save may bring
    more, and no other event does:

    * after a save that was carried out, and after a run, the list is asked for: at once,
      or later without an address, or not at all while it is in flight
      (`Console.apply_applying`);
    * a run counts whatever its verdict.  A rejected save brings nothing, and a rejected
      run brings what a successful one brings (`rejectedRun_asks`);
    * so in a run of settling steps, there are no more requests than events that are
      followed up (`Session.run_followsUpAll`). -/

namespace TaskConsole

/-! ## Events that call for a refresh -/

namespace ConsoleEvent

/-- A run that the scheduler has rejected. -/
def isRejectedRun : ConsoleEvent → Bool
  | runResult v => !v.success
  | _ => false

/-- What is followed up: a success, and a rejected run as well. -/
def isFollowed (event : ConsoleEvent) : Bool := event.isSuccess || event.isRejectedRun

/-- It is what calls for a refresh. -/
theorem isFollowed_eq (event : ConsoleEvent) : event.isFollowed = event.callsForRefresh := by
  cases event with
  | runResult v => exact Bool.or_not_self v.success
  | saveResult r => exact Bool.or_false r.ok
  | _ => rfl

end ConsoleEvent

/-! ## One applied event -/

namespace Console

variable {c : Console} {event : ConsoleEvent}

/-- Where no list request was in flight, one is if the event calls for it and an address is
    known. -/
theorem apply_loading_iff (hl : c.loading = false) : (c.apply event).1.loading = true
    ↔ event.callsForRefresh = true ∧ c.client.baseUrl ≠ none := by
  have hsettled : (c.settledBy event).loading = false := by
    show (c.loading && _) = false
    rw [hl, Bool.false_and]
  have happlying := c.apply_applying event
  generalize c.apply event = after at happlying ⊢
  constructor
  · intro hafter
    cases happlying with
    | begins hcalls _ hb => exact ⟨hcalls, hb⟩
    | _ => exact absurd (hsettled.symm.trans hafter) Bool.false_ne_true
  · rintro ⟨hcalls, hb⟩
    cases happlying with
    | begins => rfl
    | defers _ _ hnone => exact absurd hnone hb
    | skips _ hup => exact absurd (hl.symm.trans hup) Bool.false_ne_true
    | settles hno => exact absurd (hno.symm.trans hcalls) Bool.false_ne_true

/-- Where no list request was waiting for an address, one is if the event calls for it and
    none is known. -/
theorem apply_pendingRefresh_iff (hp : c.pendingRefresh = false) :
    (c.apply event).1.pendingRefresh = true
      ↔ event.callsForRefresh = true ∧ c.loading = false ∧ c.client.baseUrl = none := by
  have happlying := c.apply_applying event
  generalize c.apply event = after at happlying ⊢
  constructor
  · intro hafter
    cases happlying with
    | defers hcalls hl hb => exact ⟨hcalls, hl, hb⟩
    | _ => exact absurd (hp.symm.trans hafter) Bool.false_ne_true
  · rintro ⟨hcalls, hl, hb⟩
    cases happlying with
    | begins _ _ hsome => exact absurd hb hsome
    | defers => rfl
    | skips _ hup => exact absurd (hl.symm.trans hup) Bool.false_ne_true
    | settles hno => exact absurd (hno.symm.trans hcalls) Bool.false_ne_true

/-- One that was waiting waits still. -/
theorem apply_keeps_pendingRefresh (hp : c.pendingRefresh = true) :
    (c.apply event).1.pendingRefresh = true := by
  have happlying := c.apply_applying event
  generalize c.apply event = after at happlying ⊢
  cases happlying with
  | defers => rfl
  | _ => exact hp

end Console

namespace Session

/-- A step applies an event: one that was received and waits, or any other one. -/
inductive Applies (s : Session) : Step → ConsoleEvent → Prop where
  | received (i : Nat) (event : ConsoleEvent) :
      s.unapplied[i]? = some event → Applies s (.apply i) event
  | foreign (event : ConsoleEvent) : Applies s (.applyForeign event) event

variable {s : Session} {a : Step} {event : ConsoleEvent}

/-- The console takes the event, and the rest of the session is as it was. -/
theorem Applies.take (h : s.Applies a event) :
    (s.take a).console = (s.console.apply event).1
      ∧ (s.take a).outstanding = s.outstanding
      ∧ s.effects a = (s.console.apply event).2 := by
  cases h with
  | received i _ he =>
      simp only [Session.take, effects, he]
      exact ⟨trivial, trivial, trivial⟩
  | foreign => exact ⟨rfl, rfl, rfl⟩

/-- A list request begins if the event calls for one, none is in flight and an address is
    known. -/
theorem Applies.errand? (h : s.Applies a event) : s.errand? a
    = if event.callsForRefresh && s.console.canRefresh then some .fetch else none := by
  cases h with
  | received i _ he => simp only [Session.errand?, he, Option.any_some]
  | foreign => rfl

/-- Where the console wants nothing, nothing is told. -/
theorem Applies.silent (h : s.Applies a event) (hnone : (s.console.apply event).2 = []) :
    (s.step a).2.events = [] := by
  cases h with
  | received i _ he =>
      simp only [step, he, operate, hnone]
      rfl
  | foreign =>
      simp only [step, operate, hnone]
      rfl

/-- What an applied event brings, in the session after it and in what is seen of it. -/
structure FollowsUp (s : Session) (event : ConsoleEvent) (after : Session × Reaction) :
    Prop where
  -- a request is made for the list alone: after a success, and after a rejected run
  requests : ∀ request, request ∈ after.2.requests ↔ event.isFollowed = true
    ∧ s.console.loading = false ∧ s.console.client.Makes .fetch request
  once : after.2.requests.length ≤ 1
  -- a list request that was not in flight is in flight now
  begins : s.console.loading = false → (after.1.console.loading = true
    ↔ event.isFollowed = true ∧ s.console.client.baseUrl ≠ none)
  -- or it waits now for an address
  defers : s.console.pendingRefresh = false → (after.1.console.pendingRefresh = true
    ↔ event.isFollowed = true ∧ s.console.loading = false
      ∧ s.console.client.baseUrl = none)
  keeps : s.console.pendingRefresh = true → after.1.console.pendingRefresh = true
  -- the address is never touched
  client : after.1.console.client = s.console.client
  -- any other event settles what it ends, and brings nothing
  settles : event.isFollowed = false → after.1.console = s.console.settledBy event
    ∧ after.1.console.pendingRefresh = s.console.pendingRefresh
    ∧ after.1.outstanding = s.outstanding ∧ after.2.events = [] ∧ after.2.requests = []

/-- **ONE STEP** that applies an event. -/
theorem Applies.followsUp (h : s.Applies a event) : s.FollowsUp event (s.step a) := by
  obtain ⟨hconsole, houtstanding, heffects⟩ := h.take
  rw [← step_console] at hconsole
  have hclient : (s.step a).1.console.client = s.console.client := by
    rw [hconsole, Console.apply_client]
  refine
    { requests := ?_
      once := ?_
      begins := ?_
      defers := ?_
      keeps := ?_
      client := hclient
      settles := ?_ }
  · intro request
    rw [mem_requests, h.errand?, hclient, ConsoleEvent.isFollowed_eq]
    constructor
    · rintro ⟨op, hop, hmakes⟩
      split at hop
      · rename_i hcond
        rw [Bool.and_eq_true, Console.canRefresh, Bool.and_eq_true, Bool.not_eq_true'] at hcond
        cases Option.some.inj hop
        exact ⟨hcond.1, hcond.2.1, hmakes⟩
      · exact absurd hop.symm (Option.some_ne_none op)
    · rintro ⟨hcalls, hl, hmakes⟩
      obtain ⟨base, path, hbase, -, -⟩ := hmakes.target
      refine ⟨.fetch, ?_, hmakes⟩
      rw [hcalls, Console.canRefresh, hl, hbase]
      rfl
  · rw [step_requests_eq]
    cases (s.errand? a).bind _ with
    | none => exact Nat.zero_le 1
    | some request => exact Nat.le_refl 1
  · intro hl
    rw [hconsole, ConsoleEvent.isFollowed_eq]
    exact Console.apply_loading_iff hl
  · intro hp
    rw [hconsole, ConsoleEvent.isFollowed_eq]
    exact Console.apply_pendingRefresh_iff hp
  · intro hp
    rw [hconsole]
    exact Console.apply_keeps_pendingRefresh hp
  · intro hcalls
    rw [ConsoleEvent.isFollowed_eq] at hcalls
    have happly : s.console.apply event = (s.console.settledBy event, []) := by
      rw [Console.apply_eq, hcalls, if_neg Bool.false_ne_true]
    rw [happly] at hconsole heffects
    refine ⟨hconsole, ?_, ?_, h.silent (congrArg Prod.snd happly), ?_⟩
    · rw [hconsole]
      rfl
    · rw [step_eq, performAll_outstanding, heffects, houtstanding]
      exact List.append_nil _
    · rw [step_requests, heffects]
      rfl

/-! ## A run of settling steps -/

/-- **ONE SETTLING STEP** makes no more requests than it applies events that are followed
    up. -/
theorem step_requests_le (s : Session) {a : Step} (ha : a.isSettling = true) :
    (s.step a).2.requests.length ≤ (s.applied? a).toList.countP (·.isFollowed) := by
  cases happlied : s.applied? a with
  | none =>
      have herrand : s.errand? a = none := by
        cases h : s.errand? a with
        | none => rfl
        | some op =>
            obtain ⟨-, i, event, rfl, he, -⟩ := Chronicle.errand?_settling ha h
            exact absurd (he.symm.trans happlied) (Option.some_ne_none event)
      rw [step_requests_eq, herrand]
      exact Nat.le_refl 0
  | some event =>
      obtain ⟨i, rfl, he⟩ := applied?_eq_some happlied
      have hfollows := (Applies.received i event he).followsUp
      rw [Option.toList_some, List.countP_singleton]
      cases hf : event.isFollowed with
      | true => exact hfollows.once
      | false => rw [(hfollows.settles hf).2.2.2.2]; exact Nat.le_refl 0

/-- **ONE SETTLING STEP** without an event that is followed up leaves what waits. -/
theorem step_keeps_pendingRefresh (s : Session) {a : Step} (ha : a.isSettling = true)
    (hnone : ∀ event ∈ s.applied? a, event.isFollowed = false) :
    (s.step a).1.console.pendingRefresh = s.console.pendingRefresh := by
  cases happlied : s.applied? a with
  | none =>
      have hsame := (Chronicle.mk s {}).step_unapplied ha happlied
      exact congrArg Console.pendingRefresh hsame
  | some event =>
      have hf := hnone event happlied
      obtain ⟨i, rfl, he⟩ := applied?_eq_some happlied
      exact ((Applies.received i event he).followsUp.settles hf).2.1

/-- What a run of settling steps brings. -/
structure FollowsUpAll (s : Session) (steps : List Step) : Prop where
  requests : ((s.run steps).2.flatMap (·.requests)).length
    ≤ (s.applied steps).countP (·.isFollowed)
  client : (s.run steps).1.console.client = s.console.client
  settles : (∀ event ∈ s.applied steps, event.isFollowed = false) →
    (s.run steps).1.console.pendingRefresh = s.console.pendingRefresh
      ∧ (s.run steps).2.flatMap (·.requests) = []

/-- **A RUN OF SETTLING STEPS.** -/
theorem run_followsUpAll (s : Session) {steps : List Step}
    (hall : ∀ a ∈ steps, a.isSettling = true) : s.FollowsUpAll steps := by
  induction steps generalizing s with
  | nil => exact ⟨Nat.le_refl 0, rfl, fun _ => ⟨rfl, rfl⟩⟩
  | cons a rest ih =>
      have ha := hall a List.mem_cons_self
      have hone := s.step_requests_le ha
      have hrest := ih (s.step a).1 fun b hb => hall b (List.mem_cons_of_mem a hb)
      have happlied : s.applied (a :: rest)
          = (s.applied? a).toList ++ (s.step a).1.applied rest := rfl
      have hrun : (s.run (a :: rest)).2.flatMap (·.requests)
          = (s.step a).2.requests ++ ((s.step a).1.run rest).2.flatMap (·.requests) :=
        List.flatMap_cons
      refine ⟨?_, ?_, ?_⟩
      · rw [happlied, hrun, List.countP_append, List.length_append]
        exact Nat.add_le_add hone hrest.requests
      · have hclient : (s.step a).1.console.client = s.console.client := by
          refine s.step_client fun url h => ?_
          rw [h] at ha
          exact Bool.false_ne_true ha
        exact hrest.client.trans hclient
      · intro hnone
        rw [happlied] at hnone
        have hfirst : ∀ event ∈ (s.applied? a).toList, event.isFollowed = false :=
          fun event h => hnone event (List.mem_append_left _ h)
        obtain ⟨hpending, hrequests⟩ :=
          hrest.settles fun event h => hnone event (List.mem_append_right _ h)
        have hlast := s.step_keeps_pendingRefresh ha fun event h =>
          hfirst event (Option.mem_toList.mpr h)
        refine ⟨hpending.trans hlast, ?_⟩
        have hzero : (s.applied? a).toList.countP (·.isFollowed) = 0 :=
          List.countP_eq_zero.mpr fun event h => Bool.eq_false_iff.mp (hfirst event h)
        rw [hzero, Nat.le_zero, List.length_eq_zero_iff] at hone
        rw [hrun, hone, hrequests]
        rfl

/-- **WHAT IS FOLLOWED UP**: a list request begins or is put off after a success and after a
    rejected run, in every state, and after nothing else. -/
theorem follows_up (s : Session) :
    (∀ a event, s.Applies a event → s.FollowsUp event (s.step a))
      ∧ ∀ steps, (∀ a ∈ steps, a.isSettling = true) → s.FollowsUpAll steps :=
  ⟨fun _ _ h => h.followsUp, fun _ hall => s.run_followsUpAll hall⟩

/-! ## A rejected run -/

/-- Nothing but a success makes the list be asked for, now or later. -/
def FollowsSuccesses (s : Session) (a : Step) : Prop :=
  ∀ event, s.Applies a event → event.isSuccess = false →
    (s.step a).2.requests = []
      ∧ (s.step a).1.console.pendingRefresh = s.console.pendingRefresh
      ∧ (s.step a).1.console.client = s.console.client

/-- The scheduler rejects a run; its result waits behind the notice of the address. -/
def rejectedRun : List Step :=
  [.discovered (.serviceUrlChanged "http://10.0.0.1:3001/"), .runNow { id := some 1 },
    .answer 0 (.complete 200 (Utf8.encode "\x7b\"success\":false,\"message\":\"busy\"\x7d"))]

/-- **A REJECTED RUN IS FOLLOWED UP**: as its result is applied, the list is asked for, or,
    without an address, a list request waits for one. -/
theorem rejectedRun_asks :
    ¬ ((opened {}).run rejectedRun).1.FollowsSuccesses (.apply 1)
      ∧ ¬ (opened {}).FollowsSuccesses (.applyForeign (.runResult ⟨false, "busy"⟩)) := by
  constructor
  · intro h
    have hrequests := (h (.runResult ⟨false, "busy"⟩)
      (.received 1 _ (by decide +kernel)) rfl).1
    have hlength : (((opened {}).run rejectedRun).1.step (.apply 1)).2.requests.length = 1 := by
      decide +kernel
    rw [hrequests] at hlength
    exact absurd hlength Nat.zero_ne_one
  · intro h
    have hpending := (h _ (.foreign _) rfl).2.1
    exact Bool.false_ne_true hpending.symm

end Session

end TaskConsole
