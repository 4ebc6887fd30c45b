import Mathlib.Data.Finset.Card
import TaskConsole.Proofs.Reactions
import TaskConsole.Proofs.Tracking

/-! # Bookkeeping — what a console marks as in flight is what is unsettled

    A console keeps a flag and a number; the ledger keeps the requests themselves.
    The two agree after every step, in whatever order requests are answered and
    events are applied:

    * every operation adds to flag and number what it begins (`Enacts`), and an
      applied event takes away what it settles (`settledBy`);
    * the ledger gains and loses the same, because an event that waits with a
      number ends that one request (`Tracks`).

    The only events that spoil this are those that were never received. -/

namespace TaskConsole

/-! ## What the console enters in its own books -/

namespace Effect

/-- The effect begins a list request. -/
def beginsFetch : Effect → Bool
  | tell _ => false
  | begin _ op => op.isFetch

/-- The effect begins a run or save request. -/
def beginsOperation : Effect → Bool
  | tell _ => false
  | begin _ op => !op.isFetch

end Effect

namespace Console

/-- From one state to the next, a console has entered what the effects begin. -/
structure Enacts (before after : Console) (effects : List Effect) : Prop where
  -- nothing is told but notices
  proper : ∀ e ∈ effects, e.isProper = true
  -- the flag is up for one list request at most
  loading : after.loading.toNat = before.loading.toNat + effects.countP Effect.beginsFetch
  -- the number counts the run and save requests
  inFlight : after.inFlight = before.inFlight + effects.countP Effect.beginsOperation

/-- A notice changes nothing in the books. -/
theorem enacts_notice (c : Console) {after : Console} {event : ConsoleEvent}
    (h : event.isNotice = true) (hl : after.loading = c.loading)
    (hf : after.inFlight = c.inFlight) : c.Enacts after [.tell event] := by
  refine ⟨?_, ?_, ?_⟩
  · intro e he
    rw [List.mem_singleton.mp he]
    exact h
  · rw [hl]
    rfl
  · rw [hf]
    rfl

theorem enacts_nothing (c : Console) {after : Console} (hl : after.loading = c.loading)
    (hf : after.inFlight = c.inFlight) : c.Enacts after [] := by
  refine ⟨?_, ?_, ?_⟩
  · intro e he
    exact nomatch he
  · rw [hl]
    rfl
  · rw [hf]
    rfl

theorem refresh_enacts (c : Console) : c.Enacts c.refresh.1 c.refresh.2 := by
  simp only [refresh]
  by_cases hl : c.loading = true
  · rw [if_pos hl]
    exact c.enacts_nothing rfl rfl
  · rw [if_neg hl]
    by_cases hb : c.client.baseUrl.isNone = true
    · rw [if_pos hb]
      exact c.enacts_nothing rfl rfl
    · rw [if_neg hb]
      refine ⟨?_, ?_, rfl⟩
      · intro e he
        rw [List.mem_singleton.mp he]
        rfl
      · rw [Bool.not_eq_true] at hl
        rw [hl]
        rfl

theorem launch_enacts (c : Console) {op : Operation} (h : op.isFetch = false) :
    c.Enacts (c.launch op).1 (c.launch op).2 := by
  refine ⟨?_, ?_, ?_⟩
  · intro e he
    rw [List.mem_singleton.mp he]
    rfl
  · show c.loading.toNat = c.loading.toNat + [Effect.begin c.client op].countP _
    rw [List.countP_singleton]
    simp only [Effect.beginsFetch, h, Bool.false_eq_true, if_false, Nat.add_zero]
  · show c.inFlight + 1 = c.inFlight + [Effect.begin c.client op].countP _
    rw [List.countP_singleton]
    simp only [Effect.beginsOperation, h, Bool.not_false, if_true]

/-- A notice in front of effects changes nothing in the books. -/
theorem Enacts.cons_notice {before after : Console} {effects : List Effect}
    (h : before.Enacts after effects) {event : ConsoleEvent}
    (he : event.isNotice = true) : before.Enacts after (.tell event :: effects) := by
  refine ⟨?_, h.loading, h.inFlight⟩
  intro e hmem
  rcases List.mem_cons.mp hmem with heq | hrest
  · rw [heq]
    exact he
  · exact h.proper e hrest

theorem discovered_enacts (c : Console) (event : DiscoveryEvent) :
    c.Enacts (c.discovered event).1 (c.discovered event).2 := by
  cases event with
  | error message => exact c.enacts_notice rfl rfl rfl
  | serviceUrlChanged url =>
      simp only [discovered]
      by_cases hp : c.pendingRefresh = true
      · rw [if_pos hp]
        -- neither the new address nor the cleared mark is in the books
        have h := refresh_enacts
          { c with client := c.client.retarget url, pendingRefresh := false }
        have hbegun : c.Enacts _ _ := ⟨h.proper, h.loading, h.inFlight⟩
        exact hbegun.cons_notice rfl
      · rw [if_neg hp]
        exact c.enacts_notice rfl rfl rfl

theorem runNow_enacts (c : Console) (task : Task) :
    c.Enacts (c.runNow task).1 (c.runNow task).2 := by
  simp only [runNow]
  by_cases he : task.enabled = true
  · rw [if_pos he]
    cases task.id with
    | none => exact c.enacts_notice rfl rfl rfl
    | some id => exact c.launch_enacts rfl
  · rw [if_neg he]
    exact c.enacts_notice rfl rfl rfl

theorem save_enacts (c : Console) (now : Timestamp) (task : Task) :
    c.Enacts (c.save now task).1 (c.save now task).2 := by
  simp only [save]
  cases task.defect? with
  | none => exact c.launch_enacts (Operation.isFetch_save _)
  | some defect => exact c.enacts_notice rfl rfl rfl

theorem apply_enacts (c : Console) (event : ConsoleEvent) :
    (c.settledBy event).Enacts (c.apply event).1 (c.apply event).2 := by
  rw [apply_eq]
  by_cases hc : event.callsForRefresh = true
  · rw [if_pos hc]
    exact refresh_enacts _
  · rw [if_neg hc]
    exact enacts_nothing _ rfl rfl

/-- A notice settles nothing and asks for nothing. -/
theorem apply_notice (c : Console) {event : ConsoleEvent} (h : event.isNotice = true) :
    c.apply event = (c, []) := by
  cases event with
  | serviceUrlChanged url =>
      show ({ c with loading := c.loading && true }, []) = (c, [])
      rw [Bool.and_true]
  | error message =>
      show ({ c with loading := c.loading && true }, []) = (c, [])
      rw [Bool.and_true]
  | tasksReplaced tasks => exact nomatch h
  | refreshFailed message => exact nomatch h
  | operationFailed message => exact nomatch h
  | runResult verdict => exact nomatch h
  | saveResult result => exact nomatch h

end Console

/-! ## What the ledger counts -/

namespace Ledger

/-- The requests that were begun and are not settled. -/
def unsettled (l : Ledger) : Finset Nat :=
  (Finset.range l.begun.length).filter (· ∉ l.settled)

/-- The request asks for the list. -/
def isFetch (l : Ledger) (number : Nat) : Bool := (l.operation? number).any (·.isFetch)

/-- The list requests that are not settled. -/
def fetches (l : Ledger) : Finset Nat := l.unsettled.filter (l.isFetch · = true)

/-- The run and save requests that are not settled. -/
def operations (l : Ledger) : Finset Nat := l.unsettled.filter (¬ l.isFetch · = true)

theorem mem_unsettled {l : Ledger} {n : Nat} :
    n ∈ l.unsettled ↔ n < l.begun.length ∧ n ∉ l.settled := by
  simp only [unsettled]
  rw [Finset.mem_filter, Finset.mem_range]

theorem card_unsettled (l : Ledger) :
    l.fetches.card + l.operations.card = l.unsettled.card :=
  Finset.card_filter_add_card_filter_not (l.isFetch · = true)

/-- The counts depend on what was begun and what is settled, and on nothing else. -/
theorem counts_congr {l m : Ledger} (hb : m.begun = l.begun)
    (hs : m.settled = l.settled) :
    m.fetches = l.fetches ∧ m.operations = l.operations := by
  unfold fetches operations unsettled isFetch operation?
  rw [hb, hs]
  exact ⟨rfl, rfl⟩

theorem hear_counts (l : Ledger) (receiving : Bool) (origin : Option Nat) :
    (l.hear receiving origin).fetches = l.fetches
      ∧ (l.hear receiving origin).operations = l.operations := by
  simp only [hear]
  cases receiving with
  | false => exact ⟨rfl, rfl⟩
  | true => exact counts_congr rfl rfl

/-- A request that begins is unsettled, and the others are what they were. -/
theorem unsettled_begin (l : Ledger) (ticket : Ticket)
    (h : ∀ n ∈ l.settled, n < l.begun.length) :
    ({ l with begun := l.begun ++ [ticket] } : Ledger).unsettled
      = insert l.begun.length l.unsettled := by
  simp only [unsettled]
  rw [List.length_append, List.length_singleton, Finset.range_add_one,
    Finset.filter_insert, if_pos]
  intro hmem
  exact Nat.lt_irrefl _ (h _ hmem)

theorem isFetch_begin (l : Ledger) (ticket : Ticket) {n : Nat} (h : n ∈ l.unsettled) :
    ({ l with begun := l.begun ++ [ticket] } : Ledger).isFetch n = l.isFetch n := by
  obtain ⟨hlt, -⟩ := mem_unsettled.mp h
  simp only [isFetch, operation?]
  rw [List.getElem?_append_left hlt]

theorem card_begin (l : Ledger) (ticket : Ticket)
    (h : ∀ n ∈ l.settled, n < l.begun.length) :
    ({ l with begun := l.begun ++ [ticket] } : Ledger).fetches.card
        = l.fetches.card + (if ticket.operation.isFetch = true then 1 else 0)
      ∧ ({ l with begun := l.begun ++ [ticket] } : Ledger).operations.card
        = l.operations.card + (if ticket.operation.isFetch = true then 0 else 1) := by
  have hnew : ({ l with begun := l.begun ++ [ticket] } : Ledger).isFetch l.begun.length
      = ticket.operation.isFetch := by
    simp only [isFetch]
    rw [operation?_new]
    rfl
  have hfresh : l.begun.length ∉ l.unsettled :=
    fun hmem => Nat.lt_irrefl _ (mem_unsettled.mp hmem).1
  simp only [fetches, operations]
  rw [unsettled_begin l ticket h, Finset.filter_insert, Finset.filter_insert, hnew]
  -- the kind of an old request does not depend on the new one
  have hf : l.unsettled.filter
      (({ l with begun := l.begun ++ [ticket] } : Ledger).isFetch · = true)
      = l.unsettled.filter (l.isFetch · = true) :=
    Finset.filter_congr fun n hn => by rw [isFetch_begin l ticket hn]
  have ho : l.unsettled.filter
      (¬ ({ l with begun := l.begun ++ [ticket] } : Ledger).isFetch · = true)
      = l.unsettled.filter (¬ l.isFetch · = true) :=
    Finset.filter_congr fun n hn => by rw [isFetch_begin l ticket hn]
  rw [hf, ho]
  have hnot : ∀ p : Nat → Prop, ∀ [DecidablePred p],
      l.begun.length ∉ l.unsettled.filter p :=
    fun p _ hmem => hfresh (Finset.mem_of_mem_filter _ hmem)
  by_cases hop : ticket.operation.isFetch = true
  · rw [if_pos hop, if_pos hop, if_neg (not_not.mpr hop), if_pos hop,
      Finset.card_insert_of_notMem (hnot _)]
    exact ⟨rfl, rfl⟩
  · rw [if_neg hop, if_neg hop, if_pos hop, if_neg hop,
      Finset.card_insert_of_notMem (hnot _)]
    exact ⟨rfl, rfl⟩

/-- A request that is settled is unsettled no more, and the others are what they were. -/
theorem unsettled_settle (l : Ledger) (origins : List (Option Nat)) (n : Nat) :
    ({ l with origins, settled := l.settled ++ [n] } : Ledger).unsettled
      = l.unsettled.erase n := by
  ext m
  rw [mem_unsettled, Finset.mem_erase, mem_unsettled, List.mem_append,
    List.mem_singleton, not_or]
  constructor
  · rintro ⟨hlt, hnot, hne⟩
    exact ⟨hne, hlt, hnot⟩
  · rintro ⟨hne, hlt, hnot⟩
    exact ⟨hlt, hnot, hne⟩

theorem counts_settle (l : Ledger) (origins : List (Option Nat)) (n : Nat) :
    ({ l with origins, settled := l.settled ++ [n] } : Ledger).fetches
        = l.fetches.erase n
      ∧ ({ l with origins, settled := l.settled ++ [n] } : Ledger).operations
        = l.operations.erase n := by
  simp only [fetches, operations]
  rw [unsettled_settle, Finset.filter_erase, Finset.filter_erase]
  exact ⟨rfl, rfl⟩

/-- A request that is settled counts for its kind no more. -/
theorem card_settle {l : Ledger} {n : Nat} (h : n ∈ l.unsettled)
    (origins : List (Option Nat)) :
    ({ l with origins, settled := l.settled ++ [n] } : Ledger).fetches.card
        + (l.isFetch n).toNat = l.fetches.card
      ∧ ({ l with origins, settled := l.settled ++ [n] } : Ledger).operations.card
        + (!l.isFetch n).toNat = l.operations.card := by
  obtain ⟨hf, ho⟩ := l.counts_settle origins n
  rw [hf, ho]
  -- it is in one of the two sets, and erasing it from the other changes nothing
  cases hkind : l.isFetch n with
  | true =>
      have hin : n ∈ l.fetches := Finset.mem_filter.mpr ⟨h, hkind⟩
      have hout : n ∉ l.operations := fun hop => (Finset.mem_filter.mp hop).2 hkind
      rw [Finset.erase_eq_of_notMem hout]
      exact ⟨Finset.card_erase_add_one hin, rfl⟩
  | false =>
      have hnot : ¬ l.isFetch n = true := by
        rw [hkind]
        exact Bool.false_ne_true
      have hin : n ∈ l.operations := Finset.mem_filter.mpr ⟨h, hnot⟩
      have hout : n ∉ l.fetches := fun hf => hnot (Finset.mem_filter.mp hf).2
      rw [Finset.erase_eq_of_notMem hout]
      exact ⟨rfl, Finset.card_erase_add_one hin⟩

theorem isFetch_eq {l : Ledger} {n : Nat} {op : Operation} (h : l.operation? n = some op) :
    l.isFetch n = op.isFetch := by
  simp only [isFetch]
  rw [h]
  rfl

/-! ## The two agree -/

/-- Flag and number of a console are the counts of a ledger. -/
structure Balances (l : Ledger) (c : Console) : Prop where
  -- the flag is up when a list request is unsettled
  loading : c.loading.toNat = l.fetches.card
  -- the number is that of the unsettled runs and saves
  inFlight : c.inFlight = l.operations.card

theorem card_enter (l : Ledger) (receiving : Bool) (e : Effect)
    (h : ∀ n ∈ l.settled, n < l.begun.length) :
    (l.enter receiving e).fetches.card
        = l.fetches.card + (if e.beginsFetch = true then 1 else 0)
      ∧ (l.enter receiving e).operations.card
        = l.operations.card + (if e.beginsOperation = true then 1 else 0) := by
  cases e with
  | tell event =>
      obtain ⟨hf, ho⟩ := l.hear_counts receiving none
      exact ⟨congrArg Finset.card hf, congrArg Finset.card ho⟩
  | begin client op =>
      obtain ⟨hf, ho⟩ := l.card_begin ⟨client, op⟩ h
      have hcounts : (l.enter receiving (.begin client op)).fetches
            = ({ l with begun := l.begun ++ [⟨client, op⟩] } : Ledger).fetches
          ∧ (l.enter receiving (.begin client op)).operations
            = ({ l with begun := l.begun ++ [⟨client, op⟩] } : Ledger).operations :=
        counts_congr rfl rfl
      rw [hcounts.1, hcounts.2, hf, ho]
      show _ ∧ l.operations.card + (if op.isFetch = true then 0 else 1)
        = l.operations.card + (if (!op.isFetch) = true then 1 else 0)
      refine ⟨rfl, ?_⟩
      cases op.isFetch <;> rfl

theorem Tracks.card_enterAll {effects : List Effect} :
    ∀ {l : Ledger} {s : Session}, l.Tracks s → (∀ e ∈ effects, e.isProper = true) →
      (l.enterAll s.receiving effects).fetches.card
          = l.fetches.card + effects.countP Effect.beginsFetch
        ∧ (l.enterAll s.receiving effects).operations.card
          = l.operations.card + effects.countP Effect.beginsOperation := by
  induction effects with
  | nil => intro l s _ _; exact ⟨rfl, rfl⟩
  | cons e rest ih =>
      intro l s h hall
      obtain ⟨hf, ho⟩ := l.card_enter s.receiving e fun n => h.lt_of_mem_settled
      have hrest := ih (h.enter (hall e List.mem_cons_self))
        (fun e' he' => hall e' (List.mem_cons_of_mem e he'))
      rw [Session.perform_receiving, hf, ho] at hrest
      rw [List.countP_cons, List.countP_cons]
      show ((l.enter s.receiving e).enterAll s.receiving rest).fetches.card = _
        ∧ ((l.enter s.receiving e).enterAll s.receiving rest).operations.card = _
      omega

/-- Effects that a console has entered in its books come into the ledger as well. -/
theorem Balances.enterAll {l : Ledger} {s : Session} {before after : Console}
    {effects : List Effect} (hb : l.Balances before) (ht : l.Tracks s)
    (he : before.Enacts after effects) :
    (l.enterAll s.receiving effects).Balances after := by
  obtain ⟨hf, ho⟩ := ht.card_enterAll he.proper
  refine ⟨?_, ?_⟩
  · rw [he.loading, hf, hb.loading]
  · rw [he.inFlight, ho, hb.inFlight]

/-- **AN APPLIED EVENT** takes from the books what it takes from the ledger. -/
theorem Balances.take_apply {l : Ledger} {s : Session} (hb : l.Balances s.console)
    (ht : l.Tracks s) {i : Nat} {event : ConsoleEvent}
    (he : s.unapplied[i]? = some event) :
    (l.take s.receiving (.apply i)).Balances (s.console.settledBy event) := by
  obtain ⟨origin, ho, htells⟩ := ht.origin he
  simp only [take, ho]
  cases origin with
  | none =>
      -- a notice: neither side of the books moves
      have hr := ConsoleEvent.settlesRefresh_of_isNotice htells
      have hs := ConsoleEvent.settlesOperation_of_isNotice htells
      obtain ⟨hf, hop⟩ := counts_congr (l := l)
        (m := { l with origins := l.origins.eraseIdx i, settled := l.settled ++ [] })
        rfl (List.append_nil _)
      refine ⟨?_, ?_⟩
      · show (s.console.loading && !event.settlesRefresh).toNat = _
        rw [hr, Bool.not_false, Bool.and_true, hb.loading]
        exact congrArg Finset.card hf.symm
      · show (if event.settlesOperation then s.console.inFlight - 1
          else s.console.inFlight) = _
        rw [hs, if_neg Bool.false_ne_true, hb.inFlight]
        exact congrArg Finset.card hop.symm
  | some n =>
      obtain ⟨op, hop, hend⟩ := htells
      have hmem : n ∈ l.unsettled := mem_unsettled.mpr (ht.not_mem_settled ho)
      obtain ⟨hf, hoper⟩ := card_settle hmem (l.origins.eraseIdx i)
      rw [isFetch_eq hop] at hf hoper
      have hloading := hb.loading
      have hinFlight := hb.inFlight
      show ({ l with origins := l.origins.eraseIdx i, settled := l.settled ++ [n] }
        : Ledger).Balances _
      refine ⟨?_, ?_⟩
      · show (s.console.loading && !event.settlesRefresh).toNat = _
        rw [hend.settlesRefresh_eq]
        cases hfetch : op.isFetch with
        | true =>
            -- the flag was up for this request alone
            have hle := Bool.toNat_le s.console.loading
            rw [hfetch, Bool.toNat_true] at hf
            rw [Bool.not_true, Bool.and_false, Bool.toNat_false]
            omega
        | false =>
            rw [hfetch, Bool.toNat_false] at hf
            rw [Bool.not_false, Bool.and_true]
            omega
      · show (if event.settlesOperation then s.console.inFlight - 1
          else s.console.inFlight) = _
        rw [hend.settlesOperation_eq]
        cases hfetch : op.isFetch with
        | true =>
            rw [hfetch, Bool.not_true, Bool.toNat_false] at hoper
            rw [Bool.not_true, if_neg Bool.false_ne_true]
            omega
        | false =>
            rw [hfetch, Bool.not_false, Bool.toNat_true] at hoper
            rw [Bool.not_false, if_pos rfl]
            omega

end Ledger

/-! ## A whole run -/

/-- The step applies nothing that was never received. -/
def Step.isOwn : Step → Bool
  | applyForeign _ => false
  | _ => true

/-- The books of the console before a step enters what it begins. -/
def Session.books (s : Session) : Step → Console
  | .apply i =>
    match s.unapplied[i]? with
    | some event => s.console.settledBy event
    | none => s.console
  | _ => s.console

theorem Session.take_answer_console (s : Session) (i : Nat) (d : Delivery) :
    (s.take (.answer i d)).console = s.console := by
  simp only [take]
  cases s.outstanding[i]? with
  | none => rfl
  | some t => exact tell_console _ _

/-- In every step, the console enters what it begins. -/
theorem Session.books_enacts (s : Session) {a : Step} (own : a.isOwn = true) :
    (s.books a).Enacts (s.take a).console (s.effects a) := by
  cases a with
  | discovered event => exact s.console.discovered_enacts event
  | refresh => exact s.console.refresh_enacts
  | runNow task => exact s.console.runNow_enacts task
  | save now task => exact s.console.save_enacts now task
  | answer i d =>
      rw [s.take_answer_console i d]
      exact s.console.enacts_nothing rfl rfl
  | apply i =>
      simp only [books, take, effects]
      cases s.unapplied[i]? with
      | none => exact Console.enacts_nothing _ rfl rfl
      | some event => exact s.console.apply_enacts event
  | applyForeign event => exact absurd own Bool.false_ne_true
  | closeReceiver => exact Console.enacts_nothing _ rfl rfl

/-- What a step takes off the lists leaves ledger and books in balance. -/
theorem Ledger.Balances.take {l : Ledger} {s : Session} (hb : l.Balances s.console)
    (ht : l.Tracks s) (a : Step) : (l.take s.receiving a).Balances (s.books a) := by
  cases a with
  | apply i =>
      simp only [Session.books]
      cases he : s.unapplied[i]? with
      | none =>
          simp only [Ledger.take, forall₂_getElem?_none ht.waiting he]
          exact hb
      | some event => exact hb.take_apply ht he
  | answer i d =>
      simp only [Ledger.take]
      cases l.tickets[i]? with
      | none => exact hb
      | some n =>
          obtain ⟨hf, ho⟩ := Ledger.hear_counts { l with tickets := l.tickets.eraseIdx i }
            s.receiving (some n)
          exact ⟨hb.loading.trans (congrArg Finset.card hf.symm),
            hb.inFlight.trans (congrArg Finset.card ho.symm)⟩
  | discovered event => exact hb
  | refresh => exact hb
  | runNow task => exact hb
  | save now task => exact hb
  | applyForeign event => exact hb
  | closeReceiver => exact hb

namespace Chronicle

/-- The ledger knows where every request is, and the books agree with it. -/
structure Sound (k : Chronicle) : Prop where
  tracks : k.ledger.Tracks k.session
  balances : k.ledger.Balances k.session.console

theorem opened_sound (c : Client) : (opened c).Sound :=
  ⟨⟨.nil, .nil, fun _ => Nat.zero_le _⟩, ⟨rfl, rfl⟩⟩

/-- **ONE STEP** keeps a chronicle sound. -/
theorem Sound.step {k : Chronicle} (h : k.Sound) {a : Step} (own : a.isOwn = true) :
    (k.step a).Sound := by
  have henacts := k.session.books_enacts own
  have htake := h.tracks.take a
  have hbalance := h.balances.take h.tracks a
  have hsession : (k.step a).session
      = ((k.session.take a).performAll (k.session.effects a)).1 := k.session.step_eq a
  refine ⟨?_, ?_⟩
  · rw [hsession]
    exact htake.enterAll henacts.proper
  · rw [hsession, Session.performAll_console]
    exact hbalance.enterAll htake henacts

/-- **A WHOLE RUN** keeps it sound. -/
theorem Sound.run {k : Chronicle} (h : k.Sound) {steps : List Step}
    (own : ∀ a ∈ steps, a.isOwn = true) : (k.run steps).Sound := by
  induction steps generalizing k with
  | nil => exact h
  | cons a rest ih =>
      exact ih (h.step (own a List.mem_cons_self))
        (fun b hb => own b (List.mem_cons_of_mem a hb))

end Chronicle

/-! ## The requests that count

    The ledger gets an entry for every request that a step begins, so that the runs
    and saves in it are the calls that were accepted. -/

/-- The operator's call is accepted: a run of an enabled task with an id, or a save of a
    task without a defect. -/
def Step.isAccepted : Step → Bool
  | runNow task => task.enabled && task.id.isSome
  | save _ task => task.defect?.isNone
  | _ => false

namespace Ledger

/-- The run and save requests so far. -/
def accepted (l : Ledger) : Nat := l.begun.countP (fun e => !e.operation.isFetch)

end Ledger

/-- A step begins a run or save exactly when it is an accepted call. -/
theorem Session.countP_errand? (s : Session) (a : Step) :
    (s.errand? a).toList.countP (fun op => !op.isFetch) = a.isAccepted.toNat := by
  cases a with
  | runNow task =>
      simp only [errand?, Step.isAccepted]
      cases task.enabled with
      | false => rfl
      | true => cases task.id <;> rfl
  | save now task =>
      simp only [errand?, Step.isAccepted]
      cases task.defect?.isNone with
      | false => rfl
      | true =>
          show [Operation.save (Console.scheduledFrom now task)].countP _ = 1
          rw [List.countP_singleton, Operation.isFetch_save]
          rfl
  | discovered event =>
      cases event with
      | error message => rfl
      | serviceUrlChanged url =>
          simp only [errand?]
          split <;> rfl
  | refresh =>
      simp only [errand?]
      split <;> rfl
  | apply i =>
      simp only [errand?]
      split <;> rfl
  | applyForeign event =>
      simp only [errand?]
      split <;> rfl
  | answer i d => rfl
  | closeReceiver => rfl

namespace Chronicle

/-- The ledger holds the accepted calls of a run. -/
theorem run_accepted (k : Chronicle) (steps : List Step) :
    (k.run steps).ledger.accepted = k.ledger.accepted + steps.countP Step.isAccepted := by
  induction steps generalizing k with
  | nil => rfl
  | cons a rest ih =>
      show ((k.step a).run rest).ledger.accepted = _
      have hstep : (k.step a).ledger.accepted
          = k.ledger.accepted + a.isAccepted.toNat := by
        rw [← k.session.countP_errand?, Ledger.accepted, step_begun, List.countP_append]
        cases k.session.errand? a <;> rfl
      rw [ih, hstep, List.countP_cons]
      cases a.isAccepted with
      | false => exact Nat.add_right_comm _ 0 _
      | true => exact Nat.add_right_comm _ 1 _

/-! ## Exact books -/

/-- What a console marks as in flight is what is unsettled. -/
structure Exact (k : Chronicle) : Prop where
  -- the flag is up exactly when a list request is unsettled
  loading_iff : k.session.console.loading = true ↔ ∃ n, n ∈ k.ledger.fetches
  -- there are never two of those
  one_fetch : ∀ m ∈ k.ledger.fetches, ∀ n ∈ k.ledger.fetches, m = n
  -- the number is that of the accepted runs and saves that are unsettled
  inFlight_eq : k.session.console.inFlight = k.ledger.operations.card
  -- nothing is marked exactly when nothing is unsettled
  idle_iff : k.session.console.isBusy = false ↔ k.ledger.unsettled = ∅
  -- an event that waits with a number is the end of that unsettled request, and one without
  -- is a notice
  waiting : List.Forall₂ k.ledger.Tells k.ledger.origins k.session.unapplied
  unsettled : ∀ i n : Nat, k.ledger.origins[i]? = some (some n) → n ∈ k.ledger.unsettled
  -- no two events end the same request
  ends_once : ∀ i j n : Nat, k.ledger.origins[i]? = some (some n) →
    k.ledger.origins[j]? = some (some n) → i = j
  -- what an event takes off the books is there: the subtraction is exact
  never_clips : ∀ (i : Nat) event, k.session.unapplied[i]? = some event →
    (event.settlesRefresh = true → k.session.console.loading = true)
      ∧ (event.settlesOperation = true → 0 < k.session.console.inFlight)
  -- an applied notice settles nothing
  notice : ∀ (i : Nat) event, k.session.unapplied[i]? = some event → event.isNotice = true →
    (k.step (.apply i)).ledger.unsettled = k.ledger.unsettled
      ∧ (k.step (.apply i)).session.console = k.session.console

theorem Sound.isBusy_iff {k : Chronicle} (h : k.Sound) :
    k.session.console.isBusy = false ↔ k.ledger.unsettled = ∅ := by
  have hcount : k.session.console.isBusy = false
      ↔ k.session.console.inFlight = 0 ∧ k.session.console.loading.toNat = 0 := by
    simp only [Console.isBusy]
    cases k.session.console.loading with
    | false =>
        rw [Bool.or_false, decide_eq_false_iff_not, Nat.not_lt, Nat.le_zero]
        exact ⟨fun hz => ⟨hz, rfl⟩, fun hz => hz.1⟩
    | true =>
        rw [Bool.or_true]
        constructor
        · intro hz
          exact nomatch hz
        · rintro ⟨-, hz⟩
          exact nomatch hz
  rw [hcount, h.balances.inFlight, h.balances.loading, ← Finset.card_eq_zero,
    ← Ledger.card_unsettled]
  omega

/-- An unsettled request of its kind stands behind every event that settles one. -/
theorem Sound.never_clips {k : Chronicle} (h : k.Sound) {i : Nat} {event : ConsoleEvent}
    (he : k.session.unapplied[i]? = some event) :
    (event.settlesRefresh = true → k.session.console.loading = true)
      ∧ (event.settlesOperation = true → 0 < k.session.console.inFlight) := by
  cases hn : event.isNotice with
  | true =>
      rw [ConsoleEvent.settlesRefresh_of_isNotice hn,
        ConsoleEvent.settlesOperation_of_isNotice hn]
      exact ⟨fun hf => absurd hf Bool.false_ne_true, fun hf => absurd hf Bool.false_ne_true⟩
  | false =>
      obtain ⟨n, op, ho, hop, hend⟩ := h.tracks.ended he hn
      have hmem : n ∈ k.ledger.unsettled :=
        Ledger.mem_unsettled.mpr (h.tracks.not_mem_settled ho)
      obtain ⟨hfetch, hoper⟩ := Ledger.card_settle hmem []
      rw [Ledger.isFetch_eq hop] at hfetch hoper
      rw [hend.settlesRefresh_eq, hend.settlesOperation_eq]
      refine ⟨fun hf => ?_, fun hf => ?_⟩
      · rw [hf, Bool.toNat_true, ← h.balances.loading] at hfetch
        cases hl : k.session.console.loading with
        | true => rfl
        | false =>
            rw [hl, Bool.toNat_false] at hfetch
            exact absurd hfetch (Nat.succ_ne_zero _)
      · rw [hf, Bool.toNat_true, ← h.balances.inFlight] at hoper
        omega

/-- An applied notice leaves console and ledger as they were. -/
theorem Sound.apply_notice {k : Chronicle} (h : k.Sound) {i : Nat} {event : ConsoleEvent}
    (he : k.session.unapplied[i]? = some event) (hn : event.isNotice = true) :
    (k.step (.apply i)).ledger.unsettled = k.ledger.unsettled
      ∧ (k.step (.apply i)).session.console = k.session.console := by
  have happly := k.session.console.apply_notice hn
  have heffects : k.session.effects (.apply i) = [] := by
    simp only [Session.effects, he, happly]
  refine ⟨?_, ?_⟩
  · simp only [Chronicle.step, heffects, Ledger.enterAll, Ledger.take, h.tracks.notice he hn]
    show Ledger.unsettled { k.ledger with
      origins := k.ledger.origins.eraseIdx i, settled := k.ledger.settled ++ [] } = _
    rw [List.append_nil]
    rfl
  · show (k.session.step (.apply i)).1.console = k.session.console
    rw [Session.step_eq, Session.performAll_console]
    simp only [Session.take, he, happly]

theorem Sound.exact {k : Chronicle} (h : k.Sound) : k.Exact := by
  have hcard := h.balances.loading
  refine ⟨?_, ?_, h.balances.inFlight, h.isBusy_iff, h.tracks.waiting, ?_, ?_, ?_, ?_⟩
  · -- the flag is up or down, and so is the count
    rw [← Finset.Nonempty, ← Finset.card_pos, ← hcard]
    cases k.session.console.loading with
    | false => decide
    | true => decide
  · intro m hm n hn
    have hle := Bool.toNat_le k.session.console.loading
    exact Finset.card_le_one.mp (by omega) m hm n hn
  · intro i n ho
    exact Ledger.mem_unsettled.mpr (h.tracks.not_mem_settled ho)
  · intro i j n hi hj
    exact h.tracks.ends_once hi hj
  · intro i event he
    exact h.never_clips he
  · intro i event he hn
    exact h.apply_notice he hn

end Chronicle

/-- **EXACT BOOKS**: after every run of a console with its own events, what it marks as in
    flight is what was begun and is not settled; the runs and saves among that are the
    calls that were accepted. -/
theorem books_exact (c : Client) (steps : List Step) (own : ∀ a ∈ steps, a.isOwn = true) :
    ((Chronicle.opened c).run steps).session
        = (Session.run { console := { client := c } } steps).1
      ∧ ((Chronicle.opened c).run steps).ledger.accepted = steps.countP Step.isAccepted
      ∧ ((Chronicle.opened c).run steps).Exact := by
  refine ⟨?_, ?_, ?_⟩
  · exact (Chronicle.opened c).run_session steps
  · rw [Chronicle.run_accepted]
    exact Nat.zero_add _
  · exact ((Chronicle.opened_sound c).run own).exact

/-- A run before discovery: the list is put off, one run of a task has nowhere to go,
    another is refused, and the refusal is applied before the failure is told. -/
def earlyRun : List Step :=
  [.refresh, .runNow { id := some 7 }, .runNow { id := some 8, enabled := false }, .apply 0,
    .answer 0 .closed]

theorem books_exact_earlyRun :
    (∀ a ∈ earlyRun, a.isOwn = true)
      ∧ ((Chronicle.opened {}).run earlyRun).Exact
      ∧ ((Chronicle.opened {}).run earlyRun).session.console.inFlight = 1
      ∧ ((Chronicle.opened {}).run earlyRun).ledger.unsettled = {0} := by
  refine ⟨by decide, ?_, rfl, by decide⟩
  exact (books_exact {} earlyRun (by decide)).2.2

end TaskConsole
