import Mathlib.Data.List.Forall2
import Mathlib.Data.List.Perm.Basic
import TaskConsole.Proofs.Ledger

/-! # Tracking — the ledger knows where every request is

    The invariant of the ledger, kept by every step but the application of an
    event that was never received:

    * an outstanding ticket and its number name the same operation;
    * an event that waits with a number is one in which that request can end, and
      one without is a notice, which ends nothing;
    * a number stands in one place at most: on the tickets, on the events that
      wait, or among the settled ones.

    So an applied event ends one request that was begun, and each request ends
    once. -/

namespace TaskConsole

/-- A list without its `i`-th item stays related to another without its. -/
theorem forall₂_eraseIdx {α β : Type} {R : α → β → Prop} {as : List α} {bs : List β}
    (h : List.Forall₂ R as bs) (i : Nat) :
    List.Forall₂ R (as.eraseIdx i) (bs.eraseIdx i) := by
  rw [List.eraseIdx_eq_take_drop_succ, List.eraseIdx_eq_take_drop_succ]
  exact List.rel_append (List.forall₂_take i h) (List.forall₂_drop (i + 1) h)

/-- Related lists have related items in the same places. -/
theorem forall₂_getElem? {α β : Type} {R : α → β → Prop} {as : List α} {bs : List β}
    (h : List.Forall₂ R as bs) {i : Nat} {b : β} (hb : bs[i]? = some b) :
    ∃ a, as[i]? = some a ∧ R a b := by
  induction h generalizing i with
  | nil => exact nomatch hb
  | @cons a b' as bs hab _ ih =>
      cases i with
      | zero =>
          have hb' : b' = b := Option.some.inj hb
          exact ⟨a, rfl, hb' ▸ hab⟩
      | succ i => exact ih hb

theorem forall₂_getElem?_none {α β : Type} {R : α → β → Prop} {as : List α}
    {bs : List β} (h : List.Forall₂ R as bs) {i : Nat} (hb : bs[i]? = none) :
    as[i]? = none := by
  rw [List.getElem?_eq_none_iff] at hb ⊢
  rw [h.length_eq]
  exact hb

/-- Taking out one item takes away one occurrence of it. -/
theorem count_eraseIdx {α : Type} [BEq α] [LawfulBEq α] {as : List α} {i : Nat} {a : α}
    (h : as[i]? = some a) (b : α) :
    as.count b = (as.eraseIdx i).count b + (if a == b then 1 else 0) := by
  obtain ⟨hi, ha⟩ := List.getElem?_eq_some_iff.mp h
  have hp : (as[i] :: as.eraseIdx i).Perm as := List.getElem_cons_eraseIdx_perm hi
  rw [← hp.count_eq b, List.count_cons, ha]

namespace Ledger

/-- The operation of a request. -/
def operation? (l : Ledger) (number : Nat) : Option Operation :=
  (l.begun[number]?).map (·.operation)

/-- An event may wait with this origin. -/
def Tells (l : Ledger) : Option Nat → ConsoleEvent → Prop
  | none, event => event.isNotice = true
  | some number, event => ∃ op, l.operation? number = some op ∧ op.EndsWith event

/-- The number of places in which a number stands. -/
def places (l : Ledger) (number : Nat) : Nat :=
  l.tickets.count number + l.origins.count (some number) + l.settled.count number

/-- The ledger knows where every request of a session is. -/
structure Tracks (l : Ledger) (s : Session) : Prop where
  -- tickets have the numbers of requests for the same
  tickets : List.Forall₂ (fun n t => l.operation? n = some t.operation)
    l.tickets s.outstanding
  -- events that wait have the numbers of requests that they end
  waiting : List.Forall₂ l.Tells l.origins s.unapplied
  -- a number stands in one place at most, and only that of a request does
  places_le : ∀ n, l.places n ≤ if n < l.begun.length then 1 else 0

/-- A request keeps its number when others begin. -/
theorem operation?_append (l : Ledger) (ticket : Ticket) {n : Nat} {op : Operation}
    (h : l.operation? n = some op) :
    { l with begun := l.begun ++ [ticket] }.operation? n = some op := by
  obtain ⟨e, he, hop⟩ := Option.map_eq_some_iff.mp h
  have hn : n < l.begun.length := (List.getElem?_eq_some_iff.mp he).1
  show ((l.begun ++ [ticket])[n]?).map (·.operation) = some op
  rw [List.getElem?_append_left hn, he]
  exact congrArg some hop

theorem operation?_new (l : Ledger) (ticket : Ticket) :
    { l with begun := l.begun ++ [ticket] }.operation? l.begun.length
      = some ticket.operation := by
  show ((l.begun ++ [ticket])[l.begun.length]?).map (·.operation) = some ticket.operation
  rw [List.getElem?_concat_length]
  rfl

/-- A number that stands somewhere else stands nowhere on this list. -/
theorem Tracks.lt_of_places {l : Ledger} {s : Session} (h : l.Tracks s) {n : Nat}
    (hn : 0 < l.places n) : n < l.begun.length := by
  have hle := h.places_le n
  by_cases hlt : n < l.begun.length
  · exact hlt
  · rw [if_neg hlt] at hle
    omega

theorem Tracks.lt_of_mem_settled {l : Ledger} {s : Session} (h : l.Tracks s) {n : Nat}
    (hn : n ∈ l.settled) : n < l.begun.length := by
  refine h.lt_of_places ?_
  have := List.count_pos_iff.mpr hn
  simp only [places]
  omega

/-- An event that waits has an origin that fits. -/
theorem Tracks.origin {l : Ledger} {s : Session} (h : l.Tracks s) {i : Nat}
    {event : ConsoleEvent} (he : s.unapplied[i]? = some event) :
    ∃ origin, l.origins[i]? = some origin ∧ l.Tells origin event :=
  forall₂_getElem? h.waiting he

/-- The request that a waiting event ends is not settled yet. -/
theorem Tracks.not_mem_settled {l : Ledger} {s : Session} (h : l.Tracks s) {i n : Nat}
    (ho : l.origins[i]? = some (some n)) : n < l.begun.length ∧ n ∉ l.settled := by
  have hpos : 0 < l.origins.count (some n) :=
    List.count_pos_iff.mpr (List.mem_of_getElem? ho)
  have hlt : n < l.begun.length := h.lt_of_places (by unfold places; omega)
  refine ⟨hlt, fun hmem => ?_⟩
  have hle := h.places_le n
  rw [if_pos hlt] at hle
  have := List.count_pos_iff.mpr hmem
  simp only [places] at hle
  omega

/-- No two events that wait end the same request. -/
theorem Tracks.ends_once {l : Ledger} {s : Session} (h : l.Tracks s) {i j n : Nat}
    (hi : l.origins[i]? = some (some n)) (hj : l.origins[j]? = some (some n)) : i = j := by
  by_cases hij : i = j
  · exact hij
  · have hrest : some n ∈ l.origins.eraseIdx i :=
      List.mem_eraseIdx_iff_getElem?.mpr ⟨j, Ne.symm hij, hj⟩
    have htwo := count_eraseIdx hi (some n)
    rw [if_pos (beq_self_eq_true _)] at htwo
    have hpos := List.count_pos_iff.mpr hrest
    have hle := h.places_le n
    rw [if_pos (h.not_mem_settled hi).1] at hle
    simp only [places] at hle
    omega

/-- An event that waits and is no notice is the end of a request. -/
theorem Tracks.ended {l : Ledger} {s : Session} (h : l.Tracks s) {i : Nat}
    {event : ConsoleEvent} (he : s.unapplied[i]? = some event)
    (hn : event.isNotice = false) :
    ∃ n op, l.origins[i]? = some (some n) ∧ l.operation? n = some op
      ∧ op.EndsWith event := by
  obtain ⟨origin, ho, htells⟩ := h.origin he
  cases origin with
  | none =>
      have hyes : event.isNotice = true := htells
      rw [hyes] at hn
      exact nomatch hn
  | some n =>
      obtain ⟨op, hop, hend⟩ := htells
      exact ⟨n, op, ho, hop, hend⟩

/-- A notice that waits ends no request. -/
theorem Tracks.notice {l : Ledger} {s : Session} (h : l.Tracks s) {i : Nat}
    {event : ConsoleEvent} (he : s.unapplied[i]? = some event)
    (hn : event.isNotice = true) : l.origins[i]? = some none := by
  obtain ⟨origin, ho, htells⟩ := h.origin he
  cases origin with
  | none => exact ho
  | some n =>
      obtain ⟨op, -, hend⟩ := htells
      rw [hend.isNotice_eq] at hn
      exact nomatch hn

/-! ## What an effect keeps -/

/-- A told event waits with its origin, when that stands in no other place. -/
theorem Tracks.hear {l : Ledger} {s : Session} (h : l.Tracks s) {origin : Option Nat}
    {event : ConsoleEvent} (hfit : l.Tells origin event)
    (hnew : ∀ n, origin = some n → n < l.begun.length ∧ l.places n = 0) :
    (l.hear s.receiving origin).Tracks (s.tell [event]).1 := by
  simp only [Ledger.hear, Session.tell]
  cases s.receiving with
  | false => exact h
  | true =>
      refine ⟨h.tickets, ?_, ?_⟩
      · exact List.rel_append h.waiting (.cons hfit .nil)
      · intro n
        have hle := h.places_le n
        show l.tickets.count n + (l.origins ++ [origin]).count (some n)
          + l.settled.count n ≤ if n < l.begun.length then 1 else 0
        rw [List.count_append, List.count_singleton]
        -- the new event is the one place of its own number
        by_cases ho : origin = some n
        · obtain ⟨hlt, hzero⟩ := hnew n ho
          simp only [places] at hzero
          rw [if_pos (beq_iff_eq.mpr ho), if_pos hlt]
          omega
        · rw [if_neg (fun hb => ho (beq_iff_eq.mp hb))]
          exact hle

/-- A request that begins gets a number that stands nowhere. -/
theorem Tracks.begin {l : Ledger} {s : Session} (h : l.Tracks s) (ticket : Ticket) :
    ({ l with begun := l.begun ++ [ticket] } : Ledger).Tracks s
      ∧ l.places l.begun.length = 0 := by
  have hzero : l.places l.begun.length = 0 := by
    have hle := h.places_le l.begun.length
    rw [if_neg (Nat.lt_irrefl _)] at hle
    omega
  refine ⟨⟨?_, ?_, ?_⟩, hzero⟩
  · exact h.tickets.imp fun n t ht => l.operation?_append ticket ht
  · refine h.waiting.imp fun origin event ht => ?_
    cases origin with
    | none => exact ht
    | some n =>
        obtain ⟨op, hop, hend⟩ := ht
        exact ⟨op, l.operation?_append ticket hop, hend⟩
  · intro n
    have hle := h.places_le n
    show l.places n ≤ if n < (l.begun ++ [ticket]).length then 1 else 0
    rw [List.length_append, List.length_singleton]
    by_cases hlt : n < l.begun.length
    · rw [if_pos hlt] at hle
      rw [if_pos (by omega)]
      exact hle
    · rw [if_neg hlt] at hle
      omega

/-- A ticket is put on the list with a number that stands nowhere. -/
theorem Tracks.issue {l : Ledger} {s : Session} (h : l.Tracks s) {n : Nat} {t : Ticket}
    (hop : l.operation? n = some t.operation) (hlt : n < l.begun.length)
    (hzero : l.places n = 0) :
    ({ l with tickets := l.tickets ++ [n] } : Ledger).Tracks
      { s with outstanding := s.outstanding ++ [t] } := by
  refine ⟨List.rel_append h.tickets (.cons hop .nil), h.waiting, ?_⟩
  intro m
  have hle := h.places_le m
  show (l.tickets ++ [n]).count m + l.origins.count (some m) + l.settled.count m
    ≤ if m < l.begun.length then 1 else 0
  rw [List.count_append, List.count_singleton]
  by_cases hnm : n = m
  · subst hnm
    simp only [places] at hzero
    rw [if_pos (beq_self_eq_true n), if_pos hlt]
    omega
  · rw [if_neg (fun hb => hnm (beq_iff_eq.mp hb))]
    exact hle

end Ledger

/-- What an operation of the console may want: to tell a notice, or to begin a request. -/
def Effect.isProper : Effect → Bool
  | tell event => event.isNotice
  | begin _ _ => true

namespace Ledger

/-- **ONE EFFECT** leaves the ledger knowing where every request is. -/
theorem Tracks.enter {l : Ledger} {s : Session} (h : l.Tracks s) {e : Effect}
    (he : e.isProper = true) : (l.enter s.receiving e).Tracks (s.perform e).1 := by
  cases e with
  | tell event => exact h.hear he (fun n hn => nomatch hn)
  | begin client op =>
      obtain ⟨hnext, hzero⟩ := h.begin ⟨client, op⟩
      have hop := l.operation?_new ⟨client, op⟩
      have hlt : l.begun.length < (l.begun ++ [Ticket.mk client op]).length := by
        rw [List.length_append]
        exact Nat.lt_succ_self _
      exact hnext.issue (t := ⟨client, op⟩) hop hlt hzero

theorem Tracks.enterAll {effects : List Effect} :
    ∀ {l : Ledger} {s : Session}, l.Tracks s → (∀ e ∈ effects, e.isProper = true) →
      (l.enterAll s.receiving effects).Tracks (s.performAll effects).1 := by
  induction effects with
  | nil => intro l s h _; exact h
  | cons e rest ih =>
      intro l s h hall
      have hone := h.enter (hall e List.mem_cons_self)
      have hrest := ih hone (fun e' he' => hall e' (List.mem_cons_of_mem e he'))
      rw [Session.perform_receiving] at hrest
      exact hrest

/-! ## What a step takes off the lists -/

/-- An answered ticket becomes an event that waits. -/
theorem Tracks.take_answer {l : Ledger} {s : Session} (h : l.Tracks s) (i : Nat)
    (d : Delivery) : (l.take s.receiving (.answer i d)).Tracks (s.take (.answer i d)) := by
  simp only [Ledger.take, Session.take]
  cases ht : s.outstanding[i]? with
  | none =>
      rw [forall₂_getElem?_none h.tickets ht]
      exact h
  | some t =>
      obtain ⟨n, hn, hop⟩ := forall₂_getElem? h.tickets ht
      rw [hn]
      have hlt : n < l.begun.length := by
        refine h.lt_of_places ?_
        have := List.count_pos_iff.mpr (List.mem_of_getElem? hn)
        simp only [places]
        omega
      have hcount := fun m => count_eraseIdx hn m
      have hoff : ({ l with tickets := l.tickets.eraseIdx i } : Ledger).Tracks
          { s with outstanding := s.outstanding.eraseIdx i } := by
        refine ⟨forall₂_eraseIdx h.tickets i, h.waiting, ?_⟩
        intro m
        have hle := h.places_le m
        have := hcount m
        simp only [places] at hle
        show (l.tickets.eraseIdx i).count m + l.origins.count (some m)
          + l.settled.count m ≤ if m < l.begun.length then 1 else 0
        omega
      refine hoff.hear ⟨t.operation, hop, t.outcome_endsWith d⟩ ?_
      -- off the tickets, the number stands nowhere, so it may be put elsewhere
      intro m hm
      cases hm
      have hle := h.places_le n
      have := hcount n
      rw [if_pos (beq_self_eq_true n)] at this
      rw [if_pos hlt] at hle
      simp only [places] at hle
      refine ⟨hlt, ?_⟩
      show (l.tickets.eraseIdx i).count n + l.origins.count (some n)
        + l.settled.count n = 0
      omega

/-- An applied event settles its request. -/
theorem Tracks.take_apply {l : Ledger} {s : Session} (h : l.Tracks s) (i : Nat) :
    (l.take s.receiving (.apply i)).Tracks (s.take (.apply i)) := by
  simp only [Ledger.take, Session.take]
  cases he : s.unapplied[i]? with
  | none =>
      rw [forall₂_getElem?_none h.waiting he]
      exact h
  | some event =>
      obtain ⟨origin, ho, -⟩ := h.origin he
      rw [ho]
      refine ⟨h.tickets, forall₂_eraseIdx h.waiting i, ?_⟩
      intro n
      have hle := h.places_le n
      have hcount := count_eraseIdx ho (some n)
      simp only [places] at hle
      show l.tickets.count n + (l.origins.eraseIdx i).count (some n)
        + (l.settled ++ origin.toList).count n ≤ if n < l.begun.length then 1 else 0
      rw [List.count_append]
      -- what leaves the events that wait is what joins the settled ones
      have hmove : origin.toList.count n = if origin == some n then 1 else 0 := by
        cases origin with
        | none => rfl
        | some m => exact List.count_singleton
      omega

/-- **THE FIRST HALF OF A STEP** leaves the ledger knowing where every request is. -/
theorem Tracks.take {l : Ledger} {s : Session} (h : l.Tracks s) (a : Step) :
    (l.take s.receiving a).Tracks (s.take a) := by
  cases a with
  | answer i d => exact h.take_answer i d
  | apply i => exact h.take_apply i
  | discovered event => exact ⟨h.tickets, h.waiting, h.places_le⟩
  | refresh => exact ⟨h.tickets, h.waiting, h.places_le⟩
  | runNow task => exact ⟨h.tickets, h.waiting, h.places_le⟩
  | save now task => exact ⟨h.tickets, h.waiting, h.places_le⟩
  | applyForeign event => exact ⟨h.tickets, h.waiting, h.places_le⟩
  | closeReceiver => exact ⟨h.tickets, h.waiting, h.places_le⟩

end Ledger

end TaskConsole
