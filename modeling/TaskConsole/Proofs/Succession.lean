import TaskConsole.Proofs.RegistryHistory

/-! # Succession — which scheduler follows the one in use

    Recording overwrites, so a scheduler that announces itself anew with an older
    heartbeat takes its own entry back, and the one in use may then be older than the
    one before.  While each scheduler's heartbeats come in order, that cannot happen:

    * an entry stays, or a later word of the same name takes its place, with a
      heartbeat that is not older (`InOrder.stored`);
    * so whoever is in use later is outranked neither by the entry of the one in use
      before, nor by what that entry was (`Surpasses`).

    Without any order, an announcement of another name that does not outrank the
    scheduler in use leaves it in use, and the address with it (`undisturbed`). -/

namespace TaskConsole

namespace Announcement

/-- The heartbeat of one announcement is not later than that of another. -/
def NoLater (a b : Announcement) : Prop :=
  ¬ b.lastHeartbeat.fields < a.lastHeartbeat.fields

theorem NoLater.trans {a b c : Announcement} (hab : a.NoLater b) (hbc : b.NoLater c) :
    a.NoLater c :=
  List.not_lt.mpr (List.le_trans (List.not_lt.mp hab) (List.not_lt.mp hbc))

/-- What does not outrank another is no later. -/
theorem noLater_of_not_outranks {a b : Announcement} (h : ¬ a.Outranks b) :
    a.NoLater b := by
  intro hlt
  exact h (Or.inl hlt)

/-- Of two announcements of different names, one outranks the other. -/
theorem outranks_of_not {a b : Announcement} (h : ¬ a.Outranks b)
    (hid : b.serviceId ≠ a.serviceId) : b.Outranks a := by
  rcases outranks_trichotomy a b with hab | hba | ⟨-, heq⟩
  · exact absurd hab h
  · exact hba
  · exact absurd heq.symm hid

/-- What outranks an announcement outranks an earlier one of the same name. -/
theorem Outranks.of_noLater {a b c : Announcement} (h : b.Outranks c)
    (hid : c.serviceId = a.serviceId) (hle : a.NoLater c) : b.Outranks a := by
  rcases h with hlater | ⟨heq, hname⟩
  · exact Or.inl (List.lt_of_le_of_lt (List.not_lt.mp hle) hlater)
  · by_cases hlt : a.lastHeartbeat.fields < c.lastHeartbeat.fields
    · rw [← heq] at hlt
      exact Or.inl hlt
    · -- all three heartbeats are the same, and the name decides
      have hfields := List.le_antisymm (List.not_lt.mp hle) (List.not_lt.mp hlt)
      refine Or.inr ⟨heq.trans (Timestamp.fields_injective hfields).symm, ?_⟩
      rw [← hid]
      exact hname

end Announcement

namespace Registry

open Announcement (NoLater noLater_of_not_outranks outranks_of_not)

/-- Announcements of one name have heartbeats that come in order. -/
def InOrder (history : List Announcement) : Prop :=
  history.Pairwise fun a b => a.serviceId = b.serviceId → a.NoLater b

/-! ## The entry of a name -/

/-- An entry stays, or a later word of its name takes its place. -/
theorem getLast?_named_append {history : List Announcement} (more : List Announcement)
    {name : String} {a : Announcement} (h : (named history name).getLast? = some a) :
    (named (history ++ more) name).getLast? = some a
      ∨ ∃ b ∈ more, b.serviceId = name
        ∧ (named (history ++ more) name).getLast? = some b := by
  have happend : named (history ++ more) name = named history name ++ named more name :=
    List.filter_append history more
  rw [happend, List.getLast?_append, h]
  cases hl : (named more name).getLast? with
  | none => exact Or.inl rfl
  | some b =>
      obtain ⟨hmem, hid⟩ := mem_named_iff.mp (List.mem_of_getLast? hl)
      exact Or.inr ⟨b, hmem, hid, rfl⟩

/-- **AN ENTRY DOES NOT AGE** while the heartbeats of its name come in order. -/
theorem InOrder.stored {history more : List Announcement} (horder : InOrder (history ++ more))
    {r s : Registry} (hr : r.Logs history) (hs : s.Logs (history ++ more)) {a : Announcement}
    (ha : a ∈ r.entries) :
    ∃ b ∈ s.entries, s.get? a.serviceId = some b ∧ b.serviceId = a.serviceId
      ∧ a.NoLater b := by
  rw [hr.keyed.mem_entries_iff, hr.get?_eq] at ha
  have hget := hs.get?_eq a.serviceId
  rcases getLast?_named_append more ha with hsame | ⟨b, hmem, hid, hlast⟩
  · rw [hsame] at hget
    exact ⟨a, (hs.keyed.mem_entries_iff a).mpr hget, hget, rfl, List.lt_irrefl _⟩
  · rw [hlast] at hget
    have hold : a ∈ history := (mem_named_iff.mp (List.mem_of_getLast? ha)).1
    obtain ⟨-, -, hcross⟩ := List.pairwise_append.mp horder
    refine ⟨b, ?_, hget, hid, hcross a hold b hmem hid.symm⟩
    rw [hs.keyed.mem_entries_iff, hid]
    exact hget

/-! ## The scheduler that follows -/

/-- What a registry uses later surpasses the scheduler that was in use: its heartbeat is
    not older, and if it is another scheduler, it outranks the one that was in use, by
    what that one has said last and by what it had said then. -/
structure Surpasses (s : Registry) (a b : Announcement) : Prop where
  noLater : a.NoLater b
  -- the one that was in use is still there, and has not aged
  stored : ∃ c, s.get? a.serviceId = some c ∧ c.serviceId = a.serviceId ∧ a.NoLater c
    ∧ (b.serviceId ≠ a.serviceId → b.Outranks c)
  outranks : b.serviceId ≠ a.serviceId → b.Outranks a

/-- **THE SCHEDULER IN USE NEVER GOES BACKWARDS** while the heartbeats of every name come
    in order. -/
theorem InOrder.surpasses {history more : List Announcement}
    (horder : InOrder (history ++ more)) {r s : Registry} (hr : r.Logs history)
    (hs : s.Logs (history ++ more)) {a : Announcement} (ha : r.freshest? = some a) :
    ∃ b, s.freshest? = some b ∧ s.Surpasses a b := by
  obtain ⟨hmem, -⟩ := freshest?_unbeaten ha
  obtain ⟨c, hc, hget, hid, hle⟩ := horder.stored hr hs hmem
  cases hf : s.freshest? with
  | none =>
      -- the entry is there, so some scheduler is in use
      rw [(freshest?_eq_none_iff s).mp hf] at hc
      exact absurd hc List.not_mem_nil
  | some b =>
      obtain ⟨-, hbest⟩ := freshest?_unbeaten hf
      have hcb : c.NoLater b := noLater_of_not_outranks (hbest c hc)
      have hout : b.serviceId ≠ a.serviceId → b.Outranks c := by
        intro hne
        refine outranks_of_not (hbest c hc) ?_
        rw [hid]
        exact hne
      refine ⟨b, rfl, hle.trans hcb, ⟨c, hget, hid, hle, hout⟩, ?_⟩
      intro hne
      exact (hout hne).of_noLater hid hle

/-! ## What does not matter -/

theorem mem_entries_record {r : Registry} {a b : Announcement}
    (h : b ∈ (r.record a).entries) : b = a ∨ b ∈ r.entries := by
  obtain ⟨entry, hentry, rfl⟩ := List.mem_map.mp h
  rcases List.mem_cons.mp hentry with rfl | hold
  · exact Or.inl rfl
  · exact Or.inr (List.mem_map_of_mem (List.mem_of_mem_filter hold))

/-- An announcement of another name that does not outrank the scheduler in use leaves it
    in use. -/
theorem Logs.freshest?_record {r : Registry} {history : List Announcement}
    (h : r.Logs history) {a b : Announcement} (ha : r.freshest? = some a)
    (hid : b.serviceId ≠ a.serviceId) (hb : ¬ b.Outranks a) :
    (r.record b).freshest? = some a := by
  obtain ⟨hmem, hbest⟩ := freshest?_unbeaten ha
  have hkeyed := (h.record b).keyed
  rw [hkeyed.freshest?_eq_some_iff, hkeyed.mem_entries_iff, get?_record, if_neg hid,
    ← h.keyed.mem_entries_iff]
  refine ⟨hmem, ?_⟩
  intro c hc
  rcases mem_entries_record hc with rfl | hold
  · exact hb
  · exact hbest c hold

/-- A call that makes something known records it. -/
theorem call_of_announced {r : Registry} {c : Call} {b : Announcement}
    (h : c.announced? = some b) : r.call c = r.record b := by
  cases c with
  | record a =>
      cases Option.some.inj h
      rfl
  | observe d =>
      have hd : Announcement.decode? d.bytes d.sender d.receivedAt = some b := h
      simp only [call, observe, hd]
  | refresh => exact absurd h.symm (Option.some_ne_none b)

/-- A refreshed address stands while the same scheduler is in use. -/
theorem Logs.refresh_record {r : Registry} {history : List Announcement}
    (h : r.Logs history) {a b : Announcement} (ha : r.freshest? = some a)
    (hid : b.serviceId ≠ a.serviceId) (hb : ¬ b.Outranks a) :
    (r.refresh.1.record b).refresh = (r.refresh.1.record b, none) := by
  have hused : r.refresh.1.freshest? = some a := by
    rw [freshest?, entries, refresh_services]
    exact ha
  refine refresh_of_same (h.refresh.freshest?_record hused hid hb) ?_
  exact refresh_published ha

/-- What an announcement of another name comes to that does not outrank the scheduler in
    use: that one stays in use, and when its address was refreshed before, nothing is
    published after. -/
def Undisturbed (r : Registry) : Prop :=
  ∀ (c : Call) a b, r.freshest? = some a → c.announced? = some b →
    b.serviceId ≠ a.serviceId → ¬ b.Outranks a →
      (r.call c).freshest? = some a
        ∧ (r.refresh.1.call c).refresh = (r.refresh.1.call c, none)

theorem Logs.undisturbed {r : Registry} {history : List Announcement}
    (h : r.Logs history) : r.Undisturbed := by
  intro c a b ha hc hid hb
  rw [call_of_announced hc, call_of_announced hc]
  exact ⟨h.freshest?_record ha hid hb, h.refresh_record ha hid hb⟩

/-! ## A whole run -/

theorem announced_append (calls more : List Call) :
    announced (calls ++ more) = announced calls ++ announced more := List.filterMap_append

theorem InOrder.of_append {history more : List Announcement}
    (h : InOrder (history ++ more)) : InOrder history :=
  h.sublist (List.sublist_append_left history more)

/-- **SUCCESSION.** After any calls, what does not outrank the scheduler in use does not
    disturb it; and in a run whose announcements of each name come in the order of their
    heartbeats, every later scheduler in use surpasses every earlier one. -/
theorem succession (calls : List Call) :
    (empty.callAll calls).Undisturbed
      ∧ (InOrder (announced calls) →
          ∀ past more rest, calls = past ++ more ++ rest → ∀ a,
            (empty.callAll past).freshest? = some a →
              ∃ b, (empty.callAll (past ++ more)).freshest? = some b
                ∧ (empty.callAll (past ++ more)).Surpasses a b) := by
  refine ⟨(empty_logs.callAll calls).undisturbed, ?_⟩
  rintro horder past more rest rfl a ha
  have hlogs := empty_logs.callAll (past ++ more)
  rw [announced_append] at horder
  have hpast := horder.of_append
  rw [announced_append] at hpast hlogs
  exact hpast.surpasses (empty_logs.callAll past) hlogs ha

/-- One scheduler announces itself; another one does with the same heartbeat and a name
    that comes first; then the first one does with a later heartbeat. -/
def takenOver : List Call :=
  [.record (sampleService "b" 1 firstDay), .record (sampleService "a" 2 firstDay),
    .record (sampleService "b" 1 secondDay)]

theorem takenOver_inOrder : InOrder (announced takenOver) := by
  have hannounced : announced takenOver = [sampleService "b" 1 firstDay,
      sampleService "a" 2 firstDay, sampleService "b" 1 secondDay] := rfl
  have hlater : (sampleService "b" 1 firstDay).NoLater (sampleService "b" 1 secondDay) := by
    rw [NoLater]
    decide
  rw [hannounced, InOrder, List.pairwise_cons, List.pairwise_cons]
  refine ⟨?_, ?_, List.pairwise_singleton _ _⟩
  · intro c hc hid
    rcases List.mem_cons.mp hc with rfl | hc
    · exact absurd hid (by decide)
    · rw [List.mem_singleton.mp hc]
      exact hlater
  · intro c hc hid
    rw [List.mem_singleton.mp hc] at hid
    exact absurd hid (by decide)

theorem succession_takenOver :
    InOrder (announced takenOver)
      ∧ (empty.callAll (takenOver.take 1)).freshest? = some (sampleService "b" 1 firstDay)
      ∧ (empty.callAll (takenOver.take 2)).freshest? = some (sampleService "a" 2 firstDay)
      ∧ (sampleService "a" 2 firstDay).Outranks (sampleService "b" 1 firstDay)
      ∧ (empty.callAll takenOver).freshest? = some (sampleService "b" 1 secondDay)
      ∧ (sampleService "b" 1 secondDay).Outranks (sampleService "a" 2 firstDay)
      ∧ ((empty.callAll (takenOver.take 2)).record (sampleService "b" 3 firstDay)).freshest?
        = some (sampleService "a" 2 firstDay) := by
  obtain ⟨-, hlater⟩ := succession takenOver
  obtain ⟨hundisturbed, -⟩ := succession (takenOver.take 2)
  obtain ⟨a, ha, hover⟩ := hlater takenOver_inOrder (takenOver.take 1)
    [.record (sampleService "a" 2 firstDay)] _ rfl (sampleService "b" 1 firstDay) rfl
  obtain ⟨b, hb, hback⟩ := hlater takenOver_inOrder (takenOver.take 2)
    [.record (sampleService "b" 1 secondDay)] [] rfl (sampleService "a" 2 firstDay) rfl
  have hasome : (empty.callAll (takenOver.take 2)).freshest?
      = some (sampleService "a" 2 firstDay) := rfl
  have hbsome : (empty.callAll takenOver).freshest?
      = some (sampleService "b" 1 secondDay) := rfl
  cases Option.some.inj (ha.symm.trans hasome)
  cases Option.some.inj (hb.symm.trans hbsome)
  have hslower : ¬ (sampleService "b" 3 firstDay).Outranks (sampleService "a" 2 firstDay) := by
    rw [← Announcement.beats_iff]
    decide
  obtain ⟨hkept, -⟩ := hundisturbed (.record (sampleService "b" 3 firstDay)) _ _ hasome rfl
    (by decide) hslower
  exact ⟨takenOver_inOrder, rfl, rfl, hover.outranks (by decide), rfl,
    hback.outranks (by decide), hkept⟩

end Registry

end TaskConsole
