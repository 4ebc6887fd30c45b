import Mathlib.Data.Finset.Card
import Mathlib.Data.List.Nodup
import TaskConsole.Proofs.Freshness

/-! # The history of a registry — the last word of each name, and nothing else

    A registry is asked to record announcements, to observe datagrams and to refresh
    the published address, in any order.  What it then holds is determined by what
    was announced under each name:

    * every announcement stands under its own name, and it is the last one of that
      name (`Logs`, kept by every call);
    * so the names are told apart, and the scheduler in use is the one that no other
      outranks, in whatever order the entries are gone through;
    * so it does not matter how the announcements of different names interleave. -/

namespace TaskConsole.Registry

/-! ## Lookup -/

/-- Where no two entries have one name, what stands under a name is what is found. -/
theorem mem_iff_find?_eq {services : List (String × Announcement)}
    (h : (services.map (·.1)).Nodup) (name : String) (a : Announcement) :
    (name, a) ∈ services ↔ (services.find? (·.1 = name)).map (·.2) = some a := by
  induction services with
  | nil => exact ⟨(nomatch ·), (nomatch ·)⟩
  | cons entry rest ih =>
      obtain ⟨hnew, hrest⟩ := List.nodup_cons.mp h
      by_cases hname : entry.1 = name
      · have hfind : (entry :: rest).find? (·.1 = name) = some entry :=
          List.find?_cons_of_pos (decide_eq_true hname)
        rw [hfind]
        constructor
        · intro hm
          -- a second entry of the name would contradict `hnew`
          rcases List.mem_cons.mp hm with heq | hm
          · exact congrArg (fun e => some e.2) heq.symm
          · exact absurd (List.mem_map_of_mem (f := (·.1)) hm) (hname ▸ hnew)
        · intro hs
          have heq : entry = (name, a) := Prod.ext hname (Option.some.inj hs)
          exact heq ▸ List.mem_cons_self
      · have hfind : (entry :: rest).find? (·.1 = name) = rest.find? (·.1 = name) :=
          List.find?_cons_of_neg (by rw [decide_eq_true_iff]; exact hname)
        rw [hfind, ← ih hrest, List.mem_cons]
        constructor
        · rintro (heq | hm)
          · exact absurd (congrArg Prod.fst heq).symm hname
          · exact hm
        · exact Or.inr

theorem mem_services_iff (r : Registry) (name : String) (a : Announcement) :
    (name, a) ∈ r.services ↔ r.get? name = some a :=
  mem_iff_find?_eq r.distinct name a

/-- Recording changes what stands under the name of the announcement only. -/
theorem get?_record (r : Registry) (a : Announcement) (name : String) :
    (r.record a).get? name = if a.serviceId = name then some a else r.get? name := by
  by_cases h : a.serviceId = name
  · rw [if_pos h, ← mem_services_iff]
    exact h ▸ List.mem_cons_self
  · rw [if_neg h]
    apply Option.ext
    intro b
    rw [← mem_services_iff, ← mem_services_iff]
    show (name, b) ∈ (a.serviceId, a) :: r.without a.serviceId ↔ (name, b) ∈ r.services
    rw [List.mem_cons, without, List.mem_filter]
    constructor
    · rintro (heq | ⟨hm, _⟩)
      · exact absurd (congrArg Prod.fst heq).symm h
      · exact hm
    · exact fun hm => Or.inr ⟨hm, decide_eq_true (fun heq => h heq.symm)⟩

/-- Registries in which the same is found hold the same entries. -/
theorem services_perm {r s : Registry} (h : ∀ name, r.get? name = s.get? name) :
    r.services.Perm s.services := by
  rw [List.perm_ext_iff_of_nodup (.of_map _ r.distinct) (.of_map _ s.distinct)]
  rintro ⟨name, a⟩
  rw [mem_services_iff, mem_services_iff, h]

/-! ## The scheduler in use -/

/-- Every announcement stands under its own name. -/
def Keyed (r : Registry) : Prop := ∀ entry ∈ r.services, entry.1 = entry.2.serviceId

theorem Keyed.mem_entries_iff {r : Registry} (h : r.Keyed) (a : Announcement) :
    a ∈ r.entries ↔ r.get? a.serviceId = some a := by
  rw [← mem_services_iff, entries, List.mem_map]
  constructor
  · rintro ⟨⟨name, b⟩, hm, rfl⟩
    have hname : name = b.serviceId := h _ hm
    exact hname ▸ hm
  · exact fun hm => ⟨_, hm, rfl⟩

/-- Entries with one name are one entry. -/
theorem Keyed.eq_of_serviceId_eq {r : Registry} (h : r.Keyed) {a b : Announcement}
    (ha : a ∈ r.entries) (hb : b ∈ r.entries) (hid : a.serviceId = b.serviceId) :
    a = b := by
  rw [h.mem_entries_iff] at ha hb
  rw [hid, hb] at ha
  exact (Option.some.inj ha).symm

theorem freshest?_eq_none_iff (r : Registry) : r.freshest? = none ↔ r.entries = [] := by
  rw [freshest?]
  cases r.entries with
  | nil => exact ⟨fun _ => rfl, fun _ => rfl⟩
  | cons a rest => exact ⟨(nomatch ·), (nomatch ·)⟩

theorem freshest?_unbeaten {r : Registry} {a : Announcement} (h : r.freshest? = some a) :
    a ∈ r.entries ∧ ∀ b ∈ r.entries, ¬ b.Outranks a := by
  rw [freshest?] at h
  cases hr : r.entries with
  | nil =>
      rw [hr] at h
      exact nomatch h
  | cons b rest =>
      rw [hr] at h
      have ha : rest.foldl fresher b = a := Option.some.inj h
      rw [← ha]
      exact ⟨foldl_fresher_mem b rest, foldl_fresher_unbeaten b rest⟩

/-- The scheduler in use is the one entry that no other outranks. -/
theorem Keyed.freshest?_eq_some_iff {r : Registry} (h : r.Keyed) (a : Announcement) :
    r.freshest? = some a ↔ a ∈ r.entries ∧ ∀ b ∈ r.entries, ¬ b.Outranks a := by
  refine ⟨freshest?_unbeaten, ?_⟩
  rintro ⟨ha, hbest⟩
  cases hf : r.freshest? with
  | none =>
      rw [(freshest?_eq_none_iff r).mp hf] at ha
      exact nomatch ha
  | some b =>
      obtain ⟨hb, hbest'⟩ := freshest?_unbeaten hf
      -- both are unbeaten, so they have one name, and that has one entry
      rcases Announcement.outranks_trichotomy a b with hab | hba | ⟨_, hid⟩
      · exact absurd hab (hbest' a ha)
      · exact absurd hba (hbest b hb)
      · exact congrArg some (h.eq_of_serviceId_eq hb ha hid.symm)

/-- Registries with the same entries use the same scheduler. -/
theorem Keyed.freshest?_congr {r s : Registry} (hr : r.Keyed) (hs : s.Keyed)
    (h : r.services.Perm s.services) : r.freshest? = s.freshest? := by
  have hmem : ∀ b, b ∈ r.entries ↔ b ∈ s.entries := fun b => (h.map (·.2)).mem_iff
  apply Option.ext
  intro a
  rw [hr.freshest?_eq_some_iff, hs.freshest?_eq_some_iff, hmem]
  exact and_congr_right fun _ => forall_congr' fun b => imp_congr_left (hmem b)

/-! ## Calls -/

/-- What is asked of a registry. -/
inductive Call where
  | record (a : Announcement)
  | observe (d : Datagram)
  | refresh

/-- The announcement that a call makes known, if it does. -/
def Call.announced? : Call → Option Announcement
  | .record a => some a
  | .observe d => Announcement.decode? d.bytes d.sender d.receivedAt
  | .refresh => none

/-- The registry after a call. -/
def call (r : Registry) : Call → Registry
  | .record a => r.record a
  | .observe d => (r.observe d.bytes d.sender d.receivedAt).1
  | .refresh => r.refresh.1

/-- The registry after one call after the other. -/
def callAll (r : Registry) (calls : List Call) : Registry := calls.foldl call r

/-- The announcements that calls make known, in their order. -/
def announced (calls : List Call) : List Announcement := calls.filterMap Call.announced?

/-- The part of a history under one name. -/
def named (history : List Announcement) (name : String) : List Announcement :=
  history.filter (·.serviceId = name)

theorem mem_named_iff {history : List Announcement} {name : String} {a : Announcement} :
    a ∈ named history name ↔ a ∈ history ∧ a.serviceId = name := by
  rw [named, List.mem_filter, decide_eq_true_iff]

theorem named_concat (history : List Announcement) (a : Announcement) (name : String) :
    named (history ++ [a]) name =
      if a.serviceId = name then named history name ++ [a] else named history name := by
  rw [named, List.filter_append, List.filter_singleton]
  by_cases h : a.serviceId = name
  · rw [if_pos h, decide_eq_true h]
    rfl
  · rw [if_neg h, decide_eq_false h]
    exact List.append_nil _

/-! ## The invariant -/

/-- A registry has the last announcement of each name of a history, under that name. -/
structure Logs (r : Registry) (history : List Announcement) : Prop where
  -- announcements stand under their own names
  keyed : r.Keyed
  -- under each name stands the last one of the name
  get?_eq : ∀ name, r.get? name = (named history name).getLast?
  -- nothing is published before the first announcement
  unpublished : history = [] → r.published = none

theorem empty_logs : empty.Logs [] where
  keyed := fun _ h => nomatch h
  get?_eq := fun _ => rfl
  unpublished := fun _ => rfl

theorem Logs.record {r : Registry} {history : List Announcement} (h : r.Logs history)
    (a : Announcement) : (r.record a).Logs (history ++ [a]) where
  keyed := by
    intro entry hm
    rcases List.mem_cons.mp hm with rfl | hm
    · rfl
    · exact h.keyed entry (List.mem_of_mem_filter hm)
  get?_eq := by
    intro name
    rw [get?_record, named_concat]
    by_cases hname : a.serviceId = name
    · rw [if_pos hname, if_pos hname, List.getLast?_concat]
    · rw [if_neg hname, if_neg hname, h.get?_eq]
  unpublished := fun hnil => absurd hnil (List.concat_ne_nil a history)

/-- There are entries once there is a history. -/
theorem Logs.entries_eq_nil_iff {r : Registry} {history : List Announcement}
    (h : r.Logs history) : r.entries = [] ↔ history = [] := by
  constructor
  · intro hr
    cases history with
    | nil => rfl
    | cons a rest =>
        have hserv : r.services = [] := List.map_eq_nil_iff.mp hr
        have hget : r.get? a.serviceId = none := by rw [get?, hserv]; rfl
        rw [h.get?_eq, List.getLast?_eq_none_iff] at hget
        have hm : a ∈ named (a :: rest) a.serviceId :=
          mem_named_iff.mpr ⟨List.mem_cons_self, rfl⟩
        rw [hget] at hm
        exact nomatch hm
  · intro hnil
    rw [List.eq_nil_iff_forall_not_mem]
    intro a ha
    rw [h.keyed.mem_entries_iff, h.get?_eq, hnil] at ha
    exact nomatch ha

theorem refresh_services (r : Registry) : r.refresh.1.services = r.services := by
  cases hf : r.freshest? with
  | none => rw [refresh_of_none hf]
  | some a =>
      by_cases hp : r.published = some a.baseUrl
      · rw [refresh_of_same hf hp]
      · rw [refresh_of_new hf hp]

/-- What is published after a refresh is the address of the scheduler in use. -/
theorem refresh_published {r : Registry} {a : Announcement} (h : r.freshest? = some a) :
    r.refresh.1.published = some a.baseUrl := by
  by_cases hp : r.published = some a.baseUrl
  · rw [refresh_of_same h hp]
    exact hp
  · rw [refresh_of_new h hp]

theorem Logs.refresh {r : Registry} {history : List Announcement} (h : r.Logs history) :
    r.refresh.1.Logs history where
  keyed := by
    intro entry hm
    rw [refresh_services] at hm
    exact h.keyed entry hm
  get?_eq := by
    intro name
    rw [← h.get?_eq, get?, refresh_services, get?]
  unpublished := by
    intro hnil
    have hnone := (freshest?_eq_none_iff r).mpr (h.entries_eq_nil_iff.mpr hnil)
    rw [refresh_of_none hnone]
    exact h.unpublished hnil

/-- A call adds to the history what it makes known. -/
theorem Logs.call {r : Registry} {history : List Announcement} (h : r.Logs history)
    (c : Call) : (r.call c).Logs (history ++ c.announced?.toList) := by
  cases c with
  | record a => exact h.record a
  | observe d =>
      simp only [Registry.call, observe, Call.announced?]
      cases Announcement.decode? d.bytes d.sender d.receivedAt with
      | none => exact (List.append_nil history).symm ▸ h
      | some a => exact h.record a
  | refresh => exact (List.append_nil history).symm ▸ h.refresh

theorem Logs.callAll {r : Registry} {history : List Announcement} (h : r.Logs history)
    (calls : List Call) : (r.callAll calls).Logs (history ++ announced calls) := by
  induction calls generalizing r history with
  | nil => exact (List.append_nil history).symm ▸ h
  | cons c rest ih =>
      have hrest := ih (h.call c)
      have heq : announced (c :: rest) = c.announced?.toList ++ announced rest := by
        rw [announced, List.filterMap_cons]
        cases c.announced? <;> rfl
      rw [heq, ← List.append_assoc]
      exact hrest

/-! ## What a registry remembers -/

/-- A registry holds what a history determines, and uses one scheduler of it. -/
structure Remembers (r : Registry) (history : List Announcement) : Prop where
  -- announcements stand under their own names
  keyed : ∀ entry ∈ r.services, entry.1 = entry.2.serviceId
  -- under each name stands the last announcement of the name
  get?_eq : ∀ name, r.get? name = (named history name).getLast?
  -- the size is the number of different names
  size_eq : r.size = (history.map (·.serviceId)).toFinset.card
  -- a scheduler is in use once there was an announcement
  freshest?_eq_none_iff : r.freshest? = none ↔ history = []
  -- the scheduler in use is the one that no other outranks
  freshest?_eq_some_iff : ∀ a, r.freshest? = some a ↔
    a ∈ r.entries ∧ ∀ b ∈ r.entries, ¬ b.Outranks a
  -- it does not depend on the order of the entries
  freshest?_of_perm : ∀ s : Registry, s.services.Perm r.services →
    s.freshest? = r.freshest?

/-- Registries are alike when nothing that is asked of them tells them apart, once
    the published address is refreshed. -/
structure Alike (r s : Registry) : Prop where
  services : r.services.Perm s.services
  get?_eq : ∀ name, r.get? name = s.get? name
  size_eq : r.size = s.size
  freshest?_eq : r.freshest? = s.freshest?
  -- the same address is published after a refresh
  published_eq : r.refresh.1.published = s.refresh.1.published

/-- The names of the entries are those of the history. -/
theorem Logs.mem_names_iff {r : Registry} {history : List Announcement}
    (h : r.Logs history) (name : String) :
    name ∈ r.services.map (·.1) ↔ name ∈ history.map (·.serviceId) := by
  rw [List.mem_map, List.mem_map]
  constructor
  · rintro ⟨⟨name, a⟩, hm, rfl⟩
    rw [mem_services_iff, h.get?_eq] at hm
    obtain ⟨ha, hid⟩ := mem_named_iff.mp (List.mem_of_getLast? hm)
    exact ⟨a, ha, hid⟩
  · rintro ⟨a, ha, hid⟩
    have hne : named history name ≠ [] := List.ne_nil_of_mem (mem_named_iff.mpr ⟨ha, hid⟩)
    have hget := h.get?_eq name
    rw [List.getLast?_eq_some_getLast hne, ← mem_services_iff] at hget
    exact ⟨_, hget, rfl⟩

theorem Logs.remembers {r : Registry} {history : List Announcement}
    (h : r.Logs history) : r.Remembers history where
  keyed := h.keyed
  get?_eq := h.get?_eq
  size_eq := by
    rw [size, ← List.length_map (·.1), ← List.toFinset_card_of_nodup r.distinct]
    congr 1
    ext name
    rw [List.mem_toFinset, List.mem_toFinset, h.mem_names_iff]
  freshest?_eq_none_iff := (freshest?_eq_none_iff r).trans h.entries_eq_nil_iff
  freshest?_eq_some_iff := h.keyed.freshest?_eq_some_iff
  freshest?_of_perm := by
    intro s hs
    have hkeyed : s.Keyed := fun entry hm => h.keyed entry (hs.mem_iff.mp hm)
    exact hkeyed.freshest?_congr h.keyed hs

/-- Histories that agree on each name leave registries that are alike. -/
theorem Logs.alike {r s : Registry} {history others : List Announcement}
    (hr : r.Logs history) (hs : s.Logs others)
    (h : ∀ name, named history name = named others name) : r.Alike s := by
  have hget : ∀ name, r.get? name = s.get? name := by
    intro name
    rw [hr.get?_eq, hs.get?_eq, h]
  have hperm := services_perm hget
  have hfresh := hr.keyed.freshest?_congr hs.keyed hperm
  refine ⟨hperm, hget, hperm.length_eq, hfresh, ?_⟩
  cases hf : r.freshest? with
  | some a => rw [refresh_published hf, refresh_published (hfresh.symm.trans hf)]
  | none =>
      -- nothing was ever announced, so nothing was published on either side
      have hf' := hfresh.symm.trans hf
      rw [refresh_of_none hf, refresh_of_none hf',
        hr.unpublished (hr.remembers.freshest?_eq_none_iff.mp hf),
        hs.unpublished (hs.remembers.freshest?_eq_none_iff.mp hf')]

/-- **A registry is the last word of each name, however they interleave.** After any
    calls it remembers what they announced; and other calls that announce the same
    under each name leave a registry that is alike. -/
theorem callAll_determined (calls : List Call) :
    (empty.callAll calls).Remembers (announced calls)
      ∧ ∀ others : List Call,
        (∀ name, named (announced calls) name = named (announced others) name) →
          (empty.callAll calls).Alike (empty.callAll others) := by
  have hcalls := empty_logs.callAll calls
  refine ⟨hcalls.remembers, ?_⟩
  intro others h
  exact hcalls.alike (empty_logs.callAll others) h

/-! ## Two orders of the same announcements -/

/-- The first day of 2024. -/
def firstDay : Timestamp := .midnight ⟨2024, 1, 1, by decide, by decide⟩

/-- The day after it. -/
def secondDay : Timestamp := .midnight ⟨2024, 1, 2, by decide, by decide⟩

/-- A scheduler at a port of one host. -/
def sampleService (serviceId : String) (port : UInt16) (lastHeartbeat : Timestamp) :
    Announcement :=
  { serviceId, address := "host", port, basePath := none, lastHeartbeat }

/-- One scheduler announces itself twice, with the older heartbeat last; then another
    one does. -/
def inTurn : List Call :=
  [.record (sampleService "a" 1 secondDay), .record (sampleService "a" 2 firstDay),
    .record (sampleService "b" 3 firstDay)]

/-- The same with the other scheduler first, and with refreshes and a datagram that is
    no announcement in between. -/
def interleaved : List Call :=
  [.record (sampleService "b" 3 firstDay), .refresh,
    .record (sampleService "a" 1 secondDay), .observe ⟨[], .loopback, firstDay⟩, .refresh,
    .record (sampleService "a" 2 firstDay)]

theorem named_inTurn (name : String) :
    named (announced inTurn) name = named (announced interleaved) name := by
  have hi : announced interleaved = [sampleService "b" 3 firstDay,
      sampleService "a" 1 secondDay, sampleService "a" 2 firstDay] := rfl
  have ht : announced inTurn = [sampleService "a" 1 secondDay,
      sampleService "a" 2 firstDay, sampleService "b" 3 firstDay] := rfl
  rw [hi, ht]
  by_cases ha : "a" = name
  · subst ha
    rfl
  · simp [named, sampleService, List.filter_cons, ha]

theorem callAll_determined_interleaved :
    (∀ name, named (announced inTurn) name = named (announced interleaved) name)
      ∧ (empty.callAll inTurn).Alike (empty.callAll interleaved)
      ∧ (empty.callAll interleaved).freshest? = some (sampleService "a" 2 firstDay) := by
  have halike := (callAll_determined inTurn).2 interleaved named_inTurn
  exact ⟨named_inTurn, halike, halike.freshest?_eq.symm.trans rfl⟩

end TaskConsole.Registry
