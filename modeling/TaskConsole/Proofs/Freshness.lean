import TaskConsole.Discovery.Registry
import TaskConsole.Proofs.Utf8Order

/-! # Freshness — which of two schedulers is preferred, and which of many

    The one number that timestamps are compared by is their fields in a mixed
    radix, so it orders them from the year down and tells any two apart.  With
    the bytes of the name behind it, every two announcements of different names
    are comparable, and the winner of a list does not depend on how the list is
    gone through. -/

namespace TaskConsole

/-! ## The order of timestamps -/

namespace Timestamp

/-- The fields of a timestamp, from the year down. -/
def fields (t : Timestamp) : List Int :=
  [t.date.year, t.date.month, t.date.day, t.hour, t.minute, t.second, t.nanos]

/-- Numbers of two digits are ordered by the first digit, and then by the second. -/
theorem radix_lt_iff {x y d e r : Int} (hd : 0 ≤ d ∧ d < r) (he : 0 ≤ e ∧ e < r) :
    x * r + d < y * r + e ↔ x < y ∨ x = y ∧ d < e := by
  rcases Int.lt_trichotomy x y with h | rfl | h
  · have hr : (x + 1) * r ≤ y * r := Int.mul_le_mul_of_nonneg_right h (by omega)
    rw [Int.add_mul] at hr
    exact ⟨fun _ => Or.inl h, fun _ => by omega⟩
  · exact ⟨fun hlt => Or.inr ⟨rfl, by omega⟩, fun hor => by omega⟩
  · have hr : (y + 1) * r ≤ x * r := Int.mul_le_mul_of_nonneg_right h (by omega)
    rw [Int.add_mul] at hr
    exact ⟨fun hlt => by omega, fun hor => by omega⟩

/-- The rank with the year as its first digit, and all the rest as the second. -/
theorem rank_eq (t : Timestamp) :
    t.rank = t.date.year * 71884800000000000 + (t.date.month * 5529600000000000
      + (t.date.day * 172800000000000 + (t.hour * 7200000000000
      + (t.minute * 120000000000 + (t.second * 2000000000 + t.nanos))))) := by
  rw [rank]
  omega

/-- One timestamp is before another when its fields come first. -/
theorem before_iff_fields_lt (s t : Timestamp) :
    s.before t = true ↔ s.fields < t.fields := by
  have hs := s.date.month_mem
  have ht := t.date.month_mem
  have hs' := s.date.day_le
  have ht' := t.date.day_le
  have hsn := Nat.lt_of_lt_of_le s.nanos_lt (nanosLimit_le s.second)
  have htn := Nat.lt_of_lt_of_le t.nanos_lt (nanosLimit_le t.second)
  obtain ⟨hsh, hsm, hss⟩ := And.intro s.hour_lt (And.intro s.minute_lt s.second_lt)
  obtain ⟨hth, htm, hts⟩ := And.intro t.hour_lt (And.intro t.minute_lt t.second_lt)
  rw [before, decide_eq_true_iff, rank_eq, rank_eq]
  -- one digit after the other, on both sides
  rw [radix_lt_iff (by omega) (by omega), radix_lt_iff (by omega) (by omega),
    radix_lt_iff (by omega) (by omega), radix_lt_iff (by omega) (by omega),
    radix_lt_iff (by omega) (by omega), radix_lt_iff (by omega) (by omega)]
  simp only [fields, List.cons_lt_cons_iff, List.not_lt_nil, and_false, or_false]

/-- Timestamps of the same fields are the same. -/
theorem fields_injective {s t : Timestamp} (h : s.fields = t.fields) : s = t := by
  obtain ⟨⟨_, _, _, _, _⟩, _, _, _, _, _, _, _, _⟩ := s
  obtain ⟨⟨_, _, _, _, _⟩, _, _, _, _, _, _, _, _⟩ := t
  simp only [fields, List.cons.injEq, Int.natCast_inj, and_true] at h
  obtain ⟨rfl, rfl, rfl, rfl, rfl, rfl, rfl⟩ := h
  rfl

/-- Of two timestamps, one is before the other unless they are the same. -/
theorem eq_of_not_before {s t : Timestamp} (hst : ¬ s.before t = true)
    (hts : ¬ t.before s = true) : s = t := by
  rw [before_iff_fields_lt] at hst hts
  exact fields_injective (List.le_antisymm (List.not_lt.mp hts) (List.not_lt.mp hst))

end Timestamp

/-! ## The order of announcements -/

namespace Announcement

/-- A later heartbeat outranks an earlier one, and of two that are as late, that of
    the name whose bytes come first. -/
def Outranks (a b : Announcement) : Prop :=
  b.lastHeartbeat.fields < a.lastHeartbeat.fields
    ∨ a.lastHeartbeat = b.lastHeartbeat
      ∧ Utf8.encode a.serviceId < Utf8.encode b.serviceId

/-- The comparison that is made is this one. -/
theorem beats_iff (a b : Announcement) : a.beats b = true ↔ a.Outranks b := by
  rw [beats, Bool.or_eq_true, Bool.and_eq_true, decide_eq_true_iff,
    Bool.not_eq_true', ← Bool.not_eq_true, Utf8.lt_iff_encode_lt, Outranks,
    ← Timestamp.before_iff_fields_lt]
  by_cases hba : b.lastHeartbeat.before a.lastHeartbeat = true
  · exact ⟨fun _ => Or.inl hba, fun _ => Or.inl hba⟩
  · constructor
    · rintro (h | ⟨hab, hid⟩)
      · exact Or.inl h
      · exact Or.inr ⟨Timestamp.eq_of_not_before hab hba, hid⟩
    · rintro (h | ⟨heq, hid⟩)
      · exact Or.inl h
      · rw [heq] at hba ⊢
        exact Or.inr ⟨hba, hid⟩

theorem Outranks.trans {a b c : Announcement} (hab : a.Outranks b)
    (hbc : b.Outranks c) : a.Outranks c := by
  -- one heartbeat that is later decides; else the names do
  rcases hab with hab | ⟨eab, hab⟩
  · rcases hbc with hbc | ⟨ebc, _⟩
    · exact Or.inl (List.lt_trans hbc hab)
    · exact Or.inl (ebc ▸ hab)
  · rcases hbc with hbc | ⟨ebc, hbc⟩
    · exact Or.inl (eab ▸ hbc)
    · exact Or.inr ⟨eab.trans ebc, List.lt_trans hab hbc⟩

theorem not_outranks_self (a : Announcement) : ¬ a.Outranks a := by
  rintro (h | ⟨_, h⟩) <;> exact List.lt_irrefl _ h

/-- Neither of two announcements outranks the other only if they have the same
    heartbeat and the same name. -/
theorem outranks_trichotomy (a b : Announcement) :
    a.Outranks b ∨ b.Outranks a
      ∨ a.lastHeartbeat = b.lastHeartbeat ∧ a.serviceId = b.serviceId := by
  by_cases hba : b.lastHeartbeat.before a.lastHeartbeat = true
  · exact Or.inl (Or.inl ((Timestamp.before_iff_fields_lt _ _).mp hba))
  by_cases hab : a.lastHeartbeat.before b.lastHeartbeat = true
  · exact Or.inr (Or.inl (Or.inl ((Timestamp.before_iff_fields_lt _ _).mp hab)))
  have heq := Timestamp.eq_of_not_before hab hba
  rcases Utf8.text_trichotomy a.serviceId b.serviceId with hlt | hid | hlt
  · exact Or.inl (Or.inr ⟨heq, (Utf8.lt_iff_encode_lt _ _).mp hlt⟩)
  · exact Or.inr (Or.inr ⟨heq, hid⟩)
  · exact Or.inr (Or.inl (Or.inr ⟨heq.symm, (Utf8.lt_iff_encode_lt _ _).mp hlt⟩))

/-- Whatever stands between two announcements of which one outranks the other is
    outranked by the one, or outranks the other. -/
theorem Outranks.cotrans {a c : Announcement} (h : a.Outranks c) (b : Announcement) :
    a.Outranks b ∨ b.Outranks c := by
  rcases outranks_trichotomy a b with hab | hba | ⟨ht, hid⟩
  · exact Or.inl hab
  · exact Or.inr (hba.trans h)
  · rw [Outranks, ht, hid] at h
    exact Or.inr h

end Announcement

/-! ## The winner of a list -/

namespace Registry

open Announcement (beats_iff not_outranks_self)

theorem fresher_eq (a b : Announcement) : fresher a b = a ∨ fresher a b = b := by
  by_cases h : a.beats b = true
  · exact Or.inl (if_pos h)
  · exact Or.inr (if_neg h)

/-- The fresher one is outranked by neither. -/
theorem fresher_unbeaten (a b : Announcement) :
    ¬ a.Outranks (fresher a b) ∧ ¬ b.Outranks (fresher a b) := by
  by_cases h : a.beats b = true
  · have hf : fresher a b = a := if_pos h
    rw [hf]
    exact ⟨not_outranks_self a, fun hba => not_outranks_self a (((beats_iff a b).mp h).trans hba)⟩
  · have hf : fresher a b = b := if_neg h
    rw [hf]
    exact ⟨fun hab => h ((beats_iff a b).mpr hab), not_outranks_self b⟩

/-- The winner is one of those compared. -/
theorem foldl_fresher_mem (a : Announcement) (rest : List Announcement) :
    rest.foldl fresher a ∈ a :: rest := by
  induction rest generalizing a with
  | nil => exact List.mem_singleton.mpr rfl
  | cons b rest ih =>
      rw [List.foldl_cons]
      rcases List.mem_cons.mp (ih (fresher a b)) with hm | hm
      · rw [hm]
        rcases fresher_eq a b with h | h
        · rw [h]
          exact List.mem_cons_self
        · rw [h]
          exact List.mem_cons_of_mem _ List.mem_cons_self
      · exact List.mem_cons_of_mem _ (List.mem_cons_of_mem _ hm)

/-- Nothing that was compared outranks the winner. -/
theorem foldl_fresher_unbeaten (a : Announcement) (rest : List Announcement) :
    ∀ b ∈ a :: rest, ¬ b.Outranks (rest.foldl fresher a) := by
  induction rest generalizing a with
  | nil =>
      intro b hb
      rw [List.mem_singleton.mp hb]
      exact not_outranks_self a
  | cons c rest ih =>
      intro b hb hout
      rw [List.foldl_cons] at hout
      have hbest := ih (fresher a c) (fresher a c) List.mem_cons_self
      obtain ⟨ha, hc⟩ := fresher_unbeaten a c
      -- what outranks the winner of the rest also outranks one of the first two
      rcases List.mem_cons.mp hb with rfl | hb
      · rcases hout.cotrans (fresher b c) with h | h
        · exact ha h
        · exact hbest h
      rcases List.mem_cons.mp hb with rfl | hb
      · rcases hout.cotrans (fresher a b) with h | h
        · exact hc h
        · exact hbest h
      · exact ih (fresher a c) b (List.mem_cons_of_mem _ hb) hout

end Registry

end TaskConsole
