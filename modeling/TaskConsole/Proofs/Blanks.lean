import Mathlib.Data.List.TakeWhile
import TaskConsole.Proofs.Numerals

/-! # Blanks — what is left of a text without the blanks around it

    A text is cut into the blanks in front, the blanks at the end, and what is between,
    which neither begins nor ends with a blank (`Trims`).  There is one such cut, and it is
    the one that trimming makes (`trimChars_eq_iff`); of a text of blanks nothing is left
    (`trimmed?_eq_none_iff`). -/

namespace TaskConsole.Text

/-- What is left of a text without the blanks around it. -/
structure Trims (cs mid : List Char) : Prop where
  around : ∃ left right, cs = left ++ mid ++ right ∧ (∀ c ∈ left, isBlank c = true)
    ∧ ∀ c ∈ right, isBlank c = true
  begins : ∀ c ∈ mid.head?, isBlank c = false
  ends : ∀ c ∈ mid.getLast?, isBlank c = false

/-- A text that neither begins nor ends with a blank has none to lose. -/
theorem trims_self {cs : List Char} (hbegins : ∀ c ∈ cs.head?, isBlank c = false)
    (hends : ∀ c ∈ cs.getLast?, isBlank c = false) : Trims cs cs where
  around := ⟨[], [], (List.append_nil cs).symm, List.forall_mem_nil _, List.forall_mem_nil _⟩
  begins := hbegins
  ends := hends

theorem trims_trimChars (cs : List Char) : Trims cs (trimChars cs) := by
  have hstart : cs.takeWhile isBlank ++ trimStart cs = cs := List.takeWhile_append_dropWhile
  have hend : trimEnd (trimStart cs) ++ ((trimStart cs).reverse.takeWhile isBlank).reverse
      = trimStart cs := by
    rw [trimEnd, ← List.reverse_append, List.takeWhile_append_dropWhile, List.reverse_reverse]
  refine ⟨⟨cs.takeWhile isBlank, ((trimStart cs).reverse.takeWhile isBlank).reverse,
    ?_, ?_, ?_⟩, ?_, ?_⟩
  · rw [trimChars, List.append_assoc, hend, hstart]
  · exact List.all_eq_true.mp List.all_takeWhile
  · intro c hc
    exact List.all_eq_true.mp List.all_takeWhile c (List.mem_reverse.mp hc)
  · intro c hc
    -- what is left begins as the text does without the blanks in front
    have hfirst : (trimStart cs).head? = some c := by
      rw [← hend, List.head?_append, show (trimEnd (trimStart cs)).head? = some c from hc]
      rfl
    have hnot := List.head?_dropWhile_not isBlank cs
    rw [show (cs.dropWhile isBlank).head? = some c from hfirst] at hnot
    exact hnot
  · intro c hc
    rw [trimChars, trimEnd, List.getLast?_reverse] at hc
    have hnot := List.head?_dropWhile_not isBlank (trimStart cs).reverse
    rw [show ((trimStart cs).reverse.dropWhile isBlank).head? = some c from hc] at hnot
    exact hnot

/-- **TRIMMING** leaves that, and nothing else. -/
theorem trimChars_eq_iff {cs mid : List Char} : trimChars cs = mid ↔ Trims cs mid := by
  constructor
  · rintro rfl
    exact trims_trimChars cs
  · rintro ⟨⟨left, right, rfl, hleft, hright⟩, hbegins, hends⟩
    have hend : trimEnd (mid ++ right) = mid := by
      rw [trimEnd, List.reverse_append, dropWhile_run, List.reverse_reverse]
      · exact fun c hc => hright c (List.mem_reverse.mp hc)
      · rw [List.head?_reverse]
        exact hends
    cases mid with
    | nil =>
        have hall : ∀ c ∈ left ++ [] ++ right, isBlank c = true := by
          intro c hc
          rw [List.append_nil] at hc
          exact (List.mem_append.mp hc).elim (hleft c) (hright c)
        rw [trimChars, trimStart, List.dropWhile_eq_nil_iff.mpr hall]
        rfl
    | cons c mid =>
        have hstart : trimStart (left ++ (c :: mid ++ right)) = c :: mid ++ right :=
          dropWhile_run hleft hbegins
        rw [trimChars, List.append_assoc, hstart, hend]

theorem Trims.sublist {cs mid : List Char} (h : Trims cs mid) : mid.Sublist cs := by
  obtain ⟨left, right, rfl, -, -⟩ := h.around
  exact (List.sublist_append_right left mid).trans (List.sublist_append_left _ right)

/-- Nothing is left of blanks, and of nothing else. -/
theorem trims_nil_iff {cs : List Char} : Trims cs [] ↔ ∀ c ∈ cs, isBlank c = true := by
  constructor
  · rintro ⟨⟨left, right, rfl, hleft, hright⟩, -, -⟩ c hc
    rw [List.append_nil] at hc
    exact (List.mem_append.mp hc).elim (hleft c) (hright c)
  · intro h
    refine ⟨⟨cs, [], ?_, h, List.forall_mem_nil _⟩, ?_, ?_⟩
    · rw [List.append_nil, List.append_nil]
    · exact fun c hc => absurd hc.symm (Option.some_ne_none c)
    · exact fun c hc => absurd hc.symm (Option.some_ne_none c)

theorem isBlankText_iff {s : String} : isBlankText s = true ↔ Trims s.toList [] := by
  rw [isBlankText, List.all_eq_true, trims_nil_iff]

/-- A text is not blank if it begins with one that is not. -/
theorem isBlankText_append_left {s : String} (h : isBlankText s = false) (t : String) :
    isBlankText (s ++ t) = false := by
  rw [isBlankText] at h
  rw [isBlankText, String.toList_append, List.all_append, h, Bool.false_and]

/-- What is left of a text begins with no blank, so it is not blank unless it is empty. -/
theorem Trims.eq_empty {cs : List Char} {text : String} (h : Trims cs text.toList)
    (hblank : isBlankText text = true) : text = "" := by
  have hall := List.all_eq_true.mp hblank
  have hbegins := h.begins
  cases hcs : text.toList with
  | nil => exact String.toList_inj.mp hcs
  | cons c rest =>
      rw [hcs] at hall hbegins
      have hc := hall c List.mem_cons_self
      rw [hbegins c rfl] at hc
      exact absurd hc Bool.false_ne_true

theorem trimmed?_eq_none_iff {s : String} : trimmed? s = none ↔ Trims s.toList [] := by
  rw [trimmed?, ← isBlankText_iff]
  cases isBlankText s with
  | true => exact ⟨fun _ => rfl, fun _ => rfl⟩
  | false =>
      exact ⟨fun h => absurd h (Option.some_ne_none _), fun h => absurd h Bool.false_ne_true⟩

theorem trimmed?_eq_some_iff {s t : String} :
    trimmed? s = some t ↔ Trims s.toList t.toList ∧ t ≠ "" := by
  have htrim : trim s = t ↔ Trims s.toList t.toList := by
    rw [← trimChars_eq_iff, ← toList_trim]
    exact String.toList_inj.symm
  constructor
  · intro h
    have hblank : isBlankText s = false := by
      cases hb : isBlankText s with
      | false => rfl
      | true =>
          rw [trimmed?, if_pos hb] at h
          exact absurd h.symm (Option.some_ne_none t)
    rw [trimmed?, hblank, if_neg Bool.false_ne_true] at h
    have hleft := htrim.mp (Option.some.inj h)
    refine ⟨hleft, ?_⟩
    rintro rfl
    rw [isBlankText_iff.mpr hleft] at hblank
    exact Bool.false_ne_true hblank.symm
  · rintro ⟨hleft, hne⟩
    have hnot : ¬ isBlankText s = true := by
      intro hblank
      have hnil := (trimChars_eq_iff.mpr hleft).symm.trans
        (trimChars_eq_iff.mpr (isBlankText_iff.mp hblank))
      exact hne (String.toList_inj.mp hnil)
    rw [trimmed?, if_neg hnot, htrim.mpr hleft]

theorem trimmed?_sublist {s t : String} (h : trimmed? s = some t) :
    t.toList.Sublist s.toList :=
  (trimmed?_eq_some_iff.mp h).1.sublist

end TaskConsole.Text
