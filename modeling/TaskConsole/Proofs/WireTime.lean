import TaskConsole.Proofs.Blanks
import TaskConsole.Proofs.TimeGrammar
import TaskConsole.Time.Writer

/-! # Timestamps on the wire — what is written is read back, to the millisecond

    What is written is a text of the grammar, part by part:

    * a year is written with a sign when it needs one, and then with all its digits;
    * month, day, hour, minute and second have two digits, and the fraction has three;
    * a leap second shows as 60;
    * the final `Z` is the designator.

    So it is read as the moment that it names (`Timestamp.read?_eq_some_iff`).  Only what
    the fraction of three digits cannot hold is lost. -/

namespace TaskConsole

open Text

namespace Timestamp

/-- A timestamp cut to whole milliseconds. -/
def toMillis (t : Timestamp) : Timestamp :=
  { t with
    nanos := t.nanos / 1000000 * 1000000
    nanos_lt := Nat.lt_of_le_of_lt (Nat.div_mul_le_self t.nanos 1000000) t.nanos_lt }

theorem shownSecond_le (t : Timestamp) : t.shownSecond ≤ 60 := by
  by_cases h : t.shownSecond = 60
  · exact Nat.le_of_eq h
  · have hn := nanos_lt_of_shownSecond h
    have hlt := t.second_lt
    rw [shownSecond]
    omega

theorem shownSecond_toMillis (t : Timestamp) : t.toMillis.shownSecond = t.shownSecond := by
  show t.second + t.nanos / 1000000 * 1000000 / 1000000000 = t.second + t.nanos / 1000000000
  omega

theorem subsecond_toMillis (t : Timestamp) :
    t.toMillis.subsecond = t.subsecond / 1000000 * 1000000 := by
  show t.nanos / 1000000 * 1000000 % 1000000000 = t.nanos % 1000000000 / 1000000 * 1000000
  omega

end Timestamp

/-! ## Numbers -/

theorem digitsText_padded (width n : Nat) : DigitsText (padded width n) n where
  ne_nil := padded_ne_nil width n
  digits := isDigit_of_mem_padded
  value := decimalValue_padded width n

theorem fieldText_padded {n : Nat} (h : n < 100) : FieldText (padded 2 n) n :=
  @FieldText.mk [] _ _ (List.forall_mem_nil _) (digitsText_padded 2 n)
    (Nat.le_of_eq (length_padded h))

/-- A written year has a sign when four digits do not hold it. -/
theorem yearText_text (y : Int) : YearText (yearText y) y := by
  have hnone : ∀ c ∈ ([] : List Char), isBlank c = true := List.forall_mem_nil _
  cases y with
  | negSucc n => exact @YearText.minus [] _ _ hnone (digitsText_padded 4 (n + 1))
  | ofNat n =>
      by_cases hn : n ≤ 9999
      · have htext : yearText (.ofNat n) = padded 4 n := if_pos hn
        rw [htext]
        exact @YearText.plain [] _ _ hnone (digitsText_padded 4 n)
          (Nat.le_of_eq (length_padded (Nat.lt_succ_of_le hn)))
      · have htext : yearText (.ofNat n) = '+' :: padded 4 n := if_neg hn
        rw [htext]
        exact @YearText.plus [] _ _ hnone (digitsText_padded 4 n)

theorem Date.text_dateText (d : Date) : DateText d.text d := by
  have hmonth : d.month < 100 := Nat.lt_of_le_of_lt d.month_mem.2 (by decide)
  have hday : d.day < 100 := Nat.lt_of_le_of_lt d.day_le (by decide)
  rw [Date.text, List.append_assoc, List.cons_append]
  exact .mk (yearText_text d.year) (fieldText_padded hmonth) (fieldText_padded hday)

/-- A fraction of three digits is so many milliseconds. -/
theorem fractionNanos_padded {n : Nat} (h : n < 1000) :
    fractionNanos (padded 3 n) = n * 1000000 := by
  have hlen : (padded 3 n).length = 3 := length_padded h
  rw [fractionNanos, List.take_of_length_le (by omega), decimalValue_padded, hlen]

/-! ## The whole text -/

namespace Timestamp

/-- The wire form without the zone designator. -/
def wallText (t : Timestamp) : List Char :=
  t.date.text ++ 'T' :: (padded 2 t.hour ++ ':' :: (padded 2 t.minute
    ++ ':' :: (padded 2 t.shownSecond ++ '.' :: padded 3 (t.subsecond / 1000000))))

theorem wireText_eq (t : Timestamp) : t.wireText = t.wallText ++ ['Z'] := by
  rw [wireText, wallText, clockText]
  simp only [List.append_assoc, List.cons_append]

/-- The wire form is a wall clock that shows the moment to the millisecond. -/
theorem wallText_wallClockText (t : Timestamp) : WallClockText t.wallText t.toMillis := by
  have hhour : t.hour < 100 := Nat.lt_trans t.hour_lt (by decide)
  have hminute : t.minute < 100 := Nat.lt_trans t.minute_lt (by decide)
  have hsecond : t.shownSecond < 100 := Nat.lt_of_le_of_lt t.shownSecond_le (by decide)
  have hmillis : t.subsecond / 1000000 < 1000 := by
    rw [subsecond]
    omega
  have hseconds : SecondsText
      (':' :: (padded 2 t.shownSecond ++ '.' :: padded 3 (t.subsecond / 1000000)))
      t.toMillis.shownSecond t.toMillis.subsecond := by
    rw [shownSecond_toMillis, subsecond_toMillis, ← fractionNanos_padded hmillis,
      fractionNanos_eq]
    exact .fraction (fieldText_padded hsecond) (padded_ne_nil 3 _) isDigit_of_mem_padded
  exact .mk t.date.text_dateText (fieldText_padded hhour) (fieldText_padded hminute) hseconds

end Timestamp

/-- A year begins with a digit or a sign, and neither is blank. -/
theorem head?_yearText (y : Int) : ∃ c, (yearText y).head? = some c ∧ isBlank c = false := by
  cases y with
  | negSucc n => exact ⟨'-', rfl, rfl⟩
  | ofNat n =>
      by_cases hn : n ≤ 9999
      · have htext : yearText (.ofNat n) = padded 4 n := if_pos hn
        rw [htext]
        obtain ⟨c, cs, hc, hdigit⟩ := exists_padded_eq_cons 4 n
        exact ⟨c, congrArg List.head? hc, isBlank_of_isDigit hdigit⟩
      · have htext : yearText (.ofNat n) = '+' :: padded 4 n := if_neg hn
        rw [htext]
        exact ⟨'+', rfl, rfl⟩

theorem Timestamp.trimChars_wireText (t : Timestamp) : trimChars t.wireText = t.wireText := by
  obtain ⟨c, hc, hblank⟩ := head?_yearText t.date.year
  refine trimChars_eq_iff.mpr (trims_self ?_ ?_)
  · intro d hd
    rw [wireText_eq, wallText, Date.text] at hd
    simp only [List.append_assoc, List.head?_append, hc, Option.some_or] at hd
    rw [← Option.some.inj hd]
    exact hblank
  · intro d hd
    rw [wireText_eq, List.getLast?_concat] at hd
    rw [← Option.some.inj hd]
    rfl

/-- **A timestamp on the wire is read back, to the millisecond.** -/
theorem Timestamp.read?_wire (t : Timestamp) : Timestamp.read? t.wire = some t.toMillis := by
  rw [read?_eq_some_iff, toList_trim, wire, String.toList_ofList, trimChars_wireText]
  exact ⟨t.wallText, ['Z'], t.wireText_eq,
    Or.inl ⟨t.wallText_wallClockText, Or.inl ZuluText.upper⟩⟩

/-- What is lost on the wire is lost once. -/
theorem Timestamp.wire_toMillis (t : Timestamp) : t.toMillis.wire = t.wire := by
  have hmillis : t.toMillis.subsecond / 1000000 = t.subsecond / 1000000 := by
    rw [subsecond_toMillis]
    omega
  rw [wire, wireText_eq, wallText, shownSecond_toMillis, hmillis, wire, wireText_eq, wallText]
  rfl

end TaskConsole
