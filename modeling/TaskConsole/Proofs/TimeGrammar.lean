import TaskConsole.Proofs.ZoneDesignators

/-! # The grammar of timestamps — what is read, and as which moment

    The layouts are stated here as relations between a text and what it means, without
    the reader, in the order of its parts: numbers, dates, times of day.  The reader
    agrees with each of them in both directions:

    * SOUND: where it succeeds, it has taken a text of the layout off the front;
    * COMPLETE: such a text is taken off in full, whenever what follows cannot belong
      to it, so that the layouts do not compete.

    With what is known of zone designators, this makes the texts that name a moment
    those of one layout with one designator (`Timestamp.read?_grammar`).  Whatever else
    follows a date or a time of day is refused (`wallClock?_overrun`): a second
    designator, blanks before one, or an offset after a date. -/

namespace TaskConsole

open Text

/-! ## The layouts -/

/-- Digits, and the number that they denote. -/
structure DigitsText (ds : List Char) (n : Nat) : Prop where
  ne_nil : ds ≠ []
  digits : ∀ c ∈ ds, isDigit c = true
  value : decimalValue ds = n

/-- A field of one or two digits, with blanks in front or without. -/
inductive FieldText : List Char → Nat → Prop where
  | mk {blanks ds : List Char} {n : Nat} : (∀ c ∈ blanks, isBlank c = true) →
      DigitsText ds n → ds.length ≤ 2 → FieldText (blanks ++ ds) n

/-- A year, with blanks in front or without: four digits at most, or a sign and digits. -/
inductive YearText : List Char → Int → Prop where
  | plain {blanks ds : List Char} {n : Nat} : (∀ c ∈ blanks, isBlank c = true) →
      DigitsText ds n → ds.length ≤ 4 → YearText (blanks ++ ds) n
  | minus {blanks ds : List Char} {n : Nat} : (∀ c ∈ blanks, isBlank c = true) →
      DigitsText ds n → YearText (blanks ++ '-' :: ds) (-n)
  | plus {blanks ds : List Char} {n : Nat} : (∀ c ∈ blanks, isBlank c = true) →
      DigitsText ds n → YearText (blanks ++ '+' :: ds) n

/-- A date of the calendar. -/
inductive DateText : List Char → Date → Prop where
  | mk {y m d : List Char} {date : Date} : YearText y date.year →
      FieldText m date.month → FieldText d date.day →
        DateText (y ++ '-' :: (m ++ '-' :: d)) date

/-- The first nine digits of a fraction, filled up with zeros: its nanoseconds. -/
def nineDigits (ds : List Char) : List Char := (ds ++ List.replicate 9 '0').take 9

/-- What may follow the minute, with the second and the nanoseconds that it means. -/
inductive SecondsText : List Char → Nat → Nat → Prop where
  | absent : SecondsText [] 0 0
  | whole {s : List Char} {n : Nat} : FieldText s n → SecondsText (':' :: s) n 0
  | fraction {s ds : List Char} {n : Nat} : FieldText s n → ds ≠ [] →
      (∀ c ∈ ds, isDigit c = true) →
        SecondsText (':' :: (s ++ '.' :: ds)) n (decimalValue (nineDigits ds))

/-- A wall clock, and the moment that it shows; the second 60 is a leap second. -/
inductive WallClockText : List Char → Timestamp → Prop where
  | mk {d h m s : List Char} {t : Timestamp} : DateText d t.date → FieldText h t.hour →
      FieldText m t.minute → SecondsText s t.shownSecond t.subsecond →
        WallClockText (d ++ 'T' :: (h ++ ':' :: (m ++ s))) t

/-- A date on its own means its midnight. -/
inductive BareDateText : List Char → Timestamp → Prop where
  | mk {d : List Char} {date : Date} : DateText d date →
      BareDateText d (Timestamp.midnight date)

/-- The text names a moment: a wall clock with any designator, which is not applied, or
    a date with none but universal time. -/
def NamesMoment (cs : List Char) (t : Timestamp) : Prop :=
  ∃ w d, cs = w ++ d
    ∧ (WallClockText w t ∧ (ZuluText d ∨ OffsetText d) ∨ BareDateText w t ∧ ZuluText d)

/-! ## Numbers -/

namespace DigitsText

variable {ds : List Char} {n : Nat}

theorem cons (h : DigitsText ds n) : ∃ c cs, ds = c :: cs ∧ isDigit c = true := by
  obtain ⟨c, cs, rfl⟩ := List.exists_cons_of_ne_nil h.ne_nil
  exact ⟨c, cs, rfl, h.digits c List.mem_cons_self⟩

/-- **COMPLETE** for digits. -/
theorem read (h : DigitsText ds n) {width : Nat} (hlen : ds.length ≤ width)
    {rest : List Char} (hrest : StopsDigits rest) :
    leadingDigits? width (ds ++ rest) = some (n, rest) := by
  rw [leadingDigits?_append h.ne_nil h.digits hrest hlen, h.value]

end DigitsText

/-- **SOUND** for digits. -/
theorem leadingDigits?_sound {width n : Nat} {cs rest : List Char}
    (h : leadingDigits? width cs = some (n, rest)) :
    ∃ ds, cs = ds ++ rest ∧ DigitsText ds n ∧ ds.length ≤ width := by
  have hrun : (cs.take width).takeWhile isDigit <+: cs.take width :=
    List.takeWhile_prefix isDigit
  have hfront : cs.take width <+: cs := List.take_prefix width cs
  simp only [leadingDigits?] at h
  split at h
  · exact absurd h (Option.some_ne_none _).symm
  · rename_i hne
    obtain ⟨hn, hrest⟩ := Prod.mk.inj (Option.some.inj h)
    refine ⟨_, ?_, ⟨hne, ?_, hn⟩, ?_⟩
    · rw [← hrest]
      exact (List.prefix_iff_eq_append.mp (hrun.trans hfront)).symm
    · exact List.all_eq_true.mp List.all_takeWhile
    · exact Nat.le_trans hrun.length_le (List.length_take_le width cs)

/-- Blanks in front are skipped. -/
theorem trimStart_blanks {blanks : List Char} (hb : ∀ c ∈ blanks, isBlank c = true)
    {c : Char} (hc : isBlank c = false) (rest : List Char) :
    trimStart (blanks ++ c :: rest) = c :: rest := by
  rw [trimStart, List.dropWhile_append_of_pos hb]
  exact trimStart_cons rest hc

theorem DigitsText.trimStart_eq {blanks ds : List Char} {n : Nat} (h : DigitsText ds n)
    (hb : ∀ c ∈ blanks, isBlank c = true) (rest : List Char) :
    trimStart (blanks ++ ds ++ rest) = ds ++ rest := by
  obtain ⟨c, cs, rfl, hc⟩ := h.cons
  rw [List.append_assoc, List.cons_append, trimStart_blanks hb (isBlank_of_isDigit hc)]

/-- The blanks that are skipped. -/
theorem exists_blanks (cs : List Char) :
    ∃ blanks, cs = blanks ++ trimStart cs ∧ ∀ c ∈ blanks, isBlank c = true :=
  ⟨cs.takeWhile isBlank, List.takeWhile_append_dropWhile.symm,
    List.all_eq_true.mp List.all_takeWhile⟩

namespace FieldText

variable {f : List Char} {n : Nat}

/-- **COMPLETE** for fields. -/
theorem read (h : FieldText f n) {rest : List Char} (hrest : StopsDigits rest) :
    field? (f ++ rest) = some (n, rest) := by
  cases h with
  | mk hb hd hlen => rw [field?, hd.trimStart_eq hb, hd.read hlen hrest]

theorem ne_nil (h : FieldText f n) : f ≠ [] := by
  cases h with
  | mk hb hd hlen => exact List.append_ne_nil_of_right_ne_nil _ hd.ne_nil

theorem isClockChar_eq (h : FieldText f n) : ∀ c ∈ f, isClockChar c = true := by
  cases h with
  | mk hb hd hlen =>
      intro c hc
      rcases List.mem_append.mp hc with hc | hc
      · exact isClockChar_of_isBlank (hb c hc)
      · exact isClockChar_of_isDigit (hd.digits c hc)

end FieldText

/-- **SOUND** for fields. -/
theorem field?_sound {cs rest : List Char} {n : Nat} (h : field? cs = some (n, rest)) :
    ∃ f, cs = f ++ rest ∧ FieldText f n := by
  obtain ⟨blanks, hcs, hb⟩ := exists_blanks cs
  obtain ⟨ds, htrim, hd, hlen⟩ := leadingDigits?_sound h
  refine ⟨blanks ++ ds, ?_, .mk hb hd hlen⟩
  rw [List.append_assoc, ← htrim]
  exact hcs

/-- **COMPLETE** for years. -/
theorem YearText.read {y : List Char} {year : Int} (h : YearText y year) {rest : List Char}
    (hrest : StopsDigits rest) : year? (y ++ rest) = some (year, rest) := by
  have hall {ds : List Char} {n : Nat} (hd : DigitsText ds n) :
      leadingDigits? (ds ++ rest).length (ds ++ rest) = some (n, rest) := by
    refine hd.read ?_ hrest
    rw [List.length_append]
    exact Nat.le_add_right _ _
  cases h with
  | plain hb hd hlen =>
      have hread := hd.read hlen hrest
      rw [year?, hd.trimStart_eq hb]
      obtain ⟨c, cs, rfl, hc⟩ := hd.cons
      rw [List.cons_append] at hread ⊢
      -- neither sign is a digit
      split
      · rename_i r heq
        rw [(List.cons.inj heq).1] at hc
        exact absurd hc (by decide)
      · rename_i r heq
        rw [(List.cons.inj heq).1] at hc
        exact absurd hc (by decide)
      · rw [hread]
        rfl
  | minus hb hd =>
      rw [List.append_assoc, List.cons_append, year?, trimStart_blanks hb rfl]
      show (leadingDigits? _ _).map _ = _
      rw [hall hd]
      rfl
  | plus hb hd =>
      rw [List.append_assoc, List.cons_append, year?, trimStart_blanks hb rfl]
      show (leadingDigits? _ _).map _ = _
      rw [hall hd]
      rfl

/-- **SOUND** for years. -/
theorem year?_sound {cs rest : List Char} {year : Int} (h : year? cs = some (year, rest)) :
    ∃ y, cs = y ++ rest ∧ YearText y year := by
  obtain ⟨blanks, hcs, hb⟩ := exists_blanks cs
  simp only [year?] at h
  split at h <;> obtain ⟨⟨n, r⟩, hread, heq⟩ := Option.map_eq_some_iff.mp h <;>
    obtain ⟨ds, hds, hd, hlen⟩ := leadingDigits?_sound hread <;>
    obtain ⟨rfl, rfl⟩ := Prod.mk.inj heq
  · rename_i r' htrim
    refine ⟨blanks ++ '-' :: ds, ?_, .minus hb hd⟩
    rw [List.append_assoc, List.cons_append, ← hds, ← htrim]
    exact hcs
  · rename_i r' htrim
    refine ⟨blanks ++ '+' :: ds, ?_, .plus hb hd⟩
    rw [List.append_assoc, List.cons_append, ← hds, ← htrim]
    exact hcs
  · refine ⟨blanks ++ ds, ?_, .plain hb hd hlen⟩
    rw [List.append_assoc, ← hds]
    exact hcs

/-! ## Dates -/

theorem after?_cons (c : Char) (rest : List Char) : after? c (c :: rest) = some rest :=
  if_pos rfl

theorem after?_sound {c : Char} {cs rest : List Char} (h : after? c cs = some rest) :
    cs = c :: rest := by
  cases cs with
  | nil => exact absurd h (Option.some_ne_none _).symm
  | cons d cs =>
      simp only [after?] at h
      split at h
      · rename_i hd
        rw [hd, Option.some.inj h]
      · exact absurd h (Option.some_ne_none _).symm

theorem after?_none {c d : Char} (h : d ≠ c) (cs : List Char) : after? c (d :: cs) = none :=
  if_neg h

theorem Date.of?_fields (d : Date) : Date.of? d.year d.month d.day = some d := by
  rw [Date.of?, dif_pos d.year_mem, dif_pos d.day_mem]

/-- **COMPLETE** for dates. -/
theorem DateText.read {w : List Char} {date : Date} (h : DateText w date)
    {rest : List Char} (hrest : StopsDigits rest) : date? (w ++ rest) = some (date, rest) := by
  cases h with
  | mk hy hm hd =>
      simp only [List.append_assoc, List.cons_append]
      rw [date?, hy.read (stopsDigits_cons _ rfl)]
      simp only [Option.bind_eq_bind, Option.bind_some, after?_cons]
      rw [hm.read (stopsDigits_cons _ rfl)]
      simp only [Option.bind_some, after?_cons]
      rw [hd.read hrest]
      simp only [Option.bind_some, Date.of?_fields]
      rfl

theorem Date.of?_sound {year : Int} {month day : Nat} {date : Date}
    (h : Date.of? year month day = some date) :
    year = date.year ∧ month = date.month ∧ day = date.day := by
  simp only [Date.of?] at h
  split at h
  · split at h
    · obtain rfl := Option.some.inj h
      exact ⟨rfl, rfl, rfl⟩
    · exact absurd h (Option.some_ne_none _).symm
  · exact absurd h (Option.some_ne_none _).symm

/-- **SOUND** for dates. -/
theorem date?_sound {cs rest : List Char} {date : Date}
    (h : date? cs = some (date, rest)) : ∃ w, cs = w ++ rest ∧ DateText w date := by
  simp only [date?, Option.bind_eq_bind, Option.bind_eq_some_iff, Prod.exists] at h
  obtain ⟨year, cs₁, hyear, cs₂, hdash, month, cs₃, hmonth, cs₄, hdash', day, cs₅, hday,
    date', hdate, hrest⟩ := h
  obtain ⟨rfl, rfl⟩ := Prod.mk.inj (Option.some.inj hrest)
  obtain ⟨y, rfl, hy⟩ := year?_sound hyear
  obtain rfl := after?_sound hdash
  obtain ⟨m, rfl, hm⟩ := field?_sound hmonth
  obtain rfl := after?_sound hdash'
  obtain ⟨d, rfl, hd⟩ := field?_sound hday
  obtain ⟨rfl, rfl, rfl⟩ := Date.of?_sound hdate
  refine ⟨_, ?_, .mk hy hm hd⟩
  simp only [List.append_assoc, List.cons_append]

/-- No time mark stands in a year. -/
theorem YearText.isTimeMark_eq {y : List Char} {year : Int} (h : YearText y year) :
    ∀ c ∈ y, isTimeMark c = false := by
  have hdigits {ds : List Char} {n : Nat} (hd : DigitsText ds n) :
      ∀ c ∈ ds, isTimeMark c = false :=
    fun c hc => isTimeMark_of_isClockChar (isClockChar_of_isDigit (hd.digits c hc))
  have hblanks {blanks : List Char} (hb : ∀ c ∈ blanks, isBlank c = true) :
      ∀ c ∈ blanks, isTimeMark c = false :=
    fun c hc => isTimeMark_of_isClockChar (isClockChar_of_isBlank (hb c hc))
  cases h with
  | plain hb hd hlen => exact List.forall_mem_append.mpr ⟨hblanks hb, hdigits hd⟩
  | minus hb hd =>
      exact List.forall_mem_append.mpr
        ⟨hblanks hb, List.forall_mem_cons.mpr ⟨rfl, hdigits hd⟩⟩
  | plus hb hd =>
      exact List.forall_mem_append.mpr
        ⟨hblanks hb, List.forall_mem_cons.mpr ⟨rfl, hdigits hd⟩⟩

namespace DateText

variable {w : List Char} {date : Date}

/-- No time mark stands in a date. -/
theorem isTimeMark_eq (h : DateText w date) : ∀ c ∈ w, isTimeMark c = false := by
  cases h with
  | mk hy hm hd =>
      simp only [List.forall_mem_append, List.forall_mem_cons]
      exact ⟨hy.isTimeMark_eq, rfl,
        fun c hc => isTimeMark_of_isClockChar (hm.isClockChar_eq c hc), rfl,
        fun c hc => isTimeMark_of_isClockChar (hd.isClockChar_eq c hc)⟩

/-- A date ends with its day. -/
theorem endsPlain (h : DateText w date) : EndsPlain w := by
  cases h with
  | @mk y m d _ hy hm hd =>
      have hend := endsPlain_append hd.ne_nil hd.isClockChar_eq (y ++ '-' :: (m ++ ['-']))
      simp only [List.append_assoc, List.cons_append, List.nil_append] at hend
      exact hend

end DateText

/-! ## Times of day -/

/-- The reader cuts and fills up the fraction in its own way, to the same number. -/
theorem fractionNanos_eq (ds : List Char) :
    fractionNanos ds = decimalValue (nineDigits ds) := by
  have hnine : nineDigits ds
      = ds.take 9 ++ List.replicate (9 - (ds.take 9).length) '0' := by
    rw [nineDigits, List.take_append, List.take_replicate, List.length_take]
    congr 2
    omega
  rw [hnine, decimalValue_append_zeros, fractionNanos]

theorem decimalValue_nineDigits_lt {ds : List Char} (hd : ∀ c ∈ ds, isDigit c = true) :
    decimalValue (nineDigits ds) < 1000000000 := by
  have hdigits : ∀ c ∈ nineDigits ds, isDigit c = true := by
    intro c hc
    rcases List.mem_append.mp (List.mem_of_mem_take hc) with hc | hc
    · exact hd c hc
    · rw [(List.mem_replicate.mp hc).2]
      rfl
  have hlen : (nineDigits ds).length = 9 := by
    rw [nineDigits, List.length_take, List.length_append, List.length_replicate]
    omega
  have hlt := decimalValue_lt hdigits
  rw [hlen] at hlt
  exact hlt

/-- **SOUND** for fractions. -/
theorem fraction?_sound {cs : List Char} {nanos : Nat} (h : fraction? cs = some nanos) :
    cs = [] ∧ nanos = 0 ∨ ∃ ds, cs = '.' :: ds ∧ ds ≠ [] ∧ (∀ c ∈ ds, isDigit c = true)
      ∧ nanos = decimalValue (nineDigits ds) := by
  simp only [fraction?] at h
  split at h
  · exact Or.inl ⟨rfl, (Option.some.inj h).symm⟩
  · rename_i ds
    split at h
    · rename_i hds
      refine Or.inr ⟨ds, rfl, hds.1, List.all_eq_true.mp hds.2, ?_⟩
      rw [← fractionNanos_eq]
      exact (Option.some.inj h).symm
    · exact absurd h (Option.some_ne_none _).symm
  · exact absurd h (Option.some_ne_none _).symm

theorem seconds?_cons (c : Char) (cs : List Char) :
    seconds? (c :: cs) = (after? ':' (c :: cs)).bind fun rest =>
      (field? rest).bind fun x => (fraction? x.2).map fun nanos => (x.1, nanos) := by
  rw [seconds?]
  · simp only [Option.bind_eq_bind, Option.pure_def, Option.map_eq_bind, Function.comp_def]
  · exact List.cons_ne_nil _ _

/-- **SOUND** for seconds. -/
theorem seconds?_sound {cs : List Char} {second nanos : Nat}
    (h : seconds? cs = some (second, nanos)) :
    SecondsText cs second nanos ∧ nanos < 1000000000 := by
  cases cs with
  | nil =>
      obtain ⟨rfl, rfl⟩ := Prod.mk.inj (Option.some.inj h)
      exact ⟨.absent, by decide⟩
  | cons c cs =>
      simp only [seconds?_cons, Option.bind_eq_some_iff, Option.map_eq_some_iff,
        Prod.exists] at h
      obtain ⟨rest, hcolon, n, tail, hfield, k, hfraction, heq⟩ := h
      obtain ⟨rfl, rfl⟩ := Prod.mk.inj heq
      rw [after?_sound hcolon]
      obtain ⟨s, rfl, hs⟩ := field?_sound hfield
      rcases fraction?_sound hfraction with ⟨rfl, rfl⟩ | ⟨ds, rfl, hne, hd, rfl⟩
      · rw [List.append_nil]
        exact ⟨.whole hs, by decide⟩
      · exact ⟨.fraction hs hne hd, decimalValue_nineDigits_lt hd⟩

/-- **COMPLETE** for seconds. -/
theorem SecondsText.read {s : List Char} {second nanos : Nat}
    (h : SecondsText s second nanos) : seconds? s = some (second, nanos) := by
  cases h with
  | absent => rfl
  | whole hs =>
      have hfield := hs.read stopsDigits_nil
      rw [List.append_nil] at hfield
      rw [seconds?_cons, after?_cons, Option.bind_some, hfield]
      rfl
  | fraction hs hne hd =>
      rw [seconds?_cons, after?_cons, Option.bind_some, hs.read (stopsDigits_cons _ rfl),
        Option.bind_some, fraction?, if_pos ⟨hne, List.all_eq_true.mpr hd⟩, fractionNanos_eq]
      rfl

/-- Seconds begin with a colon, so that they end the minute; without any, what follows
    has to. -/
theorem SecondsText.stopsDigits_append {s : List Char} {second nanos : Nat}
    (h : SecondsText s second nanos) {rest : List Char} (hrest : StopsDigits rest) :
    StopsDigits (s ++ rest) := by
  cases h with
  | absent => exact hrest
  | whole hs => exact stopsDigits_cons _ rfl
  | fraction hs hne hd => exact stopsDigits_cons _ rfl

theorem SecondsText.isClockChar_eq {s : List Char} {second nanos : Nat}
    (h : SecondsText s second nanos) : ∀ c ∈ s, isClockChar c = true := by
  cases h with
  | absent => exact fun c hc => absurd hc List.not_mem_nil
  | whole hs => exact List.forall_mem_cons.mpr ⟨rfl, hs.isClockChar_eq⟩
  | fraction hs hne hd =>
      simp only [List.forall_mem_append, List.forall_mem_cons]
      exact ⟨rfl, hs.isClockChar_eq, rfl, fun c hc => isClockChar_of_isDigit (hd c hc)⟩

/-! ## Moments -/

namespace Timestamp

theorem of?_eq {date : Date} {hour minute second nanos : Nat} {t : Timestamp}
    (hd : t.date = date) (hh : t.hour = hour) (hm : t.minute = minute)
    (hs : t.second = second) (hn : t.nanos = nanos) :
    Timestamp.of? date hour minute second nanos = some t := by
  subst hd hh hm hs hn
  exact dif_pos ⟨t.hour_lt, t.minute_lt, t.second_lt, t.nanos_lt⟩

theorem nanos_lt_of_second_ne {t : Timestamp} (h : t.second ≠ 59) :
    t.nanos < 1000000000 := by
  have ht := t.nanos_lt
  rw [nanosLimit, if_neg h] at ht
  exact ht

/-- A clock shows 60 only within the last second of a minute. -/
theorem second_of_shownSecond {t : Timestamp} (h : t.shownSecond = 60) :
    t.second = 59 := by
  by_cases hs : t.second = 59
  · exact hs
  · have hn := nanos_lt_of_second_ne hs
    have hlt := t.second_lt
    rw [shownSecond] at h
    omega

/-- A clock that does not show 60 is within no leap second. -/
theorem nanos_lt_of_shownSecond {t : Timestamp} (h : t.shownSecond ≠ 60) :
    t.nanos < 1000000000 := by
  by_cases hs : t.second = 59
  · have hnanos := Nat.lt_of_lt_of_le t.nanos_lt (nanosLimit_le t.second)
    rw [shownSecond] at h
    omega
  · exact nanos_lt_of_second_ne hs

theorem of?_sound {date : Date} {hour minute second nanos : Nat} {t : Timestamp}
    (h : Timestamp.of? date hour minute second nanos = some t) :
    t.date = date ∧ t.hour = hour ∧ t.minute = minute ∧ t.second = second
      ∧ t.nanos = nanos := by
  simp only [Timestamp.of?] at h
  split at h
  · obtain rfl := Option.some.inj h
    exact ⟨rfl, rfl, rfl, rfl, rfl⟩
  · exact absurd h (Option.some_ne_none _).symm

end Timestamp

/-- The moment is the one at which a clock shows these fields. -/
theorem moment?_eq_some_iff {date : Date} {hour minute second nanos : Nat} {t : Timestamp}
    (hnanos : nanos < 1000000000) :
    moment? date hour minute second nanos = some t ↔
      t.date = date ∧ t.hour = hour ∧ t.minute = minute
        ∧ t.shownSecond = second ∧ t.subsecond = nanos := by
  rw [moment?]
  constructor
  · intro h
    split at h <;> obtain ⟨hd, hh, hm, hs, hn⟩ := Timestamp.of?_sound h <;>
      refine ⟨hd, hh, hm, ?_, ?_⟩ <;> simp only [Timestamp.shownSecond, Timestamp.subsecond] <;>
      omega
  · rintro ⟨hd, hh, hm, hs, hn⟩
    by_cases hleap : second = 60
    · rw [if_pos hleap]
      have hlast : t.second = 59 := Timestamp.second_of_shownSecond (hs.trans hleap)
      refine Timestamp.of?_eq hd hh hm hlast ?_
      simp only [Timestamp.shownSecond, Timestamp.subsecond] at hs hn
      omega
    · rw [if_neg hleap]
      have hlt := Timestamp.nanos_lt_of_shownSecond fun h => hleap (hs.symm.trans h)
      simp only [Timestamp.shownSecond, Timestamp.subsecond] at hs hn
      exact Timestamp.of?_eq hd hh hm (by omega) (by omega)

/-! ## Whole texts -/

/-- A date with hour and minute is read up to where the seconds may stand. -/
theorem wallClock?_clock {d h m tail : List Char} {date : Date} {hour minute : Nat}
    (hd : DateText d date) (hh : FieldText h hour) (hm : FieldText m minute)
    (htail : StopsDigits tail) :
    wallClock? (d ++ 'T' :: (h ++ ':' :: (m ++ tail)))
      = (seconds? tail).bind fun x => moment? date hour minute x.1 x.2 := by
  rw [wallClock?, hd.read (stopsDigits_cons _ rfl)]
  simp only [Option.bind_eq_bind, Option.bind_some]
  rw [if_neg (List.cons_ne_nil _ _), after?_cons]
  simp only [Option.bind_some]
  rw [hh.read (stopsDigits_cons _ rfl)]
  simp only [Option.bind_some, after?_cons]
  rw [hm.read htail]
  rfl

/-- **COMPLETE** for wall clocks. -/
theorem WallClockText.read {w : List Char} {t : Timestamp} (h : WallClockText w t) :
    wallClock? w = some t := by
  cases h with
  | mk hd hh hm hs =>
      have hstop := hs.stopsDigits_append stopsDigits_nil
      rw [List.append_nil] at hstop
      rw [wallClock?_clock hd hh hm hstop, hs.read, Option.bind_some,
        moment?_eq_some_iff (seconds?_sound hs.read).2]
      exact ⟨rfl, rfl, rfl, rfl, rfl⟩

/-- **COMPLETE** for dates on their own. -/
theorem BareDateText.read {w : List Char} {t : Timestamp} (h : BareDateText w t) :
    wallClock? w = some t := by
  cases h with
  | mk hd =>
      have hdate := hd.read stopsDigits_nil
      rw [List.append_nil] at hdate
      rw [wallClock?, hdate]
      rfl

/-- **SOUND** for whole texts. -/
theorem wallClock?_sound {cs : List Char} {t : Timestamp} (h : wallClock? cs = some t) :
    WallClockText cs t ∨ BareDateText cs t := by
  simp only [wallClock?, Option.bind_eq_bind, Option.bind_eq_some_iff, Prod.exists] at h
  obtain ⟨date, rest, hdate, h⟩ := h
  obtain ⟨d, rfl, hd⟩ := date?_sound hdate
  split at h
  · rename_i hrest
    rw [hrest, List.append_nil]
    obtain rfl := Option.some.inj h
    exact Or.inr (.mk hd)
  · simp only [Option.bind_eq_some_iff, Prod.exists] at h
    obtain ⟨cs₁, hmark, hour, cs₂, hhour, cs₃, hcolon, minute, cs₄, hminute, second, nanos,
      hseconds, hmoment⟩ := h
    obtain rfl := after?_sound hmark
    obtain ⟨x, rfl, hh⟩ := field?_sound hhour
    obtain rfl := after?_sound hcolon
    obtain ⟨y, rfl, hm⟩ := field?_sound hminute
    obtain ⟨hs, hnanos⟩ := seconds?_sound hseconds
    obtain ⟨rfl, rfl, rfl, rfl, rfl⟩ := (moment?_eq_some_iff hnanos).mp hmoment
    exact Or.inl (.mk hd hh hm hs)

/-! ## Nothing else may follow -/

/-- What cannot go on with a date or a time of day. -/
def StopsClock (c : Char) : Prop := isDigit c = false ∧ c ≠ ':' ∧ c ≠ '.' ∧ c ≠ 'T'

instance (c : Char) : Decidable (StopsClock c) := inferInstanceAs (Decidable (_ ∧ _))

theorem SecondsText.overrun {s : List Char} {second nanos : Nat}
    (h : SecondsText s second nanos) {c : Char} (hc : StopsClock c) (rest : List Char) :
    seconds? (s ++ c :: rest) = none := by
  obtain ⟨hdigit, hcolon, hpoint, -⟩ := hc
  have hstop : StopsDigits (c :: rest) := stopsDigits_cons rest hdigit
  cases h with
  | absent => rw [List.nil_append, seconds?_cons, after?_none hcolon, Option.bind_none]
  | whole hs =>
      have hfraction : fraction? (c :: rest) = none := by
        rw [fraction?]
        · exact List.cons_ne_nil c rest
        · exact fun _ h => hpoint (List.cons.inj h).1
      rw [List.cons_append, seconds?_cons, after?_cons, Option.bind_some, hs.read hstop,
        Option.bind_some, hfraction, Option.map_none]
  | @fraction s ds _ hs hne hd =>
      have hfraction : fraction? ('.' :: (ds ++ c :: rest)) = none := by
        have hno : (ds ++ c :: rest).all isDigit = false := by
          rw [List.all_append, List.all_cons, hdigit, Bool.false_and, Bool.and_false]
        rw [fraction?, hno]
        exact if_neg fun h => Bool.false_ne_true h.2
      rw [List.cons_append, List.append_assoc, List.cons_append, seconds?_cons, after?_cons,
        Option.bind_some, hs.read (stopsDigits_cons _ rfl), Option.bind_some, hfraction,
        Option.map_none]

/-- **NO TEXT GOES ON** after a date or a time of day with anything else. -/
theorem wallClock?_overrun {w : List Char} {t : Timestamp}
    (h : WallClockText w t ∨ BareDateText w t) {c : Char} (hc : StopsClock c)
    (rest : List Char) : wallClock? (w ++ c :: rest) = none := by
  have hstop : StopsDigits (c :: rest) := stopsDigits_cons rest hc.1
  rcases h with h | h
  · cases h with
    | mk hd hh hm hs =>
        simp only [List.append_assoc, List.cons_append]
        rw [wallClock?_clock hd hh hm (hs.stopsDigits_append hstop), hs.overrun hc rest,
          Option.bind_none]
  · cases h with
    | mk hd =>
        rw [wallClock?, hd.read hstop]
        simp only [Option.bind_eq_bind, Option.bind_some]
        rw [if_neg (List.cons_ne_nil c rest), after?_none hc.2.2.2]
        rfl

theorem stopsClock_of_isSign {c : Char} (h : isSign c = true) : StopsClock c := by
  rw [isSign, Bool.or_eq_true, beq_iff_eq, beq_iff_eq] at h
  rcases h with rfl | rfl <;> decide

theorem stopsClock_of_isBlank {c : Char} (h : isBlank c = true) : StopsClock c := by
  refine ⟨?_, ?_, ?_, ?_⟩
  · cases hd : isDigit c with
    | false => rfl
    | true =>
        rw [isBlank_of_isDigit hd] at h
        exact absurd h Bool.false_ne_true
  all_goals
    rintro rfl
    exact absurd h (by decide)

/-- A designator begins with a character that cannot go on with a time of day. -/
theorem designator_cons {d : List Char} (hd : ZuluText d ∨ OffsetText d) (hne : d ≠ []) :
    ∃ c rest, d = c :: rest ∧ StopsClock c := by
  rcases hd with hd | hd
  · cases hd with
    | absent => exact absurd rfl hne
    | upper => exact ⟨'Z', [], rfl, by decide⟩
    | lower => exact ⟨'z', [], rfl, by decide⟩
  · obtain ⟨sign, back, rfl, hs, -, -⟩ := hd.cons
    exact ⟨sign, back, rfl, stopsClock_of_isSign hs⟩

/-! ## Layouts with a designator -/

/-- A wall clock around its time mark: the date has none, and what follows is no sign. -/
theorem WallClockText.parts {w : List Char} {t : Timestamp} (h : WallClockText w t) :
    ∃ u v, w = u ++ 'T' :: v ∧ (∀ c ∈ u, isTimeMark c = false) ∧ v ≠ []
      ∧ ∀ c ∈ v, isClockChar c = true := by
  cases h with
  | mk hd hh hm hs =>
      refine ⟨_, _, rfl, hd.isTimeMark_eq,
        List.append_ne_nil_of_right_ne_nil _ (List.cons_ne_nil _ _), ?_⟩
      simp only [List.forall_mem_append, List.forall_mem_cons]
      exact ⟨hh.isClockChar_eq, rfl, hm.isClockChar_eq, hs.isClockChar_eq⟩

/-- The designator of a wall clock is stripped, and nothing of its own. -/
theorem WallClockText.stripZone_append {w d : List Char} {t : Timestamp}
    (h : WallClockText w t) (hd : ZuluText d ∨ OffsetText d) : stripZone (w ++ d) = w := by
  obtain ⟨u, v, rfl, hu, hne, hv⟩ := h.parts
  by_cases hnil : d = []
  · have hend := endsPlain_append hne hv (u ++ ['T'])
    rw [List.append_assoc, List.singleton_append] at hend
    rw [hnil, List.append_nil]
    refine stripZone_unsigned hu rfl ?_ hend
    exact List.forall_mem_cons.mpr ⟨rfl, fun c hc => isSign_of_isClockChar (hv c hc)⟩
  · rcases hd with hd | hd
    · exact stripZone_zulu hd hnil _
    · exact stripZone_offset hd ⟨'T', List.mem_append_right u List.mem_cons_self, rfl⟩

theorem DateText.stripZone_append {w d : List Char} {date : Date} (h : DateText w date)
    (hd : ZuluText d) : stripZone (w ++ d) = w := by
  by_cases hnil : d = []
  · rw [hnil, List.append_nil]
    exact stripZone_unmarked h.isTimeMark_eq h.endsPlain
  · exact stripZone_zulu hd hnil w

namespace Timestamp

theorem read?_eq (s : String) : read? s = wallClock? (stripZone (trim s).toList) := by
  rw [read?, readChars?, toList_trim]

/-- **WHAT NAMES A MOMENT IS READ** as that moment, and nothing else is read. -/
theorem read?_eq_some_iff (s : String) (t : Timestamp) :
    read? s = some t ↔ NamesMoment (trim s).toList t := by
  rw [read?_eq]
  constructor
  · intro h
    obtain ⟨d, hsplit, hd⟩ := stripZone_split (trim s).toList
    refine ⟨_, d, hsplit, ?_⟩
    rcases wallClock?_sound h with hw | hw
    · exact Or.inl ⟨hw, hd.imp_right And.left⟩
    · refine Or.inr ⟨hw, ?_⟩
      rcases hd with hd | ⟨-, c, hc, hmark⟩
      · exact hd
      · -- an offset was stripped after a time mark, but no date has one
        cases hw with
        | mk hdate =>
            rw [hdate.isTimeMark_eq c hc] at hmark
            exact absurd hmark Bool.false_ne_true
  · rintro ⟨w, d, hsplit, ⟨hw, hd⟩ | ⟨hw, hd⟩⟩
    · rw [hsplit, hw.stripZone_append hd, hw.read]
    · have hread := hw.read
      cases hw with
      | mk hdate => rw [hsplit, hdate.stripZone_append hd, hread]

/-- A text is refused where something that cannot go on with a layout stands between it
    and the last designator. -/
theorem read?_overrun {s : String} {w d rest : List Char} {t : Timestamp}
    (hw : WallClockText w t ∨ BareDateText w t) {c : Char} (hc : StopsClock c)
    (hd : ZuluText d ∨ OffsetText d) (hne : d ≠ [])
    (hs : (trim s).toList = w ++ c :: rest ++ d) : read? s = none := by
  rw [read?_eq, hs]
  rcases stripZone_designator hd hne (w ++ c :: rest) with hstrip | hstrip
  · rw [hstrip, wallClock?_overrun hw hc]
  · rw [hstrip, List.append_assoc, List.cons_append, wallClock?_overrun hw hc]

/-- A text is read by the grammar. -/
structure FollowsGrammar (s : String) : Prop where
  -- the texts that are read are those that name a moment, and they are read as it
  reads : ∀ t, read? s = some t ↔ NamesMoment (trim s).toList t
  -- two designators are refused
  twice : ∀ w d e t, WallClockText w t ∨ BareDateText w t →
    ZuluText d ∨ OffsetText d → d ≠ [] → ZuluText e ∨ OffsetText e → e ≠ [] →
      (trim s).toList = w ++ d ++ e → read? s = none
  -- an offset after a date is refused
  dated : ∀ w d t, BareDateText w t → OffsetText d →
    (trim s).toList = w ++ d → read? s = none
  -- blanks before a designator are refused
  spaced : ∀ w blanks d t, WallClockText w t ∨ BareDateText w t →
    blanks ≠ [] → (∀ c ∈ blanks, isBlank c = true) → ZuluText d ∨ OffsetText d → d ≠ [] →
      (trim s).toList = w ++ blanks ++ d → read? s = none

/-- **THE READER ACCEPTS ITS GRAMMAR EXACTLY**, and never applies an offset. -/
theorem read?_grammar (s : String) : FollowsGrammar s where
  reads := read?_eq_some_iff s
  twice := by
    intro w d e t hw hd hdne he hene hs
    obtain ⟨c, rest, rfl, hc⟩ := designator_cons hd hdne
    exact read?_overrun hw hc he hene hs
  dated := by
    intro w d t hw hd hs
    -- no mark stands before the offset, so that it is not even stripped
    have hstrip : stripZone (w ++ d) = w ++ d := by
      cases hw with
      | mk hdate =>
          exact stripZone_unmarked
            (List.forall_mem_append.mpr ⟨hdate.isTimeMark_eq, hd.isTimeMark_eq⟩)
            (hd.endsPlain w)
    obtain ⟨sign, back, rfl, hsign, -, -⟩ := hd.cons
    rw [read?_eq, hs, hstrip, wallClock?_overrun (Or.inr hw) (stopsClock_of_isSign hsign)]
  spaced := by
    intro w blanks d t hw hne hb hd hdne hs
    obtain ⟨c, rest, rfl⟩ := List.exists_cons_of_ne_nil hne
    exact read?_overrun hw (stopsClock_of_isBlank (hb c List.mem_cons_self)) hd hdne hs

/-- A date that only leap years have. -/
def leapDay : Date where
  year := 2028
  month := 2
  day := 29
  year_mem := by decide
  day_mem := by decide

theorem read?_grammar_leapDay :
    NamesMoment "2028-2-29z".toList (midnight leapDay)
      ∧ read? "2028-2-29Zz" = none ∧ read? "2028-2-29-0530" = none
      ∧ read? "2028-2-29 Z" = none := by
  have hdate : DateText "2028-2-29".toList leapDay := by
    obtain ⟨w, hw, h⟩ :=
      date?_sound (by decide : date? "2028-2-29".toList = some (leapDay, []))
    rw [hw, List.append_nil]
    exact h
  have hbare := BareDateText.mk hdate
  have hoffset : OffsetText "-0530".toList :=
    .compact '-' '0' '5' '3' '0' rfl (List.all_eq_true.mp rfl)
  exact ⟨((read?_grammar " 2028-2-29z ").reads _).mp (by decide),
    (read?_grammar "2028-2-29Zz").twice _ ['Z'] ['z'] _ (Or.inr hbare) (Or.inl .upper)
      (by decide) (Or.inl .lower) (by decide) (by decide),
    (read?_grammar "2028-2-29-0530").dated _ _ _ hbare hoffset (by decide),
    (read?_grammar "2028-2-29 Z").spaced _ [' '] ['Z'] _ (Or.inr hbare) (by decide)
      (List.all_eq_true.mp rfl) (Or.inl .upper) (by decide) (by decide)⟩

end Timestamp

end TaskConsole
