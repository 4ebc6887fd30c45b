import TaskConsole.Proofs.Numerals

/-! # Zone designators — one is stripped, in full, and nothing else

    A designator is a `Z` in either case, or an OFFSET: a sign before four digits, with
    a colon between hours and minutes or without.

    * What is stripped from a text is nothing or a designator, and an offset only
      where a time mark stands before it (`stripZone_split`).
    * A designator at the end of a text is stripped, with one exception: an offset that
      no time mark stands before (`stripZone_zulu`, `stripZone_offset`).
    * Nothing is stripped from a date, whose dashes no time mark stands before, nor from
      a time of day without a sign (`stripZone_unmarked`, `stripZone_unsigned`). -/

namespace TaskConsole

open Text

/-- Universal time: left out, or written as one letter. -/
inductive ZuluText : List Char → Prop where
  | absent : ZuluText []
  | upper : ZuluText ['Z']
  | lower : ZuluText ['z']

/-- An offset from universal time: a sign, and the digits of hours and minutes. -/
inductive OffsetText : List Char → Prop where
  | compact (sign a b c d : Char) : isSign sign = true →
      (∀ x ∈ [a, b, c, d], isDigit x = true) → OffsetText [sign, a, b, c, d]
  | colon (sign a b c d : Char) : isSign sign = true →
      (∀ x ∈ [a, b, c, d], isDigit x = true) → OffsetText [sign, a, b, ':', c, d]

/-- The text does not end with the letter of universal time. -/
def EndsPlain (cs : List Char) : Prop := ∀ c ∈ cs.getLast?, c ≠ 'Z' ∧ c ≠ 'z'

/-! ## Characters -/

/-- The characters of a time of day: digits, the marks between them, and blanks. -/
def isClockChar (c : Char) : Bool := isDigit c || isBlank c || c == ':' || c == '.'

theorem isClockChar_of_isDigit {c : Char} (h : isDigit c = true) : isClockChar c = true := by
  rw [isClockChar, h]
  rfl

theorem isClockChar_of_isBlank {c : Char} (h : isBlank c = true) : isClockChar c = true := by
  rw [isClockChar, h, Bool.or_true]
  rfl

theorem isSign_of_isClockChar {c : Char} (h : isClockChar c = true) : isSign c = false := by
  cases hs : isSign c with
  | false => rfl
  | true =>
      rw [isSign, Bool.or_eq_true, beq_iff_eq, beq_iff_eq] at hs
      rcases hs with rfl | rfl <;> exact absurd h (by decide)

theorem isTimeMark_of_isClockChar {c : Char} (h : isClockChar c = true) :
    isTimeMark c = false := by
  cases hm : isTimeMark c with
  | false => rfl
  | true =>
      rw [isTimeMark, Bool.or_eq_true, beq_iff_eq, beq_iff_eq] at hm
      rcases hm with rfl | rfl <;> exact absurd h (by decide)

theorem isTimeMark_of_isSign {c : Char} (h : isSign c = true) : isTimeMark c = false := by
  rw [isSign, Bool.or_eq_true, beq_iff_eq, beq_iff_eq] at h
  rcases h with rfl | rfl <;> rfl

/-- A text that ends like a time of day. -/
theorem endsPlain_append {v : List Char} (hne : v ≠ [])
    (hv : ∀ c ∈ v, isClockChar c = true) (u : List Char) : EndsPlain (u ++ v) := by
  intro c hc
  rw [List.getLast?_append, List.getLast?_eq_some_getLast hne, Option.some_or] at hc
  have hclock := hv c (List.mem_of_getLast? (hc ▸ List.getLast?_eq_some_getLast hne))
  refine ⟨?_, ?_⟩
  · rintro rfl
    exact absurd hclock (by decide)
  · rintro rfl
    exact absurd hclock (by decide)

/-! ## Offsets -/

namespace OffsetText

variable {d : List Char}

/-- A sign, and then what could stand in a time of day. -/
theorem cons (h : OffsetText d) : ∃ sign back, d = sign :: back ∧ isSign sign = true
    ∧ back ≠ [] ∧ ∀ c ∈ back, isClockChar c = true := by
  cases h with
  | compact sign a b c d hs hd =>
      exact ⟨sign, _, rfl, hs, List.cons_ne_nil _ _,
        fun x hx => isClockChar_of_isDigit (hd x hx)⟩
  | colon sign a b c d hs hd =>
      refine ⟨sign, _, rfl, hs, List.cons_ne_nil _ _, ?_⟩
      simp only [List.forall_mem_cons] at hd ⊢
      obtain ⟨ha, hb, hc, hd, hnil⟩ := hd
      exact ⟨isClockChar_of_isDigit ha, isClockChar_of_isDigit hb, rfl,
        isClockChar_of_isDigit hc, isClockChar_of_isDigit hd,
        fun x hx => absurd hx List.not_mem_nil⟩

theorem endsPlain (h : OffsetText d) (u : List Char) : EndsPlain (u ++ d) := by
  obtain ⟨sign, back, rfl, -, hne, hback⟩ := h.cons
  rw [List.append_cons]
  exact endsPlain_append hne hback _

/-- No time mark stands in an offset. -/
theorem isTimeMark_eq (h : OffsetText d) : ∀ c ∈ d, isTimeMark c = false := by
  obtain ⟨sign, back, rfl, hs, -, hback⟩ := h.cons
  exact List.forall_mem_cons.mpr ⟨isTimeMark_of_isSign hs,
    fun c hc => isTimeMark_of_isClockChar (hback c hc)⟩

/-- What is taken for an offset after a sign is one. -/
theorem iff_isOffset {sign : Char} (hs : isSign sign = true) (back : List Char) :
    OffsetText (sign :: back) ↔ isOffset back = true := by
  constructor
  · intro h
    cases h with
    | compact _ a b c d _ hd => simp [isOffset, hd]
    | colon _ a b c d _ hd => simp [isOffset, hd]
  · intro h
    simp only [isOffset] at h
    split at h
    · rename_i a b c d
      simp only [Bool.and_eq_true] at h
      exact .colon sign a b c d hs (by simp [h])
    · rename_i a b c d
      simp only [Bool.and_eq_true] at h
      exact .compact sign a b c d hs (by simp [h])
    · exact absurd h Bool.false_ne_true

end OffsetText

/-! ## Cutting a text -/

section Cut

variable {q : Char → Bool}

/-- A text is without such a character, or stands around the first one. -/
theorem none_or_first (q : Char → Bool) (cs : List Char) :
    (∀ c ∈ cs, q c = false)
      ∨ ∃ u m v, cs = u ++ m :: v ∧ (∀ c ∈ u, q c = false) ∧ q m = true := by
  induction cs with
  | nil => exact Or.inl fun c hc => absurd hc List.not_mem_nil
  | cons c cs ih =>
      cases hc : q c with
      | true => exact Or.inr ⟨[], c, cs, rfl, fun x hx => absurd hx List.not_mem_nil, hc⟩
      | false =>
          rcases ih with hno | ⟨u, m, v, rfl, hu, hm⟩
          · exact Or.inl (List.forall_mem_cons.mpr ⟨hc, hno⟩)
          · exact Or.inr ⟨c :: u, m, v, rfl, List.forall_mem_cons.mpr ⟨hc, hu⟩, hm⟩

/-- A text is without such a character, or stands around the last one. -/
theorem none_or_last (q : Char → Bool) (cs : List Char) :
    (∀ c ∈ cs, q c = false)
      ∨ ∃ u m v, cs = u ++ m :: v ∧ q m = true ∧ ∀ c ∈ v, q c = false := by
  rcases none_or_first q cs.reverse with hno | ⟨v, m, u, hcs, hv, hm⟩
  · exact Or.inl fun c hc => hno c (List.mem_reverse.mpr hc)
  · -- the first one from the right is the last one
    refine Or.inr ⟨u.reverse, m, v.reverse, ?_, hm,
      fun c hc => hv c (List.mem_reverse.mp hc)⟩
    rw [← List.reverse_reverse cs, hcs, List.reverse_append, List.reverse_cons,
      List.append_assoc, List.singleton_append]

theorem cut_none {cs : List Char} (h : ∀ c ∈ cs, q c = false) :
    cs.takeWhile (fun c => !q c) = cs ∧ cs.dropWhile (fun c => !q c) = [] := by
  induction cs with
  | nil => exact ⟨rfl, rfl⟩
  | cons c cs ih =>
      obtain ⟨hc, hcs⟩ := List.forall_mem_cons.mp h
      obtain ⟨htake, hdrop⟩ := ih hcs
      rw [List.takeWhile_cons, List.dropWhile_cons, hc, htake, hdrop]
      exact ⟨rfl, rfl⟩

theorem cut_first {u : List Char} (hu : ∀ c ∈ u, q c = false) {m : Char} (hm : q m = true)
    (v : List Char) : (u ++ m :: v).takeWhile (fun c => !q c) = u
      ∧ (u ++ m :: v).dropWhile (fun c => !q c) = m :: v := by
  induction u with
  | nil =>
      rw [List.nil_append, List.takeWhile_cons, List.dropWhile_cons, hm]
      exact ⟨rfl, rfl⟩
  | cons c u ih =>
      obtain ⟨hc, hcs⟩ := List.forall_mem_cons.mp hu
      obtain ⟨htake, hdrop⟩ := ih hcs
      rw [List.cons_append, List.takeWhile_cons, List.dropWhile_cons, hc, htake, hdrop]
      exact ⟨rfl, rfl⟩

end Cut

/-! ## What stands after the time mark -/

/-- A text is cut at a sign that no other one follows. -/
theorem splitAtLastSign_append {sign : Char} (hs : isSign sign = true)
    (front : List Char) {back : List Char} (hb : ∀ c ∈ back, isSign c = false) :
    splitAtLastSign (front ++ sign :: back) = some (front, back) := by
  have hrev : (front ++ sign :: back).reverse = back.reverse ++ sign :: front.reverse := by
    rw [List.reverse_append, List.reverse_cons, List.append_assoc, List.singleton_append]
  obtain ⟨htake, hdrop⟩ := cut_first (fun c hc => hb c (List.mem_reverse.mp hc)) hs
    front.reverse
  rw [splitAtLastSign, hrev, htake, hdrop]
  simp only [List.reverse_reverse]

/-- A time of day without a sign has no offset. -/
theorem stripOffset_unsigned {cs : List Char} (h : ∀ c ∈ cs, isSign c = false) :
    stripOffset cs = cs := by
  have hdrop := (cut_none (fun c hc => h c (List.mem_reverse.mp hc))).2
  rw [stripOffset, splitAtLastSign, hdrop]

/-- With a sign, the last one decides. -/
theorem stripOffset_signed {sign : Char} (hs : isSign sign = true) (front : List Char)
    {back : List Char} (hb : ∀ c ∈ back, isSign c = false) :
    stripOffset (front ++ sign :: back)
      = if isOffset back then front else front ++ sign :: back := by
  rw [stripOffset, splitAtLastSign_append hs front hb]

/-- An offset at the end is stripped. -/
theorem stripOffset_append {d : List Char} (h : OffsetText d) (u : List Char) :
    stripOffset (u ++ d) = u := by
  obtain ⟨sign, back, rfl, hs, -, hback⟩ := h.cons
  have hb : ∀ c ∈ back, isSign c = false := fun c hc => isSign_of_isClockChar (hback c hc)
  rw [stripOffset_signed hs u hb, if_pos ((OffsetText.iff_isOffset hs back).mp h)]

/-- Nothing but an offset is stripped. -/
theorem stripOffset_split (cs : List Char) :
    ∃ d, cs = stripOffset cs ++ d ∧ (d = [] ∨ OffsetText d) := by
  rcases none_or_last isSign cs with hno | ⟨front, sign, back, rfl, hs, hb⟩
  · exact ⟨[], by rw [stripOffset_unsigned hno, List.append_nil], Or.inl rfl⟩
  · rw [stripOffset_signed hs front hb]
    cases hoff : isOffset back with
    | false => exact ⟨[], (List.append_nil _).symm, Or.inl rfl⟩
    | true => exact ⟨_, rfl, Or.inr ((OffsetText.iff_isOffset hs _).mpr hoff)⟩

/-! ## The whole text -/

theorem stripZone_zulu {d : List Char} (hd : ZuluText d) (hne : d ≠ []) (u : List Char) :
    stripZone (u ++ d) = u := by
  cases hd with
  | absent => exact absurd rfl hne
  | upper =>
      rw [stripZone, List.reverse_append]
      exact List.reverse_reverse u
  | lower =>
      rw [stripZone, List.reverse_append]
      exact List.reverse_reverse u

/-- Without a final letter, only what stands from the first time mark on is looked at. -/
theorem stripZone_plain {cs : List Char} (h : EndsPlain cs) :
    stripZone cs = cs.takeWhile (fun c => !isTimeMark c)
      ++ stripOffset (cs.dropWhile fun c => !isTimeMark c) := by
  rw [stripZone]
  split
  · rename_i front heq
    rw [List.reverse_eq_cons_iff] at heq
    exact absurd rfl (h 'Z' (by rw [heq, List.getLast?_concat]; rfl)).1
  · rename_i front heq
    rw [List.reverse_eq_cons_iff] at heq
    exact absurd rfl (h 'z' (by rw [heq, List.getLast?_concat]; rfl)).2
  · rfl

theorem stripZone_marked {u v : List Char} {m : Char} (hu : ∀ c ∈ u, isTimeMark c = false)
    (hm : isTimeMark m = true) (h : EndsPlain (u ++ m :: v)) :
    stripZone (u ++ m :: v) = u ++ stripOffset (m :: v) := by
  obtain ⟨htake, hdrop⟩ := cut_first hu hm v
  rw [stripZone_plain h, htake, hdrop]

/-- A text without a time mark is taken for a date, and keeps its dashes. -/
theorem stripZone_unmarked {cs : List Char} (hm : ∀ c ∈ cs, isTimeMark c = false)
    (h : EndsPlain cs) : stripZone cs = cs := by
  obtain ⟨htake, hdrop⟩ := cut_none hm
  rw [stripZone_plain h, htake, hdrop]
  exact List.append_nil cs

/-- Nothing is stripped from a time of day without a sign. -/
theorem stripZone_unsigned {u v : List Char} {m : Char} (hu : ∀ c ∈ u, isTimeMark c = false)
    (hm : isTimeMark m = true) (hv : ∀ c ∈ m :: v, isSign c = false)
    (h : EndsPlain (u ++ m :: v)) : stripZone (u ++ m :: v) = u ++ m :: v := by
  rw [stripZone_marked hu hm h, stripOffset_unsigned hv]

/-- An offset after a time mark is stripped, whatever stands between them. -/
theorem stripZone_offset {d : List Char} (hd : OffsetText d) {u : List Char}
    (hu : ∃ c ∈ u, isTimeMark c = true) : stripZone (u ++ d) = u := by
  rcases none_or_first isTimeMark u with hno | ⟨u, m, v, rfl, hno, hm⟩
  · obtain ⟨c, hc, hmark⟩ := hu
    rw [hno c hc] at hmark
    exact absurd hmark Bool.false_ne_true
  · have hplain := hd.endsPlain (u ++ m :: v)
    rw [List.append_assoc, List.cons_append] at hplain ⊢
    rw [stripZone_marked hno hm hplain, ← List.cons_append, stripOffset_append hd]

/-- A text ends with the letter of universal time, or does not. -/
theorem endsPlain_or_zulu (cs : List Char) :
    EndsPlain cs ∨ ∃ u d, cs = u ++ d ∧ ZuluText d ∧ d ≠ [] := by
  by_cases hupper : cs.getLast? = some 'Z'
  · obtain ⟨u, rfl⟩ := List.getLast?_eq_some_iff.mp hupper
    exact Or.inr ⟨u, ['Z'], rfl, .upper, List.cons_ne_nil _ _⟩
  · by_cases hlower : cs.getLast? = some 'z'
    · obtain ⟨u, rfl⟩ := List.getLast?_eq_some_iff.mp hlower
      exact Or.inr ⟨u, ['z'], rfl, .lower, List.cons_ne_nil _ _⟩
    · refine Or.inl fun c hc => ⟨?_, ?_⟩
      · rintro rfl
        exact hupper hc
      · rintro rfl
        exact hlower hc

/-- **WHAT IS STRIPPED** is nothing, the letter of universal time, or an offset that
    a time mark stands before. -/
theorem stripZone_split (cs : List Char) :
    ∃ d, cs = stripZone cs ++ d
      ∧ (ZuluText d ∨ OffsetText d ∧ ∃ c ∈ stripZone cs, isTimeMark c = true) := by
  rcases endsPlain_or_zulu cs with hplain | ⟨u, d, rfl, hd, hne⟩
  · rcases none_or_first isTimeMark cs with hno | ⟨u, m, v, rfl, hno, hm⟩
    · exact ⟨[], by rw [stripZone_unmarked hno hplain, List.append_nil], Or.inl .absent⟩
    · rw [stripZone_marked hno hm hplain]
      obtain ⟨d, hv, rfl | hd⟩ := stripOffset_split (m :: v)
      · exact ⟨[], by rw [List.append_assoc, ← hv], Or.inl .absent⟩
      · refine ⟨d, by rw [List.append_assoc, ← hv], Or.inr ⟨hd, m, ?_, hm⟩⟩
        -- the mark is no part of the offset, and so it is kept
        rcases List.mem_append.mp (hv ▸ List.mem_cons_self : m ∈ _ ++ d) with hkept | hin
        · exact List.mem_append_right u hkept
        · rw [hd.isTimeMark_eq m hin] at hm
          exact absurd hm Bool.false_ne_true
  · exact ⟨d, by rw [stripZone_zulu hd hne], Or.inl hd⟩

/-- A designator that ends a text is stripped alone, if at all. -/
theorem stripZone_designator {d : List Char} (hd : ZuluText d ∨ OffsetText d)
    (hne : d ≠ []) (u : List Char) : stripZone (u ++ d) = u ∨ stripZone (u ++ d) = u ++ d := by
  rcases hd with hd | hd
  · exact Or.inl (stripZone_zulu hd hne u)
  · by_cases hu : ∃ c ∈ u, isTimeMark c = true
    · exact Or.inl (stripZone_offset hd hu)
    · refine Or.inr (stripZone_unmarked ?_ (hd.endsPlain u))
      intro c hc
      rcases List.mem_append.mp hc with hc | hc
      · exact Bool.eq_false_iff.mpr fun hm => hu ⟨c, hc, hm⟩
      · exact hd.isTimeMark_eq c hc

end TaskConsole
