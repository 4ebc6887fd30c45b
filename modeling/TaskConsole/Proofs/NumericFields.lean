import TaskConsole.Proofs.NumberValues
import TaskConsole.Proofs.SilentSenders
import TaskConsole.Proofs.TaskCodec
import TaskConsole.Proofs.TaskFields

/-! # Numeric fields — ids and timeouts are exact, or cut to their range

    The id and the timeout of a task are integers of 64 bits.  A number says one by its
    value, cut toward zero and to the range (`Task.readAs_number`), and a text by the numeral
    that it is without the blanks around it, if this is in the range
    (`int64OfText?_eq_some_iff`).  So an integer in the range is the same in every spelling,
    as a number of any kind or as a text. -/

namespace TaskConsole

open Text

/-! ## Integers as texts -/

namespace Text

/-- The digits of an integer, with its sign, are a numeral. -/
theorem signed_showInt (n : Int) : Signed (showInt n).toList n := by
  cases n with
  | ofNat n => exact (natural_showNat n).signed
  | negSucc n =>
      rw [showInt, String.toList_ofList]
      have hminus := Signed.minus (decimal_ne_nil (n + 1)) isDigit_of_mem_decimal
      rwa [decimalValue_decimal] at hminus

theorem isTidy_showInt (n : Int) : IsTidy (showInt n) := by
  cases n with
  | ofNat n => exact isTidy_showNat n
  | negSucc n =>
      have htext : (showInt (.negSucc n)).toList = '-' :: decimal (n + 1) :=
        String.toList_ofList
      refine isTidy_of_forall ?_ ?_
      · intro h
        rw [h] at htext
        exact absurd htext (List.cons_ne_nil _ _).symm
      · intro c hc
        rw [htext] at hc
        rcases List.mem_cons.mp hc with rfl | hdigit
        · rfl
        · exact isBlank_of_isDigit (isDigit_of_mem_decimal c hdigit)

end Text

/-- **A TEXT** has an integer of 64 bits exactly if that is the numeral which is left of it. -/
theorem int64OfText?_eq_some_iff {s : String} {k : Int64} :
    int64OfText? s = some k ↔ ∃ mid, Trims s.toList mid ∧ Signed mid k.toInt := by
  rw [int64OfText?, Option.map_eq_some_iff]
  constructor
  · rintro ⟨n, hn, rfl⟩
    obtain ⟨hn, hrange⟩ := Option.filter_eq_some_iff.mp hn
    obtain ⟨hlow, hhigh⟩ := of_decide_eq_true hrange
    simp only [leastInt64, greatestInt64] at hlow hhigh
    refine ⟨_, trims_trimChars _, ?_⟩
    rw [Int64.toInt_ofInt_of_le (by omega) (by omega)]
    exact integer?_eq_some_iff.mp hn
  · rintro ⟨mid, hmid, hk⟩
    have hlow := k.le_toInt
    have hhigh := k.toInt_lt
    refine ⟨k.toInt, Option.filter_eq_some_iff.mpr ⟨?_, ?_⟩, Int64.ofInt_toInt k⟩
    · rw [trimChars_eq_iff.mpr hmid]
      exact integer?_eq_some_iff.mpr hk
    · apply decide_eq_true
      simp only [leastInt64, greatestInt64]
      omega

/-! ## Integers cut to 64 bits -/

theorem toInt_clampInt64 (n : Int) :
    (clampInt64 n).toInt = max leastInt64 (min n greatestInt64) := by
  rw [clampInt64, Int64.toInt_ofInt_of_le]
  · simp only [leastInt64]
    omega
  · simp only [leastInt64, greatestInt64]
    omega

/-- An integer of 64 bits is not cut. -/
theorem clampInt64_toInt (n : Int64) : clampInt64 n.toInt = n := by
  rw [clampInt64_of_mem n.le_toInt (Int.le_of_lt_add_one n.toInt_lt), Int64.ofInt_toInt]

theorem clampInt64_mono {m n : Int} (h : m ≤ n) : clampInt64 m ≤ clampInt64 n := by
  rw [Int64.le_iff_toInt_le, toInt_clampInt64, toInt_clampInt64]
  omega

/-! ## The fields -/

namespace Task

open Json (Members lookup)

/-- A value is read as an integer, or as none: it is the id of every task that has the value
    under its key, and the timeout, which is zero without one. -/
def ReadAs (v : Json) (n : Option Int64) : Prop :=
  ∀ ms : Members, ∃ task, ofJson? (.object ms) = some task
    ∧ (lookup "id" ms = some v → task.id = n)
    ∧ (lookup "timeout" ms = some v → task.timeout = n.getD 0)

theorem readAs_iff {v : Json} {n : Option Int64} : ReadAs v n ↔ v.int64? = n := by
  constructor
  · intro h
    obtain ⟨task, htask, hid, -⟩ := h [("id", v)]
    cases htask
    exact hid rfl
  · rintro rfl ms
    refine ⟨ofMembers ms, rfl, fun hid => ?_, fun htimeout => ?_⟩
    · show (lookup "id" ms).bind _ = _
      rw [hid, Option.bind_some]
    · show ((lookup "timeout" ms).bind _).getD 0 = _
      rw [htimeout, Option.bind_some]

/-- **A NUMBER** is read by its value alone. -/
theorem readAs_number {n : Json.Number} {k : Option Int64} :
    ReadAs (.number n) k ↔ some (clampInt64 (wholePart n.value)) = k := by
  rw [readAs_iff, Json.int64?, n.int64?_eq, n.truncate_eq]

/-- **IDS AND TIMEOUTS NEVER WRAP.** -/
theorem integers_never_wrap :
    -- a number is read as its value, cut toward zero and then to the range of 64 bits
    (∀ n : Json.Number, ∃ k, ReadAs (.number n) (some k)
      ∧ k.toInt = max leastInt64 (min (wholePart n.value) greatestInt64))
    -- so the greater number is never read as the smaller integer
    ∧ (∀ (m n : Json.Number) (j k : Int64), ReadAs (.number m) (some j) →
      ReadAs (.number n) (some k) → m.value ≤ n.value → j ≤ k)
    -- and every integer in the range is read as it is, of whatever kind the number is
    ∧ (∀ (n : Json.Number) (k : Int64), n.value = k.toInt → ReadAs (.number n) (some k))
    -- though a number that is no integer of 64 bits is rounded to a binary one on the way
    ∧ (∀ n : Json.Number, n.signed? = none →
      ∃ x k, n.nearest? = some x ∧ ReadAs (.number n) (some k)
        ∧ k.toInt = max leastInt64 (min (wholePart x.value) greatestInt64))
    -- a text is read as the numeral that it is without the blanks around it
    ∧ (∀ (s : String) (k : Int64), ReadAs (.string s) (some k) ↔
      ∃ mid, Trims s.toList mid ∧ Signed mid k.toInt)
    -- and as none if it is no numeral, or one out of the range
    ∧ (∀ s : String, ReadAs (.string s) none ↔ ∀ mid n, Trims s.toList mid → Signed mid n →
      n < leastInt64 ∨ greatestInt64 < n)
    -- so an integer and its text are read alike, whatever blanks are around the text
    ∧ ∀ (k : Int64) (left right : String), isBlankText left = true → isBlankText right = true →
      ReadAs (.ofInt k) (some k)
        ∧ ReadAs (.string (left ++ showInt k.toInt ++ right)) (some k) := by
  refine ⟨?_, ?_, ?_, ?_, ?_, ?_, ?_⟩
  · intro n
    exact ⟨_, readAs_number.mpr rfl, toInt_clampInt64 _⟩
  · intro m n j k hj hk hle
    cases readAs_number.mp hj
    cases readAs_number.mp hk
    exact clampInt64_mono (wholePart_mono hle)
  · intro n k hn
    rw [readAs_number, hn, wholePart_intCast, clampInt64_toInt]
  · intro n hsigned
    have hread := n.int64?_eq
    rw [Json.Number.int64?, hsigned] at hread
    obtain ⟨x, hx, hclamp⟩ := Option.map_eq_some_iff.mp hread
    refine ⟨x, clampInt64 x.truncate, hx, ?_, ?_⟩
    · rw [hclamp, readAs_number, n.truncate_eq]
    · rw [toInt_clampInt64, x.truncate_eq]
  · exact fun s k => readAs_iff.trans int64OfText?_eq_some_iff
  · exact fun s => readAs_iff.trans int64OfText?_eq_none_iff
  · intro k left right hleft hright
    have htext : int64OfText? (left ++ showInt k.toInt ++ right) = some k :=
      int64OfText?_eq_some_iff.mpr
        ⟨_, (isTidy_showInt k.toInt).trims hleft hright, signed_showInt k.toInt⟩
    exact ⟨readAs_iff.mpr (int64?_ofInt k), readAs_iff.mpr htext⟩

/-- One and a half below zero. -/
def threeHalvesBelow : Binary64 := ⟨true, 3, -1, by decide, by decide⟩

/-- Six, as a binary number. -/
def binarySix : Binary64 := ⟨false, 3, 1, by decide, by decide⟩

/-- The greatest integer of 64 bits without a sign. -/
def greatestUnsigned : Json.Number := .integer 18446744073709551615 (by decide)

/-- A binary number is no greater than that integer, of which rounding makes one of 65 bits,
    and nor is what they are read as; a text with blanks around it is read as well. -/
theorem integers_never_wrap_mixed :
    ReadAs (.number (.binary threeHalvesBelow)) (some (-1))
      ∧ ReadAs (.number greatestUnsigned) (some Int64.maxValue)
      ∧ (-1 : Int64) ≤ Int64.maxValue
      ∧ (∃ x, greatestUnsigned.nearest? = some x ∧ x.truncate = 18446744073709551616)
      ∧ ReadAs (.number (.binary binarySix)) (some 6)
      ∧ ReadAs (.string ("\t" ++ showInt (-7 : Int64).toInt ++ "\u3000")) (some (-7))
      ∧ ReadAs (.string "\t-07\u3000") (some (-7)) := by
  obtain ⟨-, hmono, hexact, hrounded, htext, -, halike⟩ := integers_never_wrap
  have hbelow : ReadAs (.number (.binary threeHalvesBelow)) (some (-1)) :=
    readAs_iff.mpr (by decide +kernel)
  have hgreatest : ReadAs (.number greatestUnsigned) (some Int64.maxValue) :=
    readAs_iff.mpr (by decide +kernel)
  have hle : (Json.Number.binary threeHalvesBelow).value ≤ greatestUnsigned.value := by
    norm_num [Json.Number.value, Binary64.value, Binary64.magnitude, threeHalvesBelow,
      greatestUnsigned]
  -- it has no sign, so it is rounded, to the power of two above it
  obtain ⟨x, k, hx, -, -⟩ := hrounded greatestUnsigned (by decide +kernel)
  have htruncate : greatestUnsigned.nearest?.map (·.truncate) = some 18446744073709551616 := by
    decide +kernel
  rw [hx] at htruncate
  have hsix : (Json.Number.binary binarySix).value = (6 : Int64).toInt := by
    rw [show (6 : Int64).toInt = 6 from rfl]
    norm_num [Json.Number.value, Binary64.value, Binary64.magnitude, binarySix]
  refine ⟨hbelow, hgreatest, hmono _ _ _ _ hbelow hgreatest hle,
    ⟨x, hx, Option.some.inj htruncate⟩, hexact _ 6 hsix,
    (halike (-7) "\t" "\u3000" (by decide) (by decide)).2, ?_⟩
  refine (htext _ _).mpr ⟨['-', '0', '7'], trimChars_eq_iff.mp (by decide +kernel), ?_⟩
  exact .minus (List.cons_ne_nil _ _) (List.all_eq_true.mp rfl)

end Task

end TaskConsole
