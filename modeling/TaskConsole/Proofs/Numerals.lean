import Mathlib.Data.List.Induction
import TaskConsole.Text.Blank
import TaskConsole.Text.Numeral
import TaskConsole.Time.Reader

/-! # Numerals — digits that are written are read back

    A number is written as a run of digits, plain or filled up with zeros, and a run
    of digits is read as long as it lasts.  So what was written is read back
    whenever what follows does not begin with a digit, which is how numbers stand
    in dates and times of day. -/

namespace TaskConsole.Text

/-! ## Runs of characters -/

section Runs

variable {p : Char → Bool} {cs after : List Char} (h : ∀ c ∈ cs, p c = true)
  (hafter : ∀ c ∈ after.head?, p c = false)

include h hafter

/-- A run of characters of one kind ends before the first one of another kind. -/
theorem takeWhile_run : (cs ++ after).takeWhile p = cs := by
  rw [List.takeWhile_append_of_pos h]
  cases after with
  | nil => exact List.append_nil cs
  | cons c rest =>
      have hc : ¬ p c = true := by
        rw [hafter c rfl]
        exact Bool.false_ne_true
      rw [List.takeWhile_cons_of_neg hc, List.append_nil]

theorem dropWhile_run : (cs ++ after).dropWhile p = after := by
  have hall := List.takeWhile_append_dropWhile (p := p) (l := cs ++ after)
  rw [takeWhile_run h hafter] at hall
  exact List.append_cancel_left hall

end Runs

/-! ## Digits -/

theorem isDigit_digitChar : ∀ d < 10, isDigit (Nat.digitChar d) = true := by decide

theorem digitValue_digitChar : ∀ d < 10, digitValue (Nat.digitChar d) = d := by decide

/-- A digit lies between `0` and `9`. -/
theorem isDigit_iff (c : Char) : isDigit c = true ↔ 48 ≤ c.toNat ∧ c.toNat ≤ 57 := by
  rw [isDigit, Bool.and_eq_true, decide_eq_true_iff, decide_eq_true_iff]
  rfl

/-- No digit is blank. -/
theorem isBlank_of_isDigit {c : Char} (h : isDigit c = true) : isBlank c = false := by
  rw [isDigit_iff] at h
  simp only [isBlank, blankRanges, List.any_cons, List.any_nil, Bool.or_false,
    Bool.or_eq_false_iff, Bool.and_eq_false_iff, decide_eq_false_iff_not]
  omega

theorem decimalValue_concat (cs : List Char) (c : Char) :
    decimalValue (cs ++ [c]) = 10 * decimalValue cs + digitValue c := by
  rw [decimalValue, List.foldl_append]
  rfl

/-- Zeros in front do not count. -/
theorem decimalValue_zeros (k : Nat) (cs : List Char) :
    decimalValue (List.replicate k '0' ++ cs) = decimalValue cs := by
  induction k with
  | zero => rfl
  | succ k ih => exact ih

/-- Zeros at the end multiply by ten. -/
theorem decimalValue_append_zeros (ds : List Char) (k : Nat) :
    decimalValue (ds ++ List.replicate k '0') = decimalValue ds * Nat.pow 10 k := by
  induction k with
  | zero =>
      rw [List.replicate_zero, List.append_nil]
      exact (Nat.mul_one _).symm
  | succ k ih =>
      have hpow : Nat.pow 10 (k + 1) = Nat.pow 10 k * 10 := rfl
      have hzero : digitValue '0' = 0 := rfl
      rw [List.replicate_succ', ← List.append_assoc, decimalValue_concat, ih, hpow, hzero,
        Nat.add_zero, Nat.mul_comm 10, Nat.mul_assoc]

/-- Digits denote a number that has no more of them. -/
theorem decimalValue_lt {ds : List Char} (hd : ∀ c ∈ ds, isDigit c = true) :
    decimalValue ds < Nat.pow 10 ds.length := by
  induction ds using List.reverseRecOn with
  | nil => decide
  | append_singleton ds c ih =>
      have hds := ih fun x hx => hd x (List.mem_append_left _ hx)
      have hc := (isDigit_iff c).mp (hd c List.mem_concat_self)
      have hpow : Nat.pow 10 (ds.length + 1) = Nat.pow 10 ds.length * 10 := rfl
      have hvalue : digitValue c < 10 := by
        show c.toNat - 48 < 10
        omega
      rw [decimalValue_concat, List.length_append, List.length_singleton, hpow]
      omega

/-! ## Plain numerals -/

theorem decimal_lt {n : Nat} (h : n < 10) : decimal n = [n.digitChar] := by
  rw [decimal]
  exact if_pos h

theorem decimal_ge {n : Nat} (h : ¬ n < 10) :
    decimal n = decimal (n / 10) ++ [(n % 10).digitChar] := by
  rw [decimal]
  exact if_neg h

/-- The digits of a number denote it. -/
theorem decimalValue_decimal (n : Nat) : decimalValue (decimal n) = n := by
  induction n using decimal.induct with
  | case1 n hn =>
      rw [decimal_lt hn]
      show 10 * 0 + digitValue n.digitChar = n
      rw [digitValue_digitChar n hn]
      omega
  | case2 n hn ih =>
      rw [decimal_ge hn, decimalValue_concat, ih, digitValue_digitChar _ (by omega)]
      omega

theorem isDigit_of_mem_decimal {n : Nat} : ∀ c ∈ decimal n, isDigit c = true := by
  induction n using decimal.induct with
  | case1 n hn =>
      intro c hc
      rw [decimal_lt hn, List.mem_singleton] at hc
      exact hc ▸ isDigit_digitChar n hn
  | case2 n hn ih =>
      intro c hc
      rw [decimal_ge hn, List.mem_append, List.mem_singleton] at hc
      rcases hc with hc | rfl
      · exact ih c hc
      · exact isDigit_digitChar _ (by omega)

theorem decimal_ne_nil (n : Nat) : decimal n ≠ [] := by
  by_cases hn : n < 10
  · rw [decimal_lt hn]
    exact List.cons_ne_nil _ _
  · rw [decimal_ge hn]
    exact List.concat_ne_nil _ _

/-- A number below a power of ten has no more digits than its exponent. -/
theorem length_decimal_le {n : Nat} : ∀ {k : Nat}, n < Nat.pow 10 (k + 1) →
    (decimal n).length ≤ k + 1 := by
  induction n using decimal.induct with
  | case1 n hn =>
      intro k _
      rw [decimal_lt hn]
      exact Nat.le_add_left 1 k
  | case2 n hn ih =>
      intro k hk
      cases k with
      | zero => exact absurd hk hn
      | succ k =>
          rw [decimal_ge hn, List.length_append, List.length_singleton]
          have hdiv : n / 10 < Nat.pow 10 (k + 1) := by
            have hpow : Nat.pow 10 (k + 1 + 1) = Nat.pow 10 (k + 1) * 10 := rfl
            rw [hpow] at hk
            omega
          exact Nat.succ_le_succ (ih hdiv)

/-! ## Numerals of a width -/

theorem decimalValue_padded (width n : Nat) : decimalValue (padded width n) = n := by
  rw [padded, decimalValue_zeros, decimalValue_decimal]

theorem isDigit_of_mem_padded {width n : Nat} : ∀ c ∈ padded width n, isDigit c = true := by
  intro c hc
  rw [padded, List.mem_append] at hc
  rcases hc with hc | hc
  · rw [(List.mem_replicate.mp hc).2]
    rfl
  · exact isDigit_of_mem_decimal c hc

theorem padded_ne_nil (width n : Nat) : padded width n ≠ [] := by
  rw [padded]
  exact List.append_ne_nil_of_right_ne_nil _ (decimal_ne_nil n)

/-- A numeral begins with a digit. -/
theorem exists_padded_eq_cons (width n : Nat) :
    ∃ c cs, padded width n = c :: cs ∧ isDigit c = true := by
  obtain ⟨c, cs, hc⟩ := List.exists_cons_of_ne_nil (padded_ne_nil width n)
  exact ⟨c, cs, hc, isDigit_of_mem_padded c (hc.symm ▸ List.mem_cons_self)⟩

/-- A number that fits a width fills it. -/
theorem length_padded {k n : Nat} (h : n < Nat.pow 10 (k + 1)) :
    (padded (k + 1) n).length = k + 1 := by
  have hle := length_decimal_le h
  rw [padded, List.length_append, List.length_replicate]
  omega

end TaskConsole.Text

namespace TaskConsole

open Text

/-! ## Reading back -/

/-- A text stops the digits before it when it begins with none itself. -/
def StopsDigits (cs : List Char) : Prop := ∀ c ∈ cs.head?, isDigit c = false

theorem stopsDigits_nil : StopsDigits [] := by
  intro c hc
  exact absurd hc (Option.some_ne_none _).symm

theorem stopsDigits_cons {c : Char} (cs : List Char) (h : isDigit c = false) :
    StopsDigits (c :: cs) := by
  intro d hd
  exact Option.some.inj hd ▸ h

/-- The digits at the start of a text are those before the first other character. -/
theorem takeWhile_isDigit_append {ds rest : List Char} (hd : ∀ c ∈ ds, isDigit c = true)
    (hrest : StopsDigits rest) (n : Nat) :
    (ds ++ rest.take n).takeWhile isDigit = ds := by
  apply takeWhile_run hd
  intro c hc
  rw [List.head?_take] at hc
  split at hc
  · exact absurd hc.symm (Option.some_ne_none c)
  · exact hrest c hc

/-- A run of digits within the width is read in full. -/
theorem leadingDigits?_append {width : Nat} {ds rest : List Char} (hne : ds ≠ [])
    (hd : ∀ c ∈ ds, isDigit c = true) (hrest : StopsDigits rest)
    (hlen : ds.length ≤ width) :
    leadingDigits? width (ds ++ rest) = some (decimalValue ds, rest) := by
  have htake : ((ds ++ rest).take width).takeWhile isDigit = ds := by
    rw [List.take_append, List.take_of_length_le hlen]
    exact takeWhile_isDigit_append hd hrest _
  rw [leadingDigits?, htake, if_neg hne, List.drop_left]

/-- A text that begins with no blank has none to lose in front. -/
theorem trimStart_cons {c : Char} (cs : List Char) (h : isBlank c = false) :
    trimStart (c :: cs) = c :: cs := by
  rw [trimStart, List.dropWhile_cons_of_neg (by rw [h]; exact Bool.false_ne_true)]

end TaskConsole
