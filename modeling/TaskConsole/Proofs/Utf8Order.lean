import TaskConsole.Text.Utf8

/-! # The order of texts — by characters, and so by bytes

    Texts are compared by their characters, and a machine compares their bytes.
    In UTF-8 the two orders are one: a smaller character has a smaller lead byte,
    or as many bytes with the same lead and a smaller one further on, so whatever
    follows the two no longer matters. -/

namespace TaskConsole.Utf8

/-- Byte sequences that start in order are in order, unless they start alike. -/
theorem byte_cons_lt {a b : Nat} {x y : List UInt8} (hab : a ≤ b) (hb : b < 256)
    (h : a = b → x < y) : UInt8.ofNat a :: x < UInt8.ofNat b :: y := by
  rw [List.cons_lt_cons_iff]
  rcases Nat.lt_or_eq_of_le hab with hlt | heq
  · -- both numbers fit a byte, so nothing is cut off
    left
    rw [UInt8.lt_iff_toNat_lt, UInt8.toNat_ofNat', UInt8.toNat_ofNat']
    omega
  · exact Or.inr ⟨congrArg UInt8.ofNat heq, h heq⟩

/-! ## One character -/

section Lengths

variable {c : Char} (x : List UInt8)

theorem encodeChar_one (h : c.val.toNat ≤ 0x7f) :
    String.utf8EncodeChar c ++ x = UInt8.ofNat c.val.toNat :: x := by
  rw [String.utf8EncodeChar]
  exact congrArg (· ++ x) (if_pos h)

theorem encodeChar_two (h₁ : ¬ c.val.toNat ≤ 0x7f) (h : c.val.toNat ≤ 0x7ff) :
    String.utf8EncodeChar c ++ x =
      UInt8.ofNat (c.val.toNat / 64 % 0x20 + 0xc0)
        :: UInt8.ofNat (c.val.toNat % 0x40 + 0x80) :: x := by
  rw [String.utf8EncodeChar]
  exact congrArg (· ++ x) ((if_neg h₁).trans (if_pos h))

theorem encodeChar_three (h₁ : ¬ c.val.toNat ≤ 0x7f) (h₂ : ¬ c.val.toNat ≤ 0x7ff)
    (h : c.val.toNat ≤ 0xffff) :
    String.utf8EncodeChar c ++ x =
      UInt8.ofNat (c.val.toNat / 4096 % 0x10 + 0xe0)
        :: UInt8.ofNat (c.val.toNat / 64 % 0x40 + 0x80)
        :: UInt8.ofNat (c.val.toNat % 0x40 + 0x80) :: x := by
  rw [String.utf8EncodeChar]
  exact congrArg (· ++ x) ((if_neg h₁).trans ((if_neg h₂).trans (if_pos h)))

theorem encodeChar_four (h₁ : ¬ c.val.toNat ≤ 0x7f) (h₂ : ¬ c.val.toNat ≤ 0x7ff)
    (h₃ : ¬ c.val.toNat ≤ 0xffff) :
    String.utf8EncodeChar c ++ x =
      UInt8.ofNat (c.val.toNat / 262144 % 0x08 + 0xf0)
        :: UInt8.ofNat (c.val.toNat / 4096 % 0x40 + 0x80)
        :: UInt8.ofNat (c.val.toNat / 64 % 0x40 + 0x80)
        :: UInt8.ofNat (c.val.toNat % 0x40 + 0x80) :: x := by
  rw [String.utf8EncodeChar]
  exact congrArg (· ++ x) ((if_neg h₁).trans ((if_neg h₂).trans (if_neg h₃)))

end Lengths

/-- No character is beyond U+10FFFF. -/
theorem char_toNat_lt (c : Char) : c.val.toNat < 0x110000 := by
  rcases c.valid with h | ⟨_, h⟩
  · exact Nat.lt_trans h (by decide)
  · exact h

/-- The bytes of a smaller character come first, whatever follows either. -/
theorem encodeChar_lt {c d : Char} (h : c < d) (x y : List UInt8) :
    String.utf8EncodeChar c ++ x < String.utf8EncodeChar d ++ y := by
  have hcd : c.val.toNat < d.val.toNat := h
  have hd := char_toNat_lt d
  -- by the length of the greater one; the smaller one is no longer
  by_cases d₁ : d.val.toNat ≤ 0x7f
  · rw [encodeChar_one y d₁, encodeChar_one x (by omega)]
    exact byte_cons_lt (by omega) (by omega) (fun e => absurd e (by omega))
  by_cases d₂ : d.val.toNat ≤ 0x7ff
  · rw [encodeChar_two y d₁ d₂]
    by_cases c₁ : c.val.toNat ≤ 0x7f
    · rw [encodeChar_one x c₁]
      exact byte_cons_lt (by omega) (by omega) (fun e => absurd e (by omega))
    · rw [encodeChar_two x c₁ (by omega)]
      refine byte_cons_lt (by omega) (by omega) (fun e₁ => ?_)
      exact byte_cons_lt (by omega) (by omega) (fun e => absurd e (by omega))
  by_cases d₃ : d.val.toNat ≤ 0xffff
  · rw [encodeChar_three y d₁ d₂ d₃]
    by_cases c₁ : c.val.toNat ≤ 0x7f
    · rw [encodeChar_one x c₁]
      exact byte_cons_lt (by omega) (by omega) (fun e => absurd e (by omega))
    by_cases c₂ : c.val.toNat ≤ 0x7ff
    · rw [encodeChar_two x c₁ c₂]
      exact byte_cons_lt (by omega) (by omega) (fun e => absurd e (by omega))
    · rw [encodeChar_three x c₁ c₂ (by omega)]
      refine byte_cons_lt (by omega) (by omega) (fun e₁ => ?_)
      refine byte_cons_lt (by omega) (by omega) (fun e₂ => ?_)
      exact byte_cons_lt (by omega) (by omega) (fun e => absurd e (by omega))
  · rw [encodeChar_four y d₁ d₂ d₃]
    by_cases c₁ : c.val.toNat ≤ 0x7f
    · rw [encodeChar_one x c₁]
      exact byte_cons_lt (by omega) (by omega) (fun e => absurd e (by omega))
    by_cases c₂ : c.val.toNat ≤ 0x7ff
    · rw [encodeChar_two x c₁ c₂]
      exact byte_cons_lt (by omega) (by omega) (fun e => absurd e (by omega))
    by_cases c₃ : c.val.toNat ≤ 0xffff
    · rw [encodeChar_three x c₁ c₂ c₃]
      exact byte_cons_lt (by omega) (by omega) (fun e => absurd e (by omega))
    · rw [encodeChar_four x c₁ c₂ c₃]
      refine byte_cons_lt (by omega) (by omega) (fun e₁ => ?_)
      refine byte_cons_lt (by omega) (by omega) (fun e₂ => ?_)
      refine byte_cons_lt (by omega) (by omega) (fun e₃ => ?_)
      exact byte_cons_lt (by omega) (by omega) (fun e => absurd e (by omega))

theorem encodeChar_ne_nil (c : Char) : String.utf8EncodeChar c ≠ [] := by
  intro h
  have hl := String.length_utf8EncodeChar c
  rw [h] at hl
  exact absurd hl.symm (Nat.ne_of_gt c.utf8Size_pos)

/-! ## Texts -/

/-- The bytes of characters that come first come first. -/
theorem flatMap_encodeChar_lt : ∀ {cs ds : List Char}, cs < ds →
    cs.flatMap String.utf8EncodeChar < ds.flatMap String.utf8EncodeChar
  | _, [], h => absurd h (List.not_lt_nil _)
  | [], d :: ds, _ => by
      obtain ⟨b, bs, hb⟩ := List.exists_cons_of_ne_nil (encodeChar_ne_nil d)
      rw [List.flatMap_cons, hb]
      exact List.nil_lt_cons b _
  | c :: cs, d :: ds, h => by
      rw [List.flatMap_cons, List.flatMap_cons]
      rcases List.cons_lt_cons_iff.mp h with hcd | ⟨rfl, htail⟩
      · exact encodeChar_lt hcd _ _
      · exact List.append_left_lt (flatMap_encodeChar_lt htail)

theorem toList_loop (bs : ByteArray) (i : Nat) (r : List UInt8) :
    ByteArray.toList.loop bs i r = r.reverse ++ bs.data.toList.drop i := by
  rw [ByteArray.toList.loop]
  by_cases hi : i < bs.size
  · have hlen : i < bs.data.toList.length := hi
    have hget : bs.get! i = bs.data.toList[i] := getElem!_pos bs.data i hi
    rw [if_pos hi, toList_loop bs (i + 1), List.drop_eq_getElem_cons hlen, hget,
      List.reverse_cons, List.append_assoc]
    rfl
  · have hlen : bs.data.toList.length ≤ i := Nat.le_of_not_lt hi
    rw [if_neg hi, List.drop_eq_nil_of_le hlen, List.append_nil]
termination_by bs.size - i

/-- The bytes of a text are those of its characters, one after the other. -/
theorem encode_eq (s : String) : encode s = s.toList.flatMap String.utf8EncodeChar := by
  have hs : s.toUTF8 = (s.toList.flatMap String.utf8EncodeChar).toByteArray :=
    String.utf8Encode_toList.symm
  rw [encode, hs, ByteArray.toList, toList_loop, List.data_toByteArray]
  rfl

/-- Any two texts are comparable. -/
theorem text_trichotomy (s t : String) : s < t ∨ s = t ∨ t < s := by
  by_cases hst : s < t
  · exact Or.inl hst
  by_cases hts : t < s
  · exact Or.inr (Or.inr hts)
  · rw [String.lt_iff] at hst hts
    have heq := List.le_antisymm (List.not_lt.mp hts) (List.not_lt.mp hst)
    exact Or.inr (Or.inl (String.toList_inj.mp heq))

/-- **Texts are in the order of their bytes.** -/
theorem lt_iff_encode_lt (s t : String) : s < t ↔ encode s < encode t := by
  rw [encode_eq, encode_eq]
  constructor
  · exact flatMap_encodeChar_lt
  · intro h
    rcases text_trichotomy s t with hst | rfl | hts
    · exact hst
    · exact absurd h (List.lt_irrefl _)
    · exact absurd h (List.lt_asymm (flatMap_encodeChar_lt hts))

end TaskConsole.Utf8
