import TaskConsole.Proofs.Utf8Order

/-! # UTF-8 texts — the bytes that are characters, and nothing else

    The machine that cuts bytes into characters looks at one byte at a time.  It finds
    characters alone exactly where the bytes are those of a text (`decode?_eq_some_iff`):

    * the bytes of a character, and whatever follows, are read as that character
      (`decode?_encodeChar`);
    * where no piece is broken, the first bytes are those of a character
      (`exists_encodeChar`), since the range that a first byte sets for the second one
      leaves out what is too small for so many bytes, too large, or a surrogate
      (`lead_three`, `lead_four`).

    Below 128, bytes and characters are one (`flatMap_encodeChar_ascii`,
    `ascii_of_flatMap_encodeChar`). -/

namespace TaskConsole.Utf8

/-! ## The machine -/

/-- The characters of a byte sequence, from a pending character or from between two. -/
def charsFrom? (p : Option Pending) (bs : List UInt8) : Option (List Char) :=
  (piecesFrom p bs).mapM Piece.char?

/-- What a step leads to, with the bytes that are left. -/
def Step.then? (bs : List UInt8) : Step → Option (List Char)
  | .done (.char c) => (decode? bs).map (c :: ·)
  | .done .broken => none
  | .more q => charsFrom? (some q) bs

theorem mapM_char_cons (p : Piece) (ps : List Piece) :
    (p :: ps).mapM Piece.char? = p.char?.bind fun c => (ps.mapM Piece.char?).map (c :: ·) := by
  rw [List.mapM_cons]
  cases p with
  | char c => cases ps.mapM Piece.char? <;> rfl
  | broken => rfl

theorem decode?_cons (b : UInt8) (bs : List UInt8) :
    decode? (b :: bs) = (lead b.toNat).then? bs := by
  rw [decode?, pieces, piecesFrom]
  cases lead b.toNat with
  | done p =>
      show ((p :: piecesFrom none bs).mapM Piece.char?) = _
      rw [mapM_char_cons]
      cases p <;> rfl
  | more q => rfl

theorem charsFrom?_cons (q : Pending) (b : UInt8) (bs : List UInt8) :
    charsFrom? (some q) (b :: bs) =
      if q.admits b.toNat then (q.push b.toNat).then? bs else none := by
  rw [charsFrom?, piecesFrom]
  split
  · cases q.push b.toNat with
    | done p =>
        show ((p :: piecesFrom none bs).mapM Piece.char?) = _
        rw [mapM_char_cons]
        cases p <;> rfl
    | more r => rfl
  · cases lead b.toNat with
    | done p => exact mapM_char_cons .broken _
    | more r => exact mapM_char_cons .broken _

theorem admits_iff {q : Pending} {b : Nat} : q.admits b = true ↔ q.low ≤ b ∧ b ≤ q.high := by
  rw [Pending.admits, Bool.and_eq_true, decide_eq_true_iff, decide_eq_true_iff]

section Bytes

variable {bits low high : Nat} {b : UInt8} (h : low ≤ b.toNat ∧ b.toNat ≤ high)
  (bs : List UInt8)

include h

/-- The last byte of a character. -/
theorem charsFrom?_last : charsFrom? (some ⟨bits, 0, low, high⟩) (b :: bs) =
    (decode? bs).map (Char.ofNat (bits * 64 + (b.toNat - 0x80)) :: ·) := by
  rw [charsFrom?_cons, if_pos (admits_iff.mpr h)]
  rfl

/-- A byte within a character. -/
theorem charsFrom?_inner (owed : Nat) :
    charsFrom? (some ⟨bits, owed + 1, low, high⟩) (b :: bs) =
      charsFrom? (some ⟨bits * 64 + (b.toNat - 0x80), owed, 0x80, 0xBF⟩) bs := by
  rw [charsFrom?_cons, if_pos (admits_iff.mpr h)]
  rfl

end Bytes

theorem exists_of_charsFrom? {q : Pending} {bs : List UInt8} {cs : List Char}
    (h : charsFrom? (some q) bs = some cs) : ∃ b rest, bs = b :: rest
      ∧ (q.low ≤ b.toNat ∧ b.toNat ≤ q.high) ∧ (q.push b.toNat).then? rest = some cs := by
  cases bs with
  | nil => exact absurd h.symm (Option.some_ne_none cs)
  | cons b rest =>
      rw [charsFrom?_cons] at h
      split at h
      · rename_i hadmits
        exact ⟨b, rest, rfl, admits_iff.mp hadmits, h⟩
      · exact absurd h.symm (Option.some_ne_none cs)

/-! ## The first byte -/

theorem lead_one {b : Nat} (h : b < 0x80) : lead b = .done (.char (Char.ofNat b)) := by
  rw [lead, if_pos h]

theorem lead_two {b : Nat} (h₁ : 0xC2 ≤ b) (h₂ : b < 0xE0) :
    lead b = .more ⟨b - 0xC0, 0, 0x80, 0xBF⟩ := by
  rw [lead, if_neg (by omega), if_neg (by omega), if_pos h₂]

/-- The second of three bytes leaves out what fits two, and the surrogates. -/
theorem lead_three {b : Nat} (h₁ : 0xE0 ≤ b) (h₂ : b < 0xF0) :
    ∃ low high, lead b = .more ⟨b - 0xE0, 1, low, high⟩ ∧ ∀ x, (low ≤ x ∧ x ≤ high) ↔
      (0x80 ≤ x ∧ x ≤ 0xBF ∧ 0x20 ≤ (b - 0xE0) * 64 + (x - 0x80)
        ∧ ((b - 0xE0) * 64 + (x - 0x80) < 0x360 ∨ 0x380 ≤ (b - 0xE0) * 64 + (x - 0x80))) := by
  rw [lead, if_neg (by omega), if_neg (by omega), if_neg (by omega)]
  by_cases hfirst : b = 0xE0
  · subst hfirst
    exact ⟨_, _, rfl, fun x => by omega⟩
  by_cases hsurrogate : b = 0xED
  · subst hsurrogate
    exact ⟨_, _, rfl, fun x => by omega⟩
  · rw [if_neg hfirst, if_neg hsurrogate, if_pos h₂]
    exact ⟨_, _, rfl, fun x => by omega⟩

/-- The second of four bytes leaves out what fits three, and what is beyond U+10FFFF. -/
theorem lead_four {b : Nat} (h₁ : 0xF0 ≤ b) (h₂ : b < 0xF5) :
    ∃ low high, lead b = .more ⟨b - 0xF0, 2, low, high⟩ ∧ ∀ x, (low ≤ x ∧ x ≤ high) ↔
      (0x80 ≤ x ∧ x ≤ 0xBF ∧ 0x10 ≤ (b - 0xF0) * 64 + (x - 0x80)
        ∧ (b - 0xF0) * 64 + (x - 0x80) < 0x110) := by
  rw [lead, if_neg (by omega), if_neg (by omega), if_neg (by omega), if_neg (by omega),
    if_neg (by omega), if_neg (by omega)]
  by_cases hfirst : b = 0xF0
  · subst hfirst
    exact ⟨_, _, rfl, fun x => by omega⟩
  by_cases hlast : b = 0xF4
  · subst hlast
    exact ⟨_, _, rfl, fun x => by omega⟩
  · rw [if_neg hfirst, if_pos (by omega)]
    exact ⟨_, _, rfl, fun x => by omega⟩

/-- No other byte begins a character. -/
theorem lead_broken {b : Nat} (h : (0x80 ≤ b ∧ b < 0xC2) ∨ 0xF5 ≤ b) :
    lead b = .done .broken := by
  rw [lead, if_neg (by omega)]
  by_cases hlow : b < 0xC2
  · rw [if_pos hlow]
  · rw [if_neg hlow, if_neg (by omega), if_neg (by omega), if_neg (by omega), if_neg (by omega),
      if_neg (by omega), if_neg (by omega), if_neg (by omega)]

/-! ## One character -/

theorem toNat_byte {n : Nat} (h : n < 256) : (UInt8.ofNat n).toNat = n := by
  rw [UInt8.toNat_ofNat']
  exact Nat.mod_eq_of_lt h

theorem byte_eq {n : Nat} {b : UInt8} (h : n = b.toNat) : UInt8.ofNat n = b := by
  rw [h, UInt8.ofNat_toNat]

/-- A number that is no surrogate and not beyond U+10FFFF is that of a character. -/
theorem toNat_char {n : Nat} (h : n < 0xD800 ∨ (0xE000 ≤ n ∧ n < 0x110000)) :
    (Char.ofNat n).val.toNat = n := by
  have hvalid : n.isValidChar := by
    rcases h with h | h
    · exact Or.inl h
    · exact Or.inr h
  rw [Char.ofNat, dif_pos hvalid]
  rfl

/-- No character is a surrogate. -/
theorem char_not_surrogate (c : Char) : c.val.toNat < 0xD800 ∨ 0xE000 ≤ c.val.toNat := by
  rcases c.valid with h | ⟨h, _⟩
  · exact Or.inl h
  · exact Or.inr h

/-- **THE BYTES OF A CHARACTER** are read as that character, whatever follows. -/
theorem decode?_encodeChar (c : Char) (bs : List UInt8) :
    decode? (String.utf8EncodeChar c ++ bs) = (decode? bs).map (c :: ·) := by
  have hlast := char_toNat_lt c
  have hsurrogate := char_not_surrogate c
  have hchar : ∀ n, n = c.val.toNat → Char.ofNat n = c := by
    rintro n rfl
    exact Char.ofNat_toNat c
  -- by the number of bytes
  by_cases h₁ : c.val.toNat ≤ 0x7f
  · rw [encodeChar_one bs h₁, decode?_cons, toNat_byte (by omega), lead_one (by omega),
      hchar _ rfl]
    rfl
  by_cases h₂ : c.val.toNat ≤ 0x7ff
  · rw [encodeChar_two bs h₁ h₂, decode?_cons, toNat_byte (by omega),
      lead_two (by omega) (by omega), Step.then?, charsFrom?_last, hchar]
    · rw [toNat_byte (by omega)]
      omega
    · rw [toNat_byte (by omega)]
      omega
  by_cases h₃ : c.val.toNat ≤ 0xffff
  · obtain ⟨low, high, hlead, hrange⟩ :=
      lead_three (b := c.val.toNat / 4096 % 0x10 + 0xe0) (by omega) (by omega)
    rw [encodeChar_three bs h₁ h₂ h₃, decode?_cons, toNat_byte (by omega), hlead, Step.then?,
      charsFrom?_inner, charsFrom?_last, hchar]
    · rw [toNat_byte (by omega), toNat_byte (by omega)]
      omega
    · rw [toNat_byte (by omega)]
      omega
    · rw [toNat_byte (by omega)]
      exact (hrange _).mpr (by omega)
  · obtain ⟨low, high, hlead, hrange⟩ :=
      lead_four (b := c.val.toNat / 262144 % 0x08 + 0xf0) (by omega) (by omega)
    rw [encodeChar_four bs h₁ h₂ h₃, decode?_cons, toNat_byte (by omega), hlead, Step.then?,
      charsFrom?_inner, charsFrom?_inner, charsFrom?_last, hchar]
    · rw [toNat_byte (by omega), toNat_byte (by omega), toNat_byte (by omega)]
      omega
    · rw [toNat_byte (by omega)]
      omega
    · rw [toNat_byte (by omega)]
      omega
    · rw [toNat_byte (by omega)]
      exact (hrange _).mpr (by omega)

/-- **WHERE NOTHING IS BROKEN**, the bytes begin with those of a character. -/
theorem exists_encodeChar {b : UInt8} {bs : List UInt8} {cs : List Char}
    (h : decode? (b :: bs) = some cs) : ∃ c rest others, cs = c :: others
      ∧ b :: bs = String.utf8EncodeChar c ++ rest ∧ decode? rest = some others := by
  have hbyte := b.toNat_lt
  rw [decode?_cons] at h
  by_cases h₁ : b.toNat < 0x80
  · rw [lead_one h₁] at h
    obtain ⟨others, hothers, rfl⟩ := Option.map_eq_some_iff.mp h
    have hc := toNat_char (n := b.toNat) (by omega)
    refine ⟨_, bs, others, rfl, ?_, hothers⟩
    rw [encodeChar_one bs (by omega), hc, byte_eq rfl]
  by_cases h₂ : b.toNat < 0xC2
  · rw [lead_broken (by omega)] at h
    exact absurd h.symm (Option.some_ne_none cs)
  by_cases h₃ : b.toNat < 0xE0
  · rw [lead_two (by omega) h₃] at h
    obtain ⟨x, rest, rfl, hx, h⟩ := exists_of_charsFrom? h
    obtain ⟨others, hothers, rfl⟩ := Option.map_eq_some_iff.mp h
    simp only at hx
    have hc := toNat_char (n := (b.toNat - 0xC0) * 64 + (x.toNat - 0x80)) (by omega)
    refine ⟨_, rest, others, rfl, ?_, hothers⟩
    show b :: x :: rest
      = String.utf8EncodeChar (Char.ofNat ((b.toNat - 0xC0) * 64 + (x.toNat - 0x80))) ++ rest
    rw [encodeChar_two rest (by omega) (by omega), hc, byte_eq (b := b) (by omega),
      byte_eq (b := x) (by omega)]
  by_cases h₄ : b.toNat < 0xF0
  · obtain ⟨low, high, hlead, hrange⟩ := lead_three (b := b.toNat) (by omega) h₄
    rw [hlead] at h
    obtain ⟨x, rest, rfl, hx, h⟩ := exists_of_charsFrom? h
    obtain ⟨y, rest, rfl, hy, h⟩ := exists_of_charsFrom? h
    obtain ⟨others, hothers, rfl⟩ := Option.map_eq_some_iff.mp h
    simp only [hrange] at hx hy
    have hc := toNat_char
      (n := ((b.toNat - 0xE0) * 64 + (x.toNat - 0x80)) * 64 + (y.toNat - 0x80)) (by omega)
    refine ⟨_, rest, others, rfl, ?_, hothers⟩
    show b :: x :: y :: rest = String.utf8EncodeChar
      (Char.ofNat (((b.toNat - 0xE0) * 64 + (x.toNat - 0x80)) * 64 + (y.toNat - 0x80))) ++ rest
    rw [encodeChar_three rest (by omega) (by omega) (by omega), hc, byte_eq (b := b) (by omega),
      byte_eq (b := x) (by omega), byte_eq (b := y) (by omega)]
  by_cases h₅ : b.toNat < 0xF5
  · obtain ⟨low, high, hlead, hrange⟩ := lead_four (b := b.toNat) (by omega) h₅
    rw [hlead] at h
    obtain ⟨x, rest, rfl, hx, h⟩ := exists_of_charsFrom? h
    obtain ⟨y, rest, rfl, hy, h⟩ := exists_of_charsFrom? h
    obtain ⟨z, rest, rfl, hz, h⟩ := exists_of_charsFrom? h
    obtain ⟨others, hothers, rfl⟩ := Option.map_eq_some_iff.mp h
    simp only [hrange] at hx hy hz
    have hc := toNat_char
      (n := (((b.toNat - 0xF0) * 64 + (x.toNat - 0x80)) * 64 + (y.toNat - 0x80)) * 64
        + (z.toNat - 0x80)) (by omega)
    refine ⟨_, rest, others, rfl, ?_, hothers⟩
    show b :: x :: y :: z :: rest = String.utf8EncodeChar
      (Char.ofNat ((((b.toNat - 0xF0) * 64 + (x.toNat - 0x80)) * 64 + (y.toNat - 0x80)) * 64
        + (z.toNat - 0x80))) ++ rest
    rw [encodeChar_four rest (by omega) (by omega) (by omega), hc, byte_eq (b := b) (by omega),
      byte_eq (b := x) (by omega), byte_eq (b := y) (by omega), byte_eq (b := z) (by omega)]
  · rw [lead_broken (by omega)] at h
    exact absurd h.symm (Option.some_ne_none cs)

/-! ## Texts -/

/-- **BYTES ARE CHARACTERS** exactly where they are those of a text. -/
theorem decode?_eq_some_iff {bs : List UInt8} {cs : List Char} :
    decode? bs = some cs ↔ bs = cs.flatMap String.utf8EncodeChar := by
  constructor
  · intro h
    induction cs generalizing bs with
    | nil =>
        cases bs with
        | nil => rfl
        | cons b bs =>
            obtain ⟨c, _, others, hnone, _⟩ := exists_encodeChar h
            exact absurd hnone.symm (List.cons_ne_nil c others)
    | cons c cs ih =>
        cases bs with
        | nil => exact absurd (Option.some.inj h).symm (List.cons_ne_nil c cs)
        | cons b bs =>
            obtain ⟨d, rest, others, hcs, hbs, hrest⟩ := exists_encodeChar h
            cases hcs
            rw [hbs, ih hrest, List.flatMap_cons]
  · rintro rfl
    induction cs with
    | nil => rfl
    | cons c cs ih =>
        rw [List.flatMap_cons, decode?_encodeChar, ih]
        rfl

/-! ## Characters of one byte -/

/-- Characters of one byte each. -/
theorem flatMap_encodeChar_ascii {cs : List Char} (h : ∀ c ∈ cs, c.toNat < 0x80) :
    cs.flatMap String.utf8EncodeChar = cs.map fun c => UInt8.ofNat c.toNat := by
  induction cs with
  | nil => rfl
  | cons c cs ih =>
      obtain ⟨hc, hcs⟩ := List.forall_mem_cons.mp h
      have hone : c.val.toNat ≤ 0x7f := Nat.le_of_lt_succ hc
      rw [List.flatMap_cons, encodeChar_one _ hone, ih hcs]
      rfl

theorem decode?_ascii {bs : List UInt8} (h : ∀ b ∈ bs, b.toNat < 0x80) :
    decode? bs = some (bs.map fun b => Char.ofNat b.toNat) := by
  induction bs with
  | nil => rfl
  | cons b bs ih =>
      obtain ⟨hb, hbs⟩ := List.forall_mem_cons.mp h
      rw [decode?_cons, lead_one hb, Step.then?, ih hbs]
      rfl

/-- Where all bytes are below 128, all characters are. -/
theorem ascii_of_flatMap_encodeChar {cs : List Char}
    (h : ∀ b ∈ cs.flatMap String.utf8EncodeChar, b.toNat < 0x80) : ∀ c ∈ cs, c.toNat < 0x80 := by
  have hcs := Option.some.inj ((decode?_eq_some_iff.mpr rfl).symm.trans (decode?_ascii h))
  intro c hc
  rw [hcs] at hc
  obtain ⟨b, hb, rfl⟩ := List.mem_map.mp hc
  have hlow := h b hb
  have hchar : (Char.ofNat b.toNat).toNat = b.toNat := toNat_char (by omega)
  rwa [hchar]

end TaskConsole.Utf8
