import Mathlib.Data.Option.Basic
import TaskConsole.Net.Host
import TaskConsole.Proofs.Numerals
import TaskConsole.Proofs.RepairedText

/-! # Numeric hosts — addresses of version 4 where a host is read

    A host of the web goes a long way before it is known to be an address: its percent
    signs are put back, its bytes read as a text, its characters mapped and composed, its
    labels checked.  Labels of digits pass through all of this unchanged
    (`HostName.toAscii?_joinWith`), and the last of them says that the name is a number.

    So the canonical text of an address of version 4 is read back, as a host
    (`Host.read?_quadText`). -/

namespace TaskConsole

namespace Text

/-! ## Parts -/

section Parts

variable {sep : Char}

theorem splitOn_of_not_mem {cs : List Char} (h : sep ∉ cs) : splitOn sep cs = [cs] := by
  induction cs with
  | nil => rfl
  | cons c cs ih =>
      have hc : c ≠ sep := fun hc => h (hc ▸ List.mem_cons_self)
      rw [splitOn, ih fun hcs => h (List.mem_cons_of_mem c hcs)]
      exact if_neg hc

theorem splitOn_ne_nil (sep : Char) (cs : List Char) : splitOn sep cs ≠ [] := by
  cases cs with
  | nil => exact List.cons_ne_nil _ _
  | cons c cs =>
      rw [splitOn]
      split
      · exact List.cons_ne_nil _ _
      · split <;> exact List.cons_ne_nil _ _

/-- A text is cut at its first separator. -/
theorem splitOn_append {part : List Char} (h : sep ∉ part) (rest : List Char) :
    splitOn sep (part ++ sep :: rest) = part :: splitOn sep rest := by
  induction part with
  | nil =>
      obtain ⟨first, others, hrest⟩ := List.exists_cons_of_ne_nil (splitOn_ne_nil sep rest)
      rw [List.nil_append, splitOn, hrest]
      exact if_pos rfl
  | cons c part ih =>
      have hc : c ≠ sep := fun hc => h (hc ▸ List.mem_cons_self)
      rw [List.cons_append, splitOn, ih fun hpart => h (List.mem_cons_of_mem c hpart)]
      exact if_neg hc

/-- **PARTS THAT ARE JOINED** are cut apart again. -/
theorem splitOn_joinWith {parts : List (List Char)} (hne : parts ≠ [])
    (h : ∀ part ∈ parts, sep ∉ part) : splitOn sep (joinWith [sep] parts) = parts := by
  induction parts with
  | nil => exact absurd rfl hne
  | cons part rest ih =>
      have hpart := h part List.mem_cons_self
      cases rest with
      | nil => exact splitOn_of_not_mem hpart
      | cons next rest =>
          have hrest := ih (List.cons_ne_nil next rest)
            fun other hother => h other (List.mem_cons_of_mem part hother)
          rw [joinWith, List.append_assoc, List.singleton_append, splitOn_append hpart, hrest]
          exact List.cons_ne_nil next rest

/-- Nothing is in joined parts but the parts and the separators. -/
theorem mem_joinWith {parts : List (List Char)} {c : Char} (h : c ∈ joinWith [sep] parts) :
    c = sep ∨ ∃ part ∈ parts, c ∈ part := by
  induction parts with
  | nil => exact absurd h List.not_mem_nil
  | cons part rest ih =>
      cases rest with
      | nil => exact Or.inr ⟨part, List.mem_cons_self, h⟩
      | cons next rest =>
          rw [joinWith, List.append_assoc, List.mem_append, List.singleton_append,
            List.mem_cons] at h
          · rcases h with h | h | h
            · exact Or.inr ⟨part, List.mem_cons_self, h⟩
            · exact Or.inl h
            · rcases ih h with hsep | ⟨other, hother, hc⟩
              · exact Or.inl hsep
              · exact Or.inr ⟨other, List.mem_cons_of_mem part hother, hc⟩
          · exact List.cons_ne_nil next rest

end Parts

/-- What succeeds on every item succeeds on the list. -/
theorem mapM_eq_some {α β : Type} {f : α → Option β} {g : α → β} {as : List α}
    (h : ∀ a ∈ as, f a = some (g a)) : as.mapM f = some (as.map g) := by
  induction as with
  | nil => rfl
  | cons a as ih =>
      rw [List.mapM_cons, h a List.mem_cons_self,
        ih fun b hb => h b (List.mem_cons_of_mem a hb)]
      rfl

/-- No digit is a point. -/
theorem point_not_mem {ds : List Char} (h : ∀ c ∈ ds, isDigit c = true) : '.' ∉ ds := by
  intro hmem
  exact absurd (h '.' hmem) (by decide)

theorem digits?_decimal (n : Nat) : digits? (decimal n) = some n := by
  rw [digits?, if_pos ⟨decimal_ne_nil n, List.all_eq_true.mpr isDigit_of_mem_decimal⟩,
    decimalValue_decimal]

/-- The digits of a number above zero begin with no zero. -/
theorem head?_decimal {n : Nat} (h : 0 < n) : (decimal n).head? ≠ some '0' := by
  induction n using decimal.induct with
  | case1 n hn =>
      have hfirst : ∀ d < 10, 0 < d → d.digitChar ≠ '0' := by decide
      rw [decimal_lt hn]
      intro hzero
      exact hfirst n hn h (Option.some.inj hzero)
  | case2 n hn ih =>
      have hfront := ih (by omega)
      rw [decimal_ge hn, List.head?_append]
      cases hd : (decimal (n / 10)).head? with
      | none =>
          rw [List.head?_eq_none_iff] at hd
          exact absurd hd (decimal_ne_nil _)
      | some d =>
          rw [hd] at hfront
          exact hfront

end Text

open Text

/-! ## Bytes -/

/-- A text without percent signs stands for its own bytes. -/
theorem Percent.decode_plain {cs : List Char} (h : '%' ∉ cs) :
    Percent.decode cs = cs.flatMap String.utf8EncodeChar := by
  induction cs with
  | nil => rfl
  | cons c cs ih =>
      have hc : c ≠ '%' := fun hc => h (hc ▸ List.mem_cons_self)
      have hbytes : Utf8.encode (String.singleton c) = String.utf8EncodeChar c := by
        rw [Utf8.encode_eq, String.toList_singleton, List.flatMap_singleton]
      rw [Percent.decode, ih fun hcs => h (List.mem_cons_of_mem c hcs), hbytes,
        List.flatMap_cons]
      intro a b rest hpercent
      exact absurd hpercent hc

/-! ## Names of digits and points -/

namespace HostName

theorem mapChar?_eq_self {c : Char} (h : c.toNat < 'A'.toNat) : mapChar? c = some [c] := by
  have hlow : c.toNat < 65 := h
  have hupper : ¬ (c.val ≥ 'A'.val ∧ c.val ≤ 'Z'.val) := by
    rintro ⟨hA, -⟩
    have hval : 65 ≤ c.toNat := hA
    omega
  have hsame : c.toLower = c := dif_neg hupper
  rw [mapChar?, if_pos (by omega), hsame]

/-- A text below the letters is mapped to itself. -/
theorem mapped?_eq_self {cs : List Char} (h : ∀ c ∈ cs, c.toNat < 'A'.toNat) :
    mapped? cs = some cs := by
  have hcomposed : composed cs = cs := by
    refine if_pos (List.all_eq_true.mpr fun c hc => decide_eq_true ?_)
    exact Nat.lt_trans (h c hc) (by decide)
  have hflat : (cs.map fun c => [c]).flatten = cs := by
    rw [← List.flatMap_def]
    exact List.flatMap_singleton' cs
  rw [mapped?, mapM_eq_some fun c hc => mapChar?_eq_self (h c hc)]
  show some (composed (cs.map fun c => [c]).flatten) = some cs
  rw [hflat, hcomposed]

section Digits

variable {label : List Char} (h : ∀ c ∈ label, isDigit c = true)

include h

theorem isAscii_digits : isAscii label = true := by
  refine List.all_eq_true.mpr fun c hc => decide_eq_true ?_
  have := ((isDigit_iff c).mp (h c hc)).2
  omega

/-- A label of digits is meant as it stands, -/
theorem readLabel?_digits : readLabel? label = some label := by
  have hmark : asciiMark.isPrefixOf label = false := by
    cases label with
    | nil => rfl
    | cons c rest =>
        have hx : ('x' == c) = false := by
          rw [beq_eq_false_iff_ne]
          rintro rfl
          exact absurd (h 'x' List.mem_cons_self) (by decide)
        show ('x' == c && List.isPrefixOf ['n', '-', '-'] rest) = false
        rw [hx, Bool.false_and]
  rw [readLabel?, hmark]
  show (guard _ >>= fun _ => some label) = some label
  rw [isAscii_digits h]
  rfl

/-- and is its own form in ASCII. -/
theorem asciiLabel_digits : asciiLabel label = label := if_pos (isAscii_digits h)

end Digits

/-- **LABELS OF DIGITS** are a name in ASCII. -/
theorem toAscii?_joinWith {parts : List (List Char)} (hne : parts ≠ [])
    (h : ∀ part ∈ parts, ∀ c ∈ part, isDigit c = true) :
    toAscii? (joinWith ['.'] parts) = some (joinWith ['.'] parts) := by
  have hmapped : mapped? (joinWith ['.'] parts) = some (joinWith ['.'] parts) := by
    refine mapped?_eq_self fun c hc => ?_
    rcases mem_joinWith hc with rfl | ⟨part, hpart, hmem⟩
    · decide
    · exact Nat.lt_of_le_of_lt ((isDigit_iff c).mp (h part hpart c hmem)).2 (by decide)
  have hsplit : splitOn '.' (joinWith ['.'] parts) = parts :=
    splitOn_joinWith hne fun part hpart => point_not_mem (h part hpart)
  have hread : parts.mapM readLabel? = some (parts.map id) :=
    mapM_eq_some fun part hpart => readLabel?_digits (h part hpart)
  rw [List.map_id] at hread
  have hascii : isAscii parts.flatten = true := by
    refine isAscii_digits fun c hc => ?_
    obtain ⟨part, hpart, hmem⟩ := List.mem_flatten.mp hc
    exact h part hpart c hmem
  have hlabels : labels? (joinWith ['.'] parts) = some parts := by
    rw [labels?, hmapped]
    show ((splitOn '.' (joinWith ['.'] parts)).mapM readLabel? >>= _) = some parts
    rw [hsplit, hread]
    show (guard _ >>= fun _ => some parts) = some parts
    rw [guard, if_pos (Or.inl hascii)]
    rfl
  have hforms : parts.map asciiLabel = parts :=
    (List.map_congr_left fun part hpart => asciiLabel_digits (h part hpart)).trans
      (List.map_id' parts)
  rw [toAscii?, hlabels, Option.map_some, hforms]

end HostName

/-! ## Addresses -/

section Quad

variable (a b c d : UInt8)

/-- The labels of an address of version 4. -/
def Address.quadLabels : List (List Char) := [a, b, c, d].map fun byte => decimal byte.toNat

theorem Address.quadText_eq : quadText a b c d = joinWith ['.'] (quadLabels a b c d) := by
  simp only [quadText, quadLabels, List.map_cons, List.map_nil, joinWith, List.append_assoc,
    List.cons_append, List.nil_append]

theorem Address.isDigit_of_mem_quadLabels :
    ∀ label ∈ quadLabels a b c d, ∀ x ∈ label, isDigit x = true := by
  intro label hlabel
  obtain ⟨byte, -, rfl⟩ := List.mem_map.mp hlabel
  exact isDigit_of_mem_decimal

namespace Host

/-- A number that begins with no zero, or is zero, is decimal. -/
theorem readNumber?_decimal (n : Nat) : readNumber? (decimal n) = some n := by
  by_cases hn : n = 0
  · subst hn
    rw [decimal_lt (by omega)]
    rfl
  · have hhead := head?_decimal (Nat.pos_of_ne_zero hn)
    rw [readNumber?]
    · exact digits?_decimal n
    · exact fun h => absurd h (decimal_ne_nil n)
    · intro ds h
      rw [h] at hhead
      exact hhead rfl
    · intro ds h
      rw [h] at hhead
      exact hhead rfl
    · intro e ds h
      rw [h] at hhead
      exact hhead rfl

theorem labels_quadText : labels (Address.quadText a b c d) = Address.quadLabels a b c d := by
  have hsplit : splitOn '.' (Address.quadText a b c d) = Address.quadLabels a b c d := by
    rw [Address.quadText_eq]
    exact splitOn_joinWith (List.cons_ne_nil _ _) fun label hlabel =>
      point_not_mem (Address.isDigit_of_mem_quadLabels a b c d label hlabel)
  rw [labels, hsplit]
  refine if_neg ?_
  rintro ⟨-, hlast⟩
  exact decimal_ne_nil d.toNat (Option.some.inj hlast)

theorem endsInNumber_quadText : endsInNumber (Address.quadText a b c d) = true := by
  rw [endsInNumber, labels_quadText]
  show ((decide (decimal d.toNat ≠ []) && (decimal d.toNat).all isDigit) || _) = true
  rw [decide_eq_true (decimal_ne_nil d.toNat), List.all_eq_true.mpr isDigit_of_mem_decimal]
  rfl

theorem readShortQuad?_quadText :
    readShortQuad? (Address.quadText a b c d) = some (.v4 a b c d) := by
  have hnumbers : (labels (Address.quadText a b c d)).mapM readNumber?
      = some [a.toNat, b.toNat, c.toNat, d.toNat] := by
    rw [labels_quadText, Address.quadLabels]
    simp only [List.map_cons, List.map_nil, List.mapM_cons, List.mapM_nil, readNumber?_decimal]
    rfl
  have ha := a.toNat_lt
  have hb := b.toNat_lt
  have hc := c.toNat_lt
  have hd := d.toNat_lt
  have hfront : [a.toNat, b.toNat, c.toNat].all (· < 256) = true := by
    simp only [List.all_cons, List.all_nil, decide_eq_true ha, decide_eq_true hb,
      decide_eq_true hc, Bool.and_true]
  have hbyte : ∀ {n : Nat} {x : UInt8}, n % 256 = x.toNat → UInt8.ofNat n = x := by
    intro n x h
    rw [← UInt8.toNat_inj, UInt8.toNat_ofNat']
    exact h
  have hnumber : 0 + a.toNat <<< 24 + b.toNat <<< 16 + c.toNat <<< 8 + d.toNat
      = ((a.toNat * 256 + b.toNat) * 256 + c.toNat) * 256 + d.toNat := by
    simp only [Nat.shiftLeft_eq]
    omega
  rw [readShortQuad?, hnumbers]
  show (guard (4 ≤ 4 ∧ [a.toNat, b.toNat, c.toNat].all (· < 256) = true ∧ d.toNat < 256)
    >>= fun _ => let n := 0 + a.toNat <<< 24 + b.toNat <<< 16 + c.toNat <<< 8 + d.toNat
      some (Address.v4 (UInt8.ofNat (n >>> 24)) (UInt8.ofNat (n >>> 16)) (UInt8.ofNat (n >>> 8))
        (UInt8.ofNat n))) = some (.v4 a b c d)
  rw [guard, if_pos ⟨Nat.le_refl 4, hfront, hd⟩, hnumber]
  simp only [Nat.shiftRight_eq_div_pow]
  rw [hbyte (x := a) (by omega), hbyte (x := b) (by omega), hbyte (x := c) (by omega),
    hbyte (x := d) (by omega)]
  rfl

/-- Digits and points are in no way special. -/
theorem mem_quadText : ∀ x ∈ Address.quadText a b c d, isDigit x = true ∨ x = '.' := by
  intro x hx
  rw [Address.quadText_eq] at hx
  rcases mem_joinWith hx with hpoint | ⟨label, hlabel, hmem⟩
  · exact Or.inr hpoint
  · exact Or.inl (Address.isDigit_of_mem_quadLabels a b c d label hlabel x hmem)

theorem not_isForbidden {x : Char} (h : isDigit x = true ∨ x = '.') : isForbidden x = false := by
  have hlist : ∀ y ∈ "#/:<>?@[\\]^|%".toList, ¬ isDigit y = true ∧ y ≠ '.' := by
    have hall : ("#/:<>?@[\\]^|%".toList.all fun y => !isDigit y && y != '.') = true := rfl
    intro y hy
    have hy := List.all_eq_true.mp hall y hy
    rw [Bool.and_eq_true, Bool.not_eq_true', bne_iff_ne] at hy
    exact ⟨ne_true_of_eq_false hy.1, hy.2⟩
  have hrange : 0x20 < x.toNat ∧ x.toNat < 0x7F := by
    rcases h with h | rfl
    · have := (isDigit_iff x).mp h
      omega
    · decide
  rw [isForbidden, Bool.or_eq_false_iff, Bool.or_eq_false_iff, decide_eq_false_iff_not,
    decide_eq_false_iff_not]
  refine ⟨⟨by omega, by omega⟩, eq_false_of_ne_true fun hmem => ?_⟩
  obtain ⟨hdigit, hpoint⟩ := hlist x (List.contains_iff_mem.mp hmem)
  exact h.elim hdigit hpoint

/-- A host that begins with no bracket is a name, which may turn out to be an address. -/
theorem read?_of_head {cs : List Char} (hne : cs ≠ []) (h : cs.head? ≠ some '[') :
    read? cs = (do
      let name ← HostName.toAscii? (Utf8.decodeLossy (Percent.decode cs))
      guard (name ≠ [] ∧ ¬ name.any isForbidden)
      if endsInNumber name then (readShortQuad? name).map .address
      else some (.name (String.ofList name))) := by
  cases cs with
  | nil => exact absurd rfl hne
  | cons c rest =>
      rw [read?]
      · exact List.cons_ne_nil c rest
      · intro others hcs
        exact h (congrArg List.head? hcs)

/-- **THE TEXT OF AN ADDRESS OF VERSION 4** is read back. -/
theorem read?_quadText : read? (Address.quadText a b c d) = some (.address (.v4 a b c d)) := by
  have hchars := mem_quadText a b c d
  have hne : Address.quadText a b c d ≠ [] :=
    List.append_ne_nil_of_right_ne_nil _ (List.cons_ne_nil _ _)
  have hhead : (Address.quadText a b c d).head? ≠ some '[' := by
    intro h
    exact absurd (hchars '[' (List.mem_of_mem_head? h)) (by decide)
  have hpercent : '%' ∉ Address.quadText a b c d := by
    intro h
    exact absurd (hchars '%' h) (by decide)
  have hbytes : Utf8.decodeLossy (Percent.decode (Address.quadText a b c d))
      = Address.quadText a b c d := by
    rw [Percent.decode_plain hpercent]
    exact (Utf8.repairs_encode _).decodeLossy_eq
  have hname : HostName.toAscii? (Address.quadText a b c d)
      = some (Address.quadText a b c d) := by
    rw [Address.quadText_eq]
    exact HostName.toAscii?_joinWith (List.cons_ne_nil _ _)
      (Address.isDigit_of_mem_quadLabels a b c d)
  have hallowed : ¬ (Address.quadText a b c d).any isForbidden = true := by
    intro h
    obtain ⟨x, hx, hforbidden⟩ := List.any_eq_true.mp h
    rw [not_isForbidden (hchars x hx)] at hforbidden
    exact absurd hforbidden Bool.false_ne_true
  have hguard : guard (Address.quadText a b c d ≠ []
      ∧ ¬ (Address.quadText a b c d).any isForbidden) = some () := if_pos ⟨hne, hallowed⟩
  simp only [read?_of_head hne hhead, hbytes, hname, bind, Option.bind_some, hguard,
    if_pos (endsInNumber_quadText a b c d), readShortQuad?_quadText]
  rfl

end Host

end Quad

/-! ## Addresses of version 6 -/

namespace Address

/-- The characters that addresses are written with: hexadecimal digits, points and colons. -/
def isTextChar (c : Char) : Bool := isDigit c || ('a' ≤ c && c ≤ 'f') || c == '.' || c == ':'

theorem isTextChar_of_isDigit {c : Char} (h : isDigit c = true) : isTextChar c = true := by
  rw [isTextChar, h]
  rfl

/-- The characters of addresses lie between the point and the letter f. -/
theorem range_of_isTextChar {c : Char} (h : isTextChar c = true) :
    46 ≤ c.toNat ∧ c.toNat ≤ 102 := by
  rw [isTextChar, Bool.or_eq_true, Bool.or_eq_true, Bool.or_eq_true, Bool.and_eq_true,
    decide_eq_true_iff, decide_eq_true_iff, beq_iff_eq, beq_iff_eq, isDigit_iff] at h
  rcases h with ((⟨hlow, hhigh⟩ | ⟨hlow, hhigh⟩) | rfl) | rfl
  · omega
  · have hlow : 97 ≤ c.toNat := hlow
    have hhigh : c.toNat ≤ 102 := hhigh
    omega
  · decide
  · decide

theorem mem_hexText {n : Nat} : ∀ c ∈ hexText n, isTextChar c = true := by
  have hdigit : ∀ d < 16, isTextChar d.digitChar = true := by decide
  induction n using Nat.strongRecOn with
  | ind n ih =>
      intro c hc
      rw [hexText] at hc
      by_cases hn : n < 16
      · rw [Nat.toDigits_of_lt_base hn, List.mem_singleton] at hc
        exact hc ▸ hdigit n hn
      · rw [Nat.toDigits_of_base_le (by omega) (by omega), List.mem_append,
          List.mem_singleton] at hc
        rcases hc with hc | rfl
        · exact ih (n / 16) (by omega) c hc
        · exact hdigit _ (Nat.mod_lt n (by omega))

theorem mem_groupsText {gs : List UInt16} : ∀ c ∈ groupsText gs, isTextChar c = true := by
  intro c hc
  rcases mem_joinWith hc with rfl | ⟨part, hpart, hmem⟩
  · rfl
  · obtain ⟨g, -, rfl⟩ := List.mem_map.mp hpart
    exact mem_hexText c hmem

theorem mem_v6Text {gs : List UInt16} : ∀ c ∈ v6Text gs, isTextChar c = true := by
  intro c hc
  unfold v6Text at hc
  split at hc
  · rw [List.mem_append] at hc
    rcases hc with hc | hc
    · have hmark : "::ffff:".toList.all isTextChar = true := rfl
      exact List.all_eq_true.mp hmark c hc
    · rcases Host.mem_quadText _ _ _ _ c hc with hdigit | rfl
      · exact isTextChar_of_isDigit hdigit
      · rfl
  · simp only [compressedText] at hc
    split at hc
    · rw [List.mem_append, List.mem_cons, List.mem_cons] at hc
      rcases hc with hc | rfl | rfl | hc
      · exact mem_groupsText c hc
      · rfl
      · rfl
      · exact mem_groupsText c hc
    · exact mem_groupsText c hc

/-- There is a colon in every address of version 6. -/
theorem colon_mem_v6Text {gs : List UInt16} (h : 2 ≤ gs.length) : ':' ∈ v6Text gs := by
  unfold v6Text
  split
  · exact List.mem_append_left _ (List.elem_iff.mp rfl)
  · simp only [compressedText]
    split
    · exact List.mem_append_right _ List.mem_cons_self
    · match gs, h with
      | a :: b :: rest, _ =>
          rw [groupsText, List.map_cons, List.map_cons, joinWith]
          · exact List.mem_append_left _ List.mem_concat_self
          · exact List.cons_ne_nil _ _

/-- **THE TEXT OF AN ADDRESS**, of either version, is made of such characters. -/
theorem mem_text {a : Address} : ∀ c ∈ a.text.toList, isTextChar c = true := by
  intro c hc
  cases a with
  | v4 a b c d =>
      rw [text, String.toList_ofList] at hc
      rcases Host.mem_quadText a b c d _ hc with hdigit | rfl
      · exact isTextChar_of_isDigit hdigit
      · rfl
  | v6 gs =>
      rw [text, String.toList_ofList] at hc
      exact mem_v6Text c hc

end Address

end TaskConsole
