import TaskConsole.Text.Slice

/-! # Byte offsets — where the parts of a text begin and end

    The offsets of a text are those at which one part of it ends and another begins,
    and so an offset is never looked at on its own, but with the two parts.

    * A slice is taken exactly if it stands there, as one of three parts of the text
      (`slice_eq_ok_iff`): an offset that is out of range, or within a character, has no
      part that ends there.
    * The first and the last character of a class begin where the part before them
      ends (`firstOffset?_eq`, `lastOffset?_eq`), however many bytes its characters have. -/

namespace TaskConsole.Text

/-! ## Slices -/

/-- Where one part of a text ends and another begins, a slice may begin or end. -/
theorem isValid_append (u w : String) : String.Pos.Raw.IsValid (u ++ w) ⟨u.utf8ByteSize⟩ :=
  String.Pos.Raw.isValid_iff_exists_append.mpr ⟨u, w, rfl, rfl⟩

/-- The part in the middle. -/
theorem slice_append (u t w : String) :
    slice (u ++ t ++ w) u.utf8ByteSize (u ++ t).utf8ByteSize = .ok t := by
  have hpart : (u ++ t).utf8ByteSize = u.utf8ByteSize + t.utf8ByteSize :=
    String.utf8ByteSize_append
  have hwhole : (u ++ t ++ w).utf8ByteSize = (u ++ t).utf8ByteSize + w.utf8ByteSize :=
    String.utf8ByteSize_append
  have hstart : String.Pos.Raw.IsValid (u ++ t ++ w) ⟨u.utf8ByteSize⟩ := by
    rw [String.append_assoc]
    exact isValid_append u (t ++ w)
  rw [slice, if_neg (by omega), if_neg (by omega), dif_pos ⟨hstart, isValid_append _ w⟩]
  refine congrArg Except.ok (String.toByteArray_inj.mp ?_)
  rw [String.toByteArray_extract]
  show (u ++ t ++ w).toByteArray.extract (u.utf8ByteSize + 0) (u ++ t).utf8ByteSize
    = t.toByteArray
  rw [hpart, String.append_assoc, String.toByteArray_append, String.toByteArray_append,
    ← String.size_toByteArray, ← String.size_toByteArray, ByteArray.extract_append_size_add,
    ByteArray.extract_append_eq_left rfl]

/-- The part at the end. -/
theorem slice_right (u t : List Char) : slice (String.ofList (u ++ t))
    (String.ofList u).utf8ByteSize (String.ofList (u ++ t)).utf8ByteSize
      = .ok (String.ofList t) := by
  have h := slice_append (String.ofList u) (String.ofList t) ""
  rwa [String.append_empty, ← String.ofList_append] at h

/-- The part in front. -/
theorem slice_left (t w : List Char) : slice (String.ofList (t ++ w)) 0
    (String.ofList t).utf8ByteSize = .ok (String.ofList t) := by
  have h := slice_append "" (String.ofList t) (String.ofList w)
  rwa [String.empty_append, ← String.ofList_append] at h

/-- **A SLICE IS TAKEN** exactly if it is a part of the text that begins and ends where
    the offsets say. -/
theorem slice_eq_ok_iff {s t : String} {i j : Nat} : slice s i j = .ok t ↔
    ∃ u w, s = u ++ t ++ w ∧ i = u.utf8ByteSize ∧ j = (u ++ t).utf8ByteSize := by
  constructor
  · intro h
    have htaken := h
    rw [slice] at h
    split at h
    · cases h
    split at h
    · cases h
    split at h
    · rename_i hrange horder hvalid
      obtain ⟨v, w, rfl, hj⟩ := String.Pos.Raw.isValid_iff_exists_append.mp hvalid.2
      have hj : j = v.utf8ByteSize := congrArg String.Pos.Raw.byteIdx hj
      -- the part begins within what stands before its end
      have hi : String.Pos.Raw.IsValid v ⟨i⟩ := by
        rcases String.Pos.Raw.isValid_append.mp hvalid.1 with hi | ⟨hle, -⟩
        · exact hi
        · have hle : v.utf8ByteSize ≤ i := hle
          have heq : i = v.utf8ByteSize := by omega
          rw [heq]
          exact String.Pos.Raw.isValid_rawEndPos
      obtain ⟨u, part, rfl, hu⟩ := String.Pos.Raw.isValid_iff_exists_append.mp hi
      have hi : i = u.utf8ByteSize := congrArg String.Pos.Raw.byteIdx hu
      subst hi hj
      cases htaken.symm.trans (slice_append u part w)
      exact ⟨u, w, rfl, rfl, rfl⟩
    · cases h
  · rintro ⟨u, w, rfl, rfl, rfl⟩
    exact slice_append u t w

/-- An offset within a character is a fault. -/
example : slice "é" 0 1 = .error .torn := by rfl

/-! ## Characters -/

/-- The bytes of one part, and of the other. -/
theorem utf8ByteSize_append (u v : List Char) : (String.ofList (u ++ v)).utf8ByteSize
    = (String.ofList u).utf8ByteSize + (String.ofList v).utf8ByteSize := by
  rw [String.ofList_append, String.utf8ByteSize_append]

theorem utf8ByteSize_singleton (c : Char) : (String.ofList [c]).utf8ByteSize = c.utf8Size := by
  rw [← String.singleton_eq_ofList, String.utf8ByteSize_singleton]

section Characters

variable {q : Char → Bool}

theorem charOffsets_append (i : Nat) (u v : List Char) : charOffsets i (u ++ v)
    = charOffsets i u ++ charOffsets (i + (String.ofList u).utf8ByteSize) v := by
  induction u generalizing i with
  | nil => rfl
  | cons c u ih =>
      have hsize := utf8ByteSize_append [c] u
      rw [utf8ByteSize_singleton, List.singleton_append] at hsize
      rw [List.cons_append, charOffsets, charOffsets, ih, hsize, Nat.add_assoc,
        List.cons_append]

theorem mem_of_mem_charOffsets {i : Nat} {cs : List Char} {x : Nat × Char}
    (h : x ∈ charOffsets i cs) : x.2 ∈ cs := by
  induction cs generalizing i with
  | nil => exact absurd h List.not_mem_nil
  | cons c cs ih =>
      rcases List.mem_cons.mp h with rfl | h
      · exact List.mem_cons_self
      · exact List.mem_cons_of_mem c (ih h)

/-- In a text without a character of the class, none is found, from either end. -/
theorem find?_charOffsets {cs : List Char} (h : ∀ c ∈ cs, q c = false) (i : Nat) :
    (charOffsets i cs).find? (fun x => q x.2) = none
      ∧ (charOffsets i cs).reverse.find? (fun x => q x.2) = none := by
  have hnone : ∀ x ∈ charOffsets i cs, ¬ q x.2 = true := fun x hx => by
    rw [h x.2 (mem_of_mem_charOffsets hx)]
    exact Bool.false_ne_true
  exact ⟨List.find?_eq_none.mpr hnone,
    List.find?_eq_none.mpr fun x hx => hnone x (List.mem_reverse.mp hx)⟩

theorem firstOffset?_none {cs : List Char} (h : ∀ c ∈ cs, q c = false) :
    firstOffset? q (String.ofList cs) = none := by
  rw [firstOffset?, String.toList_ofList, (find?_charOffsets h 0).1]
  rfl

theorem lastOffset?_none {cs : List Char} (h : ∀ c ∈ cs, q c = false) :
    lastOffset? q (String.ofList cs) = none := by
  rw [lastOffset?, String.toList_ofList, (find?_charOffsets h 0).2]
  rfl

/-- The first character of the class begins where the part before it ends. -/
theorem firstOffset?_eq {u : List Char} (hu : ∀ c ∈ u, q c = false) {m : Char}
    (hm : q m = true) (v : List Char) :
    firstOffset? q (String.ofList (u ++ m :: v)) = some (String.ofList u).utf8ByteSize := by
  rw [firstOffset?, String.toList_ofList, charOffsets_append, List.find?_append,
    (find?_charOffsets hu 0).1, Option.none_or, charOffsets,
    List.find?_cons_of_pos (p := fun x : Nat × Char => q x.2) hm, Option.map_some,
    Nat.zero_add]

/-- The last one, where everything before it ends. -/
theorem lastOffset?_eq (u : List Char) {m : Char} (hm : q m = true) {v : List Char}
    (hv : ∀ c ∈ v, q c = false) :
    lastOffset? q (String.ofList (u ++ m :: v)) = some (String.ofList u).utf8ByteSize := by
  rw [lastOffset?, String.toList_ofList, charOffsets_append, charOffsets,
    List.reverse_append, List.reverse_cons, List.append_assoc, List.find?_append,
    (find?_charOffsets hv _).2, Option.none_or, List.singleton_append,
    List.find?_cons_of_pos (p := fun x : Nat × Char => q x.2) hm, Option.map_some,
    Nat.zero_add]

end Characters

end TaskConsole.Text
