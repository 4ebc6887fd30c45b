import TaskConsole.Discovery.Slices
import TaskConsole.Proofs.ByteOffsets
import TaskConsole.Proofs.Utf8Text
import TaskConsole.Proofs.ZoneDesignators

/-! # Zone cuts — designators cut off at byte offsets, without a fault

    Any host may announce a heartbeat, and what it sends need not be a timestamp.  Its
    zone designator is found and cut off at byte offsets, and a wrong one would end the
    listener.  None is wrong (`cutZone_eq`): every offset is that of a time mark or of a
    sign, or of what follows a sign, and these have one byte each, whatever stands around
    them.  Sums of offsets are offsets of the text again, and so no greater than its size.

    * The bytes behind a sign are looked at where the reader looks at characters; the
      two agree, since the bytes of an offset are its characters (`isOffsetBytes_encode`).
    * From the text on, every operation ends as the one without faults does: that of the
      reader, of the registry, and of the listener (`Timestamp.readBySlices_eq`,
      `Announcement.decodeBySlices_eq`, `Registry.absorbAllBySlices_eq`,
      `Listener.receiveBySlices_eq`).
    * What is removed is a designator, and one that can be removed is (`Removable`). -/

namespace TaskConsole

open Text

/-! ## The bytes of an offset -/

section OffsetBytes

variable {c : Char} {cs : List Char}

theorem isDigitByte_ofNat (h : c.toNat < 0x80) :
    isDigitByte (UInt8.ofNat c.toNat) = isDigit c := by
  rw [isDigitByte, Utf8.toNat_byte (by omega), isDigit]

theorem isColonByte_ofNat (h : c.toNat < 0x80) :
    ((UInt8.ofNat c.toNat).toNat == ':'.toNat) = (c == ':') := by
  rw [Utf8.toNat_byte (by omega), Bool.eq_iff_iff, beq_iff_eq, beq_iff_eq]
  exact Char.toNat_inj

theorem all_isDigitByte (cs : List Char) (h : ∀ c ∈ cs, c.toNat < 0x80) :
    (cs.map fun c => UInt8.ofNat c.toNat).all isDigitByte = cs.all isDigit := by
  rw [List.all_map, Bool.eq_iff_iff, List.all_eq_true, List.all_eq_true]
  refine forall₂_congr fun c hc => ?_
  rw [Function.comp_apply, isDigitByte_ofNat (h c hc)]

theorem isOffset_four (a b c d : Char) : isOffset [a, b, c, d] = [a, b, c, d].all isDigit := by
  simp [isOffset, Bool.and_assoc]

theorem isOffset_five (a b mark c d : Char) :
    isOffset [a, b, mark, c, d] = (mark == ':' && [a, b, c, d].all isDigit) := by
  by_cases hmark : mark = ':'
  · subst hmark
    simp [isOffset, Bool.and_assoc]
  · simp [isOffset, hmark]

/-- Bytes and characters are looked at alike, where each character has one byte. -/
theorem isOffsetBytes_map (h : ∀ c ∈ cs, c.toNat < 0x80) :
    isOffsetBytes (cs.map fun c => UInt8.ofNat c.toNat) = isOffset cs := by
  rcases cs with _ | ⟨a, _ | ⟨b, _ | ⟨c, _ | ⟨d, _ | ⟨e, _ | ⟨f, rest⟩⟩⟩⟩⟩⟩
  case cons.cons.cons.cons.nil =>
    rw [isOffset_four, ← all_isDigitByte _ h]
    rfl
  case cons.cons.cons.cons.cons.nil =>
    simp only [List.forall_mem_cons] at h
    obtain ⟨ha, hb, hc, hd, he, -⟩ := h
    have hdigits := all_isDigitByte [a, b, d, e] (by simp [ha, hb, hd, he])
    rw [isOffset_five, ← hdigits, ← isColonByte_ofNat hc]
    rfl
  -- no other number of characters makes an offset
  all_goals simp [isOffset, isOffsetBytes]

theorem ascii_of_isOffset (h : isOffset cs = true) : ∀ c ∈ cs, c.toNat < 0x80 := by
  have hoffset := (OffsetText.iff_isOffset (show isSign '+' = true from rfl) cs).mpr h
  have hdigit : ∀ c, isDigit c = true → c.toNat < 0x80 := fun c hc => by
    have hrange := (isDigit_iff c).mp hc
    omega
  cases hoffset with
  | compact _ a b c d _ hd => exact fun x hx => hdigit x (hd x hx)
  | colon _ a b c d _ hd =>
      simp only [List.forall_mem_cons] at hd ⊢
      obtain ⟨ha, hb, hc, hd, hnil⟩ := hd
      exact ⟨hdigit a ha, hdigit b hb, by decide, hdigit c hc, hdigit d hd,
        fun x hx => absurd hx List.not_mem_nil⟩

theorem ascii_of_isOffsetBytes {bs : List UInt8} (h : isOffsetBytes bs = true) :
    ∀ b ∈ bs, b.toNat < 0x80 := by
  have hdigit : ∀ b : UInt8, isDigitByte b = true → b.toNat < 0x80 := fun b hb => by
    rw [isDigitByte, Bool.and_eq_true, decide_eq_true_iff, decide_eq_true_iff] at hb
    exact Nat.lt_of_le_of_lt hb.2 (by decide)
  unfold isOffsetBytes at h
  split at h
  · rename_i a b mark c d
    simp only [Bool.and_eq_true, beq_iff_eq, List.all_eq_true, List.forall_mem_cons] at h ⊢
    obtain ⟨hmark, ha, hb, hc, hd, hnil⟩ := h
    refine ⟨hdigit a ha, hdigit b hb, ?_, hdigit c hc, hdigit d hd,
      fun x hx => absurd hx List.not_mem_nil⟩
    rw [hmark]
    decide
  · exact fun b hb => hdigit b (List.all_eq_true.mp h b hb)
  · exact absurd h Bool.false_ne_true

/-- **THE BYTES BEHIND A SIGN** are those of an offset exactly if its characters are. -/
theorem isOffsetBytes_encode (s : String) :
    isOffsetBytes (Utf8.encode s) = isOffset s.toList := by
  rw [Utf8.encode_eq]
  by_cases hascii : ∀ c ∈ s.toList, c.toNat < 0x80
  · rw [Utf8.flatMap_encodeChar_ascii hascii, isOffsetBytes_map hascii]
  · -- with a character of several bytes, it is no offset by either
    have hbytes : isOffsetBytes (s.toList.flatMap String.utf8EncodeChar) = false :=
      Bool.eq_false_iff.mpr fun h =>
        hascii (Utf8.ascii_of_flatMap_encodeChar (ascii_of_isOffsetBytes h))
    have hchars : isOffset s.toList = false :=
      Bool.eq_false_iff.mpr fun h => hascii (ascii_of_isOffset h)
    rw [hbytes, hchars]

end OffsetBytes

/-! ## The cut -/

/-- What follows a result goes on with it. -/
theorem ok_bind {ε α β : Type} (a : α) (f : α → Except ε β) : (Except.ok a >>= f) = f a := rfl

/-- One of two characters of one byte each. -/
theorem utf8Size_eq_one {a b c : Char} (ha : a.utf8Size = 1) (hb : b.utf8Size = 1)
    (h : (c == a || c == b) = true) : c.utf8Size = 1 := by
  rw [Bool.or_eq_true, beq_iff_eq, beq_iff_eq] at h
  rcases h with rfl | rfl
  · exact ha
  · exact hb

/-- Behind the offset of a time mark, the offset from universal time is cut off as the
    reader cuts it off. -/
theorem cutOffset_eq (u v : List Char) :
    cutOffset (String.ofList (u ++ v)) (String.ofList u).utf8ByteSize
      = .ok (String.ofList (u ++ stripOffset v)) := by
  rw [cutOffset, slice_right u v, ok_bind]
  rcases none_or_last isSign v with hno | ⟨front, sign, back, rfl, hs, hb⟩
  · rw [lastOffset?_none hno, stripOffset_unsigned hno]
    rfl
  · have hkept := slice_left (u ++ front) (sign :: back)
    have hbehind := slice_right (u ++ front ++ [sign]) back
    rw [List.append_assoc] at hkept
    rw [List.append_assoc, List.append_assoc, List.singleton_append] at hbehind
    -- the offsets of the sign, and of the byte behind it, as sums
    rw [utf8ByteSize_append] at hkept
    rw [utf8ByteSize_append, utf8ByteSize_append, utf8ByteSize_singleton,
      utf8Size_eq_one rfl rfl hs] at hbehind
    rw [lastOffset?_eq front hs hb, stripOffset_signed hs front hb]
    show (slice _ _ _ >>= _) = _
    rw [hbehind, ok_bind, isOffsetBytes_encode, String.toList_ofList]
    cases isOffset back with
    | true => exact hkept
    | false => rfl

theorem any_isZulu_of_endsPlain {cs : List Char} (h : EndsPlain cs) :
    cs.getLast?.any isZulu = false := by
  cases hlast : cs.getLast? with
  | none => rfl
  | some c =>
      obtain ⟨hupper, hlower⟩ := h c hlast
      show isZulu c = false
      rw [isZulu, Bool.or_eq_false_iff, beq_eq_false_iff_ne, beq_eq_false_iff_ne]
      exact ⟨hupper, hlower⟩

/-- Universal time is one letter, unless it is left out. -/
theorem ZuluText.exists_letter {d : List Char} (h : ZuluText d) (hne : d ≠ []) :
    ∃ c, d = [c] ∧ isZulu c = true := by
  cases h with
  | absent => exact absurd rfl hne
  | upper => exact ⟨'Z', rfl, rfl⟩
  | lower => exact ⟨'z', rfl, rfl⟩

theorem zuluText_letter {c : Char} (h : isZulu c = true) : ZuluText [c] := by
  rw [isZulu, Bool.or_eq_true, beq_iff_eq, beq_iff_eq] at h
  rcases h with rfl | rfl
  · exact .upper
  · exact .lower

/-- **EVERY TEXT IS CUT** as the reader cuts it, without a fault. -/
theorem cutZone_eq (s : String) : cutZone s = .ok (String.ofList (stripZone s.toList)) := by
  rw [← String.ofList_toList (s := s)]
  generalize s.toList = cs
  rw [cutZone, String.toList_ofList]
  rcases endsPlain_or_zulu cs with hplain | ⟨u, d, rfl, hd, hne⟩
  · rw [any_isZulu_of_endsPlain hplain, if_neg Bool.false_ne_true]
    rcases none_or_first isTimeMark cs with hno | ⟨u, mark, v, rfl, hno, hm⟩
    · rw [firstOffset?_none hno, stripZone_unmarked hno hplain]
    · rw [firstOffset?_eq hno hm, stripZone_marked hno hm hplain]
      exact cutOffset_eq u (mark :: v)
  · obtain ⟨c, rfl, hc⟩ := hd.exists_letter hne
    rw [List.getLast?_concat, Option.any_some, if_pos hc, utf8ByteSize_append,
      utf8ByteSize_singleton, utf8Size_eq_one rfl rfl hc, Nat.add_sub_cancel, slice_left,
      stripZone_zulu hd hne]

/-- **EVERY TEXT IS READ** as by the reader, without a fault. -/
theorem Timestamp.readBySlices_eq (s : String) :
    Timestamp.readBySlices s = .ok (Timestamp.read? s) := by
  have hread : Timestamp.read? s = wallClock? (stripZone (trim s).toList) := by
    rw [Timestamp.read?, readChars?, toList_trim]
  rw [hread, Timestamp.readBySlices]
  cases hempty : (trim s).isEmpty with
  | true =>
      rw [String.isEmpty_iff.mp hempty]
      rfl
  | false =>
      show (cutZone (trim s) >>= _) = _
      rw [cutZone_eq, ok_bind, String.toList_ofList]
      rfl

/-! ## The listener -/

namespace Announcement

theorem heartbeatBySlices_eq (ms : Json.Members) : heartbeatBySlices ms
    = .ok ((Json.lookup "last_heartbeat" ms).bind Json.timestamp?) := by
  have htext : (Json.lookup "last_heartbeat" ms).bind Json.timestamp?
      = ((Json.lookup "last_heartbeat" ms).bind Json.text?).bind Timestamp.read? := by
    rw [Option.bind_assoc]
    rfl
  rw [heartbeatBySlices, htext]
  cases (Json.lookup "last_heartbeat" ms).bind Json.text? with
  | none => rfl
  | some s => exact Timestamp.readBySlices_eq s

theorem ofMembersBySlices_eq (sender : Address) (now : Timestamp) (ms : Json.Members) :
    ofMembersBySlices sender now ms = .ok (ofMembers sender now ms) := by
  rw [ofMembersBySlices, heartbeatBySlices_eq, ok_bind]
  rfl

/-- No heartbeat is a fault. -/
theorem decodeBySlices_eq (bytes : List UInt8) (sender : Address) (now : Timestamp) :
    decodeBySlices bytes sender now = .ok (decode? bytes sender now) := by
  rw [decodeBySlices, decode?]
  cases serviceMembers? bytes with
  | none => rfl
  | some ms =>
      show (some <$> ofMembersBySlices sender now ms) = _
      rw [ofMembersBySlices_eq]
      rfl

end Announcement

namespace Registry

theorem observeBySlices_eq (r : Registry) (d : Datagram) :
    r.observeBySlices d = .ok (r.observe d.bytes d.sender d.receivedAt).1 := by
  rw [observeBySlices, Announcement.decodeBySlices_eq, ok_bind, observe]
  cases Announcement.decode? d.bytes d.sender d.receivedAt <;> rfl

theorem observeAllBySlices_eq (r : Registry) (batch : List Datagram) :
    batch.foldlM observeBySlices r = .ok (r.observeAll batch) := by
  induction batch generalizing r with
  | nil => rfl
  | cons d batch ih =>
      rw [List.foldlM_cons, observeBySlices_eq, ok_bind, ih]
      rfl

theorem absorbBySlices_eq (r : Registry) (batch : List Datagram) :
    r.absorbBySlices batch = .ok (r.absorb batch) := by
  rw [absorbBySlices, observeAllBySlices_eq]
  rfl

/-- **BATCH AFTER BATCH**, nothing is a fault. -/
theorem absorbAllBySlices_eq (r : Registry) (batches : List (List Datagram)) :
    r.absorbAllBySlices batches = .ok (r.absorbAll batches) := by
  induction batches generalizing r with
  | nil => rfl
  | cons batch rest ih =>
      rw [absorbAllBySlices, absorbBySlices_eq, ok_bind, absorbAll]
      obtain ⟨s, published⟩ := r.absorb batch
      show (s.absorbAllBySlices rest >>= _) = _
      rw [ih, ok_bind]
      rfl

end Registry

/-- **WHAT ARRIVES** at a listener never ends it. -/
theorem Listener.receiveBySlices_eq (l : Listener) (batch : List Datagram) :
    l.receiveBySlices batch = .ok (l.receive batch) := by
  cases hl : l.registry? with
  | none => simp only [receiveBySlices, receive, hl]
  | some r =>
      simp only [receiveBySlices, receive, hl, Registry.absorbBySlices_eq, ok_bind]
      obtain ⟨s, published⟩ := r.absorb batch
      cases published <;> rfl

/-! ## What is removed -/

/-- What is removed behind the part of a text that is kept: the letter of universal time, or
    an offset from it that stands behind a time mark, and so behind the first one, and that
    no other sign stands in. -/
inductive Removable (kept : List Char) : List Char → Prop where
  | zulu (c : Char) : isZulu c = true → Removable kept [c]
  | offset (sign : Char) (back : List Char) : OffsetText (sign :: back) →
      (∀ c ∈ back, isSign c = false) → (∃ c ∈ kept, isTimeMark c = true) →
      Removable kept (sign :: back)

/-- It is removed, and nothing that stands before it. -/
theorem Removable.stripZone_eq {kept removed : List Char} (h : Removable kept removed) :
    stripZone (kept ++ removed) = kept := by
  cases h with
  | zulu c hc => exact stripZone_zulu (zuluText_letter hc) (List.cons_ne_nil c []) kept
  | offset sign back hoffset _ hmark => exact stripZone_offset hoffset hmark

/-- Nothing else is removed. -/
theorem stripZone_removable (cs : List Char) : ∃ removed, cs = stripZone cs ++ removed
    ∧ (removed = [] ∨ Removable (stripZone cs) removed) := by
  obtain ⟨d, hcs, hd⟩ := stripZone_split cs
  refine ⟨d, hcs, ?_⟩
  rcases hd with hzulu | ⟨hoffset, hmark⟩
  · rcases Decidable.em (d = []) with hnil | hne
    · exact Or.inl hnil
    · obtain ⟨c, rfl, hc⟩ := hzulu.exists_letter hne
      exact Or.inr (.zulu c hc)
  · obtain ⟨sign, back, rfl, -, -, hback⟩ := hoffset.cons
    exact Or.inr (.offset sign back hoffset (fun c hc => isSign_of_isClockChar (hback c hc))
      hmark)

/-- **ZONES ARE CUT SAFELY.** -/
theorem zones_cut_safely :
    -- a slice is taken exactly where the part of the text that it is begins and ends
    (∀ s i j t, slice s i j = .ok t ↔
      ∃ u w, s = u ++ t ++ w ∧ i = u.utf8ByteSize ∧ j = (u ++ t).utf8ByteSize)
    -- every text is cut by such slices alone, and as the reader cuts it
    ∧ (∀ s, cutZone s = .ok (String.ofList (stripZone s.toList)))
    -- what is kept begins the text, and one designator at most is removed behind it
    ∧ (∀ s kept, cutZone s = .ok kept → ∃ removed, s = kept ++ removed
      ∧ (removed = "" ∨ Removable kept.toList removed.toList))
    -- which is always removed where it ends a text, and nothing that stands before it
    ∧ (∀ kept removed, Removable kept.toList removed.toList →
      cutZone (kept ++ removed) = .ok kept)
    -- every text is read so, as a timestamp or as none
    ∧ (∀ s, Timestamp.readBySlices s = .ok (Timestamp.read? s))
    -- so there is no datagram with a heartbeat that is a fault
    ∧ (∀ bytes sender now, Announcement.decodeBySlices bytes sender now
      = .ok (Announcement.decode? bytes sender now))
    -- nor a sequence of batches
    ∧ (∀ (r : Registry) batches, r.absorbAllBySlices batches = .ok (r.absorbAll batches))
    -- and none ends a listener
    ∧ ∀ (l : Listener) batch, l.receiveBySlices batch = .ok (l.receive batch) := by
  refine ⟨fun s i j t => slice_eq_ok_iff, cutZone_eq, fun s kept h => ?_,
    fun kept removed h => ?_, Timestamp.readBySlices_eq, Announcement.decodeBySlices_eq,
    Registry.absorbAllBySlices_eq, Listener.receiveBySlices_eq⟩
  · cases h.symm.trans (cutZone_eq s)
    obtain ⟨removed, hs, hremoved⟩ := stripZone_removable s.toList
    refine ⟨String.ofList removed, ?_, ?_⟩
    · rw [← String.ofList_append, ← hs, String.ofList_toList]
    · rw [String.toList_ofList, String.toList_ofList]
      exact hremoved.imp_left fun hnil => congrArg String.ofList hnil
  · rw [cutZone_eq, String.toList_append, h.stripZone_eq, String.ofList_toList]

/-- The sign stands behind characters of two bytes, and the only time mark is no part of
    a timestamp. -/
theorem zones_cut_safely_accented :
    cutZone "Métier-0530" = .ok "Métier"
    ∧ (∃ removed, "Métier-0530" = "Métier" ++ removed
      ∧ (removed = "" ∨ Removable "Métier".toList removed.toList))
    ∧ Removable "Métier".toList "-0530".toList := by
  have hdigits : ∀ x ∈ ['0', '5', '3', '0'], isDigit x = true := List.all_eq_true.mp rfl
  have hremovable : Removable "Métier".toList "-0530".toList :=
    .offset '-' ['0', '5', '3', '0'] (.compact '-' '0' '5' '3' '0' rfl hdigits)
      (fun c hc => isSign_of_isClockChar (isClockChar_of_isDigit (hdigits c hc)))
      ⟨'t', List.mem_of_elem_eq_true rfl, rfl⟩
  have hcut : cutZone "Métier-0530" = .ok "Métier" :=
    zones_cut_safely.2.2.2.1 "Métier" "-0530" hremovable
  exact ⟨hcut, zones_cut_safely.2.2.1 "Métier-0530" "Métier" hcut, hremovable⟩

end TaskConsole
