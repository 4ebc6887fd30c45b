import Mathlib.Data.List.Induction
import TaskConsole.Proofs.Utf8Text

/-! # Repaired texts — bytes that are no text, read as one

    Bytes that are no text are still read: what is broken is cut into pieces, and U+FFFD
    stands for each of them.  Which pieces is said by `Repairs`, without a machine: a piece
    begins a character, does not finish it, and goes on for as long as some character
    begins so; or it is a single byte with which no character begins.

    The machine that looks at one byte at a time cuts exactly those
    (`decodeLossy_eq_iff`), since its state knows which bytes can come next:

    * what it holds begins a character (`Holds.unfinished`), and whatever begins one leads
      to something that it holds (`holds_of_unfinished`);
    * a byte finishes the character, goes on with it, or is one with which no character
      goes on (`Holds.next`). -/

namespace TaskConsole.Utf8

/-! ## What a text is repaired to -/

/-- The character that stands for a broken piece. -/
def replacement : Char := Char.ofNat 0xFFFD

/-- Some character begins with these bytes, or has no other ones. -/
def Begins (part : List UInt8) : Prop := ∃ c rest, part ++ rest = String.utf8EncodeChar c

/-- Some character begins with these bytes, and has others. -/
def Unfinished (part : List UInt8) : Prop :=
  ∃ c rest, rest ≠ [] ∧ part ++ rest = String.utf8EncodeChar c

/-- The characters of a byte sequence, with one that stands for each broken piece. -/
inductive Repairs : List UInt8 → List Char → Prop where
  | nil : Repairs [] []
  | char (c : Char) {rest : List UInt8} {cs : List Char} : Repairs rest cs →
      Repairs (String.utf8EncodeChar c ++ rest) (c :: cs)
  -- a piece that begins a character, as long as possible
  | broken {part rest : List UInt8} {cs : List Char} : part ≠ [] → Unfinished part →
      (∀ b ∈ rest.head?, ¬ Begins (part ++ [b])) → Repairs rest cs →
      Repairs (part ++ rest) (replacement :: cs)
  -- a byte that begins none
  | stray {b : UInt8} {rest : List UInt8} {cs : List Char} : ¬ Begins [b] →
      Repairs rest cs → Repairs (b :: rest) (replacement :: cs)

/-! ## One byte -/

/-- What the next byte leads to. A byte that is not admitted breaks what is pending. -/
def next : Option Pending → UInt8 → Step
  | none, b => lead b.toNat
  | some q, b => if q.admits b.toNat then q.push b.toNat else .done .broken

theorem piecesFrom_more {p : Option Pending} {b : UInt8} {q : Pending}
    (h : next p b = .more q) (bs : List UInt8) :
    piecesFrom p (b :: bs) = piecesFrom (some q) bs := by
  cases p with
  | none =>
      have hlead : lead b.toNat = .more q := h
      rw [piecesFrom, hlead]
  | some r =>
      rw [next] at h
      split at h
      · rename_i hadmits
        rw [piecesFrom, if_pos hadmits, h]
      · cases h

theorem piecesFrom_char {p : Option Pending} {b : UInt8} {c : Char}
    (h : next p b = .done (.char c)) (bs : List UInt8) :
    piecesFrom p (b :: bs) = .char c :: piecesFrom none bs := by
  cases p with
  | none =>
      have hlead : lead b.toNat = .done (.char c) := h
      rw [piecesFrom, hlead]
  | some r =>
      rw [next] at h
      split at h
      · rename_i hadmits
        rw [piecesFrom, if_pos hadmits, h]
      · cases h

theorem piecesFrom_stray {b : UInt8} (h : next none b = .done .broken) (bs : List UInt8) :
    piecesFrom none (b :: bs) = .broken :: piecesFrom none bs := by
  have hlead : lead b.toNat = .done .broken := h
  rw [piecesFrom, hlead]

/-- A byte that breaks a piece is read again as the start of another one. -/
theorem piecesFrom_broken {q : Pending} {b : UInt8} (h : next (some q) b = .done .broken)
    (bs : List UInt8) :
    piecesFrom (some q) (b :: bs) = .broken :: piecesFrom none (b :: bs) := by
  have hrefused : ¬ q.admits b.toNat = true := by
    intro hadmits
    rw [next, if_pos hadmits, Pending.push] at h
    split at h <;> cases h
  simp only [piecesFrom, if_neg hrefused]
  cases lead b.toNat <;> rfl

/-! ## What is held -/

/-- The bytes so far are held: between characters none, and within one those that lead to
    what is pending. -/
inductive Holds : List UInt8 → Option Pending → Prop where
  | nothing : Holds [] none
  | further {part : List UInt8} {p : Option Pending} {b : UInt8} {q : Pending} :
      Holds part p → next p b = .more q → Holds (part ++ [b]) (some q)

variable {part : List UInt8} {p : Option Pending}

/-- The machine goes on from what it holds. -/
theorem Holds.pieces_append (h : Holds part p) (bs : List UInt8) :
    pieces (part ++ bs) = piecesFrom p bs := by
  induction h generalizing bs with
  | nothing => rfl
  | further _ hmore ih =>
      rw [List.append_assoc, ih]
      exact piecesFrom_more hmore bs

theorem Holds.ne_nil {q : Pending} (h : Holds part (some q)) : part ≠ [] := by
  cases h with
  | further _ _ => exact List.append_ne_nil_of_right_ne_nil _ (List.cons_ne_nil _ [])

theorem piecesFrom_some_ne_nil (q : Pending) (bs : List UInt8) :
    piecesFrom (some q) bs ≠ [] := by
  induction bs generalizing q with
  | nil => exact List.cons_ne_nil _ _
  | cons b bs ih =>
      cases hnext : next (some q) b with
      | more r =>
          rw [piecesFrom_more hnext]
          exact ih r
      | done piece =>
          cases piece with
          | char c =>
              rw [piecesFrom_char hnext]
              exact List.cons_ne_nil _ _
          | broken =>
              rw [piecesFrom_broken hnext]
              exact List.cons_ne_nil _ _

/-- Where there are bytes, there are pieces. -/
theorem eq_nil_of_pieces {bs : List UInt8} (h : pieces bs = []) : bs = [] := by
  cases bs with
  | nil => rfl
  | cons b bs =>
      have hnil : piecesFrom none (b :: bs) = [] := h
      cases hnext : next none b with
      | more q =>
          rw [piecesFrom_more hnext] at hnil
          exact absurd hnil (piecesFrom_some_ne_nil q bs)
      | done piece =>
          cases piece with
          | char c =>
              rw [piecesFrom_char hnext] at hnil
              cases hnil
          | broken =>
              rw [piecesFrom_stray hnext] at hnil
              cases hnil

/-- Pieces are characters where none is broken. -/
theorem mapM_char_eq_some_iff {ps : List Piece} {cs : List Char} :
    ps.mapM Piece.char? = some cs ↔ ps = cs.map .char := by
  constructor
  · intro h
    induction ps generalizing cs with
    | nil =>
        cases Option.some.inj h
        rfl
    | cons p ps ih =>
        rw [mapM_char_cons] at h
        obtain ⟨c, hc, h⟩ := Option.bind_eq_some_iff.mp h
        obtain ⟨others, hothers, rfl⟩ := Option.map_eq_some_iff.mp h
        cases p with
        | char d =>
            cases Option.some.inj hc
            rw [ih hothers]
            rfl
        | broken => exact absurd hc.symm (Option.some_ne_none c)
  · rintro rfl
    induction cs with
    | nil => rfl
    | cons c cs ih =>
        rw [List.map_cons, mapM_char_cons, ih]
        rfl

/-- A character is a piece by itself. -/
theorem pieces_eq_char_iff {bs : List UInt8} {c : Char} :
    pieces bs = [.char c] ↔ bs = String.utf8EncodeChar c := by
  have hdecode : decode? bs = some [c] ↔ pieces bs = [.char c] := mapM_char_eq_some_iff
  rw [← hdecode, decode?_eq_some_iff, List.flatMap_singleton]

/-- A byte that finishes a character finishes this one. -/
theorem Holds.next_done (h : Holds part p) {b : UInt8} {c : Char}
    (hdone : next p b = .done (.char c)) : part ++ [b] = String.utf8EncodeChar c := by
  rw [← pieces_eq_char_iff, h.pieces_append, piecesFrom_char hdone]
  rfl

theorem Holds.next_broken (h : Holds part p) {b : UInt8} (hdone : next p b = .done .broken) :
    ¬ Begins (part ++ [b]) := by
  rintro ⟨c, rest, hrest⟩
  have hpieces := pieces_eq_char_iff.mpr hrest
  rw [List.append_assoc, h.pieces_append, List.singleton_append] at hpieces
  cases p with
  | none =>
      rw [piecesFrom_stray hdone] at hpieces
      cases hpieces
  | some q =>
      rw [piecesFrom_broken hdone] at hpieces
      cases hpieces

/-- The bytes that are admitted as the second one of a character. -/
theorem range_of_lead {b : Nat} {q : Pending} (h : lead b = .more q) :
    q.low ≤ q.high ∧ q.high < 256 := by
  unfold lead at h
  repeat' split at h
  all_goals first
    | exact absurd h Step.noConfusion
    | rw [← Step.more.inj h]
      dsimp only
      omega

/-- And as a later one. -/
theorem range_of_push {p q : Pending} {b : Nat} (h : p.push b = .more q) :
    q.low ≤ q.high ∧ q.high < 256 := by
  rw [Pending.push] at h
  split at h
  · exact absurd h Step.noConfusion
  · rw [← Step.more.inj h]
    dsimp only
    omega

/-- What is pending admits some byte. -/
theorem Holds.exists_admits {q : Pending} (h : Holds part (some q)) :
    ∃ b : UInt8, q.admits b.toNat = true := by
  have hrange : q.low ≤ q.high ∧ q.high < 256 := by
    cases h with
    | @further _ p b _ _ hmore =>
        cases p with
        | none => exact range_of_lead hmore
        | some r =>
            rw [next] at hmore
            split at hmore
            · exact range_of_push hmore
            · exact absurd hmore Step.noConfusion
  refine ⟨UInt8.ofNat q.low, admits_iff.mpr ?_⟩
  rw [toNat_byte (Nat.lt_of_le_of_lt hrange.1 hrange.2)]
  exact ⟨Nat.le_refl _, hrange.1⟩

/-- **WHAT IS PENDING** begins a character: as many bytes as are owed finish it. -/
theorem Holds.unfinished {q : Pending} (h : Holds part (some q)) : Unfinished part := by
  generalize hn : q.owed = n
  induction n generalizing part q with
  | zero =>
      obtain ⟨b, hb⟩ := h.exists_admits
      have hdone : next (some q) b = .done (.char (Char.ofNat (q.bits * 64 + (b.toNat - 0x80)))) := by
        rw [next, if_pos hb, Pending.push, hn]
      exact ⟨_, [b], List.cons_ne_nil b [], h.next_done hdone⟩
  | succ n ih =>
      obtain ⟨b, hb⟩ := h.exists_admits
      have hmore : next (some q) b = .more ⟨q.bits * 64 + (b.toNat - 0x80), n, 0x80, 0xBF⟩ := by
        rw [next, if_pos hb, Pending.push, hn]
      obtain ⟨c, rest, -, hrest⟩ := ih (.further h hmore) rfl
      rw [List.append_assoc] at hrest
      exact ⟨c, b :: rest, List.cons_ne_nil b rest, hrest⟩

/-- **ONE BYTE** breaks what is held exactly if no character goes on with it. -/
theorem Holds.breaks_iff (h : Holds part p) {b : UInt8} :
    next p b = .done .broken ↔ ¬ Begins (part ++ [b]) := by
  constructor
  · exact h.next_broken
  · intro hnot
    cases hnext : next p b with
    | more q =>
        obtain ⟨c, rest, -, hrest⟩ := (Holds.further h hnext).unfinished
        exact absurd ⟨c, rest, hrest⟩ hnot
    | done piece =>
        cases piece with
        | char c => exact absurd ⟨c, [], (List.append_nil _).trans (h.next_done hnext)⟩ hnot
        | broken => rfl

/-- **WHAT BEGINS A CHARACTER** and does not finish it leads to something that is held. -/
theorem holds_of_unfinished {rest : List UInt8} {c : Char} (hne : rest ≠ [])
    (h : part ++ rest = String.utf8EncodeChar c) : ∃ p, Holds part p := by
  induction part using List.reverseRecOn generalizing rest with
  | nil => exact ⟨none, .nothing⟩
  | append_singleton part b ih =>
      rw [List.append_assoc] at h
      obtain ⟨p, hp⟩ := ih (List.cons_ne_nil b rest) h
      cases hnext : next p b with
      | more q => exact ⟨some q, .further hp hnext⟩
      | done piece =>
          cases piece with
          | char d =>
              -- the character would be finished, with bytes left
              have hpieces := pieces_eq_char_iff.mpr h
              rw [hp.pieces_append, List.singleton_append, piecesFrom_char hnext] at hpieces
              exact absurd (eq_nil_of_pieces (List.cons.inj hpieces).2) hne
          | broken =>
              refine absurd ?_ (hp.next_broken hnext)
              exact ⟨c, rest, (List.append_assoc part [b] rest).trans h⟩

/-! ## Texts -/

/-- The bytes of a character are a piece, whatever follows. -/
theorem pieces_encodeChar_append (c : Char) (rest : List UInt8) :
    pieces (String.utf8EncodeChar c ++ rest) = .char c :: pieces rest := by
  obtain hnil | ⟨part, b, hlast⟩ := List.eq_nil_or_concat (String.utf8EncodeChar c)
  · exact absurd hnil (encodeChar_ne_nil c)
  · rw [List.concat_eq_append] at hlast
    obtain ⟨p, hp⟩ := holds_of_unfinished (List.cons_ne_nil b []) hlast.symm
    have hpieces := pieces_eq_char_iff.mpr hlast.symm
    rw [hp.pieces_append] at hpieces
    rw [hlast, List.append_assoc, hp.pieces_append, List.singleton_append]
    cases hnext : next p b with
    | more q =>
        rw [piecesFrom_more hnext] at hpieces
        cases hpieces
    | done piece =>
        cases piece with
        | char d =>
            rw [piecesFrom_char hnext] at hpieces ⊢
            rw [(List.cons.inj hpieces).1]
            rfl
        | broken =>
            refine absurd ?_ (hp.next_broken hnext)
            exact ⟨c, [], (List.append_nil _).trans hlast.symm⟩

/-- What is pending is broken where nothing goes on with it. -/
theorem piecesFrom_stops {q : Pending} {rest : List UInt8}
    (h : ∀ b ∈ rest.head?, next (some q) b = .done .broken) :
    piecesFrom (some q) rest = .broken :: pieces rest := by
  cases rest with
  | nil => rfl
  | cons b rest => exact piecesFrom_broken (h b rfl) rest

theorem Repairs.decodeLossy_eq {bs : List UInt8} {cs : List Char} (h : Repairs bs cs) :
    decodeLossy bs = cs := by
  induction h with
  | nil => rfl
  | char c _ ih =>
      rw [decodeLossy, pieces_encodeChar_append]
      exact congrArg (c :: ·) ih
  | @broken part rest cs hne hunfinished hstops _ ih =>
      obtain ⟨c, others, hothers, hc⟩ := hunfinished
      obtain ⟨p, hp⟩ := holds_of_unfinished hothers hc
      cases p with
      | none =>
          cases hp
          exact absurd rfl hne
      | some q =>
          have hbroken : ∀ b ∈ rest.head?, next (some q) b = .done .broken :=
            fun b hb => hp.breaks_iff.mpr (hstops b hb)
          rw [decodeLossy, hp.pieces_append, piecesFrom_stops hbroken]
          exact congrArg (replacement :: ·) ih
  | @stray b rest cs hnot _ ih =>
      have hbroken : next none b = .done .broken := Holds.nothing.breaks_iff.mpr hnot
      rw [decodeLossy, pieces, piecesFrom_stray hbroken]
      exact congrArg (replacement :: ·) ih

/-- The character that stands for a piece. -/
def Piece.shown (piece : Piece) : Char := piece.char?.getD replacement

/-- **THE MACHINE REPAIRS** what it holds and what follows. -/
theorem Holds.repairs (h : Holds part p) (bs : List UInt8) :
    Repairs (part ++ bs) ((piecesFrom p bs).map Piece.shown) := by
  induction bs generalizing part p with
  | nil =>
      cases p with
      | none =>
          cases h
          exact .nil
      | some q => exact .broken h.ne_nil h.unfinished (fun b hb => by cases hb) .nil
  | cons b bs ih =>
      -- between characters, the byte is the first of a piece
      have hstart : Repairs (b :: bs) ((pieces (b :: bs)).map Piece.shown) := by
        rw [pieces]
        cases hnext : next none b with
        | more q =>
            rw [piecesFrom_more hnext]
            exact ih (.further .nothing hnext)
        | done piece =>
            cases piece with
            | char c =>
                have hc : [b] = String.utf8EncodeChar c := Holds.nothing.next_done hnext
                rw [piecesFrom_char hnext, ← List.singleton_append, hc]
                exact .char c (ih .nothing)
            | broken =>
                rw [piecesFrom_stray hnext]
                exact .stray (Holds.nothing.breaks_iff.mp hnext) (ih .nothing)
      cases p with
      | none =>
          cases h
          exact hstart
      | some q =>
          cases hnext : next (some q) b with
          | more r =>
              have hrest := ih (.further h hnext)
              rw [List.append_assoc] at hrest
              rw [piecesFrom_more hnext]
              exact hrest
          | done piece =>
              cases piece with
              | char c =>
                  have hrest := Repairs.char c (ih .nothing)
                  rw [← h.next_done hnext, List.append_assoc] at hrest
                  rw [piecesFrom_char hnext]
                  exact hrest
              | broken =>
                  rw [piecesFrom_broken hnext]
                  refine .broken h.ne_nil h.unfinished ?_ hstart
                  intro c hc
                  rw [← Option.some.inj hc]
                  exact h.breaks_iff.mp hnext

/-- **BYTES ARE READ AS WHAT THEY ARE REPAIRED TO**, and as nothing else. -/
theorem decodeLossy_eq_iff {bs : List UInt8} {cs : List Char} :
    decodeLossy bs = cs ↔ Repairs bs cs := by
  constructor
  · rintro rfl
    exact Holds.nothing.repairs bs
  · exact Repairs.decodeLossy_eq

/-- A text is kept as it is. -/
theorem repairs_encode (cs : List Char) : Repairs (cs.flatMap String.utf8EncodeChar) cs := by
  induction cs with
  | nil => exact .nil
  | cons c cs ih => exact .char c ih

end TaskConsole.Utf8
