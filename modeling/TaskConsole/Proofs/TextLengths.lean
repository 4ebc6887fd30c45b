import Mathlib.Algebra.BigOperators.Group.List.Basic
import Mathlib.Algebra.GroupWithZero.Nat
import TaskConsole.Proofs.Noise

/-! # Text lengths — a datagram is longer than the texts in it

    A text stands in a document between quotes, and an escape is no shorter than the
    characters it stands for.  So the texts of a value, with their quotes, are together no
    longer than its tokens are written (`Derives.textLength_le`), and no longer than the
    bytes of the document (`IsDocument.textLength_le`).

    A path in an announcement is one text among others that must be there, which bounds its
    length by that of the datagram (`Announces.length_add_le`). -/

namespace TaskConsole

/-- Every character takes a byte. -/
theorem Utf8.length_le_flatMap_encodeChar (cs : List Char) :
    cs.length ≤ (cs.flatMap String.utf8EncodeChar).length := by
  induction cs with
  | nil => exact Nat.le_refl 0
  | cons c cs ih =>
      have hc := List.length_pos_of_ne_nil (encodeChar_ne_nil c)
      rw [List.flatMap_cons, List.length_append, List.length_cons]
      omega

namespace Json

/-! ## Tokens -/

namespace Token

/-- The characters that a token takes for a text and its quotes. -/
def textLength : Token → Nat
  | string s => s.length + 2
  | _ => 0

theorem BodyText.length_le {parts : List StringPart} {body : List Char}
    (h : BodyText parts body) : parts.length ≤ body.length := by
  induction h with
  | nil => exact Nat.le_refl 0
  | plain _ _ _ _ ih => exact Nat.succ_le_succ ih
  | escape _ _ ih => exact Nat.le_succ_of_le (Nat.succ_le_succ ih)
  | unit _ _ ih =>
      simp only [List.length_cons]
      omega

/-- A surrogate pair is two parts, and one character. -/
theorem Joins.length_le {parts : List StringPart} {cs : List Char} (h : Joins parts cs) :
    cs.length ≤ parts.length := by
  induction h with
  | nil => exact Nat.le_refl 0
  | char _ _ ih => exact Nat.succ_le_succ ih
  | unit _ _ _ ih => exact Nat.succ_le_succ ih
  | pair _ _ _ ih => exact Nat.le_succ_of_le (Nat.succ_le_succ ih)

theorem Lexeme.textLength_le {t : Token} {text : List Char} (h : Lexeme t text) :
    t.textLength ≤ text.length := by
  cases h with
  | @mark t c hmark =>
      have hnone : t.textLength = 0 := by
        unfold mark? at hmark
        split at hmark <;> cases hmark <;> rfl
      rw [hnone]
      exact Nat.zero_le _
  | string hbody hjoins =>
      have hle := Nat.le_trans hjoins.length_le hbody.length_le
      simp only [textLength, String.length_ofList, List.length_append, List.length_cons,
        List.length_nil]
      omega
  | _ => exact Nat.zero_le _

/-- **THE TEXTS IN A TEXT** are no longer than it. -/
theorem Scans.textLength_le {cs : List Char} {ts : List Token} (h : Scans cs ts) :
    (ts.map textLength).sum ≤ cs.length := by
  induction h with
  | done _ => exact Nat.zero_le _
  | token _ hlexeme _ _ ih =>
      have hle := hlexeme.textLength_le
      simp only [List.map_cons, List.sum_cons, List.length_append]
      omega

end Token

/-! ## Values -/

/-- The length of the texts of a value with their quotes, keys among them, in objects down
    to a depth. -/
def textLength : Nat → Json → Nat
  | _, string s => s.length + 2
  | depth + 1, object ms => (ms.map fun m => m.1.length + 2 + textLength depth m.2).sum
  | _, _ => 0

/-- If a measure of values is bounded by their tokens, so are its values for members. -/
theorem Derives.members_le {n : Nat} {f : Json → Nat}
    (hf : ∀ v ts, Derives n (.value v) ts → f v ≤ (ts.map Token.textLength).sum)
    {ms : Members} {ts : List Token} (h : Derives n (.members ms) ts) :
    (ms.map fun m => m.1.length + 2 + f m.2).sum ≤ (ts.map Token.textLength).sum := by
  induction ms generalizing ts with
  | nil => exact Nat.zero_le _
  | cons m ms ih =>
      cases h with
      | @member _ v us k hv =>
          have hle := hf v us hv
          simp only [List.map_cons, List.map_nil, List.sum_cons, List.sum_nil, Token.textLength]
          omega
      | @members _ v _ us ws k hv hms =>
          have hle := hf v us hv
          have hrest := ih hms
          simp only [List.map_cons, List.sum_cons, List.map_append, List.sum_append,
            Token.textLength]
          omega

/-- **THE TEXTS OF A VALUE** are no longer than its tokens are written. -/
theorem Derives.textLength_le {depth n : Nat} {v : Json} {ts : List Token}
    (h : Derives n (.value v) ts) : textLength depth v ≤ (ts.map Token.textLength).sum := by
  induction depth generalizing n v ts with
  | zero =>
      cases h with
      | string => exact Nat.le_refl _
      | _ => exact Nat.zero_le _
  | succ depth ih =>
      cases h with
      | string => exact Nat.le_refl _
      | object hms =>
          have hle := Derives.members_le (fun v ts => ih) hms
          simp only [List.cons_append, List.map_cons, List.sum_cons, List.map_append,
            List.sum_append]
          rw [textLength]
          omega
      | _ => exact Nat.zero_le _

theorem IsDocument.textLength_le {bytes : List UInt8} {v : Json} (h : IsDocument bytes v)
    (depth : Nat) : textLength depth v ≤ bytes.length := by
  obtain ⟨cs, ts, rfl, hscans, hv⟩ := h
  calc textLength depth v
      ≤ (ts.map Token.textLength).sum := hv.textLength_le
    _ ≤ cs.length := hscans.textLength_le
    _ ≤ (cs.flatMap String.utf8EncodeChar).length := Utf8.length_le_flatMap_encodeChar cs

/-! ## Members -/

theorem mem_of_lookup {key : String} {ms : Members} {v : Json} (h : lookup key ms = some v) :
    (key, v) ∈ ms := by
  obtain ⟨m, hm, rfl⟩ := Option.map_eq_some_iff.mp h
  have hkey : m.1 = key := beq_iff_eq.mp
    (List.find?_some (p := fun m : String × Json => m.1 == key) hm)
  rw [← hkey]
  exact List.mem_reverse.mp (List.mem_of_find?_eq_some hm)

section Sums

variable {α : Type} {f : α → Nat} {as : List α} {a b : α}

theorem le_sum (ha : a ∈ as) : f a ≤ (as.map f).sum := by
  induction as with
  | nil => exact absurd ha List.not_mem_nil
  | cons c as ih =>
      rw [List.map_cons, List.sum_cons]
      rcases List.mem_cons.mp ha with rfl | ha
      · exact Nat.le_add_right _ _
      · exact Nat.le_trans (ih ha) (Nat.le_add_left _ _)

theorem add_le_sum (ha : a ∈ as) (hb : b ∈ as) (hne : a ≠ b) :
    f a + f b ≤ (as.map f).sum := by
  induction as with
  | nil => exact absurd ha List.not_mem_nil
  | cons c as ih =>
      rw [List.map_cons, List.sum_cons]
      rcases List.mem_cons.mp ha with rfl | hmem
      · have hrest := le_sum (f := f) ((List.mem_cons.mp hb).resolve_left hne.symm)
        omega
      · rcases List.mem_cons.mp hb with rfl | hother
        · have hrest := le_sum (f := f) hmem
          omega
        · have hrest := ih hmem hother
          omega

end Sums

end Json

/-! ## Announcements -/

namespace Announcement

/-- **A DATAGRAM IS LONGER THAN A TEXT OF ITS DESCRIPTION**, by what else must be there:
    its type, the keys, and all quotes. -/
theorem Announces.length_add_le {bytes : List UInt8} {service : Json.Members}
    (h : Announces bytes service) {key s : String}
    (hs : Json.lookup key service = some (.string s)) :
    s.length + key.length + 32 ≤ bytes.length := by
  obtain ⟨root, hdocument, htype, hservice⟩ := h
  have hbytes := hdocument.textLength_le 2
  have hinner : key.length + 2 + (s.length + 2) ≤ Json.textLength 1 (.object service) :=
    Json.le_sum (f := fun m => m.1.length + 2 + Json.textLength 0 m.2) (Json.mem_of_lookup hs)
  have hkeys : "type" ≠ "service" := by decide
  have houter : "type".length + 2 + ("web_service".length + 2)
      + ("service".length + 2 + Json.textLength 1 (.object service))
      ≤ Json.textLength 2 (.object root) :=
    Json.add_le_sum (f := fun m => m.1.length + 2 + Json.textLength 1 m.2)
      (Json.mem_of_lookup htype) (Json.mem_of_lookup hservice)
      fun heq => hkeys (congrArg Prod.fst heq)
  have htypeLength : "type".length = 4 := rfl
  have hnameLength : "web_service".length = 11 := rfl
  have hserviceLength : "service".length = 7 := rfl
  omega

end Announcement

end TaskConsole
