import TaskConsole.Json.Parser
import TaskConsole.Proofs.JsonLexis
import TaskConsole.Proofs.Utf8Text

/-! # The grammar of JSON — what the reader takes for a document

    The reader goes from token to token and keeps a stack of what is open.  A grammar
    says the same without a stack: which tokens a value has, and how deep arrays and
    objects may stand in each other (`Derives`).  The two agree, token by token:

    * what has been read belongs to the open frames and to the value at hand (`HasRead`,
      which every step keeps), so that only documents are read;
    * whatever the grammar derives, the reader goes through, at any depth at which there
      is room left for it (`Derives.read`).

    So the reader reads exactly the runs of tokens with 127 levels of nesting at most
    (`ofTokens?_eq_some_iff`), and with the characters of a text and the tokens of those
    characters, exactly the documents (`parse?_eq_some_iff`). -/

namespace TaskConsole.Json

/-! ## The grammar -/

/-- What a run of tokens can stand for. -/
inductive Phrase where
  | value (v : Json)
  -- the items of an array, with commas between them
  | items (vs : List Json)
  -- the members of an object, with commas between them
  | members (ms : Members)

/-- The phrase of a run of tokens, with so many levels of nesting at most. -/
inductive Derives : Nat → Phrase → List Token → Prop where
  | null (n : Nat) : Derives n (.value .null) [.null]
  | bool (n : Nat) (b : Bool) : Derives n (.value (.bool b)) [.bool b]
  | number (n : Nat) (x : Number) : Derives n (.value (.number x)) [.number x]
  | string (n : Nat) (s : String) : Derives n (.value (.string s)) [.string s]
  | emptyArray (n : Nat) : Derives (n + 1) (.value (.array [])) [.openArray, .closeArray]
  | array {n : Nat} {vs : List Json} {ts : List Token} : Derives n (.items vs) ts →
      Derives (n + 1) (.value (.array vs)) (.openArray :: ts ++ [.closeArray])
  | emptyObject (n : Nat) : Derives (n + 1) (.value (.object [])) [.openObject, .closeObject]
  | object {n : Nat} {ms : Members} {ts : List Token} : Derives n (.members ms) ts →
      Derives (n + 1) (.value (.object ms)) (.openObject :: ts ++ [.closeObject])
  | item {n : Nat} {v : Json} {ts : List Token} : Derives n (.value v) ts →
      Derives n (.items [v]) ts
  | items {n : Nat} {v : Json} {vs : List Json} {ts us : List Token} :
      Derives n (.value v) ts → Derives n (.items vs) us →
      Derives n (.items (v :: vs)) (ts ++ .comma :: us)
  | member {n : Nat} {v : Json} {ts : List Token} (k : String) : Derives n (.value v) ts →
      Derives n (.members [(k, v)]) (.string k :: .colon :: ts)
  | members {n : Nat} {v : Json} {ms : Members} {ts us : List Token} (k : String) :
      Derives n (.value v) ts → Derives n (.members ms) us →
      Derives n (.members ((k, v) :: ms)) (.string k :: .colon :: ts ++ .comma :: us)

/-- The rules, read as what stands for the last item. -/
theorem Derives.concat_item {n : Nat} {p : Phrase} {ts : List Token} (h : Derives n p ts)
    {vs : List Json} (hp : p = .items vs) {v : Json} {us : List Token}
    (hv : Derives n (.value v) us) :
    Derives n (.items (vs ++ [v])) (ts ++ .comma :: us) := by
  induction h generalizing vs with
  | item hfirst =>
      cases hp
      exact .items hfirst (.item hv)
  | items hfirst _ _ ih =>
      cases hp
      rw [List.append_assoc]
      exact .items hfirst (ih rfl hv)
  | _ => exact absurd hp Phrase.noConfusion

theorem Derives.concat_member {n : Nat} {p : Phrase} {ts : List Token} (h : Derives n p ts)
    {ms : Members} (hp : p = .members ms) {k : String} {v : Json} {us : List Token}
    (hv : Derives n (.value v) us) :
    Derives n (.members (ms ++ [(k, v)])) (ts ++ .comma :: .string k :: .colon :: us) := by
  induction h generalizing ms with
  | member key hfirst =>
      cases hp
      exact .members key hfirst (.member k hv)
  | members key hfirst _ _ ih =>
      cases hp
      have hrest := Derives.members key hfirst (ih rfl hv)
      simp only [List.cons_append, List.append_assoc] at hrest ⊢
      exact hrest
  | _ => exact absurd hp Phrase.noConfusion

/-! ## What has been read -/

namespace Reading

/-- The tokens of the finished items of an open array, each with its comma. -/
inductive ItemsRead (n : Nat) : List Json → List Token → Prop where
  | none : ItemsRead n [] []
  | some {vs : List Json} {ts : List Token} : Derives n (.items vs.reverse) ts →
      ItemsRead n vs (ts ++ [.comma])

/-- The tokens of the finished members of an open object, each with its comma. -/
inductive MembersRead (n : Nat) : Members → List Token → Prop where
  | none : MembersRead n [] []
  | some {ms : Members} {ts : List Token} : Derives n (.members ms.reverse) ts →
      MembersRead n ms (ts ++ [.comma])

/-- Without a finished item, no token of one has been read. -/
theorem ItemsRead.eq_nil {n : Nat} {ts : List Token} (h : ItemsRead n [] ts) : ts = [] := by
  cases h with
  | none => rfl
  | some hitems =>
      have hnone : Derives n (.items []) _ := hitems
      cases hnone

theorem ItemsRead.last {n : Nat} {vs : List Json} {ts : List Token} (h : ItemsRead n vs ts)
    {v : Json} {us : List Token} (hv : Derives n (.value v) us) :
    Derives n (.items (v :: vs).reverse) (ts ++ us) := by
  rw [List.reverse_cons]
  cases h with
  | none => exact .item hv
  | some hitems =>
      rw [List.append_assoc]
      exact hitems.concat_item rfl hv

theorem MembersRead.last {n : Nat} {ms : Members} {ts : List Token} (h : MembersRead n ms ts)
    {k : String} {v : Json} {us : List Token} (hv : Derives n (.value v) us) :
    Derives n (.members ((k, v) :: ms).reverse) (ts ++ .string k :: .colon :: us) := by
  rw [List.reverse_cons]
  cases h with
  | none => exact .member k hv
  | some hmembers =>
      rw [List.append_assoc]
      exact hmembers.concat_member rfl hv

/-- The tokens of the open frames, up to where a value is expected. -/
inductive Opens : List Frame → List Token → Prop where
  | none : Opens [] []
  | array {frames : List Frame} {ts us : List Token} {vs : List Json} : Opens frames ts →
      frames.length < maxDepth → ItemsRead (maxDepth - (frames.length + 1)) vs us →
      Opens (.array vs :: frames) (ts ++ .openArray :: us)
  | object {frames : List Frame} {ts us : List Token} {ms : Members} (k : String) :
      Opens frames ts → frames.length < maxDepth →
      MembersRead (maxDepth - (frames.length + 1)) ms us →
      Opens (.object ms k :: frames) (ts ++ .openObject :: (us ++ [.string k, .colon]))

/-- The tokens that have been read, by what the reader holds. -/
inductive HasRead : Reading → List Token → Prop where
  | value {frames : List Frame} {ts : List Token} : Opens frames ts →
      HasRead ⟨frames, .value⟩ ts
  | item {frames : List Frame} {ts : List Token} : Opens (.array [] :: frames) ts →
      HasRead ⟨.array [] :: frames, .item⟩ ts
  | member {frames : List Frame} {ts : List Token} (ms : Members) (k : String) :
      Opens frames ts → frames.length < maxDepth →
      HasRead ⟨.object ms k :: frames, .member⟩ (ts ++ [.openObject])
  -- the frame of an object is behind while its next key is read
  | key {frames : List Frame} {ts us : List Token} {ms : Members} (old : Members)
      (k : String) : Opens frames ts → frames.length < maxDepth →
      MembersRead (maxDepth - (frames.length + 1)) ms us →
      HasRead ⟨.object old k :: frames, .key ms⟩ (ts ++ .openObject :: us)
  | colon {frames : List Frame} {ts us : List Token} {ms : Members} (old : Members)
      (k key : String) : Opens frames ts → frames.length < maxDepth →
      MembersRead (maxDepth - (frames.length + 1)) ms us →
      HasRead ⟨.object old k :: frames, .colon ms key⟩
        (ts ++ .openObject :: (us ++ [.string key]))
  | next {frames : List Frame} {ts us : List Token} {v : Json} : Opens frames ts →
      Derives (maxDepth - frames.length) (.value v) us →
      HasRead ⟨frames, .next v⟩ (ts ++ us)

/-- One token after the other. -/
def run? (r : Reading) (ts : List Token) : Option Reading := ts.foldlM step? r

theorem run?_cons (r : Reading) (t : Token) (ts : List Token) :
    r.run? (t :: ts) = (r.step? t).bind (·.run? ts) := List.foldlM_cons

/-- A level of nesting is left where another frame may be opened. -/
theorem levels_left {n : Nat} (h : n < maxDepth) : maxDepth - n = maxDepth - (n + 1) + 1 := by
  omega

/-- A token where a value may begin. -/
theorem HasRead.begin {frames : List Frame} {ts : List Token} (h : Opens frames ts)
    {t : Token} {r : Reading} (hr : beginValue? frames t = some r) :
    HasRead r (ts ++ [t]) := by
  cases t with
  | null =>
      cases hr
      exact .next h (.null _)
  | bool b =>
      cases hr
      exact .next h (.bool _ b)
  | number x =>
      cases hr
      exact .next h (.number _ x)
  | string s =>
      cases hr
      exact .next h (.string _ s)
  | openArray =>
      simp only [beginValue?, enter?] at hr
      split at hr
      · rename_i hroom
        cases hr
        exact .item (.array h hroom .none)
      · exact absurd hr.symm (Option.some_ne_none r)
  | openObject =>
      simp only [beginValue?, enter?] at hr
      split at hr
      · rename_i hroom
        cases hr
        exact .member [] "" h hroom
      · exact absurd hr.symm (Option.some_ne_none r)
  | _ => exact absurd hr.symm (Option.some_ne_none r)

/-- After a value comes a comma, or the end of what it stands in. -/
theorem HasRead.after {frames : List Frame} {ts us : List Token} {v : Json}
    (h : Opens frames ts) (hv : Derives (maxDepth - frames.length) (.value v) us) {t : Token}
    {r : Reading} (hr : step? ⟨frames, .next v⟩ t = some r) :
    HasRead r (ts ++ us ++ [t]) := by
  cases h with
  | none => exact absurd hr.symm (by cases t <;> exact Option.some_ne_none r)
  | @array frames ts items vs hopens hroom hitems =>
      have hall := hitems.last hv
      cases t with
      | comma =>
          cases hr
          have hread := Opens.array hopens hroom (.some hall)
          simp only [List.append_assoc, List.cons_append] at hread ⊢
          exact .value hread
      | closeArray =>
          cases hr
          have hvalue := Derives.array hall
          rw [← levels_left hroom] at hvalue
          have hread := HasRead.next hopens hvalue
          simp only [List.append_assoc, List.cons_append] at hread ⊢
          exact hread
      | _ => exact absurd hr.symm (Option.some_ne_none r)
  | @object frames ts members ms k hopens hroom hmembers =>
      have hall := hmembers.last (k := k) hv
      cases t with
      | comma =>
          cases hr
          have hread := HasRead.key ((k, v) :: ms) k hopens hroom (.some hall)
          simp only [List.append_assoc, List.cons_append, List.nil_append] at hread ⊢
          exact hread
      | closeObject =>
          cases hr
          have hvalue := Derives.object hall
          rw [← levels_left hroom] at hvalue
          have hread := HasRead.next hopens hvalue
          simp only [List.append_assoc, List.cons_append, List.nil_append] at hread ⊢
          exact hread
      | _ => exact absurd hr.symm (Option.some_ne_none r)

/-- **ONE TOKEN** joins those that have been read. -/
theorem HasRead.step {r s : Reading} {ts : List Token} (h : HasRead r ts) {t : Token}
    (hs : r.step? t = some s) : HasRead s (ts ++ [t]) := by
  cases h with
  | value hopens => exact HasRead.begin hopens (by cases t <;> exact hs)
  | @item frames ts hopens =>
      cases t with
      | closeArray =>
          cases hs
          cases hopens with
          | @array frames ts us vs hopens hroom hitems =>
              have hempty := Derives.emptyArray (maxDepth - (frames.length + 1))
              rw [← levels_left hroom] at hempty
              rw [hitems.eq_nil, List.append_assoc]
              exact .next hopens hempty
      | _ => exact HasRead.begin hopens hs
  | @member frames ts ms k hopens hroom =>
      cases t with
      | string key =>
          cases hs
          have hread := HasRead.colon ms k key hopens hroom .none
          rw [List.append_assoc]
          exact hread
      | closeObject =>
          cases hs
          have hempty := Derives.emptyObject (maxDepth - (frames.length + 1))
          rw [← levels_left hroom] at hempty
          rw [List.append_assoc]
          exact .next hopens hempty
      | _ => exact absurd hs.symm (Option.some_ne_none s)
  | key old k hopens hroom hmembers =>
      cases t with
      | string key =>
          cases hs
          have hread := HasRead.colon old k key hopens hroom hmembers
          simp only [List.append_assoc, List.cons_append] at hread ⊢
          exact hread
      | _ => exact absurd hs.symm (Option.some_ne_none s)
  | colon old k key hopens hroom hmembers =>
      cases t with
      | colon =>
          cases hs
          have hread := HasRead.value (Opens.object key hopens hroom hmembers)
          simp only [List.append_assoc, List.cons_append, List.nil_append] at hread ⊢
          exact hread
      | _ => exact absurd hs.symm (Option.some_ne_none s)
  | next hopens hv => exact HasRead.after hopens hv hs

/-- **A RUN OF TOKENS.** -/
theorem HasRead.run {r s : Reading} {ts us : List Token} (h : HasRead r ts)
    (hs : r.run? us = some s) : HasRead s (ts ++ us) := by
  induction us generalizing r ts with
  | nil =>
      cases hs
      rw [List.append_nil]
      exact h
  | cons t rest ih =>
      rw [run?_cons] at hs
      obtain ⟨next, hnext, hrest⟩ := Option.bind_eq_some_iff.mp hs
      have hall := ih (h.step hnext) hrest
      rw [List.append_assoc] at hall
      exact hall

end Reading

/-! ## What can be read -/

open Reading

/-- A run of tokens begins as an item or a member of its kind does. -/
def Phrase.Begins : Phrase → List Token → Prop
  | value _, ts => ∃ t rest, ts = t :: rest ∧ ∀ frames,
      step? ⟨.array [] :: frames, .item⟩ t = step? ⟨.array [] :: frames, .value⟩ t
  | items _, ts => ∃ t rest, ts = t :: rest ∧ ∀ frames,
      step? ⟨.array [] :: frames, .item⟩ t = step? ⟨.array [] :: frames, .value⟩ t
  | members _, ts => ∃ k rest, ts = .string k :: rest

theorem Derives.begins {n : Nat} {p : Phrase} {ts : List Token} (h : Derives n p ts) :
    p.Begins ts := by
  induction h with
  | item _ ih => exact ih
  | items _ _ ih =>
      obtain ⟨t, rest, rfl, ht⟩ := ih
      exact ⟨t, _, rfl, ht⟩
  | member k _ _ => exact ⟨k, _, rfl⟩
  | members k _ _ _ _ => exact ⟨k, _, rfl⟩
  | _ => exact ⟨_, _, rfl, fun _ => rfl⟩

/-- The reader goes through the tokens of a phrase where there is room for so many further
    levels: a value is at hand then, or the items or members have joined those before. -/
def Phrase.IsRead (n : Nat) : Phrase → List Token → Prop
  | value v, ts => ∀ frames rest, frames.length + n ≤ maxDepth →
      Reading.run? ⟨frames, .value⟩ (ts ++ rest) = Reading.run? ⟨frames, .next v⟩ rest
  | items vs, ts => ∀ frames old rest, frames.length + 1 + n ≤ maxDepth →
      Reading.run? ⟨.array old :: frames, .value⟩ (ts ++ .closeArray :: rest)
        = Reading.run? ⟨frames, .next (.array (old.reverse ++ vs))⟩ rest
  | members ms, ts => ∀ frames old before k rest, frames.length + 1 + n ≤ maxDepth →
      Reading.run? ⟨.object before k :: frames, .key old⟩ (ts ++ .closeObject :: rest)
        = Reading.run? ⟨frames, .next (.object (old.reverse ++ ms))⟩ rest

/-- **WHAT THE GRAMMAR DERIVES IS READ.** -/
theorem Derives.read {n : Nat} {p : Phrase} {ts : List Token} (h : Derives n p ts) :
    p.IsRead n ts := by
  induction h with
  | null n =>
      intro frames rest _
      rfl
  | bool n b =>
      intro frames rest _
      rfl
  | number n x =>
      intro frames rest _
      rfl
  | string n s =>
      intro frames rest _
      rfl
  | emptyArray n =>
      intro frames rest hroom
      have hless : frames.length < maxDepth := by omega
      simp only [List.cons_append, run?_cons, step?, beginValue?, enter?, if_pos hless]
      rfl
  | @array n vs ts hitems ih =>
      intro frames rest hroom
      have hless : frames.length < maxDepth := by omega
      obtain ⟨t, us, rfl, ht⟩ := hitems.begins
      have hall := ih frames [] rest (by omega)
      simp only [List.cons_append, List.append_assoc, run?_cons, List.nil_append] at hall ⊢
      rw [← ht] at hall
      simp only [step?, beginValue?, enter?, if_pos hless]
      exact hall
  | emptyObject n =>
      intro frames rest hroom
      have hless : frames.length < maxDepth := by omega
      simp only [List.cons_append, run?_cons, step?, beginValue?, enter?, if_pos hless]
      rfl
  | @object n ms ts hmembers ih =>
      intro frames rest hroom
      have hless : frames.length < maxDepth := by omega
      obtain ⟨k, us, rfl⟩ := hmembers.begins
      have hall := ih frames [] [] "" rest (by omega)
      simp only [List.cons_append, List.append_assoc, run?_cons, List.nil_append] at hall ⊢
      simp only [step?, beginValue?, enter?, if_pos hless]
      exact hall
  | @item n v ts _ ih =>
      intro frames old rest hroom
      rw [ih (.array old :: frames) _ hroom, run?_cons]
      show Reading.run? ⟨frames, .next (.array (v :: old).reverse)⟩ rest = _
      rw [List.reverse_cons]
  | @items n v vs ts us _ _ ihv ihvs =>
      intro frames old rest hroom
      rw [List.append_assoc, ihv (.array old :: frames) _ hroom, List.cons_append, run?_cons]
      show Reading.run? ⟨.array (v :: old) :: frames, .value⟩ (us ++ .closeArray :: rest) = _
      rw [ihvs frames (v :: old) rest hroom, List.reverse_cons, List.append_assoc]
      rfl
  | @member n v ts k _ ih =>
      intro frames old before other rest hroom
      show Reading.run? ⟨.object old k :: frames, .value⟩ (ts ++ .closeObject :: rest) = _
      rw [ih (.object old k :: frames) _ hroom, run?_cons]
      show Reading.run? ⟨frames, .next (.object ((k, v) :: old).reverse)⟩ rest = _
      rw [List.reverse_cons]
  | @members n v ms ts us k _ _ ihv ihms =>
      intro frames old before other rest hroom
      show Reading.run? ⟨.object old k :: frames, .value⟩
        (ts ++ .comma :: us ++ .closeObject :: rest) = _
      rw [List.append_assoc, ihv (.object old k :: frames) _ hroom, List.cons_append, run?_cons]
      show Reading.run? ⟨.object ((k, v) :: old) k :: frames, .key ((k, v) :: old)⟩
        (us ++ .closeObject :: rest) = _
      rw [ihms frames ((k, v) :: old) _ _ rest hroom, List.reverse_cons, List.append_assoc]
      rfl

/-! ## Documents -/

/-- **THE READER READS WHAT THE GRAMMAR DERIVES**, and only that. -/
theorem ofTokens?_eq_some_iff {ts : List Token} {v : Json} :
    ofTokens? ts = some v ↔ Derives maxDepth (.value v) ts := by
  constructor
  · intro h
    obtain ⟨⟨frames, expects⟩, hrun, hresult⟩ := Option.bind_eq_some_iff.mp h
    have hread := (HasRead.value .none).run hrun
    cases frames with
    | cons frame rest => exact absurd hresult.symm (Option.some_ne_none v)
    | nil =>
        cases expects with
        | next w =>
            cases Option.some.inj hresult
            generalize hts : [] ++ ts = all at hread
            cases hread with
            | next hopens hv =>
                cases hopens
                rw [← List.nil_append ts, hts]
                exact hv
        | _ => exact absurd hresult.symm (Option.some_ne_none v)
  · intro h
    have hread := h.read [] [] (Nat.le_of_eq (Nat.zero_add maxDepth))
    rw [List.append_nil] at hread
    show (Reading.run? ⟨[], .value⟩ ts).bind result? = some v
    rw [hread]
    rfl

/-- Bytes are the document of a value: they are the UTF-8 of a text, the text is made of
    lexemes, and the grammar derives their tokens for the value. -/
def IsDocument (bytes : List UInt8) (v : Json) : Prop :=
  ∃ cs ts, bytes = cs.flatMap String.utf8EncodeChar ∧ Token.Scans cs ts
    ∧ Derives maxDepth (.value v) ts

/-- **THE READER READS DOCUMENTS**, and only those. -/
theorem parse?_eq_some_iff {bytes : List UInt8} {v : Json} :
    parse? bytes = some v ↔ IsDocument bytes v := by
  constructor
  · intro h
    obtain ⟨cs, hcs, h⟩ := Option.bind_eq_some_iff.mp h
    obtain ⟨ts, hts, h⟩ := Option.bind_eq_some_iff.mp h
    exact ⟨cs, ts, Utf8.decode?_eq_some_iff.mp hcs, Token.scan?_eq_some_iff.mp hts,
      ofTokens?_eq_some_iff.mp h⟩
  · rintro ⟨cs, ts, hcs, hts, h⟩
    rw [parse?, Utf8.decode?_eq_some_iff.mpr hcs]
    show (Token.scan? cs).bind ofTokens? = some v
    rw [Token.scan?_eq_some_iff.mpr hts]
    exact ofTokens?_eq_some_iff.mpr h

end TaskConsole.Json
