import TaskConsole.Proofs.Blanks
import TaskConsole.Proofs.Noise
import TaskConsole.Proofs.RepairedText

/-! # Error texts — what is said of a failed request

    A request that fails is explained by the body of its reply, as far as that goes:

    * by the message of an object, if it is a text that is not empty;
    * else by the text of the body, repaired where it is broken and without the blanks
      around it (`RawText`), if anything is left of it;
    * else by a fallback.

    The three exclude each other, and one of them applies to every body
    (`errorText_eq_iff`).  A reply without success is explained so whatever was asked
    (`Client.carryOut_of_refused`). -/

namespace TaskConsole

/-! ## The text of a body -/

/-- What is left of the text of a body without the blanks around it. -/
def RawText (body : List UInt8) (text : String) : Prop :=
  ∃ cs, Utf8.Repairs body cs ∧ Text.Trims cs text.toList

theorem rawText_iff {body : List UInt8} {text : String} :
    RawText body text ↔ Text.Trims (Utf8.decodeLossy body) text.toList := by
  constructor
  · rintro ⟨cs, hcs, htext⟩
    rw [hcs.decodeLossy_eq]
    exact htext
  · exact fun htext => ⟨_, Utf8.decodeLossy_eq_iff.mp rfl, htext⟩

/-- A body has one text. -/
theorem RawText.unique {body : List UInt8} {text other : String} (h : RawText body text)
    (ho : RawText body other) : text = other := by
  have htext := Text.trimChars_eq_iff.mpr (rawText_iff.mp h)
  have hother := Text.trimChars_eq_iff.mpr (rawText_iff.mp ho)
  exact String.toList_inj.mp (htext.symm.trans hother)

/-- That of a text is the text itself, without the blanks around it. -/
theorem rawText_encode {cs : List Char} {text : String} :
    RawText (cs.flatMap String.utf8EncodeChar) text ↔ Text.Trims cs text.toList := by
  rw [rawText_iff, (Utf8.repairs_encode cs).decodeLossy_eq]

/-- The tokens of an object begin with an opening one. -/
theorem Json.Derives.head_object {n : Nat} {ms : Members} {ts : List Token}
    (h : Derives n (.value (.object ms)) ts) : ∃ rest, ts = .openObject :: rest := by
  cases h with
  | emptyObject => exact ⟨_, rfl⟩
  | object _ => exact ⟨_, rfl⟩

/-- Which is written as a brace. -/
theorem Json.Token.Scans.mem_brace {cs : List Char} {ts : List Token}
    (h : Scans cs (.openObject :: ts)) : '\x7b' ∈ cs := by
  cases h with
  | token _ hlexeme _ _ =>
      cases hlexeme with
      | @mark _ c hmark =>
          have hc : c = '\x7b' := by
            unfold mark? at hmark
            split at hmark <;> cases hmark
            rfl
          rw [← hc]
          exact List.mem_append_right _ (List.mem_append_left _ List.mem_cons_self)

/-- So the body of an object is not blank. -/
theorem not_rawText_of_object {body : List UInt8} {ms : Json.Members}
    (h : Json.parse? body = some (.object ms)) : ¬ RawText body "" := by
  obtain ⟨cs, ts, rfl, hscans, hobject⟩ := Json.parse?_eq_some_iff.mp h
  obtain ⟨rest, rfl⟩ := hobject.head_object
  intro hraw
  have hblank := Text.trims_nil_iff.mp (rawText_encode.mp hraw)
  exact Bool.false_ne_true (hblank _ hscans.mem_brace)

/-! ## The chain -/

/-- What is said of a failed request whose reply has this body. -/
inductive Explains (body : List UInt8) (fallback : String) : String → Prop where
  | message (text : String) : Complains body text → Explains body fallback text
  | raw (text : String) : (∀ t, ¬ Complains body t) → RawText body text → text ≠ "" →
      Explains body fallback text
  | fallback : (∀ t, ¬ Complains body t) → RawText body "" →
      Explains body fallback fallback

theorem message_eq_some_iff {body : List UInt8} {text : String} :
    ((Json.parse? body).bind Json.members?).bind messageOf? = some text
      ↔ Complains body text := by
  rw [Option.bind_eq_some_iff]
  constructor
  · rintro ⟨ms, hms, hmessage⟩
    obtain ⟨v, hv, hmembers⟩ := Option.bind_eq_some_iff.mp hms
    rw [Json.members?_eq_some_iff] at hmembers
    subst hmembers
    exact ⟨ms, hv, messageOf?_eq_some_iff.mp hmessage⟩
  · rintro ⟨ms, hv, hmessage⟩
    refine ⟨ms, ?_, messageOf?_eq_some_iff.mpr hmessage⟩
    rw [hv]
    rfl

/-- **THE CHAIN** says something of every body. -/
theorem explains_errorText (body : List UInt8) (fallback : String) :
    Explains body fallback (errorText body fallback) := by
  rw [errorText]
  cases hmessage : ((Json.parse? body).bind Json.members?).bind messageOf? with
  | some text => exact .message text (message_eq_some_iff.mp hmessage)
  | none =>
      have hsilent : ∀ t, ¬ Complains body t := by
        intro t ht
        rw [message_eq_some_iff.mpr ht] at hmessage
        exact Option.some_ne_none t hmessage
      cases htrimmed : Text.trimmed? (String.ofList (Utf8.decodeLossy body)) with
      | some text =>
          obtain ⟨htext, hne⟩ := Text.trimmed?_eq_some_iff.mp htrimmed
          rw [String.toList_ofList] at htext
          exact .raw text hsilent (rawText_iff.mpr htext) hne
      | none =>
          have hblank := Text.trimmed?_eq_none_iff.mp htrimmed
          rw [String.toList_ofList] at hblank
          exact .fallback hsilent (rawText_iff.mpr hblank)

/-- And no two things. -/
theorem Explains.unique {body : List UInt8} {fallback text other : String}
    (h : Explains body fallback text) (ho : Explains body fallback other) : text = other := by
  cases h with
  | message _ hmessage =>
      cases ho with
      | message _ hother => exact hmessage.unique hother
      | raw _ hsilent _ _ => exact absurd hmessage (hsilent text)
      | fallback hsilent _ => exact absurd hmessage (hsilent text)
  | raw _ hsilent htext hne =>
      cases ho with
      | message _ hother => exact absurd hother (hsilent other)
      | raw _ _ hother _ => exact htext.unique hother
      | fallback _ hblank => exact absurd (htext.unique hblank) hne
  | fallback hsilent hblank =>
      cases ho with
      | message _ hother => exact absurd hother (hsilent other)
      | raw _ _ hother hne => exact absurd (hother.unique hblank) hne
      | fallback _ _ => rfl

theorem errorText_eq_iff {body : List UInt8} {fallback text : String} :
    errorText body fallback = text ↔ Explains body fallback text := by
  constructor
  · rintro rfl
    exact explains_errorText body fallback
  · exact (explains_errorText body fallback).unique

/-- A member `message` that is a text is told as it is exactly if it is not empty. -/
theorem errorText_eq_message_iff {body : List UInt8} {ms : Json.Members} {text : String}
    (hbody : Json.parse? body = some (.object ms))
    (hmessage : Json.lookup "message" ms = some (.string text)) (fallback : String) :
    errorText body fallback = text ↔ text ≠ "" := by
  rw [errorText_eq_iff]
  constructor
  · rintro hexplains rfl
    cases hexplains with
    | message _ hcomplains =>
        obtain ⟨-, -, -, hne⟩ := hcomplains
        exact hne rfl
    | raw _ _ _ hne => exact hne rfl
    | fallback _ hblank => exact not_rawText_of_object hbody hblank
  · exact fun hne => .message text ⟨ms, hbody, hmessage, hne⟩

/-! ## Replies without success -/

/-- **A REPLY WITHOUT SUCCESS** is explained by its body, or by its status, whatever was
    asked. -/
theorem Client.carryOut_of_refused {c : Client} {net : Network} {call : Call}
    {request : Request} {status : Nat} {body : List UInt8}
    (hmakes : c.Makes call.operation request)
    (hreply : net request = .complete status body) (hstatus : status < 200 ∨ 299 < status) :
    c.carryOut net call
      = .error (.transport (errorText body ("HTTP " ++ Status.line status))) := by
  have hfailed : Status.isSuccess status = false := by
    rw [← Bool.not_eq_true, Status.isSuccess, Bool.and_eq_true, decide_eq_true_iff,
      decide_eq_true_iff]
    omega
  rw [carryOut_eq, prepare_eq_ok_iff.mpr hmakes]
  show ((net request).payload request.url).bind call.read = _
  rw [hreply, Delivery.payload, hfailed, if_neg Bool.false_ne_true]
  rfl

/-- **WHAT IS SAID OF A FAILED REQUEST.** -/
theorem failures_explained :
    -- one stage of the chain applies to every body, and what it says is said
    (∀ body fallback text, errorText body fallback = text ↔ Explains body fallback text)
    -- the first one to every text that an object has for a message and that is not empty
    ∧ (∀ body ms text fallback, Json.parse? body = some (.object ms) →
      Json.lookup "message" ms = some (.string text) →
      (errorText body fallback = text ↔ text ≠ ""))
    -- the second one keeps a text as it is, but for the blanks around it
    ∧ (∀ cs text, RawText (cs.flatMap String.utf8EncodeChar) text
      ↔ Text.Trims cs text.toList)
    -- and a reply without success fails with that, whatever was asked
    ∧ ∀ (c : Client) (net : Network) (call : Call) (request : Request) (status : Nat)
        (body : List UInt8), c.Makes call.operation request →
      net request = .complete status body → (status < 200 ∨ 299 < status) →
      c.carryOut net call
        = .error (.transport (errorText body ("HTTP " ++ Status.line status))) := by
  refine ⟨?_, ?_, ?_, ?_⟩
  · intro body fallback text
    exact errorText_eq_iff
  · intro body ms text fallback hbody hmessage
    exact errorText_eq_message_iff hbody hmessage fallback
  · intro cs text
    exact rawText_encode
  · intro c net call request status body hmakes hreply hstatus
    exact Client.carryOut_of_refused hmakes hreply hstatus

end TaskConsole
