import TaskConsole.Proofs.Outcomes

/-! # Slots — clients that are set, cloned and called keep to themselves

    Several clients are held in slots.  A slot is set to an address, cloned into the
    next free slot, or called.  What a slot uses is its SETTING: the address that it was
    set to last itself, or, if it was never set, what the slot that it is a clone of had
    when it was cloned (`Setting`).  Nothing that is done in another slot is in that, and
    nothing but a new address for a slot changes what it does (`Isolated`). -/

namespace TaskConsole

/-! ## Clients in slots -/

/-- What can be done with clients in slots. -/
inductive ClientStep where
  | set (slot : Nat) (url : String)
  -- the clone takes the next free slot
  | clone (slot : Nat)
  -- a call, with what becomes of its request
  | call (slot : Nat) (call : Call) (net : Network)

/-- What can be seen of a call. -/
structure ClientReaction where
  result : Option (Except Failure Answer) := none
  requests : List Request := []

/-- A client carries out a call. -/
def Client.react (c : Client) (call : Call) (net : Network) : ClientReaction where
  result := some (c.carryOut net call)
  requests := (c.prepare call.operation).toOption.toList

/-- Clients in slots. -/
structure Slots where
  clients : List Client := [{}]

namespace Slots

/-- One thing is done; nothing comes of it in a slot that is not there. -/
def step (held : Slots) : ClientStep → Slots × ClientReaction
  | .set slot url => ({ clients := held.clients.modify slot (·.retarget url) }, {})
  | .clone slot => ({ clients := held.clients ++ held.clients[slot]?.toList }, {})
  | .call slot call net =>
    match held.clients[slot]? with
    | some c => (held, c.react call net)
    | none => (held, {})

/-- The slots after a history, which begins with one new client. -/
def after (history : List ClientStep) : Slots :=
  history.foldl (fun held a => (held.step a).1) {}

theorem after_concat (history : List ClientStep) (a : ClientStep) :
    after (history ++ [a]) = ((after history).step a).1 := by
  rw [after, List.foldl_concat]
  rfl

end Slots

/-! ## Settings -/

/-- The address that a slot was set to last after a history, or has from the slot that it
    is a clone of. -/
inductive Setting : List ClientStep → Nat → Option String → Prop where
  | new : Setting [] 0 none
  | set (history : List ClientStep) (slot : Nat) (old : Option String) (url : String) :
      Setting history slot old → Setting (history ++ [.set slot url]) slot (some url)
  | cloned (history : List ClientStep) (source : Nat) (url : Option String) :
      Setting history source url →
      Setting (history ++ [.clone source]) (Slots.after history).clients.length url
  | kept (history : List ClientStep) (slot : Nat) (url : Option String) (a : ClientStep) :
      Setting history slot url → (∀ other, a ≠ .set slot other) →
      Setting (history ++ [a]) slot url

/-- The client of a setting; a blank address is none. -/
def Client.setTo (url : Option String) : Client where
  baseUrl := url.filter fun url => !Text.isBlankText url

theorem Client.setTo_baseUrl {url : Option String} {base : String} :
    (setTo url).baseUrl = some base ↔ url = some base ∧ Text.isBlankText base = false := by
  rw [← Bool.not_eq_true']
  exact Option.filter_eq_some_iff

theorem Client.retarget_eq (c : Client) (url : String) :
    c.retarget url = Client.setTo (some url) := by
  rw [retarget, setTo, Option.filter_some]
  cases Text.isBlankText url <;> rfl

namespace Slots

/-- **ONE STEP** leaves a slot alone, unless it sets that slot. -/
theorem step_kept {held : Slots} {slot : Nat} {c : Client}
    (h : held.clients[slot]? = some c) {a : ClientStep} (ha : ∀ url, a ≠ .set slot url) :
    (held.step a).1.clients[slot]? = some c := by
  cases a with
  | set other url =>
      have hne : other ≠ slot := fun he => ha url (he ▸ rfl)
      show (held.clients.modify other _)[slot]? = some c
      rw [List.getElem?_modify_ne _ _ hne]
      exact h
  | clone source =>
      show (held.clients ++ _)[slot]? = some c
      rw [List.getElem?_append_left (List.getElem?_eq_some_iff.mp h).1]
      exact h
  | call other call net =>
      simp only [step]
      cases held.clients[other]? with
      | none => exact h
      | some d => exact h

/-- Steps that do not set a slot leave it alone. -/
theorem after_kept {history : List ClientStep} {slot : Nat} {c : Client}
    (h : (after history).clients[slot]? = some c) {more : List ClientStep}
    (hno : ∀ a ∈ more, ∀ url, a ≠ .set slot url) :
    (after (history ++ more)).clients[slot]? = some c := by
  induction more using List.reverseRecOn with
  | nil =>
      rw [List.append_nil]
      exact h
  | append_singleton more a ih =>
      rw [← List.append_assoc, after_concat]
      refine step_kept (ih fun b hb => hno b (List.mem_append_left _ hb)) ?_
      exact hno a (List.mem_append_right _ (List.mem_singleton.mpr rfl))

/-- The clone of a slot has its client. -/
theorem after_clone {history : List ClientStep} {source : Nat} {c : Client}
    (h : (after history).clients[source]? = some c) :
    (after (history ++ [.clone source])).clients[(after history).clients.length]?
      = some c := by
  rw [after_concat]
  show ((after history).clients ++ _)[_]? = some c
  rw [h]
  exact List.getElem?_concat_length

/-- A slot that is set has the client of that address. -/
theorem after_set {history : List ClientStep} {slot : Nat} {c : Client}
    (h : (after history).clients[slot]? = some c) (url : String) :
    (after (history ++ [.set slot url])).clients[slot]? = some (.setTo (some url)) := by
  rw [after_concat]
  show ((after history).clients.modify slot _)[slot]? = _
  rw [List.getElem?_modify_eq, h, ← c.retarget_eq url]
  rfl

end Slots

/-- A slot with a setting has the client of that. -/
theorem Setting.client {history : List ClientStep} {slot : Nat} {url : Option String}
    (h : Setting history slot url) :
    (Slots.after history).clients[slot]? = some (.setTo url) := by
  induction h with
  | new => rfl
  | set history slot old url _ ih => exact Slots.after_set ih url
  | cloned history source url _ ih => exact Slots.after_clone ih
  | kept history slot url a _ ha ih =>
      rw [Slots.after_concat]
      exact Slots.step_kept ih ha

/-- Every slot has a setting. -/
theorem Slots.exists_setting (history : List ClientStep) (slot : Nat)
    (h : slot < (after history).clients.length) : ∃ url, Setting history slot url := by
  induction history using List.reverseRecOn generalizing slot with
  | nil =>
      have hzero : slot = 0 := Nat.lt_one_iff.mp h
      exact ⟨none, hzero ▸ .new⟩
  | append_singleton history a ih =>
      have hkept (hlt : slot < (after history).clients.length)
          (ha : ∀ url, a ≠ .set slot url) : ∃ url, Setting (history ++ [a]) slot url := by
        obtain ⟨url, hurl⟩ := ih slot hlt
        exact ⟨url, .kept history slot url a hurl ha⟩
      rw [after_concat] at h
      cases a with
      | set other url =>
          have hlt : slot < (after history).clients.length :=
            Nat.lt_of_lt_of_eq h (List.length_modify _ _ _)
          by_cases he : other = slot
          · obtain ⟨old, hold⟩ := ih slot hlt
            exact ⟨some url, he ▸ .set history slot old url hold⟩
          · exact hkept hlt fun _ heq => he (ClientStep.set.inj heq).1
      | clone source =>
          by_cases hlt : slot < (after history).clients.length
          · exact hkept hlt (by exact nofun)
          · -- the slot is the clone
            have hlen : slot < (after history).clients.length
                + ((after history).clients[source]?.toList).length :=
              Nat.lt_of_lt_of_eq h List.length_append
            cases hc : (after history).clients[source]? with
            | none =>
                rw [hc] at hlen
                exact absurd hlen hlt
            | some c =>
                rw [hc] at hlen
                have hslot : slot = (after history).clients.length := by
                  rw [Option.toList_some, List.length_singleton] at hlen
                  omega
                obtain ⟨url, hurl⟩ := ih source (List.getElem?_eq_some_iff.mp hc).1
                exact ⟨url, hslot ▸ .cloned history source url hurl⟩
      | call other call net =>
          have hsame : ((after history).step (.call other call net)).1 = after history := by
            simp only [step]
            cases (after history).clients[other]? <;> rfl
          rw [hsame] at h
          exact hkept h (by exact nofun)

/-! ## Isolation -/

/-- After a history, slots keep to themselves. -/
structure Isolated (history : List ClientStep) : Prop where
  -- every slot has a setting, and that is all that its client knows
  settled : ∀ slot < (Slots.after history).clients.length, ∃ url, Setting history slot url
  client : ∀ slot url, Setting history slot url →
    (Slots.after history).clients[slot]? = some (.setTo url)
  -- a call is carried out by the client of the setting
  called : ∀ slot url, Setting history slot url → ∀ call net,
    ((Slots.after history).step (.call slot call net)).2 = (Client.setTo url).react call net
  -- its request goes below the address of the setting, and without one there is none
  address : ∀ slot url, Setting history slot url → ∀ call net,
    ∀ request ∈ ((Slots.after history).step (.call slot call net)).2.requests,
      ∃ base path, url = some base ∧ Text.isBlankText base = false
        ∧ call.operation.path? = some path ∧ request = call.operation.request request.url
        ∧ request.url.IsTargetOf (addressBelow base path)
  -- a clone has the setting that its source had then
  inherited : ∀ slot url, Setting history slot url →
    Setting (history ++ [.clone slot]) (Slots.after history).clients.length url
  -- whatever else is done, a slot that is not set again keeps its address and its calls
  untouched : ∀ slot < (Slots.after history).clients.length, ∀ more : List ClientStep,
    (∀ a ∈ more, ∀ url, a ≠ .set slot url) →
      (Slots.after (history ++ more)).clients[slot]? = (Slots.after history).clients[slot]?
        ∧ ∀ call net, ((Slots.after (history ++ more)).step (.call slot call net)).2
          = ((Slots.after history).step (.call slot call net)).2

theorem Slots.step_call {held : Slots} {slot : Nat} {c : Client}
    (h : held.clients[slot]? = some c) (call : Call) (net : Network) :
    (held.step (.call slot call net)).2 = c.react call net := by
  simp only [step, h]

/-- A client of a setting makes requests below its address. -/
theorem Client.react_address {url : Option String} {call : Call} {net : Network}
    {request : Request} (h : request ∈ ((setTo url).react call net).requests) :
    ∃ base path, url = some base ∧ Text.isBlankText base = false
      ∧ call.operation.path? = some path ∧ request = call.operation.request request.url
      ∧ request.url.IsTargetOf (addressBelow base path) := by
  have hok : (setTo url).prepare call.operation = .ok request := by
    rw [react, Option.mem_toList] at h
    cases hp : (setTo url).prepare call.operation with
    | error f =>
        rw [hp] at h
        exact absurd h.symm (Option.some_ne_none request)
    | ok other =>
        rw [hp] at h
        rw [Option.some.inj h]
  obtain ⟨⟨base, path, hbase, hpath, htarget⟩, hrequest⟩ := prepare_eq_ok_iff.mp hok
  obtain ⟨hurl, hblank⟩ := setTo_baseUrl.mp hbase
  exact ⟨base, path, hurl, hblank, hpath, hrequest, htarget⟩

/-- **SLOTS KEEP TO THEMSELVES**, after any history. -/
theorem Slots.isolated (history : List ClientStep) : Isolated history := by
  refine ⟨exists_setting history, fun _ _ h => h.client, ?_, ?_, ?_, ?_⟩
  · intro slot url h call net
    exact step_call h.client call net
  · intro slot url h call net request hrequest
    rw [step_call h.client] at hrequest
    exact Client.react_address hrequest
  · intro slot url h
    exact .cloned history slot url h
  · intro slot hlt more hno
    obtain ⟨url, hurl⟩ := exists_setting history slot hlt
    have hkept := after_kept hurl.client hno
    refine ⟨hkept.trans hurl.client.symm, ?_⟩
    intro call net
    rw [step_call hkept, step_call hurl.client]

end TaskConsole
