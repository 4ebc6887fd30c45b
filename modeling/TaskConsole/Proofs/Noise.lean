import TaskConsole.Proofs.JsonGrammar
import TaskConsole.Proofs.Outcomes
import TaskConsole.Proofs.Publication

/-! # Noise — datagrams that announce nothing, and that nobody notices

    Anyone can send to the port on which announcements come.  A datagram announces a
    scheduler exactly if it is the JSON document of an object with the type of an
    announcement and an object as its service (`Announces`); what is in that object is
    never a reason to refuse it.  Everything else is noise:

    * it is observed without a trace, so a batch leaves the same registry with and
      without its noise (`observeAll_quiet`);
    * a batch of noise alone is followed by a refresh too, but between batches there is
      nothing to publish anew: `Refreshed` holds at the start and after every refresh;
    * so a listener goes through the same states, and reports the same addresses in the
      same order, when noise and the batches it leaves empty never come. -/

namespace TaskConsole

/-! ## What announces a scheduler -/

theorem Json.members?_eq_some_iff {v : Json} {ms : Json.Members} :
    v.members? = some ms ↔ v = .object ms := by
  constructor
  · intro h
    cases v with
    | object ms' => exact congrArg Json.object (Option.some.inj h)
    | _ => exact absurd h.symm (Option.some_ne_none ms)
  · rintro rfl
    rfl

namespace Announcement

/-- The bytes are the document of an object of the announced type, and this is the
    description under its service. -/
def Announces (bytes : List UInt8) (service : Json.Members) : Prop :=
  ∃ root, Json.IsDocument bytes (.object root)
    ∧ Json.lookup "type" root = some (.string "web_service")
    ∧ Json.lookup "service" root = some (.object service)

theorem serviceMembers?_eq_some_iff {bytes : List UInt8} {service : Json.Members} :
    serviceMembers? bytes = some service ↔ Announces bytes service := by
  constructor
  · intro h
    obtain ⟨v, hv, h⟩ := Option.bind_eq_some_iff.mp h
    obtain ⟨root, hroot, h⟩ := Option.bind_eq_some_iff.mp h
    obtain ⟨_, htype, h⟩ := Option.bind_eq_some_iff.mp h
    obtain ⟨w, hw, hservice⟩ := Option.bind_eq_some_iff.mp h
    obtain ⟨t, ht, htext⟩ := Option.bind_eq_some_iff.mp ((Option.guard_eq_some' _).mp htype)
    rw [Json.members?_eq_some_iff] at hroot hservice
    rw [Json.text?_eq_some_iff] at htext
    subst hroot hservice htext
    exact ⟨root, Json.parse?_eq_some_iff.mp hv, ht, hw⟩
  · rintro ⟨root, hdocument, htype, hservice⟩
    have hguard : guard ((Json.lookup "type" root).bind Json.text? = some announcedType)
        = some () := by
      rw [Option.guard_eq_some', htype]
      rfl
    rw [serviceMembers?, Json.parse?_eq_some_iff.mpr hdocument]
    show (guard _ >>= fun _ => (Json.lookup "service" root) >>= Json.members?) = some service
    rw [hguard, hservice]
    rfl

/-- A datagram is read as an announcement exactly if it announces something, whatever
    its description holds. -/
theorem decode?_eq_some_iff {bytes : List UInt8} {sender : Address} {now : Timestamp}
    {a : Announcement} : decode? bytes sender now = some a ↔
      ∃ service, Announces bytes service ∧ ofMembers sender now service = a := by
  rw [decode?, Option.map_eq_some_iff]
  exact exists_congr fun _ => and_congr_left' serviceMembers?_eq_some_iff

/-- A port that is none spoils nothing. -/
example : Announces
    ("\x7b\"type\":\"web_service\",\"service\":\x7b\"port\":[]\x7d\x7d".toList.flatMap
      String.utf8EncodeChar) [("port", .array [])] :=
  serviceMembers?_eq_some_iff.mp (by rfl)

end Announcement

/-- A datagram that is no announcement. -/
def Datagram.isNoise (d : Datagram) : Bool :=
  (Announcement.decode? d.bytes d.sender d.receivedAt).isNone

/-- A batch without its noise; nothing when it is empty then. -/
def quiet? (batch : List Datagram) : Option (List Datagram) :=
  match batch.filter (!·.isNoise) with
  | [] => none
  | heard => some heard

/-! ## The registry -/

namespace Registry

/-- Noise is observed without a trace, and everything else leaves one. -/
theorem observe_eq_self_iff (r : Registry) (bytes : List UInt8) (sender : Address)
    (now : Timestamp) : r.observe bytes sender now = (r, false) ↔
      Announcement.decode? bytes sender now = none := by
  rw [observe]
  cases Announcement.decode? bytes sender now with
  | none => exact ⟨fun _ => rfl, fun _ => rfl⟩
  | some a =>
      constructor
      · intro h
        exact absurd (congrArg Prod.snd h) Bool.noConfusion
      · intro h
        exact absurd h (Option.some_ne_none a)

theorem observe_of_isNoise (r : Registry) {d : Datagram} (h : d.isNoise = true) :
    r.observe d.bytes d.sender d.receivedAt = (r, false) :=
  (r.observe_eq_self_iff _ _ _).mpr (Option.isNone_iff_eq_none.mp h)

/-- **A BATCH** leaves the same registry without its noise. -/
theorem observeAll_filter (r : Registry) (batch : List Datagram) :
    r.observeAll (batch.filter (!·.isNoise)) = r.observeAll batch := by
  induction batch generalizing r with
  | nil => rfl
  | cons d rest ih =>
      show _ = ((r.observe d.bytes d.sender d.receivedAt).1).observeAll rest
      cases hd : d.isNoise with
      | true =>
          rw [List.filter_cons_of_neg (by rw [hd]; exact Bool.false_ne_true), ih,
            r.observe_of_isNoise hd]
      | false =>
          rw [List.filter_cons_of_pos (by rw [hd]; rfl)]
          exact ih _

theorem observeAll_quiet (r : Registry) (batch : List Datagram) :
    r.observeAll ((quiet? batch).getD []) = r.observeAll batch := by
  rw [← observeAll_filter r batch, quiet?]
  cases batch.filter (!·.isNoise) <;> rfl

/-- There is nothing to publish anew. -/
def Refreshed (r : Registry) : Prop := r.refresh = (r, none)

theorem refreshed_empty : empty.Refreshed := rfl

theorem refreshed_refresh (r : Registry) : r.refresh.1.Refreshed := by
  cases hf : r.freshest? with
  | none =>
      rw [refresh_of_none hf]
      exact refresh_of_none hf
  | some a =>
      by_cases hp : r.published = some a.baseUrl
      · rw [refresh_of_same hf hp]
        exact refresh_of_same hf hp
      · rw [refresh_of_new hf hp]
        exact refresh_of_same (a := a) hf rfl

theorem refreshed_absorb (r : Registry) (batch : List Datagram) :
    (r.absorb batch).1.Refreshed := refreshed_refresh _

theorem absorb_quiet {r : Registry} {batch heard : List Datagram}
    (h : quiet? batch = some heard) : r.absorb heard = r.absorb batch := by
  have hall := observeAll_quiet r batch
  rw [h] at hall
  exact congrArg refresh hall

/-- A batch of noise is refreshed for nothing. -/
theorem Refreshed.absorb_noise {r : Registry} (hr : r.Refreshed) {batch : List Datagram}
    (h : quiet? batch = none) : r.absorb batch = (r, none) := by
  have hall := observeAll_quiet r batch
  rw [h] at hall
  have hself : r = r.observeAll batch := hall
  rw [absorb, ← hself]
  exact hr

/-- **BATCH AFTER BATCH**, noise makes no difference. -/
theorem Refreshed.absorbAll_quiet {r : Registry} (hr : r.Refreshed)
    (batches : List (List Datagram)) :
    r.absorbAll (batches.filterMap quiet?) = r.absorbAll batches := by
  induction batches generalizing r with
  | nil => rfl
  | cons batch rest ih =>
      cases hquiet : quiet? batch with
      | none =>
          rw [List.filterMap_cons_none hquiet, ih hr]
          simp only [absorbAll, hr.absorb_noise hquiet]
          rfl
      | some heard =>
          rw [List.filterMap_cons_some hquiet]
          simp only [absorbAll, absorb_quiet hquiet]
          rw [ih (refreshed_absorb r batch)]

end Registry

/-! ## The listener -/

namespace Listener

/-- The registry behind the socket, if there is one, has nothing to publish anew. -/
def Settled (l : Listener) : Prop := ∀ r ∈ l.registry?, r.Refreshed

theorem settled_start : ({} : Listener).Settled := by
  intro r hr
  exact absurd hr.symm (Option.some_ne_none r)

/-- **EVERY ACTION** leaves nothing to publish anew. -/
theorem Settled.act {l : Listener} (h : l.Settled) (a : Action) : (l.act a).1.Settled := by
  cases a with
  | look => exact h
  | receive batch =>
      cases hl : l.registry? with
      | none =>
          rw [Listener.act, receive_none hl]
          exact h
      | some r =>
          have hrefreshed := r.refreshed_absorb batch
          simp only [Listener.act, receive, hl]
          split
          all_goals
            rename_i s habsorb
            rw [habsorb] at hrefreshed
            intro s' hs'
            cases hs'
            exact hrefreshed
  | start socket =>
      cases hs : l.state with
      | unbound =>
          cases socket with
          | error reason =>
              rw [Listener.act, start_error hs]
              exact h
          | ok host =>
              simp only [Listener.act, start, hs]
              split
              · -- the socket is new, and so is the registry behind it
                intro r hr
                cases hr
                exact Registry.refreshed_empty
              · exact h
      | listening =>
          rw [Listener.act, start_again (by rw [hs]; exact ListenerState.noConfusion)]
          exact h
      | failed =>
          rw [Listener.act, start_again (by rw [hs]; exact ListenerState.noConfusion)]
          exact h

theorem receive_quiet (l : Listener) {batch heard : List Datagram}
    (h : quiet? batch = some heard) : l.receive heard = l.receive batch := by
  cases hl : l.registry? with
  | none => rw [receive_none hl, receive_none hl]
  | some r => simp only [receive, hl, Registry.absorb_quiet h]

theorem Settled.receive_noise {l : Listener} (h : l.Settled) {batch : List Datagram}
    (hb : quiet? batch = none) : l.receive batch = (l, []) := by
  cases hl : l.registry? with
  | none => exact receive_none hl batch
  | some r =>
      have habsorb := (h r hl).absorb_noise hb
      simp only [receive, hl, habsorb]
      rw [← hl]

end Listener

/-- An action without its noise. -/
def Action.quiet? : Action → Option Action
  | .receive batch => (TaskConsole.quiet? batch).map .receive
  | .start socket => some (.start socket)
  | .look => some .look

namespace Watch

/-- **ACTION AFTER ACTION**, noise makes no difference. -/
theorem run_quiet {w : Watch} (h : w.listener.Settled) (actions : List Action) :
    w.run (actions.filterMap Action.quiet?) = w.run actions := by
  induction actions generalizing w with
  | nil => rfl
  | cons a rest ih =>
      have hnext := ih (w := w.step a) (h.act a)
      cases a with
      | start socket => exact hnext
      | look => exact hnext
      | receive batch =>
          cases hquiet : TaskConsole.quiet? batch with
          | none =>
              have hself : w.step (.receive batch) = w :=
                step_eq_self Action.noConfusion (h.receive_noise hquiet)
              have hnone : Action.quiet? (.receive batch) = none := by
                rw [Action.quiet?, hquiet]
                rfl
              rw [hself] at hnext
              rw [List.filterMap_cons_none hnone, hnext]
              exact congrArg (run · rest) hself.symm
          | some heard =>
              have hsome : Action.quiet? (.receive batch) = some (.receive heard) := by
                rw [Action.quiet?, hquiet]
                rfl
              have hsame : w.step (.receive heard) = w.step (.receive batch) := by
                simp only [step, Listener.act, w.listener.receive_quiet hquiet]
              rw [List.filterMap_cons_some hsome]
              show (w.step (.receive heard)).run _ = _
              rw [hsame]
              exact hnext

end Watch

/-- **NOISE IS INVISIBLE.** -/
theorem noise_invisible :
    -- a datagram is an announcement exactly if it announces something
    (∀ bytes sender now a, Announcement.decode? bytes sender now = some a ↔
      ∃ service, Announcement.Announces bytes service
        ∧ Announcement.ofMembers sender now service = a)
    -- if it is none, and only then, it is observed without a trace
    ∧ (∀ (r : Registry) bytes sender now, r.observe bytes sender now = (r, false) ↔
      Announcement.decode? bytes sender now = none)
    -- the same is known and published, in the same order, without all noise
    ∧ (∀ batches, Registry.empty.absorbAll (batches.filterMap quiet?)
      = Registry.empty.absorbAll batches)
    -- and a listener goes through the same, whatever else happens to it
    ∧ ∀ actions, ({} : Watch).run (actions.filterMap Action.quiet?)
      = ({} : Watch).run actions :=
  ⟨fun _ _ _ _ => Announcement.decode?_eq_some_iff,
    fun r => r.observe_eq_self_iff,
    Registry.refreshed_empty.absorbAll_quiet,
    Watch.run_quiet Listener.settled_start⟩

end TaskConsole
