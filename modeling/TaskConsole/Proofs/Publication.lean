import Mathlib.Data.List.Chain
import TaskConsole.Discovery.Listener
import TaskConsole.Proofs.RegistryHistory

/-! # Publication — what a listener shows, and what it reports

    A listener is asked to open its socket, now and again, and datagrams arrive in
    batches.  What it shows on its board, what it reports as events, and what is in
    the registry behind its socket are kept in three places; the invariant `Sound`
    says that they agree after every action:

    * the first attempt to open the socket decides where the listener stands, and
      the right to publish is handed over exactly when it listens;
    * the registry logs what was announced since then, and its published address is
      the one on the board, and that of the last event;
    * one who watches the board has missed as many publications as there were since
      the last look.

    `Watch.Conforms` is what follows for everyone who only looks from outside. -/

namespace TaskConsole

/-! ## Actions -/

/-- What happens to a listener, and to one who watches its board. -/
inductive Action where
  -- an attempt to open the socket, and what comes of it if it is made
  | start (socket : Except String Address)
  -- datagrams that were waiting together arrive
  | receive (batch : List Datagram)
  -- the one who watches takes a look
  | look

/-- The addresses among reported events. -/
def urls (events : List DiscoveryEvent) : List String :=
  events.filterMap fun
    | .serviceUrlChanged url => some url
    | .error _ => none

/-- The error messages among reported events. -/
def errors (events : List DiscoveryEvent) : List String :=
  events.filterMap fun
    | .serviceUrlChanged _ => none
    | .error message => some message

theorem urls_append (events others : List DiscoveryEvent) :
    urls (events ++ others) = urls events ++ urls others := List.filterMap_append

theorem errors_append (events others : List DiscoveryEvent) :
    errors (events ++ others) = errors events ++ errors others := List.filterMap_append

namespace Listener

/-- The listener after an action, and the events that it reports. -/
def act (l : Listener) : Action → Listener × List DiscoveryEvent
  | .start socket => ((l.start socket).1, (l.start socket).2.2)
  | .receive batch => l.receive batch
  | .look => (l, [])

/-! ## What the operations do -/

theorem start_ok {l : Listener} (h : l.state = .unbound) (hp : l.holdsPublisher = true)
    (host : Address) :
    l.start (.ok host) = (({ l with localAddress? := some host } : Listener).listen,
      .ok (), []) := by
  rw [start, h]
  show (if l.holdsPublisher = true then _ else _, _) = _
  rw [if_pos hp]

theorem start_error {l : Listener} (h : l.state = .unbound) (reason : String) :
    l.start (.error reason) = ({ l with state := .failed }, .error (.bind reason),
      [.error (Failure.bind reason).message]) := by
  rw [start, h]

/-- Only the first attempt counts. -/
theorem start_again {l : Listener} (h : l.state ≠ .unbound)
    (socket : Except String Address) : l.start socket = (l, .ok (), []) := by
  cases hs : l.state with
  | unbound => exact absurd hs h
  | listening => simp only [start, hs]
  | failed => simp only [start, hs]

theorem receive_none {l : Listener} (h : l.registry? = none) (batch : List Datagram) :
    l.receive batch = (l, []) := by
  rw [receive, h]

/-- A batch after which the address in use is the one that was published. -/
theorem receive_same {l : Listener} {r : Registry} (h : l.registry? = some r)
    {batch : List Datagram} (hb : (r.observeAll batch).refresh = (r.observeAll batch, none)) :
    l.receive batch = ({ l with registry? := some (r.observeAll batch) }, []) := by
  simp only [receive, h, Registry.absorb, hb]

/-- A batch after which it is another one. -/
theorem receive_new {l : Listener} {r s : Registry} {url : String}
    (h : l.registry? = some r) {batch : List Datagram}
    (hb : (r.observeAll batch).refresh = (s, some url)) :
    l.receive batch = ({ l with registry? := some s, board := l.board.publish url },
      [.serviceUrlChanged url]) := by
  simp only [receive, h, Registry.absorb, hb]

end Listener

/-! ## Watching -/

/-- A listener, one who watches its board, and a record of what became known. -/
structure Watch where
  listener : Listener := {}
  -- the one who watches the board
  subscriber : Subscriber := {}
  -- the events that were reported, in their order
  stream : List DiscoveryEvent := []
  -- the addresses published since the last look
  unseen : List String := []

namespace Watch

/-- An action, and what becomes known by it. -/
def step (w : Watch) (a : Action) : Watch :=
  let (listener, events) := w.listener.act a
  { listener
    subscriber :=
      match a with
      | .look => w.subscriber.look w.listener.board
      | _ => w.subscriber
    stream := w.stream ++ events
    unseen :=
      match a with
      | .look => []
      | _ => w.unseen ++ urls events }

/-- One action after the other. -/
def run (w : Watch) (actions : List Action) : Watch := actions.foldl step w

end Watch

/-! ## What the actions say -/

/-- What came of the first attempt to open the socket, if there was one. -/
def attempt? (actions : List Action) : Option (Except String Address) :=
  actions.findSome? fun
    | .start socket => some socket
    | _ => none

/-- Where a listener stands after its first attempt. -/
def stateAfter : Option (Except String Address) → ListenerState
  | none => .unbound
  | some (.ok _) => .listening
  | some (.error _) => .failed

/-- The error messages that a first attempt is the cause of. -/
def errorsAfter : Option (Except String Address) → List String
  | some (.error reason) => [(Failure.bind reason).message]
  | _ => []

/-- The datagrams that an action brings. -/
def Action.batch : Action → List Datagram
  | .receive batch => batch
  | _ => []

/-- The datagrams that arrive while the listener listens. -/
def heard : List Action → List Datagram
  | [] => []
  | .start (.ok _) :: rest => rest.flatMap Action.batch
  | .start (.error _) :: _ => []
  | .receive _ :: rest => heard rest
  | .look :: rest => heard rest

/-- The announcements among datagrams. -/
def announcedIn (datagrams : List Datagram) : List Announcement :=
  Registry.announced (datagrams.map Registry.Call.observe)

theorem announcedIn_append (datagrams others : List Datagram) :
    announcedIn (datagrams ++ others) = announcedIn datagrams ++ announcedIn others := by
  rw [announcedIn, List.map_append, Registry.announced, List.filterMap_append]
  rfl

theorem attempt?_concat (actions : List Action) (a : Action) :
    attempt? (actions ++ [a]) = (attempt? actions).or (attempt? [a]) :=
  List.findSome?_append

/-- A later action brings something only if the listener listens already. -/
theorem heard_concat (actions : List Action) (a : Action) :
    heard (actions ++ [a]) =
      if stateAfter (attempt? actions) = .listening then heard actions ++ a.batch
      else heard actions := by
  induction actions with
  | nil =>
      cases a with
      | start socket => cases socket <;> rfl
      | receive batch => rfl
      | look => rfl
  | cons b rest ih =>
      cases b with
      | start socket =>
          cases socket with
          | ok host =>
              show (rest ++ [a]).flatMap Action.batch = rest.flatMap Action.batch ++ a.batch
              rw [List.flatMap_append, List.flatMap_singleton]
          | error reason => rfl
      | receive batch => exact ih
      | look => exact ih

theorem heard_concat_of_nil (actions : List Action) {a : Action} (h : a.batch = []) :
    heard (actions ++ [a]) = heard actions := by
  rw [heard_concat, h, List.append_nil]
  exact ite_self _

/-! ## The registry behind the socket -/

namespace Registry

theorem observe_published (r : Registry) (d : Datagram) :
    (r.observe d.bytes d.sender d.receivedAt).1.published = r.published := by
  rw [observe]
  cases Announcement.decode? d.bytes d.sender d.receivedAt with
  | none => rfl
  | some a => rfl

/-- Only a refresh publishes. -/
theorem observeAll_published (r : Registry) (batch : List Datagram) :
    (r.observeAll batch).published = r.published := by
  induction batch generalizing r with
  | nil => rfl
  | cons d rest ih =>
      show ((r.observe d.bytes d.sender d.receivedAt).1.observeAll rest).published = _
      rw [ih, observe_published]

/-- A batch is one observation after the other. -/
theorem Logs.observeAll {r : Registry} {history : List Announcement} (h : r.Logs history)
    (batch : List Datagram) :
    (r.observeAll batch).Logs (history ++ announcedIn batch) := by
  have hcalls := h.callAll (batch.map Call.observe)
  rw [Registry.callAll, List.foldl_map] at hcalls
  exact hcalls

end Registry

/-! ## The invariant -/

namespace Watch

/-- Board, events and registry agree, given the first attempt and what was heard. -/
structure Sound (w : Watch) (attempt : Option (Except String Address))
    (datagrams : List Datagram) : Prop where
  -- the first attempt decides where the listener stands
  state_eq : w.listener.state = stateAfter attempt
  -- the right to publish is handed over to the one who listens
  publisher : w.listener.holdsPublisher = true ↔ w.listener.state ≠ .listening
  -- the address is that of the open socket
  address : w.listener.localAddress?.isSome = true ↔ w.listener.state = .listening
  -- one who does not listen has no registry, reports no address and hears nothing
  deaf : w.listener.state ≠ .listening →
    w.listener.registry? = none ∧ urls w.stream = [] ∧ datagrams = []
  -- one who listens has logged what was heard, and shows the scheduler in use
  logs : w.listener.state = .listening → ∃ r, w.listener.registry? = some r
    ∧ r.Logs (announcedIn datagrams) ∧ r.published = w.listener.board.value
    ∧ r.published = r.freshest?.map Announcement.baseUrl
  -- the first attempt is the cause of every error
  errors_eq : errors w.stream = errorsAfter attempt
  -- the board shows the last address that was reported
  shown : w.listener.board.value = (urls w.stream).getLast?
  -- no address is reported twice in a row
  chain : (urls w.stream).IsChain (· ≠ ·)
  -- the one who watches has missed what was published since the last look
  missed : w.listener.board.version = w.subscriber.seen + w.unseen.length

theorem sound_start : ({} : Watch).Sound none [] where
  state_eq := rfl
  publisher := ⟨fun _ => (nomatch ·), fun _ => rfl⟩
  address := ⟨(nomatch ·), (nomatch ·)⟩
  deaf := fun _ => ⟨rfl, rfl, rfl⟩
  logs := fun h => nomatch h
  errors_eq := rfl
  shown := rfl
  chain := .nil
  missed := rfl

variable {w : Watch} {attempt : Option (Except String Address)}
  {datagrams : List Datagram}

/-- Before any attempt, nobody listens. -/
theorem Sound.unbound (h : w.Sound none datagrams) :
    w.listener.state = .unbound ∧ w.listener.state ≠ .listening := by
  have hs : w.listener.state = .unbound := h.state_eq
  refine ⟨hs, ?_⟩
  rw [hs]
  exact fun he => nomatch he

theorem Sound.open (h : w.Sound none datagrams) (host : Address) :
    (w.step (.start (.ok host))).Sound (some (.ok host)) datagrams := by
  obtain ⟨hs, hns⟩ := h.unbound
  obtain ⟨_, hurls, hnil⟩ := h.deaf hns
  have hstep : w.step (.start (.ok host)) =
      { w with
        listener := ({ w.listener with localAddress? := some host } : Listener).listen
        stream := w.stream ++ []
        unseen := w.unseen ++ [] } := by
    simp only [step, Listener.act, Listener.start_ok hs (h.publisher.mpr hns)]
    rfl
  rw [hstep, List.append_nil, List.append_nil]
  have hvalue : w.listener.board.value = none := by
    rw [h.shown, hurls]
    rfl
  refine
    { state_eq := rfl
      publisher := ⟨(nomatch ·), fun hne => absurd rfl hne⟩
      address := ⟨fun _ => rfl, fun _ => rfl⟩
      deaf := fun hne => absurd rfl hne
      logs := fun _ => ⟨.empty, rfl, ?_, hvalue.symm, rfl⟩
      errors_eq := h.errors_eq
      shown := h.shown
      chain := h.chain
      missed := h.missed }
  rw [hnil]
  exact Registry.empty_logs

theorem Sound.fail (h : w.Sound none datagrams) (reason : String) :
    (w.step (.start (.error reason))).Sound (some (.error reason)) datagrams := by
  obtain ⟨hs, hns⟩ := h.unbound
  obtain ⟨hreg, hurls, hnil⟩ := h.deaf hns
  have hstep : w.step (.start (.error reason)) =
      { w with
        listener := { w.listener with state := .failed }
        stream := w.stream ++ [.error (Failure.bind reason).message]
        unseen := w.unseen ++ [] } := by
    simp only [step, Listener.act, Listener.start_error hs]
    rfl
  have hsame : urls (w.stream ++ [.error (Failure.bind reason).message])
      = urls w.stream := by
    rw [urls_append]
    exact List.append_nil _
  rw [hstep, List.append_nil]
  exact
    { state_eq := rfl
      publisher := ⟨fun _ => (nomatch ·), fun _ => h.publisher.mpr hns⟩
      address := ⟨fun ha => absurd (h.address.mp ha) hns, (nomatch ·)⟩
      deaf := fun _ => ⟨hreg, hsame.trans hurls, hnil⟩
      logs := fun he => nomatch he
      errors_eq := by
        rw [errors_append, h.errors_eq]
        rfl
      shown := by
        rw [hsame]
        exact h.shown
      chain := by
        rw [hsame]
        exact h.chain
      missed := h.missed }

/-- What nobody takes notice of leaves everything as it is. -/
theorem step_eq_self {a : Action} (ha : a ≠ .look)
    (h : w.listener.act a = (w.listener, [])) : w.step a = w := by
  have happend : w.unseen ++ urls [] = w.unseen := List.append_nil _
  cases a with
  | start socket => simp only [step, h, List.append_nil, happend]
  | receive batch => simp only [step, h, List.append_nil, happend]
  | look => exact absurd rfl ha

theorem Sound.look (h : w.Sound attempt datagrams) :
    (w.step .look).Sound attempt datagrams := by
  have hstep : w.step .look =
      { w with
        subscriber := w.subscriber.look w.listener.board
        stream := w.stream ++ []
        unseen := [] } := rfl
  rw [hstep, List.append_nil]
  exact { h with missed := rfl }

/-- A batch that changes nothing about the address in use. -/
theorem Sound.receive_same (h : w.Sound attempt datagrams) {batch : List Datagram}
    (hl : w.listener.state = .listening) {r : Registry}
    (hact : w.listener.receive batch = ({ w.listener with registry? := some r }, []))
    (hlogs : r.Logs (announcedIn (datagrams ++ batch)))
    (hboard : r.published = w.listener.board.value)
    (hfresh : r.published = r.freshest?.map Announcement.baseUrl) :
    (w.step (.receive batch)).Sound attempt (datagrams ++ batch) := by
  have hstep : w.step (.receive batch) =
      { w with
        listener := { w.listener with registry? := some r }
        stream := w.stream ++ []
        unseen := w.unseen ++ [] } := by
    simp only [step, Listener.act, hact]
    rfl
  rw [hstep, List.append_nil, List.append_nil]
  exact
    { state_eq := h.state_eq
      publisher := h.publisher
      address := h.address
      deaf := fun hne => absurd hl hne
      logs := fun _ => ⟨r, rfl, hlogs, hboard, hfresh⟩
      errors_eq := h.errors_eq
      shown := h.shown
      chain := h.chain
      missed := h.missed }

/-- A batch after which another address is in use. -/
theorem Sound.receive_new (h : w.Sound attempt datagrams) {batch : List Datagram}
    (hl : w.listener.state = .listening) {r : Registry} {url : String}
    (hact : w.listener.receive batch =
      ({ w.listener with registry? := some r, board := w.listener.board.publish url },
        [.serviceUrlChanged url]))
    (hlogs : r.Logs (announcedIn (datagrams ++ batch)))
    (hnew : w.listener.board.value ≠ some url) (hpub : r.published = some url)
    (hfresh : r.published = r.freshest?.map Announcement.baseUrl) :
    (w.step (.receive batch)).Sound attempt (datagrams ++ batch) := by
  have hstep : w.step (.receive batch) =
      { w with
        listener :=
          { w.listener with registry? := some r, board := w.listener.board.publish url }
        stream := w.stream ++ [.serviceUrlChanged url]
        unseen := w.unseen ++ [url] } := by
    simp only [step, Listener.act, hact]
    rfl
  have hurls : urls (w.stream ++ [.serviceUrlChanged url]) = urls w.stream ++ [url] :=
    urls_append _ _
  rw [hstep]
  exact
    { state_eq := h.state_eq
      publisher := h.publisher
      address := h.address
      deaf := fun hne => absurd hl hne
      logs := fun _ => ⟨r, rfl, hlogs, hpub, hfresh⟩
      errors_eq := by
        rw [errors_append, h.errors_eq]
        exact List.append_nil _
      shown := by
        rw [hurls, List.getLast?_concat]
        rfl
      chain := by
        rw [hurls]
        refine h.chain.append (.singleton url) ?_
        -- the last address that was reported is on the board, and this one is not
        intro last hlast next hnext heq
        have hurl : url = next := Option.some.inj hnext
        rw [← h.shown, heq, ← hurl] at hlast
        exact hnew hlast
      missed := by
        rw [List.length_append, List.length_singleton, ← Nat.add_assoc, ← h.missed]
        rfl }

/-- One who listens keeps up with every batch. -/
theorem Sound.receive (h : w.Sound attempt datagrams) (hl : w.listener.state = .listening)
    (batch : List Datagram) :
    (w.step (.receive batch)).Sound attempt (datagrams ++ batch) := by
  obtain ⟨r, hr, hlogs, hboard, _⟩ := h.logs hl
  have hlogs' := hlogs.observeAll batch
  rw [← announcedIn_append] at hlogs'
  have hpub := r.observeAll_published batch
  cases hf : (r.observeAll batch).freshest? with
  | none =>
      -- nothing was announced so far, so nothing is published either
      have hnone := hlogs'.unpublished (hlogs'.remembers.freshest?_eq_none_iff.mp hf)
      have hact := Listener.receive_same hr (Registry.refresh_of_none hf)
      refine h.receive_same hl hact hlogs' (hpub.trans hboard) ?_
      rw [hf, hnone]
      rfl
  | some a =>
      -- the winner may change while its address does not
      by_cases hsame : (r.observeAll batch).published = some a.baseUrl
      · have hact := Listener.receive_same hr (Registry.refresh_of_same hf hsame)
        refine h.receive_same hl hact hlogs' (hpub.trans hboard) ?_
        rw [hf, hsame]
        rfl
      · have hrefresh := Registry.refresh_of_new hf hsame
        have hact := Listener.receive_new hr hrefresh
        have hlogs'' := hlogs'.refresh
        rw [hrefresh] at hlogs''
        refine h.receive_new hl hact hlogs'' ?_ rfl ?_
        · rw [← hboard, ← hpub]
          exact hsame
        · exact (congrArg (Option.map Announcement.baseUrl) hf).symm

/-- An action keeps the invariant, with the action added to those before. -/
theorem Sound.step {past : List Action} (h : w.Sound (attempt? past) (heard past))
    (a : Action) : (w.step a).Sound (attempt? (past ++ [a])) (heard (past ++ [a])) := by
  rw [attempt?_concat]
  cases a with
  | look =>
      show (w.step .look).Sound ((attempt? past).or none) _
      rw [Option.or_none, heard_concat_of_nil past rfl]
      exact h.look
  | start socket =>
      show (w.step (.start socket)).Sound ((attempt? past).or (some socket)) _
      rw [heard_concat_of_nil past rfl]
      cases hat : attempt? past with
      | none =>
          rw [hat] at h
          cases socket with
          | ok host => exact h.open host
          | error reason => exact h.fail reason
      | some first =>
          -- the listener is no longer unbound, so the attempt is not made
          rw [hat] at h
          have hs : w.listener.state ≠ .unbound := by
            rw [h.state_eq]
            cases first with
            | ok host => exact fun he => nomatch he
            | error reason => exact fun he => nomatch he
          have hact : w.listener.act (.start socket) = (w.listener, []) := by
            rw [Listener.act, Listener.start_again hs]
          rw [step_eq_self (a := .start socket) (fun he => nomatch he) hact]
          exact h
  | receive batch =>
      show (w.step (.receive batch)).Sound ((attempt? past).or none) _
      rw [Option.or_none, heard_concat, ← h.state_eq]
      by_cases hl : w.listener.state = .listening
      · rw [if_pos hl]
        exact h.receive hl batch
      · rw [if_neg hl]
        have hact : w.listener.act (.receive batch) = (w.listener, []) :=
          Listener.receive_none (h.deaf hl).1 batch
        rw [step_eq_self (a := .receive batch) (fun he => nomatch he) hact]
        exact h

/-- And so do any actions. -/
theorem Sound.run {past : List Action} (h : w.Sound (attempt? past) (heard past))
    (actions : List Action) :
    (w.run actions).Sound (attempt? (past ++ actions)) (heard (past ++ actions)) := by
  induction actions generalizing w past with
  | nil =>
      rw [List.append_nil]
      exact h
  | cons a rest ih =>
      have hrest := ih (h.step a)
      rw [List.append_assoc] at hrest
      exact hrest

/-- **BOARD, EVENTS AND REGISTRY AGREE** after any actions. -/
theorem sound_run (actions : List Action) :
    (({} : Watch).run actions).Sound (attempt? actions) (heard actions) := by
  have hstart : ({} : Watch).Sound (attempt? []) (heard []) := sound_start
  exact hstart.run actions

/-! ## What is seen from outside -/

/-- What a listener shows and reports after some actions. -/
structure Conforms (w : Watch) (actions : List Action) : Prop where
  -- the first attempt decides where the listener stands
  state_eq : w.listener.state = stateAfter (attempt? actions)
  -- an attempt after the first one succeeds, and changes nothing
  start_again : w.listener.state ≠ .unbound → ∀ socket,
    w.listener.start socket = (w.listener, .ok (), [])
  -- a socket that opens at the first attempt is listened to: the right to publish is still
  -- there to be handed over
  start_first : w.listener.state = .unbound → w.listener.holdsPublisher = true
    ∧ ∀ host, (w.listener.start (.ok host)).1.state = .listening
  -- one error is reported if the first attempt fails, and none otherwise
  errors_eq : errors w.stream = errorsAfter (attempt? actions)
  -- an action reports one address at most, and only a batch does, to one who listens
  urls_act : ∀ a, (urls (w.listener.act a).2).length ≤ 1
    ∧ (urls (w.listener.act a).2 ≠ [] →
        w.listener.state = .listening ∧ ∃ batch, a = .receive batch)
  -- no address is reported twice in a row
  urls_chain : (urls w.stream).IsChain (· ≠ ·)
  -- the address on the board is the last one that was reported
  current_eq : w.listener.currentUrl? = (urls w.stream).getLast?
  -- one who listens remembers what was heard, and the address on the board is that of the
  -- scheduler in use
  registry : w.listener.state = .listening → ∃ r, w.listener.registry? = some r
    ∧ r.Remembers (announcedIn (heard actions))
    ∧ w.listener.currentUrl? = r.freshest?.map Announcement.baseUrl
  -- the one who watches has something unseen if there was a publication since the last
  -- look, and only then
  hasUnseen_iff : w.subscriber.hasUnseen w.listener.board = true ↔ w.unseen ≠ []
  -- one who listens has an address, and nobody else
  address_iff : w.listener.localAddress?.isSome = true ↔ w.listener.state = .listening

theorem Sound.start_first (h : w.Sound attempt datagrams)
    (hs : w.listener.state = .unbound) : w.listener.holdsPublisher = true
      ∧ ∀ host, (w.listener.start (.ok host)).1.state = .listening := by
  have hp : w.listener.holdsPublisher = true := by
    rw [h.publisher, hs]
    exact fun he => nomatch he
  refine ⟨hp, ?_⟩
  intro host
  rw [Listener.start_ok hs hp]
  rfl

theorem urls_start (l : Listener) (socket : Except String Address) :
    urls (l.start socket).2.2 = [] := by
  by_cases hs : l.state = .unbound
  · cases socket with
    | ok host => simp only [Listener.start, hs, urls, List.filterMap_nil]
    | error reason =>
        rw [Listener.start_error hs]
        rfl
  · rw [Listener.start_again hs]
    rfl

theorem length_urls_receive (l : Listener) (batch : List Datagram) :
    (urls (l.receive batch).2).length ≤ 1 := by
  cases hr : l.registry? with
  | none =>
      rw [Listener.receive_none hr]
      exact Nat.zero_le 1
  | some r =>
      simp only [Listener.receive, hr]
      cases r.absorb batch with
      | mk s published =>
          cases published with
          | none => exact Nat.zero_le 1
          | some url => exact Nat.le_refl 1

theorem Sound.urls_act (h : w.Sound attempt datagrams) (a : Action) :
    (urls (w.listener.act a).2).length ≤ 1
      ∧ (urls (w.listener.act a).2 ≠ [] →
          w.listener.state = .listening ∧ ∃ batch, a = .receive batch) := by
  cases a with
  | look => exact ⟨Nat.zero_le 1, fun hne => absurd rfl hne⟩
  | start socket =>
      have hnil : urls (w.listener.act (.start socket)).2 = [] :=
        urls_start w.listener socket
      rw [hnil]
      exact ⟨Nat.zero_le 1, fun hne => absurd rfl hne⟩
  | receive batch =>
      refine ⟨length_urls_receive w.listener batch, ?_⟩
      intro hne
      refine ⟨?_, batch, rfl⟩
      by_cases hl : w.listener.state = .listening
      · exact hl
      · have hact : w.listener.act (.receive batch) = (w.listener, []) :=
          Listener.receive_none (h.deaf hl).1 batch
        rw [hact] at hne
        exact absurd rfl hne

theorem Sound.hasUnseen_iff (h : w.Sound attempt datagrams) :
    w.subscriber.hasUnseen w.listener.board = true ↔ w.unseen ≠ [] := by
  rw [Subscriber.hasUnseen, bne_iff_ne, h.missed, ← List.length_pos_iff]
  omega

theorem Sound.conforms {actions : List Action}
    (h : w.Sound (attempt? actions) (heard actions)) : w.Conforms actions where
  state_eq := h.state_eq
  start_again := fun hs socket => Listener.start_again hs socket
  start_first := h.start_first
  errors_eq := h.errors_eq
  urls_act := h.urls_act
  urls_chain := h.chain
  current_eq := h.shown
  registry := by
    intro hl
    obtain ⟨r, hr, hlogs, hboard, hfresh⟩ := h.logs hl
    exact ⟨r, hr, hlogs.remembers, hboard.symm.trans hfresh⟩
  hasUnseen_iff := h.hasUnseen_iff
  address_iff := h.address

/-- What was reported stays reported. -/
theorem stream_run (w : Watch) (actions : List Action) :
    w.stream <+: (w.run actions).stream := by
  induction actions generalizing w with
  | nil => exact List.prefix_refl _
  | cons a rest ih => exact (List.prefix_append w.stream _).trans (ih (w.step a))

/-- **THE PUBLICATION STREAM.** After any actions, board, events and registry conform;
    once the socket was tried, no action moves the listener, and once an address is
    shown, there always is one. -/
theorem publication (actions : List Action) :
    (({} : Watch).run actions).Conforms actions
      ∧ ∀ more : List Action,
        ((({} : Watch).run actions).listener.state ≠ .unbound →
          (({} : Watch).run (actions ++ more)).listener.state
            = (({} : Watch).run actions).listener.state)
        ∧ ((({} : Watch).run actions).listener.currentUrl? ≠ none →
          (({} : Watch).run (actions ++ more)).listener.currentUrl? ≠ none) := by
  have hrun := sound_run actions
  refine ⟨hrun.conforms, ?_⟩
  intro more
  have hmore := sound_run (actions ++ more)
  constructor
  · intro hs
    rw [hmore.state_eq, hrun.state_eq]
    rw [hrun.state_eq] at hs
    show stateAfter (attempt? (actions ++ more)) = stateAfter (attempt? actions)
    cases hat : attempt? actions with
    | none => exact absurd (congrArg stateAfter hat) hs
    | some first =>
        rw [attempt?, List.findSome?_append]
        rw [attempt?] at hat
        rw [hat]
        rfl
  · intro hc
    -- the events so far stay at the front, and one of them is an address
    obtain ⟨later, hlater⟩ := (({} : Watch).run actions).stream_run more
    have happend : ({} : Watch).run (actions ++ more)
        = (({} : Watch).run actions).run more := List.foldl_append
    rw [Listener.currentUrl?, hrun.shown] at hc
    rw [Listener.currentUrl?, hmore.shown, happend, ← hlater, urls_append]
    intro hnone
    rw [List.getLast?_eq_none_iff, List.append_eq_nil_iff] at hnone
    exact hc (List.getLast?_eq_none_iff.mpr hnone.1)

/-- A datagram that announces a scheduler without saying more. -/
def sampleDatagram : Datagram where
  bytes := Utf8.encode "\x7b\"type\":\"web_service\",\"service\":\x7b\x7d\x7d"
  sender := .loopback
  receivedAt := Registry.firstDay

/-- The socket is opened, a scheduler announces itself, and somebody looks. -/
def sampleActions : List Action :=
  [.start (.ok .loopback), .receive [sampleDatagram], .look]

theorem publication_sampleActions :
    (({} : Watch).run sampleActions).Conforms sampleActions
      ∧ (({} : Watch).run (sampleActions ++ [.start (.error "in use"), .receive []])
          ).listener.state = .listening
      ∧ (({} : Watch).run (sampleActions ++ [.start (.error "in use"), .receive []])
          ).listener.currentUrl? ≠ none := by
  obtain ⟨hconforms, hmore⟩ := publication sampleActions
  obtain ⟨hstate, hcurrent⟩ := hmore [.start (.error "in use"), .receive []]
  exact ⟨hconforms, (hstate (by decide +kernel)).trans (by decide +kernel),
    hcurrent (by decide +kernel)⟩

end Watch

end TaskConsole
