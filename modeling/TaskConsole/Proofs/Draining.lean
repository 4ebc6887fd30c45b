import TaskConsole.Proofs.Publication

/-! # Draining — datagrams that wait together may be taken together

    A listener takes all datagrams that are waiting before it refreshes the published
    address once.  Nothing is lost by that but addresses that would have been
    replaced at once:

    * a refresh changes the published address and nothing that a later datagram
      looks at, so one that is followed by another does not matter for the registry
      (`absorb_absorb`);
    * what is published at the end of a run is its last publication, so a batch
      publishes nothing that its parts do not publish (`absorb_flatten_sublist`).

    So batches that are joined leave the same registry and publish a part of the same
    addresses, in the same order. -/

namespace TaskConsole.Registry

/-! ## The published address beside the entries -/

/-- A registry with another published address. -/
def withPublished (r : Registry) (address : Option String) : Registry :=
  { r with published := address }

/-- A refresh replaces the published address, once there is a scheduler in use. -/
theorem refresh_eq (r : Registry) :
    r.refresh.1
      = r.withPublished ((r.freshest?.map Announcement.baseUrl).or r.published) := by
  cases hf : r.freshest? with
  | none => rw [refresh_of_none hf]; rfl
  | some a =>
      by_cases hp : r.published = some a.baseUrl
      · rw [refresh_of_same hf hp]
        show r = r.withPublished (some a.baseUrl)
        rw [← hp]
        rfl
      · rw [refresh_of_new hf hp]
        rfl

/-- What a refresh names is new, and it is what is published afterwards. -/
theorem refresh_eq_some {r : Registry} {url : String} (h : r.refresh.2 = some url) :
    r.published ≠ some url ∧ r.refresh.1.published = some url := by
  cases hf : r.freshest? with
  | none =>
      rw [refresh_of_none hf] at h
      exact nomatch h
  | some a =>
      by_cases hp : r.published = some a.baseUrl
      · rw [refresh_of_same hf hp] at h
        exact nomatch h
      · rw [refresh_of_new hf hp] at h ⊢
        have hurl : a.baseUrl = url := Option.some.inj h
        exact hurl ▸ ⟨hp, rfl⟩

/-- What is published after a refresh is what it named, if it named anything. -/
theorem refresh_published_eq (r : Registry) :
    r.refresh.1.published = r.refresh.2.or r.published := by
  cases hf : r.freshest? with
  | none => rw [refresh_of_none hf]; rfl
  | some a =>
      by_cases hp : r.published = some a.baseUrl
      · rw [refresh_of_same hf hp]; rfl
      · rw [refresh_of_new hf hp]; rfl

/-- A datagram is recorded or not, whatever is published. -/
theorem observe_withPublished (r : Registry) (address : Option String) (d : Datagram) :
    ((r.withPublished address).observe d.bytes d.sender d.receivedAt).1
      = (r.observe d.bytes d.sender d.receivedAt).1.withPublished address := by
  simp only [observe]
  cases Announcement.decode? d.bytes d.sender d.receivedAt with
  | none => rfl
  | some a => rfl

theorem observeAll_withPublished (r : Registry) (address : Option String)
    (batch : List Datagram) :
    (r.withPublished address).observeAll batch
      = (r.observeAll batch).withPublished address := by
  induction batch generalizing r with
  | nil => rfl
  | cons d rest ih =>
      show ((r.withPublished address).observe d.bytes d.sender d.receivedAt).1.observeAll
        rest = _
      rw [observe_withPublished, ih]
      rfl

/-- Entries are replaced and never taken away, so a scheduler in use stays one or gives
    way to another. -/
theorem freshest?_of_observeAll {r : Registry} {batch : List Datagram}
    (h : (r.observeAll batch).freshest? = none) : r.freshest? = none := by
  induction batch generalizing r with
  | nil => exact h
  | cons d rest ih =>
      have hone : (r.observe d.bytes d.sender d.receivedAt).1.freshest? = none := ih h
      simp only [observe] at hone
      cases hd : Announcement.decode? d.bytes d.sender d.receivedAt with
      | none =>
          rw [hd] at hone
          exact hone
      | some a =>
          rw [hd] at hone
          have hnil : (r.record a).entries = [] := (freshest?_eq_none_iff _).mp hone
          exact absurd hnil (List.cons_ne_nil _ _)

/-! ## Joining batches -/

theorem observeAll_append (r : Registry) (batch others : List Datagram) :
    r.observeAll (batch ++ others) = (r.observeAll batch).observeAll others :=
  List.foldl_append

/-- A refresh that is followed by another leaves no trace in the registry. -/
theorem refresh_observeAll_refresh (r : Registry) (batch : List Datagram) :
    (r.refresh.1.observeAll batch).refresh.1 = (r.observeAll batch).refresh.1 := by
  rw [refresh_eq r, observeAll_withPublished, refresh_eq, refresh_eq (r.observeAll batch),
    observeAll_published]
  cases hf : (r.observeAll batch).freshest? with
  | some a =>
      have hf' : ((r.observeAll batch).withPublished
          ((r.freshest?.map Announcement.baseUrl).or r.published)).freshest? = some a := hf
      rw [hf']
      rfl
  | none =>
      -- nothing is in use at the end, so nothing was in use before
      rw [freshest?_of_observeAll hf]
      show ((r.observeAll batch).withPublished r.published).withPublished
        ((Option.map _ (r.observeAll batch).freshest?).or r.published) = _
      rw [hf]
      rfl

/-- **TWO BATCHES ARE ONE**, as far as the registry goes. -/
theorem absorb_absorb (r : Registry) (batch others : List Datagram) :
    ((r.absorb batch).1.absorb others).1 = (r.absorb (batch ++ others)).1 := by
  rw [absorb, absorb, absorb, observeAll_append]
  exact refresh_observeAll_refresh _ _

theorem absorbAll_cons (r : Registry) (batch : List Datagram)
    (rest : List (List Datagram)) :
    r.absorbAll (batch :: rest)
      = (((r.absorb batch).1.absorbAll rest).1,
        (r.absorb batch).2.toList ++ ((r.absorb batch).1.absorbAll rest).2) := rfl

theorem absorbAll_append (r : Registry) (batches others : List (List Datagram)) :
    r.absorbAll (batches ++ others)
      = (((r.absorbAll batches).1.absorbAll others).1,
        (r.absorbAll batches).2 ++ ((r.absorbAll batches).1.absorbAll others).2) := by
  induction batches generalizing r with
  | nil => rfl
  | cons batch rest ih =>
      rw [List.cons_append, absorbAll_cons, ih, absorbAll_cons, List.append_assoc]

/-- Any batches leave the registry that they leave when they are joined. -/
theorem absorbAll_flatten (r : Registry) {batches : List (List Datagram)}
    (h : batches ≠ []) : (r.absorbAll batches).1 = (r.absorb batches.flatten).1 := by
  induction batches generalizing r with
  | nil => exact absurd rfl h
  | cons batch rest ih =>
      rw [absorbAll_cons, List.flatten_cons]
      cases rest with
      | nil =>
          rw [List.flatten_nil, List.append_nil]
          rfl
      | cons next rest =>
          rw [ih _ (List.cons_ne_nil _ _)]
          exact absorb_absorb r batch _

/-! ## What is published on the way -/

theorem absorb_published (r : Registry) (batch : List Datagram) :
    (r.absorb batch).1.published = (r.absorb batch).2.or r.published := by
  rw [absorb, refresh_published_eq, observeAll_published]

/-- The last publication of a run is what is published at its end. -/
theorem absorbAll_published (r : Registry) (batches : List (List Datagram)) :
    (r.absorbAll batches).1.published
      = (r.absorbAll batches).2.getLast?.or r.published := by
  induction batches generalizing r with
  | nil => rfl
  | cons batch rest ih =>
      rw [absorbAll_cons, ih, absorb_published, List.getLast?_append, Option.or_assoc]
      cases (r.absorb batch).2 with
      | none => rfl
      | some url => rfl

/-- **A BATCH PUBLISHES NOTHING** that its parts do not publish. -/
theorem absorb_flatten_sublist (r : Registry) {batches : List (List Datagram)}
    (h : batches ≠ []) :
    (r.absorb batches.flatten).2.toList.Sublist (r.absorbAll batches).2 := by
  cases hurl : (r.absorb batches.flatten).2 with
  | none => exact List.nil_sublist _
  | some url =>
      obtain ⟨hnew, hlast⟩ := refresh_eq_some hurl
      rw [observeAll_published] at hnew
      -- the parts end with the same address published, and did not begin with it
      have hend : (r.absorbAll batches).2.getLast?.or r.published = some url := by
        rw [← absorbAll_published, absorbAll_flatten r h]
        exact hlast
      cases hl : (r.absorbAll batches).2.getLast? with
      | none =>
          rw [hl] at hend
          exact absurd hend hnew
      | some last =>
          rw [hl] at hend
          have heq : last = url := Option.some.inj hend
          exact List.singleton_sublist.mpr (heq ▸ List.mem_of_getLast? hl)

/-! ## Cuts -/

/-- A way to cut datagrams into batches of those that follow each other. -/
structure Cut (datagrams : List Datagram) (batches : List (List Datagram)) : Prop where
  joined : batches.flatten = datagrams
  nonempty : ∀ batch ∈ batches, batch ≠ []

/-- One cut is coarser than another when its batches are batches of the other one,
    joined. -/
inductive Coarser : List (List Datagram) → List (List Datagram) → Prop where
  | nil : Coarser [] []
  | join {coarse fine : List (List Datagram)} (group : List (List Datagram)) :
      group ≠ [] → Coarser coarse fine → Coarser (group.flatten :: coarse) (group ++ fine)

/-- The cut into datagrams that each come alone. -/
def singles (datagrams : List Datagram) : List (List Datagram) := datagrams.map ([·])

theorem flatten_singles (datagrams : List Datagram) :
    (singles datagrams).flatten = datagrams := by
  rw [singles, ← List.flatMap_def]
  exact List.flatMap_singleton' datagrams

/-- No cut is finer than that one. -/
theorem Cut.coarser_singles {datagrams : List Datagram} {batches : List (List Datagram)}
    (cut : Cut datagrams batches) : Coarser batches (singles datagrams) := by
  obtain ⟨rfl, hne⟩ := cut
  induction batches with
  | nil => exact .nil
  | cons batch rest ih =>
      have hbatch : singles batch ≠ [] :=
        fun hnil => hne batch List.mem_cons_self (List.map_eq_nil_iff.mp hnil)
      have hrest := ih fun other hm => hne other (List.mem_cons_of_mem batch hm)
      have hjoin := Coarser.join (singles batch) hbatch hrest
      rw [flatten_singles] at hjoin
      rw [List.flatten_cons, singles, List.map_append]
      exact hjoin

/-- Coarser batches leave the same registry, and publish a part of the addresses. -/
theorem Coarser.absorbAll {coarse fine : List (List Datagram)} (h : Coarser coarse fine)
    (r : Registry) :
    (r.absorbAll coarse).1 = (r.absorbAll fine).1
      ∧ (r.absorbAll coarse).2.Sublist (r.absorbAll fine).2 := by
  induction h generalizing r with
  | nil => exact ⟨rfl, List.Sublist.refl _⟩
  | join group hne _ ih =>
      -- the registries are the same again at the end of each group
      obtain ⟨hlast, hsub⟩ := ih (r.absorb group.flatten).1
      rw [absorbAll_cons, absorbAll_append, absorbAll_flatten r hne]
      exact ⟨hlast, (absorb_flatten_sublist r hne).append hsub⟩

/-- **DRAINING IS SOUND.** However datagrams are cut into batches, the registry ends as
    if each had come alone, and the addresses that are published are some of those that
    are published then, in their order; the same holds against any finer cut. -/
theorem absorbAll_cut (r : Registry) {datagrams : List Datagram}
    {batches : List (List Datagram)} (cut : Cut datagrams batches) :
    (r.absorbAll batches).1 = (r.absorbAll (singles datagrams)).1
      ∧ (r.absorbAll batches).2.Sublist (r.absorbAll (singles datagrams)).2
      ∧ ∀ fine, Cut datagrams fine → Coarser batches fine →
          (r.absorbAll batches).1 = (r.absorbAll fine).1
            ∧ (r.absorbAll batches).2.Sublist (r.absorbAll fine).2 := by
  obtain ⟨hlast, hsub⟩ := cut.coarser_singles.absorbAll r
  refine ⟨hlast, hsub, ?_⟩
  intro fine _ hcoarser
  exact hcoarser.absorbAll r

/-- A datagram of the host itself that announces a scheduler at a port. -/
def portDatagram (port : String) (receivedAt : Timestamp) : Datagram where
  bytes := Utf8.encode ("\x7b\"type\":\"web_service\",\"service\":\x7b\"port\":" ++ port
    ++ "\x7d\x7d")
  sender := .loopback
  receivedAt

/-- Two schedulers announce themselves, the fresher one last, and noise follows. -/
def overtaken : List Datagram :=
  [portDatagram "1" firstDay, portDatagram "2" secondDay, ⟨[], .loopback, secondDay⟩]

/-- The two announcements are taken together. -/
def overtakenBatches : List (List Datagram) :=
  [[portDatagram "1" firstDay, portDatagram "2" secondDay], [⟨[], .loopback, secondDay⟩]]

theorem overtaken_cut : Cut overtaken overtakenBatches where
  joined := rfl
  nonempty := by
    intro batch hm
    rcases List.mem_cons.mp hm with rfl | hm
    · exact List.cons_ne_nil _ _
    · rw [List.mem_singleton.mp hm]
      exact List.cons_ne_nil _ _

theorem absorbAll_cut_overtaken :
    Cut overtaken overtakenBatches
      ∧ (empty.absorbAll overtakenBatches).1 = (empty.absorbAll (singles overtaken)).1
      ∧ (empty.absorbAll overtakenBatches).2.Sublist (empty.absorbAll (singles overtaken)).2
      ∧ (empty.absorbAll overtakenBatches).2 = ["http://127.0.0.1:2/"]
      ∧ (empty.absorbAll (singles overtaken)).2
        = ["http://127.0.0.1:1/", "http://127.0.0.1:2/"] := by
  obtain ⟨hlast, hsub, _⟩ := absorbAll_cut empty overtaken_cut
  exact ⟨overtaken_cut, hlast, hsub, by decide +kernel, by decide +kernel⟩

end TaskConsole.Registry
