import TaskConsole.Proofs.Listings

/-! # Task lists — what is taken of a list that comes

    The items of a list are taken one by one: an object as the task that it describes,
    whatever its members are, and anything else not at all.  So

    * the tasks are those of the objects, in their order (`Task.describedBy_filterMap`);
    * parts of a list bring parts of the tasks, and what is no object makes no difference,
      wherever it stands (`Client.TakesObjects`).

    Which lists can come at all is decided item by item too: an array can be written where
    its items can be written one level deeper (`Json.writable_array_iff`), so that the parts
    of a list that can be sent can be sent themselves, and the other way round. -/

namespace TaskConsole

/-! ## What can be written -/

namespace Json

/-- A space before a text changes no token of it. -/
theorem Token.Scans.cons_space {cs : List Char} {ts : List Token} (h : Scans cs ts) :
    Scans (' ' :: cs) ts := by
  have hspace {spaces : List Char} (hs : ∀ c ∈ spaces, isSpace c = true) :
      ∀ c ∈ ' ' :: spaces, isSpace c = true := by
    intro c hc
    rcases List.mem_cons.mp hc with rfl | hc
    · rfl
    · exact hs c hc
  cases h with
  | done hspaces => exact .done (hspace hspaces)
  | token hspaces hlexeme hends hrest => exact .token (hspace hspaces) hlexeme hends hrest

/-- The tokens of a text have lexemes. -/
theorem Token.Scans.exists_lexeme {cs : List Char} {ts : List Token} (h : Scans cs ts) :
    ∀ t ∈ ts, ∃ text, Lexeme t text := by
  intro t ht
  induction h with
  | done _ => exact absurd ht List.not_mem_nil
  | token _ hlexeme _ _ ih =>
      rcases List.mem_cons.mp ht with rfl | ht
      · exact ⟨_, hlexeme⟩
      · exact ih ht

/-- Tokens that have lexemes are those of a text: the lexemes, with spaces between them. -/
theorem Token.exists_scans {ts : List Token} (h : ∀ t ∈ ts, ∃ text, Lexeme t text) :
    ∃ cs, Scans cs ts := by
  induction ts with
  | nil => exact ⟨[], .done (List.forall_mem_nil _)⟩
  | cons t ts ih =>
      obtain ⟨text, hlexeme⟩ := h t List.mem_cons_self
      obtain ⟨cs, hcs⟩ := ih fun u hu => h u (List.mem_cons_of_mem t hu)
      have hends : t.EndsBefore (' ' :: cs) := by
        intro _ _ c hc
        rw [← Option.some.inj hc]
        rfl
      exact ⟨_, .token (List.forall_mem_nil _) hlexeme hends hcs.cons_space⟩

/-- A value can be written, with so many levels of nesting at most. -/
def Writable (n : Nat) (v : Json) : Prop :=
  ∃ ts, Derives n (.value v) ts ∧ ∀ t ∈ ts, ∃ text, Token.Lexeme t text

theorem isDocument_iff_writable {v : Json} :
    (∃ bytes, IsDocument bytes v) ↔ Writable maxDepth v := by
  constructor
  · rintro ⟨bytes, cs, ts, -, hscans, hv⟩
    exact ⟨ts, hv, hscans.exists_lexeme⟩
  · rintro ⟨ts, hv, hlexemes⟩
    obtain ⟨cs, hscans⟩ := Token.exists_scans hlexemes
    exact ⟨_, cs, ts, rfl, hscans, hv⟩

/-- The items of a text can be written. -/
theorem Derives.writable_items {n : Nat} {vs : List Json} {ts : List Token}
    (h : Derives n (.items vs) ts) (hlexemes : ∀ t ∈ ts, ∃ text, Token.Lexeme t text) :
    ∀ v ∈ vs, Writable n v := by
  induction vs generalizing ts with
  | nil => exact List.forall_mem_nil _
  | cons w vs ih =>
      intro v hv
      cases h with
      | item hw =>
          rw [List.mem_singleton.mp hv]
          exact ⟨ts, hw, hlexemes⟩
      | @items _ _ _ us rest hw hvs =>
          rcases List.mem_cons.mp hv with rfl | hv
          · exact ⟨us, hw, fun t ht => hlexemes t (List.mem_append_left _ ht)⟩
          · exact ih hvs (fun t ht => hlexemes t
              (List.mem_append_right _ (List.mem_cons_of_mem _ ht))) v hv

/-- Items that can be written can be written with commas between them. -/
theorem exists_derives_items {n : Nat} {v : Json} {vs : List Json}
    (h : ∀ w ∈ v :: vs, Writable n w) :
    ∃ ts, Derives n (.items (v :: vs)) ts ∧ ∀ t ∈ ts, ∃ text, Token.Lexeme t text := by
  induction vs generalizing v with
  | nil =>
      obtain ⟨ts, hv, hlexemes⟩ := h v List.mem_cons_self
      exact ⟨ts, .item hv, hlexemes⟩
  | cons w vs ih =>
      obtain ⟨ts, hv, hts⟩ := h v List.mem_cons_self
      obtain ⟨us, hvs, hus⟩ := ih fun u hu => h u (List.mem_cons_of_mem v hu)
      refine ⟨_, .items hv hvs, ?_⟩
      intro t ht
      rcases List.mem_append.mp ht with ht | ht
      · exact hts t ht
      · rcases List.mem_cons.mp ht with rfl | ht
        · exact ⟨[','], .mark rfl⟩
        · exact hus t ht

/-- **AN ARRAY CAN BE WRITTEN** where its items can be written one level deeper. -/
theorem writable_array_iff {n : Nat} {vs : List Json} :
    Writable (n + 1) (.array vs) ↔ ∀ v ∈ vs, Writable n v := by
  constructor
  · rintro ⟨ts, hv, hlexemes⟩
    cases hv with
    | emptyArray => exact List.forall_mem_nil _
    | array hitems =>
        refine hitems.writable_items fun t ht => hlexemes t ?_
        exact List.mem_append_left _ (List.mem_cons_of_mem _ ht)
  · intro h
    have hopen : ∃ text, Token.Lexeme .openArray text := ⟨['['], .mark rfl⟩
    have hclose : ∃ text, Token.Lexeme .closeArray text := ⟨[']'], .mark rfl⟩
    cases vs with
    | nil =>
        refine ⟨_, .emptyArray n, ?_⟩
        intro t ht
        rcases List.mem_cons.mp ht with rfl | ht
        · exact hopen
        · rw [List.mem_singleton.mp ht]
          exact hclose
    | cons v vs =>
        obtain ⟨ts, hitems, hlexemes⟩ := exists_derives_items h
        refine ⟨_, .array hitems, ?_⟩
        intro t ht
        rcases List.mem_append.mp ht with ht | ht
        · rcases List.mem_cons.mp ht with rfl | ht
          · exact hopen
          · exact hlexemes t ht
        · rw [List.mem_singleton.mp ht]
          exact hclose

end Json

/-- **A LIST CAN COME** exactly if each of its items can be written. -/
theorem exists_lists_iff {items : List Json} :
    (∃ body, Lists body items) ↔ ∀ v ∈ items, Json.Writable 126 v := by
  have hparse (body : List UInt8) :
      Lists body items ↔ Json.IsDocument body (.array items) := Json.parse?_eq_some_iff
  rw [exists_congr hparse, Json.isDocument_iff_writable]
  exact Json.writable_array_iff

/-! ## What is taken of a list -/

/-- The value is an object. -/
def Json.isObject (v : Json) : Bool := v.members?.isSome

/-- A value describes a task: it is an object, whatever its members are. -/
def Task.DescribedBy (t : Task) (v : Json) : Prop := ∃ ms, v = .object ms ∧ t = .ofMembers ms

theorem Task.ofJson?_eq_some_iff {v : Json} {t : Task} :
    ofJson? v = some t ↔ t.DescribedBy v := by
  rw [ofJson?, Option.map_eq_some_iff]
  constructor
  · rintro ⟨ms, hms, rfl⟩
    exact ⟨ms, Json.members?_eq_some_iff.mp hms, rfl⟩
  · rintro ⟨ms, rfl, rfl⟩
    exact ⟨ms, rfl, rfl⟩

/-- **THE TASKS OF A LIST** are those of its objects, one for each, in their order. -/
theorem Task.describedBy_filterMap (items : List Json) :
    List.Forall₂ (fun v t => Task.DescribedBy t v) (items.filter Json.isObject)
      (items.filterMap ofJson?) := by
  induction items with
  | nil => exact .nil
  | cons v items ih =>
      cases v with
      | object ms => exact .cons ⟨ms, rfl, rfl⟩ ih
      | _ => exact ih

/-- They depend on its objects alone. -/
theorem Task.filterMap_congr {items others : List Json}
    (h : others.filter Json.isObject = items.filter Json.isObject) :
    others.filterMap ofJson? = items.filterMap ofJson? := by
  have hobjects (vs : List Json) :
      (vs.filter Json.isObject).filterMap ofJson? = vs.filterMap ofJson? := by
    induction vs with
    | nil => rfl
    | cons v vs ih =>
        cases v with
        | object ms => exact congrArg (Task.ofMembers ms :: ·) ih
        | _ => exact ih
  rw [← hobjects others, h, hobjects items]

namespace Client

/-- The reply to the request for the list is a success, and its body lists these items. -/
def Fetches (c : Client) (net : Network) (items : List Json) : Prop :=
  ∃ body, c.Receives net .fetch body ∧ Lists body items

theorem Fetches.result {c : Client} {net : Network} {items : List Json}
    (h : c.Fetches net items) : c.fetchTasks net = .ok (items.filterMap Task.ofJson?) := by
  obtain ⟨body, hreceives, hitems⟩ := h
  exact fetchTasks_of_lists hreceives hitems

/-- What is taken of a list that comes. -/
structure TakesObjects (c : Client) (net : Network) (items : List Json) : Prop where
  -- each object is taken as its task, in the order of the list, and nothing else is
  decoded : ∃ tasks, c.fetchTasks net = .ok tasks
    ∧ List.Forall₂ (fun v t => Task.DescribedBy t v) (items.filter Json.isObject) tasks
    ∧ tasks.length = items.countP Json.isObject
  -- two parts of the list bring the two parts of the tasks
  append : ∀ front back, items = front ++ back → ∀ (c₁ c₂ : Client) (net₁ net₂ : Network),
    c₁.Fetches net₁ front → c₂.Fetches net₂ back →
    ∃ ts us, c₁.fetchTasks net₁ = .ok ts ∧ c₂.fetchTasks net₂ = .ok us
      ∧ c.fetchTasks net = .ok (ts ++ us)
  -- what is no object makes no difference, wherever it is put in or left out
  insensitive : ∀ others, others.filter Json.isObject = items.filter Json.isObject →
    ∀ (c' : Client) (net' : Network), c'.Fetches net' others →
      c'.fetchTasks net' = c.fetchTasks net
  -- and all these lists can come: any list of its items, and of others that can come alone
  sendable : ∀ others : List Json, (∀ v ∈ others, v ∈ items ∨ ∃ body, Lists body [v]) →
    ∃ body, Lists body others

/-- **A LIST THAT COMES** is taken object by object. -/
theorem Fetches.takesObjects {c : Client} {net : Network} {items : List Json}
    (h : c.Fetches net items) : c.TakesObjects net items where
  decoded := by
    have htasks := Task.describedBy_filterMap items
    refine ⟨_, h.result, htasks, ?_⟩
    rw [← htasks.length_eq, List.countP_eq_length_filter]
  append := by
    rintro front back rfl c₁ c₂ net₁ net₂ hfront hback
    refine ⟨_, _, hfront.result, hback.result, ?_⟩
    rw [h.result, List.filterMap_append]
  insensitive := by
    intro others hobjects c' net' hothers
    rw [hothers.result, h.result, Task.filterMap_congr hobjects]
  sendable := by
    intro others hothers
    obtain ⟨body, -, hitems⟩ := h
    have hwritable := exists_lists_iff.mp ⟨body, hitems⟩
    refine exists_lists_iff.mpr fun v hv => ?_
    rcases hothers v hv with hmem | hone
    · exact hwritable v hmem
    · exact exists_lists_iff.mp hone v List.mem_cons_self

/-- A client of a scheduler. -/
def tenNet : Client := { baseUrl := some "http://10.0.0.1:3001/" }

/-- Two objects come with a number between them, and are taken. -/
theorem takesObjects_tenNet : ∃ items, tenNet.Fetches Listing.sampleNetwork items
    ∧ tenNet.TakesObjects Listing.sampleNetwork items
    ∧ items.countP Json.isObject = 2 := by
  have htwo : (tenNet.fetchTasks Listing.sampleNetwork).toOption.map List.length = some 2 := by
    decide +kernel
  cases hresult : tenNet.fetchTasks Listing.sampleNetwork with
  | error f =>
      rw [hresult] at htwo
      exact absurd htwo.symm (Option.some_ne_none 2)
  | ok tasks =>
      obtain ⟨body, items, hreceives, hitems⟩ := lists_of_fetchTasks hresult
      have hfetches : tenNet.Fetches Listing.sampleNetwork items := ⟨body, hreceives, hitems⟩
      have htakes := hfetches.takesObjects
      obtain ⟨others, hothers, -, hlength⟩ := htakes.decoded
      cases hresult.symm.trans hothers
      rw [hresult] at htwo
      exact ⟨items, hfetches, htakes, hlength.symm.trans (Option.some.inj htwo)⟩

end Client

end TaskConsole
