import TaskConsole.Listing
import TaskConsole.Proofs.Endpoints
import TaskConsole.Proofs.Noise

/-! # Listings — one request, to the scheduler that is heard of first

    A listing waits for an announcement, asks the scheduler for its tasks and reports them.
    What comes of it is settled by one batch of datagrams and one delivery:

    * batches that announce nothing pass by (`firstUrl?_unannounced`), the first one that
      announces something ends the waiting, and what comes later is never looked at;
    * of that batch the last announcement of each name counts, and of these the one that no
      other outranks (`Announcement.Prevails`);
    * its base URL is where the tasks are asked for, once, unless nothing can be sent there;
      and the delivery decides what is reported (`Listing.Reports`). -/

namespace TaskConsole

/-! ## The announcement that counts -/

namespace Announcement

/-- An announcement is the last one of its name in a history. -/
def IsLastWord (a : Announcement) (history : List Announcement) : Prop :=
  (Registry.named history a.serviceId).getLast? = some a

/-- An announcement counts in a batch: it is the last one of its name, and no other that is
    the last one of its own name outranks it. -/
structure Prevails (a : Announcement) (batch : List Datagram) : Prop where
  last : a.IsLastWord (announcedIn batch)
  unbeaten : ∀ b : Announcement, b.IsLastWord (announcedIn batch) → ¬ b.Outranks a

/-- Where no name comes twice, every announcement is the last one of its name. -/
theorem IsLastWord.of_nodup {a : Announcement} {history : List Announcement}
    (h : (history.map (·.serviceId)).Nodup) (ha : a ∈ history) : a.IsLastWord history := by
  have hne : Registry.named history a.serviceId ≠ [] :=
    List.ne_nil_of_mem (Registry.mem_named_iff.mpr ⟨ha, rfl⟩)
  obtain ⟨b, hb⟩ := Option.ne_none_iff_exists'.mp (mt List.getLast?_eq_none_iff.mp hne)
  obtain ⟨hmem, hid⟩ := Registry.mem_named_iff.mp (List.mem_of_getLast? hb)
  have hsame : b = a := List.inj_on_of_nodup_map h hmem ha hid
  rw [IsLastWord, hb, hsame]

end Announcement

namespace Registry

theorem Logs.mem_entries_iff {r : Registry} {history : List Announcement}
    (h : r.Logs history) (a : Announcement) : a ∈ r.entries ↔ a.IsLastWord history := by
  rw [h.keyed.mem_entries_iff, h.get?_eq, Announcement.IsLastWord]

/-- **THE SCHEDULER IN USE** after one batch is the one whose announcement counts. -/
theorem Logs.freshest?_eq_some_iff {r : Registry} {batch : List Datagram}
    (h : r.Logs (announcedIn batch)) (a : Announcement) :
    r.freshest? = some a ↔ a.Prevails batch := by
  rw [h.keyed.freshest?_eq_some_iff, h.mem_entries_iff]
  constructor
  · rintro ⟨hlast, hunbeaten⟩
    exact ⟨hlast, fun b hb => hunbeaten b ((h.mem_entries_iff b).mpr hb)⟩
  · intro ha
    exact ⟨ha.last, fun b hb => ha.unbeaten b ((h.mem_entries_iff b).mp hb)⟩

/-- The first batch is all that a new registry knows of. -/
theorem empty_logs_batch (batch : List Datagram) :
    (empty.observeAll batch).Logs (announcedIn batch) := empty_logs.observeAll batch

end Registry

namespace Announcement

/-- One announcement counts. -/
theorem Prevails.unique {a b : Announcement} {batch : List Datagram} (ha : a.Prevails batch)
    (hb : b.Prevails batch) : b = a := by
  have hlogs := Registry.empty_logs_batch batch
  rw [← hlogs.freshest?_eq_some_iff] at ha hb
  exact Option.some.inj (hb.symm.trans ha)

theorem exists_prevails {batch : List Datagram} (h : announcedIn batch ≠ []) :
    ∃ a : Announcement, a.Prevails batch := by
  have hlogs := Registry.empty_logs_batch batch
  have hsome : (Registry.empty.observeAll batch).freshest? ≠ none := fun hnone =>
    h (hlogs.remembers.freshest?_eq_none_iff.mp hnone)
  obtain ⟨a, ha⟩ := Option.ne_none_iff_exists'.mp hsome
  exact ⟨a, (hlogs.freshest?_eq_some_iff a).mp ha⟩

end Announcement

/-! ## The waiting -/

/-- A batch without its noise is nothing exactly if nothing is announced in it. -/
theorem quiet?_eq_none_iff (batch : List Datagram) :
    quiet? batch = none ↔ announcedIn batch = [] := by
  have hfilter : quiet? batch = none ↔ batch.filter (!·.isNoise) = [] := by
    rw [quiet?]
    split
    · rename_i hnil
      exact ⟨fun _ => hnil, fun _ => rfl⟩
    · rename_i hne
      exact ⟨fun h => absurd h (Option.some_ne_none _), fun h => absurd h hne⟩
  rw [hfilter, List.filter_eq_nil_iff, announcedIn, Registry.announced,
    List.filterMap_eq_nil_iff, List.forall_mem_map]
  refine forall₂_congr fun d _ => ?_
  rw [Bool.not_eq_true', Bool.not_eq_false, Datagram.isNoise, Option.isNone_iff_eq_none]
  rfl

namespace Listing

open Announcement (Prevails)

/-- **BATCHES THAT ANNOUNCE NOTHING** pass by. -/
theorem firstUrl?_unannounced {l : Listener} (h : l.Settled) {quiet : List (List Datagram)}
    (hquiet : ∀ batch ∈ quiet, announcedIn batch = []) (rest : List (List Datagram)) :
    firstUrl? l (quiet ++ rest) = firstUrl? l rest := by
  induction quiet with
  | nil => rfl
  | cons batch quiet ih =>
      obtain ⟨hbatch, hquiet⟩ := List.forall_mem_cons.mp hquiet
      have hreceive := h.receive_noise ((quiet?_eq_none_iff batch).mpr hbatch)
      rw [List.cons_append, firstUrl?, hreceive]
      exact ih hquiet

/-- **THE FIRST BATCH THAT ANNOUNCES SOMETHING** ends the waiting, whatever comes later. -/
theorem firstUrl?_first {l : Listener} (h : l.registry? = some .empty) {a : Announcement}
    {batch : List Datagram} (ha : a.Prevails batch) (later : List (List Datagram)) :
    firstUrl? l (batch :: later) = some a.baseUrl := by
  have hfresh := ((Registry.empty_logs_batch batch).freshest?_eq_some_iff a).mpr ha
  have hunpublished : (Registry.empty.observeAll batch).published ≠ some a.baseUrl := by
    rw [Registry.observeAll_published]
    exact (Option.some_ne_none a.baseUrl).symm
  rw [firstUrl?, Listener.receive_new h (Registry.refresh_of_new hfresh hunpublished)]
  rfl

variable (settings : Settings) (net : Network)

/-- **WITH A SOCKET**, the listing goes on at the base URL of the announcement that counts. -/
theorem run_heard (host : Address) {quiet : List (List Datagram)}
    (hquiet : ∀ batch ∈ quiet, announcedIn batch = []) {a : Announcement}
    {batch : List Datagram} (ha : a.Prevails batch) (later : List (List Datagram)) :
    run settings (.ok host) (quiet ++ batch :: later) net
      = runAt net (waitingEntry settings) a.baseUrl := by
  have hstart := Listener.start_ok (l := {}) rfl rfl host
  have hsettled : (({ localAddress? := some host } : Listener).listen).Settled := by
    intro r hr
    cases hr
    exact Registry.refreshed_empty
  have hurl := (firstUrl?_unannounced hsettled hquiet (batch :: later)).trans
    (firstUrl?_first rfl ha later)
  simp only [run, hstart, hurl]

/-- **WITHOUT A SOCKET**, nothing is waited or asked for. -/
theorem run_unbound (reason : String) (batches : List (List Datagram)) :
    run settings (.error reason) batches net =
      { log := [], requests := []
        result := .error
          ("gossip listener did not start: " ++ (Failure.bind reason).message) } := by
  simp only [run, Listener.start_error (l := {}) rfl]

/-! ## The request and the report -/

/-- What is reported of a list: how many objects are in it, and each of them as a task, in
    their order. -/
def listLog (base : String) (items : List Json) : List LogEntry :=
  let objects := items.filterMap Json.members?
  waitingEntry settings
    :: { message := "Fetched tasks"
         fields := [("url", base), ("count", Text.showNat objects.length)] }
    :: objects.map fun ms => taskEntry (.ofMembers ms)

/-- What comes of a listing that asks for the tasks below a base URL. -/
structure Reports (base : String) (report : Report) : Prop where
  -- there is one request for them, if one can be sent there
  asks : ∀ url : Url, url.IsTargetOf (addressBelow base "tasks") →
    report.requests = [{ method := .get, url, declaresJson := false, body := none }]
  -- and none else
  silent : (∀ url : Url, ¬ url.IsTargetOf (addressBelow base "tasks")) → report.requests = []
  -- a list that comes is reported
  listed : ∀ body items, Client.Receives { baseUrl := some base } net .fetch body →
    Lists body items → report.result = .ok () ∧ report.log = listLog settings base items
  -- if none comes, the failure of the request is that of the listing
  failed : (∀ body items, Client.Receives { baseUrl := some base } net .fetch body →
      ¬ Lists body items) →
    ∃ f, Client.fetchTasks { baseUrl := some base } net = .error f
      ∧ Client.Ends { baseUrl := some base } net .fetch (.error f)
      ∧ report.result = .error f.message ∧ report.log = [waitingEntry settings]

end Listing

namespace Client

theorem fetchTasks_of_lists {c : Client} {net : Network} {body : List UInt8}
    {items : List Json} (h : c.Receives net .fetch body) (hitems : Lists body items) :
    c.fetchTasks net = .ok (items.filterMap Task.ofJson?) := by
  have haccepts : Call.fetch.Accepts body (.tasks (items.filterMap Task.ofJson?)) :=
    Or.inl ⟨rfl, items, hitems, rfl⟩
  have hread : c.carryOut net .fetch = Call.fetch.read body := carryOut_of_receives h
  have hcarry : (c.fetchTasks net).map Answer.tasks
      = .ok (.tasks (items.filterMap Task.ofJson?)) :=
    hread.trans (Call.read_eq_ok_iff.mpr haccepts)
  cases hf : c.fetchTasks net with
  | error f =>
      rw [hf] at hcarry
      cases hcarry
  | ok tasks =>
      rw [hf] at hcarry
      cases hcarry
      rfl

theorem lists_of_fetchTasks {c : Client} {net : Network} {tasks : List Task}
    (h : c.fetchTasks net = .ok tasks) :
    ∃ body items, c.Receives net .fetch body ∧ Lists body items := by
  have hends := c.carryOut_ends net .fetch
  have hcarry : c.carryOut net .fetch = .ok (.tasks tasks) := by
    rw [carryOut, h]
    rfl
  rw [hcarry] at hends
  -- only a reply that is read as the tasks ends the call like that
  cases hends with
  | replied body _ hreceives hreads =>
      cases hreads with
      | accepted answer haccepts =>
          rcases haccepts with ⟨-, items, hitems, -⟩ | ⟨v, -, hv⟩
          · exact ⟨body, items, hreceives, hitems⟩
          · exact absurd hv.symm (Option.some_ne_none _)

end Client

namespace Listing

variable (settings : Settings) (net : Network)

theorem runAt_requests (waiting : LogEntry) (url : String) :
    (runAt net waiting url).requests
      = ((Client.retarget {} url).prepare .fetch).toOption.toList := by
  rw [runAt]
  cases (Client.retarget {} url).prepare .fetch
    <;> cases (Client.retarget {} url).fetchTasks net <;> rfl

theorem runAt_of_ok {url : String} {tasks : List Task}
    (h : (Client.retarget {} url).fetchTasks net = .ok tasks) (waiting : LogEntry) :
    (runAt net waiting url).result = .ok ()
      ∧ (runAt net waiting url).log
        = waiting :: fetchedEntry url tasks :: tasks.map taskEntry := by
  simp only [runAt, h, and_self]

theorem runAt_of_error {url : String} {f : Failure}
    (h : (Client.retarget {} url).fetchTasks net = .error f) (waiting : LogEntry) :
    (runAt net waiting url).result = .error f.message
      ∧ (runAt net waiting url).log = [waiting] := by
  simp only [runAt, h, and_self]

/-- **WHAT IS REPORTED**, by whether a list comes. -/
theorem runAt_reports {base : String}
    (hclient : Client.retarget {} base = { baseUrl := some base }) :
    Reports settings net base (runAt net (waitingEntry settings) base) where
  asks := by
    intro url hurl
    have hmakes : Client.Makes { baseUrl := some base } .fetch (Operation.fetch.request url) :=
      ⟨⟨base, "tasks", rfl, rfl, hurl⟩, rfl⟩
    rw [runAt_requests, hclient, Client.prepare_eq_ok_iff.mpr hmakes]
    rfl
  silent := by
    intro hnone
    rw [runAt_requests, hclient]
    cases hprepare : Client.prepare { baseUrl := some base } .fetch with
    | error f => rfl
    | ok request =>
        obtain ⟨base', path, hbase, hpath, htarget⟩ :=
          (Client.prepare_eq_ok_iff.mp hprepare).target
        cases hbase
        cases hpath
        exact absurd htarget (hnone request.url)
  listed := by
    intro body items hreceives hitems
    have htasks := Client.fetchTasks_of_lists hreceives hitems
    have hobjects : items.filterMap Task.ofJson?
        = (items.filterMap Json.members?).map Task.ofMembers := List.map_filterMap.symm
    rw [← hclient] at htasks
    obtain ⟨hresult, hlog⟩ := runAt_of_ok net htasks (waitingEntry settings)
    refine ⟨hresult, ?_⟩
    rw [hlog, fetchedEntry, hobjects, List.length_map, List.map_map]
    rfl
  failed := by
    intro hnone
    have hends := Client.carryOut_ends { baseUrl := some base } net .fetch
    cases hf : Client.fetchTasks { baseUrl := some base } net with
    | ok tasks =>
        obtain ⟨body, items, hreceives, hitems⟩ := Client.lists_of_fetchTasks hf
        exact absurd hitems (hnone body items hreceives)
    | error f =>
        rw [Client.carryOut, hf] at hends
        refine ⟨f, rfl, hends, runAt_of_error net ?_ _⟩
        rw [hclient, hf]

/-- **A LISTING FROM END TO END.** -/
theorem run_asks_once :
    -- without a socket it fails, and nothing is asked
    (∀ reason batches, run settings (.error reason) batches net =
      { log := [], requests := []
        result := .error ("gossip listener did not start: " ++ (Failure.bind reason).message) })
    -- else the first batch that announces something is the only one that matters
    ∧ ∀ (host : Address) (quiet : List (List Datagram)) (batch : List Datagram)
        (later : List (List Datagram)), (∀ b ∈ quiet, announcedIn b = []) →
      announcedIn batch ≠ [] →
        run settings (.ok host) (quiet ++ batch :: later) net
          = run settings (.ok host) [batch] net
        -- one announcement of it counts
        ∧ ∃ a : Announcement, a.Prevails batch
          ∧ (∀ b : Announcement, b.Prevails batch → b = a)
          -- which is the freshest one, if nobody announces anything twice
          ∧ (((announcedIn batch).map (·.serviceId)).Nodup →
            ∀ b ∈ announcedIn batch, ¬ b.Outranks a)
          -- and the tasks are asked for below its base URL
          ∧ Reports settings net a.baseUrl
            (run settings (.ok host) (quiet ++ batch :: later) net) := by
  refine ⟨run_unbound settings net, ?_⟩
  intro host quiet batch later hquiet hbatch
  obtain ⟨a, ha⟩ := Announcement.exists_prevails hbatch
  have hrun := run_heard settings net host hquiet ha later
  have halone := run_heard settings net host (List.forall_mem_nil _) ha []
  refine ⟨hrun.trans halone.symm, a, ha, fun b hb => ha.unique hb, ?_, ?_⟩
  · intro hnodup b hb
    exact ha.unbeaten b (.of_nodup hnodup hb)
  · rw [hrun]
    exact runAt_reports settings net (a.retarget_baseUrl {})

/-! ### Three batches -/

/-- A datagram in which one scheduler says where it is, and since when. -/
def spokenDatagram (address port heartbeat : String) : Datagram where
  bytes := Utf8.encode ("\x7b\"type\":\"web_service\",\"service\":\x7b\"service_id\":\"a\","
    ++ "\"address\":\"" ++ address ++ "\",\"port\":" ++ port
    ++ ",\"last_heartbeat\":\"" ++ heartbeat ++ "\"\x7d\x7d")
  sender := .loopback
  receivedAt := Registry.firstDay

/-- A scheduler behind which two objects are listed, with a number between them. -/
def sampleNetwork : Network := fun _ => .complete 200 (Utf8.encode "[\x7b\x7d,1,\x7b\x7d]")

/-- A batch of a datagram that is empty. -/
def emptyBatch : List Datagram := [⟨[], .loopback, Registry.firstDay⟩]

/-- A batch of an announcement that leaves the address to the sender. -/
def silentBatch : List Datagram := [Announcement.silentDatagram (.v4 10 0 0 1)]

theorem run_asks_once_tenNet :
    (∀ b ∈ [emptyBatch], announcedIn b = []) ∧ announcedIn silentBatch ≠ []
      ∧ ∃ a : Announcement, a.Prevails silentBatch
        ∧ Reports (.resolve {}) sampleNetwork a.baseUrl
          (run (.resolve {}) (.ok .loopback) [emptyBatch, silentBatch] sampleNetwork) := by
  have hempty : ∀ b ∈ [emptyBatch], announcedIn b = [] := by
    intro b hb
    rw [List.mem_singleton.mp hb]
    rfl
  have hsilent : announcedIn silentBatch ≠ [] :=
    List.cons_ne_nil (Announcement.silent (.v4 10 0 0 1)) []
  obtain ⟨-, hrun⟩ := run_asks_once (.resolve {}) sampleNetwork
  obtain ⟨-, a, ha, -, -, hreports⟩ := hrun .loopback [emptyBatch] silentBatch [] hempty hsilent
  exact ⟨hempty, hsilent, a, ha, hreports⟩

/-- A batch in which the scheduler speaks twice, with the older heartbeat last. -/
def spokenTwice : List Datagram :=
  [spokenDatagram "host" "1" "2024-01-02T00:00:00Z",
    spokenDatagram "host" "2" "2024-01-01T00:00:00Z"]

/-- A batch in which it names an address to which nothing can be sent. -/
def spokenNowhere : List Datagram := [spokenDatagram "a b" "1" "2024-01-01T00:00:00Z"]

/-- The last word is asked for tasks though it is not the freshest; and where nothing can be
    sent to, nothing is asked. -/
theorem run_asks_lastWord_or_none :
    (∃ fresh stale : Announcement, announcedIn spokenTwice = [fresh, stale]
      ∧ fresh.Outranks stale ∧ fresh.baseUrl = "http://host:1/"
      ∧ (run (.resolve {}) (.ok .loopback) [spokenTwice] sampleNetwork).requests.map (·.url.text)
        = ["http://host:2/tasks"])
    ∧ announcedIn spokenNowhere ≠ []
    ∧ (run (.resolve {}) (.ok .loopback) [spokenNowhere] sampleNetwork).requests.length = 0 := by
  refine ⟨⟨Registry.sampleService "a" 1 Registry.secondDay,
    Registry.sampleService "a" 2 Registry.firstDay, by decide +kernel, ?_, by decide +kernel,
    by decide +kernel⟩, by decide +kernel, by decide +kernel⟩
  exact (Announcement.beats_iff _ _).mp (by decide +kernel)

end Listing

end TaskConsole
