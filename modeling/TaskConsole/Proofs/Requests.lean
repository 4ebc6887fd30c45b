import Mathlib.Data.List.DropRight
import TaskConsole.Client.Basic

/-! # Requests — what is asked, and when it can be asked at all

    An operation has a method, a path and a body of its own.  A client turns it into a
    request in three stages, each of which can refuse it: there is an address of a
    scheduler, the operation has a path, and the path below that address is an address
    to which requests can be sent.

    * `Client.Makes` — the request that a client makes of an operation, stated without
      the client's own code;
    * `Client.prepare_cases` — preparing is one of four things, each with its condition;
      everything else about requests follows from it. -/

namespace TaskConsole

/-! ## What an operation asks -/

namespace Operation

/-- The method of an operation. -/
def method : Operation → Method
  | fetch => .get
  | run _ => .post
  | create _ => .post
  | update _ => .patch

/-- The path of an operation. An update of a task that was never saved has none. -/
def path? : Operation → Option String
  | fetch => some "tasks"
  | run id => some ("tasks/" ++ Text.showInt id.toInt ++ "/request_run")
  | create _ => some "tasks"
  | update task => task.id.map fun id => "tasks/" ++ Text.showInt id.toInt

/-- The task that an operation carries. -/
def task? : Operation → Option Task
  | fetch => none
  | run _ => none
  | create task => some task
  | update task => some task

/-- The request of an operation to a target: all but a list request declare JSON, and a
    task goes as the body. -/
def request (op : Operation) (url : Url) : Request where
  method := op.method
  url
  declaresJson := op.method ≠ .get
  body := op.task?.map Task.toJson

/-- No path begins with a slash. -/
theorem dropWhile_path {op : Operation} {path : String} (h : op.path? = some path) :
    path.toList.dropWhile (· = '/') = path.toList := by
  have hfront (rest : String) :
      ("tasks" ++ rest).toList.dropWhile (· = '/') = ("tasks" ++ rest).toList := by
    rw [String.toList_append]
    rfl
  cases op with
  | fetch => cases h; rfl
  | create task => cases h; rfl
  | run id =>
      cases h
      have := hfront ("/" ++ Text.showInt id.toInt ++ "/request_run")
      rw [← String.append_assoc, ← String.append_assoc] at this
      exact this
  | update task =>
      obtain ⟨id, -, rfl⟩ := Option.map_eq_some_iff.mp h
      have := hfront ("/" ++ Text.showInt id.toInt)
      rw [← String.append_assoc] at this
      exact this

end Operation

/-! ## Where it is asked -/

/-- The address of a path: the base without the slashes at its end, one slash, and the
    path. -/
def addressBelow (base path : String) : String :=
  String.ofList (base.toList.rdropWhile (· = '/') ++ '/' :: path.toList)

/-- A text is the address of a target to which requests can be sent: an absolute address
    of the web with a valid host and port. -/
def Url.IsTargetOf (url : Url) (address : String) : Prop :=
  ∃ u, Url.read? address = some u ∧ url = u.withoutCredentials ∧ url.isSendable = true

/-- A text is the address of one target at most. -/
theorem Url.IsTargetOf.unique {url other : Url} {address : String}
    (h : url.IsTargetOf address) (ho : other.IsTargetOf address) : url = other := by
  obtain ⟨u, hu, hurl, -⟩ := h
  obtain ⟨v, hv, hother, -⟩ := ho
  have huv : u = v := Option.some.inj (hu.symm.trans hv)
  rw [hurl, hother, huv]

namespace Client

/-- A client makes a request of an operation: it knows an address, the operation has a path,
    and the path below the address names the target. -/
structure Makes (c : Client) (op : Operation) (request : Request) : Prop where
  target : ∃ base path, c.baseUrl = some base ∧ op.path? = some path
    ∧ request.url.IsTargetOf (addressBelow base path)
  request_eq : request = op.request request.url

theorem endpoint_of_none {c : Client} (h : c.baseUrl = none) (path : String) :
    c.endpoint path = .error .noBackend := by
  rw [endpoint, h]

theorem endpoint_of_some {c : Client} {base : String} (h : c.baseUrl = some base)
    (op : Operation) {path : String} (hpath : op.path? = some path) :
    c.endpoint path = .ok (addressBelow base path) := by
  rw [endpoint, h, addressBelow, List.rdropWhile]
  show Except.ok (String.ofList (joinPath base.toList path.toList)) = _
  rw [joinPath, Operation.dropWhile_path hpath]

theorem target_of_none {c : Client} (h : c.baseUrl = none) (path : String) :
    c.target path = .error .noBackend := by
  rw [target, endpoint_of_none h]
  rfl

/-- With an address, a path has its target, or is refused by the transport. -/
theorem target_of_some {c : Client} {base : String} (h : c.baseUrl = some base)
    {op : Operation} {path : String} (hpath : op.path? = some path) :
    (∃ url : Url, url.IsTargetOf (addressBelow base path) ∧ c.target path = .ok url)
      ∨ ((∀ url : Url, ¬ url.IsTargetOf (addressBelow base path))
        ∧ ∃ text, c.target path = .error (.transport text)) := by
  have hok := endpoint_of_some h op hpath
  cases hread : Url.read? (addressBelow base path) with
  | none =>
      refine Or.inr ⟨?_, "builder error", ?_⟩
      · rintro url ⟨u, hu, -⟩
        rw [hread] at hu
        exact absurd hu.symm (Option.some_ne_none u)
      · simp only [target, hok, bind, Except.bind, hread]
        rfl
  | some u =>
      by_cases hsend : u.withoutCredentials.isSendable = true
      · refine Or.inl ⟨u.withoutCredentials, ⟨u, hread, rfl, hsend⟩, ?_⟩
        simp only [target, hok, bind, Except.bind, hread, if_pos hsend]
        rfl
      · refine Or.inr ⟨?_, "builder error for url (" ++ u.withoutCredentials.text ++ ")", ?_⟩
        · rintro url ⟨v, hv, rfl, hurl⟩
          have huv : u = v := Option.some.inj (hread.symm.trans hv)
          exact hsend (huv ▸ hurl)
        · simp only [target, hok, bind, Except.bind, hread, if_neg hsend]
          rfl

/-! ## Preparing -/

theorem prepare_of_none {c : Client} (h : c.baseUrl = none) (op : Operation) :
    c.prepare op = .error .noBackend := by
  cases op with
  | update task => simp only [prepare, endpoint_of_none h, bind, Except.bind]
  | _ => simp only [prepare, target_of_none h, bind, Except.bind]

/-- With an address and a path, preparing asks for the target and builds the request. -/
theorem prepare_of_some {c : Client} {base : String} (h : c.baseUrl = some base)
    {op : Operation} {path : String} (hpath : op.path? = some path) :
    c.prepare op = (c.target path).map op.request := by
  cases op with
  | update task =>
      obtain ⟨id, hid, rfl⟩ := Option.map_eq_some_iff.mp hpath
      have hok : c.endpoint tasksPath = .ok (addressBelow base tasksPath) :=
        endpoint_of_some h .fetch rfl
      simp only [prepare, hok, bind, Except.bind, hid]
      exact bind_pure_comp (Operation.update task).request (c.target (taskPath id))
  | fetch =>
      cases hpath
      exact bind_pure_comp Operation.fetch.request (c.target tasksPath)
  | run id =>
      cases hpath
      exact bind_pure_comp (Operation.run id).request (c.target (runPath id))
  | create task =>
      cases hpath
      exact bind_pure_comp (Operation.create task).request (c.target tasksPath)

theorem prepare_of_no_path {c : Client} {base : String} (h : c.baseUrl = some base)
    {op : Operation} (hpath : op.path? = none) : c.prepare op = .error .missingId := by
  cases op with
  | update task =>
      have hid : task.id = none := Option.map_eq_none_iff.mp hpath
      have hok : c.endpoint tasksPath = .ok (addressBelow base tasksPath) :=
        endpoint_of_some h .fetch rfl
      simp only [prepare, hok, bind, Except.bind, hid]
      rfl
  | _ => exact absurd hpath (Option.some_ne_none _)

/-- The four things that preparing comes to. -/
inductive Preparing (c : Client) (op : Operation) : Except Failure Request → Prop where
  -- no address is known, whatever the operation
  | noBackend : c.baseUrl = none → Preparing c op (.error .noBackend)
  -- the operation has no path
  | missingId (base : String) : c.baseUrl = some base → op.path? = none →
      Preparing c op (.error .missingId)
  -- nothing can be sent to the address of the path
  | unsendable (base path text : String) : c.baseUrl = some base → op.path? = some path →
      (∀ url : Url, ¬ url.IsTargetOf (addressBelow base path)) →
      Preparing c op (.error (.transport text))
  | made (request : Request) : c.Makes op request → Preparing c op (.ok request)

/-- **PREPARING IS ONE OF FOUR THINGS.** -/
theorem prepare_cases (c : Client) (op : Operation) : c.Preparing op (c.prepare op) := by
  cases hbase : c.baseUrl with
  | none =>
      rw [prepare_of_none hbase]
      exact .noBackend hbase
  | some base =>
      cases hpath : op.path? with
      | none =>
          rw [prepare_of_no_path hbase hpath]
          exact .missingId base hbase hpath
      | some path =>
          rw [prepare_of_some hbase hpath]
          rcases target_of_some hbase hpath with ⟨url, hurl, hok⟩ | ⟨hnone, text, herror⟩
          · rw [hok]
            exact .made _ ⟨⟨base, path, hbase, hpath, hurl⟩, rfl⟩
          · rw [herror]
            exact .unsendable base path text hbase hpath hnone

theorem Makes.unique {c : Client} {op : Operation} {request other : Request}
    (h : c.Makes op request) (ho : c.Makes op other) : request = other := by
  obtain ⟨⟨base, path, hbase, hpath, hurl⟩, hrequest⟩ := h
  obtain ⟨⟨base', path', hbase', hpath', hurl'⟩, hother⟩ := ho
  have hb : base = base' := Option.some.inj (hbase.symm.trans hbase')
  have hp : path = path' := Option.some.inj (hpath.symm.trans hpath')
  subst hb hp
  rw [hrequest, hother, hurl.unique hurl']

/-- A request is prepared exactly when the client makes it. -/
theorem prepare_eq_ok_iff {c : Client} {op : Operation} {request : Request} :
    c.prepare op = .ok request ↔ c.Makes op request := by
  constructor
  · intro h
    have hcases := c.prepare_cases op
    rw [h] at hcases
    cases hcases with
    | made request hmakes => exact hmakes
  · intro h
    have hcases := c.prepare_cases op
    obtain ⟨base, path, hbase, hpath, hurl⟩ := h.target
    cases hp : c.prepare op with
    | ok other =>
        rw [hp] at hcases
        cases hcases with
        | made other hother => rw [h.unique hother]
    | error f =>
        rw [hp] at hcases
        cases hcases with
        | noBackend hnone => exact absurd (hbase.symm.trans hnone) (Option.some_ne_none _)
        | missingId base' hsome hnone =>
            exact absurd (hpath.symm.trans hnone) (Option.some_ne_none _)
        | unsendable base' path' text hsome hsome' hno =>
            have hb : base = base' := Option.some.inj (hbase.symm.trans hsome)
            have hp' : path = path' := Option.some.inj (hpath.symm.trans hsome')
            subst hb hp'
            exact absurd hurl (hno request.url)

end Client

end TaskConsole
