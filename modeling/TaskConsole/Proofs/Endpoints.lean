import TaskConsole.Proofs.Agreement
import TaskConsole.Proofs.Blanks
import TaskConsole.Proofs.TextLengths
import TaskConsole.Proofs.WebAddresses

/-! # Endpoints — where an announcement without an address leads

    A scheduler that does not say where it is gets the address that its datagram came from.
    The base URL has that address as it is written, and the port behind a colon; below it,
    every path is an address with the same host and port (`addressBelow_baseUrl`).

    * By version 4 that is the sender.  No datagram has room for a path that would be too
      long for a request, so every operation that has a path is a request to the sender.
    * By version 6 it is no address, since none of its colons stands before a port: nothing
      can be asked of the sender. -/

namespace TaskConsole

open Text

/-! ## The path of a base URL -/

/-- What drops the end of one text drops the end of a longer one, if it stops there. -/
theorem Text.rdropWhile_append {p : Char → Bool} {front : List Char}
    (h : ∀ c ∈ front.getLast?, p c = false) (cs : List Char) :
    (front ++ cs).rdropWhile p = front ++ cs.rdropWhile p := by
  induction cs using List.reverseRecOn with
  | nil =>
      rw [List.append_nil, List.rdropWhile_nil, List.append_nil, List.rdropWhile_eq_self_iff]
      intro hne
      rw [h _ (List.getLast?_eq_some_getLast hne)]
      exact Bool.false_ne_true
  | append_singleton cs c ih =>
      rw [← List.append_assoc]
      by_cases hc : p c = true
      · rw [List.rdropWhile_concat_pos _ _ _ hc, List.rdropWhile_concat_pos _ _ _ hc, ih]
      · rw [List.rdropWhile_concat_neg _ _ _ hc, List.rdropWhile_concat_neg _ _ _ hc,
          List.append_assoc]

namespace Announcement

/-- The path of a base URL begins with a slash, unless there is none. -/
theorem pathText_cases (path : Option String) : pathText path = []
    ∨ ∃ p ∈ path, ∃ rest, pathText path = '/' :: rest ∧ rest.Sublist p.toList := by
  cases htrimmed : path.bind trimmed? with
  | none =>
      rw [pathText, htrimmed]
      exact Or.inl rfl
  | some q =>
      obtain ⟨p, hp, hq⟩ := Option.bind_eq_some_iff.mp htrimmed
      have hsublist := trimmed?_sublist hq
      refine Or.inr ⟨p, hp, ?_⟩
      rw [pathText, htrimmed]
      by_cases hhead : q.toList.head? = some '/'
      · obtain ⟨rest, hrest⟩ := List.head?_eq_some_iff.mp hhead
        refine ⟨rest, (if_pos hhead).trans hrest, ?_⟩
        rw [hrest] at hsublist
        exact (List.sublist_cons_self '/' rest).trans hsublist
      · exact ⟨q.toList, if_neg hhead, hsublist⟩

theorem rdropWhile_withSlash (cs : List Char) :
    (withSlash cs).rdropWhile (· = '/') = cs.rdropWhile (· = '/') := by
  rw [withSlash]
  split
  · rfl
  · exact List.rdropWhile_concat_pos _ _ _ (decide_eq_true rfl)

section BaseUrl

variable {a : Announcement} {host : Address} (ha : a.address = host.text)
  (hplain : ∀ p ∈ a.basePath, ∀ c ∈ p.toList, Path.isPlain c = true)

/-- The length of the path that an announcement names. -/
def pathLength (a : Announcement) : Nat := (a.basePath.map String.length).getD 0

include ha in
theorem baseUrlText_eq :
    a.baseUrlText = withSlash (Url.webFront host a.port ++ pathText a.basePath) := by
  show withSlash ("http://".toList ++ a.address.toList ++ ':' :: decimal a.port.toNat
    ++ pathText a.basePath) = withSlash (("http://".toList
      ++ (host.text.toList ++ ':' :: decimal a.port.toNat)) ++ pathText a.basePath)
  rw [ha, List.append_assoc "http://".toList]

/-- What stands before the path ends with a digit of the port. -/
theorem getLast?_webFront (host : Address) (port : UInt16) :
    (Url.webFront host port).getLast? ≠ some '/' := by
  have hne : Url.hostText host port ≠ [] :=
    List.append_ne_nil_of_right_ne_nil _ (List.cons_ne_nil _ _)
  have hslash : '/' ∉ Url.hostText host port := Url.not_mem_hostText rfl
  show ("http://".toList ++ Url.hostText host port).getLast? ≠ some '/'
  rw [List.getLast?_append_of_ne_nil _ hne]
  intro hlast
  exact hslash (List.mem_of_getLast? hlast)

include hplain in
/-- The path of an announcement is plain behind its slash, and no longer than announced. -/
theorem pathText_plain : pathText a.basePath = [] ∨ ∃ rest, pathText a.basePath = '/' :: rest
    ∧ (∀ c ∈ rest, Path.isPlain c = true) ∧ rest.length ≤ a.pathLength := by
  rcases pathText_cases a.basePath with hnone | ⟨p, hp, rest, hrest, hsublist⟩
  · exact Or.inl hnone
  · refine Or.inr ⟨rest, hrest, fun c hc => hplain p hp c (hsublist.subset hc), ?_⟩
    have hlength : a.pathLength = p.toList.length := by
      rw [pathLength, hp, Option.map_some, Option.getD_some, String.length_toList]
    rw [hlength]
    exact hsublist.length_le

include ha hplain

/-- **A BASE URL** has the host, the port and a plain path. -/
theorem exists_baseUrl : ∃ path, (∀ c ∈ path, Path.isPlain c = true)
    ∧ a.baseUrl = String.ofList (Url.webText host a.port path) := by
  have htext : ∃ path, (∀ c ∈ path, Path.isPlain c = true)
      ∧ withSlash (Url.webFront host a.port ++ pathText a.basePath)
        = Url.webFront host a.port ++ '/' :: path := by
    rcases pathText_plain hplain with hnone | ⟨rest, hrest, hplain, -⟩
    · refine ⟨[], fun c hc => absurd hc List.not_mem_nil, ?_⟩
      rw [hnone, List.append_nil, withSlash, if_neg (getLast?_webFront host a.port)]
    · rw [hrest, withSlash]
      split
      · exact ⟨rest, hplain, rfl⟩
      · refine ⟨rest ++ ['/'], ?_, ?_⟩
        · intro c hc
          rcases List.mem_append.mp hc with hc | hc
          · exact hplain c hc
          · rw [List.mem_singleton.mp hc]
            rfl
        · rw [List.append_assoc, List.cons_append]
  obtain ⟨path, hpath, htext⟩ := htext
  refine ⟨path, hpath, ?_⟩
  rw [baseUrl, baseUrlText_eq ha, htext, Url.webText]

/-- **BELOW A BASE URL**, every path has the same host and port. -/
theorem addressBelow_baseUrl {path : String} (hpath : ∀ c ∈ path.toList, Path.isPlain c = true) :
    ∃ below, (∀ c ∈ below, Path.isPlain c = true)
      ∧ below.length ≤ a.pathLength + 1 + path.length
      ∧ addressBelow a.baseUrl path = String.ofList (Url.webText host a.port below) := by
  have hfront : ∀ c ∈ (Url.webFront host a.port).getLast?, decide (c = '/') = false := by
    intro c hc
    refine decide_eq_false fun hslash => ?_
    subst hslash
    exact getLast?_webFront host a.port (Option.mem_def.mp hc)
  have hbelow : addressBelow a.baseUrl path = String.ofList (Url.webFront host a.port
      ++ (pathText a.basePath).rdropWhile (· = '/') ++ '/' :: path.toList) := by
    rw [addressBelow, baseUrl, String.toList_ofList, baseUrlText_eq ha, rdropWhile_withSlash,
      rdropWhile_append hfront]
  have hlength : path.toList.length = path.length := String.length_toList
  rw [hbelow]
  rcases pathText_plain hplain with hnone | ⟨rest, hrest, hplain, hle⟩
  · refine ⟨path.toList, hpath, by omega, ?_⟩
    rw [hnone, List.rdropWhile_nil, List.append_nil, Url.webText]
  · -- what is left of the path begins with its slash, or nothing is left
    have hleft := List.rdropWhile_prefix (fun c => decide (c = '/')) (l := '/' :: rest)
    rw [hrest]
    cases hdropped : ('/' :: rest).rdropWhile (fun c => decide (c = '/')) with
    | nil =>
        refine ⟨path.toList, hpath, by omega, ?_⟩
        rw [List.append_nil, Url.webText]
    | cons c kept =>
        rw [hdropped] at hleft
        obtain ⟨rfl, hkept⟩ := List.cons_prefix_cons.mp hleft
        refine ⟨kept ++ '/' :: path.toList, ?_, ?_, ?_⟩
        · intro c hc
          rw [List.mem_append, List.mem_cons] at hc
          rcases hc with hc | rfl | hc
          · exact hplain c (hkept.subset hc)
          · rfl
          · exact hpath c hc
        · have hshorter := hkept.length_le
          rw [List.length_append, List.length_cons]
          omega
        · rw [List.append_assoc, List.cons_append, Url.webText]

end BaseUrl

end Announcement

/-! ## The paths of operations -/

/-- An id is written with a sign and at most 19 digits. -/
theorem Text.showInt_plain (id : Int64) :
    (∀ c ∈ (showInt id.toInt).toList, Path.isPlain c = true) ∧ (showInt id.toInt).length ≤ 20 := by
  have hdigits (n : Nat) : ∀ c ∈ decimal n, Path.isPlain c = true := fun c hc =>
    (Url.isFront_iff.mp (Url.isFront_of_isTextChar
      (Address.isTextChar_of_isDigit (isDigit_of_mem_decimal c hc)))).1
  have hlow := Int64.le_toInt id
  have hhigh := Int64.toInt_lt id
  cases hid : id.toInt with
  | ofNat n =>
      have hn : n < Nat.pow 10 (18 + 1) := by
        rw [hid] at hhigh
        exact Nat.lt_of_lt_of_le (Int.ofNat_lt.mp hhigh) (by decide)
      have hlength := length_decimal_le hn
      simp only [showInt, showNat, String.toList_ofList, String.length_ofList]
      exact ⟨hdigits n, by omega⟩
  | negSucc n =>
      have hn : n + 1 < Nat.pow 10 (18 + 1) := by
        have hpow : Nat.pow 10 (18 + 1) = 10000000000000000000 := rfl
        rw [hid, Int.negSucc_eq] at hlow
        omega
      have hlength := length_decimal_le hn
      simp only [showInt, String.toList_ofList, String.length_ofList, List.length_cons]
      refine ⟨?_, by omega⟩
      intro c hc
      rcases List.mem_cons.mp hc with rfl | hc
      · rfl
      · exact hdigits _ c hc

/-- The greatest length of the path of an operation. -/
def Operation.maxPathLength : Nat := 38

/-- **THE PATH OF AN OPERATION** is plain, and short. -/
theorem Operation.path_plain {op : Operation} {path : String} (h : op.path? = some path) :
    (∀ c ∈ path.toList, Path.isPlain c = true) ∧ path.length ≤ maxPathLength := by
  have htask (id : Int64) : (∀ c ∈ ("tasks/" ++ showInt id.toInt).toList, Path.isPlain c = true)
      ∧ ("tasks/" ++ showInt id.toInt).length ≤ 26 := by
    have htasks : "tasks/".length = 6 := rfl
    have hplain : ∀ c ∈ "tasks/".toList, Path.isPlain c = true := List.all_eq_true.mp rfl
    obtain ⟨hid, hlength⟩ := showInt_plain id
    rw [String.toList_append, String.length_append]
    refine ⟨fun c hc => ?_, by omega⟩
    exact (List.mem_append.mp hc).elim (hplain c) (hid c)
  cases op with
  | fetch =>
      cases h
      exact ⟨List.all_eq_true.mp rfl, by decide⟩
  | create task =>
      cases h
      exact ⟨List.all_eq_true.mp rfl, by decide⟩
  | update task =>
      obtain ⟨id, -, rfl⟩ := Option.map_eq_some_iff.mp h
      obtain ⟨hplain, hlength⟩ := htask id
      exact ⟨hplain, Nat.le_trans hlength (by decide)⟩
  | run id =>
      cases h
      have hrun : "/request_run".length = 12 := rfl
      have hplain : ∀ c ∈ "/request_run".toList, Path.isPlain c = true :=
        List.all_eq_true.mp rfl
      obtain ⟨hid, hlength⟩ := htask id
      rw [String.toList_append, String.length_append, maxPathLength]
      refine ⟨fun c hc => ?_, by omega⟩
      exact (List.mem_append.mp hc).elim (hid c) (hplain c)

/-! ## Where an address leads -/

/-- An address leads to a host and a port: over the web, in nobody's name. -/
structure Url.LeadsTo (u : Url) (host : Address) (port : UInt16) : Prop where
  scheme : u.scheme = .http
  credentials : u.credentials = none
  host : u.host = some (.address host)
  port : u.port.getD 80 = port

theorem Url.leadsTo_ofHost (host : Address) (port : UInt16) (path : String) :
    { ofHost host port with path }.LeadsTo host port where
  scheme := rfl
  credentials := rfl
  host := rfl
  port := by
    show ((some port).filter fun p => some p != some 80).getD 80 = port
    rw [Option.filter_some]
    by_cases hport : port = 80
    · subst hport
      rfl
    · rw [if_pos (bne_iff_ne.mpr fun heq => hport (Option.some.inj heq))]
      rfl

/-- An address of version 4. -/
def Address.isV4 : Address → Bool
  | v4 .. => true
  | v6 _ => false

/-- The greatest number of bytes that a datagram can carry, by the version of the address
    that it is sent from. -/
def Address.maxDatagram : Address → Nat
  | v4 .. => 65507
  | v6 _ => 65527

namespace Announcement

/-- An announcement comes of a datagram that names no address which could be used. -/
structure Unaddressed (a : Announcement) (d : Datagram) : Prop where
  read : decode? d.bytes d.sender d.receivedAt = some a
  size : d.bytes.length ≤ d.sender.maxDatagram
  -- what it says of an address is blank, or no text
  blank : ∀ service s, Announces d.bytes service →
    Json.lookup "address" service = some (.string s) → isBlankText s = true
  -- the path, if there is one, needs no encoding
  plain : ∀ p ∈ a.basePath, ∀ c ∈ p.toList, Path.isPlain c = true

/-- A member is a text that is not blank, without the blanks around it. -/
theorem textMember_eq_some {key t : String} {ms : Json.Members}
    (h : textMember key ms = some t) :
    ∃ s, Json.lookup key ms = some (.string s) ∧ trimmed? s = some t := by
  obtain ⟨s, hs, ht⟩ := Option.bind_eq_some_iff.mp h
  obtain ⟨v, hv, hs⟩ := Option.bind_eq_some_iff.mp hs
  rw [Json.text?_eq_some_iff] at hs
  subst hs
  exact ⟨s, hv, ht⟩

namespace Unaddressed

variable {a : Announcement} {d : Datagram} (h : a.Unaddressed d)

include h

theorem address_eq : a.address = d.sender.text := by
  obtain ⟨service, hservice, rfl⟩ := decode?_eq_some_iff.mp h.read
  have hnone : textMember "address" service = none := by
    cases haddress : textMember "address" service with
    | none => rfl
    | some t =>
        obtain ⟨s, hs, ht⟩ := textMember_eq_some haddress
        rw [trimmed?, if_pos (h.blank service s hservice hs)] at ht
        exact absurd ht.symm (Option.some_ne_none t)
  show (textMember "address" service).getD d.sender.text = d.sender.text
  rw [hnone, Option.getD_none]

/-- **THE DATAGRAM IS LONGER** than the path it announces. -/
theorem pathLength_le : a.pathLength ≤ d.bytes.length - 41 := by
  obtain ⟨service, hservice, rfl⟩ := decode?_eq_some_iff.mp h.read
  show ((textMember "base_path" service).map String.length).getD 0 ≤ _
  cases hpath : textMember "base_path" service with
  | none => exact Nat.zero_le _
  | some p =>
      obtain ⟨s, hs, hp⟩ := textMember_eq_some hpath
      have hbytes := hservice.length_add_le hs
      have hkey : "base_path".length = 9 := rfl
      have htrimmed := (trimmed?_sublist hp).length_le
      rw [String.length_toList, String.length_toList] at htrimmed
      rw [Option.map_some, Option.getD_some]
      omega

/-- By version 4, the base URL leads to the sender. -/
theorem read?_baseUrl (h4 : d.sender.isV4 = true) :
    ∃ u, Url.read? a.baseUrl = some u ∧ u.LeadsTo d.sender a.port := by
  obtain ⟨path, hpath, hurl⟩ := exists_baseUrl h.address_eq h.plain
  cases hsender : d.sender with
  | v6 groups =>
      rw [hsender] at h4
      exact absurd h4 Bool.false_ne_true
  | v4 w x y z =>
      obtain ⟨text, -, hread⟩ := Url.read?_v4 hpath w x y z a.port
      rw [hsender] at hurl
      rw [hurl]
      exact ⟨_, hread, Url.leadsTo_ofHost _ _ _⟩

/-- By version 4, there is a target at the sender for every operation. -/
theorem exists_target (h4 : d.sender.isV4 = true) {op : Operation} {path : String}
    (hop : op.path? = some path) :
    ∃ url : Url, url.IsTargetOf (addressBelow a.baseUrl path) ∧ url.LeadsTo d.sender a.port := by
  obtain ⟨hplain, hlength⟩ := op.path_plain hop
  obtain ⟨below, hbelow, hle, haddress⟩ := addressBelow_baseUrl h.address_eq h.plain hplain
  have hpath := h.pathLength_le
  have hsize := h.size
  cases hsender : d.sender with
  | v6 groups =>
      rw [hsender] at h4
      exact absurd h4 Bool.false_ne_true
  | v4 w x y z =>
      rw [hsender] at haddress hsize
      have hmax : d.bytes.length ≤ 65507 := hsize
      obtain ⟨text, htext, hread⟩ := Url.read?_v4 hbelow w x y z a.port
      have hshort : text.length + Url.maxFrontLength ≤ Url.maxLength := by
        rw [Operation.maxPathLength] at hlength
        rw [Url.maxFrontLength, Url.maxLength]
        omega
      rw [haddress]
      exact ⟨_, ⟨_, hread, rfl, Url.isSendable_v4 w x y z a.port hshort⟩,
        Url.leadsTo_ofHost _ _ _⟩

/-- By version 6, there is no address. -/
theorem read?_eq_none (h6 : d.sender.isV4 = false) : Url.read? a.baseUrl = none := by
  obtain ⟨path, hpath, hurl⟩ := exists_baseUrl h.address_eq h.plain
  cases hsender : d.sender with
  | v4 w x y z =>
      rw [hsender] at h6
      exact absurd h6.symm Bool.false_ne_true
  | v6 groups =>
      rw [hsender] at hurl
      rw [hurl]
      exact Url.read?_v6 hpath groups a.port

/-- By version 6, there is no address for an operation either. -/
theorem read?_addressBelow (h6 : d.sender.isV4 = false) {op : Operation} {path : String}
    (hop : op.path? = some path) : Url.read? (addressBelow a.baseUrl path) = none := by
  obtain ⟨below, hbelow, -, haddress⟩ :=
    addressBelow_baseUrl h.address_eq h.plain (op.path_plain hop).1
  cases hsender : d.sender with
  | v4 w x y z =>
      rw [hsender] at h6
      exact absurd h6.symm Bool.false_ne_true
  | v6 groups =>
      rw [hsender] at haddress
      rw [haddress]
      exact Url.read?_v6 hbelow groups a.port

end Unaddressed

/-- A client that is pointed at an announcement knows its base URL. -/
theorem retarget_baseUrl (a : Announcement) (c : Client) :
    c.retarget a.baseUrl = { baseUrl := some a.baseUrl } := by
  simp only [Client.retarget, a.isBlankText_baseUrl, Bool.false_eq_true, if_false]

/-- **WHERE AN ANNOUNCEMENT WITHOUT AN ADDRESS LEADS.** -/
theorem unaddressed_leadsTo_sender {a : Announcement} {d : Datagram} (h : a.Unaddressed d) :
    -- to the sender and the announced port, exactly if the sender has version 4
    ((∃ u, Url.read? a.baseUrl = some u ∧ u.LeadsTo d.sender a.port) ↔ d.sender.isV4 = true)
    -- a client that is pointed there then makes a request to the sender of every operation
    -- that has a path
    ∧ (d.sender.isV4 = true → ∀ (op : Operation) (path : String), op.path? = some path →
      ∃ request, (Client.retarget {} a.baseUrl).prepare op = .ok request
        ∧ request.url.LeadsTo d.sender a.port)
    -- by version 6 the base URL is no address, and every such operation is refused
    ∧ (d.sender.isV4 = false → Url.read? a.baseUrl = none
      ∧ ∀ (op : Operation) (path : String), op.path? = some path →
        (Client.retarget {} a.baseUrl).prepare op = .error (.transport "builder error")) := by
  have hclient := congrArg Client.baseUrl (a.retarget_baseUrl {})
  refine ⟨⟨?_, h.read?_baseUrl⟩, ?_, ?_⟩
  · rintro ⟨u, hu, -⟩
    cases h4 : d.sender.isV4 with
    | true => rfl
    | false =>
        rw [h.read?_eq_none h4] at hu
        exact absurd hu.symm (Option.some_ne_none u)
  · intro h4 op path hop
    obtain ⟨url, htarget, hleads⟩ := h.exists_target h4 hop
    exact ⟨op.request url, Client.prepare_eq_ok_iff.mpr
      ⟨⟨a.baseUrl, path, hclient, hop, htarget⟩, rfl⟩, hleads⟩
  · intro h6
    refine ⟨h.read?_eq_none h6, ?_⟩
    intro op path hop
    have hnone := h.read?_addressBelow h6 hop
    rw [Client.prepare_of_some hclient hop, Client.target,
      Client.endpoint_of_some hclient op hop]
    simp only [bind, Except.bind, hnone]
    rfl

/-! ### Two senders of one datagram -/

/-- A datagram that says only that there is a scheduler, and on which port. -/
def silentDatagram (sender : Address) : Datagram where
  bytes := "\x7b\"type\":\"web_service\",\"service\":\x7b\"port\":8080\x7d\x7d".toList.flatMap
    String.utf8EncodeChar
  sender
  receivedAt := Registry.firstDay

/-- The description in it. -/
def silentService : Json.Members := [("port", .ofInt 8080)]

/-- The announcement that it makes. -/
def silent (sender : Address) : Announcement := ofMembers sender Registry.firstDay silentService

theorem silent_unaddressed (sender : Address) :
    (silent sender).Unaddressed (silentDatagram sender) where
  read := rfl
  size := by
    have hlength : (silentDatagram sender).bytes.length = 46 := rfl
    have hmax : 46 ≤ sender.maxDatagram := by
      cases sender with
      | v4 _ _ _ _ => exact (by decide : 46 ≤ 65507)
      | v6 _ => exact (by decide : 46 ≤ 65527)
    rw [hlength]
    exact hmax
  blank := by
    intro service s hservice hs
    have hsame : some service = some silentService :=
      (serviceMembers?_eq_some_iff.mpr hservice).symm.trans rfl
    cases hsame
    exact absurd hs.symm (Option.some_ne_none _)
  plain := fun p hp => absurd hp.symm (Option.some_ne_none p)

theorem unaddressed_leadsTo_sender_tenNet :
    (silent (.v4 10 0 0 1)).Unaddressed (silentDatagram (.v4 10 0 0 1))
      ∧ (silent (.v4 10 0 0 1)).baseUrl = "http://10.0.0.1:8080/"
      ∧ ∃ request, (Client.retarget {} (silent (.v4 10 0 0 1)).baseUrl).prepare .fetch = .ok request
        ∧ request.url.LeadsTo (.v4 10 0 0 1) 8080 := by
  have hsilent := silent_unaddressed (.v4 10 0 0 1)
  obtain ⟨-, hmade, -⟩ := unaddressed_leadsTo_sender hsilent
  exact ⟨hsilent, by decide +kernel, hmade rfl .fetch "tasks" rfl⟩

/-- The address of a neighbour on the link, by version 6. -/
def neighbour : Address := .v6 #v[0xFE80, 0, 0, 0, 0, 0, 0, 1]

/-- From a sender of version 6, such an announcement leads nowhere. -/
theorem unaddressed_neighbour_leadsNowhere :
    (silent neighbour).Unaddressed (silentDatagram neighbour)
      ∧ (silent neighbour).baseUrl = "http://fe80::1:8080/"
      ∧ ¬ ∃ u, Url.read? (silent neighbour).baseUrl = some u ∧ u.LeadsTo neighbour 8080 := by
  have hsilent := silent_unaddressed neighbour
  refine ⟨hsilent, by decide +kernel, ?_⟩
  rintro ⟨u, hu, -⟩
  rw [hsilent.read?_eq_none rfl] at hu
  exact absurd hu.symm (Option.some_ne_none u)

end Announcement

end TaskConsole
