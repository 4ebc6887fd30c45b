import TaskConsole.Proofs.Endpoints
import TaskConsole.Proofs.NumberValues

/-! # Silent senders — who is taken for whom

    A scheduler that does not say its name is known by its endpoint: its address, a colon and
    its port.  The address can be any text, with colons and digits in it, but the port is
    written in digits alone, so the last colon of such a name is the one in front of the port
    (`append_colon_inj`).  Two silent senders are taken for one exactly if their endpoints are
    the same, wherever they send from (`Datagram.Silent.serviceId_eq_iff`).

    What endpoint a datagram names is stated without the reader (`Datagram.NamesEndpoint`),
    and whatever has a default in an announcement is tidy: the texts are not empty, and there
    are no blanks around them. -/

namespace TaskConsole

open Text

/-! ## Tidy texts -/

/-- A text is tidy: it is not empty, and there are no blanks around it. -/
structure Text.IsTidy (s : String) : Prop where
  ne_empty : s ≠ ""
  trimmed : Trims s.toList s.toList

namespace Text

/-- What trimming leaves is tidy. -/
theorem isTidy_of_trimmed? {s t : String} (h : trimmed? s = some t) : IsTidy t := by
  obtain ⟨htrims, hne⟩ := trimmed?_eq_some_iff.mp h
  exact ⟨hne, trims_self htrims.begins htrims.ends⟩

/-- A text without any blanks is tidy, unless it is empty. -/
theorem isTidy_of_forall {s : String} (hne : s ≠ "") (h : ∀ c ∈ s.toList, isBlank c = false) :
    IsTidy s :=
  ⟨hne, trims_self (fun c hc => h c (List.mem_of_head? hc))
    fun c hc => h c (List.mem_of_getLast? hc)⟩

/-- Two tidy texts make one, whatever is between them. -/
theorem IsTidy.append {s t : String} (hs : IsTidy s) (between : String) (ht : IsTidy t) :
    IsTidy (s ++ between ++ t) := by
  have hs' : s.toList ≠ [] := fun h => hs.ne_empty (String.toList_inj.mp h)
  have ht' : t.toList ≠ [] := fun h => ht.ne_empty (String.toList_inj.mp h)
  have htext : (s ++ between ++ t).toList = s.toList ++ (between.toList ++ t.toList) := by
    rw [String.toList_append, String.toList_append, List.append_assoc]
  refine ⟨?_, trims_self ?_ ?_⟩
  · intro h
    rw [h] at htext
    exact hs' (List.append_eq_nil_iff.mp htext.symm).1
  · rw [htext, List.head?_append_of_ne_nil _ hs']
    exact hs.trimmed.begins
  · rw [htext, ← List.append_assoc, List.getLast?_append_of_ne_nil _ ht']
    exact ht.trimmed.ends

/-- Blanks around a tidy text are all that trimming takes away. -/
theorem IsTidy.trims {mid left right : String} (h : IsTidy mid)
    (hleft : isBlankText left = true) (hright : isBlankText right = true) :
    Trims (left ++ mid ++ right).toList mid.toList where
  around := by
    refine ⟨left.toList, right.toList, ?_, List.all_eq_true.mp hleft, List.all_eq_true.mp hright⟩
    rw [String.toList_append, String.toList_append]
  begins := h.trimmed.begins
  ends := h.trimmed.ends

theorem isTidy_showNat (n : Nat) : IsTidy (showNat n) := by
  have hdigits : (showNat n).toList = decimal n := String.toList_ofList
  refine isTidy_of_forall ?_ fun c hc =>
    isBlank_of_isDigit (isDigit_of_mem_decimal c (hdigits ▸ hc))
  intro h
  rw [h] at hdigits
  exact decimal_ne_nil n hdigits.symm

end Text

/-- An address is written without blanks, and never as nothing. -/
theorem Address.isTidy_text (a : Address) : IsTidy a.text := by
  refine isTidy_of_forall ?_ ?_
  · have hmem : ∃ c, c ∈ a.text.toList := by
      cases a with
      | v4 w x y z =>
          rw [text, String.toList_ofList]
          exact ⟨'.', List.mem_append_right _ List.mem_cons_self⟩
      | v6 groups =>
          rw [text, String.toList_ofList]
          exact ⟨':', colon_mem_v6Text (by rw [Vector.length_toList]; decide)⟩
    rintro hempty
    obtain ⟨c, hc⟩ := hmem
    rw [hempty] at hc
    exact absurd hc List.not_mem_nil
  · intro c hc
    have hrange := range_of_isTextChar (mem_text c hc)
    simp only [isBlank, blankRanges, List.any_cons, List.any_nil, Bool.or_false,
      Bool.or_eq_false_iff, Bool.and_eq_false_iff, decide_eq_false_iff_not]
    omega

/-! ## The names of endpoints -/

/-- A text is cut in one way at a colon behind which there is no other. -/
theorem append_colon_inj {front other back rest : List Char} (hback : ':' ∉ back)
    (hrest : ':' ∉ rest) :
    front ++ ':' :: back = other ++ ':' :: rest ↔ front = other ∧ back = rest := by
  constructor
  · intro h
    rcases List.append_eq_append_iff.mp h with ⟨more, rfl, hmore⟩ | ⟨more, rfl, hmore⟩
    · cases more with
      | nil => exact ⟨(List.append_nil _).symm, (List.cons.inj hmore).2⟩
      | cons c more =>
          refine absurd ?_ hback
          rw [(List.cons.inj hmore).2]
          exact List.mem_append_right _ List.mem_cons_self
    · cases more with
      | nil => exact ⟨List.append_nil _, (List.cons.inj hmore).2.symm⟩
      | cons c more =>
          refine absurd ?_ hrest
          rw [(List.cons.inj hmore).2]
          exact List.mem_append_right _ List.mem_cons_self
  · rintro ⟨rfl, rfl⟩
    rfl

/-- **THE NAME OF AN ENDPOINT** tells its address and its port. -/
theorem endpointName_inj {address other : String} {port port' : UInt16} :
    address ++ ":" ++ showNat port.toNat = other ++ ":" ++ showNat port'.toNat
      ↔ address = other ∧ port = port' := by
  have htext (s : String) (n : Nat) :
      (s ++ ":" ++ showNat n).toList = s.toList ++ ':' :: decimal n := by
    simp only [showNat, String.toList_append, String.toList_ofList, List.append_assoc]
    rfl
  have hcolon (n : Nat) : ':' ∉ decimal n := fun h =>
    Bool.false_ne_true (isDigit_of_mem_decimal _ h)
  rw [← String.toList_inj, htext, htext, append_colon_inj (hcolon _) (hcolon _),
    String.toList_inj]
  refine and_congr_right fun _ => ⟨fun h => ?_, fun h => h ▸ rfl⟩
  rw [← UInt16.toNat_inj, ← decimalValue_decimal port.toNat, h, decimalValue_decimal]

/-! ## What a datagram names -/

namespace Announcement

/-- A description says a text under a key: it has one there that is not blank, and this is
    what is left of it without the blanks around it. -/
def Says (service : Json.Members) (key text : String) : Prop :=
  ∃ s, Json.lookup key service = some (.string s) ∧ Trims s.toList text.toList ∧ text ≠ ""

/-- A description says nothing under a key: there is no text, or a blank one. -/
def SaysNothing (service : Json.Members) (key : String) : Prop :=
  ∀ s, Json.lookup key service = some (.string s) → isBlankText s = true

/-- A description offers a port: the number under its key without the fraction, if that is
    a port, and zero if it is none or if there is no number. -/
def Offers (service : Json.Members) (port : UInt16) : Prop :=
  (∃ n, Json.lookup "port" service = some (.number n) ∧ n.truncate = port.toNat)
    ∨ port = 0 ∧ ∀ n, Json.lookup "port" service = some (.number n) →
      n.truncate < 0 ∨ 65536 ≤ n.truncate

variable {service : Json.Members} {key : String}

theorem textMember_eq_some_iff {text : String} :
    textMember key service = some text ↔ Says service key text := by
  constructor
  · intro h
    obtain ⟨s, hs, htext⟩ := textMember_eq_some h
    exact ⟨s, hs, trimmed?_eq_some_iff.mp htext⟩
  · rintro ⟨s, hs, htext⟩
    rw [textMember, hs]
    exact trimmed?_eq_some_iff.mpr htext

theorem textMember_eq_none_iff :
    textMember key service = none ↔ SaysNothing service key := by
  rw [textMember, Option.bind_eq_none_iff]
  constructor
  · intro h s hs
    have hnone := h s (by rw [hs]; rfl)
    exact isBlankText_iff.mpr (trimmed?_eq_none_iff.mp hnone)
  · intro h s hs
    obtain ⟨v, hv, htext⟩ := Option.bind_eq_some_iff.mp hs
    rw [Json.text?_eq_some_iff] at htext
    exact trimmed?_eq_none_iff.mpr (isBlankText_iff.mp (h s (htext ▸ hv)))

/-- With a number under its key, the port is what this is read as. -/
theorem offers_of_number {n : Json.Number} {port : UInt16}
    (hn : Json.lookup "port" service = some (.number n)) :
    Offers service port ↔ n.port?.getD 0 = port := by
  have hlt := port.toNat_lt
  rw [n.getD_port?]
  constructor
  · rintro (⟨m, hm, hport⟩ | ⟨rfl, hnone⟩)
    · cases hn.symm.trans hm
      have hnat : n.truncate.toNat = port.toNat := by omega
      rw [if_pos (by omega), hnat, UInt16.ofNat_toNat]
    · have hrange := hnone n hn
      exact if_neg (by omega)
  · intro h
    split at h
    · next hrange =>
        have hnat : n.truncate.toNat < UInt16.size := by
          rw [UInt16.size]
          omega
        refine .inl ⟨n, hn, ?_⟩
        rw [← h, UInt16.toNat_ofNat_of_lt' hnat]
        omega
    · next hrange =>
        refine .inr ⟨h.symm, fun m hm => ?_⟩
        cases hn.symm.trans hm
        omega

/-- And without one it is zero. -/
theorem offers_of_no_number {port : UInt16}
    (hnone : ∀ n, Json.lookup "port" service ≠ some (.number n)) :
    Offers service port ↔ 0 = port := by
  constructor
  · rintro (⟨n, hn, -⟩ | ⟨hzero, -⟩)
    · exact absurd hn (hnone n)
    · exact hzero.symm
  · exact fun hzero => .inr ⟨hzero.symm, fun n hn => absurd hn (hnone n)⟩

/-- **THE PORT** of an announcement is the one that its description offers. -/
theorem getD_port?_eq_iff {port : UInt16} :
    ((Json.lookup "port" service).bind Json.port?).getD 0 = port ↔ Offers service port := by
  cases hv : Json.lookup "port" service with
  | none =>
      exact (offers_of_no_number fun n hn => Option.some_ne_none _ (hn.symm.trans hv)).symm
  | some v =>
      cases v with
      | number n => exact (offers_of_number hv).symm
      | _ =>
          refine (offers_of_no_number fun n hn => ?_).symm
          exact Json.noConfusion (Option.some.inj (hv.symm.trans hn))

/-- **THE ADDRESS** is the one that it says, or that of the sender. -/
theorem getD_textMember_eq_iff {text fallback : String} :
    (textMember key service).getD fallback = text
      ↔ Says service key text ∨ SaysNothing service key ∧ fallback = text := by
  rw [Option.getD_eq_iff, textMember_eq_some_iff, textMember_eq_none_iff]

end Announcement

namespace Datagram

open Announcement

/-- A datagram names an endpoint: the address is the one that it says, or else that of the
    sender, and the port is the one that it offers. -/
def NamesEndpoint (d : Datagram) (address : String) (port : UInt16) : Prop :=
  ∃ service, Announces d.bytes service
    ∧ (Says service "address" address
      ∨ SaysNothing service "address" ∧ d.sender.text = address)
    ∧ Offers service port

/-- A datagram announces a scheduler without a name. -/
structure Silent (d : Datagram) (a : Announcement) : Prop where
  read : decode? d.bytes d.sender d.receivedAt = some a
  nameless : ∀ service, Announces d.bytes service → SaysNothing service "service_id"

variable {d e : Datagram} {a b : Announcement}

theorem silent_of_service {service : Json.Members} (h : serviceMembers? d.bytes = some service)
    (hnameless : SaysNothing service "service_id") :
    d.Silent (ofMembers d.sender d.receivedAt service) where
  read := congrArg (Option.map _) h
  nameless := by
    intro other hother
    have hsame := (serviceMembers?_eq_some_iff.mpr hother).symm.trans h
    exact Option.some.inj hsame ▸ hnameless

/-- **THE ENDPOINT** that a datagram names is that of its announcement. -/
theorem namesEndpoint_iff (h : decode? d.bytes d.sender d.receivedAt = some a)
    {address : String} {port : UInt16} :
    d.NamesEndpoint address port ↔ a.address = address ∧ a.port = port := by
  obtain ⟨service, hservice, rfl⟩ := decode?_eq_some_iff.mp h
  have hread : (ofMembers d.sender d.receivedAt service).address = address
        ∧ (ofMembers d.sender d.receivedAt service).port = port
      ↔ (Says service "address" address
        ∨ SaysNothing service "address" ∧ d.sender.text = address) ∧ Offers service port :=
    and_congr getD_textMember_eq_iff getD_port?_eq_iff
  rw [hread]
  constructor
  · rintro ⟨other, hother, hnamed⟩
    have hsame : some other = some service :=
      (serviceMembers?_eq_some_iff.mpr hother).symm.trans (serviceMembers?_eq_some_iff.mpr hservice)
    rw [← Option.some.inj hsame]
    exact hnamed
  · exact fun hnamed => ⟨service, hservice, hnamed⟩

/-- A scheduler without a name has that of its endpoint. -/
theorem Silent.serviceId_eq (h : d.Silent a) :
    a.serviceId = a.address ++ ":" ++ showNat a.port.toNat := by
  obtain ⟨service, hservice, rfl⟩ := decode?_eq_some_iff.mp h.read
  have hnone := textMember_eq_none_iff.mpr (h.nameless service hservice)
  show (textMember "service_id" service).getD _ = _
  rw [hnone]
  rfl

/-- **WHAT IS READ IS TIDY**: the name, the address, and the path if there is one. -/
theorem isTidy_of_decode? (h : decode? d.bytes d.sender d.receivedAt = some a) :
    IsTidy a.serviceId ∧ IsTidy a.address ∧ ∀ p ∈ a.basePath, IsTidy p := by
  obtain ⟨service, -, rfl⟩ := decode?_eq_some_iff.mp h
  have hmember {key text : String} (hkey : textMember key service = some text) : IsTidy text := by
    obtain ⟨s, -, htext⟩ := textMember_eq_some hkey
    exact isTidy_of_trimmed? htext
  have hdefault {key fallback : String} (hfallback : IsTidy fallback) :
      IsTidy ((textMember key service).getD fallback) := by
    cases hkey : textMember key service with
    | none => exact hfallback
    | some text => exact hmember hkey
  have haddress : IsTidy (ofMembers d.sender d.receivedAt service).address :=
    hdefault d.sender.isTidy_text
  exact ⟨hdefault (haddress.append ":" (isTidy_showNat _)), haddress, fun p hp => hmember hp⟩

/-- **TWO SILENT SENDERS** have one name exactly if they name one endpoint. -/
theorem Silent.serviceId_eq_iff (hd : d.Silent a) (he : e.Silent b) :
    a.serviceId = b.serviceId ↔ a.address = b.address ∧ a.port = b.port := by
  rw [hd.serviceId_eq, he.serviceId_eq, endpointName_inj]

end Datagram

/-! ## In the registry -/

namespace Registry

/-- A registry is what stands in it and what was published. -/
theorem eq_of_services_eq {r s : Registry} (h : r.services = s.services)
    (hp : r.published = s.published) : r = s := by
  cases r
  cases s
  cases h
  cases hp
  rfl

/-- An announcement leaves nothing of one with its name. -/
theorem record_record (r : Registry) {a b : Announcement} (h : a.serviceId = b.serviceId) :
    (r.record a).record b = r.record b := by
  have hwithout : (r.record a).without b.serviceId = r.without b.serviceId := by
    show ((a.serviceId, a) :: r.without a.serviceId).filter (·.1 ≠ b.serviceId) = _
    rw [List.filter_cons_of_neg (by rw [h]; simp), h, without, List.filter_filter]
    simp only [Bool.and_self]
  exact eq_of_services_eq (congrArg ((b.serviceId, b) :: ·) hwithout) rfl

theorem observeAll_pair (r : Registry) {d e : Datagram} {a b : Announcement}
    (hd : Announcement.decode? d.bytes d.sender d.receivedAt = some a)
    (he : Announcement.decode? e.bytes e.sender e.receivedAt = some b) :
    r.observeAll [d, e] = (r.record a).record b ∧ r.observeAll [e] = r.record b := by
  simp only [observeAll, List.foldl_cons, List.foldl_nil, observe, hd, he, and_self]

end Registry

/-- **SILENT SENDERS ARE MERGED** exactly if they name one endpoint. -/
theorem silent_senders_merged :
    -- two datagrams without a name announce one scheduler exactly if their endpoints are the
    -- same; the first one leaves nothing behind then, and else both stand
    (∀ (d e : Datagram) (a b : Announcement), d.Silent a → e.Silent b →
      ∀ (address other : String) (port port' : UInt16),
      d.NamesEndpoint address port → e.NamesEndpoint other port' →
      (a.serviceId = b.serviceId ↔ address = other ∧ port = port')
        ∧ ∀ r : Registry,
          (address = other ∧ port = port' → r.observeAll [d, e] = r.observeAll [e])
          ∧ (¬ (address = other ∧ port = port') →
            (r.observeAll [d, e]).get? a.serviceId = some a
              ∧ (r.observeAll [d, e]).get? b.serviceId = some b))
    -- whatever is read of a datagram has the one endpoint that this names, and is tidy
    ∧ ∀ (d : Datagram) (a : Announcement),
      Announcement.decode? d.bytes d.sender d.receivedAt = some a →
      (∀ address port, d.NamesEndpoint address port ↔ a.address = address ∧ a.port = port)
        ∧ IsTidy a.serviceId ∧ IsTidy a.address ∧ ∀ p ∈ a.basePath, IsTidy p := by
  constructor
  · intro d e a b hd he address other port port' hdn hen
    obtain ⟨rfl, rfl⟩ := (Datagram.namesEndpoint_iff hd.read).mp hdn
    obtain ⟨rfl, rfl⟩ := (Datagram.namesEndpoint_iff he.read).mp hen
    have hid := hd.serviceId_eq_iff he
    refine ⟨hid, fun r => ?_⟩
    obtain ⟨hboth, hlast⟩ := r.observeAll_pair hd.read he.read
    rw [hboth, hlast, ← hid]
    refine ⟨r.record_record, fun hne => ⟨?_, ?_⟩⟩
    · rw [Registry.get?_record, if_neg (Ne.symm hne), Registry.get?_record, if_pos rfl]
    · rw [Registry.get?_record, if_pos rfl]
  · exact fun d a h => ⟨fun _ _ => Datagram.namesEndpoint_iff h, Datagram.isTidy_of_decode? h⟩

/-- A datagram that gives a blank for the name, and for the address that of another sender. -/
def namesakeDatagram : Datagram where
  bytes := ("\x7b\"type\":\"web_service\",\"service\":\x7b\"service_id\":\" \","
    ++ "\"address\":\"10.0.0.1\",\"port\":8080\x7d\x7d").toList.flatMap String.utf8EncodeChar
  sender := Announcement.neighbour
  receivedAt := Registry.firstDay

/-- The description in it. -/
def namesakeService : Json.Members :=
  [("service_id", .string " "), ("address", .string "10.0.0.1"),
    ("port", .ofInt 8080)]

/-- The announcement that it makes. -/
def namesake : Announcement :=
  .ofMembers Announcement.neighbour Registry.firstDay namesakeService

theorem silent_senders_merged_namesake :
    ∃ sender, (Announcement.silentDatagram sender).Silent (Announcement.silent sender)
      ∧ namesakeDatagram.Silent namesake
      ∧ (Announcement.silentDatagram sender).NamesEndpoint "10.0.0.1" 8080
      ∧ namesakeDatagram.NamesEndpoint "10.0.0.1" 8080
      ∧ (Announcement.silent sender).serviceId = namesake.serviceId
      ∧ ∀ r : Registry, r.observeAll [Announcement.silentDatagram sender, namesakeDatagram]
        = r.observeAll [namesakeDatagram] := by
  obtain ⟨hmerged, hread⟩ := silent_senders_merged
  have hsilent : (Announcement.silentDatagram (.v4 10 0 0 1)).Silent
      (Announcement.silent (.v4 10 0 0 1)) :=
    Datagram.silent_of_service rfl fun s hs => absurd hs.symm (Option.some_ne_none _)
  have hnameless : Announcement.SaysNothing namesakeService "service_id" := by
    intro s hs
    cases hs
    rfl
  have hnamesake : namesakeDatagram.Silent namesake :=
    Datagram.silent_of_service rfl hnameless
  have hdn := ((hread _ _ hsilent.read).1 "10.0.0.1" 8080).mpr ⟨by decide +kernel, rfl⟩
  have hen := ((hread _ _ hnamesake.read).1 "10.0.0.1" 8080).mpr ⟨by decide +kernel, rfl⟩
  obtain ⟨hid, hregistry⟩ := hmerged _ _ _ _ hsilent hnamesake _ _ _ _ hdn hen
  exact ⟨_, hsilent, hnamesake, hdn, hen, hid.mpr ⟨rfl, rfl⟩,
    fun r => (hregistry r).1 ⟨rfl, rfl⟩⟩

end TaskConsole
