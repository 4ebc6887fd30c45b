import TaskConsole.Proofs.Endpoints

/-! # Slashes — where a base and a path meet

    Slashes come together where a base meets a path, and two parts of the program put them
    in order by rules of their own.  A base URL gets a slash in front of its path, if that
    has none, and one at its end; a client takes all slashes away at the joint, and puts
    one there.

    * What a client makes of a base and a path is stated without its code: one slash
      stands between them, and none on either side of it (`Meets`).
    * The path of an announcement can be written in many ways (`Spells`).  The base URL is
      the same in all of them but for the slashes at its end (`exists_baseUrl_spells`), so
      that what lies below it is the same. -/

namespace TaskConsole

open Text

/-! ## One slash between two texts -/

/-- So many slashes. -/
def slashes (n : Nat) : List Char := List.replicate n '/'

/-- Slashes at the end are dropped with those before them. -/
theorem rdropWhile_slashes (cs : List Char) (n : Nat) :
    (cs ++ slashes n).rdropWhile (· = '/') = cs.rdropWhile (· = '/') := by
  induction n with
  | zero => exact congrArg (List.rdropWhile _) (List.append_nil cs)
  | succ n ih =>
      rw [slashes, List.replicate_succ', ← List.append_assoc]
      have hlast : (cs ++ slashes n ++ ['/']).rdropWhile (· = '/')
          = (cs ++ slashes n).rdropWhile (· = '/') :=
        List.rdropWhile_concat_pos _ _ _ (decide_eq_true rfl)
      exact hlast.trans ih

/-- Slashes in front are dropped with those behind them. -/
theorem dropWhile_slashes (n : Nat) (cs : List Char) :
    (slashes n ++ cs).dropWhile (· = '/') = cs.dropWhile (· = '/') :=
  List.dropWhile_append_of_pos fun _ hc => decide_eq_true (List.eq_of_mem_replicate hc)

/-- A text is cut before the slashes at its end. -/
theorem exists_rdropWhile_slashes (cs : List Char) :
    ∃ n, cs = cs.rdropWhile (· = '/') ++ slashes n := by
  induction cs using List.reverseRecOn with
  | nil => exact ⟨0, rfl⟩
  | append_singleton cs c ih =>
      by_cases hc : c = '/'
      · obtain ⟨n, hn⟩ := ih
        refine ⟨n + 1, ?_⟩
        rw [slashes, List.replicate_succ', ← List.append_assoc,
          List.rdropWhile_concat_pos (fun c => decide (c = '/')) _ _ (decide_eq_true hc), hc]
        exact congrArg (· ++ ['/']) hn
      · refine ⟨0, ?_⟩
        rw [List.rdropWhile_concat_neg (fun c => decide (c = '/')) _ _
          (fun h => hc (of_decide_eq_true h))]
        exact (List.append_nil _).symm

/-- And behind those in front. -/
theorem exists_dropWhile_slashes (cs : List Char) :
    ∃ n, cs = slashes n ++ cs.dropWhile (· = '/') := by
  have hall : ∀ c ∈ cs.takeWhile (· = '/'), c = '/' := fun c hc =>
    of_decide_eq_true (List.all_eq_true.mp List.all_takeWhile c hc)
  refine ⟨(cs.takeWhile (· = '/')).length, ?_⟩
  rw [slashes, ← List.eq_replicate_of_mem hall, List.takeWhile_append_dropWhile]

/-- A base and a path meet in an address: the base without the slashes at its end, one slash,
    and the path without the slashes in front. -/
def Meets (base path address : List Char) : Prop :=
  ∃ front back m n, base = front ++ slashes m ∧ path = slashes n ++ back
    ∧ front.getLast? ≠ some '/' ∧ back.head? ≠ some '/' ∧ address = front ++ '/' :: back

namespace Client

theorem joinPath_eq (base path : List Char) :
    joinPath base path = base.rdropWhile (· = '/') ++ '/' :: path.dropWhile (· = '/') := rfl

/-- **AT THE JOINT** of a base and a path, slashes make no difference. -/
theorem joinPath_slashes (base path : List Char) (i j : Nat) :
    joinPath (base ++ slashes i) (slashes j ++ path) = joinPath base path := by
  rw [joinPath_eq, rdropWhile_slashes, dropWhile_slashes, ← joinPath_eq]

/-- A base and a path are joined where they meet. -/
theorem joinPath_eq_iff {base path address : List Char} :
    joinPath base path = address ↔ Meets base path address := by
  constructor
  · rintro rfl
    obtain ⟨m, hm⟩ := exists_rdropWhile_slashes base
    obtain ⟨n, hn⟩ := exists_dropWhile_slashes path
    refine ⟨_, _, m, n, hm, hn, ?_, ?_, joinPath_eq base path⟩
    · intro hlast
      have hne : base.rdropWhile (· = '/') ≠ [] := by
        intro hnil
        rw [hnil] at hlast
        exact Option.some_ne_none _ hlast.symm
      rw [List.getLast?_eq_some_getLast hne] at hlast
      exact List.rdropWhile_last_not _ _ hne (decide_eq_true (Option.some.inj hlast))
    · intro hhead
      have hnot := List.head?_dropWhile_not (fun c => decide (c = '/')) path
      rw [hhead] at hnot
      exact of_decide_eq_false hnot rfl
  · rintro ⟨front, back, m, n, rfl, rfl, hfront, hback, rfl⟩
    have hleft : front.rdropWhile (· = '/') = front := by
      rw [List.rdropWhile_eq_self_iff]
      intro hne hlast
      exact hfront ((List.getLast?_eq_some_getLast hne).trans
        (congrArg some (of_decide_eq_true hlast)))
    have hright : back.dropWhile (· = '/') = back :=
      dropWhile_run (List.forall_mem_nil _) fun c hc => decide_eq_false fun h =>
        hback (h ▸ hc)
    rw [joinPath_slashes, joinPath_eq, hleft, hright]

/-- The address of a path below a base that is not blank. -/
theorem endpoint_retarget (c : Client) {base : String} (h : isBlankText base = false)
    (path : String) :
    (c.retarget base).endpoint path = .ok (String.ofList (joinPath base.toList path.toList)) := by
  simp only [retarget, h, Bool.false_eq_true, if_false, endpoint]

end Client

/-! ## Below a base URL -/

/-- A path is written with blanks around it, a slash in front or none, and any number of
    slashes behind it. -/
def Spells (path written : String) : Prop :=
  ∃ left right m n, m ≤ 1 ∧ (∀ c ∈ left, isBlank c = true) ∧ (∀ c ∈ right, isBlank c = true)
    ∧ written.toList = left ++ (slashes m ++ path.toList ++ slashes n) ++ right

/-- A path is bare: there are no blanks around it, and no slash is in front. -/
structure IsBare (path : String) : Prop where
  trimmed : Trims path.toList path.toList
  begins : path.toList.head? ≠ some '/'

namespace Announcement

/-- What a base URL begins with: the scheme, the address and the port. -/
def front (a : Announcement) : String :=
  "http://" ++ a.address ++ ":" ++ showNat a.port.toNat

theorem baseUrlText_front (a : Announcement) :
    a.baseUrlText = withSlash (a.front.toList ++ pathText a.basePath) := by
  simp only [front, String.toList_append, showNat, String.toList_ofList]
  show withSlash ("http://".toList ++ a.address.toList ++ ':' :: decimal a.port.toNat
    ++ pathText a.basePath) = _
  rw [List.append_cons]
  rfl

theorem toList_front_append (a : Announcement) (rest : String) :
    (a.front ++ "/" ++ rest).toList = a.front.toList ++ '/' :: rest.toList := by
  rw [String.toList_append, String.toList_append, List.append_assoc]
  rfl

/-- It ends with a digit. -/
theorem getLast?_front (a : Announcement) : a.front.toList.getLast? ≠ some '/' := by
  have hlast : a.front.toList.getLast? = (decimal a.port.toNat).getLast? := by
    simp only [front, String.toList_append, showNat, String.toList_ofList]
    exact List.getLast?_append_of_ne_nil _ (decimal_ne_nil _)
  rw [hlast]
  intro h
  exact Bool.false_ne_true (isDigit_of_mem_decimal _ (List.mem_of_getLast? h))

/-- A text with a slash at its end has one more slash, or none. -/
theorem exists_withSlash (cs : List Char) : ∃ n, withSlash cs = cs ++ slashes n := by
  rw [withSlash]
  split
  · exact ⟨0, (List.append_nil cs).symm⟩
  · exact ⟨1, rfl⟩

theorem getLast?_withSlash (cs : List Char) : (withSlash cs).getLast? = some '/' := by
  rw [withSlash]
  split
  · assumption
  · exact List.getLast?_concat

/-- **A BASE URL** begins with the scheme, the address, the port and a slash, and ends with
    a slash. -/
theorem exists_baseUrl_rest (a : Announcement) :
    (∃ rest, a.baseUrl = a.front ++ "/" ++ rest) ∧ a.baseUrl.toList.getLast? = some '/' := by
  rw [baseUrl, String.toList_ofList, baseUrlText_front]
  refine ⟨?_, getLast?_withSlash _⟩
  have hslash : ∃ rest, withSlash (a.front.toList ++ pathText a.basePath)
      = a.front.toList ++ '/' :: rest := by
    rcases pathText_cases a.basePath with hnone | ⟨-, -, rest, hrest, -⟩
    · refine ⟨[], ?_⟩
      rw [hnone, List.append_nil, withSlash, if_neg a.getLast?_front]
    · obtain ⟨n, hn⟩ := exists_withSlash (a.front.toList ++ pathText a.basePath)
      refine ⟨rest ++ slashes n, ?_⟩
      rw [hn, hrest, List.append_assoc, List.cons_append]
  obtain ⟨rest, hrest⟩ := hslash
  refine ⟨String.ofList rest, ?_⟩
  rw [hrest, ← String.toList_inj, toList_front_append, String.toList_ofList,
    String.toList_ofList]

/-- Slashes around a path without blanks around it leave it so. -/
theorem trims_slashes {path : List Char} (h : Trims path path) (m n : Nat) :
    Trims (slashes m ++ path ++ slashes n) (slashes m ++ path ++ slashes n) := by
  have hslash {k : Nat} {c : Char} (hc : c ∈ slashes k) : isBlank c = false := by
    rw [List.eq_of_mem_replicate hc]
    rfl
  refine trims_self ?_ ?_
  · intro c hc
    rw [List.append_assoc, List.head?_append, List.head?_append, Option.mem_def,
      Option.or_eq_some_iff, Option.or_eq_some_iff] at hc
    rcases hc with hc | ⟨-, hc | ⟨-, hc⟩⟩
    · exact hslash (List.mem_of_head? hc)
    · exact h.begins c hc
    · exact hslash (List.mem_of_head? hc)
  · intro c hc
    rw [List.getLast?_append, List.getLast?_append, Option.mem_def,
      Option.or_eq_some_iff, Option.or_eq_some_iff] at hc
    rcases hc with hc | ⟨-, hc | ⟨-, hc⟩⟩
    · exact hslash (List.mem_of_getLast? hc)
    · exact h.ends c hc
    · exact hslash (List.mem_of_getLast? hc)

/-- The path in a base URL is what is left of the announced one without the blanks around it,
    with a slash in front. -/
theorem pathText_of_trims {written : String} {cs : List Char} (h : Trims written.toList cs) :
    pathText (some written)
      = if cs = [] then [] else if cs.head? = some '/' then cs else '/' :: cs := by
  by_cases hempty : cs = []
  · rw [hempty] at h
    rw [if_pos hempty, pathText, Option.bind_some, trimmed?_eq_none_iff.mpr h]
  · have htrimmed : trimmed? written = some (String.ofList cs) := by
      refine trimmed?_eq_some_iff.mpr ⟨?_, ?_⟩
      · rw [String.toList_ofList]
        exact h
      · intro hnil
        exact hempty (String.toList_ofList.symm.trans (congrArg String.toList hnil))
    rw [if_neg hempty, pathText, Option.bind_some, htrimmed]
    simp only [String.toList_ofList]

/-- However it is written, it is the bare path with one slash in front, or it is empty. -/
theorem pathText_spells {path written : String} (hbare : IsBare path)
    (h : Spells path written) :
    pathText (some written) = [] ∧ path.toList = []
      ∨ ∃ n, pathText (some written) = '/' :: path.toList ++ slashes n := by
  obtain ⟨left, right, m, n, hm, hleft, hright, hwritten⟩ := h
  have hslashes := trims_slashes hbare.trimmed m n
  rw [pathText_of_trims ⟨⟨left, right, hwritten, hleft, hright⟩, hslashes.begins,
    hslashes.ends⟩]
  by_cases hempty : slashes m ++ path.toList ++ slashes n = []
  · exact Or.inl ⟨if_pos hempty,
      (List.append_eq_nil_iff.mp (List.append_eq_nil_iff.mp hempty).1).2⟩
  · rw [if_neg hempty]
    refine Or.inr ?_
    match m, hm with
    | 1, _ => exact ⟨n, if_pos rfl⟩
    | 0, _ =>
        have hbegins := hbare.begins
        cases hpath : path.toList with
        | nil =>
            -- then all slashes are behind the path, and the first of them is in front
            cases n with
            | zero => exact absurd (by rw [hpath]; rfl) hempty
            | succ n => exact ⟨n, if_pos rfl⟩
        | cons c rest =>
            rw [hpath] at hbegins
            exact ⟨n, if_neg hbegins⟩

/-- **HOWEVER ITS PATH IS WRITTEN**, a base URL is the same but for the slashes at its end. -/
theorem exists_baseUrl_spells (a : Announcement) {path written : String}
    (hbare : IsBare path) (h : Spells path written) :
    ∃ n, ({ a with basePath := some written } : Announcement).baseUrl.toList
      = (a.front ++ "/" ++ path).toList ++ slashes n := by
  rw [baseUrl, String.toList_ofList, baseUrlText_front, toList_front_append]
  show ∃ n, withSlash (a.front.toList ++ pathText (some written)) = _
  rcases pathText_spells hbare h with ⟨hnone, hpath⟩ | ⟨k, hk⟩
  · refine ⟨0, ?_⟩
    rw [hnone, hpath, List.append_nil, withSlash, if_neg a.getLast?_front]
    exact (List.append_nil _).symm
  · obtain ⟨n, hn⟩ := exists_withSlash (a.front.toList ++ pathText (some written))
    refine ⟨k + n, ?_⟩
    rw [hn, hk, ← List.append_assoc, List.append_assoc _ (slashes k), slashes, slashes,
      List.replicate_append_replicate]
    rfl

/-- Without a path, or with one of blanks and slashes, it is so too. -/
theorem exists_baseUrl_pathless (a : Announcement)
    (h : ∀ written ∈ a.basePath, Spells "" written) :
    ∃ n, a.baseUrl.toList = (a.front ++ "/").toList ++ slashes n := by
  have hempty : a.front ++ "/" ++ "" = a.front ++ "/" := String.append_empty
  rw [← hempty]
  obtain ⟨serviceId, address, port, basePath, lastHeartbeat⟩ := a
  cases basePath with
  | none =>
      refine ⟨0, ?_⟩
      rw [baseUrl, String.toList_ofList, baseUrlText_front, toList_front_append, pathText,
        Option.bind_none, List.append_nil, withSlash, if_neg (getLast?_front _)]
      exact (List.append_nil _).symm
  | some written =>
      have hbare : IsBare "" := ⟨trims_nil_iff.mpr (List.forall_mem_nil _), by decide⟩
      exact exists_baseUrl_spells ⟨serviceId, address, port, some written, lastHeartbeat⟩ hbare
        (h written rfl)

/-- A client that is pointed at a base URL joins its paths to what stands before the slashes
    at its end. -/
theorem endpoint_baseUrl {a : Announcement} {front : String} {n : Nat}
    (h : a.baseUrl.toList = front.toList ++ slashes n) (c : Client) (path : String) :
    (c.retarget a.baseUrl).endpoint path
      = .ok (String.ofList (Client.joinPath front.toList path.toList)) := by
  rw [c.endpoint_retarget a.isBlankText_baseUrl, h]
  exact congrArg (Except.ok ∘ String.ofList) (Client.joinPath_slashes front.toList path.toList n 0)

end Announcement

/-- **SLASHES NEVER MATTER** where a base and a path meet. -/
theorem slashes_never_matter :
    -- at the end of a base that is not blank, and in front of a path
    (∀ (c : Client) (base path : String), isBlankText base = false → ∃ address : String,
      Meets base.toList path.toList address.toList
        ∧ (c.retarget base).endpoint path = .ok address
        ∧ ∀ i j, (c.retarget (base ++ String.ofList (slashes i))).endpoint
            (String.ofList (slashes j) ++ path) = (c.retarget base).endpoint path)
    -- a base URL has a slash behind the port, and one at its end
    ∧ (∀ a : Announcement, (∃ rest, a.baseUrl
          = "http://" ++ a.address ++ ":" ++ showNat a.port.toNat ++ "/" ++ rest)
        ∧ a.baseUrl.toList.getLast? = some '/')
    -- below it, a path has the same address however the path of the announcement is written
    ∧ (∀ (a : Announcement) (c : Client) (bare path : String), IsBare bare →
      ∃ address : String, Meets (a.front ++ "/" ++ bare).toList path.toList address.toList
        ∧ ∀ written, Spells bare written →
          (c.retarget ({ a with basePath := some written } : Announcement).baseUrl).endpoint path
            = .ok address)
    -- and if there is none, or none but blanks and slashes, it stands behind the port
    ∧ ∀ (a : Announcement) (c : Client) (path : String) (n : Nat) (back : List Char),
      (∀ written ∈ a.basePath, Spells "" written) →
      path.toList = slashes n ++ back → back.head? ≠ some '/' →
      (c.retarget a.baseUrl).endpoint path = .ok ("http://" ++ a.address ++ ":"
        ++ showNat a.port.toNat ++ "/" ++ String.ofList back) := by
  refine ⟨?_, Announcement.exists_baseUrl_rest, ?_, ?_⟩
  · intro c base path hbase
    refine ⟨String.ofList (Client.joinPath base.toList path.toList), ?_,
      c.endpoint_retarget hbase path, ?_⟩
    · rw [String.toList_ofList]
      exact Client.joinPath_eq_iff.mp rfl
    · intro i j
      have hlonger : isBlankText (base ++ String.ofList (slashes i)) = false :=
        isBlankText_append_left hbase _
      rw [c.endpoint_retarget hlonger, c.endpoint_retarget hbase, String.toList_append,
        String.toList_append, String.toList_ofList, String.toList_ofList,
        Client.joinPath_slashes]
  · intro a c bare path hbare
    refine ⟨String.ofList (Client.joinPath (a.front ++ "/" ++ bare).toList path.toList), ?_, ?_⟩
    · rw [String.toList_ofList]
      exact Client.joinPath_eq_iff.mp rfl
    · intro written hspells
      obtain ⟨n, hn⟩ := a.exists_baseUrl_spells hbare hspells
      exact Announcement.endpoint_baseUrl hn c path
  · intro a c path n back hpath hjoint hback
    obtain ⟨k, hk⟩ := a.exists_baseUrl_pathless hpath
    have hmeets : Meets (a.front ++ "/").toList path.toList (a.front.toList ++ '/' :: back) :=
      ⟨a.front.toList, back, 1, n, String.toList_append, hjoint, a.getLast?_front, hback, rfl⟩
    rw [Announcement.endpoint_baseUrl hk, Client.joinPath_eq_iff.mpr hmeets]
    refine congrArg Except.ok (String.toList_inj.mp ?_)
    rw [String.toList_ofList]
    exact ((a.toList_front_append _).trans (by rw [String.toList_ofList])).symm

/-- A scheduler that announces no path. -/
def pathless : Announcement where
  serviceId := "a"
  address := "10.1.1.1"
  port := 3001
  basePath := none
  lastHeartbeat := Registry.firstDay

theorem slashes_never_matter_api :
    isBlankText "http://h:1/base" = false ∧ IsBare "api" ∧ Spells "api" " /api// "
      ∧ (Client.retarget {} ("http://h:1/base" ++ String.ofList (slashes 2))).endpoint
          (String.ofList (slashes 1) ++ "tasks")
        = (Client.retarget {} "http://h:1/base").endpoint "tasks"
      ∧ (Client.retarget {}
          ({ pathless with basePath := some " /api// " } : Announcement).baseUrl).endpoint "tasks"
        = (Client.retarget {}
          ({ pathless with basePath := some "api" } : Announcement).baseUrl).endpoint "tasks"
      ∧ (Client.retarget {} pathless.baseUrl).endpoint "/tasks"
        = .ok "http://10.1.1.1:3001/tasks" := by
  obtain ⟨hjoint, -, hspelled, hpathless⟩ := slashes_never_matter
  have hbase : isBlankText "http://h:1/base" = false := by decide
  have hbare : IsBare "api" := by
    refine ⟨trims_self ?_ ?_, by decide⟩ <;> rintro c ⟨⟩ <;> rfl
  have hspace : ∀ c ∈ [' '], isBlank c = true := List.forall_mem_singleton.mpr rfl
  have hspells : Spells "api" " /api// " :=
    ⟨[' '], [' '], 1, 2, Nat.le_refl 1, hspace, hspace, rfl⟩
  have hself : Spells "api" "api" :=
    ⟨[], [], 0, 0, Nat.zero_le 1, List.forall_mem_nil _, List.forall_mem_nil _, rfl⟩
  obtain ⟨-, -, -, hslashes⟩ := hjoint {} "http://h:1/base" "tasks" hbase
  obtain ⟨address, -, hsame⟩ := hspelled pathless {} "api" "tasks" hbare
  refine ⟨hbase, hbare, hspells, hslashes 2 1, ?_, ?_⟩
  · rw [hsame _ hspells, hsame _ hself]
  · have haddress : "http://" ++ pathless.address ++ ":" ++ showNat pathless.port.toNat ++ "/"
        ++ String.ofList "tasks".toList = "http://10.1.1.1:3001/tasks" := by decide +kernel
    rw [← haddress]
    exact hpathless pathless {} "/tasks" 1 "tasks".toList
      (fun written hw => absurd hw.symm (Option.some_ne_none written)) rfl (by decide)

end TaskConsole
