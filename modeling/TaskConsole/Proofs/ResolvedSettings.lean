import TaskConsole.Proofs.SilentSenders
import TaskConsole.Proofs.TaskFields
import TaskConsole.Settings

/-! # Resolved settings — every text leads to a value that can be used, and that stays

    A setting is a text that may be absent, and what it is resolved to is stated without the
    reader: the number that the text denotes (`Settings.Denotes`), or one of the defaults of
    the setting (`Settings.Port`, `Settings.Seconds`, `Settings.Bind`).  A value that is
    written down denotes itself, whatever blanks are around it, so settings that were
    resolved once are resolved to themselves. -/

namespace TaskConsole

open Text

theorem Text.naturalBelow?_eq_some_iff {bound n : Nat} {cs : List Char} :
    naturalBelow? bound cs = some n ↔ Natural cs n ∧ n < bound := by
  rw [naturalBelow?, Option.filter_eq_some_iff, natural?_eq_some_iff, decide_eq_true_iff]

theorem Text.naturalBelow?_eq_none_iff {bound : Nat} {cs : List Char} :
    naturalBelow? bound cs = none ↔ ∀ n, Natural cs n → bound ≤ n := by
  rw [Option.eq_none_iff_forall_not_mem]
  refine forall_congr' fun n => ?_
  rw [Option.mem_def, naturalBelow?_eq_some_iff, not_and, Nat.not_lt]

/-- No numeral is empty. -/
theorem Text.Natural.ne_nil {cs : List Char} {n : Nat} (h : Natural cs n) : cs ≠ [] := by
  cases h with
  | plain hne hd => exact hne
  | plus hne hd => exact List.cons_ne_nil _ _

/-- A numeral denotes one number. -/
theorem Text.Natural.unique {cs : List Char} {m n : Nat} (hm : Natural cs m)
    (hn : Natural cs n) : m = n :=
  Option.some.inj ((natural?_eq_some_iff.mpr hm).symm.trans (natural?_eq_some_iff.mpr hn))

namespace Settings

/-! ## What a text says -/

/-- A setting is not set: there is no text, or a blank one. -/
def Unset (raw : Option String) : Prop := ∀ s, raw = some s → isBlankText s = true

/-- A setting denotes a number: this is the numeral that its text is without the blanks
    around it. -/
def Denotes (raw : Option String) (n : Nat) : Prop :=
  ∃ s mid, raw = some s ∧ Trims s.toList mid ∧ Natural mid n

/-- A setting is written as a text, perhaps with blanks around it. -/
def Writes (raw : Option String) (text : String) : Prop :=
  ∃ left right, raw = some (left ++ text ++ right) ∧ isBlankText left = true
    ∧ isBlankText right = true

variable {raw : Option String} {text : String} {m n : Nat}

theorem unset_iff : Unset raw ↔ raw.bind trimmed? = none := by
  rw [Option.bind_eq_none_iff]
  exact forall_congr' fun s => imp_congr_right fun _ =>
    isBlankText_iff.trans trimmed?_eq_none_iff.symm

/-- What is denoted is the numeral that is left of the text. -/
theorem denotes_iff (h : raw.bind trimmed? = some text) :
    Denotes raw n ↔ Natural text.toList n := by
  obtain ⟨s, rfl, htext⟩ := Option.bind_eq_some_iff.mp h
  obtain ⟨htrims, -⟩ := trimmed?_eq_some_iff.mp htext
  constructor
  · rintro ⟨_, mid, ⟨⟩, hmid, hn⟩
    rwa [← trimChars_eq_iff.mpr htrims, trimChars_eq_iff.mpr hmid]
  · exact fun hn => ⟨s, text.toList, rfl, htrims, hn⟩

/-- There is one such number at most. -/
theorem Denotes.unique (hm : Denotes raw m) (hn : Denotes raw n) : m = n := by
  obtain ⟨s, mid, rfl, hmid, hm⟩ := hm
  obtain ⟨_, other, ⟨⟩, hother, hn⟩ := hn
  rw [← trimChars_eq_iff.mpr hother, trimChars_eq_iff.mpr hmid] at hn
  exact hm.unique hn

/-- What is not set denotes nothing. -/
theorem Unset.not_denotes (h : Unset raw) : ¬ Denotes raw n := by
  rintro ⟨s, mid, rfl, hmid, hn⟩
  have hnil := isBlankText_iff.mp (h s rfl)
  rw [← trimChars_eq_iff.mpr hmid, trimChars_eq_iff.mpr hnil] at hn
  exact hn.ne_nil rfl

/-- A number that is written down is denoted. -/
theorem Writes.denotes (h : Writes raw (showNat n)) : Denotes raw n := by
  obtain ⟨left, right, rfl, hleft, hright⟩ := h
  exact ⟨_, _, rfl, (isTidy_showNat n).trims hleft hright, natural_showNat n⟩

/-! ## What it is resolved to -/

/-- What the address of a listener is resolved to. -/
structure Bind (raw : Option String) (bind : String) : Prop where
  given : ∀ s, raw = some s → isBlankText s = false → Trims s.toList bind.toList
  unset : Unset raw → bind = "127.0.0.1"

/-- What a port is resolved to. -/
structure Port (raw : Option String) (port : UInt16) : Prop where
  -- it is the number that the text denotes, exactly if this is a port
  given : ∀ n, Denotes raw n → (port.toNat = n ↔ n < 65536)
  unset : Unset raw → port = 5504
  -- the text is there, and it denotes no port
  garbage : ¬ Unset raw → (∀ n, Denotes raw n → 65536 ≤ n) → port = 5000

/-- What a duration is resolved to. -/
structure Seconds (raw : Option String) (default seconds : Nat) : Prop where
  pos : 0 < seconds
  lt : seconds < 2 ^ 64
  -- it is the number that the text denotes, exactly if this is a duration
  given : ∀ n, Denotes raw n → (seconds = n ↔ 0 < n ∧ n < 2 ^ 64)
  other : (∀ n, Denotes raw n → n = 0 ∨ 2 ^ 64 ≤ n) → seconds = default

/-- An address is resolved to the text without the blanks around it. -/
theorem bind_resolveBind (raw : Option String) : Bind raw (resolveBind raw) := by
  rw [resolveBind]
  cases h : raw.bind trimmed? with
  | none =>
      refine ⟨fun s hs hnot => ?_, fun _ => rfl⟩
      exact absurd ((unset_iff.mpr h s hs).symm.trans hnot) Bool.noConfusion
  | some text =>
      obtain ⟨s, rfl, htext⟩ := Option.bind_eq_some_iff.mp h
      refine ⟨?_, fun hunset => ?_⟩
      · rintro _ ⟨⟩ -
        exact (trimmed?_eq_some_iff.mp htext).1
      · exact absurd (h.symm.trans (unset_iff.mp hunset)) (Option.some_ne_none text)

theorem isTidy_resolveBind (raw : Option String) : IsTidy (resolveBind raw) := by
  rw [resolveBind]
  cases h : raw.bind trimmed? with
  | none => exact ⟨by decide, trimChars_eq_iff.mp (by decide +kernel)⟩
  | some text =>
      obtain ⟨s, -, htext⟩ := Option.bind_eq_some_iff.mp h
      exact isTidy_of_trimmed? htext

/-- **A PORT** is the one that is denoted, or one of two others that tell why it is not. -/
theorem port_resolvePort (raw : Option String) : Port raw (resolvePort raw) := by
  rw [resolvePort]
  cases h : raw.bind trimmed? with
  | none =>
      have hunset := unset_iff.mpr h
      exact ⟨fun n hn => absurd hn hunset.not_denotes, fun _ => rfl, fun hset => absurd hunset hset⟩
  | some text =>
      have hset : Unset raw → False := fun hunset =>
        Option.some_ne_none text (h.symm.trans (unset_iff.mp hunset))
      dsimp only
      cases hport : naturalBelow? 65536 text.toList with
      | none =>
          have hlarge := naturalBelow?_eq_none_iff.mp hport
          refine ⟨fun n hn => ?_, fun hunset => absurd hunset hset, fun _ _ => rfl⟩
          have hn := hlarge n ((denotes_iff h).mp hn)
          show (5000 : Nat) = n ↔ _
          omega
      | some m =>
          obtain ⟨hm, hlt⟩ := naturalBelow?_eq_some_iff.mp hport
          have hnat : (UInt16.ofNat m).toNat = m := UInt16.toNat_ofNat_of_lt' hlt
          refine ⟨fun n hn => ?_, fun hunset => absurd hunset hset, fun _ hlarge => ?_⟩
          · have hsame := hm.unique ((denotes_iff h).mp hn)
            show (UInt16.ofNat m).toNat = n ↔ _
            omega
          · exact absurd hlt (hlarge m ((denotes_iff h).mpr hm)).not_gt

/-- The number that is read is the one that is denoted, if it is below the bound. -/
theorem bind_naturalBelow?_eq_some_iff {bound : Nat} :
    (raw.bind fun s => naturalBelow? bound (trimChars s.toList)) = some n
      ↔ Denotes raw n ∧ n < bound := by
  rw [Option.bind_eq_some_iff]
  constructor
  · rintro ⟨s, rfl, hn⟩
    obtain ⟨hn, hlt⟩ := naturalBelow?_eq_some_iff.mp hn
    exact ⟨⟨s, _, rfl, trims_trimChars _, hn⟩, hlt⟩
  · rintro ⟨⟨s, mid, rfl, hmid, hn⟩, hlt⟩
    refine ⟨s, rfl, naturalBelow?_eq_some_iff.mpr ⟨?_, hlt⟩⟩
    rwa [trimChars_eq_iff.mpr hmid]

/-- **A DURATION** is the one that is denoted, or the default. -/
theorem seconds_resolveSeconds (raw : Option String) {default : Nat} (hpos : 0 < default)
    (hlt : default < 2 ^ 64) : Seconds raw default (resolveSeconds raw default) := by
  rw [resolveSeconds]
  cases h : (raw.bind fun s => naturalBelow? 18446744073709551616 (trimChars s.toList)).filter
      (0 < ·) with
  | none =>
      have hout : ∀ n, Denotes raw n → n = 0 ∨ 2 ^ 64 ≤ n := by
        intro n hn
        by_contra hrange
        refine Option.filter_eq_none_iff.mp h n ?_ (decide_eq_true (by omega))
        exact bind_naturalBelow?_eq_some_iff.mpr ⟨hn, by omega⟩
      refine ⟨hpos, hlt, fun n hn => ?_, fun _ => rfl⟩
      have := hout n hn
      rw [Option.getD_none]
      omega
  | some m =>
      obtain ⟨hm, hmpos⟩ := Option.filter_eq_some_iff.mp h
      have hmpos := of_decide_eq_true hmpos
      obtain ⟨hm, hmlt⟩ := bind_naturalBelow?_eq_some_iff.mp hm
      refine ⟨hmpos, hmlt, fun n hn => ?_, fun hout => ?_⟩
      · have hsame := hm.unique hn
        rw [Option.getD_some]
        omega
      · have := hout m hm
        omega

/-! ## Written down and resolved again -/

/-- A tidy address that is written down is resolved to itself. -/
theorem resolveBind_of_writes {bind : String} (h : IsTidy bind) (hraw : Writes raw bind) :
    resolveBind raw = bind := by
  obtain ⟨left, right, rfl, hleft, hright⟩ := hraw
  rw [resolveBind, Option.bind_some,
    trimmed?_eq_some_iff.mpr ⟨h.trims hleft hright, h.ne_empty⟩, Option.getD_some]

/-- And so is a port, -/
theorem Port.eq_of_writes {again : Option String} {port other : UInt16}
    (h : Port again other) (hagain : Writes again (showNat port.toNat)) : other = port :=
  UInt16.toNat_inj.mp ((h.given _ hagain.denotes).mpr port.toNat_lt)

/-- and a duration that another text was resolved to. -/
theorem Seconds.eq_of_writes {again : Option String} {default seconds other : Nat}
    (h : Seconds raw default seconds) (hother : Seconds again default other)
    (hagain : Writes again (showNat seconds)) : other = seconds :=
  (hother.given _ hagain.denotes).mpr ⟨h.pos, h.lt⟩

/-- Settings are written down, each as a text, perhaps with blanks around it. -/
structure WritesAll (c : Settings) (raw : RawSettings) : Prop where
  gossipBind : Writes raw.gossipBind c.gossipBind
  gossipPort : Writes raw.gossipPort (showNat c.gossipPort.toNat)
  httpTimeout : Writes raw.httpTimeout (showNat c.httpTimeout)
  refreshInterval : Writes raw.refreshInterval (showNat c.refreshInterval)
  statusClearDelay : Writes raw.statusClearDelay (showNat c.statusClearDelay)

/-- **RESOLUTION IS STABLE AND SAFE.** -/
theorem resolution_stable (raw : RawSettings) :
    -- the address can be used as it is, and every setting is what its text says or a default
    IsTidy (resolve raw).gossipBind
    ∧ Bind raw.gossipBind (resolve raw).gossipBind
    ∧ Port raw.gossipPort (resolve raw).gossipPort
    ∧ Seconds raw.httpTimeout 30 (resolve raw).httpTimeout
    ∧ Seconds raw.refreshInterval 10 (resolve raw).refreshInterval
    ∧ Seconds raw.statusClearDelay 5 (resolve raw).statusClearDelay
    -- written down and resolved again, with blanks around the texts, nothing changes
    ∧ ∀ again, (resolve raw).WritesAll again → resolve again = resolve raw := by
  have hport (raw : RawSettings) : Port raw.gossipPort (resolve raw).gossipPort :=
    port_resolvePort _
  have hhttp (raw : RawSettings) : Seconds raw.httpTimeout 30 (resolve raw).httpTimeout :=
    seconds_resolveSeconds _ (by decide) (by decide)
  have hrefresh (raw : RawSettings) :
      Seconds raw.refreshInterval 10 (resolve raw).refreshInterval :=
    seconds_resolveSeconds _ (by decide) (by decide)
  have hclear (raw : RawSettings) :
      Seconds raw.statusClearDelay 5 (resolve raw).statusClearDelay :=
    seconds_resolveSeconds _ (by decide) (by decide)
  have htidy := isTidy_resolveBind raw.gossipBind
  refine ⟨htidy, bind_resolveBind _, hport raw, hhttp raw, hrefresh raw, hclear raw, ?_⟩
  intro again h
  rw [resolve, mk.injEq]
  exact ⟨resolveBind_of_writes htidy h.gossipBind, (hport again).eq_of_writes h.gossipPort,
    (hhttp raw).eq_of_writes (hhttp again) h.httpTimeout,
    (hrefresh raw).eq_of_writes (hrefresh again) h.refreshInterval,
    (hclear raw).eq_of_writes (hclear again) h.statusClearDelay⟩

/-- Texts of which each is resolved in another way: blanks around an address, a port beyond
    the range, a plus, a zero, and no text at all. -/
def mixedTexts : RawSettings where
  gossipBind := some " ::1\t"
  gossipPort := some "65536"
  httpTimeout := some "\u3000+0060"
  refreshInterval := some "0"
  statusClearDelay := none

/-- What they are resolved to, written down with other blanks. -/
def mixedAgain : RawSettings where
  gossipBind := some "\n::1"
  gossipPort := some "5000 "
  httpTimeout := some "60"
  refreshInterval := some " 10 "
  statusClearDelay := some "5\u2003"

theorem resolution_stable_mixed :
    resolve mixedTexts = ⟨"::1", 5000, 60, 10, 5⟩
      ∧ resolve mixedAgain = ⟨"::1", 5000, 60, 10, 5⟩ := by
  have hresolve : resolve mixedTexts = ⟨"::1", 5000, 60, 10, 5⟩ := by decide +kernel
  obtain ⟨-, -, -, -, -, -, hagain⟩ := resolution_stable mixedTexts
  refine ⟨hresolve, (hagain mixedAgain ?_).trans hresolve⟩
  rw [hresolve]
  exact ⟨⟨"\n", "", rfl, rfl, rfl⟩, ⟨"", " ", by decide +kernel, rfl, rfl⟩,
    ⟨"", "", by decide +kernel, rfl, rfl⟩, ⟨" ", " ", by decide +kernel, rfl, rfl⟩,
    ⟨"", "\u2003", by decide +kernel, rfl, rfl⟩⟩

end Settings

end TaskConsole
