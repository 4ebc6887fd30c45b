import TaskConsole.Proofs.NumberValues
import TaskConsole.Proofs.SilentSenders

/-! # Announced ports — exact, or zero

    A scheduler announces its port as a number, and nothing keeps a sender from putting any
    other value there.  A number from zero to below 65536 is the port without its fraction
    (`Offers.exact`), and every other value leaves the port zero (`Offers.zero`): no number
    is so large or so small that another port is made of it. -/

namespace TaskConsole

namespace Announcement

variable {service : Json.Members} {port : UInt16} {n : Json.Number}

/-- A number is below the end of the range exactly if its whole part is. -/
theorem truncate_lt_iff (hlow : 0 ≤ n.value) : n.truncate < 65536 ↔ n.value < 65536 := by
  rw [n.truncate_eq, wholePart_of_nonneg hlow, Int.floor_lt]
  norm_num

/-- **A NUMBER IN THE RANGE** is the port that is offered, but for its fraction. -/
theorem Offers.exact (h : Offers service port)
    (hn : Json.lookup "port" service = some (.number n)) (hlow : 0 ≤ n.value)
    (hhigh : n.value < 65536) : (port.toNat : ℤ) = ⌊n.value⌋ := by
  have hfloor : n.truncate = ⌊n.value⌋ := n.truncate_eq.trans (wholePart_of_nonneg hlow)
  rcases h with ⟨m, hm, hport⟩ | ⟨-, hnone⟩
  · cases hn.symm.trans hm
    rw [← hport, hfloor]
  · have hrange := (truncate_lt_iff hlow).mpr hhigh
    have hnonneg : 0 ≤ n.truncate := hfloor ▸ Int.floor_nonneg.mpr hlow
    rcases hnone n hn with hneg | hlarge
    · exact absurd hneg hnonneg.not_gt
    · exact absurd hrange hlarge.not_gt

/-- **EVERY OTHER VALUE** offers no port. -/
theorem Offers.zero (h : Offers service port) (hout : ∀ n,
    Json.lookup "port" service = some (.number n) → n.value < 0 ∨ 65536 ≤ n.value) :
    port = 0 := by
  rcases h with ⟨n, hn, hport⟩ | ⟨hzero, -⟩
  · have hlt := port.toNat_lt
    rw [n.truncate_eq] at hport
    rcases hout n hn with hneg | hlarge
    · -- what is below zero is cut to zero at most
      have hle := wholePart_mono (hneg.le.trans_eq Int.cast_zero.symm)
      rw [wholePart_intCast, hport] at hle
      exact UInt16.toNat_inj.mp (by rw [UInt16.toNat_zero]; omega)
    · have hle := wholePart_mono ((by norm_num : ((65536 : ℤ) : ℚ) = 65536).trans_le hlarge)
      rw [wholePart_intCast, hport] at hle
      omega
  · exact hzero

/-- **PORTS ARE EXACT OR ZERO.** -/
theorem ports_exact_or_zero {bytes : List UInt8} {sender : Address} {now : Timestamp}
    {a : Announcement} (h : decode? bytes sender now = some a) :
    ∃ service, Announces bytes service
      -- a number from zero to below 65536 is the port, without its fraction
      ∧ (∀ n, Json.lookup "port" service = some (.number n) → 0 ≤ n.value → n.value < 65536 →
        (a.port.toNat : ℤ) = ⌊n.value⌋)
      -- for every other value, and for none, the port is zero
      ∧ ((∀ n, Json.lookup "port" service = some (.number n) →
        n.value < 0 ∨ 65536 ≤ n.value) → a.port = 0)
      -- so a port is only ever made of a number with just that whole part
      ∧ (a.port ≠ 0 → ∃ n, Json.lookup "port" service = some (.number n)
        ∧ 0 ≤ n.value ∧ n.value < 65536 ∧ ⌊n.value⌋ = a.port.toNat)
      -- and all that is so though a number is rounded and cut to 64 bits on the way
      ∧ ∀ n, Json.lookup "port" service = some (.number n) → a.port = n.port?.getD 0 := by
  obtain ⟨service, hservice, rfl⟩ := decode?_eq_some_iff.mp h
  have hoffers : Offers service (ofMembers sender now service).port := getD_port?_eq_iff.mp rfl
  refine ⟨service, hservice, fun n => hoffers.exact, hoffers.zero, ?_, ?_⟩
  · intro hne
    by_contra hnone
    refine hne (hoffers.zero fun n hn => ?_)
    by_contra hrange
    obtain ⟨hlow, hhigh⟩ := not_or.mp hrange
    exact hnone ⟨n, hn, not_lt.mp hlow, not_le.mp hhigh,
      (hoffers.exact hn (not_lt.mp hlow) (not_le.mp hhigh)).symm⟩
  · exact fun n hn => ((offers_of_number hn).mp hoffers).symm

/-- A datagram with the greatest port and a fraction. -/
def fractionDatagram : List UInt8 :=
  "\x7b\"type\":\"web_service\",\"service\":\x7b\"port\":65535.9\x7d\x7d".toList.flatMap
    String.utf8EncodeChar

/-- That number, as near as a binary one comes to it. -/
def fractionPort : Binary64 := ⟨false, 9007185510845645, -37, by decide, by decide⟩

/-- The fraction is cut off. -/
theorem ports_exact_or_zero_fraction :
    ∃ a, decode? fractionDatagram neighbour Registry.firstDay = some a ∧ a.port = 65535 := by
  have hservice : serviceMembers? fractionDatagram
      = some [("port", .number (.binary fractionPort))] := rfl
  have hread : decode? fractionDatagram neighbour Registry.firstDay = some (ofMembers neighbour
      Registry.firstDay [("port", .number (.binary fractionPort))]) :=
    congrArg (Option.map _) hservice
  have hvalue : (Json.Number.binary fractionPort).value = 9007185510845645 / 137438953472 := by
    norm_num [Json.Number.value, Binary64.value, Binary64.magnitude, fractionPort]
  obtain ⟨service, hannounces, hexact, -⟩ := ports_exact_or_zero hread
  cases (serviceMembers?_eq_some_iff.mpr hannounces).symm.trans hservice
  have hport := hexact _ rfl (by rw [hvalue]; norm_num) (by rw [hvalue]; norm_num)
  rw [hvalue, show ⌊(9007185510845645 / 137438953472 : ℚ)⌋ = 65535 by norm_num] at hport
  exact ⟨_, hread, UInt16.toNat_inj.mp (Int.natCast_inj.mp hport)⟩

end Announcement

end TaskConsole
