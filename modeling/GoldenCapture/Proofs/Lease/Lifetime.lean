import GoldenCapture.Lease.Config
import GoldenCapture.Proofs.Lease.Record

/-!
# How long a stored record holds

A backend keeps the lifetime of a record as whole milliseconds in 64 bits and reads them back as a
signed number. So a record covers the renew deadline of the settings that it was written for exactly
if the deadline fits what is read back. Valid settings order the two durations as they are given,
which is not enough: it takes a lifetime that fits 63 bits, and a deadline that does not fall into
its last, cut off millisecond.
-/

namespace GoldenCapture

theorem Timestamp.exists_since_eq (t : Timestamp) (span : Nat) :
    ∃ later : Timestamp, later.since t = span := by
  obtain ⟨nanos, leap⟩ := t
  cases leap with
  | false =>
    refine ⟨⟨nanos + span, false⟩, ?_⟩
    rw [since_eq rfl rfl]
    dsimp only
    omega
  | true =>
    -- The leap second of `t` drops out of the distance unless the time of day has gone past it.
    obtain hbefore | hsame | hafter :=
      Int.lt_trichotomy (secondOfDay ⟨nanos + span, false⟩) (secondOfDay ⟨nanos, true⟩)
    · refine ⟨⟨nanos + span + nanosPerSecond, false⟩, ?_⟩
      have hnext : secondOfDay ⟨nanos + span + nanosPerSecond, false⟩ ≤
          secondOfDay ⟨nanos, true⟩ := by
        simp only [secondOfDay, seconds, nanosPerSecond, secondsPerDay] at hbefore ⊢
        omega
      simp only [since, leapCounts, Bool.false_and, Bool.true_and, hnext, decide_true, if_true,
        Bool.false_eq_true, if_false]
      omega
    · refine ⟨⟨nanos + span, true⟩, ?_⟩
      have hsod : secondOfDay ⟨nanos + span, true⟩ = secondOfDay ⟨nanos, true⟩ := hsame
      simp only [since, leapCounts, Bool.true_and, hsod, Int.le_refl, decide_true, if_true]
      omega
    · refine ⟨⟨nanos + span, false⟩, ?_⟩
      simp only [since, leapCounts, Bool.false_and, Bool.true_and, Int.not_le.mpr hafter,
        decide_false, Bool.false_eq_true, if_false]
      omega

namespace LeaseRecord

variable {r : LeaseRecord} {holder : String} {ttl : Nat} {now : Timestamp}

/-- A record that a grant or an extension gives to `holder`, whatever was there before. -/
def Given (r : LeaseRecord) (holder : String) (ttl : Nat) (now : Timestamp) : Prop :=
  ∃ existing, grant? existing holder ttl now = some r ∨ extend? existing holder ttl now = some r

/-- Throughout `span` from `start` on, `holder` holds the record and nobody else is granted it. -/
def Covers (r : LeaseRecord) (holder : String) (start : Timestamp) (span : Nat) : Prop :=
  ∀ later : Timestamp, 0 ≤ later.since start → later.since start ≤ span →
    r.isHeldBy holder later = true ∧
    ∀ other ttl, other ≠ holder → grant? (some r) other ttl later = none

def readBack (ttl : Nat) : Int := Int.bmod (Duration.millis ttl) (Nat.pow 2 64) * 1000000

theorem lifetime_eq_readBack (hr : r.ttlMillis = storedMillis ttl) :
    r.lifetime = readBack ttl := by
  have hsigned : (storedMillis ttl).toInt64.toInt =
      Int.bmod (Duration.millis ttl) (Nat.pow 2 64) := by
    rw [storedMillis, UInt64.toInt64_ofNat']
    exact Int64.toInt_ofNat'
  unfold lifetime readBack
  rw [hr, hsigned]

theorem readBack_of_storable (h : Storable ttl) : readBack ttl = storedSpan ttl := by
  rw [← lifetime_eq_readBack (r := fresh "" ttl default) rfl, lifetime_eq rfl h]

theorem le_storedSpan {deadline : Nat} (hlt : deadline < ttl)
    (h : 1000000 ∣ ttl ∨ deadline + 1000000 ≤ ttl) : deadline ≤ storedSpan ttl := by
  rw [storedSpan, Duration.ofMillis, Duration.millis]
  omega

theorem Given.stamped (h : r.Given holder ttl now) :
    r.holder = holder ∧ r.renewedAt = now ∧ r.ttlMillis = storedMillis ttl := by
  have hrenewed : ∀ old : LeaseRecord, old.isHeldBy holder now = true →
      (old.renewed ttl now).holder = holder := fun old hold => (isHeldBy_iff.mp hold).1
  obtain ⟨existing, hgrant | hextend⟩ := h
  · obtain ⟨old, -, hheld, heq⟩ | ⟨-, heq⟩ | ⟨old, -, -, -, heq⟩ :=
      grant?_cases existing holder ttl now
    · rw [heq] at hgrant
      cases hgrant
      exact ⟨hrenewed old hheld, rfl, rfl⟩
    · rw [heq] at hgrant
      cases hgrant
      exact ⟨rfl, rfl, rfl⟩
    · rw [heq] at hgrant
      cases hgrant
  · obtain ⟨old, -, hheld, heq⟩ | ⟨-, heq⟩ := extend?_cases existing holder ttl now
    · rw [heq] at hextend
      cases hextend
      exact ⟨hrenewed old hheld, rfl, rfl⟩
    · rw [heq] at hextend
      cases hextend

theorem grant?_eq_none {later : Timestamp} {other : String} (hheld : r.isHeldBy holder later = true)
    (hother : other ≠ holder) : grant? (some r) other ttl later = none := by
  obtain ⟨hholder, hexp⟩ := isHeldBy_iff.mp hheld
  have hnot : r.isHeldBy other later = false := by
    simp [isHeldBy, hholder, hother.symm]
  simp [grant?, hnot, hexp]

theorem Given.covers_iff (h : r.Given holder ttl now) (span : Nat) :
    r.Covers holder now span ↔ (span : Int) ≤ readBack ttl := by
  obtain ⟨hholder, hnow, hmillis⟩ := h.stamped
  have hheld : ∀ later : Timestamp,
      r.isHeldBy holder later = true ↔ later.since now ≤ readBack ttl := by
    intro later
    simp [isHeldBy_iff, hholder, isExpired, hnow, lifetime_eq_readBack hmillis]
  constructor
  · intro hcovers
    obtain ⟨last, hlast⟩ := now.exists_since_eq span
    have hatEnd := (hcovers last (by omega) (by omega)).1
    rw [hheld, hlast] at hatEnd
    exact hatEnd
  · intro hfits later _ hspan
    have hlater := (hheld later).mpr (by omega)
    exact ⟨hlater, fun other ttl hother => grant?_eq_none hlater hother⟩

/-- Under valid settings a record covers the renew deadline exactly if the deadline fits what is
read back of the lifetime. It does if the milliseconds fit 63 bits and either none is cut off or the
deadline keeps a millisecond away from the end. -/
theorem covers_renewDeadline_iff {c : LeaseConfig} (hvalid : c.validate = .ok ())
    (hgiven : r.Given holder c.ttl now) :
    (r.Covers holder now c.renewDeadline ↔ (c.renewDeadline : Int) ≤ readBack c.ttl) ∧
    (Storable c.ttl → (1000000 ∣ c.ttl ∨ c.renewDeadline + 1000000 ≤ c.ttl) →
      r.Covers holder now c.renewDeadline) := by
  have hiff := hgiven.covers_iff c.renewDeadline
  refine ⟨hiff, fun hstorable hroom => ?_⟩
  have hproblem : c.problem? = none := by
    rw [LeaseConfig.validate] at hvalid
    split at hvalid
    · cases hvalid
    · assumption
  obtain ⟨-, -, -, hlt⟩ := LeaseConfig.problem?_eq_none_iff.mp hproblem
  have hle := le_storedSpan hlt hroom
  rw [hiff, readBack_of_storable hstorable]
  omega

/-- Settings with a lifetime of ten and nine tenths milliseconds, and a record for them that is
given in a leap second. -/
theorem covers_renewDeadline_iff_close :
    let c : LeaseConfig :=
      { key := "env", ttl := 10900000, renewDeadline := 9900000, retryPeriod := 1000000 }
    let now : Timestamp := ⟨1483228799500000000, true⟩
    c.validate = .ok () ∧ (fresh "a" c.ttl now).Given "a" c.ttl now ∧
      (fresh "a" c.ttl now).Covers "a" now c.renewDeadline := by
  intro c now
  have hvalid : c.validate = .ok () := rfl
  have hgiven : (fresh "a" c.ttl now).Given "a" c.ttl now := ⟨none, .inl rfl⟩
  have hroom : 1000000 ∣ c.ttl ∨ c.renewDeadline + 1000000 ≤ c.ttl := .inr (by decide)
  exact ⟨hvalid, hgiven, (covers_renewDeadline_iff hvalid hgiven).2 (by decide) hroom⟩

/-- Valid settings whose records do not last up to the renew deadline: a lifetime past 63 bits is
over before it starts, and one that ends within a millisecond loses that millisecond. -/
theorem expired_within_renewDeadline :
    let long : LeaseConfig := { key := "env", ttl := Duration.ofMillis (Nat.pow 2 63 + 1) }
    let short : LeaseConfig :=
      { key := "env", ttl := 10900000, renewDeadline := 10500000, retryPeriod := 2000000 }
    let now : Timestamp := .ofNanos 0
    let later : Timestamp := .ofNanos 10400000
    (long.validate = .ok () ∧ grant? none "a" long.ttl now = some (fresh "a" long.ttl now) ∧
      (fresh "a" long.ttl now).isHeldBy "a" now = false) ∧
    (short.validate = .ok () ∧ grant? none "a" short.ttl now = some (fresh "a" short.ttl now) ∧
      later.since now < short.renewDeadline ∧
      (fresh "a" short.ttl now).isHeldBy "a" later = false) := by
  refine ⟨⟨rfl, rfl, by decide⟩, rfl, rfl, by decide, by decide⟩

end LeaseRecord

end GoldenCapture
