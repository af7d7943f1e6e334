import GoldenCapture.Lease.Table

/-!
# Lifetimes and grants

When a lease record has expired, and what a grant and an extension make of it. The clock has no
leap seconds, and the milliseconds of a lifetime fit the signed 64 bits in which they are compared.
-/

namespace GoldenCapture

def Timestamp.ofNanos (nanos : Int) : Timestamp := ⟨nanos, false⟩

@[simp] theorem Timestamp.since_ofNanos (later earlier : Int) :
    (ofNanos later).since (ofNanos earlier) = later - earlier :=
  since_eq rfl rfl

namespace LeaseRecord

variable {r : LeaseRecord} {holder : String} {ttl : Nat}

/-! ## Lifetimes -/

/-- The milliseconds of a lifetime keep their value when they are read as signed. -/
def Storable (ttl : Nat) : Prop := Duration.millis ttl < Nat.pow 2 63

instance (ttl : Nat) : Decidable (Storable ttl) :=
  inferInstanceAs (Decidable (Duration.millis ttl < Nat.pow 2 63))

def storedSpan (ttl : Nat) : Nat := Duration.ofMillis (Duration.millis ttl)

/-- Lifetimes of whole milliseconds that fit 63 bits. -/
def Whole (ttl : Nat) : Prop := ∃ ms, ttl = Duration.ofMillis ms ∧ ms < Nat.pow 2 63

theorem Whole.storable (h : Whole ttl) : Storable ttl := by
  obtain ⟨ms, rfl, hms⟩ := h
  rw [Storable, Duration.millis, Duration.ofMillis]
  omega

theorem Whole.storedSpan_eq (h : Whole ttl) : storedSpan ttl = ttl := by
  obtain ⟨ms, rfl, -⟩ := h
  rw [storedSpan, Duration.millis, Duration.ofMillis, Duration.ofMillis]
  omega

theorem lifetime_eq (hr : r.ttlMillis = storedMillis ttl) (h : Storable ttl) :
    r.lifetime = storedSpan ttl := by
  have hsigned : (storedMillis ttl).toInt64.toInt = Duration.millis ttl := by
    have hbound : Duration.millis ttl < 2 ^ 63 := h
    rw [storedMillis, UInt64.toInt64_ofNat', Int64.toInt_ofNat_of_lt hbound]
  rw [lifetime, hr, hsigned, storedSpan, Duration.ofMillis]
  omega

theorem isExpired_iff (hr : r.ttlMillis = storedMillis ttl) (h : Storable ttl) {since now : Int}
    (hsince : r.renewedAt = .ofNanos since) :
    r.isExpired (.ofNanos now) = true ↔ storedSpan ttl < now - since := by
  simp [isExpired, lifetime_eq hr h, hsince]

theorem isHeldBy_iff {now : Timestamp} :
    r.isHeldBy holder now = true ↔ r.holder = holder ∧ r.isExpired now = false := by
  simp [isHeldBy]

theorem isExpired_mono {since now later : Int} (hsince : r.renewedAt = .ofNanos since)
    (hle : now ≤ later) (h : r.isExpired (.ofNanos now) = true) :
    r.isExpired (.ofNanos later) = true := by
  simp only [isExpired, hsince, Timestamp.since_ofNanos, decide_eq_true_eq] at h ⊢
  omega

/-! ## Grants and extensions -/

section

variable (existing : Option LeaseRecord) (holder : String) (ttl : Nat) (now : Timestamp)

theorem grant?_cases :
    (∃ r, existing = some r ∧ r.isHeldBy holder now = true ∧
      grant? existing holder ttl now = some (r.renewed ttl now)) ∨
    ((∀ r, existing = some r → r.isExpired now = true) ∧
      grant? existing holder ttl now = some (fresh holder ttl now)) ∨
    (∃ r, existing = some r ∧ r.holder ≠ holder ∧ r.isExpired now = false ∧
      grant? existing holder ttl now = none) := by
  cases existing with
  | none => exact .inr (.inl ⟨by simp, rfl⟩)
  | some r =>
    by_cases hheld : r.isHeldBy holder now = true
    · exact .inl ⟨r, rfl, hheld, by simp [grant?, hheld]⟩
    · by_cases hexp : r.isExpired now = true
      · refine .inr (.inl ⟨?_, by simp [grant?, hheld, hexp]⟩)
        rintro _ ⟨⟩
        exact hexp
      · refine .inr (.inr ⟨r, rfl, ?_, by simpa using hexp, by simp [grant?, hheld, hexp]⟩)
        intro hholder
        exact hheld (isHeldBy_iff.mpr ⟨hholder, by simpa using hexp⟩)

theorem extend?_cases :
    (∃ r, existing = some r ∧ r.isHeldBy holder now = true ∧
      extend? existing holder ttl now = some (r.renewed ttl now)) ∨
    ((∀ r, existing = some r → r.isHeldBy holder now = false) ∧
      extend? existing holder ttl now = none) := by
  cases existing with
  | none => exact .inr ⟨by simp, rfl⟩
  | some r =>
    by_cases hheld : r.isHeldBy holder now = true
    · exact .inl ⟨r, rfl, hheld, by simp [extend?, hheld]⟩
    · refine .inr ⟨?_, by simp [extend?, hheld]⟩
      rintro _ ⟨⟩
      simpa using hheld

end

end LeaseRecord

/-! ## Tables -/

theorem LeaseCall.stored_fst (record : Option LeaseRecord) :
    (stored record).1 = record.isSome := by
  cases record <;> rfl

theorem LeaseTable.get?_call {α : Type} (t : LeaseTable) (c : LeaseCall α) (now : Timestamp)
    (key : String) :
    (t.call c now).2.get? key =
      if key = c.key then (c.decide (t.get? c.key) now).2.apply (t.get? c.key)
      else t.get? key := by
  simp only [call, get?_change]

end GoldenCapture
