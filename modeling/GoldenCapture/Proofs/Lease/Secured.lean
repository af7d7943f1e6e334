import GoldenCapture.Proofs.Lease.Rivalry

/-!
# Secured leases

What a granted attempt or renewal is worth: a record of the holder that nobody can cut short before
the lifetime is over, except the holder by a release or by asking for another lifetime.
-/

namespace GoldenCapture

/-- A success took effect at `since`. As long as the lifetime lasts from then on, the table has a
record of the holder that was renewed at `since` or later. -/
structure Secured (origin : Int) (key holder : String) (ttl since now : Nat) (t : LeaseTable) :
    Prop where
  past : since ≤ now
  kept : now ≤ since + ttl → ∃ r renewed, t.get? key = some r ∧ r.holder = holder ∧
    r.ttlMillis = LeaseRecord.storedMillis ttl ∧ since ≤ renewed ∧
    r.renewedAt = clockFrom origin renewed

/-- A call that cannot cut a secured lease short: no release by its holder, and no attempt or
renewal of its holder with another lifetime. -/
def Harmless {α : Type} (key holder : String) (ttl : Nat) : LeaseCall α → Prop
  | .tryAcquire k h span | .renew k h span => k = key → h = holder → span = ttl
  | .release k h => k = key → h ≠ holder
  | .currentHolder _ => True

theorem LeaseCall.By.harmless {α : Type} {c : LeaseCall α} {key holder other : String} {ttl : Nat}
    (h : c.By other) (hne : other ≠ holder) : Harmless key holder ttl c := by
  cases c with
  | tryAcquire k h' span =>
    intro _ heq
    exact absurd (h.symm.trans heq) hne
  | renew k h' span =>
    intro _ heq
    exact absurd (h.symm.trans heq) hne
  | release k h' =>
    intro _ heq
    exact absurd (h.symm.trans heq) hne
  | currentHolder k => trivial

section

variable {origin : Int} {key holder : String} {ttl since now : Nat} {t : LeaseTable}

theorem not_isExpired_of_renewed (hwhole : LeaseRecord.Whole ttl) {r : LeaseRecord} {renewed : Nat}
    (hr : r.ttlMillis = LeaseRecord.storedMillis ttl) (hsince : since ≤ renewed)
    (hrenewed : r.renewedAt = clockFrom origin renewed) (hnow : now ≤ since + ttl) :
    r.isExpired (clockFrom origin now) = false := by
  rw [Bool.eq_false_iff, ne_eq, clockFrom, LeaseRecord.isExpired_iff hr hwhole.storable hrenewed,
    hwhole.storedSpan_eq]
  omega

theorem Secured.later (h : Secured origin key holder ttl since now t) {later : Nat}
    (hle : now ≤ later) : Secured origin key holder ttl since later t :=
  ⟨Nat.le_trans h.past hle, fun hlater => h.kept (Nat.le_trans hle hlater)⟩

theorem Secured.call (hwhole : LeaseRecord.Whole ttl)
    (h : Secured origin key holder ttl since now t) {α : Type} (c : LeaseCall α)
    (hc : Harmless key holder ttl c) :
    Secured origin key holder ttl since now (t.call c (clockFrom origin now)).2 := by
  refine ⟨h.past, fun hnow => ?_⟩
  obtain ⟨r, renewed, hget, hholder, httl, hren, hrenewed⟩ := h.kept hnow
  have hlive : r.isExpired (clockFrom origin now) = false :=
    not_isExpired_of_renewed hwhole httl hren hrenewed hnow
  rw [LeaseTable.get?_call]
  by_cases hkey : key = c.key
  · rw [if_pos hkey, ← hkey, hget]
    cases c with
    | tryAcquire k h' span =>
      rcases LeaseRecord.grant?_cases (some r) h' span (clockFrom origin now) with
        ⟨_, ⟨⟩, hheld, hgrant⟩ | ⟨hexp, -⟩ | ⟨_, ⟨⟩, -, -, hgrant⟩
      · -- The holder itself asks again, and its record is renewed.
        have hspan := hc hkey.symm ((LeaseRecord.isHeldBy_iff.mp hheld).1.symm.trans hholder)
        rw [LeaseCall.decide, hgrant]
        exact ⟨_, now, rfl, hholder, by rw [← hspan]; rfl, h.past, rfl⟩
      · rw [hexp r rfl] at hlive
        contradiction
      · rw [LeaseCall.decide, hgrant]
        exact ⟨r, renewed, rfl, hholder, httl, hren, hrenewed⟩
    | renew k h' span =>
      rcases LeaseRecord.extend?_cases (some r) h' span (clockFrom origin now) with
        ⟨_, ⟨⟩, hheld, hextend⟩ | ⟨-, hextend⟩
      · have hspan := hc hkey.symm ((LeaseRecord.isHeldBy_iff.mp hheld).1.symm.trans hholder)
        rw [LeaseCall.decide, hextend]
        exact ⟨_, now, rfl, hholder, by rw [← hspan]; rfl, h.past, rfl⟩
      · rw [LeaseCall.decide, hextend]
        exact ⟨r, renewed, rfl, hholder, httl, hren, hrenewed⟩
    | release k h' =>
      have hother : (r.holder == h') = false := by
        rw [beq_eq_false_iff_ne, hholder]
        exact (hc hkey.symm).symm
      rw [LeaseCall.decide, Option.any_some, hother]
      exact ⟨r, renewed, rfl, hholder, httl, hren, hrenewed⟩
    | currentHolder k => exact ⟨r, renewed, rfl, hholder, httl, hren, hrenewed⟩
  · rw [if_neg hkey]
    exact ⟨r, renewed, hget, hholder, httl, hren, hrenewed⟩

theorem Secured.movedBy (hwhole : LeaseRecord.Whole ttl)
    (h : Secured origin key holder ttl since now t) {other : String} (hne : other ≠ holder)
    {t' : LeaseTable}
    (hmoved : MovedBy origin now other t t') : Secured origin key holder ttl since now t' := by
  rcases hmoved with rfl | ⟨α, c, hc, rfl⟩
  · exact h
  · exact h.call hwhole c (hc.harmless hne)

theorem Secured.send_renew (hwhole : LeaseRecord.Whole ttl)
    (h : Secured origin key holder ttl since now t) {b : LeaseBackend LeaseTable}
    (hb : b.Atomic origin) :
    Secured origin key holder ttl since now
      (Coordinator.send b (.renew key holder ttl) now t).2 := by
  rcases hb.send_effect (.renew key holder ttl) now t with htable | htable
  · rw [htable]
    exact h
  · rw [htable]
    exact h.call hwhole _ fun _ _ => rfl

theorem secured_of_granted
    (h : (t.call (.tryAcquire key holder ttl) (clockFrom origin now)).1 = true) :
    Secured origin key holder ttl now now
      (t.call (.tryAcquire key holder ttl) (clockFrom origin now)).2 := by
  refine ⟨Nat.le_refl now, fun _ => ?_⟩
  simp only [LeaseTable.get?_call, LeaseCall.key, if_true, LeaseCall.decide]
  rcases LeaseRecord.grant?_cases (t.get? key) holder ttl (clockFrom origin now) with
    ⟨r, -, hheld, hgrant⟩ | ⟨-, hgrant⟩ | ⟨_, -, -, -, hgrant⟩
  · have hholder : r.holder = holder := (LeaseRecord.isHeldBy_iff.mp hheld).1
    rw [hgrant]
    exact ⟨_, now, rfl, hholder, rfl, Nat.le_refl now, rfl⟩
  · rw [hgrant]
    exact ⟨_, now, rfl, rfl, rfl, Nat.le_refl now, rfl⟩
  · simp [LeaseTable.call, LeaseCall.key, LeaseCall.decide, LeaseCall.stored, hgrant] at h

theorem secured_of_extended
    (h : (t.call (.renew key holder ttl) (clockFrom origin now)).1 = true) :
    Secured origin key holder ttl now now
      (t.call (.renew key holder ttl) (clockFrom origin now)).2 := by
  refine ⟨Nat.le_refl now, fun _ => ?_⟩
  simp only [LeaseTable.get?_call, LeaseCall.key, if_true, LeaseCall.decide]
  rcases LeaseRecord.extend?_cases (t.get? key) holder ttl (clockFrom origin now) with
    ⟨r, -, hheld, hextend⟩ | ⟨-, hextend⟩
  · have hholder : r.holder = holder := (LeaseRecord.isHeldBy_iff.mp hheld).1
    rw [hextend]
    exact ⟨_, now, rfl, hholder, rfl, Nat.le_refl now, rfl⟩
  · simp [LeaseTable.call, LeaseCall.key, LeaseCall.decide, LeaseCall.stored, hextend] at h

end

end GoldenCapture
