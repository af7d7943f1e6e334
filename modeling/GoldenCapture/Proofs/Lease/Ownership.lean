import GoldenCapture.Proofs.Lease.Record

/-!
# Ownership

Who owns a lease, told by the answers alone: whoever last had a success that has neither run out
nor been given back. The table, which keeps one record per key, agrees with that at every instant.
-/

namespace GoldenCapture

/-! ## Histories -/

/-- A call with its answer and the instant at which it took effect. -/
structure LeaseEvent where
  {α : Type}
  call : LeaseCall α
  answer : α
  instant : Int

/-- What an event says about one holder and one key. -/
inductive Bearing where
  /-- A granted attempt or renewal. -/
  | success (ttl : Nat)
  | release
  | nothing
deriving DecidableEq, Repr

namespace LeaseEvent

def bearing (e : LeaseEvent) (holder key : String) : Bearing :=
  match e with
  | ⟨.tryAcquire k h ttl, granted, _⟩ =>
    if k = key ∧ h = holder ∧ granted = true then .success ttl else .nothing
  | ⟨.renew k h ttl, granted, _⟩ =>
    if k = key ∧ h = holder ∧ granted = true then .success ttl else .nothing
  | ⟨.release k h, _, _⟩ => if k = key ∧ h = holder then .release else .nothing
  | ⟨.currentHolder _, _, _⟩ => .nothing

end LeaseEvent

/-- The latest success of a holder with its instant and its lifetime, unless a release came after
it. Histories begin with their latest event. -/
def lastSuccess? (holder key : String) : List LeaseEvent → Option (Int × Nat)
  | [] => none
  | e :: earlier =>
    match e.bearing holder key with
    | .success ttl => some (e.instant, ttl)
    | .release => none
    | .nothing => lastSuccess? holder key earlier

/-- At `now` the lifetime of the latest success is not over. -/
def Owns (history : List LeaseEvent) (holder key : String) (now : Int) : Prop :=
  ∃ since ttl, lastSuccess? holder key history = some (since, ttl) ∧ since ≤ now ∧
    now - since ≤ LeaseRecord.storedSpan ttl

instance (history : List LeaseEvent) (holder key : String) (now : Int) :
    Decidable (Owns history holder key now) :=
  match h : lastSuccess? holder key history with
  | none => isFalse fun ⟨_, _, hlast, _⟩ => by simp [h] at hlast
  | some (since, ttl) =>
    decidable_of_iff (since ≤ now ∧ now - since ≤ LeaseRecord.storedSpan ttl)
      ⟨fun hspan => ⟨since, ttl, h, hspan⟩, fun ⟨_, _, hlast, hspan⟩ => by
        rw [h] at hlast
        cases hlast
        exact hspan⟩

def Past (history : List LeaseEvent) (now : Int) : Prop := ∀ e ∈ history, e.instant ≤ now

instance (history : List LeaseEvent) (now : Int) : Decidable (Past history now) :=
  inferInstanceAs (Decidable (∀ e ∈ history, e.instant ≤ now))

/-- The holder came to own the key at `start`, when it did not own it yet, and has owned it right
before and right after every event since. -/
inductive OwnsSince (holder key : String) (start : Int) : List LeaseEvent → Prop
  | success {e : LeaseEvent} {earlier : List LeaseEvent} {ttl : Nat}
      (h : e.bearing holder key = .success ttl) (hstart : e.instant = start)
      (hfree : ¬ Owns earlier holder key start) : OwnsSince holder key start (e :: earlier)
  | later {e : LeaseEvent} {earlier : List LeaseEvent} (h : OwnsSince holder key start earlier)
      (hbefore : Owns earlier holder key e.instant)
      (hafter : Owns (e :: earlier) holder key e.instant) :
      OwnsSince holder key start (e :: earlier)

/-- The lifetime of a call keeps its value in a record. -/
def LeaseCall.Storable {α : Type} : LeaseCall α → Prop
  | .tryAcquire _ _ ttl | .renew _ _ ttl => LeaseRecord.Storable ttl
  | .release _ _ | .currentHolder _ => True

instance {α : Type} : (c : LeaseCall α) → Decidable c.Storable
  | .tryAcquire _ _ ttl => inferInstanceAs (Decidable (LeaseRecord.Storable ttl))
  | .renew _ _ ttl => inferInstanceAs (Decidable (LeaseRecord.Storable ttl))
  | .release _ _ => isTrue trivial
  | .currentHolder _ => isTrue trivial

/-- Any calls one after the other, from an empty table. Each takes effect at an instant that does
not come before those of the calls before it. -/
inductive LeaseTable.Run : List LeaseEvent → LeaseTable → Prop
  | start : Run [] {}
  | call {history : List LeaseEvent} {t : LeaseTable} (h : Run history t) {α : Type}
      (c : LeaseCall α) (hc : c.Storable) (now : Int) (hnow : Past history now) :
      Run (⟨c, (t.call c (.ofNanos now)).1, now⟩ :: history) (t.call c (.ofNanos now)).2

section

variable {history : List LeaseEvent} {e : LeaseEvent} {holder key : String} {now : Int}

theorem lastSuccess?_of_success {ttl : Nat} (h : e.bearing holder key = .success ttl) :
    lastSuccess? holder key (e :: history) = some (e.instant, ttl) := by
  rw [lastSuccess?, h]

theorem lastSuccess?_of_release (h : e.bearing holder key = .release) :
    lastSuccess? holder key (e :: history) = none := by
  rw [lastSuccess?, h]

theorem lastSuccess?_of_nothing (h : e.bearing holder key = .nothing) :
    lastSuccess? holder key (e :: history) = lastSuccess? holder key history := by
  rw [lastSuccess?, h]

theorem instant_le_of_lastSuccess? {since : Int} {ttl : Nat} (hnow : Past history now)
    (h : lastSuccess? holder key history = some (since, ttl)) : since ≤ now := by
  induction history with
  | nil => contradiction
  | cons e earlier ih =>
    cases hb : e.bearing holder key with
    | success ttl' =>
      rw [lastSuccess?_of_success hb, Option.some.injEq, Prod.mk.injEq] at h
      rw [← h.1]
      exact hnow e List.mem_cons_self
    | release =>
      rw [lastSuccess?_of_release hb] at h
      contradiction
    | nothing =>
      rw [lastSuccess?_of_nothing hb] at h
      exact ih (fun x hx => hnow x (List.mem_cons_of_mem e hx)) h

theorem owns_of_success {ttl : Nat} (h : e.bearing holder key = .success ttl) :
    Owns (e :: history) holder key e.instant :=
  ⟨e.instant, ttl, lastSuccess?_of_success h, Int.le_refl _, by omega⟩

theorem not_owns_of_release (h : e.bearing holder key = .release) :
    ¬ Owns (e :: history) holder key now := by
  rintro ⟨since, ttl, hlast, -⟩
  rw [lastSuccess?_of_release h] at hlast
  contradiction

theorem owns_of_nothing (h : e.bearing holder key = .nothing) :
    Owns (e :: history) holder key now ↔ Owns history holder key now := by
  unfold Owns
  rw [lastSuccess?_of_nothing h]

theorem Owns.earlier (h : Owns history holder key now) {before : Int} (hpast : Past history before)
    (hle : before ≤ now) : Owns history holder key before := by
  obtain ⟨since, ttl, hlast, -, hspan⟩ := h
  exact ⟨since, ttl, hlast, instant_le_of_lastSuccess? hpast hlast, by omega⟩

theorem OwnsSince.unique {start other : Int} (h : OwnsSince holder key start history)
    (h' : OwnsSince holder key other history) : start = other := by
  induction h with
  | success hb hstart hfree =>
    cases h' with
    | success hb' hother hfree' => exact hstart.symm.trans hother
    | later h' hbefore hafter =>
      rw [hstart] at hbefore
      exact absurd hbefore hfree
  | later h hbefore hafter ih =>
    cases h' with
    | success hb' hother hfree' =>
      rw [hother] at hbefore
      exact absurd hbefore hfree'
    | later h' hbefore' hafter' => exact ih h'

end

/-! ## One key -/

/-- What a history and a record say about one key agrees. -/
structure Told (history : List LeaseEvent) (key : String) (record : Option LeaseRecord) :
    Prop where
  /-- The record is the latest success of its holder. -/
  recorded : ∀ r, record = some r → ∃ since ttl,
    lastSuccess? r.holder key history = some (since, ttl) ∧ LeaseRecord.Storable ttl ∧
      r.renewedAt = .ofNanos since ∧ r.ttlMillis = LeaseRecord.storedMillis ttl
  /-- An owner has the record. -/
  owned : ∀ holder now, Past history now → Owns history holder key now →
    ∃ r, record = some r ∧ r.holder = holder
  /-- As long as the record lasts, it tells when the ownership started. -/
  acquired : ∀ r, record = some r → ∃ start, r.acquiredAt = .ofNanos start ∧
    ∀ now, Past history now → r.isExpired (.ofNanos now) = false →
      OwnsSince r.holder key start history

namespace Told

variable {history : List LeaseEvent} {e : LeaseEvent} {holder key : String} {now : Int}
  {record : Option LeaseRecord} {r : LeaseRecord} {ttl : Nat}

theorem owns_iff (h : Told history key record) (hnow : Past history now) :
    Owns history holder key now ↔
      ∃ r, record = some r ∧ r.isHeldBy holder (.ofNanos now) = true := by
  constructor
  · intro howns
    obtain ⟨r, hr, rfl⟩ := h.owned holder now hnow howns
    obtain ⟨since, ttl, hlast, hstorable, hrenewed, httl⟩ := h.recorded r hr
    obtain ⟨_, _, hlast', -, hspan⟩ := howns
    rw [hlast] at hlast'
    cases hlast'
    refine ⟨r, hr, LeaseRecord.isHeldBy_iff.mpr ⟨rfl, ?_⟩⟩
    rw [Bool.eq_false_iff, ne_eq, LeaseRecord.isExpired_iff httl hstorable hrenewed]
    omega
  · rintro ⟨r, hr, hheld⟩
    obtain ⟨rfl, hlive⟩ := LeaseRecord.isHeldBy_iff.mp hheld
    obtain ⟨since, ttl, hlast, hstorable, hrenewed, httl⟩ := h.recorded r hr
    rw [Bool.eq_false_iff, ne_eq, LeaseRecord.isExpired_iff httl hstorable hrenewed] at hlive
    exact ⟨since, ttl, hlast, instant_le_of_lastSuccess? hnow hlast, by omega⟩

theorem live_earlier (h : Told history key record) (hr : record = some r) {later : Int}
    (hle : now ≤ later) (hlive : r.isExpired (.ofNanos later) = false) :
    r.isExpired (.ofNanos now) = false := by
  obtain ⟨since, ttl, -, -, hrenewed, -⟩ := h.recorded r hr
  rw [Bool.eq_false_iff, ne_eq] at hlive ⊢
  intro hexpired
  exact hlive (LeaseRecord.isExpired_mono hrenewed hle hexpired)

theorem keep (h : Told history key record) (hpast : Past history e.instant)
    (hkeep : ∀ holder, e.bearing holder key = .nothing ∨
      e.bearing holder key = .release ∧ ∀ r, record = some r → r.holder ≠ holder) :
    Told (e :: history) key record where
  recorded r hr := by
    rcases hkeep r.holder with hb | ⟨-, hother⟩
    · rw [lastSuccess?_of_nothing hb]
      exact h.recorded r hr
    · exact absurd rfl (hother r hr)
  owned holder now hnow howns := by
    rcases hkeep holder with hb | ⟨hb, -⟩
    · rw [owns_of_nothing hb] at howns
      exact h.owned holder now (fun x hx => hnow x (List.mem_cons_of_mem e hx)) howns
    · exact absurd howns (not_owns_of_release hb)
  acquired r hr := by
    obtain ⟨start, hstart, hsince⟩ := h.acquired r hr
    refine ⟨start, hstart, fun now hnow hlive => ?_⟩
    have hlive : r.isExpired (.ofNanos e.instant) = false :=
      h.live_earlier hr (hnow e List.mem_cons_self) hlive
    have howns : Owns history r.holder key e.instant :=
      (h.owns_iff hpast).mpr ⟨r, hr, LeaseRecord.isHeldBy_iff.mpr ⟨rfl, hlive⟩⟩
    rcases hkeep r.holder with hb | ⟨-, hother⟩
    · exact .later (hsince e.instant hpast hlive) howns ((owns_of_nothing hb).mpr howns)
    · exact absurd rfl (hother r hr)

theorem success {r' : LeaseRecord} (h : Told history key record)
    (hpast : Past history e.instant) (hstorable : LeaseRecord.Storable ttl)
    (hb : e.bearing holder key = .success ttl)
    (hothers : ∀ other, other ≠ holder → e.bearing other key = .nothing)
    (hr' : (∃ r, record = some r ∧ r.isHeldBy holder (.ofNanos e.instant) = true ∧
        r' = r.renewed ttl (.ofNanos e.instant)) ∨
      (∀ r, record = some r → r.isExpired (.ofNanos e.instant) = true) ∧
        r' = .fresh holder ttl (.ofNanos e.instant)) :
    Told (e :: history) key (some r') := by
  have hholder : r'.holder = holder := by
    rcases hr' with ⟨r, -, hheld, rfl⟩ | ⟨-, rfl⟩
    · exact (LeaseRecord.isHeldBy_iff.mp hheld).1
    · rfl
  constructor
  · rintro _ ⟨⟩
    rw [hholder, lastSuccess?_of_success hb]
    refine ⟨e.instant, ttl, rfl, hstorable, ?_⟩
    rcases hr' with ⟨r, -, -, rfl⟩ | ⟨-, rfl⟩ <;> exact ⟨rfl, rfl⟩
  · intro other now hnow howns
    refine ⟨r', rfl, ?_⟩
    by_cases hother : other = holder
    · rw [hother]
      exact hholder
    · -- Another owner would hold the record that was there before.
      rw [owns_of_nothing (hothers other hother)] at howns
      have howns := howns.earlier hpast (hnow e List.mem_cons_self)
      obtain ⟨r, hr, hheld⟩ := (h.owns_iff hpast).mp howns
      obtain ⟨hrother, hlive⟩ := LeaseRecord.isHeldBy_iff.mp hheld
      rcases hr' with ⟨r₁, hr₁, hheld₁, -⟩ | ⟨hexpired, -⟩
      · rw [hr, Option.some.injEq] at hr₁
        subst hr₁
        exact absurd (hrother.symm.trans (LeaseRecord.isHeldBy_iff.mp hheld₁).1) hother
      · rw [hexpired r hr] at hlive
        contradiction
  · rintro _ ⟨⟩
    rw [hholder]
    rcases hr' with ⟨r, hr, hheld, rfl⟩ | ⟨hexpired, rfl⟩
    · obtain ⟨start, hstart, hsince⟩ := h.acquired r hr
      refine ⟨start, hstart, fun now hnow hlive => ?_⟩
      have howns : Owns history holder key e.instant := (h.owns_iff hpast).mpr ⟨r, hr, hheld⟩
      obtain ⟨hrholder, hrlive⟩ := LeaseRecord.isHeldBy_iff.mp hheld
      have hbefore := hsince e.instant hpast hrlive
      rw [hrholder] at hbefore
      exact .later hbefore howns (owns_of_success hb)
    · refine ⟨e.instant, rfl, fun now hnow hlive => .success hb rfl ?_⟩
      intro howns
      obtain ⟨r, hr, hheld⟩ := (h.owns_iff hpast).mp howns
      rw [LeaseRecord.isHeldBy_iff, hexpired r hr] at hheld
      exact Bool.noConfusion hheld.2

theorem release (h : Told history key record) (hb : e.bearing r.holder key = .release)
    (hothers : ∀ other, other ≠ r.holder → e.bearing other key = .nothing)
    (hr : record = some r) : Told (e :: history) key none := by
  refine ⟨by simp, fun other now hnow howns => ?_, by simp⟩
  by_cases hother : other = r.holder
  · rw [hother] at howns
    exact absurd howns (not_owns_of_release hb)
  · rw [owns_of_nothing (hothers other hother)] at howns
    obtain ⟨r', hr', hholder⟩ :=
      h.owned other now (fun x hx => hnow x (List.mem_cons_of_mem e hx)) howns
    rw [hr, Option.some.injEq] at hr'
    subst hr'
    exact absurd hholder.symm hother

/-! ## What follows for owners -/

theorem owner_unique (h : Told history key record) (hnow : Past history now) {other : String}
    (hholder : Owns history holder key now) (hother : Owns history other key now) :
    holder = other := by
  obtain ⟨r, hr, rfl⟩ := h.owned holder now hnow hholder
  obtain ⟨r', hr', rfl⟩ := h.owned other now hnow hother
  rw [hr, Option.some.injEq] at hr'
  rw [hr']

theorem granted_iff (h : Told history key record) (hnow : Past history now) :
    (LeaseRecord.grant? record holder ttl (.ofNanos now)).isSome = true ↔
      ∀ other, other ≠ holder → ¬ Owns history other key now := by
  rcases LeaseRecord.grant?_cases record holder ttl (.ofNanos now) with
    ⟨r, hr, hheld, hgrant⟩ | ⟨hexpired, hgrant⟩ | ⟨r, hr, hother, hlive, hgrant⟩
  · rw [hgrant]
    refine iff_of_true rfl fun other hother howns => ?_
    exact hother (h.owner_unique hnow howns ((h.owns_iff hnow).mpr ⟨r, hr, hheld⟩))
  · rw [hgrant]
    refine iff_of_true rfl fun other _ howns => ?_
    obtain ⟨r, hr, hheld⟩ := (h.owns_iff hnow).mp howns
    rw [LeaseRecord.isHeldBy_iff, hexpired r hr] at hheld
    exact Bool.noConfusion hheld.2
  · rw [hgrant]
    refine iff_of_false Bool.false_ne_true fun hfree => hfree r.holder hother ?_
    exact (h.owns_iff hnow).mpr ⟨r, hr, LeaseRecord.isHeldBy_iff.mpr ⟨rfl, hlive⟩⟩

theorem extended_iff (h : Told history key record) (hnow : Past history now) :
    (LeaseRecord.extend? record holder ttl (.ofNanos now)).isSome = true ↔
      Owns history holder key now := by
  rw [h.owns_iff hnow]
  rcases LeaseRecord.extend?_cases record holder ttl (.ofNanos now) with
    ⟨r, hr, hheld, hextend⟩ | ⟨hnone, hextend⟩
  · rw [hextend]
    exact iff_of_true rfl ⟨r, hr, hheld⟩
  · rw [hextend]
    refine iff_of_false Bool.false_ne_true ?_
    rintro ⟨r, hr, hheld⟩
    rw [hnone r hr] at hheld
    contradiction

theorem acquiredAt_of_owns (h : Told history key record) (hnow : Past history now)
    (howns : Owns history holder key now) :
    ∃ r start, record = some r ∧ r.holder = holder ∧ r.acquiredAt = .ofNanos start ∧
      OwnsSince holder key start history := by
  obtain ⟨r, hr, hheld⟩ := (h.owns_iff hnow).mp howns
  obtain ⟨rfl, hlive⟩ := LeaseRecord.isHeldBy_iff.mp hheld
  obtain ⟨start, hstart, hsince⟩ := h.acquired r hr
  exact ⟨r, start, hr, rfl, hstart, hsince now hnow hlive⟩

end Told

/-! ## All keys -/

section

variable {α : Type} {history : List LeaseEvent} {t : LeaseTable} {holder key : String} {now : Int}

theorem bearing_of_ne {c : LeaseCall α} (answer : α) (h : key ≠ c.key) :
    (LeaseEvent.mk c answer now).bearing holder key = .nothing := by
  cases c with
  | tryAcquire k h' ttl => exact if_neg fun hk => h hk.1.symm
  | renew k h' ttl => exact if_neg fun hk => h hk.1.symm
  | release k h' => exact if_neg fun hk => h hk.1.symm
  | currentHolder k => rfl

theorem Told.call {c : LeaseCall α} (hc : c.Storable) (hpast : Past history now)
    {record : Option LeaseRecord} (h : Told history c.key record) :
    Told (⟨c, (c.decide record (.ofNanos now)).1, now⟩ :: history) c.key
      ((c.decide record (.ofNanos now)).2.apply record) := by
  cases c with
  | tryAcquire key holder ttl =>
    rw [LeaseCall.decide]
    rcases LeaseRecord.grant?_cases record holder ttl (.ofNanos now) with
      ⟨r, hr, hheld, hgrant⟩ | ⟨hexpired, hgrant⟩ | ⟨_, -, -, -, hgrant⟩
    · rw [hgrant]
      refine h.success hpast hc (by simp [LeaseEvent.bearing, LeaseCall.stored, LeaseCall.key])
        (fun other hother => ?_) (.inl ⟨r, hr, hheld, rfl⟩)
      exact if_neg fun hk => hother hk.2.1.symm
    · rw [hgrant]
      refine h.success hpast hc (by simp [LeaseEvent.bearing, LeaseCall.stored, LeaseCall.key])
        (fun other hother => ?_) (.inr ⟨hexpired, rfl⟩)
      exact if_neg fun hk => hother hk.2.1.symm
    · rw [hgrant]
      exact h.keep hpast fun _ => .inl (by simp [LeaseEvent.bearing, LeaseCall.stored])
  | renew key holder ttl =>
    rw [LeaseCall.decide]
    rcases LeaseRecord.extend?_cases record holder ttl (.ofNanos now) with
      ⟨r, hr, hheld, hextend⟩ | ⟨-, hextend⟩
    · rw [hextend]
      refine h.success hpast hc (by simp [LeaseEvent.bearing, LeaseCall.stored, LeaseCall.key])
        (fun other hother => ?_) (.inl ⟨r, hr, hheld, rfl⟩)
      exact if_neg fun hk => hother hk.2.1.symm
    · rw [hextend]
      exact h.keep hpast fun _ => .inl (by simp [LeaseEvent.bearing, LeaseCall.stored])
  | release key holder =>
    rw [LeaseCall.decide]
    by_cases hheld : ∃ r, record = some r ∧ r.holder = holder
    · obtain ⟨r, rfl, rfl⟩ := hheld
      rw [Option.any_some, beq_self_eq_true, if_pos rfl]
      refine h.release (by simp [LeaseEvent.bearing, LeaseCall.key]) (fun other hother => ?_) rfl
      exact if_neg fun hk => hother hk.2.symm
    · have hkeep : (record.any fun r => r.holder == holder) = false := by
        cases record with
        | none => rfl
        | some r => simpa using hheld
      rw [hkeep, if_neg Bool.false_ne_true]
      refine h.keep hpast fun other => ?_
      by_cases hother : other = holder
      · subst hother
        exact .inr ⟨by simp [LeaseEvent.bearing, LeaseCall.key],
          fun r hr hholder => hheld ⟨r, hr, hholder⟩⟩
      · exact .inl (if_neg fun hk => hother hk.2.symm)
  | currentHolder key => exact h.keep hpast fun _ => .inl rfl

namespace LeaseTable.Run

theorem told (h : Run history t) (key : String) : Told history key (t.get? key) := by
  -- The induction is on the run: its last call concerns one key and leaves the others.
  induction h with
  | start =>
    refine ⟨fun r hr => ?_, fun holder now _ howns => ?_, fun r hr => ?_⟩
    · contradiction
    · obtain ⟨_, _, hlast, -⟩ := howns
      contradiction
    · contradiction
  | call h c hc now hpast ih =>
    rw [get?_call]
    by_cases hkey : key = c.key
    · subst hkey
      rw [if_pos rfl]
      exact ih.call hc hpast
    · rw [if_neg hkey]
      exact ih.keep hpast fun _ => .inl (bearing_of_ne _ hkey)

/-- No key has two owners, an attempt is granted if no other holder owns the key, a renewal if its
own holder does, and the record of an owner tells when its ownership started. -/
theorem exclusive (h : Run history t) (hnow : Past history now) (key : String) :
    (∀ holder other, Owns history holder key now → Owns history other key now →
      holder = other) ∧
    (∀ holder ttl, (t.call (.tryAcquire key holder ttl) (.ofNanos now)).1 = true ↔
      ∀ other, other ≠ holder → ¬ Owns history other key now) ∧
    (∀ holder ttl, (t.call (.renew key holder ttl) (.ofNanos now)).1 = true ↔
      Owns history holder key now) ∧
    (∀ holder, Owns history holder key now → ∃ r start, t.get? key = some r ∧
      r.holder = holder ∧ r.acquiredAt = .ofNanos start ∧ OwnsSince holder key start history ∧
      ∀ other, OwnsSince holder key other history → other = start) := by
  have htold := h.told key
  refine ⟨fun holder other => htold.owner_unique hnow, fun holder ttl => ?_, fun holder ttl => ?_,
    fun holder howns => ?_⟩
  · rw [← htold.granted_iff hnow, ← LeaseCall.stored_fst]
    rfl
  · rw [← htold.extended_iff hnow, ← LeaseCall.stored_fst]
    rfl
  · obtain ⟨r, start, hr, hholder, hstart, hsince⟩ := htold.acquiredAt_of_owns hnow howns
    exact ⟨r, start, hr, hholder, hstart, hsince, fun _ hother => hother.unique hsince⟩

/-- A lease that was taken again on the last instant of its lifetime, while another asked for it,
lasts for the new lifetime and shuts the other out. -/
theorem exclusive_on_the_boundary :
    ∃ history t, Run history t ∧ Past history 30000000 ∧ Owns history "a" "deploy" 30000000 ∧
      ¬ Owns history "b" "deploy" 30000000 ∧
      (t.call (.tryAcquire "deploy" "b" 10000000) (.ofNanos 30000000)).1 ≠ true := by
  obtain ⟨history, t, hrun, hpast, howns⟩ : ∃ history t, Run history t ∧
      Past history 30000000 ∧ Owns history "a" "deploy" 30000000 := by
    have hfirst := Run.start.call (.tryAcquire "deploy" "a" 10000000) (by decide) 0 (by decide)
    have hsecond :=
      hfirst.call (.tryAcquire "deploy" "b" 10000000) (by decide) 10000000 (by decide)
    have hthird :=
      hsecond.call (.tryAcquire "deploy" "a" 20000000) (by decide) 10000000 (by decide)
    exact ⟨_, _, hthird, by decide, by decide⟩
  obtain ⟨hone, hgranted, -, -⟩ := hrun.exclusive hpast "deploy"
  refine ⟨history, t, hrun, hpast, howns, fun hother => ?_, fun hother => ?_⟩
  · exact absurd (hone _ _ howns hother) (by decide)
  · exact (hgranted "b" 10000000).mp hother "a" (by decide) howns

end LeaseTable.Run

end

end GoldenCapture
