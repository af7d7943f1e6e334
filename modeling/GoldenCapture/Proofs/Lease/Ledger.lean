import GoldenCapture.Proofs.Lease.Rivalry

/-!
# Ledgers

A lease table together with a list of what was granted and given back. Whose record a key has can
be read off that list: of a holder to whom an attempt was granted, and nobody else since.
-/

namespace GoldenCapture

/-! ## Deeds -/

inductive DeedKind where
  | grant
  | extension
  | release
deriving DecidableEq, Repr

/-- A granted attempt, a granted renewal or a release. -/
structure Deed where
  kind : DeedKind
  key : String
  holder : String
  instant : Int
deriving DecidableEq, Repr

/-- What there is to be entered of a call and its answer. -/
def LeaseCall.deed? {α : Type} : LeaseCall α → α → Int → Option Deed
  | .tryAcquire key holder _, granted, now =>
    if granted then some ⟨.grant, key, holder, now⟩ else none
  | .renew key holder _, granted, now =>
    if granted then some ⟨.extension, key, holder, now⟩ else none
  | .release key holder, _, now => some ⟨.release, key, holder, now⟩
  | .currentHolder _, _, _ => none

/-- An attempt of the holder was granted, and nothing was granted to anyone else since. Deeds begin
with the latest. -/
inductive Undisturbed (holder key : String) : List Deed → Prop
  | granted (instant : Int) (earlier : List Deed) :
      Undisturbed holder key (⟨.grant, key, holder, instant⟩ :: earlier)
  | later {d : Deed} {earlier : List Deed} (h : Undisturbed holder key earlier)
      (hothers : d.key = key → d.holder ≠ holder → d.kind = .release) :
      Undisturbed holder key (d :: earlier)

theorem Undisturbed.kind_of_other {holder key : String} {d : Deed} {earlier : List Deed}
    (h : Undisturbed holder key (d :: earlier)) (hkey : d.key = key) (hother : d.holder ≠ holder) :
    d.kind = .release := by
  generalize hdeeds : d :: earlier = deeds at h
  cases h with
  | granted instant before =>
    cases hdeeds
    exact absurd rfl hother
  | later h hothers =>
    cases hdeeds
    exact hothers hkey hother

/-- The instant of the holder's last deed and the deeds before it, if it was a release. -/
def lastRelease? (holder key : String) : List Deed → Option (Int × List Deed)
  | [] => none
  | d :: earlier =>
    if d.key = key ∧ d.holder = holder then
      if d.kind = .release then some (d.instant, earlier) else none
    else lastRelease? holder key earlier

theorem lastRelease?_of_ne {d : Deed} {holder key : String} {deeds : List Deed}
    (h : d.holder ≠ holder) :
    lastRelease? holder key (d :: deeds) = lastRelease? holder key deeds :=
  if_neg fun hd => h hd.2

section

variable {α : Type} {deeds : List Deed} {now : Int}

theorem LeaseCall.key_of_deed? {c : LeaseCall α} {answer : α} {d : Deed}
    (h : c.deed? answer now = some d) : d.key = c.key := by
  cases c with
  | tryAcquire key holder ttl =>
    simp only [deed?, Option.ite_none_right_eq_some, Option.some.injEq] at h
    rw [← h.2, LeaseCall.key]
  | renew key holder ttl =>
    simp only [deed?, Option.ite_none_right_eq_some, Option.some.injEq] at h
    rw [← h.2, LeaseCall.key]
  | release key holder =>
    cases h
    rfl
  | currentHolder key => contradiction

theorem LeaseCall.By.holder_of_deed? {c : LeaseCall α} {answer : α} {d : Deed} {holder : String}
    (hc : c.By holder) (h : c.deed? answer now = some d) : d.holder = holder := by
  cases c with
  | tryAcquire key h' ttl =>
    simp only [deed?, Option.ite_none_right_eq_some, Option.some.injEq] at h
    rw [← h.2]
    exact hc
  | renew key h' ttl =>
    simp only [deed?, Option.ite_none_right_eq_some, Option.some.injEq] at h
    rw [← h.2]
    exact hc
  | release key h' =>
    cases h
    exact hc
  | currentHolder key => contradiction

theorem undisturbed_decide {c : LeaseCall α} {record : Option LeaseRecord} {r : LeaseRecord}
    (h : ∀ r, record = some r → Undisturbed r.holder c.key deeds)
    (hr : (c.decide record (.ofNanos now)).2.apply record = some r) :
    Undisturbed r.holder c.key
      ((c.deed? (c.decide record (.ofNanos now)).1 now).toList ++ deeds) := by
  cases c with
  | tryAcquire key holder ttl =>
    rw [LeaseCall.decide] at hr ⊢
    rcases LeaseRecord.grant?_cases record holder ttl (.ofNanos now) with
      ⟨before, -, hheld, hgrant⟩ | ⟨-, hgrant⟩ | ⟨_, -, -, -, hgrant⟩
    · rw [hgrant] at hr ⊢
      cases hr
      have hholder : (before.renewed ttl (.ofNanos now)).holder = holder :=
        (LeaseRecord.isHeldBy_iff.mp hheld).1
      rw [hholder]
      exact .granted now deeds
    · rw [hgrant] at hr ⊢
      cases hr
      exact .granted now deeds
    · rw [hgrant] at hr ⊢
      exact h r hr
  | renew key holder ttl =>
    rw [LeaseCall.decide] at hr ⊢
    rcases LeaseRecord.extend?_cases record holder ttl (.ofNanos now) with
      ⟨before, hbefore, hheld, hextend⟩ | ⟨-, hextend⟩
    · rw [hextend] at hr ⊢
      cases hr
      have hholder : before.holder = holder := (LeaseRecord.isHeldBy_iff.mp hheld).1
      exact .later (h before hbefore) fun _ hother => absurd hholder.symm hother
    · rw [hextend] at hr ⊢
      exact h r hr
  | release key holder =>
    have hkept : record = some r := by
      rw [LeaseCall.decide] at hr
      dsimp only at hr
      split at hr
      · contradiction
      · exact hr
    exact .later (h r hkept) fun _ _ => rfl
  | currentHolder key => exact h r hr

end

/-! ## Ledgers -/

structure Ledger where
  table : LeaseTable := {}
  /-- The latest deed first. -/
  deeds : List Deed := []

namespace Ledger

variable {α : Type} {l l' : Ledger} {holder : String}

def call (l : Ledger) (c : LeaseCall α) (now : Int) : α × Ledger :=
  let (answer, table) := l.table.call c (.ofNanos now)
  (answer, ⟨table, (c.deed? answer now).toList ++ l.deeds⟩)

theorem table_call (c : LeaseCall α) (now : Int) :
    (l.call c now).2.table = (l.table.call c (.ofNanos now)).2 := rfl

theorem deeds_call (c : LeaseCall α) (now : Int) :
    (l.call c now).2.deeds =
      (c.deed? (l.table.call c (.ofNanos now)).1 now).toList ++ l.deeds := rfl

/-- Whoever has the record of a key has been undisturbed. -/
def Faithful (l : Ledger) : Prop :=
  ∀ key r, l.table.get? key = some r → Undisturbed r.holder key l.deeds

theorem faithful_empty : Faithful {} := by
  intro key r hr
  contradiction

theorem Faithful.call (h : l.Faithful) (c : LeaseCall α) (now : Int) :
    (l.call c now).2.Faithful := by
  intro key r hr
  rw [table_call, LeaseTable.get?_call] at hr
  by_cases hkey : key = c.key
  · subst hkey
    rw [if_pos rfl] at hr
    exact undisturbed_decide (h c.key) hr
  · rw [if_neg hkey] at hr
    have hbefore := h key r hr
    rw [deeds_call]
    cases hdeed : c.deed? (l.table.call c (.ofNanos now)).1 now with
    | none => exact hbefore
    | some d =>
      refine .later hbefore fun hd => absurd ?_ hkey
      rw [← hd, LeaseCall.key_of_deed? hdeed]

/-- The ledger after at most one call on behalf of `holder`. -/
def Moved (instant : Int) (holder : String) (l l' : Ledger) : Prop :=
  l' = l ∨ ∃ (α : Type) (c : LeaseCall α), c.By holder ∧ l' = (l.call c instant).2

theorem Faithful.moved {instant : Int} (h : l.Faithful) (hmoved : l.Moved instant holder l') :
    l'.Faithful := by
  rcases hmoved with rfl | ⟨α, c, -, rfl⟩
  · exact h
  · exact h.call c instant

theorem Moved.movedBy {origin : Int} {now : Nat} (h : l.Moved (origin + now) holder l') :
    MovedBy origin now holder l.table l'.table := by
  rcases h with rfl | ⟨α, c, hc, rfl⟩
  · exact .inl rfl
  · exact .inr ⟨α, c, hc, rfl⟩

theorem Moved.lastRelease? {instant : Int} {other key : String} (h : l.Moved instant other l')
    (hne : other ≠ holder) :
    lastRelease? holder key l'.deeds = lastRelease? holder key l.deeds := by
  rcases h with rfl | ⟨α, c, hc, rfl⟩
  · rfl
  · rw [deeds_call]
    cases hdeed : c.deed? (l.table.call c (.ofNanos instant)).1 instant with
    | none => rfl
    | some d =>
      refine lastRelease?_of_ne ?_
      rw [hc.holder_of_deed? hdeed]
      exact hne

end Ledger

/-! ## Backends over ledgers -/

/-- A call takes effect at once, and is entered, or never. An answer that is no error is the answer
of the effect; when it comes back, if at all, is open. -/
def LeaseBackend.Enters (origin : Int) (b : LeaseBackend Ledger) : Prop :=
  ∀ {α : Type} (c : LeaseCall α) (now : Nat) (l : Ledger),
    ((b.call c now l).2 = (l.call c (origin + now)).2 ∧
      ((b.call c now l).1.answer = .ok (l.call c (origin + now)).1 ∨
        ∃ error, (b.call c now l).1.answer = .error error)) ∨
    ((b.call c now l).2 = l ∧ ∃ error, (b.call c now l).1.answer = .error error)

/-- The backend that enters every call and answers it after `delay`. -/
def Ledger.backend (origin : Int) (delay : Nat) : LeaseBackend Ledger where
  call c now l :=
    let (answer, l) := l.call c (origin + now)
    (⟨.ok answer, some delay⟩, l)

theorem Ledger.backend_enters (origin : Int) (delay : Nat) :
    (backend origin delay).Enters origin :=
  fun _ _ _ => .inl ⟨rfl, .inl rfl⟩

def Ledger.unreachable (error : BackendError) : LeaseBackend Ledger where
  call _ _ l := (⟨.error error, some 0⟩, l)

theorem Ledger.unreachable_enters (origin : Int) (error : BackendError) :
    (unreachable error).Enters origin :=
  fun _ _ _ => .inr ⟨rfl, error, rfl⟩

def LeaseBackend.onTable (b : LeaseBackend Ledger) (deeds : List Deed) :
    LeaseBackend LeaseTable where
  call c now t :=
    let (reply, l) := b.call c now ⟨t, deeds⟩
    (reply, l.table)

section

variable {origin : Int} {b : LeaseBackend Ledger} {α : Type}

theorem LeaseBackend.Enters.atomic (hb : b.Enters origin) (deeds : List Deed) :
    (b.onTable deeds).Atomic origin := by
  intro α c now t
  have h := hb c now ⟨t, deeds⟩
  have hcall : (b.onTable deeds).call c now t =
      ((b.call c now ⟨t, deeds⟩).1, (b.call c now ⟨t, deeds⟩).2.table) := rfl
  rw [hcall]
  generalize b.call c now ⟨t, deeds⟩ = sent at h ⊢
  obtain ⟨⟨answer, delay⟩, l⟩ := sent
  dsimp only at h ⊢
  rcases h with ⟨rfl, rfl | ⟨error, rfl⟩⟩ | ⟨rfl, error, rfl⟩
  · exact .answered delay
  · exact .failed error delay
  · exact .never error delay

theorem LeaseBackend.Enters.send_moved (hb : b.Enters origin) (c : LeaseCall α) (now : Nat)
    (l : Ledger) {holder : String} (hc : c.By holder) :
    l.Moved (origin + now) holder (Coordinator.send b c now l).2 := by
  rcases hb c now l with ⟨heffect, -⟩ | ⟨hnone, -⟩
  · exact .inr ⟨α, c, hc, heffect⟩
  · exact .inl hnone

theorem LeaseBackend.Enters.send_of_ok (hb : b.Enters origin) {c : LeaseCall α} {now : Nat}
    {l : Ledger} {answer : α} {arrives : Option Nat}
    (h : (Coordinator.send b c now l).1 = .answered (.ok answer) arrives) :
    (Coordinator.send b c now l).2 = (l.call c (origin + now)).2 := by
  have hanswer : (b.call c now l).1.answer = .ok answer := (Flight.answered.inj h).1
  rcases hb c now l with ⟨heffect, -⟩ | ⟨-, error, herror⟩
  · exact heffect
  · rw [hanswer] at herror
    contradiction

namespace Coordinator

variable {c c' : Coordinator} {now : Nat} {l l' : Ledger} {t : Tenure}

theorem ErrandStep.onTable (h : ErrandStep b now c l c' l') :
    ErrandStep (b.onTable l.deeds) now c l.table c' l'.table := by
  cases h with
  | ask started timeout he => exact .ask started timeout he
  | seeAnswer started timeout flight answer he hlanded =>
    exact .seeAnswer started timeout flight answer he hlanded
  | retry started timeout wake he hwake => exact .retry started timeout wake he hwake
  | askName waited he => exact .askName waited he
  | giveUp waited flight answer he hlanded => exact .giveUp waited flight answer he hlanded
  | stop he hstopped => exact .stop he hstopped
  | drop reason he => exact .drop reason he
  | seeDropped reason flight answer he hlanded =>
    exact .seeDropped reason flight answer he hlanded
  | free he => exact .free he
  | seeFreed flight answer he hlanded => exact .seeFreed flight answer he hlanded
  | confirm deadline he => exact .confirm deadline he
  | seeHolder deadline flight answer he hlanded =>
    exact .seeHolder deadline flight answer he hlanded
  | askAgain deadline wake he hwake => exact .askAgain deadline wake he hwake

theorem RenewerStep.onTable (h : RenewerStep b now c t l c' l') :
    RenewerStep (b.onTable l.deeds) now c t l.table c' l'.table := by
  cases h with
  | stop tick hr hstop => exact .stop tick hr hstop
  | tick tick hr htick => exact .tick tick hr htick
  | renew tick limit hr => exact .renew tick limit hr
  | seeAnswer tick limit flight answer hr hlanded =>
    exact .seeAnswer tick limit flight answer hr hlanded
  | cutOff tick limit flight hr hlanded hlimit => exact .cutOff tick limit flight hr hlanded hlimit

theorem ErrandStep.moved (hb : b.Enters origin) (h : ErrandStep b now c l c' l') :
    l.Moved (origin + now) c.identity l' := by
  cases h with
  | ask => exact hb.send_moved _ now l rfl
  | askName => exact hb.send_moved _ now l trivial
  | drop => exact hb.send_moved _ now l rfl
  | free => exact hb.send_moved _ now l rfl
  | confirm => exact hb.send_moved _ now l trivial
  | _ => exact .inl rfl

theorem RenewerStep.moved (hb : b.Enters origin) (h : RenewerStep b now c t l c' l') :
    l.Moved (origin + now) c.identity l' := by
  cases h with
  | renew => exact hb.send_moved _ now l rfl
  | _ => exact .inl rfl

end Coordinator

end

end GoldenCapture
