import GoldenCapture.Proofs.Run.Verdict

/-!
# Waits of a run

A wait for something that is there ends at the first look, and changes nothing. A wait for
something that never comes ends with the timeout. While a run waits, its stores only grow.
-/

namespace GoldenCapture

/-! ## Looks -/

namespace Timeline

variable {σ α : Type} {t : Timeline σ} {policy : WaitPolicy} {probe : σ → Probe α × σ} {s : σ}
  {start limit : Nat}

theorem look_of_ready (value : α) (s' : σ) (h : probe s = (.ready value, s')) :
    t.look policy start limit probe s = (.ok value, s') := by
  rw [look, h]

theorem reaches_look (hprobe : ∀ s, (probe s).2 = s) (s : σ) :
    t.Reaches s (t.look policy start limit probe s).2 := by
  obtain ⟨rest, hlooks⟩ := exists_looks t policy start limit probe s
  exact hlooks.reaches hprobe

theorem look_of_pending {P : σ → Prop}
    (hprobe : ∀ s, P s → ∃ observed, probe s = (.pending observed, s))
    (hsleep : ∀ instant s, P s → P (t.sleepUntil instant s)) (hs : P s) :
    ∃ expiry s', t.look policy start limit probe s = (.error expiry, s') := by
  obtain ⟨rest, hlooks⟩ := exists_looks t policy start limit probe s
  generalize t.look policy start limit probe s = result at hlooks ⊢
  induction hlooks with
  | @ready s _ _ hready =>
    obtain ⟨observed, hpending⟩ := hprobe s hs
    rw [hpending] at hready
    cases hready
  | expired hpending hend => exact ⟨_, _, rfl⟩
  | @again s s' _ _ _ hpending hearly hrest ih =>
    obtain ⟨observed, hshown⟩ := hprobe s hs
    rw [hpending] at hshown
    cases hshown
    exact ih (hsleep _ s hs)

theorem waitForSelection_of_none {P : σ → Prop} {store : σ → Store} {selector : Selector}
    {expected : Batch} (hnone : ∀ s, P s → selector.select expected (store s).captured = none)
    (hsleep : ∀ instant s, P s → P (t.sleepUntil instant s)) (hs : P s) (policy : WaitPolicy)
    (deadline : Option Nat) :
    ∃ what observed waited s', t.waitForSelection policy deadline store selector expected s =
      (.error (.timeout what observed waited), s') := by
  simp only [waitForSelection]
  generalize hwait : t.waitFor policy deadline _ s = answer
  obtain ⟨expiry, s', rfl⟩ : ∃ expiry s', answer = (.error expiry, s') := by
    rw [← hwait]
    exact look_of_pending (fun w hw => ⟨_, by rw [hnone w hw]⟩) hsleep hs
  exact ⟨_, _, _, s', rfl⟩

end Timeline

/-! ## Stores -/

namespace SinkSet

variable {s : SinkSet} {p : Protocol} {st : Store}

theorem store_eq_ok_iff : s.store p = .ok st ↔ ∃ sink, s.get? p = some sink ∧ sink.store = st := by
  unfold store sink
  cases s.get? p <;> simp

theorem store_ne_regenerated {path : String} : s.store p ≠ .error (.regenerated path) := by
  unfold store sink
  cases s.get? p <;> simp

theorem exists_store_handle (h : s.store p = .ok st) (q : Protocol) (r : HttpRequest) :
    ∃ st', (s.handle q r).2.store p = .ok st' ∧ st.captured <+: st'.captured := by
  simp only [store_eq_ok_iff] at h ⊢
  obtain ⟨sink, hsink, rfl⟩ := h
  unfold handle
  split
  · exact ⟨sink.store, ⟨sink, hsink, rfl⟩, List.prefix_refl _⟩
  · rename_i other hother
    dsimp only [get?]
    rw [Dictionary.get?_insert]
    split
    · rename_i hp
      subst hp
      obtain rfl : sink = other := Option.some.inj (hsink.symm.trans hother)
      exact ⟨_, ⟨_, rfl, rfl⟩, sink.prefix_handle r⟩
    · exact ⟨sink.store, ⟨sink, hsink, rfl⟩, List.prefix_refl _⟩

end SinkSet

/-! ## Runs that wait -/

namespace RunContext

variable {c c' : RunContext} {p : Protocol} {st : Store} {n : Nat}

theorem captured_of_store (h : c.store p = .ok st) : c.captured p = st := by
  unfold captured
  rw [h]
  rfl

/-- The store of a protocol holds these batches, and maybe later ones. -/
def StoresFrom (p : Protocol) (captured : List Captured) (c : RunContext) : Prop :=
  ∃ st, c.store p = .ok st ∧ captured <+: st.captured

theorem StoresFrom.reached {captured : List Captured} (h : c.StoresFrom p captured)
    (hreaches : timeline.Reaches c c') : c'.StoresFrom p captured := by
  have hdeliver : ∀ w : RunContext, w.StoresFrom p captured → ∀ d,
      (w.deliver d).StoresFrom p captured := by
    rintro w ⟨st, hst, hprefix⟩ d
    obtain ⟨st', hst', hle⟩ := SinkSet.exists_store_handle hst d.protocol d.request
    exact ⟨st', hst', hprefix.trans hle⟩
  refine hreaches.induct (fun instant w hw => ?_) h
  have hreceived : (w.receiveUntil instant).StoresFrom p captured :=
    List.foldlRecOn _ RunContext.deliver hw fun w hw d _ => hdeliver w hw d
  exact hreceived

def Stores (p : Protocol) (n : Nat) (c : RunContext) : Prop :=
  ∃ st, c.store p = .ok st ∧ n ≤ st.count

theorem Stores.reached (h : c.Stores p n) (hreaches : timeline.Reaches c c') :
    c'.Stores p n := by
  obtain ⟨st, hst, hn⟩ := h
  have hfrom : c.StoresFrom p st.captured := ⟨st, hst, List.prefix_refl _⟩
  obtain ⟨st', hst', hprefix⟩ := hfrom.reached hreaches
  exact ⟨st', hst', Nat.le_trans hn hprefix.length_le⟩

/-- Nothing will arrive, and the store of a protocol is this one. -/
def Quiet (p : Protocol) (st : Store) (c : RunContext) : Prop :=
  c.traffic = [] ∧ c.store p = .ok st

theorem Quiet.sleepUntil (h : c.Quiet p st) (instant : Nat) :
    (timeline.sleepUntil instant c).Quiet p st := by
  obtain ⟨htraffic, hstore⟩ := h
  have hreceived : c.receiveUntil instant = c := by
    obtain ⟨⟩ := c
    cases htraffic
    rfl
  refine ⟨?_, ?_⟩
  · exact (congrArg RunContext.traffic hreceived).trans htraffic
  · exact (congrArg (RunContext.store · p) hreceived).trans hstore

theorem Quiet.elapse (h : c.Quiet p st) : c.elapse.Quiet p st := by
  unfold RunContext.elapse
  split
  · exact h
  · exact h.sleepUntil _

theorem reaches_waitForBatches (c : RunContext) (p : Protocol) (n : Nat) :
    timeline.Reaches c (c.waitForBatches p n).2 := by
  unfold waitForBatches
  split
  · exact .refl
  · exact Timeline.reaches_look (fun _ => rfl) c

theorem reaches_waitForSelection (c : RunContext) (p : Protocol) (selector : Selector)
    (expected : Batch) : timeline.Reaches c (c.waitForSelection p selector expected).2 := by
  unfold waitForSelection
  split
  · exact .refl
  · exact Timeline.reaches_look (fun _ => by split <;> rfl) c

theorem stores_of_waitForBatches (h : c.waitForBatches p n = (.ok (), c')) : c'.Stores p n := by
  unfold waitForBatches at h
  split at h
  · simp at h
  · rename_i st hst
    obtain ⟨hreaches, hcount⟩ := Timeline.of_waitForBatches h
    have hstores : c.Stores p 0 := ⟨st, hst, Nat.zero_le _⟩
    obtain ⟨st', hst', -⟩ := hstores.reached hreaches
    rw [captured_of_store hst'] at hcount
    exact ⟨st', hst', hcount⟩

theorem waitForBatches_of_le (hstore : c.store p = .ok st) (hcount : n ≤ st.count) :
    c.waitForBatches p n = (.ok (), c) := by
  have hready : Probe.atLeast (c.captured p).count n = .ready () := by
    rw [captured_of_store hstore]
    exact if_pos hcount
  unfold waitForBatches Timeline.waitForBatches Timeline.waitFor
  rw [hstore]
  dsimp only
  rw [Timeline.look_of_ready () c (by rw [hready])]
  rfl

variable {selector : Selector} {expected : Batch} {b : Captured}

theorem waitForSelection_of_select (hstore : c.store p = .ok st)
    (h : selector.select expected st.captured = some b) :
    c.waitForSelection p selector expected = (.ok b, c) := by
  unfold waitForSelection Timeline.waitForSelection Timeline.waitFor
  rw [hstore]
  dsimp only
  rw [Timeline.look_of_ready b c (by rw [captured_of_store hstore, h])]
  rfl

theorem waitForSelection_of_none (hquiet : c.Quiet p st)
    (h : selector.select expected st.captured = none) :
    ∃ what observed waited c', c.waitForSelection p selector expected =
      (.error (.timeout what observed waited), c') := by
  unfold waitForSelection
  rw [hquiet.2]
  exact Timeline.waitForSelection_of_none (fun w hw => by rw [captured_of_store hw.2, h])
    (fun instant w hw => hw.sleepUntil instant) hquiet _ _

end RunContext

end GoldenCapture
