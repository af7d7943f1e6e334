import GoldenCapture.Proofs.Run.Polling
import GoldenCapture.Proofs.Sink.Requests
import GoldenCapture.Run.Context

/-!
# Captures

Where the batches in the stores of a run come from: each is the payload of a request that was
posted to the sink of its protocol, and they are numbered in the order in which they came.
-/

namespace GoldenCapture

/-- The batch was decoded from a request that was posted to the sink of its protocol, to a path
that the sink serves. -/
def Captured.StemsFrom (traffic : List Delivery) (b : Captured) : Prop :=
  ∃ d ∈ traffic, d.protocol = b.protocol ∧ d.request.Reaches b.protocol ∧
    b.protocol.decode d.request.body = .ok b.batch

theorem Captured.StemsFrom.signal_eq {traffic : List Delivery} {b : Captured}
    (h : b.StemsFrom traffic) : b.batch.signal = b.protocol.signal := by
  obtain ⟨d, -, -, -, hdecode⟩ := h
  exact Protocol.signal_of_decode hdecode

/-! ## Sinks -/

/-- All that a sink has captured came by its protocol. -/
structure Sink.Genuine (traffic : List Delivery) (s : Sink) : Prop where
  numbered : s.store.Numbered
  stems : ∀ b ∈ s.store.captured, b.protocol = s.protocol ∧ b.StemsFrom traffic

section

variable {traffic : List Delivery}

theorem Sink.Genuine.handle {s : Sink} (h : s.Genuine traffic) {d : Delivery} (hd : d ∈ traffic)
    (hprotocol : d.protocol = s.protocol) : (s.handle d.request).2.Genuine traffic := by
  have houtcome := s.outcome_handle d.request
  generalize s.handle d.request = answer at houtcome ⊢
  cases houtcome with
  | @accepted batch hreaches hdecode =>
    refine ⟨h.numbered.append s.protocol batch, fun b hb => ?_⟩
    rcases List.mem_append.mp hb with hb | hb
    · exact h.stems b hb
    · obtain rfl := List.mem_singleton.mp hb
      exact ⟨rfl, d, hd, hprotocol, hreaches, hdecode⟩
  | dropped => exact ⟨h.numbered, h.stems⟩
  | refused => exact h

def SinkSet.Genuine (traffic : List Delivery) (s : SinkSet) : Prop :=
  ∀ p sink, s.get? p = some sink → sink.protocol = p ∧ sink.Genuine traffic

theorem SinkSet.Genuine.put {s : SinkSet} (h : s.Genuine traffic) {sink : Sink}
    (hsink : sink.Genuine traffic) : (s.put sink).Genuine traffic := by
  intro p other hother
  unfold SinkSet.put get? at hother
  rw [Dictionary.get?_insert] at hother
  split at hother
  · rename_i hp
    cases hother
    exact ⟨hp.symm, hsink⟩
  · exact h p other hother

theorem SinkSet.Genuine.handle {s : SinkSet} (h : s.Genuine traffic) {d : Delivery}
    (hd : d ∈ traffic) : (s.handle d.protocol d.request).2.Genuine traffic := by
  unfold SinkSet.handle
  split
  · exact h
  · rename_i sink hsink
    obtain ⟨hprotocol, hgenuine⟩ := h _ _ hsink
    intro p other hother
    dsimp only [get?] at hother
    rw [Dictionary.get?_insert] at hother
    split at hother
    · rename_i hp
      cases hother
      refine ⟨?_, hgenuine.handle hd hprotocol.symm⟩
      rw [sink.protocol_handle, hprotocol, hp]
    · exact h p other hother

theorem SinkSet.genuine_empty : SinkSet.Genuine traffic {} := by
  intro p sink hsink
  contradiction

theorem SinkSet.genuine_of_startAll {settings : List SinkSettings} {s s' : SinkSet}
    {n n' : Listeners} (hs : s.Genuine traffic)
    (h : startAll settings s n = (.ok s', n')) : s'.Genuine traffic := by
  induction settings generalizing s n with
  | nil =>
    cases h
    exact hs
  | cons first rest ih =>
    unfold startAll at h
    split at h
    · simp at h
    · exact ih (hs.put ⟨Store.numbered_empty, fun b hb => by contradiction⟩) h

end

/-! ## Contexts -/

namespace RunContext

theorem reaches_elapse (c : RunContext) : timeline.Reaches c c.elapse := by
  unfold elapse
  split
  · exact .refl
  · exact .single ⟨_, rfl⟩

/-- All that has been captured came by traffic, and the run still has the settings and the others
about it that it started with. -/
structure Genuine (settings : Settings) (others : Interference) (traffic : List Delivery)
    (c : RunContext) : Prop where
  settings_eq : c.settings = settings
  others_eq : c.others = others
  pending : ∀ d ∈ c.traffic, d ∈ traffic
  sinks : c.sinks.Genuine traffic

variable {settings : Settings} {others : Interference} {traffic : List Delivery} {c : RunContext}

theorem Genuine.deliver (h : c.Genuine settings others traffic) {d : Delivery} (hd : d ∈ traffic) :
    (c.deliver d).Genuine settings others traffic :=
  ⟨h.settings_eq, h.others_eq, h.pending, h.sinks.handle hd⟩

theorem Genuine.deliverAll {due : List Delivery} (h : c.Genuine settings others traffic)
    (hdue : ∀ d ∈ due, d ∈ traffic) :
    (due.foldl RunContext.deliver c).Genuine settings others traffic :=
  List.foldlRecOn due RunContext.deliver h fun _ hc d hd => hc.deliver (hdue d hd)

theorem Genuine.receiveUntil (h : c.Genuine settings others traffic) (t : Nat) :
    (c.receiveUntil t).Genuine settings others traffic := by
  refine Genuine.deliverAll ⟨h.settings_eq, h.others_eq, fun d hd => ?_, h.sinks⟩ fun d hd => ?_
  · exact h.pending d (List.mem_filter.mp hd).1
  · exact h.pending d (List.mem_filter.mp hd).1

theorem Genuine.withLease (h : c.Genuine settings others traffic) (lease : Contest LeaseSite) :
    { c with lease }.Genuine settings others traffic :=
  ⟨h.settings_eq, h.others_eq, h.pending, h.sinks⟩

theorem Genuine.sleepUntil (h : c.Genuine settings others traffic) (t : Nat) :
    (c.sleepUntil t).Genuine settings others traffic :=
  (h.receiveUntil t).withLease _

theorem Genuine.reached (h : c.Genuine settings others traffic) {c' : RunContext}
    (hreaches : timeline.Reaches c c') : c'.Genuine settings others traffic :=
  hreaches.induct (fun t _ hc => hc.sleepUntil t) h

theorem Genuine.elapse (h : c.Genuine settings others traffic) :
    c.elapse.Genuine settings others traffic :=
  h.reached c.reaches_elapse

theorem Genuine.acquireLease (h : c.Genuine settings others traffic) :
    c.acquireLease.2.Genuine settings others traffic := by
  unfold RunContext.acquireLease
  split
  · exact h
  · exact (h.receiveUntil _).withLease _

theorem Genuine.runLine (h : c.Genuine settings others traffic) (line : String) :
    (c.runLine line).2.Genuine settings others traffic :=
  h.elapse.withLease _

theorem genuine_of_start {identity : String} {host host' : Host}
    (h : start settings identity host traffic = (.ok c, host')) :
    c.Genuine settings host.others traffic := by
  unfold start at h
  split at h
  · simp at h
  · split at h
    · simp at h
    · dsimp only at h
      split at h
      · simp at h
      · split at h
        · simp at h
        · rename_i hstarted
          simp only [Prod.mk.injEq, Except.ok.injEq] at h
          obtain ⟨rfl, -⟩ := h
          exact ⟨rfl, rfl, fun d hd => hd,
            SinkSet.genuine_of_startAll SinkSet.genuine_empty hstarted⟩

theorem Genuine.captured (h : c.Genuine settings others traffic) (p : Protocol) :
    (c.captured p).Numbered ∧
      ∀ b ∈ (c.captured p).captured, b.protocol = p ∧ b.StemsFrom traffic := by
  unfold RunContext.captured store SinkSet.store SinkSet.sink
  cases hsink : c.sinks.get? p with
  | none => exact ⟨Store.numbered_empty, fun b hb => by contradiction⟩
  | some sink =>
    obtain ⟨hprotocol, hgenuine⟩ := h.sinks p sink hsink
    refine ⟨hgenuine.numbered, fun b hb => ?_⟩
    rw [← hprotocol]
    exact hgenuine.stems b hb

end RunContext

end GoldenCapture
