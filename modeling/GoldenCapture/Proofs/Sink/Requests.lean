import GoldenCapture.Sink

/-!
# One request at a sink

What one request and one reset do to the sinks of a run: they change one sink, and the other sinks
do not notice.
-/

namespace GoldenCapture

/-- The request gets to the handler of the sink: it is posted to the root or to the route of the
protocol, and its body is within the limit. -/
def HttpRequest.Reaches (r : HttpRequest) (p : Protocol) : Prop :=
  r.method = "POST" ∧ (r.path = "/" ∨ r.path = "" ∨ r.path = p.route) ∧
    r.body.length ≤ HttpRequest.bodyLimit

namespace Sink

theorem serves_iff {sink : Sink} {path : String} :
    sink.serves path = true ↔ path = "/" ∨ path = "" ∨ path = sink.protocol.route := by
  simp [serves, or_assoc]

/-- What may come of a request to a sink. -/
inductive Outcome (sink : Sink) (r : HttpRequest) : HttpStatus × Sink → Prop
  | accepted {batch : Batch} (hreaches : r.Reaches sink.protocol)
      (hdecode : sink.protocol.decode r.body = .ok batch) :
      Outcome sink r (.ok, { sink with store := sink.store.append sink.protocol batch })
  | dropped {error : PayloadError} (hreaches : r.Reaches sink.protocol)
      (hdecode : sink.protocol.decode r.body = .error error) :
      Outcome sink r (.badRequest, { sink with dropped := sink.dropped + 1 })
  | refused {status : HttpStatus} (hreaches : ¬ r.Reaches sink.protocol)
      (hstatus : status = .notFound ∨ status = .methodNotAllowed ∨ status = .payloadTooLarge) :
      Outcome sink r (status, sink)

theorem outcome_handle (sink : Sink) (r : HttpRequest) : Outcome sink r (sink.handle r) := by
  unfold handle
  split
  case isFalse hserves =>
    rw [serves_iff] at hserves
    exact .refused (fun hreaches => hserves hreaches.2.1) (.inl rfl)
  case isTrue hserves =>
    split
    case isFalse hposted =>
      exact .refused (fun hreaches => hposted (by simpa using hreaches.1)) (.inr (.inl rfl))
    case isTrue hposted =>
      split
      case isFalse hlarge =>
        exact .refused (fun hreaches => hlarge hreaches.2.2) (.inr (.inr rfl))
      case isTrue hlimit =>
        have hreaches : r.Reaches sink.protocol :=
          ⟨by simpa using hposted, serves_iff.mp hserves, hlimit⟩
        unfold receive
        split
        · exact .accepted hreaches ‹_›
        · exact .dropped hreaches ‹_›

theorem protocol_handle (sink : Sink) (r : HttpRequest) :
    (sink.handle r).2.protocol = sink.protocol := by
  have houtcome := sink.outcome_handle r
  generalize sink.handle r = answer at houtcome ⊢
  cases houtcome <;> rfl

theorem listener_handle (sink : Sink) (r : HttpRequest) :
    (sink.handle r).2.listener = sink.listener := by
  have houtcome := sink.outcome_handle r
  generalize sink.handle r = answer at houtcome ⊢
  cases houtcome <;> rfl

theorem prefix_handle (sink : Sink) (r : HttpRequest) :
    sink.store.captured <+: (sink.handle r).2.store.captured := by
  have houtcome := sink.outcome_handle r
  generalize sink.handle r = answer at houtcome ⊢
  cases houtcome with
  | accepted => exact List.prefix_append _ _
  | dropped | refused => exact List.prefix_refl _

end Sink

namespace SinkSet

/-! ## Changes of one sink -/

/-- The sink of a protocol has changed in one way, and no other sink has changed. -/
structure Changes (p : Protocol) (change : Sink → Sink) (before after : SinkSet) : Prop where
  here : after.get? p = (before.get? p).map change
  elsewhere : ∀ q, q ≠ p → after.get? q = before.get? q

abbrev Appends (p : Protocol) (batch : Batch) : SinkSet → SinkSet → Prop :=
  Changes p fun sink => { sink with store := sink.store.append p batch }

abbrev Drops (p : Protocol) : SinkSet → SinkSet → Prop :=
  Changes p fun sink => { sink with dropped := sink.dropped + 1 }

abbrev Resets (p : Protocol) : SinkSet → SinkSet → Prop := Changes p Sink.reset

section

variable {p q : Protocol} {change : Sink → Sink} {s before after : SinkSet} {sink : Sink}

theorem get?_insert : get? ⟨s.sinks.insert p sink⟩ q = if q = p then some sink else s.get? q :=
  Dictionary.get?_insert ..

theorem changes_insert (h : s.get? p = some sink) :
    Changes p change s ⟨s.sinks.insert p (change sink)⟩ where
  here := by rw [get?_insert, if_pos rfl, h, Option.map_some]
  elsewhere q hq := by rw [get?_insert, if_neg hq]

theorem Changes.isSome_eq (h : Changes p change before after) (q : Protocol) :
    (after.get? q).isSome = (before.get? q).isSome := by
  by_cases hq : q = p
  · rw [hq, h.here, Option.isSome_map]
  · rw [h.elsewhere q hq]

theorem Changes.sink_eq (h : Changes p change before after) (hsink : after.get? q = some sink) :
    ∃ old, before.get? q = some old ∧ sink = if q = p then change old else old := by
  by_cases hq : q = p
  · subst hq
    rw [h.here] at hsink
    obtain ⟨old, hold, rfl⟩ := Option.map_eq_some_iff.mp hsink
    exact ⟨old, hold, (if_pos rfl).symm⟩
  · rw [h.elsewhere q hq] at hsink
    exact ⟨sink, hsink, (if_neg hq).symm⟩

theorem Changes.get?_eq (h : Changes p id before after) (q : Protocol) :
    after.get? q = before.get? q := by
  by_cases hq : q = p
  · rw [hq, h.here, Option.map_id_apply]
  · exact h.elsewhere q hq

theorem Appends.not_of_store_eq {batch : Batch} (h : Changes p change before after)
    (hsink : (before.get? p).isSome) (hstore : ∀ sink, (change sink).store = sink.store) :
    ¬ Appends p batch before after := by
  intro happends
  obtain ⟨sink, hsink⟩ := Option.isSome_iff_exists.mp hsink
  have hsame := h.here.symm.trans happends.here
  rw [hsink, Option.map_some, Option.map_some, Option.some.injEq] at hsame
  have hlength := congrArg (fun sink => sink.store.captured.length) hsame
  simp [hstore, Store.append] at hlength

end

/-! ## Answers -/

/-- Each sink is kept under its own protocol. -/
def Keyed (s : SinkSet) : Prop := ∀ p sink, s.get? p = some sink → sink.protocol = p

/-- What a request to a protocol is answered, with what it does to the sinks. -/
inductive Answers (p : Protocol) (r : HttpRequest) : HttpStatus → SinkSet → SinkSet → Prop
  | accepted {before after : SinkSet} {batch : Batch} (hreaches : r.Reaches p)
      (hdecode : p.decode r.body = .ok batch) (hchanges : Appends p batch before after) :
      Answers p r .ok before after
  | dropped {before after : SinkSet} {error : PayloadError} (hreaches : r.Reaches p)
      (hdecode : p.decode r.body = .error error) (hchanges : Drops p before after) :
      Answers p r .badRequest before after
  | refused {before after : SinkSet} {status : HttpStatus} (hreaches : ¬ r.Reaches p)
      (hstatus : status = .notFound ∨ status = .methodNotAllowed ∨ status = .payloadTooLarge)
      (hchanges : Changes p id before after) : Answers p r status before after

theorem Keyed.of_changes {p : Protocol} {change : Sink → Sink} {before after : SinkSet}
    (hkeyed : before.Keyed) (h : Changes p change before after)
    (hprotocol : ∀ sink, (change sink).protocol = sink.protocol) : after.Keyed := by
  intro q sink hsink
  obtain ⟨old, hold, rfl⟩ := h.sink_eq hsink
  split
  · rw [hprotocol]
    exact hkeyed q old hold
  · exact hkeyed q old hold

theorem Keyed.put {s : SinkSet} (h : s.Keyed) (sink : Sink) : (s.put sink).Keyed := by
  intro p other hother
  unfold SinkSet.put at hother
  rw [get?_insert] at hother
  split at hother
  · rename_i hp
    cases hother
    exact hp.symm
  · exact h p other hother

variable {p : Protocol} {r : HttpRequest} {s s' : SinkSet} {status : HttpStatus}

theorem exists_handle (hsink : (s.get? p).isSome) (r : HttpRequest) :
    ∃ status s', s.handle p r = (some status, s') := by
  obtain ⟨sink, hsink⟩ := Option.isSome_iff_exists.mp hsink
  refine ⟨(sink.handle r).1, ⟨s.sinks.insert p (sink.handle r).2⟩, ?_⟩
  simp only [handle, hsink]

theorem answers_of_handle (hkeyed : s.Keyed) (h : s.handle p r = (some status, s')) :
    (s.get? p).isSome ∧ Answers p r status s s' := by
  unfold handle at h
  split at h
  · simp at h
  rename_i sink hsink
  obtain rfl := hkeyed p sink hsink
  simp only [Prod.mk.injEq, Option.some.injEq] at h
  obtain ⟨rfl, rfl⟩ := h
  refine ⟨by rw [hsink, Option.isSome_some], ?_⟩
  have houtcome := sink.outcome_handle r
  generalize sink.handle r = answer at houtcome ⊢
  cases houtcome with
  | accepted hreaches hdecode => exact .accepted hreaches hdecode (changes_insert hsink)
  | dropped hreaches hdecode => exact .dropped hreaches hdecode (changes_insert hsink)
  | refused hreaches hstatus => exact .refused hreaches hstatus (changes_insert hsink)

theorem Answers.keyed (h : Answers p r status s s') (hkeyed : s.Keyed) : s'.Keyed := by
  cases h with
  | accepted _ _ hchanges => exact hkeyed.of_changes hchanges fun _ => rfl
  | dropped _ _ hchanges => exact hkeyed.of_changes hchanges fun _ => rfl
  | refused _ _ hchanges => exact hkeyed.of_changes hchanges fun _ => rfl

theorem Answers.exists_changes (h : Answers p r status s s') : ∃ change, Changes p change s s' := by
  cases h with
  | accepted _ _ hchanges => exact ⟨_, hchanges⟩
  | dropped _ _ hchanges => exact ⟨_, hchanges⟩
  | refused _ _ hchanges => exact ⟨_, hchanges⟩

/-! ## Resets -/

def resetStore (s : SinkSet) (p : Protocol) : SinkSet :=
  match s.get? p with
  | none => s
  | some sink => ⟨s.sinks.insert p sink.reset⟩

theorem resets_resetStore (s : SinkSet) (p : Protocol) : Resets p s (s.resetStore p) := by
  unfold resetStore
  split
  · rename_i hnone
    exact ⟨by rw [hnone, Option.map_none], fun _ _ => rfl⟩
  · rename_i sink hsink
    exact changes_insert hsink

theorem get?_resetAll (s : SinkSet) (p : Protocol) :
    s.resetAll.get? p = (s.get? p).map Sink.reset := by
  obtain ⟨⟨entries⟩⟩ := s
  unfold resetAll get? Dictionary.get?
  induction entries with
  | nil => rfl
  | cons entry rest ih =>
    obtain ⟨q, sink⟩ := entry
    simp only [List.map_cons, Dictionary.find?]
    split
    · rfl
    · exact ih

theorem mem_protocols : p ∈ s.protocols ↔ (s.get? p).isSome := by
  unfold protocols
  rw [List.mem_filter]
  exact and_iff_right (by cases p <;> decide)

theorem get?_foldl_resetStore (order : List Protocol) (s : SinkSet) (p : Protocol) :
    (order.foldl resetStore s).get? p =
      if p ∈ order then (s.get? p).map Sink.reset else s.get? p := by
  induction order generalizing s with
  | nil => rfl
  | cons q rest ih =>
    rw [List.foldl_cons, ih]
    by_cases hp : p = q
    · subst hp
      rw [(resets_resetStore s p).here]
      cases s.get? p <;> simp [Sink.reset, Store.reset]
    · simp [(resets_resetStore s q).elsewhere p hp, hp]

theorem get?_resetAll_eq_foldl (s : SinkSet) (p : Protocol) :
    s.resetAll.get? p = (s.protocols.foldl resetStore s).get? p := by
  rw [get?_resetAll, get?_foldl_resetStore]
  split
  · rfl
  · rename_i hp
    rw [mem_protocols, Option.not_isSome_iff_eq_none] at hp
    rw [hp, Option.map_none]

/-! ## Sinks that have just been started -/

structure Fresh (s : SinkSet) : Prop where
  keyed : s.Keyed
  stored : ∀ p sink, s.get? p = some sink → sink.store.captured = []
  dropped : ∀ p sink, s.get? p = some sink → sink.dropped = 0

theorem fresh_empty : Fresh {} :=
  ⟨fun _ _ h => by contradiction, fun _ _ h => by contradiction, fun _ _ h => by contradiction⟩

theorem Fresh.put {s : SinkSet} (h : s.Fresh) (p : Protocol) (listener : Nat) :
    (s.put { protocol := p, listener }).Fresh := by
  have hold : ∀ q sink, (s.put { protocol := p, listener }).get? q = some sink →
      sink = { protocol := p, listener } ∨ s.get? q = some sink := by
    intro q sink hsink
    unfold SinkSet.put at hsink
    rw [get?_insert] at hsink
    split at hsink
    · exact .inl (Option.some.inj hsink).symm
    · exact .inr hsink
  refine ⟨h.keyed.put _, fun q sink hsink => ?_, fun q sink hsink => ?_⟩
  · obtain rfl | hsink := hold q sink hsink
    · rfl
    · exact h.stored q sink hsink
  · obtain rfl | hsink := hold q sink hsink
    · rfl
    · exact h.dropped q sink hsink

theorem fresh_of_startAll {settings : List SinkSettings} {n n' : Listeners} (hs : s.Fresh)
    (h : startAll settings s n = (.ok s', n')) : s'.Fresh := by
  induction settings generalizing s n with
  | nil =>
    cases h
    exact hs
  | cons first rest ih =>
    unfold startAll at h
    split at h
    · simp at h
    · exact ih (hs.put ..) h

end SinkSet

end GoldenCapture
