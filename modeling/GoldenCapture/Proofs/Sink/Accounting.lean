import GoldenCapture.Proofs.Sink.Requests
import Mathlib.Logic.Relation

/-!
# Accounting

Any number of producers send requests to the sinks of a run while their stores are being reset. A
request arrives, is served and is answered, in three steps between which anything else may happen;
a reset of all sinks goes from store to store in the same way. Whatever the order of these steps,
the stores hold what the requests brought: nothing is lost, doubled or put into the wrong store.
-/

namespace GoldenCapture

namespace Intake

/-! ## Requests and resets under way -/

inductive Stage where
  | waiting
  /-- The sink is done with the request; its producer does not know yet. -/
  | served (status : HttpStatus)
  | answered (status : HttpStatus)
deriving DecidableEq

def Stage.status? : Stage → Option HttpStatus
  | waiting => none
  | served status | answered status => some status

structure Submission where
  protocol : Protocol
  request : HttpRequest
  stage : Stage := .waiting

inductive Event where
  /-- A sink has served the submission of this number. -/
  | serve (number : Nat) (protocol : Protocol) (request : HttpRequest) (status : HttpStatus)
  | reset (protocol : Protocol)

namespace Event

def protocol : Event → Protocol
  | serve _ p _ _ => p
  | reset p => p

def serves (number : Nat) : Event → Bool
  | serve n _ _ _ => n == number
  | reset _ => false

def resets (p : Protocol) : Event → Bool
  | serve _ _ _ _ => false
  | reset q => q == p

/-- The batch that a protocol has taken with this event. -/
def batch? (p : Protocol) : Event → Option Batch
  | serve _ q r .ok => if q = p then (p.decode r.body).toOption else none
  | _ => none

def drops (p : Protocol) : Event → Bool
  | serve _ q _ .badRequest => q == p
  | _ => false

end Event

/-- An event, with the sinks just before and just after it. -/
structure Moment where
  event : Event
  before : SinkSet
  after : SinkSet

end Intake

/-- The sinks of a run with all that is under way. -/
structure Intake where
  sinks : SinkSet
  /-- All requests that have arrived. A request is known by its place. -/
  submissions : List Intake.Submission := []
  /-- For each reset of all sinks, the stores that it has not come to yet. -/
  resets : List (List Protocol) := []
  /-- What has happened to the sinks, the latest event first. -/
  history : List Intake.Moment := []

namespace Intake

inductive Step : Intake → Intake → Prop
  | arrive {x : Intake} {p : Protocol} (r : HttpRequest) (hsink : (x.sinks.get? p).isSome) :
      Step x { x with submissions := x.submissions ++ [⟨p, r, .waiting⟩] }
  | serve {x : Intake} {i : Nat} {s : Submission} {status : HttpStatus} {sinks : SinkSet}
      (hi : x.submissions[i]? = some s) (hstage : s.stage = .waiting)
      (hhandle : x.sinks.handle s.protocol s.request = (some status, sinks)) :
      Step x { x with
        sinks
        submissions := x.submissions.set i { s with stage := .served status }
        history := ⟨.serve i s.protocol s.request status, x.sinks, sinks⟩ :: x.history }
  | answer {x : Intake} {i : Nat} {s : Submission} {status : HttpStatus}
      (hi : x.submissions[i]? = some s) (hstage : s.stage = .served status) :
      Step x { x with submissions := x.submissions.set i { s with stage := .answered status } }
  | beginReset {x : Intake} : Step x { x with resets := x.resets ++ [x.sinks.protocols] }
  | resetNext {x : Intake} {j : Nat} {p : Protocol} {rest : List Protocol}
      (hj : x.resets[j]? = some (p :: rest)) :
      Step x { x with
        sinks := x.sinks.resetStore p
        resets := x.resets.set j rest
        history := ⟨.reset p, x.sinks, x.sinks.resetStore p⟩ :: x.history }

def Run : Intake → Intake → Prop := Relation.ReflTransGen Step

theorem run_resetStores {x : Intake} {j : Nat} {order : List Protocol}
    (hj : x.resets[j]? = some order) :
    ∃ y, Run x y ∧ y.submissions = x.submissions ∧
      y.sinks = order.foldl SinkSet.resetStore x.sinks := by
  induction order generalizing x with
  | nil => exact ⟨x, .refl, rfl, rfl⟩
  | cons p rest ih =>
    have hlength : j < x.resets.length := (List.getElem?_eq_some_iff.mp hj).1
    obtain ⟨y, hrun, hsubmissions, hsinks⟩ := ih (x := { x with
      sinks := x.sinks.resetStore p
      resets := x.resets.set j rest
      history := ⟨.reset p, x.sinks, x.sinks.resetStore p⟩ :: x.history })
      (List.getElem?_set_self hlength)
    exact ⟨y, hrun.head (.resetNext hj), hsubmissions, hsinks⟩

theorem exists_run_resetAll (x : Intake) :
    ∃ y, Run x y ∧ y.submissions = x.submissions ∧
      ∀ p, y.sinks.get? p = x.sinks.resetAll.get? p := by
  obtain ⟨y, hrun, hsubmissions, hsinks⟩ :=
    run_resetStores (x := { x with resets := x.resets ++ [x.sinks.protocols] })
      (j := x.resets.length) List.getElem?_concat_length
  refine ⟨y, hrun.head .beginReset, hsubmissions, fun p => ?_⟩
  rw [hsinks, SinkSet.get?_resetAll_eq_foldl]

/-! ## What the history tells -/

/-- The moments at which the submission of a number has been served. -/
def servings (history : List Moment) (i : Nat) : List Moment :=
  history.filter fun m => m.event.serves i

/-- The batches that a protocol has taken since the last reset of its store, in order. -/
def taken (p : Protocol) (history : List Moment) : List Batch :=
  (((history.map Moment.event).takeWhile fun e => !e.resets p).filterMap (Event.batch? p)).reverse

def droppedCount (p : Protocol) (history : List Moment) : Nat :=
  (history.map Moment.event).countP (Event.drops p)

/-- Each moment begins where the one before it ended. -/
inductive Linked (start : SinkSet) : List Moment → SinkSet → Prop
  | nil : Linked start [] start
  | cons {m : Moment} {history : List Moment} (h : Linked start history m.before) :
      Linked start (m :: history) m.after

/-- What a moment does to the sinks is what its event calls for. -/
def Moment.Lawful (m : Moment) : Prop :=
  match m.event with
  | .serve _ p r status => (m.before.get? p).isSome ∧ SinkSet.Answers p r status m.before m.after
  | .reset p => SinkSet.Resets p m.before m.after

theorem Moment.Lawful.exists_changes {m : Moment} (h : m.Lawful) :
    ∃ change, SinkSet.Changes m.event.protocol change m.before m.after := by
  unfold Lawful at h
  split at h <;> rename_i hevent <;> rw [hevent]
  · exact h.2.exists_changes
  · exact ⟨_, h⟩

/-! ## The books of a sink -/

section

variable {p q : Protocol} {r : HttpRequest} {status : HttpStatus} {n : Nat}
  {before after start now : SinkSet} {history : List Moment}

@[simp] theorem taken_reset :
    taken p (⟨.reset q, before, after⟩ :: history) = if q = p then [] else taken p history := by
  by_cases hq : q = p
  · simp [taken, Event.resets, hq]
  · simp [taken, Event.resets, List.filterMap_cons, Event.batch?, hq]

theorem taken_serve :
    taken p (⟨.serve n q r status, before, after⟩ :: history) =
      taken p history ++ ((Event.serve n q r status).batch? p).toList := by
  cases hbatch : (Event.serve n q r status).batch? p <;>
    simp [taken, Event.resets, hbatch]

/-- The sink of a protocol holds what the history says: the batches in order, numbered from zero,
and the number of dropped payloads. -/
structure Balanced (p : Protocol) (history : List Moment) (sink : Sink) : Prop where
  stored : sink.store.captured = (taken p history).mapIdx fun i batch => ⟨i, p, batch⟩
  dropped : sink.dropped = droppedCount p history

theorem Balanced.append {sink : Sink} {batch : Batch} (h : Balanced p history sink)
    (hdecode : p.decode r.body = .ok batch) :
    Balanced p (⟨.serve n p r .ok, before, after⟩ :: history)
      { sink with store := sink.store.append p batch } := by
  have hbatch : (Event.serve n p r .ok).batch? p = some batch := by
    simp [Event.batch?, hdecode, Except.toOption]
  refine ⟨?_, h.dropped.trans ?_⟩
  · rw [taken_serve, hbatch, Option.toList_some, List.mapIdx_concat, ← h.stored]
    have hcount : sink.store.count = (taken p history).length := by
      rw [Store.count, h.stored, List.length_mapIdx]
    rw [Store.append, hcount]
  · simp [droppedCount, Event.drops]

theorem Balanced.of_served {sink : Sink} (h : Balanced p history sink)
    (hbatch : (Event.serve n q r status).batch? p = none)
    (hdrops : (Event.serve n q r status).drops p = false) :
    Balanced p (⟨.serve n q r status, before, after⟩ :: history) sink := by
  refine ⟨?_, h.dropped.trans ?_⟩
  · rw [taken_serve, hbatch, Option.toList_none, List.append_nil, h.stored]
  · simp [droppedCount, hdrops]

theorem Balanced.served_elsewhere {sink : Sink} (h : Balanced p history sink) (hp : p ≠ q) :
    Balanced p (⟨.serve n q r status, before, after⟩ :: history) sink := by
  refine h.of_served ?_ ?_
  · cases status <;> simp [Event.batch?, hp.symm]
  · cases status <;> simp [Event.drops, hp.symm]

theorem Balanced.drop {sink : Sink} (h : Balanced p history sink) :
    Balanced p (⟨.serve n p r .badRequest, before, after⟩ :: history)
      { sink with dropped := sink.dropped + 1 } := by
  refine ⟨?_, ?_⟩
  · rw [taken_serve, show (Event.serve n p r .badRequest).batch? p = none from rfl,
      Option.toList_none, List.append_nil, h.stored]
  · simp [droppedCount, Event.drops, h.dropped]

theorem Balanced.reset {sink : Sink} (h : Balanced p history sink) :
    Balanced p (⟨.reset q, before, after⟩ :: history) (if p = q then sink.reset else sink) := by
  refine ⟨?_, ?_⟩
  · rw [taken_reset]
    by_cases hp : p = q
    · rw [if_pos hp, if_pos hp.symm]
      rfl
    · rw [if_neg hp, if_neg (Ne.symm hp), h.stored]
  · rw [show (if p = q then sink.reset else sink).dropped = sink.dropped by split <;> rfl,
      h.dropped]
    simp [droppedCount, Event.drops]

theorem balanced_of_lawful {m : Moment} (hm : m.Lawful)
    (h : ∀ sink, m.before.get? p = some sink → Balanced p history sink) {sink : Sink}
    (hsink : m.after.get? p = some sink) : Balanced p (m :: history) sink := by
  obtain ⟨event, before, after⟩ := m
  cases event with
  | reset q =>
    obtain ⟨old, hold, rfl⟩ := SinkSet.Changes.sink_eq hm hsink
    exact (h old hold).reset
  | serve n q r status =>
    -- Only what was accepted or dropped is booked, and only with its own protocol.
    obtain ⟨-, hanswers⟩ := hm
    cases hanswers with
    | accepted _ hdecode hchanges =>
      obtain ⟨old, hold, rfl⟩ := hchanges.sink_eq hsink
      split
      · rename_i hp
        subst hp
        exact (h old hold).append hdecode
      · rename_i hp
        exact (h old hold).served_elsewhere hp
    | dropped _ _ hchanges =>
      obtain ⟨old, hold, rfl⟩ := hchanges.sink_eq hsink
      split
      · rename_i hp
        subst hp
        exact (h old hold).drop
      · rename_i hp
        exact (h old hold).served_elsewhere hp
    | refused _ hstatus hchanges =>
      obtain ⟨old, hold, rfl⟩ := hchanges.sink_eq hsink
      rw [id, ite_self]
      refine (h old hold).of_served ?_ ?_
      · rcases hstatus with rfl | rfl | rfl <;> rfl
      · rcases hstatus with rfl | rfl | rfl <;> rfl

theorem balanced_of_linked (hstart : start.Fresh) (hlinked : Linked start history now)
    (hlawful : ∀ m ∈ history, m.Lawful) {sink : Sink} (hsink : now.get? p = some sink) :
    Balanced p history sink := by
  induction hlinked generalizing sink with
  | nil => exact ⟨hstart.stored p sink hsink, hstart.dropped p sink hsink⟩
  | cons _ ih =>
    refine balanced_of_lawful (hlawful _ List.mem_cons_self) (fun old hold => ?_) hsink
    exact ih (fun m hm => hlawful m (List.mem_cons_of_mem _ hm)) hold

theorem isSome_of_linked (hlinked : Linked start history now)
    (hlawful : ∀ m ∈ history, m.Lawful) (p : Protocol) :
    (now.get? p).isSome = (start.get? p).isSome := by
  induction hlinked with
  | nil => rfl
  | cons _ ih =>
    obtain ⟨_, hchanges⟩ := (hlawful _ List.mem_cons_self).exists_changes
    rw [hchanges.isSome_eq p]
    exact ih fun m hm => hlawful m (List.mem_cons_of_mem _ hm)

theorem signal_of_mem_taken {batch : Batch} (h : batch ∈ taken p history) :
    batch.signal = p.signal := by
  unfold taken at h
  rw [List.mem_reverse, List.mem_filterMap] at h
  obtain ⟨event, -, hevent⟩ := h
  unfold Event.batch? at hevent
  split at hevent
  · rename_i r
    split at hevent
    · cases hdecode : p.decode r.body with
      | error _ => simp [hdecode, Except.toOption] at hevent
      | ok decoded =>
        obtain rfl : decoded = batch := by simpa [hdecode, Except.toOption] using hevent
        exact Protocol.signal_of_decode hdecode
    · simp at hevent
  · simp at hevent

end

/-! ## The books of a request -/

@[simp] theorem servings_cons (m : Moment) (history : List Moment) (i : Nat) :
    servings (m :: history) i =
      if m.event.serves i then m :: servings history i else servings history i :=
  List.filter_cons

/-- A request is served once, with the status that it gets in the end. -/
structure Tracked (history : List Moment) (i : Nat) (s : Submission) : Prop where
  unserved : s.stage.status? = none → servings history i = []
  served : ∀ status, s.stage.status? = some status →
    ∃ m, servings history i = [m] ∧ m.event = .serve i s.protocol s.request status

theorem Tracked.of_servings_eq {history history' : List Moment} {i : Nat} {s : Submission}
    (h : Tracked history i s) (hsame : servings history' i = servings history i) :
    Tracked history' i s := by
  refine ⟨?_, ?_⟩ <;> rw [hsame]
  · exact h.unserved
  · exact h.served

/-- What each step keeps. -/
structure Recorded (start : SinkSet) (x : Intake) : Prop where
  keyed : x.sinks.Keyed
  linked : Linked start x.history x.sinks
  lawful : ∀ m ∈ x.history, m.Lawful
  sinks : ∀ s ∈ x.submissions, (start.get? s.protocol).isSome
  tracked : ∀ i s, x.submissions[i]? = some s → Tracked x.history i s
  unborn : ∀ i, x.submissions[i]? = none → servings x.history i = []

section

variable {start : SinkSet} {x y : Intake}

theorem recorded_start (hstart : start.Fresh) : Recorded start { sinks := start } where
  keyed := hstart.keyed
  linked := .nil
  lawful _ hm := by contradiction
  sinks _ hs := by contradiction
  tracked _ _ hi := by simp at hi
  unborn _ _ := rfl

theorem Recorded.arrive (h : Recorded start x) {p : Protocol} (r : HttpRequest)
    (hsink : (x.sinks.get? p).isSome) :
    Recorded start { x with submissions := x.submissions ++ [⟨p, r, .waiting⟩] } := by
  refine ⟨h.keyed, h.linked, h.lawful, fun s hs => ?_, fun i s hi => ?_, fun i hi => ?_⟩
  · rcases List.mem_append.mp hs with hs | hs
    · exact h.sinks s hs
    · obtain rfl := List.mem_singleton.mp hs
      rw [← isSome_of_linked h.linked h.lawful p]
      exact hsink
  · rw [List.getElem?_append] at hi
    split at hi
    · exact h.tracked i s hi
    · rename_i hlength
      have hnone := h.unborn i (List.getElem?_eq_none (Nat.le_of_not_lt hlength))
      obtain rfl := List.mem_singleton.mp (List.mem_of_getElem? hi)
      exact ⟨fun _ => hnone, fun status hstatus => by simp [Stage.status?] at hstatus⟩
  · refine h.unborn i ?_
    rw [List.getElem?_eq_none_iff] at hi ⊢
    rw [List.length_append] at hi
    omega

theorem Recorded.set (h : Recorded start x) {i : Nat} {s t : Submission}
    (hi : x.submissions[i]? = some s) (hprotocol : t.protocol = s.protocol) {sinks : SinkSet}
    {history : List Moment} (hkeyed : sinks.Keyed) (hlinked : Linked start history sinks)
    (hlawful : ∀ m ∈ history, m.Lawful) (htracked : Tracked history i t)
    (hothers : ∀ j, j ≠ i → servings history j = servings x.history j) :
    Recorded start { x with sinks, submissions := x.submissions.set i t, history } := by
  have hlength : i < x.submissions.length := (List.getElem?_eq_some_iff.mp hi).1
  refine ⟨hkeyed, hlinked, hlawful, fun u hu => ?_, fun j u hj => ?_, fun j hj => ?_⟩
  · rcases List.mem_or_eq_of_mem_set hu with hu | rfl
    · exact h.sinks u hu
    · rw [hprotocol]
      exact h.sinks s (List.mem_of_getElem? hi)
  · -- The others stay as they are, and nothing has been served for them.
    by_cases hji : j = i
    · subst hji
      rw [List.getElem?_set_self hlength] at hj
      cases hj
      exact htracked
    · rw [List.getElem?_set_ne (Ne.symm hji)] at hj
      exact (h.tracked j u hj).of_servings_eq (hothers j hji)
  · rw [List.getElem?_eq_none_iff, List.length_set] at hj
    rw [hothers j (by omega)]
    exact h.unborn j (List.getElem?_eq_none hj)

theorem Recorded.serve (h : Recorded start x) {i : Nat} {s : Submission} {status : HttpStatus}
    {sinks : SinkSet} (hi : x.submissions[i]? = some s) (hstage : s.stage = .waiting)
    (hhandle : x.sinks.handle s.protocol s.request = (some status, sinks)) :
    Recorded start { x with
      sinks
      submissions := x.submissions.set i { s with stage := .served status }
      history := ⟨.serve i s.protocol s.request status, x.sinks, sinks⟩ :: x.history } := by
  have hanswers := SinkSet.answers_of_handle h.keyed hhandle
  have hlinked := Linked.cons (m := ⟨.serve i s.protocol s.request status, x.sinks, sinks⟩) h.linked
  refine h.set (t := { s with stage := .served status }) hi rfl (hanswers.2.keyed h.keyed) hlinked
    ?_ ⟨?_, ?_⟩ ?_
  · rw [List.forall_mem_cons]
    exact ⟨hanswers, h.lawful⟩
  · intro hnone
    simp [Stage.status?] at hnone
  · intro settled hsettled
    obtain rfl : status = settled := Option.some.inj hsettled
    -- It was waiting, so this is the first moment at which it is served, and it will not wait
    -- again.
    have hunserved := (h.tracked i s hi).unserved (by rw [hstage]; rfl)
    exact ⟨_, by rw [servings_cons, hunserved, if_pos (by simp [Event.serves])], rfl⟩
  · intro j hj
    rw [servings_cons, if_neg (by simpa [Event.serves] using hj.symm)]

theorem Recorded.answer (h : Recorded start x) {i : Nat} {s : Submission} {status : HttpStatus}
    (hi : x.submissions[i]? = some s) (hstage : s.stage = .served status) :
    Recorded start
      { x with submissions := x.submissions.set i { s with stage := .answered status } } := by
  have hserved := (h.tracked i s hi).served
  rw [hstage] at hserved
  refine h.set (t := { s with stage := .answered status }) hi rfl h.keyed h.linked h.lawful
    ⟨?_, hserved⟩ fun _ _ => rfl
  intro hnone
  simp [Stage.status?] at hnone

theorem Recorded.resetNext (h : Recorded start x) (p : Protocol) (resets : List (List Protocol)) :
    Recorded start { x with
      sinks := x.sinks.resetStore p
      resets
      history := ⟨.reset p, x.sinks, x.sinks.resetStore p⟩ :: x.history } := by
  have hresets := x.sinks.resets_resetStore p
  have hsame (i : Nat) :
      servings (⟨.reset p, x.sinks, x.sinks.resetStore p⟩ :: x.history) i =
        servings x.history i := by
    rw [servings_cons, if_neg (by simp [Event.serves])]
  refine ⟨h.keyed.of_changes hresets fun _ => rfl, .cons h.linked, ?_, h.sinks, ?_, ?_⟩
  · rw [List.forall_mem_cons]
    exact ⟨hresets, h.lawful⟩
  · intro i s hi
    exact (h.tracked i s hi).of_servings_eq (hsame i)
  · intro i hi
    rw [hsame i]
    exact h.unborn i hi

theorem Recorded.step (h : Recorded start x) (hstep : Step x y) : Recorded start y := by
  cases hstep with
  | arrive r hsink => exact h.arrive r hsink
  | serve hi hstage hhandle => exact h.serve hi hstage hhandle
  | answer hi hstage => exact h.answer hi hstage
  | beginReset => exact ⟨h.keyed, h.linked, h.lawful, h.sinks, h.tracked, h.unborn⟩
  | resetNext _ => exact h.resetNext ..

theorem Recorded.run (h : Recorded start x) (hrun : Run x y) : Recorded start y := by
  induction hrun with
  | refl => exact h
  | tail _ hstep ih => exact ih.step hstep

end

/-! ## The accounts at any moment -/

/-- What can be said of the sinks, and of each request that has come to them, at any moment. -/
structure Accounted (start : SinkSet) (x : Intake) : Prop where
  sinks : ∀ p, (x.sinks.get? p).isSome = (start.get? p).isSome
  /-- The history leads from the sinks as they were started to the sinks as they are. -/
  linked : Linked start x.history x.sinks
  /-- Each store lists the batches taken since its last reset; each dropped payload is counted. -/
  balanced : ∀ p sink, x.sinks.get? p = some sink → Balanced p x.history sink
  signals : ∀ p, ∀ batch ∈ taken p x.history, batch.signal = p.signal
  /-- All that has been served was submitted. -/
  submitted : ∀ m ∈ x.history, ∀ i p r status, m.event = .serve i p r status →
    ∃ s, x.submissions[i]? = some s ∧ s.protocol = p ∧ s.request = r ∧
      s.stage.status? = some status
  /-- A request that waits has not been served yet, and can be. -/
  waiting : ∀ i s, x.submissions[i]? = some s → s.stage = .waiting →
    servings x.history i = [] ∧
      ∃ status sinks, x.sinks.handle s.protocol s.request = (some status, sinks)
  /-- A request has been accepted if and only if its batch was stored, just once. -/
  accepted : ∀ i s status, x.submissions[i]? = some s → s.stage = .answered status →
    (status = .ok ↔ ∃ batch m, s.protocol.decode s.request.body = .ok batch ∧
      servings x.history i = [m] ∧ SinkSet.Appends s.protocol batch m.before m.after)
  /-- A request to a handler has been turned down if and only if its payload cannot be decoded;
  otherwise it has been accepted. -/
  undecodable : ∀ (i : Nat) (s : Submission) (status : HttpStatus), x.submissions[i]? = some s →
    s.stage = .answered status → s.request.Reaches s.protocol →
    (status = .ok ∨ status = .badRequest) ∧
      (status = .badRequest ↔ ∃ error, s.protocol.decode s.request.body = .error error)
  /-- A payload that was turned down has been counted, just once, and has changed no store. -/
  dropped : ∀ i s, x.submissions[i]? = some s → s.stage = .answered .badRequest →
    ∃ m, servings x.history i = [m] ∧ SinkSet.Drops s.protocol m.before m.after
  /-- A request that has not reached a handler has changed nothing. -/
  refused : ∀ (i : Nat) (s : Submission) (status : HttpStatus), x.submissions[i]? = some s →
    s.stage = .answered status → ¬ s.request.Reaches s.protocol →
    (status = .notFound ∨ status = .methodNotAllowed ∨ status = .payloadTooLarge) ∧
      ∃ m, servings x.history i = [m] ∧ ∀ q, m.after.get? q = m.before.get? q
  /-- What happens at one sink leaves the others as they are. -/
  isolated : ∀ m ∈ x.history, ∀ q, q ≠ m.event.protocol → m.after.get? q = m.before.get? q

section

variable {start : SinkSet} {x : Intake} {i : Nat} {s : Submission} {status : HttpStatus}

theorem Recorded.submitted (h : Recorded start x) {m : Moment} (hm : m ∈ x.history)
    {p : Protocol} {r : HttpRequest} (hevent : m.event = .serve i p r status) :
    ∃ s, x.submissions[i]? = some s ∧ s.protocol = p ∧ s.request = r ∧
      s.stage.status? = some status := by
  have hserving : m ∈ servings x.history i :=
    List.mem_filter.mpr ⟨hm, by simp [hevent, Event.serves]⟩
  cases hi : x.submissions[i]? with
  | none =>
    rw [h.unborn i hi] at hserving
    contradiction
  | some s =>
    have htracked := h.tracked i s hi
    cases hstatus : s.stage.status? with
    | none =>
      rw [htracked.unserved hstatus] at hserving
      contradiction
    | some settled =>
      -- There is one moment only for this number, so the event is the one of the submission.
      obtain ⟨m', hservings, hevent'⟩ := htracked.served settled hstatus
      rw [hservings, List.mem_singleton] at hserving
      subst hserving
      rw [hevent'] at hevent
      cases hevent
      exact ⟨s, rfl, rfl, rfl, hstatus⟩

theorem Recorded.answers (h : Recorded start x) (hi : x.submissions[i]? = some s)
    (hstage : s.stage = .answered status) :
    ∃ m, servings x.history i = [m] ∧ (m.before.get? s.protocol).isSome ∧
      SinkSet.Answers s.protocol s.request status m.before m.after := by
  obtain ⟨m, hservings, hevent⟩ := (h.tracked i s hi).served status (by rw [hstage]; rfl)
  have hm : m ∈ x.history := by
    refine (List.mem_filter.mp (?_ : m ∈ servings x.history i)).1
    rw [hservings]
    exact List.mem_singleton_self m
  have hlawful := h.lawful m hm
  unfold Moment.Lawful at hlawful
  rw [hevent] at hlawful
  exact ⟨m, hservings, hlawful⟩

theorem Recorded.accepted (h : Recorded start x) (hi : x.submissions[i]? = some s)
    (hstage : s.stage = .answered status) :
    status = .ok ↔ ∃ batch m, s.protocol.decode s.request.body = .ok batch ∧
      servings x.history i = [m] ∧ SinkSet.Appends s.protocol batch m.before m.after := by
  obtain ⟨m, hservings, hsink, hanswers⟩ := h.answers hi hstage
  cases hanswers with
  | accepted _ hdecode hchanges =>
    exact ⟨fun _ => ⟨_, m, hdecode, hservings, hchanges⟩, fun _ => rfl⟩
  | dropped _ hdecode _ =>
    refine ⟨fun hok => by contradiction, ?_⟩
    rintro ⟨batch, m', hok, -, -⟩
    rw [hdecode] at hok
    contradiction
  | refused _ hstatus hchanges =>
    refine ⟨fun hok => ?_, ?_⟩
    · rw [hok] at hstatus
      rcases hstatus with hstatus | hstatus | hstatus <;> contradiction
    · rintro ⟨batch, m', -, hservings', happends⟩
      rw [hservings] at hservings'
      cases hservings'
      exact absurd happends (SinkSet.Appends.not_of_store_eq hchanges hsink fun _ => rfl)

theorem Recorded.undecodable (h : Recorded start x) (hi : x.submissions[i]? = some s)
    (hstage : s.stage = .answered status) (hreaches : s.request.Reaches s.protocol) :
    (status = .ok ∨ status = .badRequest) ∧
      (status = .badRequest ↔ ∃ error, s.protocol.decode s.request.body = .error error) := by
  obtain ⟨m, -, -, hanswers⟩ := h.answers hi hstage
  cases hanswers with
  | accepted _ hdecode _ => simp [hdecode]
  | dropped _ hdecode _ => simp [hdecode]
  | refused hrefused _ _ => exact absurd hreaches hrefused

theorem Recorded.dropped (h : Recorded start x) (hi : x.submissions[i]? = some s)
    (hstage : s.stage = .answered .badRequest) :
    ∃ m, servings x.history i = [m] ∧ SinkSet.Drops s.protocol m.before m.after := by
  obtain ⟨m, hservings, -, hanswers⟩ := h.answers hi hstage
  cases hanswers with
  | dropped _ _ hchanges => exact ⟨m, hservings, hchanges⟩
  | refused _ hstatus _ => rcases hstatus with hstatus | hstatus | hstatus <;> contradiction

theorem Recorded.refused (h : Recorded start x) (hi : x.submissions[i]? = some s)
    (hstage : s.stage = .answered status) (hreaches : ¬ s.request.Reaches s.protocol) :
    (status = .notFound ∨ status = .methodNotAllowed ∨ status = .payloadTooLarge) ∧
      ∃ m, servings x.history i = [m] ∧ ∀ q, m.after.get? q = m.before.get? q := by
  obtain ⟨m, hservings, -, hanswers⟩ := h.answers hi hstage
  cases hanswers with
  | accepted hreached _ _ => exact absurd hreached hreaches
  | dropped hreached _ _ => exact absurd hreached hreaches
  | refused _ hstatus hchanges => exact ⟨hstatus, m, hservings, hchanges.get?_eq⟩

theorem Recorded.waiting (h : Recorded start x) (hi : x.submissions[i]? = some s)
    (hstage : s.stage = .waiting) :
    servings x.history i = [] ∧
      ∃ status sinks, x.sinks.handle s.protocol s.request = (some status, sinks) := by
  refine ⟨(h.tracked i s hi).unserved (by rw [hstage]; rfl), SinkSet.exists_handle ?_ _⟩
  rw [isSome_of_linked h.linked h.lawful]
  exact h.sinks s (List.mem_of_getElem? hi)

theorem Recorded.isolated (h : Recorded start x) {m : Moment} (hm : m ∈ x.history)
    {q : Protocol} (hq : q ≠ m.event.protocol) : m.after.get? q = m.before.get? q := by
  obtain ⟨_, hchanges⟩ := (h.lawful m hm).exists_changes
  exact hchanges.elsewhere q hq

end

/-- The accounts of started sinks are in order at every moment, in whatever order requests arrive,
are served and are answered while stores are being reset. -/
theorem accounted_of_run {settings : List SinkSettings} {n n' : Listeners} {start : SinkSet}
    {x : Intake} (hstart : SinkSet.startAll settings {} n = (.ok start, n'))
    (hrun : Run { sinks := start } x) : Accounted start x := by
  have hfresh : start.Fresh := SinkSet.fresh_of_startAll SinkSet.fresh_empty hstart
  have h : Recorded start x := (recorded_start hfresh).run hrun
  exact {
    sinks := isSome_of_linked h.linked h.lawful
    linked := h.linked
    balanced := fun p sink hsink => balanced_of_linked hfresh h.linked h.lawful hsink
    signals := fun p batch => signal_of_mem_taken
    submitted := fun m hm i p r status => h.submitted hm
    waiting := fun i s => h.waiting
    accepted := fun i s status => h.accepted
    undecodable := fun i s status => h.undecodable
    dropped := fun i s => h.dropped
    refused := fun i s status => h.refused
    isolated := fun m hm q => h.isolated hm }

def metricsAndLogs : SinkSet where
  sinks := { entries := [(.hecLogs, { protocol := .hecLogs, listener := 1 }),
    (.hecMetrics, { protocol := .hecMetrics, listener := 0 })] }

/-- The same metrics are sent to both sinks; the sink for logs drops them. The store of the logs
has just been reset, that of the metrics is going to be. -/
theorem accounted_of_misdirected :
    ∃ n' x, SinkSet.startAll [.default .hecMetrics, .default .hecLogs] {} {} =
        (.ok metricsAndLogs, n') ∧
      Run { sinks := metricsAndLogs } x ∧ x.resets = [[.hecMetrics]] ∧
      x.submissions.map Submission.stage = [.answered .ok, .answered .badRequest] ∧
      Accounted metricsAndLogs x := by
  have hstart : SinkSet.startAll [.default .hecMetrics, .default .hecLogs] {} {} =
    (.ok metricsAndLogs, _) := rfl
  let r : HttpRequest := { body := "[\"metrics\",[]]".toUTF8.toList }
  let reset := metricsAndLogs.resetStore .hecLogs
  let served := (reset.handle .hecLogs r).2
  have hlogs : reset.handle .hecLogs r = (some .badRequest, served) :=
    Prod.ext (by decide +kernel) rfl
  have hmetrics : served.handle .hecMetrics r = (some .ok, (served.handle .hecMetrics r).2) :=
    Prod.ext (by decide +kernel) rfl
  -- The requests are served after the reset of one store and before that of the other.
  have hrun : Run { sinks := metricsAndLogs } _ := Relation.ReflTransGen.refl
    |>.tail (.arrive (p := .hecMetrics) r (by decide))
    |>.tail (.arrive (p := .hecLogs) r (by decide))
    |>.tail .beginReset
    |>.tail (.resetNext (j := 0) (p := .hecLogs) (by rfl))
    |>.tail (.serve (i := 1) rfl rfl hlogs)
    |>.tail (.serve (i := 0) rfl rfl hmetrics)
    |>.tail (.answer (i := 0) rfl rfl)
    |>.tail (.answer (i := 1) rfl rfl)
  exact ⟨_, _, hstart, hrun, rfl, rfl, accounted_of_run hstart hrun⟩

end Intake

end GoldenCapture
