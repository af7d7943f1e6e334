import GoldenCapture.Proofs.Run.Concord
import GoldenCapture.Proofs.Run.Waits
import GoldenCapture.Proofs.Sink.Startup

/-!
# Start and shutdown

A run that cannot start leaves the listeners of its host as they were, and reports the first step
that failed. A run that starts has a listener for each part that its settings ask for, and none of
them outlives its shutdown.
-/

namespace GoldenCapture

/-! ## What can go wrong -/

namespace Settings

/-- The listeners of a run, in the order in which they are started. -/
def calls (settings : Settings) : List ListenerCall :=
  (settings.apiStub.map (ListenerCall.mk ApiStub.label)).toList ++
    settings.sinks.map SinkSettings.call

/-- Why the settings cannot be used. -/
def settingsFault (settings : Settings) : Option Failure :=
  match settings.validate with
  | .ok () => none
  | .error failure => some failure

/-- Why there is no folder for lease records. -/
def folderFault (settings : Settings) (files : FileTree) : Option Failure :=
  match settings.lease, settings.leaseDir with
  | some _, some folder =>
    match files.makeFolder folder with
    | .ok _ => none
    | .error _ => some (.lease (.backend .storage))
  | _, _ => none

/-- Why the coordinator does not take the lease that it is to coordinate. -/
def coordinatorFault (settings : Settings) : Option Failure :=
  settings.lease.bind fun config =>
    match config.validate with
    | .ok () => none
    | .error error => some (.lease error)

/-- Why a listener cannot be started, if all those before it are running. -/
def listenerFault (settings : Settings) (n : Listeners) (k : Nat) (call : ListenerCall) :
    Option Failure :=
  if n.denies settings.calls k call.address then
    some (.listener call.label call.address.text)
  else none

/-- What goes wrong at each step of a start, in the order of the steps. -/
def faults (settings : Settings) (host : Host) : List (Option Failure) :=
  settings.settingsFault :: settings.folderFault host.folder.files :: settings.coordinatorFault ::
    settings.calls.mapIdx (settings.listenerFault host.listeners)

/-- What goes wrong first. -/
def firstFault? (settings : Settings) (host : Host) : Option Failure :=
  (settings.faults host).findSome? id

end Settings

section

variable {settings : Settings} {host : Host} {n n' : Listeners} {opened : List Listener}
  {failure : Failure}

theorem Settings.nodup_of_protocolTwice? {seen : List Protocol} {sinks : List SinkSettings}
    (h : protocolTwice? seen sinks = none) :
    (sinks.map SinkSettings.protocol).Nodup ∧
      ∀ p ∈ sinks.map SinkSettings.protocol, p ∉ seen := by
  induction sinks generalizing seen with
  | nil => exact ⟨List.nodup_nil, fun p hp => absurd hp List.not_mem_nil⟩
  | cons first rest ih =>
    unfold protocolTwice? at h
    split at h
    · cases h
    · rename_i hfirst
      rw [List.contains_iff_mem] at hfirst
      obtain ⟨hnodup, hunseen⟩ := ih h
      refine ⟨List.nodup_cons.mpr ⟨fun hmem => hunseen _ hmem List.mem_cons_self, hnodup⟩, ?_⟩
      intro p hp
      obtain rfl | hp := List.mem_cons.mp hp
      · exact hfirst
      · exact fun hmem => hunseen p hp (List.mem_cons_of_mem _ hmem)

theorem Settings.nodup_of_validate (h : settings.validate = .ok ()) :
    (settings.sinks.map SinkSettings.protocol).Nodup := by
  unfold validate at h
  split at h
  · cases h
  · rename_i hproblem
    unfold problem? at hproblem
    split at hproblem
    · cases hproblem
    · rename_i htwice
      exact (nodup_of_protocolTwice? htwice).1

theorem Settings.coordinatorFault_of_validate (h : settings.validate = .ok ()) :
    settings.coordinatorFault = none := by
  unfold coordinatorFault
  cases hlease : settings.lease with
  | none => rfl
  | some config =>
    rw [Option.bind_some]
    unfold LeaseConfig.validate
    rw [problem?_of_validate h hlease]

theorem Settings.firstFault?_of_invalid (h : settings.validate = .error failure) :
    settings.firstFault? host = some failure := by
  unfold firstFault? faults settingsFault
  rw [h]
  rfl

theorem Settings.firstFault?_of_folder (hvalid : settings.validate = .ok ())
    (h : settings.folderFault host.folder.files = some failure) :
    settings.firstFault? host = some failure := by
  unfold firstFault? faults settingsFault
  rw [hvalid, h]
  rfl

theorem Settings.firstFault?_eq (hvalid : settings.validate = .ok ())
    (hfolder : settings.folderFault host.folder.files = none) :
    settings.firstFault? host =
      (settings.calls.mapIdx (settings.listenerFault host.listeners)).findSome? id := by
  unfold firstFault? faults settingsFault
  rw [hvalid, hfolder, coordinatorFault_of_validate hvalid]
  rfl

theorem findSome?_of_getElem? {α β : Type} {f : α → Option β} {l : List α} {k : Nat} {a : α} {b : β}
    (ha : l[k]? = some a) (hb : f a = some b)
    (hbefore : ∀ j < k, ∀ x, l[j]? = some x → f x = none) : l.findSome? f = some b := by
  induction k generalizing l with
  | zero =>
    obtain ⟨rest, rfl⟩ := List.head?_eq_some_iff.mp (List.head?_eq_getElem? ▸ ha)
    rw [List.findSome?_cons, hb]
  | succ k ih =>
    cases l with
    | nil => cases ha
    | cons x rest =>
      rw [List.findSome?_cons, hbefore 0 (Nat.zero_lt_succ k) x rfl]
      exact ih ha fun j hj y hy => hbefore (j + 1) (Nat.succ_lt_succ hj) y hy

theorem Settings.listenerFault_of_meets (h : n.Meets settings.calls n' opened) {k : Nat}
    (hk : k < opened.length) {call : ListenerCall} (hcall : settings.calls[k]? = some call) :
    settings.listenerFault n k call = none := by
  unfold listenerFault
  rw [h.granted k hk call hcall]
  rfl

theorem Settings.firstFault?_of_denied (hvalid : settings.validate = .ok ())
    (hfolder : settings.folderFault host.folder.files = none)
    (h : host.listeners.Meets settings.calls n' opened) {call : ListenerCall}
    (hcall : settings.calls[opened.length]? = some call)
    (hdenies : host.listeners.denies settings.calls opened.length call.address = true) :
    settings.firstFault? host = some (.listener call.label call.address.text) := by
  rw [firstFault?_eq hvalid hfolder]
  refine findSome?_of_getElem? (k := opened.length)
    (a := some (.listener call.label call.address.text)) ?_ rfl ?_
  · rw [List.getElem?_mapIdx, hcall, Option.map_some]
    unfold listenerFault
    rw [hdenies]
    rfl
  · intro j hj x hx
    rw [List.getElem?_mapIdx, Option.map_eq_some_iff] at hx
    obtain ⟨earlier, hearlier, rfl⟩ := hx
    exact listenerFault_of_meets h hj hearlier

theorem Settings.firstFault?_of_all (hvalid : settings.validate = .ok ())
    (hfolder : settings.folderFault host.folder.files = none)
    (h : host.listeners.Meets settings.calls n' opened)
    (hall : opened.length = settings.calls.length) : settings.firstFault? host = none := by
  rw [firstFault?_eq hvalid hfolder, List.findSome?_eq_none_iff]
  intro x hx
  obtain ⟨k, hk, rfl⟩ := List.mem_mapIdx.mp hx
  exact listenerFault_of_meets h (hall ▸ hk) (List.getElem?_eq_getElem hk)

end

/-! ## Start -/

namespace RunContext

variable {settings : Settings} {identity : String} {host : Host} {traffic : List Delivery}

theorem enter_cases (settings : Settings) (identity : String) (files : FileTree) :
    (∃ failure, enter settings identity files = .error failure ∧
      settings.folderFault files = some failure) ∨
    ∃ parties files', enter settings identity files = .ok (parties, files') ∧
      settings.folderFault files = none := by
  unfold enter Settings.folderFault
  cases settings.lease with
  | none => exact .inr ⟨_, _, rfl, rfl⟩
  | some config =>
    cases settings.leaseDir with
    | none => exact .inr ⟨_, _, rfl, rfl⟩
    | some folder =>
      dsimp only
      cases files.makeFolder folder with
      | error fault => exact .inl ⟨_, rfl, rfl⟩
      | ok files' => exact .inr ⟨_, _, rfl, rfl⟩

def stubOf (l : Listener) : ApiStub := { listener := l.id }

theorem startStub_cases (settings : Settings) (n : Listeners) :
    (∃ (stub : Option Listener) (n' : Listeners), startStub settings n = .ok (stub.map stubOf, n') ∧
      n.Meets settings.calls n' stub.toList ∧
      stub.map Listener.call = settings.apiStub.map (ListenerCall.mk ApiStub.label)) ∨
    ∃ address, startStub settings n = .error (.listener ApiStub.label address.text) ∧
      settings.calls[0]? = some ⟨ApiStub.label, address⟩ ∧
      n.denies settings.calls 0 address = true := by
  have hnil := Listeners.meets_nil n settings.calls
  unfold startStub
  cases hstub : settings.apiStub with
  | none => exact .inl ⟨none, n, rfl, hnil, rfl⟩
  | some address =>
    have hcall : settings.calls[0]? = some ⟨ApiStub.label, address⟩ := by
      unfold Settings.calls
      rw [hstub]
      rfl
    cases hstart : n.start ApiStub.label address with
    | none => exact .inr ⟨address, by simp only [hstart], hcall, hnil.denied hstart⟩
    | some started =>
      obtain ⟨l, n'⟩ := started
      obtain ⟨hmeets, hl⟩ := hnil.next hcall hstart
      refine .inl ⟨some l, n', by simp only [hstart]; rfl, hmeets, ?_⟩
      rw [Option.map_some, Option.map_some, hl]

theorem stopStub_eq (stub : Option Listener) (n : Listeners) :
    stopStub (stub.map stubOf) n = (stub.toList.map Listener.id).foldl Listeners.stop n := by
  cases stub <;> rfl

theorem stopStub_congr {stub stub' : Option ApiStub} {n : Listeners}
    (h : stub'.map ApiStub.listener = stub.map ApiStub.listener) :
    stopStub stub' n = stopStub stub n := by
  have hstop : ∀ stub, stopStub stub n =
      ((stub.map ApiStub.listener).toList.foldl Listeners.stop n) := by
    rintro (_ | stub) <;> rfl
  rw [hstop, hstop, h]

theorem restores_of_stop {n n' : Listeners} {stub : Option Listener} {more : List Listener}
    {sinks : SinkSet} {wanted : List SinkSettings} (hn : n.Numbered)
    (hopens : n.Opens n' (stub.toList ++ more)) (hmans : sinks.Mans (wanted.zip more))
    (hlength : more.length ≤ wanted.length) :
    (stopStub (stub.map stubOf) (sinks.stopAll n')).Restores n := by
  unfold SinkSet.stopAll
  rw [stopStub_eq, ← List.foldl_append]
  refine hopens.restores hn fun id => ?_
  have hmore : (wanted.zip more).map Prod.snd = more := List.map_snd_zip hlength
  rw [List.map_append, List.mem_append, List.mem_append, or_comm, hmans.mem_listeners]
  refine or_congr_right ?_
  nth_rewrite 2 [← hmore]
  rw [List.map_map, List.mem_map]
  rfl

/-- A run has been started beside the listeners of its host, with these of its own. -/
structure Staffed (c : RunContext) (settings : Settings) (n : Listeners) (stub : Option Listener)
    (posts : List Listener) : Prop where
  running : c.listeners.running = n.running ++ (stub.toList ++ posts)
  stub_call : stub.map Listener.call = settings.apiStub.map (ListenerCall.mk ApiStub.label)
  sink_calls : posts.map Listener.call = settings.sinks.map SinkSettings.call
  numbered : c.listeners.Numbered
  stub_eq : c.stub = stub.map stubOf
  mans : c.sinks.Mans (settings.sinks.zip posts)
  stores : ∀ sink ∈ settings.sinks, c.store sink.protocol = .ok {}
  no_other_stores : ∀ p, p ∉ settings.sinks.map SinkSettings.protocol →
    c.store p = .error (.noSink p)

variable {n n' : Listeners} {stub : Option Listener} {posts : List Listener} {c c' c'' : RunContext}

theorem calls_eq
    (hstub : stub.map Listener.call = settings.apiStub.map (ListenerCall.mk ApiStub.label)) :
    settings.calls = stub.toList.map Listener.call ++ settings.sinks.map SinkSettings.call := by
  unfold Settings.calls
  rw [← hstub]
  cases stub <;> rfl

theorem length_calls
    (hstub : stub.map Listener.call = settings.apiStub.map (ListenerCall.mk ApiStub.label)) :
    settings.calls.length = stub.toList.length + settings.sinks.length := by
  rw [calls_eq hstub, List.length_append, List.length_map, List.length_map]

theorem staffed_of_started {sinks : SinkSet} (hn : n.Numbered)
    (hmeets : n.Meets settings.calls n' (stub.toList ++ posts))
    (hstub : stub.map Listener.call = settings.apiStub.map (ListenerCall.mk ApiStub.label))
    (hposts : posts.length = settings.sinks.length) (hmans : sinks.Mans (settings.sinks.zip posts))
    (hlisteners : c.listeners = n') (hsinks : c.sinks = sinks) (hown : c.stub = stub.map stubOf) :
    c.Staffed settings n stub posts := by
  subst hlisteners hsinks
  have hfirst : (settings.sinks.zip posts).map Prod.fst = settings.sinks :=
    List.map_fst_zip hposts.ge
  have hprotocols : (settings.sinks.zip posts).map SinkPost.protocol =
      settings.sinks.map SinkSettings.protocol := by
    nth_rewrite 2 [← hfirst]
    rw [List.map_map]
    rfl
  constructor
  case running => exact hmeets.running
  case stub_call => exact hstub
  case sink_calls =>
    have hcalls := hmeets.calls_eq
    rw [List.length_append, hposts, ← length_calls hstub, List.take_length, calls_eq hstub,
      List.map_append] at hcalls
    exact List.append_cancel_left hcalls
  case numbered => exact hmeets.toOpens.numbered hn
  case stub_eq => exact hown
  case mans => exact hmans
  case stores =>
    intro sink hsink
    rw [← hfirst] at hsink
    obtain ⟨post, hpost, rfl⟩ := List.mem_map.mp hsink
    exact hmans.store_eq hpost
  case no_other_stores =>
    intro p hp
    unfold store SinkSet.store SinkSet.sink
    rw [hmans.nowhere_else p (hprotocols ▸ hp)]

/-! ## Use and shutdown -/

/-- What may happen to a run before its shutdown. Its lease, its clock and its files may change in
any way. -/
inductive Uses (c : RunContext) : RunContext → Prop
  | refl : Uses c c
  | deliver {c' : RunContext} (h : Uses c c') (d : Delivery) : Uses c (c'.deliver d)
  | append {c' : RunContext} (h : Uses c c') (p : Protocol) (batch : Batch) :
      Uses c { c' with sinks := c'.sinks.append p batch }
  | resetAll {c' : RunContext} (h : Uses c c') : Uses c { c' with sinks := c'.sinks.resetAll }
  | callStub {c' : RunContext} (h : Uses c c') (r : HttpRequest) :
      Uses c { c' with stub := c'.stub.map fun stub => (stub.handle r).2 }
  | sleepUntil {c' : RunContext} (h : Uses c c') (t : Nat) : Uses c (c'.sleepUntil t)
  | waitForBatches {c' : RunContext} (h : Uses c c') (p : Protocol) (wanted : Nat) :
      Uses c (c'.waitForBatches p wanted).2
  | waitForSelection {c' : RunContext} (h : Uses c c') (p : Protocol) (selector : Selector)
      (expected : Batch) : Uses c (c'.waitForSelection p selector expected).2
  | acquireLease {c' : RunContext} (h : Uses c c') : Uses c c'.acquireLease.2
  | runLine {c' : RunContext} (h : Uses c c') (line : String) : Uses c (c'.runLine line).2
  | withLease {c' : RunContext} (h : Uses c c') (lease : Contest LeaseSite) :
      Uses c { c' with lease }

/-- The run has the listeners that it had. -/
structure Holds (c c' : RunContext) : Prop where
  listeners : c'.listeners = c.listeners
  stub : c'.stub.map ApiStub.listener = c.stub.map ApiStub.listener
  shutDown : c'.shutDown = c.shutDown
  sinks : ∀ p, (c'.sinks.get? p).map Sink.listener = (c.sinks.get? p).map Sink.listener

theorem Holds.refl (c : RunContext) : c.Holds c := ⟨rfl, rfl, rfl, fun _ => rfl⟩

theorem Holds.withSinks (h : c.Holds c') {sinks : SinkSet}
    (hsinks : ∀ p, (sinks.get? p).map Sink.listener = (c'.sinks.get? p).map Sink.listener) :
    c.Holds { c' with sinks } :=
  ⟨h.listeners, h.stub, h.shutDown, fun p => (hsinks p).trans (h.sinks p)⟩

theorem Holds.withLease (h : c.Holds c') (lease : Contest LeaseSite) :
    c.Holds { c' with lease } := ⟨h.listeners, h.stub, h.shutDown, h.sinks⟩

theorem Holds.deliver (h : c.Holds c') (d : Delivery) : c.Holds (c'.deliver d) :=
  ⟨h.listeners, h.stub, h.shutDown, fun p => (SinkSet.listener_handle ..).trans (h.sinks p)⟩

theorem Holds.receiveUntil (h : c.Holds c') (t : Nat) : c.Holds (c'.receiveUntil t) :=
  List.foldlRecOn _ RunContext.deliver ⟨h.listeners, h.stub, h.shutDown, h.sinks⟩
    fun _ hc d _ => hc.deliver d

theorem Holds.sleepUntil (h : c.Holds c') (t : Nat) : c.Holds (c'.sleepUntil t) :=
  (h.receiveUntil t).withLease _

theorem Holds.reached (h : c.Holds c') (hreaches : timeline.Reaches c' c'') : c.Holds c'' :=
  hreaches.induct (fun t _ hc => hc.sleepUntil t) h

theorem Uses.holds (h : c.Uses c') : c.Holds c' := by
  induction h with
  | refl => exact .refl c
  | deliver _ d ih => exact ih.deliver d
  | append _ p batch ih => exact ih.withSinks (SinkSet.listener_append _ p batch)
  | resetAll _ ih =>
    refine ih.withSinks fun p => ?_
    rw [SinkSet.get?_resetAll, Option.map_map]
    rfl
  | callStub _ r ih =>
    refine ⟨ih.listeners, ?_, ih.shutDown, ih.sinks⟩
    rw [← ih.stub, Option.map_map]
    rfl
  | sleepUntil _ t ih => exact ih.sleepUntil t
  | waitForBatches _ p wanted ih => exact ih.reached (reaches_waitForBatches _ p wanted)
  | waitForSelection _ p selector expected ih =>
    exact ih.reached (reaches_waitForSelection _ p selector expected)
  | acquireLease _ ih =>
    unfold RunContext.acquireLease
    split
    · exact ih
    · exact (ih.receiveUntil _).withLease _
  | runLine _ line ih => exact (ih.reached (reaches_elapse _)).withLease _
  | withLease _ lease ih => exact ih.withLease lease

theorem Holds.listeners_sinks (h : c.Holds c') : c'.sinks.listeners = c.sinks.listeners := by
  have hsome : ∀ p, (c'.sinks.get? p).isSome = (c.sinks.get? p).isSome := fun p => by
    rw [← Option.isSome_map (f := Sink.listener), h.sinks p, Option.isSome_map]
  unfold SinkSet.listeners SinkSet.protocols
  simp only [hsome, h.sinks]

theorem shutdown_listeners (h : c.shutDown = false) :
    c.shutdown.2.listeners = stopStub c.stub (c.sinks.stopAll c.listeners) ∧
      c.shutdown.2.sinks = {} ∧ c.shutdown.2.stub = none := by
  unfold shutdown releaseLease
  rw [h]
  simp only [Bool.false_eq_true, if_false]
  split <;> exact ⟨rfl, rfl, rfl⟩

/-- The run has no listener any more, and those of its host are as they were. -/
structure Vacated (c : RunContext) (n : Listeners) : Prop where
  listeners : c.listeners.Restores n
  sinks : c.sinks = {}
  stub : c.stub = none

theorem vacated_of_uses (hn : n.Numbered) (hopens : n.Opens c.listeners (stub.toList ++ posts))
    (hstub : c.stub = stub.map stubOf) (hmans : c.sinks.Mans (settings.sinks.zip posts))
    (hposts : posts.length = settings.sinks.length) (hopen : c.shutDown = false)
    (huses : c.Uses c') : c'.shutdown.2.Vacated n := by
  have hholds := huses.holds
  obtain ⟨hlisteners, hsinks, hnone⟩ := shutdown_listeners (hholds.shutDown.trans hopen)
  refine ⟨?_, hsinks, hnone⟩
  rw [hlisteners, stopStub_congr hholds.stub, hstub, hholds.listeners]
  unfold SinkSet.stopAll
  rw [hholds.listeners_sinks]
  exact restores_of_stop hn hopens hmans (Nat.le_of_eq hposts)

/-- A start reports the first step that failed and leaves nothing running, or it has started what
the settings ask for; and then nothing of it outlives the shutdown. -/
theorem start_outcome (settings : Settings) (identity : String) (host : Host)
    (traffic : List Delivery) (hn : host.listeners.Numbered) :
    match start settings identity host traffic with
    | (.error failure, host') =>
      settings.firstFault? host = some failure ∧ host'.listeners.Restores host.listeners
    | (.ok c, _) =>
      settings.firstFault? host = none ∧
        (∃ stub posts, c.Staffed settings host.listeners stub posts) ∧
        ∀ c', c.Uses c' → c'.shutdown.2.Vacated host.listeners := by
  have hrefl := Listeners.Restores.refl host.listeners
  unfold start
  cases hvalid : settings.validate with
  | error failure => exact ⟨Settings.firstFault?_of_invalid hvalid, hrefl⟩
  | ok _ =>
    obtain ⟨failure, henter, hfolder⟩ | ⟨parties, files, henter, hfolder⟩ :=
      enter_cases settings identity host.folder.files
    · rw [henter]
      exact ⟨Settings.firstFault?_of_folder hvalid hfolder, hrefl⟩
    rw [henter]
    dsimp only
    obtain ⟨stub, n, hstub, hmeets, hcall⟩ | ⟨address, hstub, hcall, hdenies⟩ :=
      startStub_cases settings host.listeners
    case inr =>
      have hnil := Listeners.meets_nil host.listeners settings.calls
      rw [hstub]
      exact ⟨Settings.firstFault?_of_denied hvalid hfolder hnil hcall hdenies, hrefl⟩
    rw [hstub]
    dsimp only
    have hdrop : settings.calls.drop stub.toList.length = settings.sinks.map SinkSettings.call := by
      rw [calls_eq hcall, ← List.length_map (f := Listener.call), List.drop_left]
    have hstarted : SinkSet.Started host.listeners settings.calls stub.toList settings.sinks [] _ :=
      SinkSet.started_of_startAll hmeets hdrop (Settings.nodup_of_validate hvalid) SinkSet.mans_nil
    generalize SinkSet.startAll settings.sinks {} n = result at hstarted ⊢
    cases hstarted with
    | all posts hmeets hposts hmans =>
      have hall : (stub.toList ++ posts).length = settings.calls.length := by
        rw [length_calls hcall, List.length_append, hposts]
      refine ⟨Settings.firstFault?_of_all hvalid hfolder hmeets hall, ⟨stub, posts, ?_⟩, ?_⟩
      · exact staffed_of_started hn hmeets hcall hposts hmans rfl rfl rfl
      · intro c' huses
        exact vacated_of_uses hn hmeets.toOpens rfl hmans hposts rfl huses
    | denied posts hmeets hfailing hdenies hmans =>
      have hlength := (List.getElem?_eq_some_iff.mp hfailing).1
      rw [length_calls hcall, List.length_append] at hlength
      refine ⟨Settings.firstFault?_of_denied hvalid hfolder hmeets hfailing hdenies, ?_⟩
      exact restores_of_stop hn hmeets.toOpens hmans (by omega)

def twoSinks : Settings where
  sinks := [⟨.hecLogs, .anyAddress 0⟩, ⟨.signalFx, .anyAddress 0⟩]
  apiStub := some (.anyAddress 0)

/-- A host with a listener of somebody else and room for two more. -/
def refusingHost : Host where
  clock _ := default
  listeners := {
    refuses := fun _ inUse _ => 3 ≤ inUse.length
    running := [⟨0, "other", .anyAddress 4317⟩]
    nextId := 1 }

theorem start_outcome_refused :
    refusingHost.listeners.Numbered ∧
      twoSinks.firstFault? refusingHost = some (.listener "signalfx" "0.0.0.0:0") ∧
      (start twoSinks "run" refusingHost []).2.listeners.running =
        [⟨0, "other", .anyAddress 4317⟩] := by
  have hnumbered : refusingHost.listeners.Numbered := ⟨by decide, by decide⟩
  have hfault : twoSinks.firstFault? refusingHost = some (.listener "signalfx" "0.0.0.0:0") := by
    decide +kernel
  refine ⟨hnumbered, hfault, ?_⟩
  have houtcome := start_outcome twoSinks "run" refusingHost [] hnumbered
  generalize start twoSinks "run" refusingHost [] = result at houtcome ⊢
  obtain ⟨failure | c, host'⟩ := result
  · exact houtcome.2.running
  · exact absurd (hfault.symm.trans houtcome.1) (by simp)

end RunContext

end GoldenCapture
