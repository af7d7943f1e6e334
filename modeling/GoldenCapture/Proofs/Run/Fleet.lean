import GoldenCapture.Proofs.Lease.FolderCall
import GoldenCapture.Proofs.Lease.Rivalry
import GoldenCapture.Run.Context

/-!
# Fleets

Any number of runs in one process, on one host with one clock. The steps of their leases mix in any
order, and whatever else happens on the host happens between them. A run finds the host as the
others left it and leaves it to them.
-/

namespace GoldenCapture

/-! ## One run -/

namespace RunContext

/-- The run as it finds its host. -/
def on (c : RunContext) (h : Host) : RunContext :=
  { c with
    clock := h.clock
    shell := h.shell
    lag := h.lag
    others := h.others
    listeners := h.listeners
    lease := { c.lease with
      now := h.now
      backend := { c.lease.backend with folder := h.folder }
      stopFirst := h.stopFirst } }

def setCoordinator (c : RunContext) (p : Coordinator) : RunContext :=
  { c with lease := c.lease.setParty 0 p }

def setSite (c : RunContext) (site : LeaseSite) : RunContext :=
  { c with lease := { c.lease with backend := site } }

/-- What a shutdown does before the release of the lease has to wait. -/
def beginShutdown (c : RunContext) : RunContext :=
  if c.shutDown then c
  else
    let c := { c with shutDown := true }.stopListeners
    match c.coordinator? with
    | none => c
    | some p => c.setCoordinator p.release.1

/-- What a call would write into a lease folder now reads back. -/
def Legible (c : RunContext) {α : Type} (call : LeaseCall α) : Prop :=
  ∀ folder, c.settings.leaseDir = some folder →
    c.lease.backend.folder.Legible folder call (c.clock c.now)

/-- One step of a run: its caller sets out for something or drops it, or one of the three tasks of
its coordinator goes on. -/
inductive Move (c : RunContext) : RunContext → Prop
  | acquire (p p' : Coordinator) (hp : c.coordinator? = some p)
      (h : p.acquire c.now p.config.acquireTimeout = .ok p') : Move c (c.setCoordinator p')
  | shutdown : Move c c.beginShutdown
  /-- The caller drops an acquisition or a shutdown at any point of it. -/
  | drop (p : Coordinator) (hp : c.coordinator? = some p) : Move c (c.setCoordinator p.cancel)
  | errand (p p' : Coordinator) (site : LeaseSite) (hp : c.coordinator? = some p)
      (h : p.stepErrand c.leaseBackend c.now c.lease.backend = some (p', site))
      (hlegible : p.attempts = true → c.Legible p.tryAcquireCall) :
      Move c ((c.setSite site).setCoordinator p')
  | renewer (stopFirst : Bool) (p p' : Coordinator) (site : LeaseSite)
      (hp : c.coordinator? = some p)
      (h : p.stepRenewer c.leaseBackend c.now stopFirst c.lease.backend = some (p', site))
      (hlegible : p.renews = true → c.Legible p.renewCall) :
      Move c ((c.setSite site).setCoordinator p')
  | supervisor (p p' : Coordinator) (hp : c.coordinator? = some p)
      (h : p.stepSupervisor = some p') : Move c (c.setCoordinator p')

section

variable {c : RunContext} {p p' : Coordinator}

theorem move_of_step (hc : c.lease.parties = [p])
    (hattempt : p.attempts = true → c.Legible p.tryAcquireCall)
    (hrenewal : p.renews = true → c.Legible p.renewCall) {lease : Contest LeaseSite}
    (h : c.lease.step c.leaseBackend = some lease) : c.Move { c with lease } := by
  have hp : c.coordinator? = some p := by
    rw [coordinator?, Contest.party?, hc]
    rfl
  have hset : ∀ p' site, (c.setSite site).setCoordinator p' =
      { c with lease := { c.lease with parties := [p'], backend := site } } := by
    intro p' site
    simp only [setCoordinator, setSite, Contest.setParty, hc, List.set_cons_zero]
  have hstay : ∀ p', c.setCoordinator p' =
      { c with lease := { c.lease with parties := [p'] } } := fun p' => hset p' c.lease.backend
  obtain ⟨⟨parties, site⟩, hfirst, rfl⟩ := Option.map_eq_some_iff.mp h
  rw [hc, Contest.stepAny] at hfirst
  split at hfirst
  · rename_i p' site' hstep
    cases hfirst
    unfold Coordinator.step at hstep
    split at hstep
    · rename_i herrand
      cases hstep
      exact hset p' site ▸ .errand p p' site hp herrand hattempt
    · split at hstep
      · rename_i hrenewer
        cases hstep
        exact hset p' site ▸ .renewer _ p p' site hp hrenewer hrenewal
      · obtain ⟨p'', hsupervisor, heq⟩ := Option.map_eq_some_iff.mp hstep
        cases heq
        exact hstay p' ▸ .supervisor p p' hp hsupervisor
  · simp [Contest.stepAny] at hfirst

theorem service_of_alone (halone : c.others = {}) : c.service = c.leaseBackend := by
  unfold service leaseBackend LeaseSite.backend Interference.over
  rw [halone]
  congr 1
  funext α call now site
  cases c.settings.leaseDir <;> simp

theorem lease_acquireLease (halone : c.others = {}) (hp : c.coordinator? = some p)
    (h : p.acquire c.now p.config.acquireTimeout = .ok p') :
    c.acquireLease.2.lease =
      ((c.setCoordinator p').lease.settle c.leaseBackend).await c.leaseBackend 0 none := by
  rw [← service_of_alone halone]
  have hparty : c.lease.party? 0 = some p := hp
  have hstart : c.lease.startAcquire c.service 0 p.config.acquireTimeout =
      .ok ((c.setCoordinator p').lease.settle c.service) := by
    rw [Contest.startAcquire, hparty]
    dsimp only
    rw [show c.lease.now = c.now from rfl, h]
    rfl
  rw [acquireLease, hp]
  dsimp only
  rw [Contest.acquire, hstart]

theorem beginShutdown_eq (hp : c.coordinator? = some p) (hopen : c.shutDown = false) :
    c.beginShutdown = ({ c with shutDown := true }.stopListeners).setCoordinator p.release.1 := by
  have hstopped : ({ c with shutDown := true }.stopListeners).coordinator? = some p := hp
  rw [beginShutdown, hopen, if_neg Bool.false_ne_true]
  dsimp only
  rw [hstopped]

theorem lease_shutdown (halone : c.others = {}) (hp : c.coordinator? = some p)
    (hopen : c.shutDown = false) :
    c.shutdown.2.lease =
      if p.release.2.isSome then c.beginShutdown.lease.settle c.leaseBackend
      else (c.beginShutdown.lease.settle c.leaseBackend).await c.leaseBackend 0 none := by
  rw [← service_of_alone halone]
  have hstopped : ({ c with shutDown := true }.stopListeners).coordinator? = some p := hp
  have hparty : ({ c with shutDown := true }.stopListeners).lease.party? 0 = some p := hp
  rw [beginShutdown_eq hp hopen, shutdown, hopen, if_neg Bool.false_ne_true, releaseLease,
    hstopped]
  dsimp only
  rw [Contest.release, Contest.startRelease, hparty]
  dsimp only
  cases p.release.2 <;> rfl

end

end RunContext

/-! ## All runs -/

/-- What each run is started with. -/
structure Crew (ι : Type) where
  settings : ι → Settings
  identity : ι → String
  traffic : ι → List Delivery := fun _ => []

structure Fleet (ι : Type) where
  host : Host
  /-- The runs that have started. -/
  context : ι → Option RunContext := fun _ => none

/-- What leaves a lease folder where it is and the record of the key as it is. -/
structure LeaseFolder.Spares (f f' : LeaseFolder) (folder key : String) : Prop where
  stands : ∀ place, f.files.StandsAt folder place → f'.files.StandsAt folder place
  record : f'.files.read (recordPath folder key) = f.files.read (recordPath folder key)

namespace Fleet

variable {ι : Type}

def run? (w : Fleet ι) (i : ι) : Option RunContext := (w.context i).map (RunContext.on · w.host)

/-- The run has exclusive access for all it knows. -/
def Exclusive (w : Fleet ι) (i : ι) : Prop :=
  ∃ c, w.run? i = some c ∧ c.ensureExclusive = .ok ()

variable [DecidableEq ι]

def put (w : Fleet ι) (i : ι) (c : RunContext) : Fleet ι where
  host := c.host
  context := Function.update w.context i (some c)

/-- Starts a run. If that fails there is none, but the host may have changed. -/
def launch (w : Fleet ι) (crew : Crew ι) (i : ι) : Fleet ι :=
  let (started, host) :=
    RunContext.start (crew.settings i) (crew.identity i) w.host (crew.traffic i)
  { host, context := Function.update w.context i started.toOption }

/-- One step. Replies are seen at once: no time passes while a success waits to be seen. -/
inductive Step (crew : Crew ι) (w : Fleet ι) : Fleet ι → Prop
  | start (i : ι) (h : w.context i = none) : Step crew w (w.launch crew i)
  | wait (later : Nat) (h : w.host.now ≤ later)
      (hseen : ∀ i c p, w.run? i = some c → c.coordinator? = some p →
        ¬ p.SeesGrant w.host.now ∧ ¬ p.SeesRenewal w.host.now) :
      Step crew w { w with host := { w.host with now := later } }
  | move (i : ι) (c c' : RunContext) (hc : w.run? i = some c) (h : c.Move c') :
      Step crew w (w.put i c')
  /-- Whatever else happens on the host, the records in lease folders are spared. -/
  | elsewhere (host : Host) (hnow : host.now = w.host.now) (hclock : host.clock = w.host.clock)
      (hspares : ∀ i config folder, (crew.settings i).lease = some config →
        (crew.settings i).leaseDir = some folder →
        w.host.folder.Spares host.folder folder config.key) :
      Step crew w { w with host }

def Run (crew : Crew ι) : Fleet ι → Fleet ι → Prop := Relation.ReflTransGen (Step crew)

end Fleet

end GoldenCapture
