import GoldenCapture.Proofs.Lease.Tenancy
import GoldenCapture.Proofs.Run.Concord

/-!
# Exclusive access

Runs that keep the records of their key in one folder exclude each other. Runs without a folder
have a table each, and a lifetime whose milliseconds do not fit 63 bits is over before it begins:
such runs exclude nobody.
-/

namespace GoldenCapture

namespace Fleet

variable {ι : Type} {crew : Crew ι} {config : ι → LeaseConfig} {key folder : String}
  {origin : Int} {w start : Fleet ι} {i j : ι}

theorem Exclusive.of_others {w' : Fleet ι} (h : w.Exclusive i)
    (hcontext : w'.context i = w.context i) (hnow : w'.host.now = w.host.now) :
    w'.Exclusive i := by
  obtain ⟨c, hc, hsure⟩ := h
  obtain ⟨c₀, hstored, rfl⟩ := Option.map_eq_some_iff.mp hc
  refine ⟨c₀.on w'.host, ?_, ?_⟩
  · rw [run?, hcontext, hstored, Option.map_some]
  · have hsame : (c₀.on w'.host).ensureExclusive = (c₀.on w.host).ensureExclusive := by
      unfold RunContext.ensureExclusive
      rw [show (c₀.on w'.host).now = (c₀.on w.host).now from hnow]
      rfl
    rw [hsame]
    exact hsure

variable [DecidableEq ι]

/-! ## A run whose attempt is granted -/

section

variable {c : RunContext} {p : Coordinator}

theorem run?_put (w : Fleet ι) (i : ι) (c : RunContext) : (w.put i c).run? i = some c := by
  show (Function.update w.context i (some c) i).map (RunContext.on · c.host) = some c
  rw [Function.update_self]
  rfl

theorem context_put_of_ne (w : Fleet ι) (c : RunContext) (h : j ≠ i) :
    (w.put i c).context j = w.context j :=
  Function.update_of_ne h _ _

theorem parties_setCoordinator (h : c.lease.parties = [p]) (q : Coordinator) :
    (c.setCoordinator q).lease.parties = [q] := by
  show c.lease.parties.set 0 q = [q]
  rw [h]
  rfl

theorem coordinator?_of_parties (h : c.lease.parties = [p]) : c.coordinator? = some p := by
  show c.lease.parties[0]? = some p
  rw [h]
  rfl

theorem exclusive_of_granted (crew : Crew ι) (hc : w.run? i = some c)
    (hparties : c.lease.parties = [p]) (hidle : p.state = .idle)
    (hdeadline : 0 < p.config.renewDeadline)
    (hlegible : c.Legible p.tryAcquireCall)
    (hanswer : (c.leaseBackend.call p.tryAcquireCall c.now c.lease.backend).1.answer = .ok true)
    (hdelay : (c.leaseBackend.call p.tryAcquireCall c.now c.lease.backend).1.delay = some 0) :
    ∃ w', Run crew w w' ∧ w'.Exclusive i ∧ (∀ j, j ≠ i → w'.context j = w.context j) ∧
      w'.host = { w.host with
        folder := (c.leaseBackend.call p.tryAcquireCall c.now c.lease.backend).2.folder } := by
  have hsend : Coordinator.send c.leaseBackend p.tryAcquireCall c.now c.lease.backend =
      (.answered (.ok true) (some c.now),
        (c.leaseBackend.call p.tryAcquireCall c.now c.lease.backend).2) := by
    rw [Coordinator.send]
    dsimp only
    rw [hanswer, hdelay]
    rfl
  generalize (c.leaseBackend.call p.tryAcquireCall c.now c.lease.backend).2 = site at hsend ⊢
  let asking : Coordinator := { p with
    state := .acquiring, lost := none, outcome := none
    errand := some (.trying c.now p.config.acquireTimeout .sent) }
  let told : Coordinator := { asking with
    errand := some (.trying c.now p.config.acquireTimeout (.answered (.ok true) (some c.now))) }
  let first := c.setCoordinator asking
  let second := (first.setSite site).setCoordinator told
  let third := (second.setSite site).setCoordinator (told.lead c.now)
  have hfirst : first.lease.parties = [asking] := parties_setCoordinator hparties asking
  have hsecond : second.lease.parties = [told] := parties_setCoordinator hfirst told
  have hthird : third.lease.parties = [told.lead c.now] := parties_setCoordinator hsecond _
  have hacquire : p.acquire c.now p.config.acquireTimeout = .ok asking := by
    rw [Coordinator.acquire, if_pos hidle]
  have hask : asking.stepErrand first.leaseBackend first.now first.lease.backend =
      some (told, site) := by
    show some (({ asking with errand := some (.trying c.now p.config.acquireTimeout
      (Coordinator.send c.leaseBackend p.tryAcquireCall c.now c.lease.backend).1) } :
        Coordinator), (Coordinator.send c.leaseBackend p.tryAcquireCall c.now
          c.lease.backend).2) = some (told, site)
    rw [hsend]
  have hsee : told.stepErrand second.leaseBackend second.now second.lease.backend =
      some (told.lead c.now, site) := by
    have hlanded : (Flight.answered (.ok true) (some c.now) : Flight Bool).landed c.now =
        some (.ok true) := if_pos (Nat.le_refl c.now)
    exact Coordinator.stepErrand_of_landed rfl hlanded
  have hrun : Run crew w (((w.put i first).put i second).put i third) :=
    Relation.ReflTransGen.refl
      |>.tail (.move i c first hc
        (.acquire p asking (coordinator?_of_parties hparties) hacquire))
      |>.tail (.move i first second (run?_put w i first)
        (.errand asking told site (coordinator?_of_parties hfirst) hask fun _ => hlegible))
      |>.tail (.move i second third (run?_put _ i second)
        (.errand told _ site (coordinator?_of_parties hsecond) hsee nofun))
  refine ⟨_, hrun, ⟨third, run?_put _ i third, ?_⟩, fun j hj => ?_, ?_⟩
  · have hsure : (told.lead c.now).ensureLeading third.now = .ok () := by
      refine Coordinator.ensureLeading_eq_ok_iff.mpr ⟨rfl, ?_⟩
      show c.now - c.now < p.config.renewDeadline
      rw [Nat.sub_self]
      exact hdeadline
    rw [RunContext.ensureExclusive, coordinator?_of_parties hthird]
    dsimp only
    rw [hsure]
    rfl
  · rw [context_put_of_ne _ _ hj, context_put_of_ne _ _ hj, context_put_of_ne _ _ hj]
  · obtain ⟨c₀, -, rfl⟩ := Option.map_eq_some_iff.mp hc
    rfl

end

/-! ## Two runs -/

def pair (leaseDir : Option String) (config : LeaseConfig) : Crew Bool where
  settings _ := { lease := some config, leaseDir }
  identity i := if i then "a" else "b"

def member (leaseDir : Option String) (config : LeaseConfig) (host : Host) (i : Bool) :
    RunContext where
  settings := (pair leaseDir config).settings i
  clock := host.clock
  shell := host.shell
  lag := host.lag
  others := host.others
  lease := {
    now := host.now
    backend := { folder := host.folder }
    parties := [recruit (pair leaseDir config) (fun _ => config) i]
    stopFirst := host.stopFirst }
  listeners := host.listeners
  sinks := {}
  stub := none
  deadline := none

section

variable {leaseDir : Option String} {lease : LeaseConfig} {host : Host}

theorem accord_pair (hvalid : lease.problem? = none) :
    (pair leaseDir lease).Accord (fun _ => lease) lease.key leaseDir where
  valid i := by
    have hproblem : ((pair leaseDir lease).settings i).problem? = none := rfl
    rw [Settings.validate, hproblem]
    show lease.validate.mapError Failure.lease = .ok ()
    rw [LeaseConfig.validate, hvalid]
    rfl
  lease _ := rfl
  leaseDir_eq _ := rfl
  key_eq _ := rfl
  distinct := by
    intro i j hij
    cases i <;> cases j <;> simp_all [pair]

theorem start_pair (hvalid : lease.problem? = none)
    (hstands : ∀ folder, leaseDir = some folder →
      ∃ place, host.folder.files.StandsAt folder place) (i : Bool) :
    RunContext.start ((pair leaseDir lease).settings i) ((pair leaseDir lease).identity i) host
      ((pair leaseDir lease).traffic i) = (.ok (member leaseDir lease host i), host) := by
  have henter : RunContext.enter ((pair leaseDir lease).settings i)
      ((pair leaseDir lease).identity i) host.folder.files =
        .ok ([recruit (pair leaseDir lease) (fun _ => lease) i], host.folder.files) := by
    cases leaseDir with
    | none => rfl
    | some folder =>
      obtain ⟨place, hplace⟩ := hstands folder rfl
      have hmade := hplace.makeFolder_eq
      unfold RunContext.enter pair
      dsimp only
      rw [hmade]
      rfl
  unfold RunContext.start
  rw [(accord_pair hvalid).valid i, henter]
  rfl

theorem exists_run_pair (hvalid : lease.problem? = none)
    (hstands : ∀ folder, leaseDir = some folder →
      ∃ place, host.folder.files.StandsAt folder place) :
    ∃ w, Run (pair leaseDir lease) { host } w ∧ w.host = host ∧
      ∀ i, w.context i = some (member leaseDir lease host i) := by
  have hlaunch : ∀ (w : Fleet Bool) (i : Bool), w.host = host →
      w.launch (pair leaseDir lease) i =
        { host, context := Function.update w.context i (some (member leaseDir lease host i)) } := by
    intro w i hhost
    rw [launch, hhost, start_pair hvalid hstands]
    rfl
  have hfirst := hlaunch { host } true rfl
  have hsecond := hlaunch (({ host } : Fleet Bool).launch (pair leaseDir lease) true) false (by
    rw [hfirst])
  have hrun : Run (pair leaseDir lease) { host }
      ((({ host } : Fleet Bool).launch (pair leaseDir lease) true).launch (pair leaseDir lease)
        false) :=
    Relation.ReflTransGen.refl
      |>.tail (.start true rfl)
      |>.tail (.start false (by
        rw [hfirst]
        rfl))
  refine ⟨_, hrun, ?_, fun i => ?_⟩
  · rw [hsecond]
  · rw [hsecond, hfirst]
    cases i <;> rfl

/-- The attempt of one of the two, and where it leaves the records. -/
def attempt (leaseDir : Option String) (lease : LeaseConfig) (host : Host) (folder : LeaseFolder)
    (i : Bool) : LeaseReply Bool × LeaseSite :=
  (LeaseSite.backend leaseDir host.clock).call
    (recruit (pair leaseDir lease) (fun _ => lease) i).tryAcquireCall host.now { folder }

theorem delay_attempt {path : String} {folder : LeaseFolder} {i : Bool}
    (h : (attempt (some path) lease host folder i).1.answer = .ok true) :
    (attempt (some path) lease host folder i).1.delay = some 0 := by
  have hreply : (attempt (some path) lease host folder i).1 = (folder.call path
      (recruit (pair (some path) lease) (fun _ => lease) i).tryAcquireCall
        (host.clock host.now)).1 := rfl
  rw [hreply] at h ⊢
  exact LeaseFolder.call_delay h

/-- What the attempt writes reads back. -/
def LegibleAttempt (leaseDir : Option String) (lease : LeaseConfig) (host : Host)
    (folder : LeaseFolder) (i : Bool) : Prop :=
  ∀ path, leaseDir = some path → folder.Legible path
    (recruit (pair leaseDir lease) (fun _ => lease) i).tryAcquireCall (host.clock host.now)

theorem exclusive_of_attempt {w : Fleet Bool} {folder : LeaseFolder} {i : Bool}
    (hvalid : lease.problem? = none) (hhost : w.host = { host with folder })
    (hcontext : w.context i = some (member leaseDir lease host i))
    (hlegible : LegibleAttempt leaseDir lease host folder i)
    (hanswer : (attempt leaseDir lease host folder i).1.answer = .ok true)
    (hdelay : (attempt leaseDir lease host folder i).1.delay = some 0) :
    ∃ w', Run (pair leaseDir lease) w w' ∧ w'.Exclusive i ∧
      (∀ j, j ≠ i → w'.context j = w.context j) ∧
      w'.host = { host with folder := (attempt leaseDir lease host folder i).2.folder } := by
  have hrun : w.run? i = some ((member leaseDir lease host i).on { host with folder }) := by
    rw [run?, hcontext, hhost]
    rfl
  have hdeadline : 0 < lease.renewDeadline := by
    obtain ⟨-, -, hretry, -⟩ := LeaseConfig.problem?_eq_none_iff.mp hvalid
    omega
  obtain ⟨w', hrun, hexclusive, hothers, hhost'⟩ := exclusive_of_granted
    (pair leaseDir lease) hrun rfl rfl hdeadline hlegible hanswer hdelay
  refine ⟨w', hrun, hexclusive, hothers, ?_⟩
  rw [hhost', hhost]
  rfl

theorem exclusive_of_attempts {folder : LeaseFolder} (hvalid : lease.problem? = none)
    (hstands : ∀ path, leaseDir = some path → ∃ place, host.folder.files.StandsAt path place)
    (hfirst : (attempt leaseDir lease host host.folder true).1.answer = .ok true ∧
      (attempt leaseDir lease host host.folder true).1.delay = some 0 ∧
      (attempt leaseDir lease host host.folder true).2.folder = folder)
    (hsecond : (attempt leaseDir lease host folder false).1.answer = .ok true ∧
      (attempt leaseDir lease host folder false).1.delay = some 0)
    (hlegible : LegibleAttempt leaseDir lease host host.folder true)
    (hlegible' : LegibleAttempt leaseDir lease host folder false) :
    ∃ w, Run (pair leaseDir lease) { host } w ∧ ∀ i, w.Exclusive i := by
  obtain ⟨hanswer, hdelay, hfolder⟩ := hfirst
  obtain ⟨w, hstarted, hhost, hcontext⟩ := exists_run_pair hvalid hstands
  obtain ⟨w', hrun, htrue, hothers, hhost'⟩ :=
    exclusive_of_attempt hvalid hhost (hcontext true) hlegible hanswer hdelay
  rw [hfolder] at hhost'
  have hcontext' : w'.context false = some (member leaseDir lease host false) :=
    (hothers false (by simp)).trans (hcontext false)
  obtain ⟨w'', hrun', hfalse, hothers', hhost''⟩ :=
    exclusive_of_attempt hvalid hhost' hcontext' hlegible' hsecond.1 hsecond.2
  refine ⟨w'', (hstarted.trans hrun).trans hrun', fun i => ?_⟩
  cases i with
  | false => exact hfalse
  | true =>
    refine htrue.of_others (hothers' true (by simp)) ?_
    rw [hhost'', hhost']

theorem exclusive_apart (hvalid : lease.problem? = none) :
    ∃ w, Run (pair none lease) { host } w ∧ ∀ i, w.Exclusive i :=
  exclusive_of_attempts hvalid nofun ⟨rfl, rfl, rfl⟩ ⟨rfl, rfl⟩ nofun nofun

theorem legible_of_decide {f : LeaseFolder} {folder : String} {α : Type} {call : LeaseCall α}
    {now : Timestamp} {existing : Option LeaseRecord} {answer : α} {record : LeaseRecord}
    (hread : f.readRecord (LeaseFolder.recordPath folder call.key) = .ok existing)
    (hdecide : call.decide existing now = (answer, .write record))
    (hreadable : LeaseFolder.Readable record) : f.Legible folder call now := by
  intro existing' answer' record' hread' hdecide'
  cases hread.symm.trans hread'
  cases hdecide.symm.trans hdecide'
  exact hreadable

end

def harbour : Host where
  clock := clockFrom 0
  folder := { files := ⟨⟨[(["leases"], .folder)]⟩⟩ }

theorem harbour_stands {leaseDir : String} (h : some "leases" = some leaseDir) :
    ∃ place, harbour.folder.files.StandsAt leaseDir place := by
  cases h
  exact ⟨["leases"], by decide +kernel, rfl⟩

theorem legible_first {lease : LeaseConfig} (hkey : lease.key = "env")
    (hreadable : LeaseFolder.Readable (.fresh "a" lease.ttl (clockFrom 0 0))) :
    LegibleAttempt (some "leases") lease harbour harbour.folder true := by
  intro path hpath
  cases hpath
  have hread : harbour.folder.readRecord (LeaseFolder.recordPath "leases" "env") = .ok none := by
    decide +kernel
  exact legible_of_decide (hkey ▸ hread) rfl hreadable

/-! ## Exclusion -/

/-- At no instant do two runs have exclusive access. -/
theorem eq_of_exclusive (haccord : crew.Accord config key (some folder))
    (hwhole : ∀ i, LeaseRecord.Whole (config i).ttl)
    (hclock : start.host.clock = clockFrom origin) (hidle : ∀ i, start.context i = none)
    (hrun : Run crew start w) (hi : w.Exclusive i) (hj : w.Exclusive j) : i = j := by
  obtain ⟨r, hmatches⟩ := matches_of_run haccord hwhole hclock hidle hrun
  obtain ⟨record, hget, hri⟩ := hmatches.holder haccord hwhole hi
  obtain ⟨record', hget', hrj⟩ := hmatches.holder haccord hwhole hj
  have hsame : record = record' := Option.some.inj (hget.symm.trans hget')
  have hname : crew.identity i = crew.identity j := by
    rw [← hri, ← hrj, hsame]
  exact haccord.distinct hname

def usual : LeaseConfig := { key := "env" }

/-- One of two takes the lease, and then no other run has exclusive access. -/
theorem eq_of_exclusive_pair : ∃ w, Run (pair (some "leases") usual) { host := harbour } w ∧
    w.Exclusive true ∧ ∀ j, w.Exclusive j → true = j := by
  have hvalid : usual.problem? = none := by decide
  have hreadable : LeaseFolder.Readable (.fresh "a" usual.ttl (clockFrom 0 0)) := by
    unfold LeaseFolder.Readable
    decide +kernel
  have hstands : ∀ leaseDir, some "leases" = some leaseDir →
      ∃ place, harbour.folder.files.StandsAt leaseDir place := fun _ => harbour_stands
  obtain ⟨w, hstarted, hhost, hcontext⟩ := exists_run_pair hvalid hstands
  have hanswer : (attempt (some "leases") usual harbour harbour.folder true).1.answer =
      .ok true := by
    decide +kernel
  obtain ⟨w', hrun, htrue, -⟩ := exclusive_of_attempt hvalid hhost (hcontext true)
    (legible_first rfl hreadable) hanswer (delay_attempt hanswer)
  have hwhole : ∀ _ : Bool, LeaseRecord.Whole usual.ttl := fun _ => ⟨15000, by decide, by decide⟩
  refine ⟨w', hstarted.trans hrun, htrue, fun j hj => ?_⟩
  exact eq_of_exclusive (accord_pair hvalid) hwhole rfl (fun _ => rfl) (hstarted.trans hrun)
    htrue hj

/-- A lifetime of more milliseconds than 63 bits hold. -/
def endless : LeaseConfig where
  key := "env"
  ttl := Duration.ofMillis (Nat.pow 2 63 + 1)

/-- Two runs have exclusive access at once if there is no folder, and in one folder if a lifetime
counts as negative. -/
theorem exclusive_twice :
    ((pair none usual).Accord (fun _ => usual) "env" none ∧
      ∃ w, Run (pair none usual) { host := harbour } w ∧ ∀ i, w.Exclusive i) ∧
    (pair (some "leases") endless).Accord (fun _ => endless) "env" (some "leases") ∧
      ∃ w, Run (pair (some "leases") endless) { host := harbour } w ∧ ∀ i, w.Exclusive i := by
  have hvalid : endless.problem? = none := by decide
  have hreadable : LeaseFolder.Readable (.fresh "a" endless.ttl (clockFrom 0 0)) := by
    unfold LeaseFolder.Readable
    decide +kernel
  have hreadable' : LeaseFolder.Readable (.fresh "b" endless.ttl (clockFrom 0 0)) := by
    unfold LeaseFolder.Readable
    decide +kernel
  let second := (attempt (some "leases") endless harbour harbour.folder true).2.folder
  have hsecond : LegibleAttempt (some "leases") endless harbour second false := by
    intro path hpath
    cases hpath
    have hread : second.readRecord (LeaseFolder.recordPath "leases" "env") =
        .ok (some (.fresh "a" endless.ttl (clockFrom 0 0))) := by
      decide +kernel
    have hdecide : (LeaseCall.tryAcquire "env" "b" endless.ttl).decide
        (some (.fresh "a" endless.ttl (clockFrom 0 0))) (clockFrom 0 0) =
          (true, .write (.fresh "b" endless.ttl (clockFrom 0 0))) := by
      decide +kernel
    exact legible_of_decide hread hdecide hreadable'
  have hanswer : (attempt (some "leases") endless harbour harbour.folder true).1.answer =
      .ok true := by
    decide +kernel
  have hanswer' : (attempt (some "leases") endless harbour second false).1.answer = .ok true := by
    decide +kernel
  refine ⟨⟨accord_pair (by decide), exclusive_apart (by decide)⟩, accord_pair hvalid, ?_⟩
  exact exclusive_of_attempts hvalid (fun _ => harbour_stands)
    ⟨hanswer, delay_attempt hanswer, rfl⟩ ⟨hanswer', delay_attempt hanswer'⟩
    (legible_first rfl hreadable) hsecond

end Fleet

end GoldenCapture
