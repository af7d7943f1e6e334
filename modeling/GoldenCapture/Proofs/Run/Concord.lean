import GoldenCapture.Proofs.FileTree.Folders
import GoldenCapture.Proofs.Lease.MutualExclusion
import GoldenCapture.Proofs.Lease.Punctuality
import GoldenCapture.Proofs.Run.Fleet

/-!
# Fleets over one folder

Runs that keep the records of one key in one folder. Their coordinators are rivals over a table
that holds what the record file holds, and every success that they see took effect at the instant
at which they see it.
-/

namespace GoldenCapture

/-! ## Starting -/

section

variable {settings : Settings} {identity : String} {host : Host} {traffic : List Delivery}
  {config : LeaseConfig} {folder : String}

theorem Settings.problem?_of_validate (h : settings.validate = .ok ())
    (hlease : settings.lease = some config) : config.problem? = none := by
  unfold Settings.validate at h
  split at h
  · contradiction
  · rw [hlease] at h
    dsimp only at h
    unfold LeaseConfig.validate at h
    cases hproblem : config.problem? with
    | none => rfl
    | some problem =>
      rw [hproblem] at h
      contradiction

theorem RunContext.start_cases (hlease : settings.lease = some config)
    (hfolder : settings.leaseDir = some folder) {started : Except Failure RunContext}
    {host' : Host} (h : RunContext.start settings identity host traffic = (started, host')) :
    host'.now = host.now ∧ host'.clock = host.clock ∧
      ((host'.folder = host.folder ∧ ∃ failure, started = .error failure) ∨
        ∃ files, host.folder.files.makeFolder folder = .ok files ∧
          host'.folder = { host.folder with files } ∧
          ∀ c, started = .ok c → c.settings = settings ∧
            c.lease.parties = [{ config, identity }]) := by
  unfold RunContext.start at h
  split at h
  · cases h
    exact ⟨rfl, rfl, .inl ⟨rfl, _, rfl⟩⟩
  · cases hmade : host.folder.files.makeFolder folder with
    | error fault =>
      have henter : RunContext.enter settings identity host.folder.files =
          .error (.lease (.backend .storage)) := by
        unfold RunContext.enter
        simp only [hlease, hfolder, hmade]
      rw [henter] at h
      cases h
      exact ⟨rfl, rfl, .inl ⟨rfl, _, rfl⟩⟩
    | ok files =>
      have henter : RunContext.enter settings identity host.folder.files =
          .ok ([{ config, identity }], files) := by
        unfold RunContext.enter
        simp only [hlease, hfolder, hmade]
      rw [henter] at h
      dsimp only at h
      split at h
      · cases h
        exact ⟨rfl, rfl, .inr ⟨files, rfl, rfl, fun c hc => by contradiction⟩⟩
      · split at h
        · cases h
          exact ⟨rfl, rfl, .inr ⟨files, rfl, rfl, fun c hc => by contradiction⟩⟩
        · cases h
          refine ⟨rfl, rfl, .inr ⟨files, rfl, rfl, fun c hc => ?_⟩⟩
          cases hc
          exact ⟨rfl, rfl⟩

theorem RunContext.folder_of_start (hlease : settings.lease = some config)
    (hfolder : settings.leaseDir = some folder) {place : List String}
    (hstands : host.folder.files.StandsAt folder place) {started : Except Failure RunContext}
    {host' : Host} (h : RunContext.start settings identity host traffic = (started, host')) :
    host'.folder = host.folder := by
  obtain ⟨-, -, ⟨hsame, -⟩ | ⟨files, hmade, hmake, -⟩⟩ := start_cases hlease hfolder h
  · exact hsame
  · rw [hstands.makeFolder_eq] at hmade
    cases hmade
    exact hmake

end

/-! ## Backends of one folder -/

section

variable {folder key : String} {t : LeaseTable} {α : Type}

theorem alike_of_agrees (clock : Nat → Timestamp) (now : Nat) (site : LeaseSite)
    (h : site.folder.Agrees folder key t) (call : LeaseCall α) (hkey : call.key = key)
    (hlegible : site.folder.Legible folder call (clock now)) :
    (LeaseSite.backend (some folder) clock).Alike (site.folder.mirror folder clock)
      (fun site t => site.folder.Agrees folder key t) now site t call := by
  obtain ⟨hreply, hafter⟩ := h.call hkey hlegible
  exact ⟨hreply, hafter⟩

theorem legible_of_release {f : LeaseFolder} {holder : String} {time : Timestamp} :
    f.Legible folder (.release key holder) time := by
  intro existing answer record _ hdecide
  simp only [LeaseCall.decide, Prod.mk.injEq] at hdecide
  obtain ⟨-, hchange⟩ := hdecide
  split at hchange <;> contradiction

theorem legible_of_currentHolder {f : LeaseFolder} {time : Timestamp} :
    f.Legible folder (.currentHolder key) time := by
  intro existing answer record _ hdecide
  simp [LeaseCall.decide] at hdecide

end

/-! ## Fleets as rivalries -/

/-- All runs have valid settings, with one key and one place for its record, and names of their
own. -/
structure Crew.Accord {ι : Type} (crew : Crew ι) (config : ι → LeaseConfig) (key : String)
    (leaseDir : Option String) : Prop where
  valid : ∀ i, (crew.settings i).validate = .ok ()
  lease : ∀ i, (crew.settings i).lease = some (config i)
  leaseDir_eq : ∀ i, (crew.settings i).leaseDir = leaseDir
  key_eq : ∀ i, (config i).key = key
  distinct : Function.Injective crew.identity

namespace Fleet

variable {ι : Type} {crew : Crew ι} {config : ι → LeaseConfig} {key folder : String}
  {origin : Int} {w : Fleet ι} {r : Rivalry ι}

def recruit (crew : Crew ι) (config : ι → LeaseConfig) (i : ι) : Coordinator :=
  { config := config i, identity := crew.identity i }

/-- A rivalry stands for a fleet: the coordinators are the same, and the table holds what the
record file holds. -/
structure Matches (crew : Crew ι) (config : ι → LeaseConfig) (key folder : String) (origin : Int)
    (w : Fleet ι) (r : Rivalry ι) : Prop where
  now : r.now = w.host.now
  clock : w.host.clock = clockFrom origin
  same : ∀ i, (recruit crew config i).Same (r.coordinator i)
  absent : ∀ i, w.context i = none → r.coordinator i = recruit crew config i
  present : ∀ i c, w.context i = some c →
    c.settings = crew.settings i ∧ c.lease.parties = [r.coordinator i]
  agrees : ∀ i c, w.context i = some c → w.host.folder.Agrees folder key r.table
  punctual : ∀ i, (r.party i).Punctual r.now
  sound : ∀ i, Sound origin 0 r.now r.table (r.party i)

theorem Matches.key_eq (h : Matches crew config key folder origin w r)
    (haccord : crew.Accord config key (some folder)) (i : ι) :
    (r.coordinator i).config.key = key := by
  rw [(h.same i).config]
  exact haccord.key_eq i

theorem Matches.terms (h : Matches crew config key folder origin w r)
    (haccord : crew.Accord config key (some folder))
    (hwhole : ∀ i, LeaseRecord.Whole (config i).ttl) : r.Terms key 0 := by
  have hconfig : ∀ i, (r.coordinator i).config = config i := fun i => (h.same i).config
  refine ⟨h.key_eq haccord, ?_, fun i => ?_, fun i => ?_⟩
  · intro i j hij
    simp only [(h.same i).identity, (h.same j).identity] at hij
    exact haccord.distinct hij
  · rw [hconfig]
    exact hwhole i
  · have hproblem := Settings.problem?_of_validate (haccord.valid i) (haccord.lease i)
    obtain ⟨-, -, -, hordered⟩ := LeaseConfig.problem?_eq_none_iff.mp hproblem
    rw [hconfig]
    omega

theorem Matches.coordinator_eq (h : Matches crew config key folder origin w r) {i : ι}
    {c : RunContext} (hc : w.run? i = some c) : c.coordinator? = some (r.coordinator i) := by
  obtain ⟨c₀, hstored, rfl⟩ := Option.map_eq_some_iff.mp hc
  show c₀.lease.parties[0]? = _
  rw [(h.present i c₀ hstored).2]
  rfl

theorem Matches.agrees_run (h : Matches crew config key folder origin w r) {i : ι}
    {c : RunContext} (hc : w.run? i = some c) :
    c.lease.backend.folder.Agrees folder key r.table := by
  obtain ⟨c₀, hstored, rfl⟩ := Option.map_eq_some_iff.mp hc
  exact h.agrees i c₀ hstored

theorem Matches.holder (h : Matches crew config key folder origin w r)
    (haccord : crew.Accord config key (some folder))
    (hwhole : ∀ i, LeaseRecord.Whole (config i).ttl) {i : ι} (hi : w.Exclusive i) :
    ∃ record, r.table.get? key = some record ∧ record.holder = crew.identity i := by
  obtain ⟨c, hc, hsure⟩ := hi
  rw [RunContext.ensureExclusive, h.coordinator_eq hc] at hsure
  obtain ⟨c₀, -, rfl⟩ := Option.map_eq_some_iff.mp hc
  have hnow : (c₀.on w.host).now = r.now := h.now.symm
  dsimp only at hsure
  rw [hnow] at hsure
  have hleading : (r.coordinator i).ensureLeading r.now = .ok () := by
    cases hleading : (r.coordinator i).ensureLeading r.now with
    | ok => rfl
    | error error =>
      rw [hleading] at hsure
      contradiction
  obtain ⟨record, hget, hholder⟩ :=
    Rivalry.holder_of_ensureLeading (h.terms haccord hwhole) h.sound hleading
  exact ⟨record, hget, hholder.trans (h.same i).identity⟩

/-! ## Steps -/

theorem punctual_of_new {now : Nat} {p : Party} {config : LeaseConfig} {identity : String}
    (h : p.coordinator = { config, identity }) : p.Punctual now where
  attempt he := by simp [h] at he
  renewal ht := by simp [h] at ht

theorem Matches.wait (h : Matches crew config key folder origin w r) {later : Nat}
    (hlater : w.host.now ≤ later)
    (hseen : ∀ i c p, w.run? i = some c → c.coordinator? = some p →
      ¬ p.SeesGrant w.host.now ∧ ¬ p.SeesRenewal w.host.now) :
    Matches crew config key folder origin { w with host := { w.host with now := later } }
      { r with now := later } where
  now := rfl
  clock := h.clock
  same := h.same
  absent := h.absent
  present := h.present
  agrees := h.agrees
  punctual i := by
    cases hc : w.context i with
    | none => exact punctual_of_new (h.absent i hc)
    | some c =>
      have hrun : w.run? i = some (c.on w.host) := congrArg (Option.map _) hc
      obtain ⟨hgrant, hrenewal⟩ := hseen i _ _ hrun (h.coordinator_eq hrun)
      rw [← h.now] at hgrant hrenewal
      exact (h.punctual i).later hgrant hrenewal later
  sound i := (h.sound i).later (h.now ▸ hlater)

theorem Matches.elsewhere (h : Matches crew config key folder origin w r) {host : Host}
    (hnow : host.now = w.host.now)
    (hclock : host.clock = w.host.clock)
    (hspares : ι → w.host.folder.Spares host.folder folder key) :
    Matches crew config key folder origin { w with host } r where
  now := h.now.trans hnow.symm
  clock := hclock.trans h.clock
  same := h.same
  absent := h.absent
  present := h.present
  agrees i c hc := by
    obtain ⟨⟨place, hstands⟩, hrecord⟩ := h.agrees i c hc
    refine ⟨⟨place, (hspares i).stands place hstands⟩, fun existing hread => ?_⟩
    exact hrecord existing ((LeaseFolder.readRecord_congr (hspares i).record).symm.trans hread)
  punctual := h.punctual
  sound := h.sound

section

variable {i : ι} {c c' : RunContext} {p : Party} {t : LeaseTable}

theorem Matches.alike (h : Matches crew config key folder origin w r) (hc : w.run? i = some c)
    {α : Type} (call : LeaseCall α) (hkey : call.key = key)
    (hlegible : c.lease.backend.folder.Legible folder call (c.clock c.now)) :
    (LeaseSite.backend (some folder) (clockFrom origin)).Alike
      (w.host.folder.mirror folder (clockFrom origin))
      (fun site t => site.folder.Agrees folder key t) r.now c.lease.backend r.table call := by
  have hhost : c.lease.backend.folder = w.host.folder ∧
      c.clock c.now = clockFrom origin r.now := by
    obtain ⟨c₀, -, rfl⟩ := Option.map_eq_some_iff.mp hc
    rw [h.now, ← h.clock]
    exact ⟨rfl, rfl⟩
  rw [hhost.2] at hlegible
  rw [← hhost.1]
  exact alike_of_agrees (clockFrom origin) r.now _ (h.agrees_run hc) call hkey hlegible

theorem exists_table (f : LeaseFolder) (folder key : String) :
    ∃ t : LeaseTable, ∀ existing,
      f.readRecord (LeaseFolder.recordPath folder key) = .ok existing → t.get? key = existing := by
  cases hread : f.readRecord (LeaseFolder.recordPath folder key) with
  | error error => exact ⟨{}, nofun⟩
  | ok record =>
    cases record with
    | none =>
      refine ⟨{}, fun existing h => ?_⟩
      cases h
      rfl
    | some record =>
      refine ⟨({} : LeaseTable).change key (.write record), fun existing h => ?_⟩
      cases h
      rw [LeaseTable.get?_change, if_pos rfl]
      rfl

theorem Matches.table_of_start (h : Matches crew config key folder origin w r)
    (haccord : crew.Accord config key (some folder)) {started : Except Failure RunContext}
    {host : Host}
    (hstart : RunContext.start (crew.settings i) (crew.identity i) w.host (crew.traffic i) =
      (started, host)) :
    ∃ t, (∀ j, Sound origin 0 r.now t (r.party j)) ∧
      (∀ j c, w.context j = some c → host.folder.Agrees folder key t) ∧
      ∀ c, started = .ok c → host.folder.Agrees folder key t := by
  by_cases hothers : ∃ j c, w.context j = some c
  · obtain ⟨j, c, hc⟩ := hothers
    have hagrees := h.agrees j c hc
    obtain ⟨place, hstands⟩ := hagrees.stands
    rw [RunContext.folder_of_start (haccord.lease i) (haccord.leaseDir_eq i) hstands hstart]
    exact ⟨r.table, h.sound, fun _ _ _ => hagrees, fun _ _ => hagrees⟩
  · obtain ⟨t, ht⟩ := exists_table host.folder folder key
    refine ⟨t, fun j => ?_, fun j c hc => absurd ⟨j, c, hc⟩ hothers, fun c hc => ⟨?_, ht⟩⟩
    · have hcontext : w.context j = none :=
        Option.eq_none_iff_forall_ne_some.mpr fun c hc => hothers ⟨j, c, hc⟩
      have habsent : (r.party j).coordinator = recruit crew config j := h.absent j hcontext
      exact .of_ended (by rw [habsent, recruit]) (by rw [habsent, recruit])
    · obtain ⟨-, -, ⟨-, failure, hfailure⟩ | ⟨files, hfiles, hfolder, -⟩⟩ :=
        RunContext.start_cases (haccord.lease i) (haccord.leaseDir_eq i) hstart
      · rw [hfailure] at hc
        contradiction
      · rw [hfolder]
        exact FileTree.standsAt_of_makeFolder hfiles

variable [DecidableEq ι]

theorem Matches.put (h : Matches crew config key folder origin w r)
    (haccord : crew.Accord config key (some folder))
    (hwhole : ∀ i, LeaseRecord.Whole (config i).ttl) (hc : w.run? i = some c)
    (hstep : { r.setParty i p with table := t } = r ∨
      Rivalry.Step origin 0 r { r.setParty i p with table := t })
    (hsettings : c'.settings = c.settings) (hparties : c'.lease.parties = [p.coordinator])
    (hnow : c'.now = w.host.now) (hclock : c'.clock = w.host.clock)
    (hagrees : c'.lease.backend.folder.Agrees folder key t) (hpunctual : p.Punctual r.now) :
    Matches crew config key folder origin (w.put i c') { r.setParty i p with table := t } := by
  obtain ⟨c₀, hstored, rfl⟩ := Option.map_eq_some_iff.mp hc
  have hparty : ∀ j, (r.setParty i p).party j = if j = i then p else r.party j :=
    fun j => r.party_setParty i j p
  have hcontext : ∀ j, (w.put i c').context j = if j = i then some c' else w.context j :=
    fun j => Function.update_apply w.context i (some c') j
  refine ⟨h.now.trans hnow.symm, hclock.trans h.clock, ?_, ?_, ?_, ?_, ?_, ?_⟩
  · intro j
    rcases hstep with hsame | hstep
    · rw [hsame]
      exact h.same j
    · have hsame := hstep.same j
      exact ⟨hsame.config.trans (h.same j).config, hsame.identity.trans (h.same j).identity⟩
  · intro j hj
    rw [hcontext] at hj
    by_cases hji : j = i
    · rw [if_pos hji] at hj
      contradiction
    · rw [if_neg hji] at hj
      rw [Rivalry.coordinator, hparty, if_neg hji]
      exact h.absent j hj
  · intro j d hj
    rw [hcontext] at hj
    rw [Rivalry.coordinator, hparty]
    by_cases hji : j = i
    · rw [if_pos hji] at hj ⊢
      cases hj
      rw [hsettings, hji]
      exact ⟨(h.present i c₀ hstored).1, hparties⟩
    · rw [if_neg hji] at hj ⊢
      exact h.present j d hj
  · intro j d _
    exact hagrees
  · intro j
    rw [hparty]
    split
    · exact hpunctual
    · exact h.punctual j
  · intro j
    rcases hstep with hsame | hstep
    · rw [hsame]
      exact h.sound j
    · exact Rivalry.sound_of_step (h.terms haccord hwhole) h.sound hstep j

theorem Matches.errand (h : Matches crew config key folder origin w r)
    (haccord : crew.Accord config key (some folder)) (hc : w.run? i = some c) {q : Coordinator}
    {site : LeaseSite}
    (hstep : (r.coordinator i).stepErrand (LeaseSite.backend (some folder) (clockFrom origin))
      r.now c.lease.backend = some (q, site))
    (hlegible : (r.coordinator i).attempts = true → c.lease.backend.folder.Legible folder
      (r.coordinator i).tryAcquireCall (c.clock c.now)) :
    ∃ p t, p.coordinator = q ∧ Rivalry.Step origin 0 r { r.setParty i p with table := t } ∧
      site.folder.Agrees folder key t ∧ p.Punctual r.now := by
  have hkey := h.key_eq haccord i
  have hagrees := h.agrees_run hc
  obtain ⟨t, hstep, hafter⟩ := Coordinator.stepErrand_alike
    (R := fun site t => site.folder.Agrees folder key t) hagrees
    (fun hattempts => h.alike hc (r.coordinator i).tryAcquireCall hkey (hlegible hattempts))
    (h.alike hc (r.coordinator i).releaseCall hkey legible_of_release)
    (h.alike hc (r.coordinator i).holderCall hkey legible_of_currentHolder) hstep
  have hatomic : (w.host.folder.mirror folder (clockFrom origin)).Atomic origin :=
    w.host.folder.mirror_atomic folder origin
  have hseen : (r.coordinator i).SeesGrant r.now → r.now ≤ (r.party i).attempted + 0 :=
    fun hsees => Nat.le_of_eq ((h.punctual i).seesGrant hsees).symm
  exact ⟨_, t, rfl, .errand i _ hatomic q t hstep hseen, hafter,
    (h.punctual i).errandStep (w.host.folder.mirror_atOnce folder _)
      (Coordinator.errandStep_of_stepErrand hstep)⟩

theorem Matches.renewer (h : Matches crew config key folder origin w r)
    (haccord : crew.Accord config key (some folder)) (hc : w.run? i = some c) {q : Coordinator}
    {site : LeaseSite} {stopFirst : Bool}
    (hstep : (r.coordinator i).stepRenewer (LeaseSite.backend (some folder) (clockFrom origin))
      r.now stopFirst c.lease.backend = some (q, site))
    (hlegible : (r.coordinator i).renews = true → c.lease.backend.folder.Legible folder
      (r.coordinator i).renewCall (c.clock c.now)) :
    ∃ p t, p.coordinator = q ∧ Rivalry.Step origin 0 r { r.setParty i p with table := t } ∧
      site.folder.Agrees folder key t ∧ p.Punctual r.now := by
  have hkey := h.key_eq haccord i
  have hagrees := h.agrees_run hc
  obtain ⟨t, hstep, hafter⟩ := Coordinator.stepRenewer_alike
    (R := fun site t => site.folder.Agrees folder key t) hagrees
    (fun hrenews => h.alike hc (r.coordinator i).renewCall hkey (hlegible hrenews)) hstep
  have hatomic : (w.host.folder.mirror folder (clockFrom origin)).Atomic origin :=
    w.host.folder.mirror_atomic folder origin
  have hseen : (r.coordinator i).SeesRenewal r.now → r.now ≤ (r.party i).renewed + 0 :=
    fun hsees => Nat.le_of_eq ((h.punctual i).seesRenewal hsees).symm
  obtain ⟨tenure, htenure, hrenew⟩ := Coordinator.renewerStep_of_stepRenewer hstep
  exact ⟨_, t, rfl, .renewer i _ hatomic _ q t hstep hseen, hafter,
    (h.punctual i).renewerStep (w.host.folder.mirror_atOnce folder _) htenure hrenew⟩

theorem Matches.move (h : Matches crew config key folder origin w r)
    (haccord : crew.Accord config key (some folder))
    (hwhole : ∀ i, LeaseRecord.Whole (config i).ttl) (hc : w.run? i = some c)
    (hmove : c.Move c') :
    ∃ r', Matches crew config key folder origin (w.put i c') r' := by
  have hcoordinator := h.coordinator_eq hc
  have hparty : ∀ {q}, c.coordinator? = some q → q = r.coordinator i := fun hq =>
    Option.some.inj (hq.symm.trans hcoordinator)
  obtain ⟨c₀, hstored, rfl⟩ := Option.map_eq_some_iff.mp hc
  obtain ⟨hsettings, hparties⟩ := h.present i c₀ hstored
  have hagrees := h.agrees i c₀ hstored
  have hset : ∀ q, (c₀.lease.parties.set 0 q) = [q] := by
    intro q
    rw [hparties]
    rfl
  have hfolder : (c₀.on w.host).settings.leaseDir = some folder := by
    rw [← haccord.leaseDir_eq i, ← hsettings]
    rfl
  have hbackend : (c₀.on w.host).leaseBackend =
      LeaseSite.backend (some folder) (clockFrom origin) := by
    rw [RunContext.leaseBackend, hfolder, ← h.clock]
    rfl
  have hnow : (c₀.on w.host).now = r.now := h.now.symm
  cases hmove with
  | acquire q q' hq hacquire =>
    obtain rfl := hparty hq
    rw [hnow] at hacquire
    exact ⟨_, h.put haccord hwhole hc (.inr (.acquire i _ q' hacquire)) rfl (hset q') rfl rfl
      hagrees ((h.punctual i).acquire hacquire)⟩
  | shutdown =>
    by_cases hdone : c₀.shutDown = true
    · have hsame : { r.setParty i (r.party i) with table := r.table } = r := by
        show { r with party := Function.update r.party i (r.party i) } = r
        rw [Function.update_eq_self]
      have hbegin : (c₀.on w.host).beginShutdown = c₀.on w.host := if_pos hdone
      rw [hbegin]
      exact ⟨_, h.put haccord hwhole hc (.inl hsame) rfl hparties rfl rfl hagrees (h.punctual i)⟩
    · have hbegin := RunContext.beginShutdown_eq hcoordinator (Bool.eq_false_iff.mpr hdone)
      rw [hbegin]
      exact ⟨_, h.put haccord hwhole hc (.inr (.release i)) rfl (hset _) rfl rfl hagrees
        (h.punctual i).release⟩
  | drop q hq =>
    obtain rfl := hparty hq
    exact ⟨_, h.put haccord hwhole hc (.inr (.drop i)) rfl (hset _) rfl rfl hagrees
      (h.punctual i).drop⟩
  | errand q q' site hq hstep hlegible =>
    obtain rfl := hparty hq
    rw [hbackend, hnow] at hstep
    obtain ⟨p, t, rfl, hstep, hafter, hpunctual⟩ := h.errand haccord hc hstep
      fun hattempts => hlegible hattempts folder hfolder
    exact ⟨_, h.put haccord hwhole hc (.inr hstep) rfl (hset _) rfl rfl hafter hpunctual⟩
  | renewer stopFirst q q' site hq hstep hlegible =>
    obtain rfl := hparty hq
    rw [hbackend, hnow] at hstep
    obtain ⟨p, t, rfl, hstep, hafter, hpunctual⟩ := h.renewer haccord hc hstep
      fun hrenews => hlegible hrenews folder hfolder
    exact ⟨_, h.put haccord hwhole hc (.inr hstep) rfl (hset _) rfl rfl hafter hpunctual⟩
  | supervisor q q' hq hstep =>
    obtain rfl := hparty hq
    obtain ⟨tenure, htenure, -, hlearn⟩ := Coordinator.supervisorStep_of_stepSupervisor hstep
    exact ⟨_, h.put haccord hwhole hc (.inr (.supervisor i q' hstep)) rfl (hset q') rfl rfl hagrees
      ((h.punctual i).supervisorStep hlearn)⟩

theorem Matches.launch (h : Matches crew config key folder origin w r)
    (haccord : crew.Accord config key (some folder)) (hnew : w.context i = none) :
    ∃ r', Matches crew config key folder origin (w.launch crew i) r' := by
  rcases hstart : RunContext.start (crew.settings i) (crew.identity i) w.host (crew.traffic i) with
    ⟨started, host⟩
  have hlaunch : w.launch crew i =
      { host, context := Function.update w.context i started.toOption } := by
    unfold Fleet.launch
    rw [hstart]
  obtain ⟨hnow, hclock, hmade⟩ :=
    RunContext.start_cases (haccord.lease i) (haccord.leaseDir_eq i) hstart
  obtain ⟨t, hsound, hagrees, hagrees'⟩ := h.table_of_start haccord hstart
  have hparties : ∀ c, started = .ok c →
      c.settings = crew.settings i ∧ c.lease.parties = [r.coordinator i] := by
    intro c hc
    rw [h.absent i hnew]
    obtain ⟨-, failure, hfailure⟩ | ⟨-, -, -, hparties⟩ := hmade
    · rw [hfailure] at hc
      contradiction
    · exact hparties c hc
  -- A run that is there afterwards was there before, or is the one that started.
  have hcontext : ∀ j c, (w.launch crew i).context j = some c →
      w.context j = some c ∨ j = i ∧ started = .ok c := by
    intro j c hc
    rw [hlaunch] at hc
    dsimp only at hc
    rw [Function.update_apply] at hc
    split at hc
    · cases started with
      | error failure => contradiction
      | ok c' =>
        cases hc
        exact .inr ⟨‹_›, rfl⟩
    · exact .inl hc
  have hhost : (w.launch crew i).host = host := by rw [hlaunch]
  refine ⟨{ r with table := t }, ?_, ?_, h.same, ?_, ?_, ?_, h.punctual, hsound⟩
  · rw [hhost, hnow]
    exact h.now
  · rw [hhost, hclock]
    exact h.clock
  · intro j hj
    by_cases hji : j = i
    · rw [hji]
      exact h.absent i hnew
    · rw [hlaunch] at hj
      exact h.absent j ((Function.update_of_ne hji _ _).symm.trans hj)
  · intro j c hc
    rcases hcontext j c hc with hbefore | ⟨rfl, hstarted⟩
    · exact h.present j c hbefore
    · exact hparties c hstarted
  · intro j c hc
    rw [hhost]
    rcases hcontext j c hc with hbefore | ⟨rfl, hstarted⟩
    · exact hagrees j c hbefore
    · exact hagrees' c hstarted

theorem Matches.step (h : Matches crew config key folder origin w r)
    (haccord : crew.Accord config key (some folder))
    (hwhole : ∀ i, LeaseRecord.Whole (config i).ttl) {w' : Fleet ι}
    (hstep : Step crew w w') :
    ∃ r', Matches crew config key folder origin w' r' := by
  cases hstep with
  | start i hnew => exact h.launch haccord hnew
  | wait later hlater hseen => exact ⟨_, h.wait hlater hseen⟩
  | move i c c' hc hmove => exact h.move haccord hwhole hc hmove
  | elsewhere host hnow hclock hspares =>
    refine ⟨_, h.elsewhere hnow hclock ?_⟩
    intro i
    rw [← haccord.key_eq i]
    exact hspares i (config i) folder (haccord.lease i) (haccord.leaseDir_eq i)

/-! ## Runs -/

theorem matches_of_run (haccord : crew.Accord config key (some folder))
    (hwhole : ∀ i, LeaseRecord.Whole (config i).ttl) {start : Fleet ι}
    (hclock : start.host.clock = clockFrom origin) (hidle : ∀ i, start.context i = none)
    (hrun : Run crew start w) : ∃ r, Matches crew config key folder origin w r := by
  induction hrun with
  | refl =>
    refine ⟨{ now := start.host.now, party i := { coordinator := recruit crew config i } }, rfl,
      hclock, fun i => ⟨rfl, rfl⟩, fun i _ => rfl, ?_, ?_, fun i => punctual_of_new rfl,
      fun i => .of_ended rfl rfl⟩
    · intro i c hc
      rw [hidle i] at hc
      contradiction
    · intro i c hc
      rw [hidle i] at hc
      contradiction
  | tail _ hstep ih =>
    obtain ⟨r, hmatches⟩ := ih
    exact hmatches.step haccord hwhole hstep

end

end Fleet

end GoldenCapture
