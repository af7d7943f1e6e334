import GoldenCapture.Proofs.Wait.Looks
import Mathlib.Algebra.Order.Floor.Div

/-!
# The schedule of a wait

A wait looks at its start, then at every interval, and for the last time exactly at its limit. It
ends at the first look that shows a value.
-/

namespace GoldenCapture

/-! ## Instants -/

/-- The instants at which a wait looks if no look shows a value. -/
def WaitPolicy.schedule (p : WaitPolicy) (start limit : Nat) : List Nat :=
  (List.range ((limit - start) ⌈/⌉ p.pause)).map (start + · * p.pause) ++ [max start limit]

namespace WaitPolicy

variable {policy : WaitPolicy} {start limit : Nat}

theorem pause_eq (hpoll : 0 < policy.pollInterval) : policy.pause = policy.pollInterval :=
  Nat.max_eq_right hpoll

theorem lt_ceilDiv_iff {k : Nat} :
    k < (limit - start) ⌈/⌉ policy.pause ↔ start + k * policy.pause < limit := by
  rw [Nat.mul_comm, lt_iff_lt_of_le_iff_le (ceilDiv_le_iff_le_mul policy.pause_pos)]
  omega

theorem mem_schedule {instant : Nat} :
    instant ∈ policy.schedule start limit ↔
      (∃ k, instant = start + k * policy.pause ∧ instant < limit) ∨ instant = max start limit := by
  unfold schedule
  rw [List.mem_append, List.mem_singleton, List.mem_map]
  apply or_congr_left
  constructor
  · rintro ⟨k, hk, rfl⟩
    exact ⟨k, rfl, lt_ceilDiv_iff.mp (List.mem_range.mp hk)⟩
  · rintro ⟨k, rfl, hearly⟩
    exact ⟨k, List.mem_range.mpr (lt_ceilDiv_iff.mpr hearly), rfl⟩

theorem schedule_sorted : (policy.schedule start limit).Pairwise (· < ·) := by
  unfold schedule
  rw [List.pairwise_append]
  refine ⟨?_, List.pairwise_singleton _ _, ?_⟩
  · rw [List.pairwise_map]
    refine List.pairwise_lt_range.imp fun {a b} hab => ?_
    have hmul := Nat.mul_lt_mul_of_pos_right hab policy.pause_pos
    omega
  · intro early hmem last hlast
    obtain ⟨k, hk, rfl⟩ := List.mem_map.mp hmem
    have hearly := lt_ceilDiv_iff.mp (List.mem_range.mp hk)
    rw [List.mem_singleton] at hlast
    omega

theorem length_schedule :
    (policy.schedule start limit).length = (limit - start) ⌈/⌉ policy.pause + 1 := by
  simp [schedule]

theorem getLast?_schedule : (policy.schedule start limit).getLast? = some (max start limit) :=
  List.getLast?_concat

theorem schedule_of_le (h : limit ≤ start) : policy.schedule start limit = [start] := by
  unfold schedule
  rw [Nat.sub_eq_zero_of_le h, zero_ceilDiv, Nat.max_eq_left h]
  rfl

theorem schedule_of_lt (h : start < limit) :
    policy.schedule start limit =
      start :: policy.schedule (min (start + policy.pause) limit) limit := by
  have hpause := policy.pause_pos
  by_cases hnext : start + policy.pause < limit
  · have hcount : (limit - start) ⌈/⌉ policy.pause =
        (limit - (start + policy.pause)) ⌈/⌉ policy.pause + 1 := by
      rw [Nat.ceilDiv_eq_add_pred_div, Nat.ceilDiv_eq_add_pred_div, ← Nat.add_div_right _ hpause]
      congr 1
      omega
    rw [Nat.min_eq_left (by omega)]
    unfold schedule
    rw [hcount, List.range_succ_eq_map, List.map_cons, List.map_map, Nat.zero_mul, Nat.add_zero,
      Nat.max_eq_right (by omega), Nat.max_eq_right (by omega), List.cons_append]
    congr 2
    apply List.map_congr_left
    intro k _
    simp only [Function.comp, Nat.succ_mul]
    omega
  · have hcount : (limit - start) ⌈/⌉ policy.pause = 1 := by
      apply Nat.le_antisymm
      · rw [ceilDiv_le_iff_le_mul hpause]
        omega
      · exact lt_ceilDiv_iff.mpr (by omega)
    rw [Nat.min_eq_right (by omega), schedule_of_le (Nat.le_refl _)]
    unfold schedule
    rw [hcount, Nat.max_eq_right (by omega)]
    simp

theorem start_prefix_schedule : [start] <+: policy.schedule start limit := by
  rcases Nat.lt_or_ge start limit with hearly | hlimit
  · rw [schedule_of_lt hearly]
    exact List.cons_prefix_cons.mpr ⟨rfl, List.nil_prefix⟩
  · rw [schedule_of_le hlimit]

end WaitPolicy

namespace Timeline

variable {σ α : Type} {t : Timeline σ} {policy : WaitPolicy} {start limit : Nat}
  {probe : σ → Probe α × σ} {s : σ} {rest : List σ} {result : Except Expiry α × σ}

/-! ## Looks that take no time -/

section

variable (hprobe : ∀ s, t.now (probe s).2 = t.now s)

include hprobe

theorem nowAfter_probe (s : σ) : t.nowAfter s (probe s).2 = t.now s := by
  rw [nowAfter, hprobe]
  exact Nat.max_self _

theorem nowAfter_of_probe {s' : σ} {outcome : Probe α} (h : probe s = (outcome, s')) :
    t.nowAfter s s' = t.now s := by
  rw [← nowAfter_probe hprobe s, h]

theorem schedule_next {s' : σ} {observed : Nat} (h : probe s = (.pending observed, s'))
    (hearly : t.nowAfter s s' < limit) :
    policy.schedule (t.now s) limit = t.now s ::
      policy.schedule (t.now (t.sleepUntil (min (t.nowAfter s s' + policy.pause) limit) s'))
        limit := by
  have hnow := nowAfter_of_probe hprobe h
  have hsame : t.now s' = t.now s := by rw [← hprobe s, h]
  have hnext : t.now (t.sleepUntil (min (t.nowAfter s s' + policy.pause) limit) s') =
      min (t.now s + policy.pause) limit := by
    rw [t.now_sleepUntil, hnow, hsame]
    omega
  rw [hnext]
  exact WaitPolicy.schedule_of_lt (hnow ▸ hearly)

theorem Looks.instants (h : Looks t policy start limit probe s rest result) :
    (s :: rest).map t.now <+: policy.schedule (t.now s) limit := by
  induction h with
  | ready hready => exact WaitPolicy.start_prefix_schedule
  | expired hpending hend => exact WaitPolicy.start_prefix_schedule
  | again hpending hearly hrest ih =>
    rw [schedule_next hprobe hpending hearly]
    exact List.cons_prefix_cons.mpr ⟨rfl, ih⟩

theorem Looks.complete (h : Looks t policy start limit probe s rest result) {observed : Nat}
    (hlast : (probe (rest.getLastD s)).1 = .pending observed) :
    (s :: rest).map t.now = policy.schedule (t.now s) limit := by
  induction h with
  | ready hready =>
    rw [List.getLastD_nil, hready] at hlast
    contradiction
  | expired hpending hend =>
    rw [nowAfter_of_probe hprobe hpending] at hend
    rw [WaitPolicy.schedule_of_le hend]
    rfl
  | again hpending hearly hrest ih =>
    rw [List.getLastD_cons] at hlast
    rw [schedule_next hprobe hpending hearly, ← ih hlast]
    rfl

theorem Looks.waited (h : Looks t policy (t.now s) limit probe s rest result) {observed : Nat}
    (hlast : (probe (rest.getLastD s)).1 = .pending observed) :
    t.nowAfter (rest.getLastD s) result.2 - t.now s = limit - t.now s := by
  have hnow : t.now (rest.getLastD s) = max (t.now s) limit := by
    have hlasts := congrArg List.getLast? (h.complete hprobe hlast)
    rw [List.getLast?_map, List.getLast?_cons, ← List.getLastD_eq_getLast?,
      WaitPolicy.getLast?_schedule] at hlasts
    exact Option.some.inj hlasts
  rw [h.world, nowAfter_probe hprobe, hnow]
  omega

end

/-! ## Waits -/

/-- A wait from `s` that looks at these worlds, `s` first, and ends with this result. -/
structure Vigil (t : Timeline σ) (policy : WaitPolicy) (limit : Nat) (probe : σ → Probe α × σ)
    (s : σ) (rest : List σ) (result : Except Expiry α × σ) : Prop where
  instants : (s :: rest).map t.now <+: policy.schedule (t.now s) limit
  /-- A look that shows nothing is followed by one sleep and the next look. -/
  patient : (s :: rest).IsChain fun w w' => ∃ observed, (probe w).1 = .pending observed ∧
    w' = t.sleepUntil (min (t.now (probe w).2 + policy.pollInterval) limit) (probe w).2
  /-- Nothing happens after the last look. -/
  world : result.2 = (probe (rest.getLastD s)).2
  answer : match (probe (rest.getLastD s)).1 with
    | .ready value => result.1 = .ok value
    | .pending observed => result.1 = .error ⟨observed, limit - t.now s⟩ ∧
      (s :: rest).map t.now = policy.schedule (t.now s) limit
  few : (s :: rest).length ≤ (limit - t.now s) ⌈/⌉ policy.pollInterval + 1

theorem exists_vigil {policy : WaitPolicy} (hpoll : 0 < policy.pollInterval)
    (hprobe : ∀ s, t.now (probe s).2 = t.now s) (deadline : Option Nat) (s : σ) :
    ∃ rest, Vigil t policy (policy.limit deadline (t.now s)) probe s rest
      (t.waitFor policy deadline probe s) := by
  obtain ⟨rest, hlooks⟩ := exists_looks t policy (t.now s) (policy.limit deadline (t.now s)) probe s
  have hpause := WaitPolicy.pause_eq hpoll
  have hinstants := hlooks.instants hprobe
  refine ⟨rest, hinstants, ?_, hlooks.world, ?_, ?_⟩
  · refine hlooks.patient.imp fun w w' ⟨observed, hpending, hsleep⟩ => ⟨observed, hpending, ?_⟩
    rw [hsleep, nowAfter_probe hprobe, hprobe, hpause]
  · have hanswer := hlooks.answer
    split
    · rename_i value hready
      rw [hready] at hanswer
      exact hanswer
    · rename_i observed hpending
      rw [hpending] at hanswer
      dsimp only at hanswer
      rw [hlooks.waited hprobe hpending] at hanswer
      exact ⟨hanswer, hlooks.complete hprobe hpending⟩
  · have hlength := hinstants.length_le
    rwa [List.length_map, WaitPolicy.length_schedule, hpause] at hlength

end Timeline

/-! ## A rehearsed wait -/

theorem Rehearsal.now_probe {α : Type} (r : Rehearsal α) :
    timeline.now (probe r).2 = timeline.now r := by
  unfold probe
  dsimp only
  split <;> rfl

def Rehearsal.fruitless : Rehearsal Unit := { shown := [.pending 1, .pending 3] }

/-- The deadline cuts the wait short, and not at a multiple of the interval. -/
theorem Timeline.exists_vigil_fruitless :
    ∃ rest, Vigil Rehearsal.timeline ⟨500, 50⟩ 120 Rehearsal.probe .fruitless rest
      (Rehearsal.timeline.waitFor ⟨500, 50⟩ (some 120) Rehearsal.probe .fruitless) := by
  have hlimit : WaitPolicy.limit ⟨500, 50⟩ (some 120)
      (Rehearsal.timeline.now .fruitless) = 120 := by decide
  have hpoll : 0 < (⟨500, 50⟩ : WaitPolicy).pollInterval := by decide
  have hvigil := exists_vigil hpoll Rehearsal.now_probe (some 120) .fruitless
  rwa [hlimit] at hvigil

example : (Rehearsal.timeline.waitFor ⟨500, 50⟩ (some 120) Rehearsal.probe .fruitless).2.looks =
    [120, 100, 50, 0] := by
  decide +kernel

end GoldenCapture
