import GoldenCapture.Wait
import Mathlib.Data.List.Chain
import Mathlib.Data.List.GetD

/-!
# The looks of a wait

A wait is a list of looks. Each but the last shows nothing and is followed by one sleep, and the
last one settles how the wait ends.
-/

namespace GoldenCapture

namespace Timeline

variable {σ α : Type} {t : Timeline σ} {policy : WaitPolicy} {start limit : Nat}
  {probe : σ → Probe α × σ}

/-- One look after another: the world of the first one, those of the others and the end. -/
inductive Looks (t : Timeline σ) (policy : WaitPolicy) (start limit : Nat)
    (probe : σ → Probe α × σ) : σ → List σ → Except Expiry α × σ → Prop
  | ready {s s' : σ} {value : α} (h : probe s = (.ready value, s')) :
      Looks t policy start limit probe s [] (.ok value, s')
  | expired {s s' : σ} {observed : Nat} (h : probe s = (.pending observed, s'))
      (hend : limit ≤ t.nowAfter s s') :
      Looks t policy start limit probe s [] (.error ⟨observed, t.nowAfter s s' - start⟩, s')
  | again {s s' : σ} {observed : Nat} {rest : List σ} {result : Except Expiry α × σ}
      (h : probe s = (.pending observed, s')) (hearly : t.nowAfter s s' < limit)
      (hrest : Looks t policy start limit probe
        (t.sleepUntil (min (t.nowAfter s s' + policy.pause) limit) s') rest result) :
      Looks t policy start limit probe s
        (t.sleepUntil (min (t.nowAfter s s' + policy.pause) limit) s' :: rest) result

theorem exists_looks (t : Timeline σ) (policy : WaitPolicy) (start limit : Nat)
    (probe : σ → Probe α × σ) (s : σ) :
    ∃ rest, Looks t policy start limit probe s rest (t.look policy start limit probe s) := by
  fun_induction t.look policy start limit probe s with
  | case1 s value s' hready => exact ⟨[], .ready hready⟩
  | case2 s observed s' hpending now hlimit => exact ⟨[], .expired hpending hlimit⟩
  | case3 s observed s' hpending now hearly ih =>
    obtain ⟨rest, hrest⟩ := ih
    exact ⟨_ :: rest, .again hpending (Nat.lt_of_not_le hearly) hrest⟩

variable {s : σ} {rest : List σ} {result : Except Expiry α × σ}

theorem Looks.patient (h : Looks t policy start limit probe s rest result) :
    (s :: rest).IsChain fun w w' => ∃ observed, (probe w).1 = .pending observed ∧
      w' = t.sleepUntil (min (t.nowAfter w (probe w).2 + policy.pause) limit) (probe w).2 := by
  induction h with
  | ready hready => exact .singleton _
  | expired hpending hend => exact .singleton _
  | again hpending hearly hrest ih =>
    refine .cons_cons ⟨_, congrArg Prod.fst hpending, ?_⟩ ih
    rw [hpending]

theorem Looks.world (h : Looks t policy start limit probe s rest result) :
    result.2 = (probe (rest.getLastD s)).2 := by
  induction h with
  | ready hready => exact (congrArg Prod.snd hready).symm
  | expired hpending hend => exact (congrArg Prod.snd hpending).symm
  | again hpending hearly hrest ih => rwa [List.getLastD_cons]

theorem Looks.answer (h : Looks t policy start limit probe s rest result) :
    result.1 = match (probe (rest.getLastD s)).1 with
      | .ready value => .ok value
      | .pending observed => .error ⟨observed, t.nowAfter (rest.getLastD s) result.2 - start⟩ := by
  induction h with
  | ready hready =>
    simp only [List.getLastD_nil]
    rw [hready]
  | expired hpending hend =>
    simp only [List.getLastD_nil]
    rw [hpending]
  | again hpending hearly hrest ih => rwa [List.getLastD_cons]

theorem Looks.pending (h : Looks t policy start limit probe s rest result) :
    ∀ w ∈ (s :: rest).dropLast, ∃ observed, (probe w).1 = .pending observed := by
  induction h with
  | ready hready => exact fun w hw => absurd hw List.not_mem_nil
  | expired hpending hend => exact fun w hw => absurd hw List.not_mem_nil
  | again hpending hearly hrest ih =>
    intro w hw
    rw [List.dropLast_cons_cons] at hw
    rcases List.mem_cons.mp hw with rfl | hw
    · exact ⟨_, congrArg Prod.fst hpending⟩
    · exact ih w hw

end Timeline

end GoldenCapture
