import GoldenCapture.Proofs.Wait.Looks
import Mathlib.Logic.Relation

/-!
# Polling

What a wait that ends well has seen: a world that the wait came to by letting time pass, and in it
what was waited for.
-/

namespace GoldenCapture

/-! ## Looks -/

namespace Timeline

variable {σ α : Type} {t : Timeline σ}

/-- The second world is the first after some time, with looks in between that change nothing. -/
def Reaches (t : Timeline σ) : σ → σ → Prop :=
  Relation.ReflTransGen fun s s' => ∃ instant, s' = t.sleepUntil instant s

theorem Reaches.induct {P : σ → Prop} (hsleep : ∀ instant s, P s → P (t.sleepUntil instant s))
    {s s' : σ} (hs : P s) (h : t.Reaches s s') : P s' := by
  induction h with
  | refl => exact hs
  | tail _ hstep ih =>
    obtain ⟨instant, rfl⟩ := hstep
    exact hsleep instant _ ih

theorem Looks.reaches {probe : σ → Probe α × σ} (hprobe : ∀ s, (probe s).2 = s)
    {policy : WaitPolicy} {start limit : Nat} {s : σ} {rest : List σ}
    {result : Except Expiry α × σ} (h : Looks t policy start limit probe s rest result) :
    t.Reaches s result.2 := by
  induction h with
  | @ready s _ _ hready =>
    have hs := hprobe s
    rw [hready] at hs
    exact hs ▸ .refl
  | @expired s _ _ hpending hend =>
    have hs := hprobe s
    rw [hpending] at hs
    exact hs ▸ .refl
  | @again s _ _ _ _ hpending hearly hrest ih =>
    have hs := hprobe s
    rw [hpending] at hs
    obtain rfl := hs
    exact .head ⟨_, rfl⟩ ih

theorem of_look {probe : σ → Probe α × σ} (hprobe : ∀ s, (probe s).2 = s)
    {policy : WaitPolicy} {start limit : Nat} {s s' : σ} {value : α}
    (h : t.look policy start limit probe s = (.ok value, s')) :
    t.Reaches s s' ∧ (probe s').1 = .ready value := by
  obtain ⟨rest, hlooks⟩ := exists_looks t policy start limit probe s
  rw [h] at hlooks
  refine ⟨hlooks.reaches hprobe, ?_⟩
  have hworld := hlooks.world
  have hanswer := hlooks.answer
  rw [hprobe] at hworld
  rw [← hworld] at hanswer
  cases hshown : (probe s').1 with
  | ready shown =>
    rw [hshown] at hanswer
    cases hanswer
    rfl
  | pending observed =>
    rw [hshown] at hanswer
    contradiction

variable {policy : WaitPolicy} {deadline : Option Nat} {store : σ → Store} {s s' : σ}

theorem of_waitForBatches {wanted : Nat}
    (h : t.waitForBatches policy deadline store wanted s = (.ok (), s')) :
    t.Reaches s s' ∧ wanted ≤ (store s').count := by
  simp only [waitForBatches, Prod.mk.injEq] at h
  obtain ⟨hanswer, rfl⟩ := h
  generalize hwait : t.waitFor policy deadline _ s = answer at hanswer ⊢
  obtain ⟨_ | value, s'⟩ := answer
  · contradiction
  · obtain ⟨hreaches, hready⟩ := of_look (fun _ => rfl) hwait
    refine ⟨hreaches, ?_⟩
    unfold Probe.atLeast at hready
    split at hready
    · assumption
    · contradiction

theorem of_waitForSelection {selector : Selector} {expected : Batch} {captured : Captured}
    (h : t.waitForSelection policy deadline store selector expected s = (.ok captured, s')) :
    t.Reaches s s' ∧ selector.select expected (store s').captured = some captured := by
  simp only [waitForSelection, Prod.mk.injEq] at h
  obtain ⟨hanswer, rfl⟩ := h
  generalize hwait : t.waitFor policy deadline _ s = answer at hanswer ⊢
  obtain ⟨_ | value, s'⟩ := answer
  · contradiction
  · cases hanswer
    obtain ⟨hreaches, hready⟩ := of_look (fun s => by split <;> rfl) hwait
    refine ⟨hreaches, ?_⟩
    split at hready
    · rename_i hselect
      cases hready
      exact hselect
    · contradiction

end Timeline

/-! ## Selections -/

/-- The batches of a store are numbered in the order in which they came. -/
def Store.Numbered (s : Store) : Prop :=
  s.captured.map Captured.arrival = List.range s.count

theorem Store.numbered_empty : Numbered {} := rfl

theorem Store.Numbered.append {s : Store} (h : s.Numbered) (p : Protocol) (batch : Batch) :
    (s.append p batch).Numbered := by
  unfold Numbered at h ⊢
  simp only [Store.append, count, List.map_append, List.length_append, List.map_cons,
    List.map_nil, List.length_cons, List.length_nil, List.range_succ]
  exact congrArg (· ++ [s.count]) h

theorem Selector.newest_of_select {selector : Selector} {expected : Batch} {s : Store}
    {captured : Captured} (hs : s.Numbered)
    (h : selector.select expected s.captured = some captured) :
    captured ∈ s.captured ∧ selector.accepts expected captured.batch = true ∧
      ∀ c ∈ s.captured, selector.accepts expected c.batch = true →
        c.arrival ≤ captured.arrival := by
  obtain ⟨haccepts, after, before, hsplit, hrefused⟩ := List.find?_eq_some_iff_append.mp h
  have hcaptured : s.captured = before.reverse ++ captured :: after.reverse := by
    have hreverse := congrArg List.reverse hsplit
    simpa using hreverse
  have hsorted : s.captured.Pairwise fun a b => a.arrival < b.arrival := by
    have hrange : (s.captured.map Captured.arrival).Pairwise (· < ·) := by
      rw [hs]
      exact List.pairwise_lt_range
    exact List.pairwise_map.mp hrange
  rw [hcaptured] at hsorted ⊢
  refine ⟨by simp, haccepts, fun c hc hcaccepts => ?_⟩
  rcases List.mem_append.mp hc with hc | hc
  · have hlt := (List.pairwise_append.mp hsorted).2.2 c hc captured List.mem_cons_self
    omega
  · rcases List.mem_cons.mp hc with rfl | hc
    · exact Nat.le_refl _
    · have hnot := hrefused c (List.mem_reverse.mp hc)
      rw [hcaccepts] at hnot
      contradiction

end GoldenCapture
