import GoldenCapture.Proofs.Regex.Meaning
import GoldenCapture.Regex.Program

/-!
# Compiled expressions

The program of an expression gets from its first place to the place behind it along exactly the
stretches of text that the expression matches.
-/

namespace GoldenCapture.Regex

namespace Program

/-! ## Threads -/

/-- From a place of the program and a place of the text, some thread gets to the end of the program
in at most so many steps. -/
inductive Accepts (p : Program) : Nat → Nat → Spot → Prop
  | done {k pc : Nat} {s : Spot} (h : p[pc]? = some .done) : Accepts p k pc s
  | jump {k pc next : Nat} {s : Spot} (h : p[pc]? = some (.jump next))
      (hnext : Accepts p k next s) : Accepts p (k + 1) pc s
  | first {k pc a b : Nat} {s : Spot} (h : p[pc]? = some (.fork a b)) (hnext : Accepts p k a s) :
      Accepts p (k + 1) pc s
  | second {k pc a b : Nat} {s : Spot} (h : p[pc]? = some (.fork a b)) (hnext : Accepts p k b s) :
      Accepts p (k + 1) pc s
  | test {k pc next : Nat} {s : Spot} {look : Look} (h : p[pc]? = some (.test look next))
      (hlook : look.holds s.before s.after.head? = true) (hnext : Accepts p k next s) :
      Accepts p (k + 1) pc s
  | read {k pc next : Nat} {before : Option Char} {c : Char} {rest : List Char} {set : CodeSet}
      (h : p[pc]? = some (.read set next)) (hset : set.contains c = true)
      (hnext : Accepts p k next ⟨some c, rest⟩) : Accepts p (k + 1) pc ⟨before, c :: rest⟩

variable {p q : Program} {k pc : Nat} {s t : Spot}

theorem Accepts.succ (h : Accepts p k pc s) : Accepts p (k + 1) pc s := by
  induction h with
  | done h => exact .done h
  | jump h _ ih => exact .jump h ih
  | first h _ ih => exact .first h ih
  | second h _ ih => exact .second h ih
  | test h hlook _ ih => exact .test h hlook ih
  | read h hset _ ih => exact .read h hset ih

theorem Accepts.of_jump {next : Nat} (h : Accepts p k pc s) (hpc : p[pc]? = some (.jump next)) :
    ∃ l, k = l + 1 ∧ Accepts p l next s := by
  cases h with
  | jump h hnext =>
    cases h.symm.trans hpc
    exact ⟨_, rfl, hnext⟩
  | done h | first h | second h | test h | read h => cases h.symm.trans hpc

theorem Accepts.of_fork {a b : Nat} (h : Accepts p k pc s) (hpc : p[pc]? = some (.fork a b)) :
    ∃ l, k = l + 1 ∧ (Accepts p l a s ∨ Accepts p l b s) := by
  cases h with
  | first h hnext =>
    cases h.symm.trans hpc
    exact ⟨_, rfl, .inl hnext⟩
  | second h hnext =>
    cases h.symm.trans hpc
    exact ⟨_, rfl, .inr hnext⟩
  | done h | jump h | test h | read h => cases h.symm.trans hpc

theorem Accepts.of_test {look : Look} {next : Nat} (h : Accepts p k pc s)
    (hpc : p[pc]? = some (.test look next)) :
    look.holds s.before s.after.head? = true ∧ ∃ l, k = l + 1 ∧ Accepts p l next s := by
  cases h with
  | test h hlook hnext =>
    cases h.symm.trans hpc
    exact ⟨hlook, _, rfl, hnext⟩
  | done h | jump h | first h | second h | read h => cases h.symm.trans hpc

theorem Accepts.of_read {set : CodeSet} {next : Nat} (h : Accepts p k pc s)
    (hpc : p[pc]? = some (.read set next)) :
    ∃ c rest, s.after = c :: rest ∧ set.contains c = true ∧
      ∃ l, k = l + 1 ∧ Accepts p l next ⟨some c, rest⟩ := by
  cases h with
  | read h hset hnext =>
    cases h.symm.trans hpc
    exact ⟨_, _, rfl, hset, _, rfl, hnext⟩
  | done h | jump h | first h | second h | test h => cases h.symm.trans hpc

theorem branch_eq (greedy : Bool) (body exit : Nat) :
    ∃ a b, branch greedy body exit = .fork a b ∧
      (a = body ∧ b = exit ∨ a = exit ∧ b = body) := by
  cases greedy
  · exact ⟨exit, body, rfl, .inr ⟨rfl, rfl⟩⟩
  · exact ⟨body, exit, rfl, .inl ⟨rfl, rfl⟩⟩

theorem Accepts.of_branch {greedy : Bool} {body exit : Nat} (h : Accepts p k pc s)
    (hpc : p[pc]? = some (branch greedy body exit)) :
    ∃ l, k = l + 1 ∧ (Accepts p l body s ∨ Accepts p l exit s) := by
  obtain ⟨a, b, hbranch, ⟨rfl, rfl⟩ | ⟨rfl, rfl⟩⟩ := branch_eq greedy body exit
  · exact h.of_fork (hbranch ▸ hpc)
  · obtain ⟨l, hl, hnext⟩ := h.of_fork (hbranch ▸ hpc)
    exact ⟨l, hl, hnext.symm⟩

theorem Accepts.branch {greedy : Bool} {body exit : Nat}
    (hpc : p[pc]? = some (branch greedy body exit))
    (h : Accepts p k body s ∨ Accepts p k exit s) : Accepts p (k + 1) pc s := by
  obtain ⟨a, b, hbranch, ⟨rfl, rfl⟩ | ⟨rfl, rfl⟩⟩ := branch_eq greedy body exit <;>
    obtain h | h := h
  · exact .first (hbranch ▸ hpc) h
  · exact .second (hbranch ▸ hpc) h
  · exact .second (hbranch ▸ hpc) h
  · exact .first (hbranch ▸ hpc) h

/-! ## Code -/

structure Extends (p q : Program) : Prop where
  size : p.size ≤ q.size
  get : ∀ i < p.size, q[i]? = p[i]?

theorem Extends.refl (p : Program) : Extends p p := ⟨Nat.le_refl _, fun _ _ => rfl⟩

theorem Extends.trans {r : Program} (h : Extends p q) (h' : Extends q r) : Extends p r :=
  ⟨Nat.le_trans h.size h'.size, fun i hi =>
    (h'.get i (Nat.lt_of_lt_of_le hi h.size)).trans (h.get i hi)⟩

theorem extends_push (p : Program) (i : Instruction) : Extends p (p.push i) :=
  ⟨by simp, fun j hj => by simp [Array.getElem?_push, Nat.ne_of_lt hj]⟩

theorem Extends.set (h : Extends p q) {start : Nat} (hstart : p.size ≤ start) (i : Instruction) :
    Extends p (q.set! start i) :=
  ⟨by simpa using h.size, fun j hj => by
    rw [Array.set!_eq_setIfInBounds, Array.getElem?_setIfInBounds_ne (by omega)]
    exact h.get j hj⟩

/-- The code of `q` from `start` on stands in `p`. -/
def Holds (p q : Program) (start : Nat) : Prop := ∀ i, start ≤ i → i < q.size → p[i]? = q[i]?

theorem Holds.mono {start later : Nat} (h : Holds p q start) (hle : start ≤ later) :
    Holds p q later := fun i hi => h i (Nat.le_trans hle hi)

theorem Holds.of_extends {r : Program} {start : Nat} (h : Holds p r start)
    (hextends : Extends q r) : Holds p q start :=
  fun i hi hlt => (h i hi (Nat.lt_of_lt_of_le hlt hextends.size)).trans (hextends.get i hlt)

/-- What `emit` appends gets from its start to the place behind it along the stretches in
`spans`. -/
structure Emits (spans : Spot → Spot → Prop) (emit : Program → Program) : Prop where
  keeps : ∀ p, Extends p (emit p)
  complete : ∀ {p q : Program} {k : Nat} {s t : Spot}, Holds q (emit p) p.size → spans s t →
    Accepts q k (emit p).size t → ∃ l, Accepts q l p.size s
  sound : ∀ {p q : Program} {k : Nat} {s : Spot}, Holds q (emit p) p.size → Accepts q k p.size s →
    ∃ t, spans s t ∧ Accepts q k (emit p).size t

namespace Emits

variable {spans others : Spot → Spot → Prop} {emit emit' : Program → Program}

theorem congr (h : Emits spans emit) (hspans : ∀ s t, others s t ↔ spans s t) :
    Emits others emit where
  keeps := h.keeps
  complete hcode hst haccepts := h.complete hcode ((hspans _ _).mp hst) haccepts
  sound hcode haccepts := by
    obtain ⟨t, hst, hexit⟩ := h.sound hcode haccepts
    exact ⟨t, (hspans _ _).mpr hst, hexit⟩

theorem nothing : Emits (fun s t => s = t) (fun p => p) where
  keeps := .refl
  complete _ hst haccepts := ⟨_, hst ▸ haccepts⟩
  sound _ haccepts := ⟨_, rfl, haccepts⟩

theorem andThen (h : Emits spans emit) (h' : Emits others emit') :
    Emits (fun s t => ∃ m, spans s m ∧ others m t) (fun p => emit' (emit p)) where
  keeps p := (h.keeps p).trans (h'.keeps _)
  complete := by
    rintro p q k s t hcode ⟨m, hfirst, hsecond⟩ haccepts
    obtain ⟨l, hmiddle⟩ := h'.complete (hcode.mono (h.keeps p).size) hsecond haccepts
    exact h.complete (hcode.of_extends (h'.keeps _)) hfirst hmiddle
  sound := by
    intro p q k s hcode haccepts
    obtain ⟨m, hfirst, hmiddle⟩ := h.sound (hcode.of_extends (h'.keeps _)) haccepts
    obtain ⟨t, hsecond, hexit⟩ := h'.sound (hcode.mono (h.keeps p).size) hmiddle
    exact ⟨t, ⟨m, hfirst, hsecond⟩, hexit⟩

theorem holds_push {i : Instruction} (h : Holds q (p.push i) p.size) : q[p.size]? = some i := by
  rw [h p.size (Nat.le_refl _) (by simp)]
  simp

theorem read (set : CodeSet) :
    Emits (chars set).Spans (fun p => p.push (.read set (p.size + 1))) where
  keeps p := extends_push p _
  complete := by
    rintro p q k ⟨before, after⟩ t hcode ⟨c, rest, rfl, hset, rfl⟩ haccepts
    rw [Array.size_push] at haccepts
    exact ⟨k + 1, .read (holds_push hcode) hset haccepts⟩
  sound := by
    intro p q k s hcode haccepts
    obtain ⟨c, rest, hafter, hset, l, rfl, hnext⟩ := haccepts.of_read (holds_push hcode)
    rw [Array.size_push]
    exact ⟨⟨some c, rest⟩, ⟨c, rest, hafter, hset, rfl⟩, hnext.succ⟩

theorem test (look : Look) :
    Emits (Regex.look look).Spans (fun p => p.push (.test look (p.size + 1))) where
  keeps p := extends_push p _
  complete := by
    rintro p q k s t hcode ⟨rfl, hlook⟩ haccepts
    rw [Array.size_push] at haccepts
    exact ⟨k + 1, .test (holds_push hcode) hlook haccepts⟩
  sound := by
    intro p q k s hcode haccepts
    obtain ⟨hlook, l, rfl, hnext⟩ := haccepts.of_test (holds_push hcode)
    rw [Array.size_push]
    exact ⟨s, ⟨rfl, hlook⟩, hnext.succ⟩

/-! ### Repetition -/

theorem copies (h : Emits spans emit) (n : Nat) :
    Emits (Repeats spans n) (Program.copies emit n) := by
  induction n with
  | zero => exact nothing
  | succ n ih => exact h.andThen ih

theorem holds_optional {greedy : Bool} (h : Emits spans emit)
    (hcode : Holds q (optional greedy emit p) p.size) :
    q[p.size]? = some (Program.branch greedy (p.size + 1) (emit (p.push .done)).size) ∧
      Holds q (emit (p.push .done)) (p.push .done).size := by
  have hsize := (h.keeps (p.push .done)).size
  rw [Array.size_push] at hsize
  constructor
  · rw [hcode p.size (Nat.le_refl _) (by simp [optional]; omega)]
    simp [optional, show p.size < _ from hsize]
  · intro i hi hlt
    rw [Array.size_push] at hi
    rw [hcode i (by omega) (by simpa [optional] using hlt)]
    simp [optional, Array.getElem?_setIfInBounds_ne, show p.size ≠ i by omega]

theorem optional (h : Emits spans emit) (greedy : Bool) :
    Emits (fun s t => s = t ∨ spans s t) (Program.optional greedy emit) where
  keeps p := ((extends_push p .done).trans (h.keeps _)).set (Nat.le_refl _) _
  complete := by
    intro p q k s t hcode hst haccepts
    obtain ⟨hbranch, hbody⟩ := h.holds_optional hcode
    rw [show (Program.optional greedy emit p).size = (emit (p.push .done)).size by
      simp [Program.optional]] at haccepts
    obtain rfl | hst := hst
    · exact ⟨k + 1, .branch hbranch (.inr haccepts)⟩
    · obtain ⟨l, hl⟩ := h.complete hbody hst haccepts
      rw [Array.size_push] at hl
      exact ⟨l + 1, .branch hbranch (.inl hl)⟩
  sound := by
    intro p q k s hcode haccepts
    obtain ⟨hbranch, hbody⟩ := h.holds_optional hcode
    rw [show (Program.optional greedy emit p).size = (emit (p.push .done)).size by
      simp [Program.optional]]
    obtain ⟨l, rfl, hstart | hexit⟩ := haccepts.of_branch hbranch
    · rw [← Array.size_push] at hstart
      obtain ⟨t, hst, hexit⟩ := h.sound hbody hstart
      exact ⟨t, .inr hst, hexit.succ⟩
    · exact ⟨s, .inl rfl, hexit.succ⟩

theorem upTo (h : Emits spans emit) (greedy : Bool) (n : Nat) :
    Emits (fun s t => ∃ m ≤ n, Repeats spans m s t) (Program.upTo greedy emit n) := by
  induction n with
  | zero =>
    refine nothing.congr fun s t => ⟨?_, fun heq => ⟨0, Nat.le_refl 0, heq⟩⟩
    rintro ⟨m, hm, hst⟩
    obtain rfl := Nat.le_zero.mp hm
    exact hst
  | succ n ih =>
    refine ((h.andThen ih).optional greedy).congr fun s t => ⟨?_, ?_⟩
    · rintro ⟨m, hm, hst⟩
      cases m with
      | zero => exact .inl hst
      | succ m =>
        obtain ⟨u, hfirst, hmore⟩ := hst
        exact .inr ⟨u, hfirst, m, Nat.le_of_succ_le_succ hm, hmore⟩
    · rintro (heq | ⟨u, hfirst, m, hm, hmore⟩)
      · exact ⟨0, Nat.zero_le _, heq⟩
      · exact ⟨m + 1, Nat.succ_le_succ hm, u, hfirst, hmore⟩

theorem holds_atLeastOnce {greedy : Bool} (h : Emits spans emit)
    (hcode : Holds q (atLeastOnce greedy emit p) p.size) :
    Holds q (emit p) p.size ∧
      q[(emit p).size]? = some (branch greedy p.size ((emit p).size + 1)) :=
  ⟨hcode.of_extends (extends_push _ _), holds_push (hcode.mono (h.keeps p).size)⟩

theorem atLeastOnce (h : Emits spans emit) (greedy : Bool) :
    Emits (fun s t => ∃ n, Repeats spans (n + 1) s t) (Program.atLeastOnce greedy emit) where
  keeps p := (h.keeps p).trans (extends_push _ _)
  complete := by
    rintro p q k s t hcode ⟨n, hst⟩ haccepts
    obtain ⟨hbody, hbranch⟩ := h.holds_atLeastOnce hcode
    rw [Program.atLeastOnce, Array.size_push] at haccepts
    induction n generalizing s with
    | zero => exact h.complete hbody (repeats_one.mp hst) (.branch hbranch (.inr haccepts))
    | succ n ih =>
      obtain ⟨m, hfirst, hmore⟩ := hst
      obtain ⟨l, hl⟩ := ih hmore
      exact h.complete hbody hfirst (.branch hbranch (.inl hl))
  sound := by
    intro p q k s hcode haccepts
    obtain ⟨hbody, hbranch⟩ := h.holds_atLeastOnce hcode
    rw [Program.atLeastOnce, Array.size_push]
    -- By strong induction on the number of steps: each round takes one for the branch.
    induction k using Nat.strongRecOn generalizing s with
    | ind k ih =>
      obtain ⟨m, hfirst, hend⟩ := h.sound hbody haccepts
      obtain ⟨l, rfl, hagain | hexit⟩ := hend.of_branch hbranch
      · obtain ⟨t, ⟨n, hmore⟩, hexit⟩ := ih l (Nat.lt_succ_self l) hagain
        exact ⟨t, ⟨n + 1, m, hfirst, hmore⟩, hexit.succ⟩
      · exact ⟨m, ⟨0, repeats_one.mpr hfirst⟩, hexit.succ⟩

/-- A loop that tests before each round: the fork, the body, the way back. -/
def loop (greedy : Bool) (emit : Program → Program) (p : Program) : Program :=
  ((emit (p.push .done)).push (.jump p.size)).set! p.size
    (branch greedy (p.size + 1) ((emit (p.push .done)).size + 1))

theorem holds_loop {greedy : Bool} (h : Emits spans emit)
    (hcode : Holds q (loop greedy emit p) p.size) :
    q[p.size]? = some (branch greedy (p.size + 1) ((emit (p.push .done)).size + 1)) ∧
      Holds q (emit (p.push .done)) (p.push .done).size ∧
      q[(emit (p.push .done)).size]? = some (.jump p.size) := by
  have hsize := (h.keeps (p.push .done)).size
  rw [Array.size_push] at hsize
  have hbehind : ∀ i, p.size < i → i < (emit (p.push .done)).size + 1 →
      q[i]? = ((emit (p.push .done)).push (.jump p.size))[i]? := fun i hi hlt => by
    rw [hcode i (Nat.le_of_lt hi) (by simpa [loop] using hlt)]
    simp [loop, Array.getElem?_setIfInBounds_ne, Nat.ne_of_lt hi]
  refine ⟨?_, fun i hi hlt => ?_, ?_⟩
  · rw [hcode p.size (Nat.le_refl _) (by simp [loop]; omega)]
    simp [loop, show p.size < (emit (p.push .done)).size + 1 by omega]
  · rw [Array.size_push] at hi
    rw [hbehind i hi (Nat.lt_succ_of_lt hlt)]
    simp [Array.getElem?_push, Nat.ne_of_lt hlt]
  · rw [hbehind _ hsize (Nat.lt_succ_self _)]
    simp

theorem ofLoop (h : Emits spans emit) (greedy : Bool) :
    Emits (fun s t => ∃ n, Repeats spans n s t) (loop greedy emit) where
  keeps p :=
    (((extends_push p .done).trans (h.keeps _)).trans (extends_push _ _)).set (Nat.le_refl _) _
  complete := by
    rintro p q k s t hcode ⟨n, hst⟩ haccepts
    obtain ⟨hbranch, hbody, hback⟩ := h.holds_loop hcode
    rw [show (loop greedy emit p).size = (emit (p.push .done)).size + 1 by simp [loop]] at haccepts
    induction n generalizing s with
    | zero =>
      obtain rfl := hst
      exact ⟨k + 1, .branch hbranch (.inr haccepts)⟩
    | succ n ih =>
      obtain ⟨m, hfirst, hmore⟩ := hst
      obtain ⟨l, hl⟩ := ih hmore
      obtain ⟨j, hj⟩ := h.complete hbody hfirst (.jump hback hl)
      rw [Array.size_push] at hj
      exact ⟨j + 1, .branch hbranch (.inl hj)⟩
  sound := by
    intro p q k s hcode haccepts
    obtain ⟨hbranch, hbody, hback⟩ := h.holds_loop hcode
    rw [show (loop greedy emit p).size = (emit (p.push .done)).size + 1 by simp [loop]]
    induction k using Nat.strongRecOn generalizing s with
    | ind k ih =>
      obtain ⟨l, rfl, hstart | hexit⟩ := haccepts.of_branch hbranch
      · rw [← Array.size_push] at hstart
        obtain ⟨m, hfirst, hend⟩ := h.sound hbody hstart
        obtain ⟨j, rfl, hagain⟩ := hend.of_jump hback
        obtain ⟨t, ⟨n, hmore⟩, hexit⟩ := ih j (by omega) hagain
        exact ⟨t, ⟨n + 1, m, hfirst, hmore⟩, hexit.succ.succ⟩
      · exact ⟨s, ⟨0, rfl⟩, hexit.succ⟩

theorem anyTimes (h : Emits spans emit) (greedy nullable : Bool) :
    Emits (fun s t => ∃ n, Repeats spans n s t) (Program.anyTimes greedy nullable emit) := by
  cases nullable with
  | false =>
    have hloop : Program.anyTimes greedy false emit = loop greedy emit :=
      funext fun p => by simp [Program.anyTimes, loop]
    exact hloop ▸ h.ofLoop greedy
  | true =>
    refine ((h.atLeastOnce greedy).optional greedy).congr fun s t => ⟨?_, ?_⟩
    · rintro ⟨n, hst⟩
      cases n with
      | zero => exact .inl hst
      | succ n => exact .inr ⟨n, hst⟩
    · rintro (heq | ⟨n, hst⟩)
      · exact ⟨0, heq⟩
      · exact ⟨n + 1, hst⟩

/-! ### Alternatives -/

/-- The code of two alternatives: a fork, the first, a jump over the second, the second. -/
def either (emit emit' : Program → Program) (p : Program) : Program :=
  let first := emit (p.push .done)
  let second := emit' (first.push .done)
  (second.set! p.size (.fork (p.size + 1) (first.size + 1))).set! first.size (.jump second.size)

end Emits

end Program

/-! ## Expressions -/

end GoldenCapture.Regex
