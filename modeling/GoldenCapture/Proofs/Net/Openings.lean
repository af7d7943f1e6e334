import GoldenCapture.Net.Listeners

/-!
# Opening listeners one after the other

Somebody wants a list of listeners and opens them in order. Which call is the first to fail depends
only on the host and on the calls before it.
-/

namespace GoldenCapture

structure ListenerCall where
  label : String
  address : SocketAddress
deriving DecidableEq, Repr

def Listener.call (l : Listener) : ListenerCall := ⟨l.label, l.address⟩

namespace Listeners

/-- The listeners have different numbers, which have all been given out. -/
structure Numbered (n : Listeners) : Prop where
  below : ∀ l ∈ n.running, l.id < n.nextId
  distinct : (n.running.map Listener.id).Nodup

/-- These listeners have been started one after the other, and nothing else has happened. -/
structure Opens (n n' : Listeners) (opened : List Listener) : Prop where
  running : n'.running = n.running ++ opened
  ids : opened.map Listener.id = List.range' n.nextId opened.length
  nextId : n'.nextId = n.nextId + opened.length
  taken : n'.taken = n.taken
  refuses : n'.refuses = n.refuses

/-- The host refuses the call with this number, once all those before it have been met. -/
def denies (n : Listeners) (calls : List ListenerCall) (k : Nat) (address : SocketAddress) : Bool :=
  n.refuses (n.nextId + k) (n.inUse ++ (calls.take k).map ListenerCall.address) address

/-- The listeners are those of the first calls, and the host could meet each of these. -/
structure Meets (n : Listeners) (calls : List ListenerCall) (n' : Listeners)
    (opened : List Listener) : Prop extends n.Opens n' opened where
  calls_eq : opened.map Listener.call = calls.take opened.length
  granted : ∀ k < opened.length, ∀ call, calls[k]? = some call →
    n.denies calls k call.address = false

variable {n n' n'' : Listeners} {calls : List ListenerCall} {opened more : List Listener}
  {l : Listener} {call : ListenerCall} {label : String} {address : SocketAddress}

theorem Opens.refl (n : Listeners) : n.Opens n [] where
  running := (List.append_nil _).symm
  ids := rfl
  nextId := rfl
  taken := rfl
  refuses := rfl

theorem Opens.mem_ids (h : n.Opens n' opened) (hl : l ∈ opened) :
    n.nextId ≤ l.id ∧ l.id < n'.nextId := by
  have hid : l.id ∈ opened.map Listener.id := List.mem_map_of_mem hl
  rw [h.ids, List.mem_range'_1] at hid
  rw [h.nextId]
  exact hid

theorem Opens.numbered (h : n.Opens n' opened) (hn : n.Numbered) : n'.Numbered := by
  constructor
  · intro l hl
    rw [h.running, List.mem_append] at hl
    have hnext := h.nextId
    obtain hl | hl := hl
    · have := hn.below l hl
      omega
    · exact (h.mem_ids hl).2
  · rw [h.running, List.map_append, List.nodup_append, h.ids]
    refine ⟨hn.distinct, List.nodup_range', fun old hold new hnew heq => ?_⟩
    obtain ⟨l, hl, rfl⟩ := List.mem_map.mp hold
    have hlt := hn.below l hl
    have hge := (List.mem_range'_1.mp hnew).1
    omega

theorem meets_nil (n : Listeners) (calls : List ListenerCall) : n.Meets calls n [] where
  toOpens := .refl n
  calls_eq := rfl
  granted k hk := absurd hk (Nat.not_lt_zero k)

theorem start_cases (n : Listeners) (label : String) (address : SocketAddress) :
    (n.start label address = none ∧ n.refuses n.nextId n.inUse address = true) ∨
    (n.refuses n.nextId n.inUse address = false ∧
      n.start label address = some (⟨n.nextId, label, address⟩,
        { n with
          running := n.running ++ [⟨n.nextId, label, address⟩]
          nextId := n.nextId + 1 })) := by
  unfold start
  cases n.refuses n.nextId n.inUse address <;> simp

theorem Meets.inUse_eq (h : n.Meets calls n' opened) :
    n'.inUse = n.inUse ++ (calls.take opened.length).map ListenerCall.address := by
  unfold inUse
  rw [h.taken, h.running, ← h.calls_eq, List.map_append, List.map_map, List.append_assoc]
  rfl

theorem Meets.denies_eq (h : n.Meets calls n' opened) (address : SocketAddress) :
    n.denies calls opened.length address = n'.refuses n'.nextId n'.inUse address := by
  unfold denies
  rw [h.inUse_eq, h.refuses, h.nextId]

theorem Meets.next (h : n.Meets calls n' opened) (hcall : calls[opened.length]? = some call)
    (hstart : n'.start call.label call.address = some (l, n'')) :
    n.Meets calls n'' (opened ++ [l]) ∧ l.call = call := by
  obtain ⟨hnone, -⟩ | ⟨hgranted, hsome⟩ := start_cases n' call.label call.address
  · rw [hnone] at hstart
    cases hstart
  rw [hsome] at hstart
  cases hstart
  refine ⟨?_, rfl⟩
  constructor
  case toOpens =>
    constructor
    · rw [h.running, List.append_assoc]
    · rw [List.map_append, h.ids, List.length_append, List.range'_append_1.symm, h.nextId]
      rfl
    · rw [h.nextId, List.length_append]
      rfl
    · exact h.taken
    · exact h.refuses
  case calls_eq =>
    rw [List.map_append, h.calls_eq, List.length_append, List.length_singleton,
      List.take_add_one, hcall]
    rfl
  case granted =>
    intro k hk other hother
    rw [List.length_append, List.length_singleton] at hk
    obtain hlt | rfl := Nat.lt_succ_iff_lt_or_eq.mp hk
    · exact h.granted k hlt other hother
    · rw [hcall] at hother
      cases hother
      rw [h.denies_eq]
      exact hgranted

theorem Meets.denied (h : n.Meets calls n' opened) (hstart : n'.start label address = none) :
    n.denies calls opened.length address = true := by
  rw [h.denies_eq]
  obtain ⟨-, hrefused⟩ | ⟨-, hsome⟩ := start_cases n' label address
  · exact hrefused
  · rw [hsome] at hstart
    cases hstart

/-! ## Stopping -/

theorem running_foldl_stop (ids : List Nat) (n : Listeners) :
    (ids.foldl stop n).running = n.running.filter fun l => !ids.contains l.id := by
  induction ids generalizing n with
  | nil => exact (List.filter_eq_self.mpr fun _ _ => rfl).symm
  | cons id rest ih =>
    rw [List.foldl_cons, ih]
    unfold stop
    rw [List.filter_filter]
    congr 1
    funext l
    simp only [List.contains_cons, Bool.not_or, bne, Bool.and_comm]

theorem nextId_foldl_stop (ids : List Nat) (n : Listeners) :
    (ids.foldl stop n).nextId = n.nextId := by
  induction ids generalizing n with
  | nil => rfl
  | cons id rest ih => exact ih _

/-- The listeners are those from before, and new ones will have new numbers. -/
structure Restores (n' n : Listeners) : Prop where
  running : n'.running = n.running
  nextId : n.nextId ≤ n'.nextId

theorem Restores.refl (n : Listeners) : n.Restores n := ⟨rfl, Nat.le_refl _⟩

theorem Restores.numbered (h : n'.Restores n) (hn : n.Numbered) : n'.Numbered := by
  constructor
  · intro l hl
    rw [h.running] at hl
    exact Nat.lt_of_lt_of_le (hn.below l hl) h.nextId
  · rw [h.running]
    exact hn.distinct

theorem Opens.restores (h : n.Opens n' opened) (hn : n.Numbered) {ids : List Nat}
    (hids : ∀ id, id ∈ ids ↔ id ∈ opened.map Listener.id) : (ids.foldl stop n').Restores n := by
  constructor
  · have hkept : ∀ l ∈ n.running, (!ids.contains l.id) = true := fun l hl => by
      have hlt := hn.below l hl
      rw [Bool.not_eq_true', List.contains_eq_mem, decide_eq_false_iff_not, hids, h.ids,
        List.mem_range'_1]
      omega
    have hstopped : ∀ l ∈ opened, ¬ (!ids.contains l.id) = true := fun l hl => by
      rw [Bool.not_eq_true', Bool.not_eq_false, List.contains_iff_mem, hids]
      exact List.mem_map_of_mem hl
    rw [running_foldl_stop, h.running, List.filter_append, List.filter_eq_self.mpr hkept,
      List.filter_eq_nil_iff.mpr hstopped, List.append_nil]
  · rw [nextId_foldl_stop, h.nextId]
    exact Nat.le_add_right ..

end Listeners

end GoldenCapture
