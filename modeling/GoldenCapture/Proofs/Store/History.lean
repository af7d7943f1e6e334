import GoldenCapture.Store
import Mathlib.Data.List.DropRight

/-!
# Histories of shared stores

Any number of producers call stores through handles, each call in one instant, and hand clones of
their handles on. Whatever the order of the calls, a store holds what has been appended to it since
its last reset, every answer tells what the store held at its instant, and a snapshot stays as it
was taken.
-/

namespace GoldenCapture

/-! ## Calls -/

inductive StoreCall where
  | append (protocol : Protocol) (batch : Batch)
  | reset
  | allBatches
  | count
  | isEmpty
  | latest
  | stats

inductive StoreAnswer where
  | arrival (index : Nat)
  | done
  | batches (captured : List Captured)
  | count (n : Nat)
  | isEmpty (empty : Bool)
  | latest (captured : Option Captured)
  | stats (totals : StoreStats)

namespace StoreCall

def isReset : StoreCall → Bool
  | reset => true
  | _ => false

def appended? : StoreCall → Option (Protocol × Batch)
  | append p batch => some (p, batch)
  | _ => none

/-- What a series of calls has appended since the last reset among them. -/
def sinceReset (calls : List StoreCall) : List (Protocol × Batch) :=
  (calls.rtakeWhile fun c => !c.isReset).filterMap appended?

/-- Batches in the order in which they came, numbered from zero. -/
def numbered (batches : List (Protocol × Batch)) : List Captured :=
  batches.mapIdx fun i b => ⟨i, b.1, b.2⟩

end StoreCall

/-- A call with the store to itself. -/
def Store.call (s : Store) : StoreCall → StoreAnswer × Store
  | .append p batch => (.arrival s.count, s.append p batch)
  | .reset => (.done, s.reset)
  | .allBatches => (.batches s.captured, s)
  | .count => (.count s.count, s)
  | .isEmpty => (.isEmpty s.isEmpty, s)
  | .latest => (.latest s.latest, s)
  | .stats => (.stats s.stats, s)

namespace StoreCall

@[simp] theorem sinceReset_concat (calls : List StoreCall) (c : StoreCall) :
    sinceReset (calls ++ [c]) =
      if c.isReset then [] else sinceReset calls ++ c.appended?.toList := by
  unfold sinceReset
  by_cases hreset : c.isReset = true
  · rw [List.rtakeWhile_concat_neg _ _ _ (by simp [hreset])]
    simp [hreset]
  · rw [List.rtakeWhile_concat_pos _ _ _ (by simpa using hreset), List.filterMap_append]
    cases happended : c.appended? <;> simp [hreset, happended]

theorem sinceReset_append (calls : List StoreCall) {later : List StoreCall}
    (h : ∀ c ∈ later, c ≠ reset) :
    sinceReset (calls ++ later) = sinceReset calls ++ later.filterMap appended? := by
  induction later using List.reverseRecOn with
  | nil => simp
  | append_singleton later c ih =>
    have hc : c.isReset = false := by
      have := h c (by simp)
      cases c <;> simp_all [isReset]
    have hlater : ∀ c ∈ later, c ≠ reset := fun c hc => h c (by simp [hc])
    rw [← List.append_assoc, sinceReset_concat, hc, if_neg (by simp), ih hlater]
    cases happended : c.appended? <;> simp [happended]

theorem length_numbered (batches : List (Protocol × Batch)) :
    (numbered batches).length = batches.length := List.length_mapIdx

theorem getLast?_numbered (batches : List (Protocol × Batch)) (b : Captured) :
    (numbered batches).getLast? = some b ↔
      b ∈ numbered batches ∧ ∀ other ∈ numbered batches, other.arrival ≤ b.arrival := by
  simp only [numbered, List.getLast?_eq_getElem?, List.length_mapIdx, List.getElem?_eq_some_iff,
    List.getElem_mapIdx, List.mem_mapIdx]
  constructor
  · rintro ⟨hlast, rfl⟩
    refine ⟨⟨_, by simpa using hlast, rfl⟩, ?_⟩
    rintro _ ⟨i, hi, rfl⟩
    show i ≤ batches.length - 1
    omega
  · rintro ⟨⟨i, hi, rfl⟩, hgreatest⟩
    have hle : batches.length - 1 ≤ i := hgreatest _ ⟨batches.length - 1, by omega, rfl⟩
    obtain rfl : i = batches.length - 1 := by omega
    exact ⟨by simpa using hi, rfl⟩

end StoreCall

theorem length_flatMap_eq_total {α β : Type} (f : α → List β) (items : List α) :
    (items.flatMap f).length = total (items.map fun x => (f x).length) := by
  induction items with
  | nil => rfl
  | cons x items ih => simp [ih]

theorem Store.call_captured {s : Store} {batches : List (Protocol × Batch)}
    (h : s.captured = StoreCall.numbered batches) (c : StoreCall) :
    (s.call c).2.captured =
      StoreCall.numbered (if c.isReset then [] else batches ++ c.appended?.toList) := by
  cases c with
  | append p batch =>
    have hcount : s.count = batches.length := by
      rw [count, h, StoreCall.length_numbered]
    simp [call, Store.append, h, hcount, StoreCall.isReset, StoreCall.appended?,
      StoreCall.numbered]
  | reset => rfl
  | allBatches | count | isEmpty | latest | stats =>
    simpa [call, StoreCall.isReset, StoreCall.appended?] using h

/-! ## Stores that are shared -/

/-- The stores of a process, the handles to them and the snapshots that callers keep. -/
structure Depot where
  stores : List Store := []
  /-- For each handle the number of its store. -/
  handles : List Nat := []
  /-- All snapshots, in the order in which they were taken. -/
  snapshots : List (List Captured) := []

namespace Depot

inductive Event where
  /-- A new store, with a first handle. -/
  | create
  | clone (handle : Nat)
  /-- A call through a handle, with the number of the store that it went to. -/
  | call (handle store : Nat) (call : StoreCall) (answer : StoreAnswer)

namespace Event

def callOn? (k : Nat) : Event → Option StoreCall
  | call _ store c _ => if store = k then some c else none
  | _ => none

def snapshot? : Event → Option (List Captured)
  | call _ _ .allBatches (.batches captured) => some captured
  | _ => none

def opens : Event → Bool
  | create | clone _ => true
  | call .. => false

end Event

inductive Step : Depot → Event → Depot → Prop
  | create {d : Depot} :
      Step d .create { d with
        stores := d.stores ++ [{}]
        handles := d.handles ++ [d.stores.length] }
  | clone {d : Depot} {i k : Nat} (hi : d.handles[i]? = some k) :
      Step d (.clone i) { d with handles := d.handles ++ [k] }
  | call {d : Depot} {i k : Nat} {s : Store} (c : StoreCall) (hi : d.handles[i]? = some k)
      (hk : d.stores[k]? = some s) :
      Step d (.call i k c (s.call c).1) { d with
        stores := d.stores.set k (s.call c).2
        snapshots := d.snapshots ++ (Event.call i k c (s.call c).1).snapshot?.toList }

/-- What can happen from the beginning, the latest event last. -/
inductive Run : List Event → Depot → Prop
  | start : Run [] {}
  | step {history : List Event} {e : Event} {d d' : Depot} (hrun : Run history d)
      (hstep : Step d e d') : Run (history ++ [e]) d'

/-! ## What the history tells -/

def callsOn (k : Nat) (history : List Event) : List StoreCall := history.filterMap (Event.callOn? k)

/-- What a store has to hold after a history, whichever handles the calls came through. -/
def content (k : Nat) (history : List Event) : List Captured :=
  StoreCall.numbered (StoreCall.sinceReset (callsOn k history))

/-- What a call on a store of this content has to answer. -/
inductive Answers (content : List Captured) : StoreCall → StoreAnswer → Prop
  | append {p : Protocol} {batch : Batch} :
      Answers content (.append p batch) (.arrival content.length)
  | reset : Answers content .reset .done
  | allBatches : Answers content .allBatches (.batches content)
  | count : Answers content .count (.count content.length)
  | isEmpty {empty : Bool} (h : empty = true ↔ content = []) :
      Answers content .isEmpty (.isEmpty empty)
  | latest {newest : Option Captured}
      (h : ∀ b, newest = some b ↔ b ∈ content ∧ ∀ other ∈ content, other.arrival ≤ b.arrival) :
      Answers content .latest (.latest newest)
  | stats {totals : StoreStats} (hbatches : totals.batches = content.length)
      (hrecords : totals.records = (content.flatMap fun b => b.batch.entries).length)
      (hpoints : totals.points =
        ((content.flatMap fun b => b.batch.entries).flatMap Entry.points).length) :
      Answers content .stats (.stats totals)

/-- The stores, the answers and the snapshots are what the history says. -/
structure TrueTo (history : List Event) (d : Depot) : Prop where
  content : ∀ k s, d.stores[k]? = some s → s.captured = content k history
  answers : ∀ before after i k c answer,
    history = before ++ .call i k c answer :: after → Answers (Depot.content k before) c answer
  /-- The batch stands under the index that its append has answered until the next reset. -/
  arrivals : ∀ before after i k p batch index,
    history = before ++ .call i k (.append p batch) (.arrival index) :: after →
      (∀ c ∈ callsOn k after, c ≠ .reset) →
      ∃ s, d.stores[k]? = some s ∧ s.captured[index]? = some ⟨index, p, batch⟩
  /-- A snapshot that is kept still is what its store held when it was taken. -/
  snapshots : ∀ before after i k answer,
    history = before ++ .call i k .allBatches answer :: after →
      d.snapshots[(before.filterMap Event.snapshot?).length]? = some (Depot.content k before)
  /-- All calls through one handle go to one store. -/
  routed : ∀ i k c answer, .call i k c answer ∈ history → d.handles[i]? = some k
  /-- A clone leads to the store of the handle that it was made from. -/
  clones : ∀ before after i, history = before ++ .clone i :: after →
    ∃ k, d.handles[i]? = some k ∧ d.handles[before.countP Event.opens]? = some k
  /-- Every handle can be used for every call. -/
  usable : ∀ i, i < d.handles.length → ∀ c, ∃ k answer d', Step d (.call i k c answer) d'

/-! ## Answers -/

theorem answers_call {s : Store} {batches : List (Protocol × Batch)}
    (h : s.captured = StoreCall.numbered batches) (c : StoreCall) :
    Answers s.captured c (s.call c).1 := by
  cases c with
  | append => exact .append
  | reset => exact .reset
  | allBatches => exact .allBatches
  | count => exact .count
  | isEmpty => exact .isEmpty (by simp [Store.isEmpty, Store.count])
  | latest =>
    refine .latest fun b => ?_
    rw [Store.latest, h]
    exact StoreCall.getLast?_numbered batches b
  | stats =>
    refine .stats rfl ?_ ?_
    · simp only [Store.stats, Batch.recordCount, length_flatMap_eq_total]
    · simp only [Store.stats, Batch.pointCount, List.flatMap_assoc, length_flatMap_eq_total]

/-! ## Runs -/

section

variable {history before after : List Event} {e : Event} {d d' : Depot} {k : Nat}

theorem callsOn_concat (k : Nat) (history : List Event) (e : Event) :
    callsOn k (history ++ [e]) = callsOn k history ++ (e.callOn? k).toList := by
  cases h : e.callOn? k <;> simp [callsOn, h]

theorem content_concat_of_none (h : e.callOn? k = none) :
    content k (history ++ [e]) = content k history := by
  rw [content, callsOn_concat, h, Option.toList_none, List.append_nil, content]

/-- What holds at every moment of a run. -/
structure Kept (history : List Event) (d : Depot) : Prop where
  content : ∀ k s, d.stores[k]? = some s → s.captured = Depot.content k history
  uncalled : ∀ k, d.stores.length ≤ k → callsOn k history = []
  handles : ∀ k ∈ d.handles, k < d.stores.length
  opened : d.handles.length = history.countP Event.opens
  snapshots : d.snapshots = history.filterMap Event.snapshot?

theorem Kept.create (h : Kept history d) :
    Kept (history ++ [.create])
      { d with stores := d.stores ++ [{}], handles := d.handles ++ [d.stores.length] } where
  content k s hs := by
    rw [content_concat_of_none rfl]
    rcases Nat.lt_or_ge k d.stores.length with hk | hk
    · rw [List.getElem?_append_left hk] at hs
      exact h.content k s hs
    · -- The new store is empty, and nobody could call it before.
      obtain rfl : s = {} := by
        rw [List.getElem?_append_right hk] at hs
        simpa using List.mem_of_getElem? hs
      rw [Depot.content, h.uncalled k hk]
      rfl
  uncalled k hk := by
    rw [callsOn_concat, h.uncalled k (by simp at hk; omega)]
    rfl
  handles k hk := by
    simp only [List.mem_append, List.mem_singleton, List.length_append, List.length_cons,
      List.length_nil] at hk ⊢
    rcases hk with hk | rfl
    · have := h.handles k hk
      omega
    · omega
  opened := by simp [h.opened, Event.opens]
  snapshots := by simp [h.snapshots, Event.snapshot?]

theorem Kept.clone (h : Kept history d) {i : Nat} (hi : d.handles[i]? = some k) :
    Kept (history ++ [.clone i]) { d with handles := d.handles ++ [k] } where
  content j s hs := by
    rw [content_concat_of_none rfl]
    exact h.content j s hs
  uncalled j hj := by
    rw [callsOn_concat, h.uncalled j hj]
    rfl
  handles j hj := by
    simp only [List.mem_append, List.mem_singleton] at hj
    rcases hj with hj | rfl
    · exact h.handles j hj
    · exact h.handles j (List.mem_of_getElem? hi)
  opened := by simp [h.opened, Event.opens]
  snapshots := by simp [h.snapshots, Event.snapshot?]

theorem Kept.call (h : Kept history d) {i : Nat} {s : Store} (c : StoreCall)
    (hk : d.stores[k]? = some s) :
    Kept (history ++ [.call i k c (s.call c).1]) { d with
      stores := d.stores.set k (s.call c).2
      snapshots := d.snapshots ++ (Event.call i k c (s.call c).1).snapshot?.toList } where
  content j t ht := by
    have hlength : k < d.stores.length := (List.getElem?_eq_some_iff.mp hk).1
    by_cases hj : k = j
    · subst hj
      rw [List.getElem?_set_self hlength] at ht
      cases ht
      rw [Depot.content, callsOn_concat, Event.callOn?, if_pos rfl, Option.toList_some,
        StoreCall.sinceReset_concat]
      exact Store.call_captured (h.content k s hk) c
    · rw [content_concat_of_none (by rw [Event.callOn?, if_neg hj])]
      rw [List.getElem?_set_ne hj] at ht
      exact h.content j t ht
  uncalled j hj := by
    have hlength : k < d.stores.length := (List.getElem?_eq_some_iff.mp hk).1
    rw [List.length_set] at hj
    rw [callsOn_concat, h.uncalled j hj, Event.callOn?, if_neg (by omega)]
    rfl
  handles j hj := by
    rw [List.length_set]
    exact h.handles j hj
  opened := by simp [h.opened, Event.opens]
  snapshots := by
    rw [h.snapshots, List.filterMap_append]
    cases hsnapshot : (Event.call i k c (s.call c).1).snapshot? <;> simp [hsnapshot]

theorem kept_of_step (h : Kept history d) (hstep : Step d e d') : Kept (history ++ [e]) d' := by
  cases hstep with
  | create => exact h.create
  | clone hi => exact h.clone hi
  | call c _ hk => exact h.call c hk

theorem kept_of_run (h : Run history d) : Kept history d := by
  induction h with
  | start => exact ⟨by simp, fun _ _ => rfl, by simp, rfl, rfl⟩
  | step _ hstep ih => exact kept_of_step ih hstep

theorem Step.handle_stays (h : Step d e d') {i : Nat} (hi : d.handles[i]? = some k) :
    d'.handles[i]? = some k := by
  have hlength : i < d.handles.length := (List.getElem?_eq_some_iff.mp hi).1
  cases h with
  | create | clone => exact (List.getElem?_append_left hlength).trans hi
  | call => exact hi

theorem exists_step_of_run (h : Run (before ++ e :: after) d) :
    ∃ x y : Depot, Run before x ∧ Step x e y ∧
      ∀ i k : Nat, y.handles[i]? = some k → d.handles[i]? = some k := by
  induction after using List.reverseRecOn generalizing d with
  | nil =>
    generalize hhistory : before ++ [e] = history at h
    cases h with
    | start => simp at hhistory
    | step hrun hstep =>
      obtain ⟨rfl, rfl⟩ := List.append_singleton_inj.mp hhistory
      exact ⟨_, _, hrun, hstep, fun _ _ hi => hi⟩
  | append_singleton after last ih =>
    generalize hhistory : before ++ e :: (after ++ [last]) = history at h
    cases h with
    | start => simp at hhistory
    | step hrun hstep =>
      rw [← List.cons_append, ← List.append_assoc] at hhistory
      obtain ⟨rfl, rfl⟩ := List.append_singleton_inj.mp hhistory
      obtain ⟨x, y, hbefore, he, hstays⟩ := ih hrun
      exact ⟨x, y, hbefore, he, fun i k hi => hstep.handle_stays (hstays i k hi)⟩

theorem exists_store_of_run {i : Nat} {c : StoreCall} {answer : StoreAnswer}
    (h : Run (before ++ .call i k c answer :: after) d) :
    ∃ s : Store, s.captured = content k before ∧ answer = (s.call c).1 := by
  obtain ⟨x, y, hrun, hstep, -⟩ := exists_step_of_run h
  cases hstep with
  | call _ _ hk => exact ⟨_, (kept_of_run hrun).content k _ hk, rfl⟩

theorem answers_of_run {i : Nat} {c : StoreCall} {answer : StoreAnswer}
    (h : Run (before ++ .call i k c answer :: after) d) : Answers (content k before) c answer := by
  obtain ⟨s, hs, rfl⟩ := exists_store_of_run h
  rw [← hs]
  exact answers_call hs c

theorem Kept.exists_store (h : Kept history d) (hcalled : callsOn k history ≠ []) :
    ∃ s, d.stores[k]? = some s ∧ s.captured = Depot.content k history := by
  have hk : k < d.stores.length := by
    by_contra hk
    exact hcalled (h.uncalled k (by omega))
  exact ⟨_, List.getElem?_eq_getElem hk, h.content k _ (List.getElem?_eq_getElem hk)⟩

theorem arrivals_of_run {i index : Nat} {p : Protocol} {batch : Batch}
    (h : Run (before ++ .call i k (.append p batch) (.arrival index) :: after) d)
    (hafter : ∀ c ∈ callsOn k after, c ≠ .reset) :
    ∃ s, d.stores[k]? = some s ∧ s.captured[index]? = some ⟨index, p, batch⟩ := by
  have hcalls : callsOn k (before ++ .call i k (.append p batch) (.arrival index) :: after) =
      (callsOn k before ++ [.append p batch]) ++ callsOn k after := by
    simp [callsOn, Event.callOn?]
  obtain ⟨s, hs, hcontent⟩ := (kept_of_run h).exists_store (k := k) (by simp [hcalls])
  refine ⟨s, hs, ?_⟩
  have hindex : index = (StoreCall.sinceReset (callsOn k before)).length := by
    cases answers_of_run h with
    | append => rw [content, StoreCall.length_numbered]
  rw [hcontent, Depot.content, hcalls, StoreCall.sinceReset_append _ hafter,
    StoreCall.sinceReset_concat, hindex]
  simp [StoreCall.numbered, StoreCall.isReset, StoreCall.appended?]

theorem snapshots_of_run {i : Nat} {answer : StoreAnswer}
    (h : Run (before ++ .call i k .allBatches answer :: after) d) :
    d.snapshots[(before.filterMap Event.snapshot?).length]? = some (content k before) := by
  have hanswer : answer = .batches (content k before) := by
    cases answers_of_run h with
    | allBatches => rfl
  simp [(kept_of_run h).snapshots, hanswer, Event.snapshot?]

theorem routed_of_run {i : Nat} {c : StoreCall} {answer : StoreAnswer} (h : Run history d)
    (hmem : .call i k c answer ∈ history) : d.handles[i]? = some k := by
  obtain ⟨before, after, rfl⟩ := List.append_of_mem hmem
  obtain ⟨x, y, -, hstep, hstays⟩ := exists_step_of_run h
  cases hstep with
  | call _ hi _ => exact hstays i k hi

theorem clones_of_run {i : Nat} (h : Run (before ++ .clone i :: after) d) :
    ∃ k, d.handles[i]? = some k ∧ d.handles[before.countP Event.opens]? = some k := by
  obtain ⟨x, y, hrun, hstep, hstays⟩ := exists_step_of_run h
  have hopened := (kept_of_run hrun).opened
  cases hstep with
  | clone hi =>
    refine ⟨_, hstays i _ ((Step.clone hi).handle_stays hi), hstays _ _ ?_⟩
    rw [← hopened, List.getElem?_concat_length]

end

/-- At every moment of every run the stores, the answers and the snapshots are what the history of
the calls says. -/
theorem trueTo_of_run {history : List Event} {d : Depot} (h : Run history d) :
    TrueTo history d where
  content := (kept_of_run h).content
  answers before after i k c answer hhistory := answers_of_run (hhistory ▸ h)
  arrivals before after i k p batch index hhistory := arrivals_of_run (hhistory ▸ h)
  snapshots before after i k answer hhistory := snapshots_of_run (hhistory ▸ h)
  routed i k c answer := routed_of_run h
  clones before after i hhistory := clones_of_run (hhistory ▸ h)
  usable i hi c := by
    have hled := (kept_of_run h).handles _ (List.getElem_mem hi)
    exact ⟨_, _, _, .call c (List.getElem?_eq_getElem hi) (List.getElem?_eq_getElem hled)⟩

/-- One batch goes in through a handle and one through its clone, a snapshot is taken in between and
the clone resets the store. -/
theorem trueTo_of_run_clone :
    ∃ history d, Run history d ∧ history.map (Event.callOn? 0) =
        [none, none, some (.append .hecLogs default), some .allBatches,
          some (.append .hecMetrics default), some .latest, some .reset,
          some (.append .hecMetrics default)] ∧
      d.snapshots = [[⟨0, .hecLogs, default⟩]] ∧ content 0 history = [⟨0, .hecMetrics, default⟩] ∧
      TrueTo history d := by
  have hrun : Run _ _ := Run.start
    |>.step .create
    |>.step (.clone (i := 0) rfl)
    |>.step (.call (i := 0) (.append .hecLogs default) rfl rfl)
    |>.step (.call (i := 0) .allBatches rfl rfl)
    |>.step (.call (i := 1) (.append .hecMetrics default) rfl rfl)
    |>.step (.call (i := 0) .latest rfl rfl)
    |>.step (.call (i := 1) .reset rfl rfl)
    |>.step (.call (i := 0) (.append .hecMetrics default) rfl rfl)
  exact ⟨_, _, hrun, rfl, rfl, rfl, trueTo_of_run hrun⟩

end Depot

end GoldenCapture
