import GoldenCapture.Json.Reader
import GoldenCapture.Proofs.Number.Rounding
import Mathlib.Algebra.Group.Int.Defs
import Mathlib.Data.Option.Basic

/-!
# What a JSON text can hold

Whatever the text, the tree that is read from it has only integers of 64 bits and only finite
doubles: a numeral too large for a double stands in the tree as `unreadable`.
-/

namespace GoldenCapture

theorem exists_of_mem_mapM {α β : Type} {f : α → Option β} {l : List α} {bs : List β} {b : β}
    (h : l.mapM f = some bs) (hb : b ∈ bs) : ∃ a ∈ l, f a = some b := by
  induction l generalizing bs with
  | nil =>
    cases h
    simp at hb
  | cons a rest ih =>
    simp only [List.mapM_cons, Option.bind_eq_bind, Option.bind_eq_some_iff] at h
    obtain ⟨b', hhead, bs', hrest, h⟩ := h
    cases h
    rcases List.mem_cons.1 hb with rfl | hb
    · exact ⟨a, List.mem_cons_self, hhead⟩
    · obtain ⟨a', ha', hf⟩ := ih hrest hb
      exact ⟨a', List.mem_cons_of_mem _ ha', hf⟩

namespace Json

mutual

/-- Integers of 64 bits and finite doubles only, at any depth. -/
def Bounded : Json → Prop
  | integer n => -2 ^ 63 ≤ n ∧ n < 2 ^ 64
  | real d => d.isFinite = true
  | array items => BoundedItems items
  | object members => BoundedMembers members
  | _ => True

def BoundedItems : List Json → Prop
  | [] => True
  | item :: rest => Bounded item ∧ BoundedItems rest

def BoundedMembers : List (String × Json) → Prop
  | [] => True
  | (_, value) :: rest => Bounded value ∧ BoundedMembers rest

end

theorem boundedItems_iff {items : List Json} : BoundedItems items ↔ ∀ t ∈ items, t.Bounded := by
  induction items with
  | nil => simp [BoundedItems]
  | cons item rest ih => simp [BoundedItems, ih]

theorem boundedMembers_iff {members : List (String × Json)} :
    BoundedMembers members ↔ ∀ m ∈ members, m.2.Bounded := by
  induction members with
  | nil => simp [BoundedMembers]
  | cons member rest ih => simp [BoundedMembers, ih]

namespace Reader

/-! ## Numerals -/

theorem wholePart_lt {n : Nat} (h : n < 2 ^ 64) (ds : List Nat) : (wholePart n ds).1 < 2 ^ 64 := by
  induction ds generalizing n with
  | nil => exact h
  | cons d rest ih =>
    simp only [wholePart]
    split
    · exact h
    · rename_i hfits
      refine ih ?_
      simpa [overflows, UInt64.size] using hfits

theorem fractionPart_lt {n : Nat} (h : n < 2 ^ 64) (places : Int) (ds : List Nat) :
    (fractionPart n places ds).1 < 2 ^ 64 := by
  induction ds generalizing n places with
  | nil => exact h
  | cons d rest ih =>
    simp only [fractionPart]
    split
    · exact h
    · rename_i hfits
      refine ih ?_ _
      simpa [overflows, UInt64.size] using hfits

theorem isFinite_of_scaled? {steps e : Nat} {x y : Double} {exponent : Int}
    (hx : x.magnitude ≤ e * 2 ^ 52) (he : 1023 ≤ e) (hsteps : e + 4 * steps < 2047)
    (h : scaled? steps x exponent = some y) : y.isFinite = true := by
  induction steps generalizing x exponent e with
  | zero =>
    cases h
    exact Double.isFinite_of_magnitude_le hx (by omega)
  | succ steps ih =>
    have hdiv {k : Nat} (hk : k ≤ 308) :
        (x.div (Double.ofDecimal false 1 k)).magnitude ≤ (e + 4) * 2 ^ 52 :=
      Double.magnitude_div_le (Double.le_exponentField_power hk) he (by omega) hx
    simp only [scaled?] at h
    split at h
    · rename_i hk
      split at h
      · split at h
        · cases h
        · rename_i hfinite
          cases h
          exact Double.isFinite_mul (by simpa using hfinite)
      · cases h
        exact Double.isFinite_of_magnitude_le (hdiv hk) (by omega)
    · split at h
      · cases h
        exact Double.isFinite_of_magnitude_le hx (by omega)
      · split at h
        · cases h
        · exact ih (hdiv (Nat.le_refl 308)) (by omega) (by omega) h

theorem isFinite_of_real? {numeral : Numeral} {x : Double} (h : real? numeral = some x) :
    x.isFinite = true := by
  have hwhole := wholePart_lt (by decide : 0 < 2 ^ 64) numeral.whole
  have hfraction := fractionPart_lt hwhole (wholePart 0 numeral.whole).2
    (numeral.fraction.getD [])
  have hmagnitude := Double.magnitude_ofNat_le hfraction (by decide)
  simp only [real?, Option.map_eq_some_iff] at h
  obtain ⟨y, hy, rfl⟩ := h
  have hfinite : y.isFinite = true := by
    split at hy
    · split at hy
      · cases hy
      · cases hy
        decide
    · exact isFinite_of_scaled? hmagnitude (by decide) (by decide) hy
  split
  · simpa [Double.isFinite] using hfinite
  · exact hfinite

theorem bounded_ofNumeral (numeral : Numeral) : (ofNumeral numeral).Bounded := by
  unfold ofNumeral
  extract_lets n
  cases numeral.negative
  all_goals
    simp only [Bool.false_eq_true, if_false, if_true, Bool.and_eq_true, decide_eq_true_eq]
    split
    · rename_i hinteger
      simp [UInt64.size] at hinteger
      simp only [Bounded]
      omega
    · split
      · rename_i hreal
        exact isFinite_of_real? hreal
      · trivial

/-! ## Trees -/

theorem bounded_ofMembers {members : List (Option String × Json)}
    (h : ∀ m ∈ members, m.2.Bounded) : (ofMembers members).Bounded := by
  unfold ofMembers
  split
  · rename_i named hnamed
    refine boundedMembers_iff.2 fun member hmember => ?_
    obtain ⟨source, hsource, hname⟩ := exists_of_mem_mapM hnamed hmember
    obtain ⟨key, _, rfl⟩ := Option.map_eq_some_iff.1 hname
    exact h source hsource
  · trivial

/-- What the readers of values, items and members yield with some fuel. -/
def Bounds (fuel : Nat) : Prop :=
  (∀ input t rest, value? fuel input = some (t, rest) → t.Bounded) ∧
  (∀ input ts rest, items? fuel input = some (ts, rest) → ∀ t ∈ ts, t.Bounded) ∧
  (∀ input ms rest, members? fuel input = some (ms, rest) → ∀ m ∈ ms, m.2.Bounded)

theorem bounded_of_value? {fuel : Nat} (ih : Bounds fuel) {input rest : Input} {t : Json}
    (h : value? (fuel + 1) input = some (t, rest)) : t.Bounded := by
  obtain ⟨-, hitems, hmembers⟩ := ih
  unfold value? at h
  split at h
  · split at h
    · -- A string.
      simp only [Option.bind_eq_bind, Option.bind_eq_some_iff, Prod.exists] at h
      obtain ⟨s, _, _, hs⟩ := h
      cases hs
      cases s <;> trivial
    split at h
    · split at h
      · cases h
        trivial
      · simp only [Option.bind_eq_bind, Option.bind_eq_some_iff, Prod.exists] at h
        obtain ⟨items, _, hread, hs⟩ := h
        cases hs
        exact boundedItems_iff.2 (hitems _ _ _ hread)
    split at h
    · split at h
      · cases h
        trivial
      · simp only [Option.bind_eq_bind, Option.bind_eq_some_iff, Prod.exists] at h
        obtain ⟨members, _, hread, hs⟩ := h
        cases hs
        exact bounded_ofMembers (hmembers _ _ _ hread)
    iterate 3
      split at h
      · obtain ⟨_, _, hword⟩ := Option.map_eq_some_iff.1 h
        cases hword
        trivial
    · simp only [Option.bind_eq_bind, Option.bind_eq_some_iff, Prod.exists] at h
      obtain ⟨numeral, _, _, hs⟩ := h
      cases hs
      exact bounded_ofNumeral numeral
  · cases h

theorem bounds (fuel : Nat) : Bounds fuel := by
  induction fuel with
  | zero => simp [Bounds, value?, items?, members?]
  | succ fuel ih =>
    refine ⟨fun _ _ _ h => bounded_of_value? ih h, fun input ts rest h => ?_,
      fun input ms rest h => ?_⟩
    · simp only [items?, Option.bind_eq_bind, Option.bind_eq_some_iff, Prod.exists] at h
      obtain ⟨item, after, hitem, h⟩ := h
      split at h
      · cases h
        simpa using ih.1 _ _ _ hitem
      · simp only [Option.bind_eq_some_iff, Prod.exists] at h
        obtain ⟨items, _, hitems, h⟩ := h
        cases h
        exact List.forall_mem_cons.2 ⟨ih.1 _ _ _ hitem, ih.2.1 _ _ _ hitems⟩
      · cases h
    · unfold members? at h
      split at h
      · simp only [Option.bind_eq_bind, Option.bind_eq_some_iff, Prod.exists] at h
        obtain ⟨key, after, _, h⟩ := h
        split at h
        · simp only [Option.bind_eq_some_iff, Prod.exists] at h
          obtain ⟨value, after, hvalue, h⟩ := h
          split at h
          · cases h
            simpa using ih.1 _ _ _ hvalue
          · simp only [Option.bind_eq_some_iff, Prod.exists] at h
            obtain ⟨members, _, hmembers, h⟩ := h
            cases h
            exact List.forall_mem_cons.2 ⟨ih.1 _ _ _ hvalue, ih.2.2 _ _ _ hmembers⟩
          · cases h
        · cases h
      · cases h

end Reader

theorem bounded_of_parseBytes? {bytes : List UInt8} {t : Json} (h : parseBytes? bytes = some t) :
    t.Bounded := by
  simp only [parseBytes?, read?, Option.bind_eq_bind, Option.bind_eq_some_iff, Prod.exists] at h
  obtain ⟨value, rest, hread, _, _, h⟩ := h
  cases h
  exact (Reader.bounds _).1 _ _ _ hread

end Json

end GoldenCapture
