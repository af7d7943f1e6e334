import GoldenCapture.Proofs.Compare.Rearrangement
import Mathlib.Data.Fintype.EquivFin

/-!
# One rule more

A rule that is added to a set only hides more: batches that were equal stay equal. The exception
is a rule that cuts series whose points were paired without regard to order. The points that come
to stand against each other then need not be those that were paired.
-/

namespace GoldenCapture

theorem ListsAgree.singleton_iff {α : Type} {unordered : Bool} {agree : α → α → Prop} {a b : α} :
    ListsAgree unordered agree [a] [b] ↔ agree a b := by
  constructor
  · intro h
    cases unordered with
    | true =>
      obtain ⟨x, hx, hab⟩ := h.2.exists_of_mem List.mem_cons_self
      rwa [List.mem_singleton.mp hx] at hab
    | false => exact h.2 0 Nat.zero_lt_one Nat.zero_lt_one
  · exact fun h => .of_forall₂ (.cons h .nil) unordered

namespace Rules

variable {rules order : Rules} {rule : Rule} {level : Level} {key name : String}

/-! ## What a larger set hides -/

theorem blanks_concat (h : rules.Blanks level key) : Blanks (rules ++ [rule]) level key :=
  h.imp (List.mem_append_left _) (List.mem_append_left _)

theorem ignoresOrder_concat (h : rules.ignoresOrder level = true) :
    ignoresOrder (rules ++ [rule]) level = true := by
  rw [ignoresOrder_iff] at h ⊢
  exact List.mem_append_left _ h

theorem cuts_concat : Cuts (rules ++ [rule]) name ↔ rules.Cuts name ∨ Cuts [rule] name := by
  simp only [Cuts, List.mem_append, or_and_right, exists_or]
  exact or_or_or_comm

theorem rewritten_concat (v : Value) :
    rewritten (rules ++ [rule]) level key v =
      rewritten [rule] level key (rules.rewritten level key v) := by
  cases v <;> simp [rewritten]

theorem rewritten_equal {v w : Value} (h : v.Equal w) :
    (rules.rewritten level key v).Equal (rules.rewritten level key w) := by
  cases v with
  | string text =>
    rw [Value.eq_string_of_equal (Value.equal_equivalence.symm h)]
    exact Value.equal_equivalence.refl _
  | _ => cases w <;> simp_all [rewritten, Value.Equal, Value.canonical]

theorem AttributesMatch.concat {a b : Attributes} (h : rules.AttributesMatch level a b) :
    AttributesMatch (rules ++ [rule]) level a b := by
  intro key hkey
  obtain ⟨hkeys, hvalues⟩ := h key fun hmem => hkey (List.mem_append_left _ hmem)
  refine ⟨hkeys, fun v w hv hw => ?_⟩
  rcases hvalues v w hv hw with hblank | hequal
  · exact .inl (blanks_concat hblank)
  · right
    rw [rewritten_concat, rewritten_concat]
    exact rewritten_equal hequal

theorem PointsMatch.concat {p q : Point} (h : rules.PointsMatch p q) :
    PointsMatch (rules ++ [rule]) p q where
  value := h.value.imp_left (List.mem_append_left _)
  startTime := h.startTime.imp_left (List.mem_append_left _)
  time := h.time.imp_left (List.mem_append_left _)
  attributes := h.attributes.concat

theorem remaining_concat (e : Entry) :
    remaining (rules ++ [rule]) e =
      if Cuts [rule] e.name then (rules.remaining e).take 1 else rules.remaining e := by
  unfold remaining
  simp only [cuts_concat]
  by_cases hcut : rules.Cuts e.name <;> by_cases hnew : Cuts [rule] e.name <;>
    simp [hcut, hnew]

/-! ## Matching under a larger set -/

/-- The rule cuts no series that was not cut already, unless the order of points counts. -/
def Admits (rules : Rules) (rule : Rule) : Prop :=
  .ignoreOrder .point ∈ rules → ∀ name, Cuts [rule] name → rules.Cuts name

section

variable (hadmits : rules.Admits rule)

include hadmits

theorem remaining_concat_agree {e f : Entry} (hname : e.name = f.name)
    (hpoints : ListsAgree (rules.ignoresOrder .point) rules.PointsMatch (rules.remaining e)
      (rules.remaining f)) :
    ListsAgree (ignoresOrder (rules ++ [rule]) .point) (PointsMatch (rules ++ [rule]))
      (remaining (rules ++ [rule]) e) (remaining (rules ++ [rule]) f) := by
  have hmatch (p q : Point) : rules.PointsMatch p q → PointsMatch (rules ++ [rule]) p q :=
    PointsMatch.concat
  rw [remaining_concat, remaining_concat, ← hname]
  split
  · rename_i hnew
    cases horder : rules.ignoresOrder .point with
    | true =>
      -- The series was cut before.
      have hcut : rules.Cuts e.name := hadmits (ignoresOrder_iff.mp horder) e.name hnew
      have htake (e' : Entry) (he' : rules.Cuts e'.name) :
          (rules.remaining e').take 1 = rules.remaining e' := by
        simp [remaining, he']
      rw [htake e hcut, htake f (hname ▸ hcut)]
      exact hpoints.mono ignoresOrder_concat hmatch
    | false =>
      rw [horder, ListsAgree.iff_forall₂] at hpoints
      exact .of_forall₂ ((List.forall₂_take 1 hpoints).imp hmatch) _
  · exact hpoints.mono ignoresOrder_concat hmatch

theorem EntriesMatch.concat {e f : Entry} (h : rules.EntriesMatch rules e f) :
    EntriesMatch (rules ++ [rule]) (rules ++ [rule]) e f where
  name := h.name
  kind := h.kind
  unit := h.unit
  attributes := h.attributes.concat
  points := remaining_concat_agree hadmits h.name h.points

theorem ScopesMatch.concat {s t : Scope} (h : rules.ScopesMatch rules s t) :
    ScopesMatch (rules ++ [rule]) (rules ++ [rule]) s t where
  name := h.name
  version := h.version.imp_left (List.mem_append_left _)
  attributes := h.attributes.concat
  entries := h.entries.mono ignoresOrder_concat fun _ _ => EntriesMatch.concat hadmits

theorem ResourcesMatch.concat {r r' : Resource} (h : rules.ResourcesMatch rules r r') :
    ResourcesMatch (rules ++ [rule]) (rules ++ [rule]) r r' where
  attributes := h.attributes.concat
  scopes := h.scopes.mono ignoresOrder_concat fun _ _ => ScopesMatch.concat hadmits

theorem Matches.concat {b c : Batch} (h : rules.Matches rules b c) :
    Matches (rules ++ [rule]) (rules ++ [rule]) b c where
  signal := h.signal
  resources := h.resources.mono ignoresOrder_concat fun _ _ => ResourcesMatch.concat hadmits

end

/-! ## The exception -/

def strippedField : Rule → Option String
  | .ignoreField name => some name
  | _ => none

theorem exists_not_stripped (rules : Rules) : ∃ key, .ignoreField key ∉ rules := by
  obtain ⟨key, hkey⟩ := Infinite.exists_notMem_finset (rules.filterMap strippedField).toFinset
  refine ⟨key, fun hmem => hkey ?_⟩
  rw [List.mem_toFinset, List.mem_filterMap]
  exact ⟨_, hmem, rfl⟩

def markedPoint (key : String) : Point := { attributes := .ofFields [(key, .empty)] }

theorem not_pointsMatch_marked (hkey : .ignoreField key ∉ rules) :
    ¬ rules.PointsMatch {} (markedPoint key) := by
  intro h
  have hkeys := (h.attributes key hkey).1
  have hempty : key ∉ Attributes.nil.keys := by simp [Attributes.keys, Attributes.nil]
  apply hempty
  rw [hkeys]
  simp [markedPoint, Attributes.keys, Attributes.ofFields, Value.orderedFields,
    Value.insertField]

theorem entriesMatch_of_matches {e f : Entry}
    (h : rules.Matches order (.ofEntries [e]) (.ofEntries [f])) : rules.EntriesMatch order e f := by
  have hresource := ListsAgree.singleton_iff.mp h.resources
  have hscope := ListsAgree.singleton_iff.mp hresource.scopes
  exact ListsAgree.singleton_iff.mp hscope.entries

theorem exists_compare_ne_none (horder : .ignoreOrder .point ∈ rules) (hnew : Cuts [rule] name)
    (hold : ¬ rules.Cuts name) :
    ∃ actual expected, rules.compare actual expected = none ∧
      compare (rules ++ [rule]) actual expected ≠ none := by
  -- Two unlike points, in one order on one side and in the other order on the other.
  obtain ⟨key, hkey⟩ := exists_not_stripped (rules ++ [rule])
  refine ⟨.ofEntries [.ofPoints name [{}, markedPoint key]],
    .ofEntries [.ofPoints name [markedPoint key, {}]], ?_, ?_⟩
  · rw [compare_eq_none_iff_matches]
    have hlevels : ∀ level ∈ [Level.point], .ignoreOrder level ∈ rules := by simpa using horder
    apply matches_of_rearranged hlevels
    exact .ofEntries (.single ⟨rfl, .swap _ _ _, by simp, fun hcut => absurd hcut hold⟩)
  · rw [ne_eq, compare_eq_none_iff_matches]
    intro h
    have hcut : Cuts (rules ++ [rule]) name := cuts_concat.mpr (.inr hnew)
    have hpoints := (entriesMatch_of_matches h).points
    simp only [remaining, Entry.ofPoints, hcut, if_true, List.take_succ_cons, List.take_zero]
      at hpoints
    exact not_pointsMatch_marked hkey (ListsAgree.singleton_iff.mp hpoints)

/-! ## One rule more -/

/-- Whatever rule is added, equal batches stay equal, unless the rule cuts series and the order of
points is ignored. In that case some do not, as soon as it cuts a series that was whole. -/
theorem compare_concat (rules : Rules) (rule : Rule) :
    (¬ ((∃ names, rule = .collapsePoints names) ∧ .ignoreOrder .point ∈ rules) →
      ∀ actual expected, rules.compare actual expected = none →
        compare (rules ++ [rule]) actual expected = none) ∧
    (.ignoreOrder .point ∈ rules → (∃ name, Cuts [rule] name ∧ ¬ rules.Cuts name) →
      ∃ actual expected, rules.compare actual expected = none ∧
        compare (rules ++ [rule]) actual expected ≠ none) := by
  constructor
  · intro h actual expected hnone
    have hadmits : rules.Admits rule := by
      intro horder name hcut
      have hrule : ∃ names, rule = .collapsePoints names := by
        rcases hcut with hmem | ⟨names, hmem, -⟩
        · exact ⟨[], (List.mem_singleton.mp hmem).symm⟩
        · exact ⟨names, (List.mem_singleton.mp hmem).symm⟩
      exact absurd ⟨hrule, horder⟩ h
    rw [compare_eq_none_iff_matches] at hnone ⊢
    exact Matches.concat hadmits hnone
  · rintro horder ⟨name, hnew, hold⟩
    exact exists_compare_ne_none horder hnew hold

/-- Under a rule on the order of points two series are equal, and stay so with their values
hidden; a rule that cuts series does not keep all that was equal. -/
theorem compare_concat_unordered_points :
    (¬ ((∃ names, Rule.ignorePointValues = .collapsePoints names) ∧
        .ignoreOrder .point ∈ ([.ignoreOrder .point] : Rules)) ∧
      compare [.ignoreOrder .point] (.ofEntries [.ofReadings "up" [true, false]])
        (.ofEntries [.ofReadings "up" [false, true]]) = none ∧
      compare ([.ignoreOrder .point] ++ [.ignorePointValues])
        (.ofEntries [.ofReadings "up" [true, false]])
        (.ofEntries [.ofReadings "up" [false, true]]) = none) ∧
    .ignoreOrder .point ∈ ([.ignoreOrder .point] : Rules) ∧
      Cuts [.collapsePoints ["up"]] "up" ∧ ¬ Cuts [.ignoreOrder .point] "up" ∧
      ∃ actual expected, compare [.ignoreOrder .point] actual expected = none ∧
        compare ([.ignoreOrder .point] ++ [.collapsePoints ["up"]]) actual expected ≠ none := by
  have hrule : ¬ ((∃ names, Rule.ignorePointValues = .collapsePoints names) ∧
      .ignoreOrder .point ∈ ([.ignoreOrder .point] : Rules)) := by simp
  have hequal : compare [.ignoreOrder .point] (.ofEntries [.ofReadings "up" [true, false]])
      (.ofEntries [.ofReadings "up" [false, true]]) = none := by decide +kernel
  have horder : .ignoreOrder .point ∈ ([.ignoreOrder .point] : Rules) := by simp
  have hnew : Cuts [.collapsePoints ["up"]] "up" := by simp [Cuts]
  have hold : ¬ Cuts [.ignoreOrder .point] "up" := by simp [Cuts]
  exact ⟨⟨hrule, hequal, (compare_concat _ _).1 hrule _ _ hequal⟩, horder, hnew, hold,
    (compare_concat _ _).2 horder ⟨"up", hnew, hold⟩⟩

end Rules

end GoldenCapture
