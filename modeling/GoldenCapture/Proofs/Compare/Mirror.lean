import GoldenCapture.Proofs.Compare.FirstDifference
import GoldenCapture.Proofs.Compare.SameBatches

/-!
# Exchanging the sides

Neither side of a comparison is special. Whether there is a difference does not depend on which
batch is the expected one; where no order is ignored, the reports of the two directions mirror
each other.
-/

namespace GoldenCapture

variable {ι : Type}

/-! ## Mirrored reports -/

def MismatchReason.mirror : MismatchReason → MismatchReason
  | missing => unexpected
  | unexpected => missing
  | reason => reason

/-- The same difference with the sides exchanged. -/
def Mismatch.mirror (m : Mismatch ι) : Mismatch ι :=
  ⟨m.place, m.actual, m.expected, m.reason.mirror⟩

theorem Component.reason_mirror (a e : Option Component) :
    (Component.reason a e).mirror = Component.reason e a := by
  cases a with
  | none => cases e <;> rfl
  | some c => cases e with
    | none => rfl
    | some d => cases c <;> cases d <;> rfl

theorem Alike.symm {a e : ι → Option Component} {p : ι} (h : Alike a e p) : Alike e a p := by
  unfold Alike at h ⊢
  match a p, e p, h with
  | _, _, .none => exact .none
  | _, _, .some h => exact .some h.symm

theorem describe_mirror (a e : ι → Option Component) (p : ι) :
    (describe a e p).mirror = describe e a p := by
  simp [describe, Mismatch.mirror, Component.reason_mirror]

theorem Searched.mirror {before : ι → ι → Prop} {a e : ι → Option Component} {region : ι → Prop}
    {m : Option (Mismatch ι)} (h : Searched before a e region m) :
    Searched before e a region (m.map Mismatch.mirror) := by
  cases h with
  | alike h => exact .alike fun p hp => (h p hp).symm
  | differs hp hbefore hdiffers =>
    rw [Option.map_some, describe_mirror]
    exact .differs hp (fun q hq hqp => (hbefore q hq hqp).symm) fun h => hdiffers h.symm

/-! ## Comparison -/

namespace Rules

/-- Exchanging the sides keeps the verdict under any rules; without a rule on order it mirrors
the report. -/
theorem compare_mirror (rules : Rules) (actual expected : Batch) :
    (rules.compare actual expected = none ↔ rules.compare expected actual = none) ∧
      ((∀ level, Rule.ignoreOrder level ∉ rules) →
        rules.compare expected actual = (rules.compare actual expected).map Mismatch.mirror) := by
  refine ⟨rules.compare_eq_none_comm, fun h => ?_⟩
  have hforth := compareNormal_searched h (rules.normalize actual) (rules.normalize expected)
  have hback := compareNormal_searched h (rules.normalize expected) (rules.normalize actual)
  exact hback.unique hforth.mirror Place.before_trichotomy

/-- A field that one side lacks is missing in one direction and unexpected in the other. -/
theorem compare_mirror_field :
    (∀ level, Rule.ignoreOrder level ∉ [Rule.ignoreScopeVersion]) ∧
      ∃ m, Rules.compare [.ignoreScopeVersion] (.ofScope none []) (.ofScope none [("a", .empty)]) =
          some m ∧ m.reason = .missing ∧
        Rules.compare [.ignoreScopeVersion] (.ofScope none [("a", .empty)]) (.ofScope none []) =
          some m.mirror := by
  have hm : Rules.compare [.ignoreScopeVersion] (.ofScope none [])
      (.ofScope none [("a", .empty)]) =
      some ⟨.resources (.inside 0 (.scopes (.inside 0 (.field "a")))), some "<empty>", none,
        .missing⟩ := by decide +kernel
  have hmirror := (compare_mirror [.ignoreScopeVersion] (.ofScope none [])
    (.ofScope none [("a", .empty)])).2 (by simp)
  rw [hm] at hmirror
  exact ⟨by simp, _, hm, rfl, hmirror⟩

end Rules

end GoldenCapture
