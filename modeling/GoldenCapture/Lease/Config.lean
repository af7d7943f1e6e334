import GoldenCapture.Lease.Error

/-!
# Lease settings

The key of a lease and its timings. A lease that is not renewed ends `ttl` after the last renewal;
a leader gives up once no renewal has succeeded for `renewDeadline`, before that happens.
-/

namespace GoldenCapture

structure LeaseConfig where
  key : String
  ttl : Nat := Duration.ofSeconds 15
  renewDeadline : Nat := Duration.ofSeconds 10
  /-- The time between two attempts to take or renew the lease. -/
  retryPeriod : Nat := Duration.ofSeconds 2
  acquireTimeout : Nat := Duration.ofSeconds 300
deriving DecidableEq, Repr

namespace LeaseConfig

/-- The first problem with the settings. -/
def problem? (c : LeaseConfig) : Option LeaseConfigProblem :=
  if c.key = "" then some .emptyKey
  else if c.retryPeriod = 0 then some .noRetryPeriod
  else if c.renewDeadline ≤ c.retryPeriod ∨ c.ttl ≤ c.renewDeadline then
    some (.unordered c.retryPeriod c.renewDeadline c.ttl)
  else none

def validate (c : LeaseConfig) : Except LeaseError Unit :=
  match c.problem? with
  | some problem => .error (.invalidConfig problem)
  | none => .ok ()

/-- Settings without a problem have a key and ascending timings. -/
theorem problem?_eq_none_iff {c : LeaseConfig} :
    c.problem? = none ↔
      c.key ≠ "" ∧ 0 < c.retryPeriod ∧
        c.retryPeriod < c.renewDeadline ∧ c.renewDeadline < c.ttl := by
  unfold problem?
  by_cases hk : c.key = ""
  · simp [hk]
  · by_cases hr : c.retryPeriod = 0
    · simp [hk, hr]
    · simp only [hk, hr, if_false]
      split
      · rename_i h
        simp only [reduceCtorEq, false_iff, not_and, ne_eq]
        intro _ _ _
        have := h
        omega
      · rename_i h
        simp only [true_iff, ne_eq, not_false_eq_true, true_and, hk]
        omega

end LeaseConfig

end GoldenCapture
