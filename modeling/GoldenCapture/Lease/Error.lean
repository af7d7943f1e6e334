import GoldenCapture.Text.Quoted
import GoldenCapture.Time.Duration

/-!
# Lease errors

Why a lease could not be taken, kept or given back. `state` is the state that the operation met.
-/

namespace GoldenCapture

/-- Where a coordinator stands with its lease. -/
inductive LeaseState where
  | idle
  | acquiring
  | leading
  | releasing
deriving DecidableEq, Repr

namespace LeaseState

def name : LeaseState → String
  | idle => "idle"
  | acquiring => "acquiring"
  | leading => "leading"
  | releasing => "releasing"

def all : List LeaseState := [idle, acquiring, leading, releasing]

def ofName? (s : String) : Option LeaseState := all.find? fun state => state.name == s

end LeaseState

/-- Why leadership ended without a release. -/
inductive LossReason where
  /-- The backend refused a renewal. -/
  | refused
  /-- Renewals failed for as long as the renew deadline. -/
  | noRenewalWithin (deadline : Nat)
  /-- The last renewal is this old, past the renew deadline. -/
  | noRenewalFor (since : Nat)
deriving DecidableEq, Repr

def LossReason.text : LossReason → String
  | refused => "lease expired or taken over by another holder"
  | noRenewalWithin deadline => "no successful renewal within " ++ Duration.text deadline
  | noRenewalFor since => "no successful renewal for " ++ Duration.text since

/-- What is wrong with the settings of a lease. -/
inductive LeaseConfigProblem where
  | emptyKey
  | noRetryPeriod
  | unordered (retryPeriod renewDeadline ttl : Nat)
deriving DecidableEq, Repr

def LeaseConfigProblem.text : LeaseConfigProblem → String
  | emptyKey => "lease key must not be empty"
  | noRetryPeriod => "retry period must be positive"
  | unordered retry renew ttl =>
    s!"expected retry period ({Duration.text retry}) < renew deadline ({Duration.text renew})" ++
      s!" < ttl ({Duration.text ttl})"

/-- Why a backend could not answer. -/
inductive BackendError where
  | corruptRecord
  | notLocked (path : String)
  /-- The files could not be read or written. -/
  | storage
  | failed (message : String)
deriving DecidableEq, Repr

def BackendError.message : BackendError → String
  | corruptRecord => "corrupt lease record"
  | notLocked path => "could not lock " ++ path
  | storage => "storage failed"
  | failed message => message

inductive LeaseError where
  | acquireTimeout (key : String) (holder : Option String) (waited : Nat)
  | leadershipLost (key : String) (reason : LossReason)
  | invalidState (key operation : String) (state : LeaseState)
  | releaseUnconfirmed (key holder : String)
  | invalidConfig (problem : LeaseConfigProblem)
  | backend (error : BackendError)
deriving DecidableEq, Repr

def LeaseError.message : LeaseError → String
  | acquireTimeout key holder waited =>
    let holder := match holder with
      | none => "None"
      | some holder => "Some(" ++ quoted holder ++ ")"
    s!"Timed out acquiring lease '{key}' after {Duration.text waited} (held by {holder})"
  | leadershipLost key reason => s!"Leadership of lease '{key}' lost: {reason.text}"
  | invalidState key operation state =>
    s!"Lease '{key}' is not in a state that allows {operation} (state: {state.name})"
  | releaseUnconfirmed key holder => s!"Lease '{key}' still held by {holder} after release"
  | invalidConfig problem => "Invalid lease configuration: " ++ problem.text
  | backend error => "Lease backend error: " ++ error.message

end GoldenCapture
