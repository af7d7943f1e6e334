import GoldenCapture.Batch
import GoldenCapture.Value.Display

/-!
# Mismatches

Where two batches first differ, what each side has there, and why that is a difference. A place in
a batch is a value of its own; the report writes it as a path.
-/

namespace GoldenCapture

/-! ## Places -/

/-- A place in a list: its length, one of its items as a whole, or a place inside an item. -/
inductive InList (ι : Type) where
  | length
  | item (index : Nat)
  | inside (index : Nat) (place : ι)
deriving DecidableEq

inductive PointPlace where
  | value
  | startTime
  | time
  | field (key : String)
deriving DecidableEq

inductive EntryPlace where
  | name
  | kind
  | unit
  | field (key : String)
  | points (place : InList PointPlace)
deriving DecidableEq

inductive ScopePlace where
  | name
  | version
  | field (key : String)
  | entries (place : InList EntryPlace)
deriving DecidableEq

inductive ResourcePlace where
  | field (key : String)
  | scopes (place : InList ScopePlace)
deriving DecidableEq

/-- A place in a batch. -/
inductive Place where
  | signal
  | resources (place : InList ResourcePlace)
deriving DecidableEq

/-! ## Paths -/

/-- The path of a place in a list that is written as `list`. -/
def InList.path {ι : Type} (list : String) (inner : String → ι → String) : InList ι → String
  | length => list
  | item i => list ++ "[" ++ toString i ++ "]"
  | inside i place => inner (list ++ "[" ++ toString i ++ "]") place

/-- The path of an attribute of a node. -/
def attributePath (node key : String) : String := node ++ ".attributes[" ++ quoted key ++ "]"

def PointPlace.path (node : String) : PointPlace → String
  | value => node ++ ".value"
  | startTime => node ++ ".start_time_unix_nano"
  | time => node ++ ".time_unix_nano"
  | field key => attributePath node key

def EntryPlace.path (node : String) : EntryPlace → String
  | name => node ++ ".name"
  | kind => node ++ ".kind"
  | unit => node ++ ".unit"
  | field key => attributePath node key
  | points place => place.path (node ++ ".points") PointPlace.path

def ScopePlace.path (node : String) : ScopePlace → String
  | name => node ++ ".name"
  | version => node ++ ".version"
  | field key => attributePath node key
  | entries place => place.path (node ++ ".entries") EntryPlace.path

def ResourcePlace.path (node : String) : ResourcePlace → String
  | field key => attributePath node key
  | scopes place => place.path (node ++ ".scopes") ScopePlace.path

def Place.path : Place → String
  | signal => "signal"
  | resources place => place.path "resources" ResourcePlace.path

/-! ## Mismatches -/

inductive MismatchReason where
  | valueDiffers
  /-- Only the expected side has it. -/
  | missing
  /-- Only the actual side has it. -/
  | unexpected
  | lengthDiffers
  | noCounterpart
deriving DecidableEq, Repr

def MismatchReason.text : MismatchReason → String
  | valueDiffers => "value differs"
  | missing => "missing"
  | unexpected => "unexpected"
  | lengthDiffers => "length differs"
  | noCounterpart => "no counterpart"

/-- A difference at a place, with the text of each side, absent where a side has nothing. -/
structure Mismatch (ι : Type) where
  place : ι
  expected : Option String
  actual : Option String
  reason : MismatchReason
deriving DecidableEq

namespace Mismatch

/-- The same difference, seen from a larger tree. -/
def within {ι κ : Type} (f : ι → κ) (m : Mismatch ι) : Mismatch κ :=
  ⟨f m.place, m.expected, m.actual, m.reason⟩

/-- The line that reports a mismatch. -/
def text (m : Mismatch Place) : String :=
  let expected := m.expected.getD "<absent>"
  let actual := m.actual.getD "<absent>"
  s!"{m.place.path} ({m.reason.text}): expected {expected}, actual {actual}"

end Mismatch

end GoldenCapture
