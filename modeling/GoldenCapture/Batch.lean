import GoldenCapture.Value
import GoldenCapture.Text.LowerCase

/-!
# Telemetry batches

One delivery is a tree: batch, resources, scopes, entries, data points. Each node but the root
carries attributes.
-/

namespace GoldenCapture

/-! ## Kinds -/

/-- What a batch carries. -/
inductive Signal where
  | metrics
  | logs
  | traces
deriving DecidableEq, Repr

namespace Signal

def all : List Signal := [metrics, logs, traces]

def name : Signal → String
  | metrics => "metrics"
  | logs => "logs"
  | traces => "traces"

/-- The signal of exactly this name. -/
def ofName? (s : String) : Option Signal := all.find? fun signal => signal.name == s

end Signal

/-- What a named series is. -/
inductive EntryKind where
  | gauge
  | sum
  | histogram
  | summary
  | log
  | span
deriving DecidableEq, Repr

namespace EntryKind

def all : List EntryKind := [gauge, sum, histogram, summary, log, span]

def name : EntryKind → String
  | gauge => "gauge"
  | sum => "sum"
  | histogram => "histogram"
  | summary => "summary"
  | log => "log"
  | span => "span"

/-- The kind of exactly this name. -/
def ofName? (s : String) : Option EntryKind := all.find? fun kind => kind.name == s

/-- The kind that a user means, in any case of letters. -/
def parse (s : String) : Except String EntryKind :=
  let lowered := lowerCase s
  match ofName? lowered with
  | some kind => .ok kind
  | none => .error s!"unknown entry kind '{lowered}'"

end EntryKind

/-! ## The tree -/

/-- One observation of a series. -/
structure Point where
  value : Value := .empty
  valueOrdered : value.Ordered := by simp [Value.Ordered]
  startTime : Option UInt64 := none
  time : Option UInt64 := none
  attributes : Attributes := .nil

/-- A named series: a metric, a log record or a span. -/
structure Entry where
  name : String
  kind : EntryKind
  unit : Option String := none
  attributes : Attributes := .nil
  points : List Point := []

/-- An instrumentation scope within a resource. -/
structure Scope where
  name : String := ""
  version : Option String := none
  attributes : Attributes := .nil
  entries : List Entry := []

/-- What emitted the entries. -/
structure Resource where
  attributes : Attributes := .nil
  scopes : List Scope := []

/-- One delivery. -/
structure Batch where
  signal : Signal
  resources : List Resource := []

instance : Inhabited Batch := ⟨⟨.metrics, []⟩⟩

/-- Puts the fields of nested maps in key order. -/
def Point.ofValue (v : Value) : Point := ⟨v.ordered, Value.ordered_ordered v, none, none, .nil⟩

/-- The sum of counts. -/
def total (counts : List Nat) : Nat := counts.foldr (· + ·) 0

@[simp] theorem total_nil : total [] = 0 := rfl

@[simp] theorem total_cons (n : Nat) (counts : List Nat) :
    total (n :: counts) = n + total counts := rfl

@[simp] theorem total_append (a b : List Nat) : total (a ++ b) = total a + total b := by
  induction a with
  | nil => simp
  | cons n a ih => simp [ih, Nat.add_assoc]

namespace Batch

/-- Every entry, in tree order. -/
def entries (b : Batch) : List Entry :=
  b.resources.flatMap fun resource => resource.scopes.flatMap Scope.entries

def resourceCount (b : Batch) : Nat := b.resources.length

def recordCount (b : Batch) : Nat := b.entries.length

def pointCount (b : Batch) : Nat := total (b.entries.map fun entry => entry.points.length)

/-- Whether some entry has this name and, if one is given, this kind. -/
def containsEntry (b : Batch) (name : String) (kind : Option EntryKind) : Bool :=
  b.entries.any fun entry => entry.name == name && kind.all (entry.kind == ·)

/-- Puts a name in its place in an ascending list, once. -/
def insertName (name : String) : List String → List String
  | [] => [name]
  | n :: rest =>
    if name < n then name :: n :: rest
    else if name = n then n :: rest
    else n :: insertName name rest

/-- The entry names, ascending, each once. -/
def entryNames (b : Batch) : List String :=
  b.entries.foldl (fun names entry => insertName entry.name names) []

/-- Changes every scope. -/
def mapScopes (f : Scope → Scope) (b : Batch) : Batch :=
  { b with resources := b.resources.map fun resource =>
      { resource with scopes := resource.scopes.map f } }

/-- Changes every entry. -/
def mapEntries (f : Entry → Entry) (b : Batch) : Batch :=
  b.mapScopes fun scope => { scope with entries := scope.entries.map f }

end Batch

/-! ## Sameness -/

def Point.same (a b : Point) : Bool :=
  a.value == b.value && a.startTime == b.startTime && a.time == b.time &&
    a.attributes.same b.attributes

/-- Whether two lists agree item by item. -/
def sameList {α : Type} (same : α → α → Bool) : List α → List α → Bool
  | [], [] => true
  | a :: as, b :: bs => same a b && sameList same as bs
  | _, _ => false

def Entry.same (a b : Entry) : Bool :=
  a.name == b.name && a.kind == b.kind && a.unit == b.unit && a.attributes.same b.attributes &&
    sameList Point.same a.points b.points

def Scope.same (a b : Scope) : Bool :=
  a.name == b.name && a.version == b.version && a.attributes.same b.attributes &&
    sameList Entry.same a.entries b.entries

def Resource.same (a b : Resource) : Bool :=
  a.attributes.same b.attributes && sameList Scope.same a.scopes b.scopes

/-- One signal and one tree, values compared by sameness. -/
def Batch.same (a b : Batch) : Bool :=
  a.signal == b.signal && sameList Resource.same a.resources b.resources

end GoldenCapture
