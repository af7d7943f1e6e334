import GoldenCapture.Rule

/-!
# Normal form under rules

What is left of a batch once every rule has been applied: two batches are compared by their
normal forms.
-/

namespace GoldenCapture.Rules

/-- A string through the transforms of its field, any other value as it is; empty where the value
is ignored. -/
def normalValue (rules : Rules) (level : Level) (key : String) (v : Value) : Value :=
  if rules.ignoresValue key level then .empty
  else
    match v with
    | .string s => .string ((rules.transforms key level).foldl (fun s t => t.apply s) s)
    | v => v

theorem normalValue_ordered (rules : Rules) (level : Level) (key : String) (v : Value)
    (h : v.Ordered) : (rules.normalValue level key v).Ordered := by
  unfold normalValue
  split
  · simp [Value.Ordered]
  · split
    · simp [Value.Ordered]
    · exact h

/-- Attributes without the stripped fields, the others with their normal value. -/
def normalAttributes (rules : Rules) (level : Level) (a : Attributes) : Attributes :=
  (a.filterKeys fun key => !rules.strips key).mapValues (rules.normalValue level)
    (rules.normalValue_ordered level)

/-- A point without what is ignored. -/
def normalPoint (rules : Rules) (p : Point) : Point where
  value := if rules.ignoresPointValues then .empty else p.value
  valueOrdered := by
    split
    · simp [Value.Ordered]
    · exact p.valueOrdered
  startTime := if rules.ignoresTimestamps then none else p.startTime
  time := if rules.ignoresTimestamps then none else p.time
  attributes := rules.normalAttributes .point p.attributes

/-- The points that count. -/
def countedPoints (rules : Rules) (e : Entry) : List Point :=
  if rules.collapses e.name then e.points.take 1 else e.points

def normalEntry (rules : Rules) (e : Entry) : Entry :=
  { e with
    attributes := rules.normalAttributes .entry e.attributes
    points := (rules.countedPoints e).map rules.normalPoint }

def normalScope (rules : Rules) (s : Scope) : Scope :=
  { s with
    version := if rules.ignoresScopeVersion then none else s.version
    attributes := rules.normalAttributes .scope s.attributes
    entries := s.entries.map rules.normalEntry }

def normalResource (rules : Rules) (r : Resource) : Resource where
  attributes := rules.normalAttributes .resource r.attributes
  scopes := r.scopes.map rules.normalScope

/-- The normal form of a batch. -/
def normalize (rules : Rules) (b : Batch) : Batch :=
  { b with resources := b.resources.map rules.normalResource }

end GoldenCapture.Rules
