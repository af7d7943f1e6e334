import GoldenCapture.Batch

/-!
# Comparison rules

A rule set says which differences between a capture and its reference are tolerated. The same
rules apply to both sides.
-/

namespace GoldenCapture

/-! ## Levels -/

/-- Where in the tree a node stands. -/
inductive Level where
  | resource
  | scope
  | entry
  | point
deriving DecidableEq, Repr

namespace Level

def all : List Level := [resource, scope, entry, point]

def name : Level → String
  | resource => "resource"
  | scope => "scope"
  | entry => "entry"
  | point => "point"

/-- The level of exactly this name. -/
def parse (s : String) : Except String Level :=
  match all.find? fun level => level.name == s with
  | some level => .ok level
  | none => .error s!"unknown level '{s}' (resource, scope, entry, point)"

end Level

/-- Which attribute maps a rule on a field reaches. -/
inductive FieldScope where
  | only (level : Level)
  | any
deriving DecidableEq, Repr

def FieldScope.covers : FieldScope → Level → Bool
  | any, _ => true
  | only l, level => l == level

/-! ## Transforms -/

/-- A change to a string value that both sides undergo. -/
structure Transform where
  label : String
  apply : String → String

namespace Transform

/-- Every value becomes a star. -/
def star : Transform := ⟨"replace_with_star", fun _ => "*"⟩

/-- A value that starts with one of the beginnings is cut down to the first such. -/
def shortenTo (beginnings : List String) : Transform :=
  ⟨"shorten_to_prefix", fun value => (beginnings.find? (·.isPrefixOf value)).getD value⟩

/-- The endings that name a processor architecture. -/
def architectures : List String := ["-amd64", "-arm64", "-ppc64le", "-s390x"]

/-- What is left of `s` without an ending that it has. -/
def dropEnding? (s ending : String) : Option String :=
  if ending.toList.isSuffixOf s.toList then
    some (String.ofList (s.toList.take (s.length - ending.length)))
  else none

/-- What follows the last slash. -/
def lastSegment (s : String) : String :=
  String.ofList (s.toList.reverse.takeWhile (· != '/')).reverse

/-- The last segment of an image reference, without an architecture. -/
def imageName : Transform :=
  ⟨"image_name", fun value =>
    let last := lastSegment value
    (architectures.findSome? (dropEnding? last)).getD last⟩

/-- How a transform is shown. -/
def display (t : Transform) : String := "ValueTransform(" ++ t.label ++ ")"

end Transform

/-! ## Rules -/

inductive Rule where
  /-- Lists of this level are compared without regard to order. -/
  | ignoreOrder (level : Level)
  /-- The field has to be there; its value does not matter. -/
  | ignoreFieldValue (name : String) (scope : FieldScope)
  /-- The field is taken off both sides. -/
  | ignoreField (name : String)
  | transformFieldValue (name : String) (scope : FieldScope) (transform : Transform)
  /-- Only the first point of these series counts; no names means every series. -/
  | collapsePoints (names : List String)
  | ignoreTimestamps
  | ignorePointValues
  | ignoreScopeVersion

/-- Rules in the order of their declaration. -/
abbrev Rules := List Rule

namespace Rules

/-- Order ignored at every level. -/
def unordered : Rules := Level.all.map Rule.ignoreOrder

def ignoresOrder (rules : Rules) (level : Level) : Bool :=
  rules.any fun
    | .ignoreOrder l => l == level
    | _ => false

def ignoresValue (rules : Rules) (name : String) (level : Level) : Bool :=
  rules.any fun
    | .ignoreFieldValue n scope => n == name && scope.covers level
    | _ => false

/-- Whether a field is taken off both sides. -/
def strips (rules : Rules) (name : String) : Bool :=
  rules.any fun
    | .ignoreField n => n == name
    | _ => false

/-- The transforms of a field at a level, in the order of their declaration. -/
def transforms (rules : Rules) (name : String) (level : Level) : List Transform :=
  rules.filterMap fun
    | .transformFieldValue n scope t => if n == name && scope.covers level then some t else none
    | _ => none

/-- Whether only the first point of a series counts. -/
def collapses (rules : Rules) (name : String) : Bool :=
  rules.any fun
    | .collapsePoints names => names.isEmpty || names.contains name
    | _ => false

def ignoresTimestamps (rules : Rules) : Bool :=
  rules.any fun
    | .ignoreTimestamps => true
    | _ => false

def ignoresPointValues (rules : Rules) : Bool :=
  rules.any fun
    | .ignorePointValues => true
    | _ => false

def ignoresScopeVersion (rules : Rules) : Bool :=
  rules.any fun
    | .ignoreScopeVersion => true
    | _ => false

end Rules

end GoldenCapture
