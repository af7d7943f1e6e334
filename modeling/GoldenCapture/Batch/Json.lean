import GoldenCapture.Batch
import GoldenCapture.Json.Reader
import GoldenCapture.Json.Writer

/-!
# Batches as JSON

The canonical JSON form of a batch: what each node writes, and what is read back. Reading fills
in what may be missing and skips unknown members.
-/

namespace GoldenCapture

/-! ## Values -/

/-- How deep a document may nest lists and maps that are read. -/
def Json.depthLimit : Nat := 127

namespace Value

mutual

def toJson : Value → Json
  | bool b => .bool b
  | int i => .integer i.toInt
  | uint u => .integer u.toNat
  | double d => .real d
  | string s => .string s
  | seq items => .array (itemsToJson items)
  | map fields => .object (fieldsToJson fields)
  | empty => .null

def itemsToJson : List Value → List Json
  | [] => []
  | v :: rest => toJson v :: itemsToJson rest

def fieldsToJson : List (String × Value) → List (String × Json)
  | [] => []
  | (key, v) :: rest => (key, toJson v) :: fieldsToJson rest

end

/-- An integer is signed if it can be. -/
def ofInteger (n : Int) : Value :=
  if n < Nat.pow 2 63 then int (Int64.ofInt n) else uint (UInt64.ofNat n.toNat)

mutual

/-- The value of a tree that nests at most `room` lists and maps. -/
def ofJson? (room : Nat) : Json → Option Value
  | .null => some empty
  | .bool b => some (bool b)
  | .integer n => some (ofInteger n)
  | .real d => some (double d)
  | .string s => some (string s)
  | .array items => if room = 0 then none else (itemsOfJson? (room - 1) items).map seq
  | .object members => if room = 0 then none else (fieldsOfJson? (room - 1) members).map map
  | .unreadable => none

def itemsOfJson? (room : Nat) : List Json → Option (List Value)
  | [] => some []
  | item :: rest => do
    let v ← ofJson? room item
    let vs ← itemsOfJson? room rest
    return v :: vs

def fieldsOfJson? (room : Nat) : List (String × Json) → Option (List (String × Value))
  | [] => some []
  | (key, json) :: rest => do
    let v ← ofJson? room json
    let fields ← fieldsOfJson? room rest
    return (key, v) :: fields

end

end Value

namespace Attributes

def toJson (a : Attributes) : Json := .object (Value.fieldsToJson a.fields)

/-- The attributes under an object whose values nest at most `room` deep. -/
def ofJson? (room : Nat) : Json → Option Attributes
  | .object members => (Value.fieldsOfJson? room members).map ofFields
  | _ => none

end Attributes

/-! ## Nodes -/

/-- A member that is written only if it is there. -/
def Json.optionalMember {α : Type} (key : String) (write : α → Json) :
    Option α → List (String × Json)
  | none => []
  | some x => [(key, write x)]

def Json.ofUInt64 (n : UInt64) : Json := .integer n.toNat

def Point.toJson (p : Point) : Json := .object (
  [("value", p.value.toJson)] ++
  Json.optionalMember "start_time_unix_nano" Json.ofUInt64 p.startTime ++
  Json.optionalMember "time_unix_nano" Json.ofUInt64 p.time ++
  [("attributes", p.attributes.toJson)])

def Entry.toJson (e : Entry) : Json := .object (
  [("name", .string e.name), ("kind", .string e.kind.name)] ++
  Json.optionalMember "unit" Json.string e.unit ++
  [("attributes", e.attributes.toJson), ("points", .array (e.points.map Point.toJson))])

def Scope.toJson (s : Scope) : Json := .object (
  [("name", .string s.name)] ++
  Json.optionalMember "version" Json.string s.version ++
  [("attributes", s.attributes.toJson), ("entries", .array (s.entries.map Entry.toJson))])

def Resource.toJson (r : Resource) : Json := .object
  [("attributes", r.attributes.toJson), ("scopes", .array (r.scopes.map Scope.toJson))]

def Batch.toJson (b : Batch) : Json := .object
  [("signal", .string b.signal.name), ("resources", .array (b.resources.map Resource.toJson))]

/-- The canonical text of a batch. -/
def Batch.text (b : Batch) : String := b.toJson.compact

/-- A list of nodes. -/
def Json.list? {α : Type} (read : Json → Option α) (json : Json) : Option (List α) :=
  json.items?.bind fun items => items.mapM read

def Signal.ofJson? (json : Json) : Option Signal := json.word?.bind Signal.ofName?

def EntryKind.ofJson? (json : Json) : Option EntryKind := json.word?.bind EntryKind.ofName?

/-- Reads a point whose attributes and value may nest `room` lists and maps. -/
def Point.ofJson? (room : Nat) (json : Json) : Option Point := do
  let [value, startTime, time, attributes] ←
      json.record? ["value", "start_time_unix_nano", "time_unix_nano", "attributes"]
    | none
  let value ← Json.withDefault .empty (Value.ofJson? room) value
  return { Point.ofValue value with
    startTime := ← Json.optional Json.uint64? startTime
    time := ← Json.optional Json.uint64? time
    attributes := ← Json.withDefault .nil (Attributes.ofJson? (room - 1)) attributes }

def Entry.ofJson? (room : Nat) (json : Json) : Option Entry := do
  let [name, kind, unit, attributes, points] ←
      json.record? ["name", "kind", "unit", "attributes", "points"]
    | none
  return {
    name := ← (← name).string?
    kind := ← EntryKind.ofJson? (← kind)
    unit := ← Json.optional Json.string? unit
    attributes := ← Json.withDefault .nil (Attributes.ofJson? (room - 1)) attributes
    points := ← Json.withDefault [] (Json.list? (Point.ofJson? (room - 2))) points }

def Scope.ofJson? (room : Nat) (json : Json) : Option Scope := do
  let [name, version, attributes, entries] ←
      json.record? ["name", "version", "attributes", "entries"]
    | none
  return {
    name := ← Json.withDefault "" Json.string? name
    version := ← Json.optional Json.string? version
    attributes := ← Json.withDefault .nil (Attributes.ofJson? (room - 1)) attributes
    entries := ← Json.withDefault [] (Json.list? (Entry.ofJson? (room - 2))) entries }

def Resource.ofJson? (room : Nat) (json : Json) : Option Resource := do
  let [attributes, scopes] ← json.record? ["attributes", "scopes"]
    | none
  return {
    attributes := ← Json.withDefault .nil (Attributes.ofJson? (room - 1)) attributes
    scopes := ← Json.withDefault [] (Json.list? (Scope.ofJson? (room - 2))) scopes }

/-- The batch that a tree describes. -/
def Batch.ofJson? (json : Json) : Option Batch := do
  let [signal, resources] ← json.record? ["signal", "resources"]
    | none
  return {
    signal := ← Signal.ofJson? (← signal)
    resources := ← Json.withDefault []
      (Json.list? (Resource.ofJson? (Json.depthLimit - 3))) resources }

end GoldenCapture
