import GoldenCapture.Batch.Json
import GoldenCapture.Yaml.Node
import GoldenCapture.Yaml.Resolve
import GoldenCapture.Yaml.Writer

/-!
# Batches as YAML

The text of a golden file, and what is read back from it. Where a batch has a string, a scalar of
any form counts as its text; where it has a value, a plain scalar counts as what it means.
-/

namespace GoldenCapture

namespace Yaml

/-- Reading from a document. The state is how many aliases may still be followed. -/
abbrev Read (α : Type) := StateT Nat Option α

/-- How deep sequences and mappings may nest. -/
def depthLimit : Nat := 128

/-- The node that a node stands for, which is no alias. -/
def Document.follow (d : Document) : Node → Read Node
  | .alias id => do
    let left ← get
    match left, d.node? id with
    | left + 1, some node =>
      set left
      return node
    | _, _ => failure
  | node => return node

/-! ## Scalars -/

def Node.text? : Node → Option String
  | .scalar text _ _ => some text
  | _ => none

/-- Whether nothing is written for a node. -/
def Node.isBlank : Node → Bool
  | .scalar text style _ => text == "" && style == .plain
  | _ => false

/-- A scalar that 64 bits hold as a natural number. -/
def Node.uint64? : Node → Option UInt64
  | .scalar text style tag =>
    if style == .plain || (style == .literal && tag == some "tag:yaml.org,2002:int") then
      match integer? text with
      | some n =>
        if 0 ≤ n ∧ n < UInt64.size && text.toList.head? != some '-' then
          some (UInt64.ofNat n.toNat)
        else none
      | none => none
    else none
  | _ => none

/-- The word of an enumeration: a scalar, or its tag in front of nothing. -/
def Node.word? : Node → Option String
  | .scalar text style tag =>
    match tag.map String.toList with
    | some ('!' :: word) =>
      if style == .plain && (text == "" || isNull text) then some (String.ofList word) else none
    | _ => some text
  | .sequence _ _ | .mapping _ _ => none
  | .alias _ => none

/-- Whether a scalar stands for no value at all; nothing if its tag asks for null in vain. -/
def Node.isAbsent? : Node → Option Bool
  | .scalar text style tag =>
    if style != .plain then some false
    else
      match tag with
      | some "tag:yaml.org,2002:null" => if isNull text then some true else none
      | some _ => some false
      | none => some (text == "" || isNull text)
  | _ => some false

/-! ## Structures -/

/-- The items of a sequence. Nothing written counts as none. -/
def Document.items (d : Document) (node : Node) : Read (List Node) := do
  match ← d.follow node with
  | .sequence items _ => return items
  | node => if node.isBlank then return [] else failure

/-- The pairs of a mapping, with the keys as text. Nothing written counts as none. -/
def Document.pairs (d : Document) (node : Node) : Read (List (String × Node)) := do
  match ← d.follow node with
  | .mapping pairs _ =>
    pairs.mapM fun (key, value) => do
      match (← d.follow key).text? with
      | some key => return (key, value)
      | none => failure
  | node => if node.isBlank then return [] else failure

/-- The members of a record in the order of `names`: each name at most once, other names skipped.
A record may also be written as a sequence of its first members. -/
def Document.record (d : Document) (names : List String) (node : Node) :
    Read (List (Option Node)) := do
  match ← d.follow node with
  | .sequence items _ =>
    if items.length ≤ names.length then
      return items.map some ++ List.replicate (names.length - items.length) none
    else failure
  | node => do
    let pairs ← d.pairs node
    names.mapM fun name =>
      match pairs.filter fun pair => pair.1 == name with
      | [] => return none
      | [pair] => return some pair.2
      | _ => failure

/-- Reads a member that has a value when it is missing. -/
def Document.withDefault {α : Type} (value : α) (read : Node → Read α) : Option Node → Read α
  | none => return value
  | some node => read node

/-- Reads a member that may be missing or null. -/
def Document.optional {α : Type} (d : Document) (read : Node → Option α) :
    Option Node → Read (Option α)
  | none => return none
  | some node => do
    let node ← d.follow node
    match node.isAbsent? with
    | some true => return none
    | some false =>
      match read node with
      | some a => return some a
      | none => failure
    | none => failure

/-- Reads a scalar. -/
def Document.scalar {α : Type} (d : Document) (read : Node → Option α) (node : Node) : Read α := do
  match read (← d.follow node) with
  | some a => return a
  | none => failure

end Yaml

/-! ## Values -/

namespace Value

/-- An integer that 64 bits hold. -/
def ofYamlInteger? (n : Int) : Option Value :=
  if -(Nat.pow 2 63 : Int) ≤ n ∧ n < UInt64.size then some (ofInteger n) else none

def ofPlain? : Yaml.Plain → Option Value
  | .null => some empty
  | .bool b => some (bool b)
  | .integer n => ofYamlInteger? n
  | .float x => some (double x)
  | .string s => some (string s)

/-- The value of a scalar. A tag of the standard types is binding; one of one's own is refused. -/
def ofScalar? (text : String) (style : Yaml.ScalarStyle) (tag : Option String) : Option Value :=
  match tag with
  | none => if style == .plain then ofPlain? (Yaml.Plain.ofText text) else some (string text)
  | some "tag:yaml.org,2002:bool" => (Yaml.bool? text).map bool
  | some "tag:yaml.org,2002:int" => (Yaml.integer? text).bind ofYamlInteger?
  | some "tag:yaml.org,2002:float" => (Yaml.float? text).map double
  | some "tag:yaml.org,2002:null" => if Yaml.isNull text then some empty else none
  | some tag => if tag.toList.head? == some '!' then none else some (string text)

def isOwnTag (tag : Option String) : Bool := tag.any fun t => t.toList.head? == some '!'

/-- The value of a node that nests at most `room` sequences and mappings. -/
def ofNode (d : Yaml.Document) : Nat → Yaml.Node → Yaml.Read Value
  | room, node => do
    match ← d.follow node with
    | .scalar text style tag =>
      match ofScalar? text style tag with
      | some v => return v
      | none => failure
    | .sequence items tag =>
      match room with
      | 0 => failure
      | room + 1 =>
        if isOwnTag tag then failure
        else return .seq (← items.mapM (ofNode d room))
    | .mapping pairs tag =>
      match room with
      | 0 => failure
      | room + 1 =>
        if isOwnTag tag then failure
        else
          return .map (← pairs.mapM fun (key, value) => do
            match ← ofNode d 0 key with
            | .string key => return (key, ← ofNode d room value)
            | _ => failure)
    | .alias _ => failure

end Value

/-! ## Nodes of a batch -/

section

open Yaml

/-- Attributes whose values nest at most `room` deep. -/
def Attributes.ofNode (d : Document) (room : Nat) (node : Node) : Read Attributes := do
  let pairs ← d.pairs node
  let fields ← pairs.mapM fun (key, value) => do return (key, ← Value.ofNode d room value)
  return .ofFields fields

def listOfNodes {α : Type} (d : Document) (read : Node → Read α) (node : Node) : Read (List α) := do
  (← d.items node).mapM read

def Point.ofNode (d : Document) (room : Nat) (node : Node) : Read Point := do
  let [value, startTime, time, attributes] ←
      d.record ["value", "start_time_unix_nano", "time_unix_nano", "attributes"] node
    | failure
  let value ← Document.withDefault .empty (Value.ofNode d room) value
  return { Point.ofValue value with
    startTime := ← d.optional Node.uint64? startTime
    time := ← d.optional Node.uint64? time
    attributes := ← Document.withDefault .nil (Attributes.ofNode d (room - 1)) attributes }

def Entry.ofNode (d : Document) (room : Nat) (node : Node) : Read Entry := do
  let [some name, some kind, unit, attributes, points] ←
      d.record ["name", "kind", "unit", "attributes", "points"] node
    | failure
  let kind ← d.scalar (fun node => node.word?.bind EntryKind.ofName?) kind
  return {
    name := ← d.scalar Node.text? name
    kind := kind
    unit := ← d.optional Node.text? unit
    attributes := ← Document.withDefault .nil (Attributes.ofNode d (room - 1)) attributes
    points := ← Document.withDefault [] (listOfNodes d (Point.ofNode d (room - 2))) points }

def Scope.ofNode (d : Document) (room : Nat) (node : Node) : Read Scope := do
  let [name, version, attributes, entries] ←
      d.record ["name", "version", "attributes", "entries"] node
    | failure
  return {
    name := ← Document.withDefault "" (d.scalar Node.text?) name
    version := ← d.optional Node.text? version
    attributes := ← Document.withDefault .nil (Attributes.ofNode d (room - 1)) attributes
    entries := ← Document.withDefault [] (listOfNodes d (Entry.ofNode d (room - 2))) entries }

def Resource.ofNode (d : Document) (room : Nat) (node : Node) : Read Resource := do
  let [attributes, scopes] ← d.record ["attributes", "scopes"] node
    | failure
  return {
    attributes := ← Document.withDefault .nil (Attributes.ofNode d (room - 1)) attributes
    scopes := ← Document.withDefault [] (listOfNodes d (Scope.ofNode d (room - 2))) scopes }

def Batch.ofNode (d : Document) (node : Node) : Read Batch := do
  let [some signal, resources] ← d.record ["signal", "resources"] node
    | failure
  return {
    signal := ← d.scalar (fun node => node.word?.bind Signal.ofName?) signal
    resources := ← Document.withDefault [] (listOfNodes d (Resource.ofNode d (depthLimit - 3)))
      resources }

/-- How many aliases of a document may be followed. -/
def Yaml.Document.aliasLimit (d : Document) : Nat := 100 * d.size

/-- The text of a batch. -/
def Batch.yaml (b : Batch) : String := Yaml.render b.toJson

/-- The text of a value. -/
def Value.yaml (v : Value) : String := Yaml.render v.toJson

/-- The batch that a text holds as its only document. -/
def Batch.ofYaml? (text : String) : Option Batch := do
  let d ← document? text
  let root ← d.root
  let (batch, _) ← (Batch.ofNode d root).run d.aliasLimit
  return batch

/-- The attributes that a text holds as its only document, none if there is no document. -/
def Attributes.ofYaml? (text : String) : Option Attributes := do
  let d ← document? text
  match d.root with
  | none => return .nil
  | some root =>
    let (attributes, _) ← (Attributes.ofNode d (depthLimit - 1) root).run d.aliasLimit
    return attributes

/-- The value that a text holds as its only document, empty if there is none. -/
def Value.ofYaml? (text : String) : Option Value := do
  let d ← document? text
  match d.root with
  | none => return .empty
  | some root =>
    let (v, _) ← (Value.ofNode d depthLimit root).run d.aliasLimit
    return v

end

end GoldenCapture
