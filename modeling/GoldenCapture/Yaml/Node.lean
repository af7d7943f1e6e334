import GoldenCapture.Yaml.Token

/-!
# Nodes

The tree of a document. An alias stands in it as a number, and the nodes that anchors name are
kept beside the tree under theirs.
-/

namespace GoldenCapture.Yaml

inductive Node where
  | scalar (text : String) (style : ScalarStyle) (tag : Option String)
  | sequence (items : List Node) (tag : Option String)
  | mapping (pairs : List (Node × Node)) (tag : Option String)
  | alias (id : Nat)
deriving Inhabited

/-- An anchored node: the number of its anchor, and its place among all nodes. -/
structure Anchored where
  id : Nat
  place : Nat
  node : Node

/-- A document: its root, if it has one, and what its aliases stand for. -/
structure Document where
  root : Option Node
  anchored : List Anchored := []
  /-- How many starts, ends, scalars and aliases it is made of. -/
  size : Nat := 0

/-- The node that an alias stands for: of several under one number, the last. -/
def Document.node? (d : Document) (id : Nat) : Option Node :=
  let found := d.anchored.filter fun a => a.id == id
  (found.foldl (fun (best : Option Anchored) a =>
    match best with
    | some b => if b.place < a.place then some a else some b
    | none => some a) none).map Anchored.node

namespace Node

/-! ## From tokens -/

/-- What has been read so far, apart from the tree. -/
structure Progress where
  /-- The full forms of tag handles. -/
  handles : List (String × String)
  /-- The anchor names, each with the number that it stands for now. -/
  names : List (String × Nat) := []
  anchored : List Anchored := []
  size : Nat := 0

namespace Progress

def count (p : Progress) (n : Nat) : Progress := { p with size := p.size + n }

/-- Gives an anchor the number of the names so far. -/
def name (p : Progress) (n : String) : Nat × Progress :=
  let id := p.names.length
  let names :=
    if (p.names.lookup n).isSome then p.names.map fun (m, k) => if m == n then (m, id) else (m, k)
    else (n, id) :: p.names
  (id, { p with names := names })

/-- The full form of a tag. -/
def tag? (p : Progress) (handle suffix : String) : Option String :=
  if handle == "" then some suffix
  else (p.handles.lookup handle).map (· ++ suffix)

end Progress

/-- Anchor and tag of a node, each at most once and in either order. -/
structure Properties where
  anchor : Option String := none
  tag : Option String := none

def properties? (p : Progress) (tokens : List Token) : Option (Properties × List Token) :=
  match tokens with
  | .anchor a :: .tag h s :: rest => (p.tag? h s).map fun t => (⟨some a, some t⟩, rest)
  | .tag h s :: .anchor a :: rest => (p.tag? h s).map fun t => (⟨some a, some t⟩, rest)
  | .anchor a :: rest => some (⟨some a, none⟩, rest)
  | .tag h s :: rest => (p.tag? h s).map fun t => (⟨none, some t⟩, rest)
  | rest => some ({}, rest)

/-- A node that is not written. -/
def blank (p : Progress) (tokens : List Token) : Option (Node × Progress × List Token) :=
  some (.scalar "" .plain none, p.count 1, tokens)

/-- Whether a block collection goes on with its next item or ends, so that no node stands here. -/
def endsBlockItem : List Token → Bool
  | .key :: _ | .value :: _ | .blockEnd :: _ => true
  | _ => false

def endsBlockEntry : List Token → Bool
  | .blockEntry :: _ | .blockEnd :: _ => true
  | _ => false

def endsFlowPair : List Token → Bool
  | .flowEntry :: _ | .flowMappingEnd :: _ => true
  | _ => false

def endsFlowItem : List Token → Bool
  | .flowEntry :: _ | .flowSequenceEnd :: _ => true
  | _ => false

def isValue : List Token → Bool
  | .value :: _ => true
  | _ => false

/-- The tag of a scalar: `!` is the same as none. -/
def scalarTag (tag : Option String) : Option String := tag.filter (· != "!")

mutual

/-- A node. `block` tells whether block collections may start, `indentless` whether a sequence may
start without indentation. -/
def node? : Nat → Bool → Bool → Progress → List Token → Option (Node × Progress × List Token)
  | 0, _, _, _, _ => none
  | fuel + 1, block, indentless, p, tokens =>
    match tokens with
    | .alias name :: rest => (p.names.lookup name).map fun id => (.alias id, p.count 1, rest)
    | tokens => do
      let (props, tokens) ← properties? p tokens
      let place := p.size
      let (id, p) := match props.anchor with
        | none => (0, p)
        | some a => p.name a
      let (node, p, tokens) ← content? fuel block indentless props p tokens
      let p := match props.anchor with
        | none => p
        | some _ => { p with anchored := ⟨id, place, node⟩ :: p.anchored }
      return (node, p, tokens)

/-- What stands behind the properties of a node. After a property it may be nothing. -/
def content? : Nat → Bool → Bool → Properties → Progress → List Token →
    Option (Node × Progress × List Token)
  | 0, _, _, _, _, _ => none
  | fuel + 1, block, indentless, props, p, tokens =>
    let absent : Option (Node × Progress × List Token) :=
      if props.anchor.isSome || props.tag.isSome then
        some (.scalar "" .plain props.tag, p.count 1, tokens)
      else none
    match tokens with
    | .scalar text style :: rest =>
      some (.scalar text style (scalarTag props.tag), p.count 1, rest)
    | .flowSequenceStart :: rest => do
      let (items, p, rest) ← flowItems? fuel true (p.count 1) rest
      return (.sequence items props.tag, p.count 1, rest)
    | .flowMappingStart :: rest => do
      let (pairs, p, rest) ← flowPairs? fuel true (p.count 1) rest
      return (.mapping pairs props.tag, p.count 1, rest)
    | .blockEntry :: rest =>
      if !indentless then absent
      else do
        let (items, p, rest) ← indentlessItems? fuel (p.count 1) (.blockEntry :: rest)
        return (.sequence items props.tag, p.count 1, rest)
    | .blockSequenceStart :: rest =>
      if !block then absent
      else do
        let (items, p, rest) ← blockItems? fuel (p.count 1) rest
        return (.sequence items props.tag, p.count 1, rest)
    | .blockMappingStart :: rest =>
      if !block then absent
      else do
        let (pairs, p, rest) ← blockPairs? fuel (p.count 1) rest
        return (.mapping pairs props.tag, p.count 1, rest)
    | _ => absent

/-- The entries of a block sequence up to its end. -/
def blockItems? : Nat → Progress → List Token → Option (List Node × Progress × List Token)
  | 0, _, _ => none
  | fuel + 1, p, tokens =>
    match tokens with
    | .blockEntry :: rest => do
      let (item, p, rest) ←
        if endsBlockEntry rest then blank p rest else node? fuel true false p rest
      let (items, p, rest) ← blockItems? fuel p rest
      return (item :: items, p, rest)
    | .blockEnd :: rest => some ([], p, rest)
    | _ => none

/-- The entries of a sequence that is not indented within its mapping. -/
def indentlessItems? : Nat → Progress → List Token → Option (List Node × Progress × List Token)
  | 0, _, _ => none
  | fuel + 1, p, tokens =>
    match tokens with
    | .blockEntry :: rest => do
      let (item, p, rest) ←
        if endsBlockEntry rest || endsBlockItem rest then blank p rest
        else node? fuel true false p rest
      let (items, p, rest) ← indentlessItems? fuel p rest
      return (item :: items, p, rest)
    | rest => some ([], p, rest)

/-- The pairs of a block mapping up to its end. -/
def blockPairs? : Nat → Progress → List Token → Option (List (Node × Node) × Progress × List Token)
  | 0, _, _ => none
  | fuel + 1, p, tokens =>
    match tokens with
    | .key :: rest => do
      let (key, p, rest) ←
        if endsBlockItem rest then blank p rest else node? fuel true true p rest
      let (value, p, rest) ← match rest with
        | .value :: rest =>
          if endsBlockItem rest then blank p rest else node? fuel true true p rest
        | rest => blank p rest
      let (pairs, p, rest) ← blockPairs? fuel p rest
      return ((key, value) :: pairs, p, rest)
    | .blockEnd :: rest => some ([], p, rest)
    | _ => none

/-- The entries of a flow sequence up to its end. A pair makes a mapping of its own. -/
def flowItems? : Nat → Bool → Progress → List Token → Option (List Node × Progress × List Token)
  | 0, _, _, _ => none
  | fuel + 1, first, p, tokens =>
    match tokens with
    | .flowSequenceEnd :: rest => some ([], p, rest)
    | tokens => do
      let tokens ← if first then some tokens else
        match tokens with
        | .flowEntry :: rest => some rest
        | _ => none
      match tokens with
      | .flowSequenceEnd :: rest => return ([], p, rest)
      | .key :: rest =>
        let p := p.count 1
        let (key, p, rest) ←
          if isValue rest || endsFlowItem rest then blank p rest.tail
          else node? fuel false false p rest
        let (value, p, rest) ← match rest with
          | .value :: rest =>
            if endsFlowItem rest then blank p rest else node? fuel false false p rest
          | rest => blank p rest
        let (items, p, rest) ← flowItems? fuel false (p.count 1) rest
        return (.mapping [(key, value)] none :: items, p, rest)
      | tokens =>
        let (item, p, rest) ← node? fuel false false p tokens
        let (items, p, rest) ← flowItems? fuel false p rest
        return (item :: items, p, rest)

/-- The pairs of a flow mapping up to its end. -/
def flowPairs? : Nat → Bool → Progress → List Token →
    Option (List (Node × Node) × Progress × List Token)
  | 0, _, _, _ => none
  | fuel + 1, first, p, tokens =>
    match tokens with
    | .flowMappingEnd :: rest => some ([], p, rest)
    | tokens => do
      let tokens ← if first then some tokens else
        match tokens with
        | .flowEntry :: rest => some rest
        | _ => none
      match tokens with
      | .flowMappingEnd :: rest => return ([], p, rest)
      | .key :: rest =>
        let (key, p, rest) ←
          if isValue rest || endsFlowPair rest then blank p rest
          else node? fuel false false p rest
        let (value, p, rest) ← match rest with
          | .value :: rest =>
            if endsFlowPair rest then blank p rest else node? fuel false false p rest
          | rest => blank p rest
        let (pairs, p, rest) ← flowPairs? fuel false p rest
        return ((key, value) :: pairs, p, rest)
      | tokens =>
        let (key, p, rest) ← node? fuel false false p tokens
        let (value, p, rest) ← blank p rest
        let (pairs, p, rest) ← flowPairs? fuel false p rest
        return ((key, value) :: pairs, p, rest)

end

end Node

/-! ## Documents -/

/-- The tag handles that need no directive. -/
def usualHandles : List (String × String) := [("!", "!"), ("!!", "tag:yaml.org,2002:")]

/-- Takes directives. A version has to be 1.1 or 1.2 and may stand once; so may each handle. -/
def directives? (version : Bool) (handles : List (String × String)) :
    List Token → Option (List (String × String) × List Token)
  | .directive (.version major minor) :: rest =>
    if version || major != 1 || !(minor == 1 || minor == 2) then none
    else directives? true handles rest
  | .directive (.tag handle replacement) :: rest =>
    if (handles.lookup handle).isSome then none
    else directives? version ((handle, replacement) :: handles) rest
  | rest => some (handles, rest)

/-- Whether a document has no content. -/
def isBlankContent : List Token → Bool
  | [] | .directive _ :: _ | .documentStart :: _ | .documentEnd :: _ => true
  | _ => false

/-- The one document in a text. A text without any is a document without a root. -/
def document? (text : String) : Option Document := do
  let tokens ← tokens? text
  if tokens.isEmpty then return { root := none }
  let explicit := match tokens with
    | .directive _ :: _ | .documentStart :: _ => true
    | _ => false
  let (handles, tokens) ← if explicit then directives? false [] tokens else some ([], tokens)
  let tokens ← if !explicit then some tokens else
    match tokens with
    | .documentStart :: rest => some rest
    | _ => none
  let p : Node.Progress := { handles := handles ++ usualHandles }
  let (root, p, rest) ←
    if explicit && isBlankContent tokens then Node.blank p tokens
    else Node.node? (3 * tokens.length + 3) true false p tokens
  guard (rest.all (· == .documentEnd))
  return { root := some root, anchored := p.anchored, size := p.size }

end GoldenCapture.Yaml
