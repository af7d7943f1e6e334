import GoldenCapture.Proofs.Batch.JsonRoundTrip
import GoldenCapture.Proofs.Yaml.Tree

/-!
# Batches read back from their YAML documents

A document that shows the tree of a batch is read as the batch with one NaN for all, and so as a
batch that is the same.
-/

namespace GoldenCapture

/-! ## One NaN for all -/

theorem Double.same_oneNaN (d : Double) : d.oneNaN.same d = true := by
  unfold oneNaN
  split
  · rename_i hnan
    have : nan.isNaN = true := by decide
    simp [Double.same, this, hnan]
  · simp [Double.same]

namespace Value

mutual

def oneNaN : Value → Value
  | double d => double d.oneNaN
  | seq items => seq (oneNaNItems items)
  | map fields => map (oneNaNFields fields)
  | v => v

def oneNaNItems : List Value → List Value
  | [] => []
  | v :: rest => oneNaN v :: oneNaNItems rest

def oneNaNFields : List (String × Value) → List (String × Value)
  | [] => []
  | (key, v) :: rest => (key, oneNaN v) :: oneNaNFields rest

end

theorem keys_oneNaNFields (fields : List (String × Value)) :
    (oneNaNFields fields).map Prod.fst = fields.map Prod.fst := by
  induction fields with
  | nil => rfl
  | cons field rest ih => simp [oneNaNFields, ih]

mutual

theorem ordered_oneNaN : ∀ {v : Value}, v.Ordered → v.oneNaN.Ordered
  | seq _, h => orderedItems_oneNaNItems h
  | map fields, h => ⟨by rw [keys_oneNaNFields]; exact h.1, orderedFields_oneNaNFields h.2⟩
  | bool _, h => h
  | int _, h => h
  | uint _, h => h
  | double _, h => h
  | string _, h => h
  | empty, h => h

theorem orderedItems_oneNaNItems : ∀ {items : List Value},
    OrderedItems items → OrderedItems (oneNaNItems items)
  | [], _ => trivial
  | _ :: _, h => ⟨ordered_oneNaN h.1, orderedItems_oneNaNItems h.2⟩

theorem orderedFields_oneNaNFields : ∀ {fields : List (String × Value)},
    OrderedFields fields → OrderedFields (oneNaNFields fields)
  | [], _ => trivial
  | _ :: _, h => ⟨ordered_oneNaN h.1, orderedFields_oneNaNFields h.2⟩

end

mutual

theorem same_oneNaN : ∀ v : Value, v.oneNaN.same v = true
  | double d => d.same_oneNaN
  | seq items => sameItems_oneNaNItems items
  | map fields => sameFields_oneNaNFields fields
  | bool _ => by simp [oneNaN, same]
  | int _ => by simp [oneNaN, same]
  | uint _ => by simp [oneNaN, same]
  | string _ => by simp [oneNaN, same]
  | empty => rfl

theorem sameItems_oneNaNItems : ∀ items : List Value,
    sameItems (oneNaNItems items) items = true
  | [] => rfl
  | v :: rest => by simp [oneNaNItems, sameItems, same_oneNaN v, sameItems_oneNaNItems rest]

theorem sameFields_oneNaNFields : ∀ fields : List (String × Value),
    sameFields (oneNaNFields fields) fields = true
  | [] => rfl
  | (_, v) :: rest => by
    simp [oneNaNFields, sameFields, same_oneNaN v, sameFields_oneNaNFields rest]

end

end Value

def Attributes.oneNaN (a : Attributes) : Attributes :=
  ⟨Value.oneNaNFields a.fields, Value.ordered_oneNaN (v := .map a.fields) a.ordered⟩

def Point.oneNaN (p : Point) : Point :=
  { p with
    value := p.value.oneNaN
    valueOrdered := Value.ordered_oneNaN p.valueOrdered
    attributes := p.attributes.oneNaN }

def Entry.oneNaN (e : Entry) : Entry :=
  { e with attributes := e.attributes.oneNaN, points := e.points.map Point.oneNaN }

def Scope.oneNaN (s : Scope) : Scope :=
  { s with attributes := s.attributes.oneNaN, entries := s.entries.map Entry.oneNaN }

def Resource.oneNaN (r : Resource) : Resource :=
  { attributes := r.attributes.oneNaN, scopes := r.scopes.map Scope.oneNaN }

/-- The batch with one NaN in place of every NaN. -/
def Batch.oneNaN (b : Batch) : Batch := { b with resources := b.resources.map Resource.oneNaN }

/-! ### The same batch -/

theorem Attributes.same_oneNaN (a : Attributes) : a.oneNaN.same a = true :=
  Value.sameFields_oneNaNFields a.fields

theorem sameList_map {α : Type} {same : α → α → Bool} {f : α → α}
    (h : ∀ a, same (f a) a = true) (l : List α) : sameList same (l.map f) l = true := by
  induction l with
  | nil => rfl
  | cons a rest ih => simp [sameList, h, ih]

theorem Point.same_oneNaN (p : Point) : p.oneNaN.same p = true := by
  have hvalue : (p.value.oneNaN == p.value) = true := p.value.same_oneNaN
  simp [Point.same, Point.oneNaN, hvalue, Attributes.same_oneNaN]

theorem Entry.same_oneNaN (e : Entry) : e.oneNaN.same e = true := by
  simp [Entry.same, Entry.oneNaN, Attributes.same_oneNaN, sameList_map Point.same_oneNaN]

theorem Scope.same_oneNaN (s : Scope) : s.oneNaN.same s = true := by
  simp [Scope.same, Scope.oneNaN, Attributes.same_oneNaN, sameList_map Entry.same_oneNaN]

theorem Resource.same_oneNaN (r : Resource) : r.oneNaN.same r = true := by
  simp [Resource.same, Resource.oneNaN, Attributes.same_oneNaN, sameList_map Scope.same_oneNaN]

theorem Batch.same_oneNaN (b : Batch) : b.oneNaN.same b = true := by
  simp [Batch.same, Batch.oneNaN, sameList_map Resource.same_oneNaN]

open Yaml

/-! ## Values -/

namespace Value

def ofLeaf? : Json → Option Value
  | .null => some empty
  | .bool b => some (bool b)
  | .integer n => ofYamlInteger? n
  | .real x => some (double x)
  | .string s => some (string s)
  | _ => none

theorem ofNode_of_leaf (d : Document) (room : Nat) {node : Node} {t : Json} {v : Value}
    (h : node.tree? = some t) (hv : ofLeaf? t = some v) : ofNode d room node = pure v := by
  have hscalar {text : String} {style : ScalarStyle} (hnode : node = .scalar text style none)
      (htext : ofScalar? text style none = some v) : ofNode d room node = pure v := by
    rw [ofNode, d.follow_of_tree? h, pure_bind, hnode]
    simp [htext]
  obtain ⟨text, hnode, htext⟩ | ⟨text, style, hplain, hnode, rfl⟩ | ⟨_, _, -, -, rfl⟩ |
    ⟨_, _, -, -, rfl⟩ := Node.tree?_cases h
  · refine hscalar hnode ?_
    obtain ⟨hmeans, rfl⟩ | ⟨_, hmeans, rfl⟩ | ⟨_, hmeans, -, rfl⟩ | ⟨_, hmeans, rfl⟩ |
      ⟨hmeans, rfl⟩ := plainTree?_cases htext
    all_goals simpa [ofScalar?, hmeans, ofPlain?, ofLeaf?] using hv
  · refine hscalar hnode ?_
    simpa [ofScalar?, hplain, ofLeaf?] using hv
  · cases hv
  · cases hv

theorem ofYamlInteger?_toInt (i : Int64) : ofYamlInteger? i.toInt = some (int i) := by
  have hlow := i.le_toInt
  have hhigh := i.toInt_lt
  have hlt : i.toInt < Nat.pow 2 63 := hhigh
  rw [ofYamlInteger?, if_pos (by simp [UInt64.size]; omega), ofInteger, if_pos hlt,
    Int64.ofInt_toInt]

theorem ofYamlInteger?_toNat {u : UInt64} (h : 2 ^ 63 ≤ u.toNat) :
    ofYamlInteger? u.toNat = some (uint u) := by
  have hlt := u.toNat_lt
  rw [ofYamlInteger?, if_pos (by simp [UInt64.size]; omega), ofInteger,
    if_neg (by simp only [Nat.pow_eq]; omega), Int.toNat_natCast, UInt64.ofNat_toNat]

mutual

theorem ofNode_of_tree? (d : Document) : ∀ (v : Value) (room : Nat) (node : Node),
    v.Every IsAboveSigned → v.toJson.depth ≤ room → node.tree? = some v.toJson.oneNaN →
      ofNode d room node = pure v.oneNaN
  | bool _, room, _, _, _, h => ofNode_of_leaf d room h rfl
  | int i, room, _, _, _, h => ofNode_of_leaf d room h (ofYamlInteger?_toInt i)
  | uint _, room, _, hv, _, h => ofNode_of_leaf d room h (ofYamlInteger?_toNat hv)
  | double _, room, _, _, _, h => ofNode_of_leaf d room h rfl
  | string _, room, _, _, _, h => ofNode_of_leaf d room h rfl
  | empty, room, _, _, _, h => ofNode_of_leaf d room h rfl
  | seq items, 0, _, _, hdepth, _ => absurd hdepth (Nat.not_succ_le_zero _)
  | seq items, room + 1, _, hv, hdepth, h => by
    obtain ⟨nodes, rfl, hnodes⟩ := Node.exists_of_tree?_array h
    have hitems := mapM_ofNode_items d items room nodes hv (Nat.le_of_succ_le_succ hdepth) hnodes
    rw [ofNode, d.follow_of_tree? h, pure_bind]
    exact (congrArg (· >>= fun vs => pure (seq vs)) hitems).trans (pure_bind ..)
  | map fields, 0, _, _, hdepth, _ => absurd hdepth (Nat.not_succ_le_zero _)
  | map fields, room + 1, _, hv, hdepth, h => by
    obtain ⟨pairs, rfl, hpairs⟩ := Node.exists_of_tree?_object h
    have hfields := mapM_ofNode_fields d fields room pairs hv (Nat.le_of_succ_le_succ hdepth) hpairs
    rw [ofNode, d.follow_of_tree? h, pure_bind]
    exact (congrArg (· >>= fun fields => pure (map fields)) hfields).trans (pure_bind ..)

theorem mapM_ofNode_items (d : Document) : ∀ (items : List Value) (room : Nat) (nodes : List Node),
    EveryItem IsAboveSigned items → Json.itemsDepth (itemsToJson items) ≤ room →
      List.Forall₂ (fun node t => node.tree? = some t) nodes
        (Json.mapRealsItems (fun d => .real d.oneNaN) (itemsToJson items)) →
      nodes.mapM (ofNode d room) = pure (oneNaNItems items)
  | [], _, _, _, _, .nil => rfl
  | v :: rest, room, _, hv, hdepth, .cons hhead hrest => by
    obtain ⟨hdepth, hdepths⟩ := Nat.max_le.1 hdepth
    rw [List.mapM_cons, ofNode_of_tree? d v room _ hv.1 hdepth hhead,
      mapM_ofNode_items d rest room _ hv.2 hdepths hrest]
    rfl

theorem mapM_ofNode_fields (d : Document) : ∀ (fields : List (String × Value)) (room : Nat)
    (pairs : List (Node × Node)),
    EveryField IsAboveSigned fields → Json.membersDepth (fieldsToJson fields) ≤ room →
      List.Forall₂ (fun pair member => pair.1.tree? = some (.string member.1) ∧
        pair.2.tree? = some member.2) pairs
        (Json.mapRealsMembers (fun d => .real d.oneNaN) (fieldsToJson fields)) →
      (pairs.mapM fun pair => do
        match ← ofNode d 0 pair.1 with
        | .string key => return (key, ← ofNode d room pair.2)
        | _ => failure : Read _) = pure (oneNaNFields fields)
  | [], _, _, _, _, .nil => rfl
  | (key, v) :: rest, room, _, hv, hdepth, .cons hhead hrest => by
    obtain ⟨hdepth, hdepths⟩ := Nat.max_le.1 hdepth
    rw [List.mapM_cons, mapM_ofNode_fields d rest room _ hv.2 hdepths hrest,
      ofNode_of_leaf d 0 hhead.1 rfl, ofNode_of_tree? d v room _ hv.1 hdepth hhead.2]
    rfl

end

end Value

/-! ## Nodes -/

theorem mapM_ofNode_named (d : Document) (room : Nat) {fields : List (String × Value)}
    {pairs : List (String × Node)} (hfields : Value.EveryField Value.IsAboveSigned fields)
    (hdepth : Json.membersDepth (Value.fieldsToJson fields) ≤ room)
    (h : List.Forall₂ ShowsMember pairs
      (Json.mapRealsMembers (fun d => .real d.oneNaN) (Value.fieldsToJson fields))) :
    (pairs.mapM fun pair => do return (pair.1, ← Value.ofNode d room pair.2) : Read _) =
      pure (Value.oneNaNFields fields) := by
  induction fields generalizing pairs with
  | nil =>
    cases h
    rfl
  | cons field rest ih =>
    obtain ⟨hhead, hrest⟩ := Nat.max_le.1 hdepth
    cases h with
    | cons hpair hpairs =>
      rw [List.mapM_cons, ih hfields.2 hrest hpairs,
        Value.ofNode_of_tree? d field.2 room _ hfields.1 hhead hpair.2, hpair.1]
      rfl

theorem Attributes.ofNode_of_tree? (d : Document) (a : Attributes) (room : Nat)
    (h : a.Every Value.IsAboveSigned) (hdepth : a.toJson.depth ≤ room + 1) (node : Node)
    (hnode : node.tree? = some a.toJson.oneNaN) : ofNode d room node = pure a.oneNaN := by
  obtain ⟨pairs, hpairs, hshown⟩ := d.pairs_of_tree? hnode
  have hfields := mapM_ofNode_named d room h (Nat.le_of_succ_le_succ hdepth) hshown
  rw [ofNode, hpairs, pure_bind]
  refine (congrArg (· >>= fun fields => pure (ofFields fields)) hfields).trans ?_
  rw [pure_bind]
  exact congrArg pure (Attributes.ofFields_fields a.oneNaN)

theorem Point.ofNode_of_tree? (d : Document) (p : Point) (room : Nat)
    (h : p.Every Value.IsAboveSigned) (hdepth : p.toJson.depth ≤ room + 1) (node : Node)
    (hnode : node.tree? = some p.toJson.oneNaN) : ofNode d room node = pure p.oneNaN := by
  obtain ⟨hv, ha⟩ := p.depth_lt_toJson
  obtain ⟨nodes, hnodes, hshown⟩ := d.record_of_shown hnode p.record?_toJson
  rcases hshown with _ | ⟨hvalue, _ | ⟨hstart, _ | ⟨htime, _ | ⟨hattributes, _ | _⟩⟩⟩⟩
  rw [ofNode, hnodes, pure_bind]
  simp only [Document.withDefault_of_shown hvalue (p.value.ofNode_of_tree? d room · h.1 (by omega)),
    d.optional_uint64 hstart, d.optional_uint64 htime,
    Document.withDefault_of_shown hattributes
      (p.attributes.ofNode_of_tree? d (room - 1) h.2 (by omega)), pure_bind]
  exact congrArg pure p.oneNaN.ofValue_value

theorem Entry.ofNode_of_tree? (d : Document) (e : Entry) (room : Nat)
    (h : e.Every Value.IsAboveSigned) (hdepth : e.toJson.depth ≤ room + 1) (node : Node)
    (hnode : node.tree? = some e.toJson.oneNaN) : ofNode d room node = pure e.oneNaN := by
  obtain ⟨ha, hp⟩ := e.depth_lt_toJson
  have hlist (node : Node)
      (hnode : node.tree? = some (Json.array (e.points.map Point.toJson)).oneNaN) :
      listOfNodes d (Point.ofNode d (room - 2)) node = pure (e.points.map Point.oneNaN) :=
    listOfNodes_of_shown d hnode fun p hmem hlt =>
      p.ofNode_of_tree? d (room - 2) (h.2 p hmem) (by omega)
  obtain ⟨nodes, hnodes, hshown⟩ := d.record_of_shown hnode e.record?_toJson
  rcases hshown with _ | ⟨⟨hname⟩, _ | ⟨⟨hkind⟩, _ | ⟨hunit, _ | ⟨hattributes, _ | ⟨hpoints,
    _ | _⟩⟩⟩⟩⟩
  rw [ofNode, hnodes, pure_bind]
  simp only [d.scalar_word hkind e.kind.ofName?_name, d.scalar_text hname, d.optional_string hunit,
    Document.withDefault_of_shown hattributes
      (e.attributes.ofNode_of_tree? d (room - 1) h.1 (by omega)),
    Document.withDefault_of_shown hpoints hlist, pure_bind]
  rfl

theorem Scope.ofNode_of_tree? (d : Document) (s : Scope) (room : Nat)
    (h : s.Every Value.IsAboveSigned) (hdepth : s.toJson.depth ≤ room + 1) (node : Node)
    (hnode : node.tree? = some s.toJson.oneNaN) : ofNode d room node = pure s.oneNaN := by
  obtain ⟨ha, he⟩ := s.depth_lt_toJson
  have hlist (node : Node)
      (hnode : node.tree? = some (Json.array (s.entries.map Entry.toJson)).oneNaN) :
      listOfNodes d (Entry.ofNode d (room - 2)) node = pure (s.entries.map Entry.oneNaN) :=
    listOfNodes_of_shown d hnode fun e hmem hlt =>
      e.ofNode_of_tree? d (room - 2) (h.2 e hmem) (by omega)
  obtain ⟨nodes, hnodes, hshown⟩ := d.record_of_shown hnode s.record?_toJson
  rcases hshown with _ | ⟨hname, _ | ⟨hversion, _ | ⟨hattributes, _ | ⟨hentries, _ | _⟩⟩⟩⟩
  rw [ofNode, hnodes, pure_bind]
  simp only [Document.withDefault_of_shown hname fun _ hnode => d.scalar_text hnode,
    d.optional_string hversion,
    Document.withDefault_of_shown hattributes
      (s.attributes.ofNode_of_tree? d (room - 1) h.1 (by omega)),
    Document.withDefault_of_shown hentries hlist, pure_bind]
  rfl

theorem Resource.ofNode_of_tree? (d : Document) (r : Resource) (room : Nat)
    (h : r.Every Value.IsAboveSigned) (hdepth : r.toJson.depth ≤ room + 1) (node : Node)
    (hnode : node.tree? = some r.toJson.oneNaN) : ofNode d room node = pure r.oneNaN := by
  obtain ⟨ha, hs⟩ := r.depth_lt_toJson
  have hlist (node : Node)
      (hnode : node.tree? = some (Json.array (r.scopes.map Scope.toJson)).oneNaN) :
      listOfNodes d (Scope.ofNode d (room - 2)) node = pure (r.scopes.map Scope.oneNaN) :=
    listOfNodes_of_shown d hnode fun s hmem hlt =>
      s.ofNode_of_tree? d (room - 2) (h.2 s hmem) (by omega)
  obtain ⟨nodes, hnodes, hshown⟩ := d.record_of_shown hnode r.record?_toJson
  rcases hshown with _ | ⟨hattributes, _ | ⟨hscopes, _ | _⟩⟩
  rw [ofNode, hnodes, pure_bind]
  simp only [Document.withDefault_of_shown hattributes
      (r.attributes.ofNode_of_tree? d (room - 1) h.1 (by omega)),
    Document.withDefault_of_shown hscopes hlist, pure_bind]
  rfl

theorem Batch.ofNode_of_tree? (d : Document) (b : Batch) (h : b.Every Value.IsAboveSigned)
    (hdepth : b.toJson.depth ≤ depthLimit) (node : Node)
    (hnode : node.tree? = some b.toJson.oneNaN) : ofNode d node = pure b.oneNaN := by
  simp only [depthLimit] at hdepth
  have hr := b.depth_lt_toJson
  have hlist (node : Node)
      (hnode : node.tree? = some (Json.array (b.resources.map Resource.toJson)).oneNaN) :
      listOfNodes d (Resource.ofNode d (depthLimit - 3)) node =
        pure (b.resources.map Resource.oneNaN) :=
    listOfNodes_of_shown d hnode fun r hmem hlt =>
      r.ofNode_of_tree? d (depthLimit - 3) (h r hmem) (by simp only [depthLimit]; omega)
  obtain ⟨nodes, hnodes, hshown⟩ := d.record_of_shown hnode b.record?_toJson
  rcases hshown with _ | ⟨⟨hsignal⟩, _ | ⟨hresources, _ | _⟩⟩
  rw [ofNode, hnodes, pure_bind]
  simp only [d.scalar_word hsignal b.signal.ofName?_name,
    Document.withDefault_of_shown hresources hlist, pure_bind]
  rfl

end GoldenCapture
