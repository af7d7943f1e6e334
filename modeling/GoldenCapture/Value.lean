import GoldenCapture.Number.Layout
import GoldenCapture.Text.Quoted

/-!
# Attribute values

What an attribute or a data point can hold. Integers, large integers and doubles are kept apart;
maps are in key order. Two values are the same when they have one shape and their leaves are the
same, where every NaN is the same as every NaN and the two zeros are one number.
-/

namespace GoldenCapture

inductive Value where
  | bool (b : Bool)
  | int (i : Int64)
  /-- An integer that was read as unsigned, above the range of `int`. -/
  | uint (u : UInt64)
  | double (d : Double)
  | string (s : String)
  | seq (items : List Value)
  | map (fields : List (String × Value))
  | empty
deriving Inhabited

namespace Value

/-- The word for the shape of a value. -/
def typeName : Value → String
  | bool _ => "bool"
  | int _ => "int"
  | uint _ => "uint"
  | double _ => "double"
  | string _ => "string"
  | seq _ => "sequence"
  | map _ => "map"
  | empty => "empty"

def isEmpty : Value → Bool
  | empty => true
  | _ => false

/-- The text of a string value. -/
def text? : Value → Option String
  | string s => some s
  | _ => none

/-! ## Sameness -/

mutual

/-- One shape, one set of keys, and leaves that are the same pair by pair. -/
def same : Value → Value → Bool
  | bool a, bool b => a == b
  | int a, int b => a == b
  | uint a, uint b => a == b
  | double a, double b => a.same b
  | string a, string b => a == b
  | seq a, seq b => sameItems a b
  | map a, map b => sameFields a b
  | empty, empty => true
  | _, _ => false

def sameItems : List Value → List Value → Bool
  | [], [] => true
  | a :: as, b :: bs => same a b && sameItems as bs
  | _, _ => false

def sameFields : List (String × Value) → List (String × Value) → Bool
  | [], [] => true
  | (k, a) :: as, (l, b) :: bs => k == l && same a b && sameFields as bs
  | _, _ => false

end

instance : BEq Value := ⟨same⟩

/-! ## Key order -/

mutual

/-- Every map inside has strictly ascending keys. -/
def Ordered : Value → Prop
  | seq items => OrderedItems items
  | map fields => (fields.map Prod.fst).Pairwise (· < ·) ∧ OrderedFields fields
  | _ => True

def OrderedItems : List Value → Prop
  | [] => True
  | v :: rest => Ordered v ∧ OrderedItems rest

def OrderedFields : List (String × Value) → Prop
  | [] => True
  | (_, v) :: rest => Ordered v ∧ OrderedFields rest

end

/-- Puts a field in its place by key, instead of a field of the same key. -/
def insertField (key : String) (v : Value) : List (String × Value) → List (String × Value)
  | [] => [(key, v)]
  | (k, w) :: rest =>
    if key < k then (key, v) :: (k, w) :: rest
    else if key = k then (key, v) :: rest
    else (k, w) :: insertField key v rest

mutual

/-- Every map inside put in key order; of equal keys the last one stays. -/
def ordered : Value → Value
  | seq items => seq (orderedItems items)
  | map fields => map (orderedFields fields)
  | v => v

def orderedItems : List Value → List Value
  | [] => []
  | v :: rest => ordered v :: orderedItems rest

/-- The fields in key order, read from the last to the first: a later field wins. -/
def orderedFields : List (String × Value) → List (String × Value)
  | [] => []
  | (key, v) :: rest =>
    let sorted := orderedFields rest
    if sorted.any (fun field => field.1 == key) then sorted else insertField key (ordered v) sorted

end

/-! ### What ordering gives -/

theorem mem_insertField {key : String} {v : Value} {fields : List (String × Value)}
    {x : String × Value} (h : x ∈ insertField key v fields) : x = (key, v) ∨ x ∈ fields := by
  induction fields with
  | nil => simpa [insertField] using h
  | cons field rest ih =>
    obtain ⟨k, w⟩ := field
    simp only [insertField] at h
    split at h
    · simpa using h
    · split at h
      · simp only [List.mem_cons] at h ⊢
        rcases h with h | h
        · exact Or.inl h
        · exact Or.inr (Or.inr h)
      · simp only [List.mem_cons] at h ⊢
        rcases h with h | h
        · exact Or.inr (Or.inl h)
        · rcases ih h with h | h
          · exact Or.inl h
          · exact Or.inr (Or.inr h)

theorem ascending_insertField {key : String} {v : Value} {fields : List (String × Value)}
    (h : (fields.map Prod.fst).Pairwise (· < ·)) :
    ((insertField key v fields).map Prod.fst).Pairwise (· < ·) := by
  induction fields with
  | nil => simp [insertField]
  | cons field rest ih =>
    obtain ⟨k, w⟩ := field
    simp only [List.map_cons, List.pairwise_cons] at h
    simp only [insertField]
    split
    · rename_i hlt
      simp only [List.map_cons, List.pairwise_cons]
      refine ⟨?_, h.1, h.2⟩
      intro a ha
      rcases List.mem_cons.1 ha with rfl | ha
      · exact hlt
      · exact String.lt_trans hlt (h.1 a ha)
    · rename_i hnlt
      split
      · rename_i heq
        subst heq
        simpa only [List.map_cons, List.pairwise_cons] using h
      · rename_i hne
        simp only [List.map_cons, List.pairwise_cons]
        refine ⟨?_, ih h.2⟩
        intro a ha
        obtain ⟨x, hx, rfl⟩ := List.mem_map.1 ha
        rcases mem_insertField hx with rfl | hx
        · exact Std.lt_of_le_of_ne (String.not_lt.1 hnlt) (fun e => hne e.symm)
        · exact h.1 _ (List.mem_map_of_mem hx)

theorem orderedFields_iff {fields : List (String × Value)} :
    OrderedFields fields ↔ ∀ x ∈ fields, x.2.Ordered := by
  induction fields with
  | nil => simp [OrderedFields]
  | cons field rest ih => simp [OrderedFields, ih]

mutual

theorem ordered_ordered : ∀ v : Value, v.ordered.Ordered
  | seq items => by simpa [ordered, Ordered] using orderedItems_ordered items
  | map fields => by simpa [ordered, Ordered] using orderedFields_ordered fields
  | bool _ => by simp [ordered, Ordered]
  | int _ => by simp [ordered, Ordered]
  | uint _ => by simp [ordered, Ordered]
  | double _ => by simp [ordered, Ordered]
  | string _ => by simp [ordered, Ordered]
  | empty => by simp [ordered, Ordered]

theorem orderedItems_ordered : ∀ items : List Value, OrderedItems (orderedItems items)
  | [] => by simp [orderedItems, OrderedItems]
  | v :: rest => by
    simpa [orderedItems, OrderedItems] using ⟨ordered_ordered v, orderedItems_ordered rest⟩

theorem orderedFields_ordered : ∀ fields : List (String × Value),
    ((orderedFields fields).map Prod.fst).Pairwise (· < ·) ∧ OrderedFields (orderedFields fields)
  | [] => by simp [orderedFields, OrderedFields]
  | (key, v) :: rest => by
    have ih := orderedFields_ordered rest
    simp only [orderedFields]
    split
    · exact ih
    · refine ⟨ascending_insertField ih.1, orderedFields_iff.2 fun x hx => ?_⟩
      rcases mem_insertField hx with rfl | hx
      · exact ordered_ordered v
      · exact orderedFields_iff.1 ih.2 x hx

end

end Value

/-! ## Attribute maps -/

/-- The attributes of one node: fields in key order, each value ordered inside. -/
structure Attributes where
  fields : List (String × Value)
  ordered : (Value.map fields).Ordered

namespace Attributes

@[ext] theorem ext {a b : Attributes} (h : a.fields = b.fields) : a = b := by
  cases a; cases b; cases h; rfl

def nil : Attributes := ⟨[], by simp [Value.Ordered, Value.OrderedFields]⟩

instance : Inhabited Attributes := ⟨nil⟩

/-- Attributes from fields in any order; of equal keys the last one stays. -/
def ofFields (fields : List (String × Value)) : Attributes :=
  ⟨Value.orderedFields fields, by
    simpa [Value.Ordered] using Value.orderedFields_ordered fields⟩

def keys (a : Attributes) : List String := a.fields.map Prod.fst

/-- The value under a key. -/
def get? (a : Attributes) (key : String) : Option Value := a.fields.lookup key

/-- One set of keys, and the same value under each. -/
def same (a b : Attributes) : Bool := Value.sameFields a.fields b.fields

/-- Keeps the fields whose key passes. -/
def filterKeys (keep : String → Bool) (a : Attributes) : Attributes :=
  ⟨a.fields.filter fun field => keep field.1, by
    have h := a.ordered
    simp only [Value.Ordered] at h ⊢
    refine ⟨?_, Value.orderedFields_iff.2 fun x hx => ?_⟩
    · exact h.1.sublist ((List.filter_sublist).map _)
    · exact Value.orderedFields_iff.1 h.2 x (List.mem_filter.1 hx).1⟩

/-- Replaces each value by one that depends on its key. -/
def mapValues (f : String → Value → Value) (hf : ∀ k v, v.Ordered → (f k v).Ordered)
    (a : Attributes) : Attributes :=
  ⟨a.fields.map fun field => (field.1, f field.1 field.2), by
    have h := a.ordered
    simp only [Value.Ordered] at h ⊢
    refine ⟨by simpa [List.map_map, Function.comp_def] using h.1,
      Value.orderedFields_iff.2 fun x hx => ?_⟩
    obtain ⟨y, hy, rfl⟩ := List.mem_map.1 hx
    exact hf _ _ (Value.orderedFields_iff.1 h.2 y hy)⟩

end Attributes

end GoldenCapture
