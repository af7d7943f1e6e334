import GoldenCapture.Payload
import GoldenCapture.Proofs.Json.Tree

/-!
# What stands in a batch that has been decoded

An unsigned integer is read only where a signed one would be too small, and all doubles are finite.
-/

namespace GoldenCapture

/-! ## Values at any depth -/

namespace Value

/-- An unsigned integer is above the signed ones. -/
def IsAboveSigned : Value → Prop
  | uint u => 2 ^ 63 ≤ u.toNat
  | _ => True

/-- A double is a finite number. -/
def IsFiniteNumber : Value → Prop
  | double d => d.isFinite = true
  | _ => True

mutual

/-- Every value inside that is no list and no map passes, at any depth. -/
def Every (pass : Value → Prop) : Value → Prop
  | seq items => EveryItem pass items
  | map fields => EveryField pass fields
  | v => pass v

def EveryItem (pass : Value → Prop) : List Value → Prop
  | [] => True
  | v :: rest => Every pass v ∧ EveryItem pass rest

def EveryField (pass : Value → Prop) : List (String × Value) → Prop
  | [] => True
  | (_, v) :: rest => Every pass v ∧ EveryField pass rest

end

variable {pass : Value → Prop}

theorem everyItem_iff {items : List Value} : EveryItem pass items ↔ ∀ v ∈ items, v.Every pass := by
  induction items with
  | nil => simp [EveryItem]
  | cons v rest ih => simp [EveryItem, ih]

theorem everyField_iff {fields : List (String × Value)} :
    EveryField pass fields ↔ ∀ field ∈ fields, field.2.Every pass := by
  induction fields with
  | nil => simp [EveryField]
  | cons field rest ih => simp [EveryField, ih]

mutual

theorem every_ordered : ∀ {v : Value}, v.Every pass → v.ordered.Every pass
  | seq items, h => everyItem_orderedItems (show EveryItem pass items from h)
  | map fields, h => everyField_orderedFields (show EveryField pass fields from h)
  | bool _, h => h
  | int _, h => h
  | uint _, h => h
  | double _, h => h
  | string _, h => h
  | empty, h => h

theorem everyItem_orderedItems : ∀ {items : List Value},
    EveryItem pass items → EveryItem pass (orderedItems items)
  | [], _ => trivial
  | _ :: _, h => ⟨every_ordered h.1, everyItem_orderedItems h.2⟩

theorem everyField_orderedFields : ∀ {fields : List (String × Value)},
    EveryField pass fields → EveryField pass (orderedFields fields)
  | [], _ => trivial
  | (key, v) :: rest, h => by
    have ih := everyField_orderedFields h.2
    simp only [orderedFields]
    split
    · exact ih
    · refine everyField_iff.2 fun field hfield => ?_
      rcases mem_insertField hfield with rfl | hfield
      · exact every_ordered h.1
      · exact everyField_iff.1 ih field hfield

end

end Value

/-! ## Nodes -/

def Attributes.Every (pass : Value → Prop) (a : Attributes) : Prop :=
  Value.EveryField pass a.fields

def Point.Every (pass : Value → Prop) (p : Point) : Prop :=
  p.value.Every pass ∧ p.attributes.Every pass

def Entry.Every (pass : Value → Prop) (e : Entry) : Prop :=
  e.attributes.Every pass ∧ ∀ p ∈ e.points, p.Every pass

def Scope.Every (pass : Value → Prop) (s : Scope) : Prop :=
  s.attributes.Every pass ∧ ∀ e ∈ s.entries, e.Every pass

def Resource.Every (pass : Value → Prop) (r : Resource) : Prop :=
  r.attributes.Every pass ∧ ∀ s ∈ r.scopes, s.Every pass

/-- Every value in a batch passes that is no list and no map, at any depth. -/
def Batch.Every (pass : Value → Prop) (b : Batch) : Prop := ∀ r ∈ b.resources, r.Every pass

variable {pass : Value → Prop}

theorem Attributes.every_nil : Attributes.nil.Every pass := trivial

theorem Attributes.every_ofFields {fields : List (String × Value)}
    (h : Value.EveryField pass fields) : (Attributes.ofFields fields).Every pass :=
  Value.everyField_orderedFields h

/-! ## From integers -/

theorem Value.isAboveSigned_ofInteger {n : Int} (h : n < 2 ^ 64) :
    (ofInteger n).IsAboveSigned := by
  unfold ofInteger
  split
  · trivial
  · rename_i hlarge
    simp only [Nat.pow_eq] at hlarge
    simp only [IsAboveSigned, UInt64.toNat_ofNat']
    omega

theorem Value.every_ofInteger {n : Int} (h : pass (ofInteger n)) : (ofInteger n).Every pass := by
  by_cases hn : n < Nat.pow 2 63 <;> simp only [ofInteger, hn, if_true, if_false] at h ⊢ <;>
    exact h

/-! ## From JSON -/

namespace Json

variable {α : Type} {read : Json → Option α} {Q : α → Prop}

/-- Whatever a reader gives for a tree within bounds passes. -/
def Yields (read : Json → Option α) (Q : α → Prop) : Prop :=
  ∀ t a, t.Bounded → read t = some a → Q a

theorem Yields.withDefault {default a : α} {members : List (Option Json)} {member : Option Json}
    (h : Yields read Q) (hdefault : Q default) (hmembers : ∀ m, some m ∈ members → m.Bounded)
    (hmember : member ∈ members) (ha : Json.withDefault default read member = some a) : Q a := by
  cases member with
  | none =>
    cases ha
    exact hdefault
  | some m => exact h m a (hmembers m hmember) ha

theorem yields_record {names : List String} {build : List (Option Json) → Option α}
    (h : ∀ members a, (∀ m, some m ∈ members → m.Bounded) → build members = some a → Q a) :
    Yields (fun t => t.record? names >>= build) Q := by
  intro t a ht ha
  obtain ⟨members, hmembers, ha⟩ := Option.bind_eq_some_iff.1 ha
  exact h members a (fun m hm => (child_of_record? hmembers hm).bounded ht) ha

theorem Yields.list (h : Yields read Q) : Yields (Json.list? read) fun l => ∀ a ∈ l, Q a := by
  intro t l ht hl a ha
  unfold list? items? at hl
  split at hl
  · obtain ⟨item, hitem, hread⟩ := exists_of_mem_mapM hl ha
    exact h item a (boundedItems_iff.1 ht item hitem) hread
  · cases hl

end Json

/-- A property of all leaves that JSON can hold. -/
structure Value.OfJson (pass : Value → Prop) : Prop where
  bool : ∀ b, pass (.bool b)
  integer : ∀ n < 2 ^ 64, pass (ofInteger n)
  real : ∀ d : Double, d.isFinite = true → pass (.double d)
  string : ∀ s, pass (.string s)
  empty : pass .empty

theorem Value.OfJson.isAboveSigned : OfJson IsAboveSigned where
  bool _ := trivial
  integer _ := isAboveSigned_ofInteger
  real _ _ := trivial
  string _ := trivial
  empty := trivial

theorem Value.OfJson.isFiniteNumber : OfJson IsFiniteNumber where
  bool _ := trivial
  integer n _ := by
    unfold ofInteger
    split <;> trivial
  real _ h := h
  string _ := trivial
  empty := trivial

namespace Value.OfJson

mutual

theorem every_of_ofJson? (hpass : OfJson pass) : ∀ (room : Nat) (t : Json) (v : Value),
    t.Bounded → ofJson? room t = some v → v.Every pass
  | _, .null, _, _, h => by
    cases h
    exact hpass.empty
  | _, .bool b, _, _, h => by
    cases h
    exact hpass.bool b
  | _, .integer n, _, ht, h => by
    cases h
    exact every_ofInteger (hpass.integer n ht.2)
  | _, .real d, _, ht, h => by
    cases h
    exact hpass.real d ht
  | _, .string s, _, _, h => by
    cases h
    exact hpass.string s
  | room, .array items, _, ht, h => by
    simp only [ofJson?] at h
    split at h
    · cases h
    · obtain ⟨vs, hvs, rfl⟩ := Option.map_eq_some_iff.1 h
      exact hpass.every_of_itemsOfJson? (room - 1) items vs ht hvs
  | room, .object members, _, ht, h => by
    simp only [ofJson?] at h
    split at h
    · cases h
    · obtain ⟨fields, hfields, rfl⟩ := Option.map_eq_some_iff.1 h
      exact hpass.every_of_fieldsOfJson? (room - 1) members fields ht hfields
  | _, .unreadable, _, _, h => by cases h

theorem every_of_itemsOfJson? (hpass : OfJson pass) : ∀ (room : Nat) (items : List Json)
    (vs : List Value),
    Json.BoundedItems items → itemsOfJson? room items = some vs → EveryItem pass vs
  | _, [], _, _, h => by
    cases h
    trivial
  | room, item :: rest, _, ht, h => by
    simp only [itemsOfJson?, Option.bind_eq_bind, Option.bind_eq_some_iff] at h
    obtain ⟨v, hv, vs, hvs, h⟩ := h
    cases h
    exact ⟨hpass.every_of_ofJson? room item v ht.1 hv,
      hpass.every_of_itemsOfJson? room rest vs ht.2 hvs⟩

theorem every_of_fieldsOfJson? (hpass : OfJson pass) : ∀ (room : Nat)
    (members : List (String × Json)) (fields : List (String × Value)),
    Json.BoundedMembers members → fieldsOfJson? room members = some fields →
      EveryField pass fields
  | _, [], _, _, h => by
    cases h
    trivial
  | room, (key, t) :: rest, _, ht, h => by
    simp only [fieldsOfJson?, Option.bind_eq_bind, Option.bind_eq_some_iff] at h
    obtain ⟨v, hv, fields, hfields, h⟩ := h
    cases h
    exact ⟨hpass.every_of_ofJson? room t v ht.1 hv,
      hpass.every_of_fieldsOfJson? room rest fields ht.2 hfields⟩

end

variable (hpass : OfJson pass)
include hpass

theorem attributes (room : Nat) :
    Json.Yields (Attributes.ofJson? room) (Attributes.Every pass) := by
  intro t a ht h
  unfold Attributes.ofJson? at h
  split at h
  · rename_i members
    obtain ⟨fields, hfields, rfl⟩ := Option.map_eq_some_iff.1 h
    exact Attributes.every_ofFields (hpass.every_of_fieldsOfJson? room members fields ht hfields)
  · cases h

theorem point (room : Nat) : Json.Yields (Point.ofJson? room) (Point.Every pass) := by
  refine Json.yields_record fun members p hbounded h => ?_
  split at h
  · simp only [Option.bind_eq_bind, Option.bind_eq_some_iff] at h
    obtain ⟨v, hvalue, startTime, -, time, -, attributes, hattributes, h⟩ := h
    cases h
    have hempty : Value.Every pass .empty := hpass.empty
    have hvalue : v.Every pass :=
      Json.Yields.withDefault (hpass.every_of_ofJson? room) hempty hbounded (by simp) hvalue
    exact ⟨Value.every_ordered hvalue,
      (hpass.attributes _).withDefault Attributes.every_nil hbounded (by simp) hattributes⟩
  · cases h

theorem entry (room : Nat) : Json.Yields (Entry.ofJson? room) (Entry.Every pass) := by
  refine Json.yields_record fun members e hbounded h => ?_
  split at h
  · simp only [Option.bind_eq_bind, Option.bind_eq_some_iff] at h
    obtain ⟨_, -, _, -, _, -, _, -, _, -, attributes, hattributes, points, hpoints, h⟩ := h
    cases h
    exact ⟨(hpass.attributes _).withDefault Attributes.every_nil hbounded (by simp) hattributes,
      (hpass.point _).list.withDefault (by simp) hbounded (by simp) hpoints⟩
  · cases h

theorem scope (room : Nat) : Json.Yields (Scope.ofJson? room) (Scope.Every pass) := by
  refine Json.yields_record fun members s hbounded h => ?_
  split at h
  · simp only [Option.bind_eq_bind, Option.bind_eq_some_iff] at h
    obtain ⟨_, -, _, -, attributes, hattributes, entries, hentries, h⟩ := h
    cases h
    exact ⟨(hpass.attributes _).withDefault Attributes.every_nil hbounded (by simp) hattributes,
      (hpass.entry _).list.withDefault (by simp) hbounded (by simp) hentries⟩
  · cases h

theorem resource (room : Nat) : Json.Yields (Resource.ofJson? room) (Resource.Every pass) := by
  refine Json.yields_record fun members r hbounded h => ?_
  split at h
  · simp only [Option.bind_eq_bind, Option.bind_eq_some_iff] at h
    obtain ⟨attributes, hattributes, scopes, hscopes, h⟩ := h
    cases h
    exact ⟨(hpass.attributes _).withDefault Attributes.every_nil hbounded (by simp) hattributes,
      (hpass.scope _).list.withDefault (by simp) hbounded (by simp) hscopes⟩
  · cases h

theorem batch : Json.Yields Batch.ofJson? (Batch.Every pass) := by
  refine Json.yields_record fun members b hbounded h => ?_
  split at h
  · simp only [Option.bind_eq_bind, Option.bind_eq_some_iff] at h
    obtain ⟨_, -, _, -, resources, hresources, h⟩ := h
    cases h
    exact (hpass.resource _).list.withDefault (by simp) hbounded (by simp) hresources
  · cases h

end Value.OfJson

theorem Protocol.every_of_decode (hpass : Value.OfJson pass) {p : Protocol} {payload : List UInt8}
    {b : Batch} (h : p.decode payload = .ok b) : b.Every pass := by
  unfold decode at h
  split at h
  · cases h
  · rename_i hread
    obtain ⟨t, ht, hbatch⟩ := Option.bind_eq_some_iff.1 hread
    split at h
    · cases h
      exact hpass.batch t b (Json.bounded_of_parseBytes? ht) hbatch
    · cases h

end GoldenCapture
