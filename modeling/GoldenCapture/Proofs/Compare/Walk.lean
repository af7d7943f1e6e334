import GoldenCapture.Compare.Mismatch
import GoldenCapture.Proofs.Text.ByteOrder
import GoldenCapture.Proofs.Value.Sameness

/-!
# The walk through a batch

What a batch holds at each place, and the order in which places are visited: the parts of a node
one after the other, the items of a list by index after its length, attributes by the bytes of
their keys. For any two places the order says which one comes first.
-/

namespace GoldenCapture

/-! ## Components -/

inductive Component where
  | signal (signal : Signal)
  /-- A list, of which only its length is looked at. -/
  | items (count : Nat)
  | text (text : String)
  | kind (kind : EntryKind)
  | value (value : Value)
  | instant (nanos : UInt64)

namespace Component

/-- Equality of components; attribute values are compared as such. -/
def Equal : Component → Component → Prop
  | value v, value w => v.Equal w
  | c, d => c = d

def display : Component → String
  | signal s => s.name
  | items n => s!"{n} items"
  | text s => s
  | kind k => k.name
  | value v => v.display
  | instant t => toString t.toNat

theorem Equal.refl (c : Component) : c.Equal c := by
  cases c <;> simp [Equal, Value.equal_equivalence.refl]

theorem Equal.symm {c d : Component} (h : c.Equal d) : d.Equal c := by
  cases c <;> cases d <;> simp_all [Equal, Value.equal_equivalence.symm]

end Component

/-! ## Reading -/

/-- What a list holds at a place, with `read` for the places inside an item. -/
def readList {ι α : Type} (read : α → ι → Option Component) (items : List α) :
    InList ι → Option Component
  | .length => some (.items items.length)
  | .item _ => none
  | .inside i place => items[i]?.bind fun x => read x place

def Attributes.component? (a : Attributes) (key : String) : Option Component :=
  (a.get? key).map .value

def Point.component? (p : Point) : PointPlace → Option Component
  | .value => some (.value p.value)
  | .startTime => p.startTime.map .instant
  | .time => p.time.map .instant
  | .field key => p.attributes.component? key

def Entry.component? (e : Entry) : EntryPlace → Option Component
  | .name => some (.text e.name)
  | .kind => some (.kind e.kind)
  | .unit => e.unit.map .text
  | .field key => e.attributes.component? key
  | .points place => readList Point.component? e.points place

def Scope.component? (s : Scope) : ScopePlace → Option Component
  | .name => some (.text s.name)
  | .version => s.version.map .text
  | .field key => s.attributes.component? key
  | .entries place => readList Entry.component? s.entries place

def Resource.component? (r : Resource) : ResourcePlace → Option Component
  | .field key => r.attributes.component? key
  | .scopes place => readList Scope.component? r.scopes place

/-- What a batch holds at a place, if it has that place. -/
def Batch.component? (b : Batch) : Place → Option Component
  | .signal => some (.signal b.signal)
  | .resources place => readList Resource.component? b.resources place

/-! ## Order -/

/-- The length of a list comes first, and an item as a whole before the places inside it. -/
def InList.Before {ι : Type} (inner : ι → ι → Prop) : InList ι → InList ι → Prop
  | _, length => False
  | length, _ => True
  | item i, item j => i < j
  | item i, inside j _ => i ≤ j
  | inside i _, item j => i < j
  | inside i p, inside j q => i < j ∨ i = j ∧ inner p q

def KeyBefore (key other : String) : Prop := utf8Bytes key < utf8Bytes other

def PointPlace.part : PointPlace → Nat
  | value => 0
  | startTime => 1
  | time => 2
  | field _ => 3

def PointPlace.Before (p q : PointPlace) : Prop :=
  p.part < q.part ∨
    match p, q with
    | field key, field other => KeyBefore key other
    | _, _ => False

def EntryPlace.part : EntryPlace → Nat
  | name => 0
  | kind => 1
  | unit => 2
  | field _ => 3
  | points _ => 4

def EntryPlace.Before (p q : EntryPlace) : Prop :=
  p.part < q.part ∨
    match p, q with
    | field key, field other => KeyBefore key other
    | points place, points other => place.Before PointPlace.Before other
    | _, _ => False

def ScopePlace.part : ScopePlace → Nat
  | name => 0
  | version => 1
  | field _ => 2
  | entries _ => 3

def ScopePlace.Before (p q : ScopePlace) : Prop :=
  p.part < q.part ∨
    match p, q with
    | field key, field other => KeyBefore key other
    | entries place, entries other => place.Before EntryPlace.Before other
    | _, _ => False

def ResourcePlace.part : ResourcePlace → Nat
  | field _ => 0
  | scopes _ => 1

def ResourcePlace.Before (p q : ResourcePlace) : Prop :=
  p.part < q.part ∨
    match p, q with
    | field key, field other => KeyBefore key other
    | scopes place, scopes other => place.Before ScopePlace.Before other
    | _, _ => False

/-- Whether the walk visits one place before another. -/
def Place.Before : Place → Place → Prop
  | signal, resources _ => True
  | resources place, resources other => place.Before ResourcePlace.Before other
  | _, signal => False

/-! ### Any two places are in order -/

theorem keyBefore_iff {key other : String} : KeyBefore key other ↔ key < other :=
  lt_iff_utf8Bytes_lt.symm

theorem keyBefore_trichotomy (key other : String) :
    KeyBefore key other ∨ key = other ∨ KeyBefore other key := by
  simp only [keyBefore_iff]
  exact lt_trichotomy key other

theorem InList.before_trichotomy {ι : Type} {inner : ι → ι → Prop}
    (h : ∀ p q, inner p q ∨ p = q ∨ inner q p) (p q : InList ι) :
    p.Before inner q ∨ p = q ∨ q.Before inner p := by
  cases p <;> cases q <;> simp only [Before, item.injEq, inside.injEq, reduceCtorEq, or_false,
    false_or, or_true]
  case item.item i j => omega
  case item.inside i j _ => omega
  case inside.item i _ j => omega
  case inside.inside i p j q =>
    have hpq := h p q
    rcases lt_trichotomy i j with hij | rfl | hij
    · exact .inl (.inl hij)
    · simpa using hpq
    · exact .inr (.inr (.inl hij))

theorem PointPlace.before_trichotomy (p q : PointPlace) : p.Before q ∨ p = q ∨ q.Before p := by
  cases p <;> cases q <;> simp [Before, part, keyBefore_trichotomy]

theorem EntryPlace.before_trichotomy (p q : EntryPlace) : p.Before q ∨ p = q ∨ q.Before p := by
  cases p <;> cases q <;> simp [Before, part, keyBefore_trichotomy,
    InList.before_trichotomy PointPlace.before_trichotomy]

theorem ScopePlace.before_trichotomy (p q : ScopePlace) : p.Before q ∨ p = q ∨ q.Before p := by
  cases p <;> cases q <;> simp [Before, part, keyBefore_trichotomy,
    InList.before_trichotomy EntryPlace.before_trichotomy]

theorem ResourcePlace.before_trichotomy (p q : ResourcePlace) :
    p.Before q ∨ p = q ∨ q.Before p := by
  cases p <;> cases q <;> simp [Before, part, keyBefore_trichotomy,
    InList.before_trichotomy ScopePlace.before_trichotomy]

theorem Place.before_trichotomy (p q : Place) : p.Before q ∨ p = q ∨ q.Before p := by
  cases p <;> cases q <;> simp [Before,
    InList.before_trichotomy ResourcePlace.before_trichotomy]

end GoldenCapture
