import GoldenCapture.Proofs.Json.Reading

/-!
# Trees and what a text can show of them

A text shows a tree but for some doubles: JSON has no word for what is no finite number, and YAML
has one word for all NaNs.
-/

namespace GoldenCapture

/-- The double with one NaN for all. -/
def Double.oneNaN (d : Double) : Double := if d.isNaN then nan else d

namespace Json

/-! ## Depth -/

mutual

def depth : Json → Nat
  | array items => itemsDepth items + 1
  | object members => membersDepth members + 1
  | _ => 0

def itemsDepth : List Json → Nat
  | [] => 0
  | item :: rest => max (depth item) (itemsDepth rest)

def membersDepth : List (String × Json) → Nat
  | [] => 0
  | (_, value) :: rest => max (depth value) (membersDepth rest)

end

theorem itemsDepth_le_iff {items : List Json} {n : Nat} :
    itemsDepth items ≤ n ↔ ∀ t ∈ items, t.depth ≤ n := by
  induction items with
  | nil => simp [itemsDepth]
  | cons item rest ih => rw [itemsDepth, Nat.max_le, ih, List.forall_mem_cons]

theorem membersDepth_le_iff {members : List (String × Json)} {n : Nat} :
    membersDepth members ≤ n ↔ ∀ m ∈ members, m.2.depth ≤ n := by
  induction members with
  | nil => simp [membersDepth]
  | cons member rest ih => rw [membersDepth, Nat.max_le, ih, List.forall_mem_cons]

/-! ## Children -/

inductive Child (t : Json) : Json → Prop where
  | item {items : List Json} : t ∈ items → Child t (array items)
  | member {members : List (String × Json)} {key : String} :
    (key, t) ∈ members → Child t (object members)

variable {t u : Json}

theorem Child.depth_lt (h : Child t u) : t.depth < u.depth := by
  cases h with
  | item hmem => exact Nat.lt_succ_of_le (itemsDepth_le_iff.1 (Nat.le_refl _) t hmem)
  | member hmem => exact Nat.lt_succ_of_le (membersDepth_le_iff.1 (Nat.le_refl _) (_, t) hmem)

theorem Child.bounded (h : Child t u) (hu : u.Bounded) : t.Bounded := by
  cases h with
  | item hmem => exact boundedItems_iff.1 hu t hmem
  | member hmem => exact boundedMembers_iff.1 hu (_, t) hmem

theorem child_of_record? {names : List String} {members : List (Option Json)}
    (h : u.record? names = some members) (ht : some t ∈ members) : Child t u := by
  unfold record? at h
  split at h
  · obtain ⟨name, _, hname⟩ := exists_of_mem_mapM h ht
    split at hname
    · simp at hname
    · rename_i member hfilter
      cases hname
      exact .member (List.mem_filter.1 (hfilter ▸ List.mem_singleton_self member)).1
    · cases hname
  · split at h
    · cases h
      simp at ht
      exact .item ht
    · cases h
  · cases h

/-! ## Doubles -/

mutual

/-- The tree with something else for each double. -/
def mapReals (f : Double → Json) : Json → Json
  | real d => f d
  | array items => array (mapRealsItems f items)
  | object members => object (mapRealsMembers f members)
  | t => t

def mapRealsItems (f : Double → Json) : List Json → List Json
  | [] => []
  | item :: rest => mapReals f item :: mapRealsItems f rest

def mapRealsMembers (f : Double → Json) : List (String × Json) → List (String × Json)
  | [] => []
  | (key, value) :: rest => (key, mapReals f value) :: mapRealsMembers f rest

end

/-- What JSON shows of a tree: null for what is no finite number. -/
def finiteOnly (t : Json) : Json := t.mapReals fun d => if d.isFinite then real d else null

/-- What YAML shows of a tree: one NaN for all. -/
def oneNaN (t : Json) : Json := t.mapReals fun d => real d.oneNaN

theorem mapRealsItems_eq_map (f : Double → Json) (items : List Json) :
    mapRealsItems f items = items.map (mapReals f) := by
  induction items with
  | nil => rfl
  | cons item rest ih => simp [mapRealsItems, ih]

theorem mapRealsMembers_eq_map (f : Double → Json) (members : List (String × Json)) :
    mapRealsMembers f members = members.map fun member => (member.1, member.2.mapReals f) := by
  induction members with
  | nil => rfl
  | cons member rest ih => simp [mapRealsMembers, ih]

theorem record?_mapReals {f : Double → Json} {names : List String}
    {members : List (String × Json)} {found : List (Option Json)}
    (h : (object members).record? names = some found) :
    (mapReals f (object members)).record? names =
      some (found.map fun member => member.map (mapReals f)) := by
  simp only [record?, mapReals, mapRealsMembers_eq_map, List.filter_map] at h ⊢
  induction names generalizing found with
  | nil =>
    cases h
    rfl
  | cons name rest ih =>
    simp only [List.mapM_cons, Option.bind_eq_bind, Option.bind_eq_some_iff] at h
    obtain ⟨member, hmember, others, hothers, h⟩ := h
    cases h
    rw [List.mapM_cons, ih hothers]
    simp only [Function.comp_def]
    generalize members.filter _ = ms at hmember ⊢
    rcases ms with _ | ⟨_, _ | _⟩ <;> cases hmember <;> rfl

mutual

theorem finiteOnly_eq_self : ∀ {t : Json}, t.Bounded → t.finiteOnly = t
  | real _, h => if_pos h
  | array _, h => congrArg array (finiteOnly_items h)
  | object _, h => congrArg object (finiteOnly_members h)
  | null, _ => rfl
  | bool _, _ => rfl
  | integer _, _ => rfl
  | string _, _ => rfl
  | unreadable, _ => rfl

theorem finiteOnly_items : ∀ {items : List Json}, BoundedItems items →
    mapRealsItems (fun d => if d.isFinite then real d else null) items = items
  | [], _ => rfl
  | item :: rest, h => by
    rw [mapRealsItems, finiteOnly_items h.2, ← finiteOnly, finiteOnly_eq_self h.1]

theorem finiteOnly_members : ∀ {members : List (String × Json)}, BoundedMembers members →
    mapRealsMembers (fun d => if d.isFinite then real d else null) members = members
  | [], _ => rfl
  | (key, value) :: rest, h => by
    rw [mapRealsMembers, finiteOnly_members h.2, ← finiteOnly, finiteOnly_eq_self h.1]

end

/-! ## Deciding equality -/

mutual

def equals : Json → Json → Bool
  | null, null => true
  | bool a, bool b => a == b
  | integer a, integer b => a == b
  | real a, real b => a == b
  | string a, string b => a == b
  | array as, array bs => equalsItems as bs
  | object as, object bs => equalsMembers as bs
  | unreadable, unreadable => true
  | _, _ => false

def equalsItems : List Json → List Json → Bool
  | [], [] => true
  | a :: as, b :: bs => equals a b && equalsItems as bs
  | _, _ => false

def equalsMembers : List (String × Json) → List (String × Json) → Bool
  | [], [] => true
  | (k, a) :: as, (l, b) :: bs => k == l && equals a b && equalsMembers as bs
  | _, _ => false

end

mutual

theorem equals_iff : ∀ t u : Json, t.equals u = true ↔ t = u
  | array as, u => by cases u <;> simp [equals, equalsItems_iff as]
  | object as, u => by cases u <;> simp [equals, equalsMembers_iff as]
  | null, u => by cases u <;> simp [equals]
  | bool _, u => by cases u <;> simp [equals]
  | integer _, u => by cases u <;> simp [equals]
  | real _, u => by cases u <;> simp [equals]
  | string _, u => by cases u <;> simp [equals]
  | unreadable, u => by cases u <;> simp [equals]

theorem equalsItems_iff : ∀ as bs : List Json, equalsItems as bs = true ↔ as = bs
  | [], bs => by cases bs <;> simp [equalsItems]
  | a :: as, bs => by
    cases bs with
    | nil => simp [equalsItems]
    | cons b bs => simp [equalsItems, equals_iff a b, equalsItems_iff as bs]

theorem equalsMembers_iff : ∀ as bs : List (String × Json), equalsMembers as bs = true ↔ as = bs
  | [], bs => by cases bs <;> simp [equalsMembers]
  | (k, a) :: as, bs => by
    cases bs with
    | nil => simp [equalsMembers]
    | cons b bs =>
      obtain ⟨l, b⟩ := b
      simp [equalsMembers, equals_iff a b, equalsMembers_iff as bs, and_assoc]

end

instance : DecidableEq Json := fun t u => decidable_of_iff _ (equals_iff t u)

end Json

end GoldenCapture
