import GoldenCapture.Batch.Yaml
import GoldenCapture.Proofs.Json.Tree
import Mathlib.Data.List.Forall2

/-!
# The tree of a YAML text

A document without tags and aliases stands for a tree: plain scalars for what they mean, all other
scalars for strings. Reading such a document follows no alias, so that each reader is a constant.
-/

namespace GoldenCapture.Yaml

/-! ## Trees -/

/-- The leaf that a plain scalar stands for. A natural number with a minus sign stands for none. -/
def plainTree? (text : String) : Option Json :=
  match Plain.ofText text with
  | .null => some .null
  | .bool b => some (.bool b)
  | .integer n => if 0 ≤ n ∧ text.toList.head? = some '-' then none else some (.integer n)
  | .float x => some (.real x)
  | .string s => some (.string s)

mutual

/-- The tree that a node stands for, if it has no tags and no aliases. -/
def Node.tree? : Node → Option Json
  | .scalar text style none => if style = .plain then plainTree? text else some (.string text)
  | .sequence items none => (itemTrees? items).map .array
  | .mapping pairs none => (pairTrees? pairs).map .object
  | _ => none

def itemTrees? : List Node → Option (List Json)
  | [] => some []
  | item :: rest => do
    let t ← item.tree?
    let ts ← itemTrees? rest
    return t :: ts

def pairTrees? : List (Node × Node) → Option (List (String × Json))
  | [] => some []
  | (key, value) :: rest => do
    let .string name ← key.tree? | none
    let t ← value.tree?
    let ts ← pairTrees? rest
    return (name, t) :: ts

end

/-- The tree that a text holds as its only document. -/
def tree? (text : String) : Option Json := do
  let d ← document? text
  let root ← d.root
  root.tree?

variable {node : Node} {t : Json} {s : String} {items : List Json}
  {members : List (String × Json)}

/-! ## What a node that shows a tree is -/

theorem eq_of_ofText_eq_string {text : String} (h : Plain.ofText text = .string s) : s = text := by
  unfold Plain.ofText at h
  split at h
  · cases h
  · split at h
    · cases h
    · split at h
      · cases h
      · split at h
        · cases h
        · exact (Plain.string.inj h).symm

theorem plainTree?_cases {text : String} (h : plainTree? text = some t) :
    (Plain.ofText text = .null ∧ t = .null) ∨
    (∃ b, Plain.ofText text = .bool b ∧ t = .bool b) ∨
    (∃ n, Plain.ofText text = .integer n ∧ ¬ (0 ≤ n ∧ text.toList.head? = some '-') ∧
      t = .integer n) ∨
    (∃ x, Plain.ofText text = .float x ∧ t = .real x) ∨
    (Plain.ofText text = .string text ∧ t = .string text) := by
  unfold plainTree? at h
  split at h
  · simp_all
  · simp_all
  · split at h
    · cases h
    · simp_all
  · simp_all
  · rename_i hstring
    cases eq_of_ofText_eq_string hstring
    simp_all

theorem Node.tree?_cases (h : node.tree? = some t) :
    (∃ text, node = .scalar text .plain none ∧ plainTree? text = some t) ∨
    (∃ text style, style ≠ .plain ∧ node = .scalar text style none ∧ t = .string text) ∨
    (∃ nodes items, node = .sequence nodes none ∧ itemTrees? nodes = some items ∧
      t = .array items) ∨
    (∃ pairs members, node = .mapping pairs none ∧ pairTrees? pairs = some members ∧
      t = .object members) := by
  unfold tree? at h
  split at h
  · split at h
    · rename_i hplain
      exact .inl ⟨_, by rw [hplain], h⟩
    · rename_i hplain
      cases h
      exact .inr (.inl ⟨_, _, hplain, rfl, rfl⟩)
  · obtain ⟨items, hitems, rfl⟩ := Option.map_eq_some_iff.1 h
    exact .inr (.inr (.inl ⟨_, items, rfl, hitems, rfl⟩))
  · obtain ⟨members, hmembers, rfl⟩ := Option.map_eq_some_iff.1 h
    exact .inr (.inr (.inr ⟨_, members, rfl, hmembers, rfl⟩))
  · cases h

theorem Node.exists_of_tree?_string (h : node.tree? = some (.string s)) :
    ∃ style, node = .scalar s style none ∧ (style = .plain → Plain.ofText s = .string s) := by
  obtain ⟨text, rfl, htext⟩ | ⟨_, style, hplain, rfl, ht⟩ | ⟨_, _, -, -, ht⟩ | ⟨_, _, -, -, ht⟩ :=
    tree?_cases h
  · obtain ⟨_, ht⟩ | ⟨_, _, ht⟩ | ⟨_, _, _, ht⟩ | ⟨_, _, ht⟩ | ⟨hstring, ht⟩ :=
      plainTree?_cases htext
    all_goals cases ht
    exact ⟨_, rfl, fun _ => hstring⟩
  · cases ht
    exact ⟨style, rfl, fun h => absurd h hplain⟩
  · cases ht
  · cases ht

theorem Node.exists_of_tree?_integer {n : Int} (h : node.tree? = some (.integer n)) :
    ∃ text, node = .scalar text .plain none ∧ Plain.ofText text = .integer n ∧
      ¬ (0 ≤ n ∧ text.toList.head? = some '-') := by
  obtain ⟨text, rfl, htext⟩ | ⟨_, _, -, -, ht⟩ | ⟨_, _, -, -, ht⟩ | ⟨_, _, -, -, ht⟩ :=
    tree?_cases h
  · obtain ⟨_, ht⟩ | ⟨_, _, ht⟩ | ⟨_, hinteger, hsign, ht⟩ | ⟨_, _, ht⟩ | ⟨_, ht⟩ :=
      plainTree?_cases htext
    all_goals cases ht
    exact ⟨text, rfl, hinteger, hsign⟩
  · cases ht
  · cases ht
  · cases ht

theorem not_isAbsentText {text : String} (h : Plain.ofText text ≠ .null) :
    (text == "" || isNull text) = false := by
  simp only [Plain.ofText] at h
  split at h
  · exact absurd rfl h
  · rename_i hblank
    simpa using hblank

theorem integer?_of_ofText {text : String} {n : Int} (h : Plain.ofText text = .integer n) :
    integer? text = some n := by
  unfold Plain.ofText at h
  split at h
  · cases h
  · split at h
    · cases h
    · split at h
      · rename_i hinteger
        cases h
        exact hinteger
      · split at h <;> cases h

/-! ## Reading scalars -/

theorem Document.follow_of_tree? (d : Document) (h : node.tree? = some t) :
    d.follow node = pure node := by
  cases node with
  | scalar text style tag => rfl
  | sequence items tag => rfl
  | mapping pairs tag => rfl
  | _ => cases h

theorem Node.text?_of_tree? (h : node.tree? = some (.string s)) : node.text? = some s := by
  obtain ⟨_, rfl, -⟩ := exists_of_tree?_string h
  rfl

theorem Node.word?_of_tree? (h : node.tree? = some (.string s)) : node.word? = some s := by
  obtain ⟨_, rfl, -⟩ := exists_of_tree?_string h
  rfl

theorem Node.uint64?_of_tree? {n : UInt64} (h : node.tree? = some (Json.ofUInt64 n)) :
    node.uint64? = some n := by
  obtain ⟨text, rfl, hinteger, hsign⟩ := exists_of_tree?_integer h
  have hlt := n.toNat_lt
  simp [uint64?, integer?_of_ofText hinteger] at hsign ⊢
  exact ⟨by omega, hsign⟩

theorem Node.isAbsent?_of_tree?_string (h : node.tree? = some (.string s)) :
    node.isAbsent? = some false := by
  obtain ⟨style, rfl, hplain⟩ := exists_of_tree?_string h
  by_cases hstyle : style = .plain
  · have hpresent : (s == "" || isNull s) = false := not_isAbsentText (by simp [hplain hstyle])
    simp [isAbsent?, hpresent]
  · simp [isAbsent?, hstyle]

theorem Node.isAbsent?_of_tree?_integer {n : Int} (h : node.tree? = some (.integer n)) :
    node.isAbsent? = some false := by
  obtain ⟨text, rfl, hinteger, -⟩ := exists_of_tree?_integer h
  have hpresent : (text == "" || isNull text) = false := not_isAbsentText (by simp [hinteger])
  simp [isAbsent?, hpresent]

/-! ## Reading sequences and mappings -/

theorem itemTrees?_eq_some {nodes : List Node} (h : itemTrees? nodes = some items) :
    List.Forall₂ (fun node t => node.tree? = some t) nodes items := by
  induction nodes generalizing items with
  | nil =>
    cases h
    exact .nil
  | cons node rest ih =>
    simp only [itemTrees?, Option.bind_eq_bind, Option.bind_eq_some_iff] at h
    obtain ⟨t, ht, ts, hts, h⟩ := h
    cases h
    exact .cons ht (ih hts)

theorem pairTrees?_eq_some {pairs : List (Node × Node)} (h : pairTrees? pairs = some members) :
    List.Forall₂ (fun pair member => pair.1.tree? = some (.string member.1) ∧
      pair.2.tree? = some member.2) pairs members := by
  induction pairs generalizing members with
  | nil =>
    cases h
    exact .nil
  | cons pair rest ih =>
    simp only [pairTrees?, Option.bind_eq_bind, Option.bind_eq_some_iff] at h
    obtain ⟨key, hkey, h⟩ := h
    split at h
    · simp only [Option.bind_eq_some_iff] at h
      obtain ⟨t, ht, ts, hts, h⟩ := h
      cases h
      exact .cons ⟨hkey, ht⟩ (ih hts)
    · cases h

theorem Node.exists_of_tree?_array (h : node.tree? = some (.array items)) :
    ∃ nodes, node = .sequence nodes none ∧
      List.Forall₂ (fun node t => node.tree? = some t) nodes items := by
  obtain ⟨_, _, htext⟩ | ⟨_, _, _, _, ht⟩ | ⟨nodes, _, rfl, hnodes, ht⟩ | ⟨_, _, -, -, ht⟩ :=
    tree?_cases h
  · obtain ⟨_, ht⟩ | ⟨_, _, ht⟩ | ⟨_, _, _, ht⟩ | ⟨_, _, ht⟩ | ⟨_, ht⟩ := plainTree?_cases htext <;>
      cases ht
  · cases ht
  · cases ht
    exact ⟨nodes, rfl, itemTrees?_eq_some hnodes⟩
  · cases ht

theorem Node.exists_of_tree?_object (h : node.tree? = some (.object members)) :
    ∃ pairs, node = .mapping pairs none ∧
      List.Forall₂ (fun pair member => pair.1.tree? = some (.string member.1) ∧
        pair.2.tree? = some member.2) pairs members := by
  obtain ⟨_, _, htext⟩ | ⟨_, _, _, _, ht⟩ | ⟨_, _, -, -, ht⟩ | ⟨pairs, _, rfl, hpairs, ht⟩ :=
    tree?_cases h
  · obtain ⟨_, ht⟩ | ⟨_, _, ht⟩ | ⟨_, _, _, ht⟩ | ⟨_, _, ht⟩ | ⟨_, ht⟩ := plainTree?_cases htext <;>
      cases ht
  · cases ht
  · cases ht
  · cases ht
    exact ⟨pairs, rfl, pairTrees?_eq_some hpairs⟩

theorem Document.items_of_tree? (d : Document) (h : node.tree? = some (.array items)) :
    ∃ nodes, d.items node = pure nodes ∧
      List.Forall₂ (fun node t => node.tree? = some t) nodes items := by
  obtain ⟨nodes, rfl, hnodes⟩ := Node.exists_of_tree?_array h
  exact ⟨nodes, by simp [Document.items, d.follow_of_tree? h], hnodes⟩

abbrev ShowsMember (pair : String × Node) (member : String × Json) : Prop :=
  pair.1 = member.1 ∧ pair.2.tree? = some member.2

theorem Document.pairs_of_tree? (d : Document) (h : node.tree? = some (.object members)) :
    ∃ pairs, d.pairs node = pure pairs ∧ List.Forall₂ ShowsMember pairs members := by
  obtain ⟨nodes, rfl, hnodes⟩ := Node.exists_of_tree?_object h
  simp only [Document.pairs, d.follow_of_tree? h, pure_bind]
  clear h
  induction hnodes with
  | nil => exact ⟨[], rfl, .nil⟩
  | @cons pair member rest _ hhead _ ih =>
    obtain ⟨pairs, hpairs, hshown⟩ := ih
    refine ⟨(member.1, pair.2) :: pairs, ?_, .cons ⟨rfl, hhead.2⟩ hshown⟩
    rw [List.mapM_cons, hpairs]
    simp [d.follow_of_tree? hhead.1, Node.text?_of_tree? hhead.1]

theorem Document.record_of_tree? (d : Document) {names : List String} {found : List (Option Json)}
    (h : node.tree? = some (.object members))
    (hfound : (Json.object members).record? names = some found) :
    ∃ nodes, d.record names node = pure nodes ∧
      List.Forall₂ (Option.Rel fun node t => node.tree? = some t) nodes found := by
  obtain ⟨pairs, hpairs, hshown⟩ := d.pairs_of_tree? h
  obtain ⟨raw, rfl, -⟩ := Node.exists_of_tree?_object h
  simp only [Document.record, d.follow_of_tree? h, pure_bind, hpairs]
  simp only [Json.record?] at hfound
  induction names generalizing found with
  | nil =>
    cases hfound
    exact ⟨[], rfl, .nil⟩
  | cons name rest ih =>
    simp only [List.mapM_cons, Option.bind_eq_bind, Option.bind_eq_some_iff] at hfound
    obtain ⟨member, hmember, others, hothers, hfound⟩ := hfound
    cases hfound
    obtain ⟨nodes, hnodes, hrel⟩ := ih hothers
    have hfilter : List.Forall₂ ShowsMember (pairs.filter fun pair => pair.1 == name)
        (members.filter fun member => member.1 == name) :=
      List.rel_filter (fun _ _ hm => by simp [hm.1]) hshown
    rw [List.mapM_cons, hnodes]
    generalize pairs.filter _ = ps at hfilter ⊢
    generalize members.filter _ = ms at hfilter hmember
    rcases hfilter with _ | ⟨hpair, _ | _⟩
    · cases hmember
      exact ⟨none :: nodes, by simp, .cons .none hrel⟩
    · cases hmember
      exact ⟨some _ :: nodes, by simp, .cons (.some hpair.2) hrel⟩
    · cases hmember

/-! ## Reading members -/

/-- A member stands for what YAML shows of a tree, or both are missing. -/
abbrev ShowsMaybe : Option Node → Option Json → Prop :=
  Option.Rel fun node t => node.tree? = some t.oneNaN

theorem Document.record_of_shown (d : Document) {names : List String} {found : List (Option Json)}
    (h : node.tree? = some (Json.object members).oneNaN)
    (hfound : (Json.object members).record? names = some found) :
    ∃ nodes, d.record names node = pure nodes ∧ List.Forall₂ ShowsMaybe nodes found := by
  obtain ⟨nodes, hnodes, hrel⟩ := d.record_of_tree? h (Json.record?_mapReals hfound)
  refine ⟨nodes, hnodes, (List.forall₂_map_right_iff.1 hrel).imp fun node member hmember => ?_⟩
  cases member with
  | none =>
    cases hmember
    exact .none
  | some t =>
    cases hmember
    exact .some ‹_›

section

variable {α : Type} {member : Option Node}

theorem Document.withDefault_of_shown {read : Node → Read α} {default a : α}
    (h : ShowsMaybe member (some t))
    (hread : ∀ node, node.tree? = some t.oneNaN → read node = pure a) :
    Document.withDefault default read member = pure a := by
  cases h with
  | some hnode => exact hread _ hnode

theorem Document.optional_of_shown (d : Document) {read : Node → Option α} {write : α → Json}
    {x : Option α} (h : ShowsMaybe member (x.map write))
    (hread : ∀ node a, node.tree? = some (write a).oneNaN →
      node.isAbsent? = some false ∧ read node = some a) :
    d.optional read member = pure x := by
  cases x with
  | none =>
    cases h
    rfl
  | some a =>
    cases h with
    | some hnode =>
      obtain ⟨hpresent, hvalue⟩ := hread _ a hnode
      simp [Document.optional, d.follow_of_tree? hnode, hpresent, hvalue]

theorem Document.optional_string (d : Document) {x : Option String}
    (h : ShowsMaybe member (x.map .string)) : d.optional Node.text? member = pure x :=
  d.optional_of_shown h fun _ _ hnode =>
    ⟨Node.isAbsent?_of_tree?_string hnode, Node.text?_of_tree? hnode⟩

theorem Document.optional_uint64 (d : Document) {x : Option UInt64}
    (h : ShowsMaybe member (x.map Json.ofUInt64)) : d.optional Node.uint64? member = pure x :=
  d.optional_of_shown h fun _ _ hnode =>
    ⟨Node.isAbsent?_of_tree?_integer hnode, Node.uint64?_of_tree? hnode⟩

theorem Document.scalar_of_tree? (d : Document) {read : Node → Option α} {a : α}
    (h : node.tree? = some t) (hread : read node = some a) : d.scalar read node = pure a := by
  simp [Document.scalar, d.follow_of_tree? h, hread]

theorem Document.scalar_text (d : Document) (h : node.tree? = some (.string s)) :
    d.scalar Node.text? node = pure s :=
  d.scalar_of_tree? h (Node.text?_of_tree? h)

theorem Document.scalar_word (d : Document) {meaning : String → Option α} {a : α}
    (h : node.tree? = some (.string s)) (hs : meaning s = some a) :
    d.scalar (fun node => node.word?.bind meaning) node = pure a :=
  d.scalar_of_tree? h (by simp [Node.word?_of_tree? h, hs])

theorem listOfNodes_of_shown (d : Document) {read : Node → Read α} {write : α → Json} {f : α → α}
    {xs : List α} (h : node.tree? = some (Json.array (xs.map write)).oneNaN)
    (hread : ∀ x ∈ xs, (write x).depth < (Json.array (xs.map write)).depth →
      ∀ node, node.tree? = some (write x).oneNaN → read node = pure (f x)) :
    listOfNodes d read node = pure (xs.map f) := by
  have hread' : ∀ x ∈ xs, ∀ node, node.tree? = some (write x).oneNaN → read node = pure (f x) :=
    fun x hx => hread x hx (Json.Child.item (List.mem_map_of_mem hx)).depth_lt
  obtain ⟨nodes, hnodes, hrel⟩ := d.items_of_tree? h
  rw [listOfNodes, hnodes, pure_bind]
  rw [Json.mapRealsItems_eq_map, List.map_map] at hrel
  clear h hread hnodes
  induction xs generalizing nodes with
  | nil =>
    cases hrel
    rfl
  | cons x rest ih =>
    cases hrel with
    | cons hhead hrest =>
      rw [List.mapM_cons, hread' x (by simp) _ hhead,
        ih (fun y hy => hread' y (by simp [hy])) _ hrest]
      rfl

end

end GoldenCapture.Yaml
