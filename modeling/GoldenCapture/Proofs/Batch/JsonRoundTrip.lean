import GoldenCapture.Proofs.Batch.Leaves

/-!
# Batches read back from their JSON trees

The tree that a batch is written as is read as the batch, node by node: a member that is left out
when it is missing is read as missing, and maps in key order stay in key order.
-/

namespace GoldenCapture

/-! ## Key order -/

namespace Value

theorem insertField_eq_cons {key : String} {v : Value} {fields : List (String × Value)}
    (h : ∀ field ∈ fields, key < field.1) : insertField key v fields = (key, v) :: fields := by
  cases fields with
  | nil => rfl
  | cons field rest => simp [insertField, h field (by simp)]

mutual

theorem ordered_eq_self : ∀ {v : Value}, v.Ordered → v.ordered = v
  | seq _, h => congrArg seq (orderedItems_eq_self h)
  | map _, h => congrArg map (orderedFields_eq_self h.1 h.2)
  | bool _, _ => rfl
  | int _, _ => rfl
  | uint _, _ => rfl
  | double _, _ => rfl
  | string _, _ => rfl
  | empty, _ => rfl

theorem orderedItems_eq_self : ∀ {items : List Value},
    OrderedItems items → orderedItems items = items
  | [], _ => rfl
  | _ :: _, h => by rw [orderedItems, ordered_eq_self h.1, orderedItems_eq_self h.2]

theorem orderedFields_eq_self : ∀ {fields : List (String × Value)},
    (fields.map Prod.fst).Pairwise (· < ·) → OrderedFields fields → orderedFields fields = fields
  | [], _, _ => rfl
  | (key, v) :: rest, hkeys, h => by
    have hrest : ∀ field ∈ rest, key < field.1 := by simpa using (List.pairwise_cons.1 hkeys).1
    have hnew : rest.any (fun field => field.1 == key) = false := by
      simp only [List.any_eq_false, beq_iff_eq]
      rintro field hfield rfl
      exact String.lt_irrefl _ (hrest field hfield)
    rw [orderedFields, orderedFields_eq_self (List.pairwise_cons.1 hkeys).2 h.2]
    simp [hnew, ordered_eq_self h.1, insertField_eq_cons hrest]

end

end Value

@[simp] theorem Attributes.ofFields_fields (a : Attributes) : ofFields a.fields = a :=
  Attributes.ext (Value.orderedFields_eq_self a.ordered.1 a.ordered.2)

theorem Point.ofValue_value (p : Point) :
    { Point.ofValue p.value with
      startTime := p.startTime, time := p.time, attributes := p.attributes } = p := by
  obtain ⟨value, hordered, _, _, _⟩ := p
  simp [Point.ofValue, Value.ordered_eq_self hordered]

/-! ## Values -/

namespace Value

mutual

theorem ofJson?_toJson : ∀ (v : Value) (room : Nat), v.Every IsAboveSigned →
    v.toJson.depth ≤ room → ofJson? room v.toJson = some v
  | int i, _, _, _ => by
    have hlt : i.toInt < Nat.pow 2 63 := i.toInt_lt
    simp only [toJson, ofJson?, ofInteger, if_pos hlt, Int64.ofInt_toInt]
  | uint u, _, h, _ => by
    have hle : ¬ (u.toNat : Int) < Nat.pow 2 63 := by
      simp only [Every, IsAboveSigned] at h
      simp only [Nat.pow_eq]
      omega
    simp only [toJson, ofJson?, ofInteger, if_neg hle, Int.toNat_natCast, UInt64.ofNat_toNat]
  | seq items, room, h, hdepth => by
    have hroom : room ≠ 0 := by
      simp only [toJson, Json.depth] at hdepth
      omega
    have hitems := itemsOfJson?_itemsToJson items (room - 1) h
      (by simp only [toJson, Json.depth] at hdepth; omega)
    simp [toJson, ofJson?, hroom, hitems]
  | map fields, room, h, hdepth => by
    have hroom : room ≠ 0 := by
      simp only [toJson, Json.depth] at hdepth
      omega
    have hfields := fieldsOfJson?_fieldsToJson fields (room - 1) h
      (by simp only [toJson, Json.depth] at hdepth; omega)
    simp [toJson, ofJson?, hroom, hfields]
  | bool _, _, _, _ => rfl
  | double _, _, _, _ => rfl
  | string _, _, _, _ => rfl
  | empty, _, _, _ => rfl

theorem itemsOfJson?_itemsToJson : ∀ (items : List Value) (room : Nat),
    EveryItem IsAboveSigned items → Json.itemsDepth (itemsToJson items) ≤ room →
      itemsOfJson? room (itemsToJson items) = some items
  | [], _, _, _ => rfl
  | v :: rest, room, h, hdepth => by
    obtain ⟨hv, hrest⟩ := Nat.max_le.1 hdepth
    simp [itemsToJson, itemsOfJson?, ofJson?_toJson v room h.1 hv,
      itemsOfJson?_itemsToJson rest room h.2 hrest]

theorem fieldsOfJson?_fieldsToJson : ∀ (fields : List (String × Value)) (room : Nat),
    EveryField IsAboveSigned fields → Json.membersDepth (fieldsToJson fields) ≤ room →
      fieldsOfJson? room (fieldsToJson fields) = some fields
  | [], _, _, _ => rfl
  | (key, v) :: rest, room, h, hdepth => by
    obtain ⟨hv, hrest⟩ := Nat.max_le.1 hdepth
    simp [fieldsToJson, fieldsOfJson?, ofJson?_toJson v room h.1 hv,
      fieldsOfJson?_fieldsToJson rest room h.2 hrest]

end

end Value

theorem Attributes.ofJson?_toJson (a : Attributes) (room : Nat)
    (h : a.Every Value.IsAboveSigned) (hdepth : a.toJson.depth ≤ room + 1) :
    ofJson? room a.toJson = some a := by
  have hfields := Value.fieldsOfJson?_fieldsToJson a.fields room h (Nat.le_of_succ_le_succ hdepth)
  simp [ofJson?, toJson, hfields]

/-! ## Members -/

section

variable {α : Type} {read : Json → Option α} {write : α → Json}

theorem Json.list?_map {xs : List α}
    (h : ∀ x ∈ xs, (write x).depth < (Json.array (xs.map write)).depth →
      read (write x) = some x) :
    Json.list? read (.array (xs.map write)) = some xs := by
  have hread : ∀ x ∈ xs, read (write x) = some x := fun x hx =>
    h x hx (Json.Child.item (List.mem_map_of_mem hx)).depth_lt
  clear h
  simp only [Json.list?, Json.items?, Option.bind_some]
  induction xs with
  | nil => rfl
  | cons x rest ih =>
    simp [hread x (by simp), ih fun y hy => hread y (by simp [hy])]

theorem Json.optional_map {x : Option α} (h : ∀ a, read (write a) = some a)
    (hwrite : ∀ a, write a ≠ .null) : Json.optional read (x.map write) = some x := by
  cases x with
  | none => rfl
  | some a =>
    unfold Json.optional
    simp [h, hwrite]

end

theorem Json.optional_uint64 (n : Option UInt64) :
    Json.optional Json.uint64? (n.map Json.ofUInt64) = some n := by
  refine Json.optional_map (fun n => ?_) (by simp [Json.ofUInt64])
  have hlt := n.toNat_lt
  simp [Json.ofUInt64, Json.uint64?, UInt64.size]
  omega

theorem Json.optional_string (s : Option String) :
    Json.optional Json.string? (s.map Json.string) = some s :=
  Json.optional_map (fun _ => rfl) (by simp)

theorem Signal.ofName?_name (s : Signal) : ofName? s.name = some s := by
  cases s <;> rfl

theorem EntryKind.ofName?_name (k : EntryKind) : ofName? k.name = some k := by
  cases k <;> rfl

/-! ## Nodes -/

theorem Point.record?_toJson (p : Point) :
    p.toJson.record? ["value", "start_time_unix_nano", "time_unix_nano", "attributes"] =
      some [some p.value.toJson, p.startTime.map Json.ofUInt64, p.time.map Json.ofUInt64,
        some p.attributes.toJson] := by
  cases hstart : p.startTime <;> cases htime : p.time <;>
    simp [Point.toJson, Json.record?, Json.optionalMember, hstart, htime]

theorem Entry.record?_toJson (e : Entry) :
    e.toJson.record? ["name", "kind", "unit", "attributes", "points"] =
      some [some (.string e.name), some (.string e.kind.name), e.unit.map Json.string,
        some e.attributes.toJson, some (.array (e.points.map Point.toJson))] := by
  cases hunit : e.unit <;> simp [Entry.toJson, Json.record?, Json.optionalMember, hunit]

theorem Scope.record?_toJson (s : Scope) :
    s.toJson.record? ["name", "version", "attributes", "entries"] =
      some [some (.string s.name), s.version.map Json.string, some s.attributes.toJson,
        some (.array (s.entries.map Entry.toJson))] := by
  cases hversion : s.version <;> simp [Scope.toJson, Json.record?, Json.optionalMember, hversion]

theorem Resource.record?_toJson (r : Resource) :
    r.toJson.record? ["attributes", "scopes"] =
      some [some r.attributes.toJson, some (.array (r.scopes.map Scope.toJson))] := by
  simp [Resource.toJson, Json.record?]

theorem Batch.record?_toJson (b : Batch) :
    b.toJson.record? ["signal", "resources"] =
      some [some (.string b.signal.name), some (.array (b.resources.map Resource.toJson))] := by
  simp [Batch.toJson, Json.record?]

/-! ### Depths -/

theorem Point.depth_lt_toJson (p : Point) : p.value.toJson.depth < p.toJson.depth ∧
    p.attributes.toJson.depth < p.toJson.depth :=
  ⟨(Json.child_of_record? p.record?_toJson (by simp)).depth_lt,
    (Json.child_of_record? p.record?_toJson (by simp)).depth_lt⟩

theorem Entry.depth_lt_toJson (e : Entry) : e.attributes.toJson.depth < e.toJson.depth ∧
    (Json.array (e.points.map Point.toJson)).depth < e.toJson.depth :=
  ⟨(Json.child_of_record? e.record?_toJson (by simp)).depth_lt,
    (Json.child_of_record? e.record?_toJson (by simp)).depth_lt⟩

theorem Scope.depth_lt_toJson (s : Scope) : s.attributes.toJson.depth < s.toJson.depth ∧
    (Json.array (s.entries.map Entry.toJson)).depth < s.toJson.depth :=
  ⟨(Json.child_of_record? s.record?_toJson (by simp)).depth_lt,
    (Json.child_of_record? s.record?_toJson (by simp)).depth_lt⟩

theorem Resource.depth_lt_toJson (r : Resource) : r.attributes.toJson.depth < r.toJson.depth ∧
    (Json.array (r.scopes.map Scope.toJson)).depth < r.toJson.depth :=
  ⟨(Json.child_of_record? r.record?_toJson (by simp)).depth_lt,
    (Json.child_of_record? r.record?_toJson (by simp)).depth_lt⟩

theorem Batch.depth_lt_toJson (b : Batch) :
    (Json.array (b.resources.map Resource.toJson)).depth < b.toJson.depth :=
  (Json.child_of_record? b.record?_toJson (by simp)).depth_lt

/-! ### Reading back -/

theorem Point.ofJson?_toJson (p : Point) (room : Nat) (h : p.Every Value.IsAboveSigned)
    (hdepth : p.toJson.depth ≤ room + 1) : ofJson? room p.toJson = some p := by
  obtain ⟨hv, ha⟩ := p.depth_lt_toJson
  have hvalue := p.value.ofJson?_toJson room h.1 (by omega)
  have hattributes := p.attributes.ofJson?_toJson (room - 1) h.2 (by omega)
  simp only [ofJson?, p.record?_toJson, Option.bind_eq_bind, Option.bind_some, Json.withDefault,
    hvalue, hattributes, Json.optional_uint64, Option.pure_def, p.ofValue_value]

theorem Entry.ofJson?_toJson (e : Entry) (room : Nat) (h : e.Every Value.IsAboveSigned)
    (hdepth : e.toJson.depth ≤ room + 1) : ofJson? room e.toJson = some e := by
  -- The list and each node in it take one level each, hence `room - 2` for what the node holds.
  obtain ⟨ha, hp⟩ := e.depth_lt_toJson
  have hattributes := e.attributes.ofJson?_toJson (room - 1) h.1 (by omega)
  have hpoints : Json.list? (Point.ofJson? (room - 2)) (.array (e.points.map Point.toJson)) =
      some e.points :=
    Json.list?_map fun p hmem hlt => p.ofJson?_toJson (room - 2) (h.2 p hmem) (by omega)
  simp only [ofJson?, e.record?_toJson, Option.bind_eq_bind, Option.bind_some, Json.string?,
    EntryKind.ofJson?, Json.word?, e.kind.ofName?_name, Json.optional_string, Json.withDefault,
    hattributes, hpoints, Option.pure_def]

theorem Scope.ofJson?_toJson (s : Scope) (room : Nat) (h : s.Every Value.IsAboveSigned)
    (hdepth : s.toJson.depth ≤ room + 1) : ofJson? room s.toJson = some s := by
  obtain ⟨ha, he⟩ := s.depth_lt_toJson
  have hattributes := s.attributes.ofJson?_toJson (room - 1) h.1 (by omega)
  have hentries : Json.list? (Entry.ofJson? (room - 2)) (.array (s.entries.map Entry.toJson)) =
      some s.entries :=
    Json.list?_map fun e hmem hlt => e.ofJson?_toJson (room - 2) (h.2 e hmem) (by omega)
  simp only [ofJson?, s.record?_toJson, Option.bind_eq_bind, Option.bind_some, Json.string?,
    Json.optional_string, Json.withDefault, hattributes, hentries, Option.pure_def]

theorem Resource.ofJson?_toJson (r : Resource) (room : Nat) (h : r.Every Value.IsAboveSigned)
    (hdepth : r.toJson.depth ≤ room + 1) : ofJson? room r.toJson = some r := by
  obtain ⟨ha, hs⟩ := r.depth_lt_toJson
  have hattributes := r.attributes.ofJson?_toJson (room - 1) h.1 (by omega)
  have hscopes : Json.list? (Scope.ofJson? (room - 2)) (.array (r.scopes.map Scope.toJson)) =
      some r.scopes :=
    Json.list?_map fun s hmem hlt => s.ofJson?_toJson (room - 2) (h.2 s hmem) (by omega)
  simp only [ofJson?, r.record?_toJson, Option.bind_eq_bind, Option.bind_some, Json.withDefault,
    hattributes, hscopes, Option.pure_def]

theorem Batch.ofJson?_toJson {b : Batch} (h : b.Every Value.IsAboveSigned)
    (hdepth : b.toJson.depth ≤ Json.depthLimit) : ofJson? b.toJson = some b := by
  have hr := b.depth_lt_toJson
  have hresources : Json.list? (Resource.ofJson? (Json.depthLimit - 3))
      (.array (b.resources.map Resource.toJson)) = some b.resources :=
    Json.list?_map fun r hmem hlt => r.ofJson?_toJson (Json.depthLimit - 3) (h r hmem)
      (by simp only [Json.depthLimit] at hdepth ⊢; omega)
  simp only [ofJson?, b.record?_toJson, Option.bind_eq_bind, Option.bind_some,
    Signal.ofJson?, Json.word?, b.signal.ofName?_name, Json.withDefault, hresources,
    Option.pure_def]

/-! ## Trees that JSON can hold -/

namespace Value

mutual

theorem bounded_toJson : ∀ {v : Value}, v.Every IsFiniteNumber → v.toJson.Bounded
  | int i, _ => ⟨i.le_toInt, Int.lt_trans i.toInt_lt (by decide)⟩
  | uint u, _ => by
    have := u.toNat_lt
    simp only [toJson, Json.Bounded]
    omega
  | double _, h => h
  | seq items, h => boundedItems_itemsToJson (show EveryItem IsFiniteNumber items from h)
  | map fields, h => boundedMembers_fieldsToJson (show EveryField IsFiniteNumber fields from h)
  | bool _, _ => trivial
  | string _, _ => trivial
  | empty, _ => trivial

theorem boundedItems_itemsToJson : ∀ {items : List Value},
    EveryItem IsFiniteNumber items → Json.BoundedItems (itemsToJson items)
  | [], _ => trivial
  | _ :: _, h => ⟨bounded_toJson h.1, boundedItems_itemsToJson h.2⟩

theorem boundedMembers_fieldsToJson : ∀ {fields : List (String × Value)},
    EveryField IsFiniteNumber fields → Json.BoundedMembers (fieldsToJson fields)
  | [], _ => trivial
  | _ :: _, h => ⟨bounded_toJson h.1, boundedMembers_fieldsToJson h.2⟩

end

end Value

theorem Attributes.bounded_toJson {a : Attributes} (h : a.Every Value.IsFiniteNumber) :
    a.toJson.Bounded :=
  Value.boundedMembers_fieldsToJson h

theorem Json.bounded_map {α : Type} {write : α → Json} {xs : List α}
    (h : ∀ x ∈ xs, (write x).Bounded) : (Json.array (xs.map write)).Bounded := by
  refine boundedItems_iff.2 fun t ht => ?_
  obtain ⟨x, hx, rfl⟩ := List.mem_map.1 ht
  exact h x hx

theorem Json.bounded_string (s : String) : (Json.string s).Bounded := trivial

theorem Json.bounded_ofUInt64 (n : UInt64) : (Json.ofUInt64 n).Bounded := by
  have := n.toNat_lt
  simp only [Json.ofUInt64, Json.Bounded]
  omega

theorem Json.boundedMembers_append {as bs : List (String × Json)} (ha : BoundedMembers as)
    (hb : BoundedMembers bs) : BoundedMembers (as ++ bs) :=
  boundedMembers_iff.2 fun m hm => (List.mem_append.1 hm).elim
    (boundedMembers_iff.1 ha m) (boundedMembers_iff.1 hb m)

theorem Json.boundedMembers_optionalMember {α : Type} {key : String} {write : α → Json}
    (h : ∀ x, (write x).Bounded) (x : Option α) : BoundedMembers (optionalMember key write x) := by
  cases x with
  | none => trivial
  | some x => exact ⟨h x, trivial⟩

theorem Point.bounded_toJson {p : Point} (h : p.Every Value.IsFiniteNumber) :
    p.toJson.Bounded := by
  refine Json.boundedMembers_append
    (Json.boundedMembers_append (Json.boundedMembers_append ?_ ?_) ?_) ?_
  · exact ⟨Value.bounded_toJson h.1, trivial⟩
  · exact Json.boundedMembers_optionalMember Json.bounded_ofUInt64 _
  · exact Json.boundedMembers_optionalMember Json.bounded_ofUInt64 _
  · exact ⟨Attributes.bounded_toJson h.2, trivial⟩

theorem Entry.bounded_toJson {e : Entry} (h : e.Every Value.IsFiniteNumber) :
    e.toJson.Bounded := by
  refine Json.boundedMembers_append (Json.boundedMembers_append ?_ ?_) ?_
  · exact ⟨trivial, trivial, trivial⟩
  · exact Json.boundedMembers_optionalMember Json.bounded_string _
  · exact ⟨Attributes.bounded_toJson h.1,
      Json.bounded_map fun p hp => Point.bounded_toJson (h.2 p hp), trivial⟩

theorem Scope.bounded_toJson {s : Scope} (h : s.Every Value.IsFiniteNumber) :
    s.toJson.Bounded := by
  refine Json.boundedMembers_append (Json.boundedMembers_append ?_ ?_) ?_
  · exact ⟨trivial, trivial⟩
  · exact Json.boundedMembers_optionalMember Json.bounded_string _
  · exact ⟨Attributes.bounded_toJson h.1,
      Json.bounded_map fun e he => Entry.bounded_toJson (h.2 e he), trivial⟩

theorem Resource.bounded_toJson {r : Resource} (h : r.Every Value.IsFiniteNumber) :
    r.toJson.Bounded :=
  ⟨Attributes.bounded_toJson h.1,
    Json.bounded_map fun s hs => Scope.bounded_toJson (h.2 s hs), trivial⟩

theorem Batch.bounded_toJson {b : Batch} (h : b.Every Value.IsFiniteNumber) : b.toJson.Bounded :=
  ⟨trivial, Json.bounded_map fun r hr => Resource.bounded_toJson (h r hr), trivial⟩

end GoldenCapture
