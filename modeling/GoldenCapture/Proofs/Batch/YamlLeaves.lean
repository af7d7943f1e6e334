import GoldenCapture.Batch.Yaml
import GoldenCapture.Proofs.Batch.Leaves

/-!
# What stands in a batch that a golden file holds

Here too an unsigned integer is read only where a signed one would be too small. Nothing has to be
known about the document: the integers of its scalars are checked when they become values.
-/

namespace GoldenCapture

/-! ## Readers -/

namespace Yaml

variable {α β : Type} {x : Read α} {f : α → Read β} {P : α → Prop} {Q : β → Prop}

/-- Whatever is read passes. -/
def Yields (x : Read α) (Q : α → Prop) : Prop := ∀ s a s', x.run s = some (a, s') → Q a

theorem yields_pure {a : α} (h : P a) : Yields (pure a) P := by
  intro s a' s' ha
  cases ha
  exact h

theorem yields_failure : Yields (failure : Read α) P := by
  intro s a s' ha
  cases ha

theorem Yields.bind (hx : Yields x P) (hf : ∀ a, P a → Yields (f a) Q) : Yields (x >>= f) Q := by
  intro s b s' hb
  rw [StateT.run_bind] at hb
  obtain ⟨⟨a, s₁⟩, ha, hb⟩ := Option.bind_eq_some_iff.1 hb
  exact hf a (hx s a s₁ ha) s₁ b s' hb

theorem yields_bind (hf : ∀ a, Yields (f a) Q) : Yields (x >>= f) Q :=
  Yields.bind (P := fun _ => True) (fun _ _ _ _ => trivial) fun a _ => hf a

theorem yields_mapM {l : List α} (hf : ∀ a, Yields (f a) Q) :
    Yields (l.mapM f) fun bs => ∀ b ∈ bs, Q b := by
  induction l with
  | nil => exact yields_pure (by simp)
  | cons a rest ih =>
    rw [List.mapM_cons]
    exact (hf a).bind fun b hb => ih.bind fun bs hbs =>
      yields_pure (List.forall_mem_cons.2 ⟨hb, hbs⟩)

theorem yields_withDefault {default : α} {read : Node → Read α} (hdefault : P default)
    (h : ∀ node, Yields (read node) P) (member : Option Node) :
    Yields (Document.withDefault default read member) P := by
  cases member with
  | none => exact yields_pure hdefault
  | some node => exact h node

theorem yields_list {d : Document} {read : Node → Read α} (h : ∀ node, Yields (read node) P)
    (node : Node) : Yields (listOfNodes d read node) fun l => ∀ a ∈ l, P a :=
  yields_bind fun _ => yields_mapM h

end Yaml

open Yaml

/-! ## Values -/

namespace Value

theorem isAboveSigned_of_ofYamlInteger? {n : Int} {v : Value} (h : ofYamlInteger? n = some v) :
    v.Every IsAboveSigned := by
  unfold ofYamlInteger? at h
  split at h
  · rename_i hrange
    cases h
    exact every_ofInteger (isAboveSigned_ofInteger hrange.2)
  · cases h

theorem isAboveSigned_of_ofPlain? {x : Plain} {v : Value} (h : ofPlain? x = some v) :
    v.Every IsAboveSigned := by
  cases x with
  | integer n => exact isAboveSigned_of_ofYamlInteger? h
  | null => cases h; trivial
  | bool b => cases h; trivial
  | float d => cases h; trivial
  | string s => cases h; trivial

theorem isAboveSigned_of_ofScalar? {text : String} {style : ScalarStyle} {tag : Option String}
    {v : Value} (h : ofScalar? text style tag = some v) : v.Every IsAboveSigned := by
  unfold ofScalar? at h
  split at h
  · split at h
    · exact isAboveSigned_of_ofPlain? h
    · cases h
      trivial
  · obtain ⟨_, _, rfl⟩ := Option.map_eq_some_iff.1 h
    trivial
  · obtain ⟨_, _, h⟩ := Option.bind_eq_some_iff.1 h
    exact isAboveSigned_of_ofYamlInteger? h
  · obtain ⟨_, _, rfl⟩ := Option.map_eq_some_iff.1 h
    trivial
  · split at h
    · cases h
      trivial
    · cases h
  · split at h
    · cases h
    · cases h
      trivial

theorem yields_ofNode (d : Document) (room : Nat) (node : Node) :
    Yields (ofNode d room node) (Every IsAboveSigned) := by
  induction room using Nat.strongRecOn generalizing node with
  | _ room ih =>
    rw [ofNode]
    refine yields_bind fun node => ?_
    cases node with
    | scalar text style tag =>
      dsimp only
      split
      · rename_i h
        exact yields_pure (isAboveSigned_of_ofScalar? h)
      · exact yields_failure
    | sequence items tag =>
      cases room with
      | zero => exact yields_failure
      | succ room =>
        dsimp only
        split
        · exact yields_failure
        · refine (yields_mapM (ih room (Nat.lt_succ_self _))).bind fun vs hvs => ?_
          exact yields_pure (everyItem_iff.2 hvs)
    | mapping pairs tag =>
      cases room with
      | zero => exact yields_failure
      | succ room =>
        dsimp only
        split
        · exact yields_failure
        · refine (yields_mapM fun pair => ?_).bind fun fields hfields =>
            yields_pure (everyField_iff.2 hfields)
          refine yields_bind fun key => ?_
          split
          · exact (ih room (Nat.lt_succ_self _) pair.2).bind fun v hv => yields_pure hv
          · exact yields_failure
    | _ => exact yields_failure

end Value

/-! ## Nodes -/

theorem Attributes.yields_ofNode (d : Document) (room : Nat) (node : Node) :
    Yields (ofNode d room node) (Every Value.IsAboveSigned) := by
  refine yields_bind fun pairs => ?_
  have hpair (pair : String × Node) : Yields (do return (pair.1, ← Value.ofNode d room pair.2))
      fun field : String × Value => field.2.Every Value.IsAboveSigned :=
    (Value.yields_ofNode d room pair.2).bind fun v hv => yields_pure hv
  refine (yields_mapM hpair).bind fun fields hfields => ?_
  exact yields_pure (every_ofFields (Value.everyField_iff.2 hfields))

theorem Point.yields_ofNode (d : Document) (room : Nat) (node : Node) :
    Yields (ofNode d room node) (Every Value.IsAboveSigned) := by
  refine yields_bind fun members => ?_
  split
  · have hempty : Value.Every Value.IsAboveSigned .empty := trivial
    refine (yields_withDefault hempty (Value.yields_ofNode d room) _).bind
      fun v hv => yields_bind fun startTime => yields_bind fun time => ?_
    exact (yields_withDefault Attributes.every_nil (Attributes.yields_ofNode d _) _).bind
      fun attributes hattributes => yields_pure ⟨Value.every_ordered hv, hattributes⟩
  · exact yields_failure

theorem Entry.yields_ofNode (d : Document) (room : Nat) (node : Node) :
    Yields (ofNode d room node) (Every Value.IsAboveSigned) := by
  refine yields_bind fun members => ?_
  split
  · refine yields_bind fun kind => yields_bind fun name => yields_bind fun unit => ?_
    refine (yields_withDefault Attributes.every_nil (Attributes.yields_ofNode d _) _).bind
      fun attributes hattributes => ?_
    exact (yields_withDefault (by simp) (yields_list (Point.yields_ofNode d _)) _).bind
      fun points hpoints => yields_pure ⟨hattributes, hpoints⟩
  · exact yields_failure

theorem Scope.yields_ofNode (d : Document) (room : Nat) (node : Node) :
    Yields (ofNode d room node) (Every Value.IsAboveSigned) := by
  refine yields_bind fun members => ?_
  split
  · refine yields_bind fun name => yields_bind fun version => ?_
    refine (yields_withDefault Attributes.every_nil (Attributes.yields_ofNode d _) _).bind
      fun attributes hattributes => ?_
    exact (yields_withDefault (by simp) (yields_list (Entry.yields_ofNode d _)) _).bind
      fun entries hentries => yields_pure ⟨hattributes, hentries⟩
  · exact yields_failure

theorem Resource.yields_ofNode (d : Document) (room : Nat) (node : Node) :
    Yields (ofNode d room node) (Every Value.IsAboveSigned) := by
  refine yields_bind fun members => ?_
  split
  · refine (yields_withDefault Attributes.every_nil (Attributes.yields_ofNode d _) _).bind
      fun attributes hattributes => ?_
    exact (yields_withDefault (by simp) (yields_list (Scope.yields_ofNode d _)) _).bind
      fun scopes hscopes => yields_pure ⟨hattributes, hscopes⟩
  · exact yields_failure

theorem Batch.yields_ofNode (d : Document) (node : Node) :
    Yields (ofNode d node) (Every Value.IsAboveSigned) := by
  refine yields_bind fun members => ?_
  split
  · refine yields_bind fun signal => ?_
    exact (yields_withDefault (by simp) (yields_list (Resource.yields_ofNode d _)) _).bind
      fun resources hresources => yields_pure hresources
  · exact yields_failure

theorem Batch.isAboveSigned_of_ofYaml? {text : String} {b : Batch}
    (h : Batch.ofYaml? text = some b) : b.Every Value.IsAboveSigned := by
  simp only [ofYaml?, Option.bind_eq_bind, Option.bind_eq_some_iff, Prod.exists] at h
  obtain ⟨d, _, root, _, batch, left, hread, h⟩ := h
  cases h
  exact yields_ofNode d root _ _ _ hread

end GoldenCapture
