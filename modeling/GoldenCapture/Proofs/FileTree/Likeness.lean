import GoldenCapture.Proofs.FileTree.Frame

/-!
# Trees that read alike

Two trees with the same folder, in which some names read alike. What is done to one of these names
ends alike in both trees and leaves them alike, whatever else the folder holds.
-/

namespace GoldenCapture

namespace FileTree

variable {t t' u u' : FileTree} {folder name text : String} {place : List String}
  {names : String → Prop}

/-! ## What an operation depends on -/

theorem StandsAt.write_cases (h : StandsAt t folder place) (hname : Plain name) (text : String) :
    (t.read (join folder name) = .error .blocked ∧
      t.write (join folder name) text = .error .blocked) ∨
    (t.read (join folder name) ≠ .error .blocked ∧
      ∃ u, t.write (join folder name) text = .ok u) := by
  rw [h.read_join hname, h.write_join hname]
  by_cases hfits : fits name = true
  · simp only [hfits, true_and]
    cases hnode : t.node? (place ++ [name]) with
    | none => exact .inr ⟨by simp, _, if_pos (by simp)⟩
    | some node =>
      cases node with
      | folder => exact .inl ⟨rfl, if_neg (by simp)⟩
      | file text => exact .inr ⟨by simp, _, if_pos (by simp)⟩
  · simp [hfits]

theorem StandsAt.remove_cases (h : StandsAt t folder place) (hname : Plain name) :
    (∃ fault, t.read (join folder name) = .error fault ∧
      t.remove (join folder name) = .error fault) ∨
    (∃ text u, t.read (join folder name) = .ok text ∧ t.remove (join folder name) = .ok u) := by
  rw [h.read_join hname, h.remove_join hname]
  by_cases hfits : fits name = true
  · simp only [if_pos hfits]
    cases t.node? (place ++ [name]) with
    | none => exact .inl ⟨_, rfl, rfl⟩
    | some node =>
      cases node with
      | folder => exact .inl ⟨_, rfl, rfl⟩
      | file text => exact .inr ⟨_, _, rfl, rfl⟩
  · simp only [if_neg hfits]
    exact .inl ⟨_, rfl, rfl⟩

/-! ## Two trees -/

/-- The folder stands in both trees, and these names read alike in it. -/
structure Alike (t t' : FileTree) (folder : String) (place : List String)
    (names : String → Prop) : Prop where
  plain : ∀ name, names name → Plain name
  left : t.StandsAt folder place
  right : t'.StandsAt folder place
  read : ∀ name, names name → t'.read (join folder name) = t.read (join folder name)

/-- One operation on two trees that were alike: it fails alike, or leaves them alike. -/
def AlikeResults (folder : String) (place : List String) (names : String → Prop)
    (result result' : Except FileFault FileTree) : Prop :=
  (∃ fault, result = .error fault ∧ result' = .error fault) ∨
    ∃ u u', result = .ok u ∧ result' = .ok u' ∧ Alike u u' folder place names

theorem Alike.of_stands (hplain : ∀ name, names name → Plain name)
    (h : t.StandsAt folder place) : Alike t t folder place names :=
  ⟨hplain, h, h, fun _ _ => rfl⟩

theorem Alike.changed (h : Alike t t' folder place names) {result : Except FileFault String}
    (hu : Changed t u folder place name result) (hu' : Changed t' u' folder place name result) :
    Alike u u' folder place names where
  plain := h.plain
  left := hu.stands
  right := hu'.stands
  read other hother := by
    by_cases hname : other = name
    · rw [hname, hu.read_name, hu'.read_name]
    · rw [hu.read_other other (h.plain other hother) hname,
        hu'.read_other other (h.plain other hother) hname]
      exact h.read other hother

theorem Alike.write (h : Alike t t' folder place names) (hname : names name) (text : String) :
    AlikeResults folder place names (t.write (join folder name) text)
      (t'.write (join folder name) text) := by
  have hplain := h.plain name hname
  have hread := h.read name hname
  rcases h.left.write_cases hplain text with ⟨hblocked, hwrite⟩ | ⟨hopen, u, hwrite⟩
  · rcases h.right.write_cases hplain text with ⟨-, hwrite'⟩ | ⟨hopen', -⟩
    · exact .inl ⟨_, hwrite, hwrite'⟩
    · rw [hread] at hopen'
      exact absurd hblocked hopen'
  · rcases h.right.write_cases hplain text with ⟨hblocked', -⟩ | ⟨-, u', hwrite'⟩
    · rw [hread] at hblocked'
      exact absurd hblocked' hopen
    · exact .inr ⟨u, u', hwrite, hwrite', h.changed (changed_of_write h.left hplain hwrite)
        (changed_of_write h.right hplain hwrite')⟩

theorem Alike.remove (h : Alike t t' folder place names) (hname : names name) :
    AlikeResults folder place names (t.remove (join folder name))
      (t'.remove (join folder name)) := by
  have hplain := h.plain name hname
  have hread := h.read name hname
  rcases h.left.remove_cases hplain with ⟨fault, hfault, hremove⟩ | ⟨text, u, htext, hremove⟩
  · rcases h.right.remove_cases hplain with ⟨fault', hfault', hremove'⟩ | ⟨text', -, htext', -⟩
    · have hfaults : fault' = fault := by
        rw [hfault', hfault] at hread
        injection hread
      rw [hfaults] at hremove'
      exact .inl ⟨fault, hremove, hremove'⟩
    · rw [htext', hfault] at hread
      contradiction
  · rcases h.right.remove_cases hplain with ⟨fault', hfault', -⟩ | ⟨text', u', -, hremove'⟩
    · rw [hfault', htext] at hread
      contradiction
    · exact .inr ⟨u, u', hremove, hremove', h.changed (changed_of_remove h.left hplain hremove)
        (changed_of_remove h.right hplain hremove')⟩

theorem Alike.rename (h : Alike t t' folder place names) {source target : String}
    (hsource : names source) (htarget : names target) :
    AlikeResults folder place names (t.rename (join folder source) (join folder target))
      (t'.rename (join folder source) (join folder target)) := by
  unfold FileTree.rename
  rw [h.read source hsource]
  cases t.read (join folder source) with
  | error fault => exact .inl ⟨fault, rfl, rfl⟩
  | ok text =>
    dsimp only
    rcases h.write htarget text with ⟨fault, hwrite, hwrite'⟩ | ⟨u, u', hwrite, hwrite', halike⟩
    · rw [hwrite, hwrite']
      exact .inl ⟨fault, rfl, rfl⟩
    · rw [hwrite, hwrite']
      exact halike.remove hsource

end FileTree

end GoldenCapture
