import GoldenCapture.Proofs.FileTree.Frame

/-!
# Places of files

A path that leads anywhere leads to one place, whatever stands in the tree. An operation changes
the text at the places of the paths that it is given, and making folders changes no text at all.
-/

namespace GoldenCapture

namespace FileTree

variable {t t' : FileTree} {path text : String} {location l : List String}

/-! ## Places -/

/-- Where some parts lead from a location, if they lead anywhere. -/
def descend (location parts : List String) : List String :=
  parts.foldl (fun l part => if part = ".." then l.dropLast else l ++ [part]) location

/-- Where a path leads, if it leads anywhere. -/
def locationOf (path : String) : List String := descend [] (parts path)

theorem eq_descend_of_walk {parts : List String} :
    ∀ {location}, t.walk location parts = .ok l → l = descend location parts := by
  induction parts with
  | nil =>
    intro location h
    cases h
    rfl
  | cons part rest ih =>
    intro location h
    rw [walk] at h
    rw [descend, List.foldl_cons]
    split at h
    · contradiction
    · contradiction
    · split at h
      · rename_i hup
        rw [if_pos hup]
        exact ih h
      · rename_i hup
        rw [if_neg hup]
        split at h
        · exact ih h
        · contradiction

theorem eq_locationOf_of_locate (h : t.locate path = .ok l) : l = locationOf path := by
  unfold locate at h
  split at h
  · contradiction
  · exact eq_descend_of_walk h

/-! ## Texts -/

theorem fileAt?_insert (node : FileNode) :
    (⟨t.nodes.insert location node⟩ : FileTree).fileAt? l =
      if l = location then (match node with | .file text => some text | .folder => none)
      else t.fileAt? l := by
  unfold fileAt?
  rw [Dictionary.get?_insert]
  by_cases hl : l = location
  · rw [if_pos hl, if_pos hl]
    cases node <;> rfl
  · rw [if_neg hl, if_neg hl]

theorem fileAt?_erase :
    (⟨t.nodes.erase location⟩ : FileTree).fileAt? l =
      if l = location then none else t.fileAt? l := by
  unfold fileAt?
  rw [Dictionary.get?_erase]
  by_cases hl : l = location
  · rw [if_pos hl, if_pos hl]
  · rw [if_neg hl, if_neg hl]

theorem fileAt?_of_write (h : t.write path text = .ok t') (l : List String) :
    t'.fileAt? l = if l = locationOf path then some text else t.fileAt? l := by
  obtain ⟨location, hlocate, -, -, rfl⟩ := located_of_write h
  rw [fileAt?_insert, eq_locationOf_of_locate hlocate]

theorem fileAt?_of_remove (h : t.remove path = .ok t') (hl : l ≠ locationOf path) :
    t'.fileAt? l = t.fileAt? l := by
  unfold remove at h
  split at h
  · contradiction
  · rename_i location hlocate
    split at h
    · contradiction
    · contradiction
    · cases h
      rw [fileAt?_erase, if_neg]
      rwa [eq_locationOf_of_locate hlocate]

theorem fileAt?_of_rename {source target : String} (h : t.rename source target = .ok t')
    (hsource : l ≠ locationOf source) (htarget : l ≠ locationOf target) :
    t'.fileAt? l = t.fileAt? l := by
  unfold rename at h
  split at h
  · contradiction
  · split at h
    · contradiction
    · rename_i written hwrite
      rw [fileAt?_of_remove h hsource, fileAt?_of_write hwrite, if_neg htarget]

theorem fileAt?_of_makeFolders {parts : List String} :
    ∀ {t : FileTree} {location : List String}, t.makeFolders location parts = .ok t' →
      t'.fileAt? l = t.fileAt? l := by
  induction parts with
  | nil =>
    intro t location h
    cases h
    rfl
  | cons part rest ih =>
    intro t location h
    rw [makeFolders] at h
    split at h
    · exact ih h
    · split at h
      · dsimp only at h
        split at h
        · exact ih h
        · contradiction
        · rename_i hnone
          rw [ih h, fileAt?_insert]
          split
          · rename_i hl
            unfold node? at hnone
            split at hnone
            · contradiction
            · rw [fileAt?, hl, hnone]
          · rfl
      · contradiction

end FileTree

end GoldenCapture
