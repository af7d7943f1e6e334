import GoldenCapture.Proofs.FileTree.Frame

/-!
# Making folders

A folder that was made is there, and making one that is there changes nothing.
-/

namespace GoldenCapture

namespace FileTree

variable {t t' : FileTree} {folder : String} {place : List String}

theorem FoldersStay.trans {t'' : FileTree} (h : FoldersStay t t') (h' : FoldersStay t' t'') :
    FoldersStay t t'' :=
  fun location hfolder => h' location (h location hfolder)

theorem node?_of_walk {location parts : List String} (h : t.walk location parts = .ok place)
    (hplace : t.node? place = some .folder) : t.node? location = some .folder := by
  cases parts with
  | nil =>
    cases h
    exact hplace
  | cons part rest =>
    rw [walk] at h
    split at h
    · contradiction
    · contradiction
    · assumption

theorem makeFolders_of_walk (hplace : t.node? place = some .folder) {parts : List String} :
    ∀ {location}, t.walk location parts = .ok place → t.makeFolders location parts = .ok t := by
  induction parts with
  | nil =>
    intro location _
    rfl
  | cons part rest ih =>
    intro location h
    have hfolder := node?_of_walk h hplace
    rw [walk, hfolder] at h
    rw [makeFolders]
    dsimp only at h ⊢
    by_cases habove : part = ".."
    · rw [if_pos habove] at h ⊢
      exact ih h
    · rw [if_neg habove] at h ⊢
      by_cases hfits : fits part = true
      · rw [if_pos hfits] at h ⊢
        rw [node?_of_walk h hplace]
        exact ih h
      · rw [if_neg hfits] at h
        contradiction

theorem StandsAt.makeFolder_eq (h : StandsAt t folder place) : t.makeFolder folder = .ok t :=
  makeFolders_of_walk h.node h.walk

theorem foldersStay_insert {location : List String} (h : t.node? location = none) :
    FoldersStay t ⟨t.nodes.insert location .folder⟩ := by
  have htop : ¬ (location = [] ∨ location = ["/"]) := by
    intro htop
    rw [node?, if_pos htop] at h
    contradiction
  intro l hfolder
  rw [node?_insert _ htop]
  split
  · rfl
  · exact hfolder

theorem walk_of_makeFolders {parts : List String} :
    ∀ {t : FileTree} {location : List String},
      (∀ above, above <+: location → t.node? above = some .folder) →
      t.makeFolders location parts = .ok t' →
      FoldersStay t t' ∧ ∃ place, t'.walk location parts = .ok place ∧
        t'.node? place = some .folder := by
  -- The induction is on the parts, with all folders above the present one at hand.
  induction parts with
  | nil =>
    intro t location habove h
    cases h
    exact ⟨fun _ hfolder => hfolder, location, rfl, habove location (List.prefix_refl location)⟩
  | cons part rest ih =>
    intro t location habove h
    have hlocation := habove location (List.prefix_refl location)
    rw [makeFolders] at h
    by_cases hup : part = ".."
    · rw [if_pos hup] at h
      obtain ⟨hstay, place, hwalk, hplace⟩ := ih
        (fun above hstart => habove above (hstart.trans (List.dropLast_prefix location))) h
      refine ⟨hstay, place, ?_, hplace⟩
      rw [walk, hstay location hlocation]
      dsimp only
      rw [if_pos hup]
      exact hwalk
    · rw [if_neg hup] at h
      by_cases hfits : fits part = true
      · rw [if_pos hfits] at h
        -- However the next folder comes to be there, the rest is made from it.
        have hnext : ∀ {made : FileTree}, FoldersStay t made →
            made.node? (location ++ [part]) = some .folder →
            made.makeFolders (location ++ [part]) rest = .ok t' →
            FoldersStay t t' ∧ ∃ place, t'.walk location (part :: rest) = .ok place ∧
              t'.node? place = some .folder := by
          intro made hmade hnode hrest
          have habove' : ∀ above, above <+: location ++ [part] →
              made.node? above = some .folder := by
            intro above hstart
            rcases List.prefix_concat_iff.mp hstart with rfl | hstart
            · exact hnode
            · exact hmade above (habove above hstart)
          obtain ⟨hstay, place, hwalk, hplace⟩ := ih habove' hrest
          refine ⟨hmade.trans hstay, place, ?_, hplace⟩
          rw [walk, hmade.trans hstay location hlocation]
          dsimp only
          rw [if_neg hup, if_pos hfits]
          exact hwalk
        dsimp only at h
        split at h
        · rename_i hnode
          exact hnext (fun _ hfolder => hfolder) hnode h
        · contradiction
        · rename_i hnode
          have htop : ¬ (location ++ [part] = [] ∨ location ++ [part] = ["/"]) := by
            intro htop
            rw [node?, if_pos htop] at hnode
            contradiction
          refine hnext (foldersStay_insert hnode) ?_ h
          rw [node?_insert _ htop, if_pos rfl]
      · rw [if_neg hfits] at h
        contradiction

theorem standsAt_of_makeFolder (h : t.makeFolder folder = .ok t') :
    ∃ place, StandsAt t' folder place := by
  have htop : ∀ above, above <+: [] → t.node? above = some .folder := by
    intro above hstart
    rw [List.prefix_nil.mp hstart]
    rfl
  obtain ⟨-, place, hwalk, hplace⟩ := walk_of_makeFolders htop h
  exact ⟨place, hwalk, hplace⟩

end FileTree

end GoldenCapture
