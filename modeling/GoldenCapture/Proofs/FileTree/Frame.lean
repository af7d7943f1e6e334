import GoldenCapture.Proofs.FileTree.Paths

/-!
# Files of one folder

What reading, writing, moving and removing files does to the files of a folder that is there. Each
operation reaches the names it is given and no other name, and the folder stays where it is.
-/

namespace GoldenCapture

namespace FileTree

variable {t t' : FileTree} {folder name other path text : String} {place : List String}

/-! ## Walks -/

theorem walk_append (t : FileTree) (location first second : List String) :
    t.walk location (first ++ second) =
      match t.walk location first with
      | .ok middle => t.walk middle second
      | .error fault => .error fault := by
  induction first generalizing location with
  | nil => rfl
  | cons part rest ih =>
    simp only [List.cons_append, walk]
    split
    · rfl
    · rfl
    · split
      · exact ih _
      · split
        · exact ih _
        · rfl

/-- Every folder of one tree is a folder of the other. -/
def FoldersStay (t t' : FileTree) : Prop :=
  ∀ location, t.node? location = some .folder → t'.node? location = some .folder

theorem walk_of_foldersStay (hstay : FoldersStay t t') {parts : List String} :
    ∀ {location}, t.walk location parts = .ok place → t'.walk location parts = .ok place := by
  induction parts with
  | nil => exact id
  | cons part rest ih =>
    intro location h
    rw [walk] at h ⊢
    cases hnode : t.node? location with
    | none =>
      rw [hnode] at h
      contradiction
    | some node =>
      rw [hnode] at h
      cases node with
      | file text => contradiction
      | folder =>
        rw [hstay location hnode]
        dsimp only at h ⊢
        split
        · rename_i habove
          rw [if_pos habove] at h
          exact ih h
        · rename_i habove
          rw [if_neg habove] at h
          split
          · rename_i hfits
            rw [if_pos hfits] at h
            exact ih h
          · rename_i hfits
            rw [if_neg hfits] at h
            contradiction

/-- The folder is there, at a place. -/
structure StandsAt (t : FileTree) (folder : String) (place : List String) : Prop where
  walk : t.walk [] (parts folder) = .ok place
  node : t.node? place = some .folder

theorem StandsAt.stay (h : StandsAt t folder place) (hstay : FoldersStay t t') :
    StandsAt t' folder place :=
  ⟨walk_of_foldersStay hstay h.walk, hstay place h.node⟩

theorem StandsAt.locate_join (h : StandsAt t folder place) (hname : Plain name) :
    t.locate (join folder name) =
      if fits name then .ok (place ++ [name]) else .error .blocked := by
  rw [locate, if_neg (hname.join_ne_empty folder), hname.parts_join, walk_append, h.walk]
  simp only [FileTree.walk, h.node, if_neg hname.ne_above]

/-! ## Nodes -/

theorem Plain.ne_top (h : Plain name) (place : List String) :
    ¬ (place ++ [name] = [] ∨ place ++ [name] = ["/"]) := by
  rintro (hnil | hslash)
  · simp at hnil
  · rw [← List.nil_append ["/"]] at hslash
    have hlast : [name] = ["/"] := List.append_inj_right' hslash rfl
    have hname : name = "/" := List.singleton_inj.mp hlast
    exact h.no_slash (by simp [hname])

theorem node?_insert {location : List String} (node : FileNode)
    (h : ¬ (location = [] ∨ location = ["/"])) (l : List String) :
    (⟨t.nodes.insert location node⟩ : FileTree).node? l =
      if l = location then some node else t.node? l := by
  unfold node?
  rw [Dictionary.get?_insert]
  by_cases hl : l = location
  · rw [if_pos hl, if_pos hl, hl, if_neg h]
  · rw [if_neg hl, if_neg hl]

theorem node?_erase {location : List String} (h : ¬ (location = [] ∨ location = ["/"]))
    (l : List String) :
    (⟨t.nodes.erase location⟩ : FileTree).node? l =
      if l = location then none else t.node? l := by
  unfold node?
  rw [Dictionary.get?_erase]
  by_cases hl : l = location
  · rw [if_pos hl, if_pos hl, hl, if_neg h]
  · rw [if_neg hl, if_neg hl]

/-! ## Reading what was written -/

theorem located_of_write (h : t.write path text = .ok t') :
    ∃ location, t.locate path = .ok location ∧ namesFolder path = false ∧
      t.node? location ≠ some .folder ∧
      t' = ⟨t.nodes.insert location (.file text)⟩ := by
  unfold write at h
  split at h
  · contradiction
  · rename_i location hlocate
    split at h
    · contradiction
    · rename_i hblocked
      simp only [Bool.or_eq_true, not_or, isFolder, beq_iff_eq] at hblocked
      cases h
      exact ⟨location, hlocate, by simpa using hblocked.1.1, hblocked.1.2, rfl⟩

theorem read_of_write (h : t.write path text = .ok t') : t'.read path = .ok text := by
  obtain ⟨location, hlocate, hfile, hnode, rfl⟩ := located_of_write h
  have htop : ¬ (location = [] ∨ location = ["/"]) := fun htop => hnode (if_pos htop)
  have hstay : FoldersStay t ⟨t.nodes.insert location (.file text)⟩ := by
    intro place hfolder
    rw [node?_insert _ htop, if_neg, hfolder]
    rintro rfl
    exact hnode hfolder
  have hlocate' : (⟨t.nodes.insert location (.file text)⟩ : FileTree).locate path =
      .ok location := by
    unfold locate at hlocate ⊢
    split
    · rename_i hempty
      rw [if_pos hempty] at hlocate
      contradiction
    · rename_i hnonempty
      rw [if_neg hnonempty] at hlocate
      exact walk_of_foldersStay hstay hlocate
  unfold read
  rw [hlocate']
  dsimp only
  rw [node?_insert _ htop, if_pos rfl]
  simp [hfile]

theorem exists_write (h : t.write path text = .ok t') (other : String) :
    ∃ t'', t.write path other = .ok t'' := by
  unfold write at h ⊢
  split at h
  · contradiction
  · split at h
    · contradiction
    · rename_i hblocked
      rw [if_neg hblocked]
      exact ⟨_, rfl⟩

/-! ## One operation on one name -/

section

variable (h : StandsAt t folder place) (hname : Plain name)

include h hname

theorem StandsAt.read_join :
    t.read (join folder name) =
      if fits name then
        match t.node? (place ++ [name]) with
        | none => .error .missing
        | some .folder => .error .blocked
        | some (.file text) => .ok text
      else .error .blocked := by
  rw [read, h.locate_join hname]
  by_cases hfits : fits name = true
  · cases hnode : t.node? (place ++ [name]) with
    | none => simp [hfits, hnode]
    | some node => cases node <;> simp [hfits, hnode, hname.namesFolder_join folder]
  · simp [hfits]

theorem StandsAt.write_join :
    t.write (join folder name) text =
      if fits name = true ∧ t.node? (place ++ [name]) ≠ some .folder then
        .ok ⟨t.nodes.insert (place ++ [name]) (.file text)⟩
      else .error .blocked := by
  rw [write, h.locate_join hname]
  by_cases hfits : fits name = true
  · simp only [if_pos hfits, hname.namesFolder_join folder, isFolder, List.dropLast_concat, h.node]
    by_cases hnode : t.node? (place ++ [name]) = some .folder
    · simp [hfits, hnode]
    · simp [hfits, hnode]
  · simp [hfits]

theorem StandsAt.remove_join :
    t.remove (join folder name) =
      if fits name then
        match t.node? (place ++ [name]) with
        | none => .error .missing
        | some .folder => .error .blocked
        | some (.file _) => .ok ⟨t.nodes.erase (place ++ [name])⟩
      else .error .blocked := by
  rw [remove, h.locate_join hname]
  by_cases hfits : fits name = true
  · cases hnode : t.node? (place ++ [name]) with
    | none => simp [hfits, hnode]
    | some node => cases node <;> simp [hfits, hnode]
  · simp [hfits]

end

/-! ## What an operation leaves -/

/-- The folder stays, `name` reads as `result` and any other name as before. -/
structure Changed (t t' : FileTree) (folder : String) (place : List String) (name : String)
    (result : Except FileFault String) : Prop where
  stands : StandsAt t' folder place
  read_name : t'.read (join folder name) = result
  read_other : ∀ other, Plain other → other ≠ name →
    t'.read (join folder other) = t.read (join folder other)

theorem read_join_congr (h : StandsAt t folder place) (h' : StandsAt t' folder place)
    (hname : Plain name) (hnode : t'.node? (place ++ [name]) = t.node? (place ++ [name])) :
    t'.read (join folder name) = t.read (join folder name) := by
  rw [h.read_join hname, h'.read_join hname, hnode]

theorem changed_of_write (h : StandsAt t folder place) (hname : Plain name)
    (hwrite : t.write (join folder name) text = .ok t') :
    Changed t t' folder place name (.ok text) := by
  rw [h.write_join hname] at hwrite
  split at hwrite
  · rename_i hok
    obtain ⟨hfits, hnode⟩ := hok
    cases hwrite
    have hstands : StandsAt ⟨t.nodes.insert (place ++ [name]) (.file text)⟩ folder place := by
      refine h.stay fun location hfolder => ?_
      rw [node?_insert _ (hname.ne_top place)]
      have hne : location ≠ place ++ [name] := by
        rintro rfl
        exact hnode hfolder
      rw [if_neg hne, hfolder]
    refine ⟨hstands, ?_, fun other hother hne => read_join_congr h hstands hother ?_⟩
    · rw [hstands.read_join hname, if_pos hfits, node?_insert _ (hname.ne_top place), if_pos rfl]
    · rw [node?_insert _ (hname.ne_top place), if_neg]
      intro heq
      exact hne (List.singleton_inj.mp (List.append_inj_right' heq rfl))
  · contradiction

theorem changed_of_remove (h : StandsAt t folder place) (hname : Plain name)
    (hremove : t.remove (join folder name) = .ok t') :
    Changed t t' folder place name (.error .missing) := by
  rw [h.remove_join hname] at hremove
  split at hremove
  · rename_i hfits
    split at hremove
    · contradiction
    · contradiction
    · rename_i text hnode
      cases hremove
      have hstands : StandsAt ⟨t.nodes.erase (place ++ [name])⟩ folder place := by
        refine h.stay fun location hfolder => ?_
        rw [node?_erase (hname.ne_top place)]
        have hne : location ≠ place ++ [name] := by
          rintro rfl
          rw [hnode] at hfolder
          cases hfolder
        rw [if_neg hne, hfolder]
      refine ⟨hstands, ?_, fun other hother hne => read_join_congr h hstands hother ?_⟩
      · rw [hstands.read_join hname, if_pos hfits, node?_erase (hname.ne_top place), if_pos rfl]
      · rw [node?_erase (hname.ne_top place), if_neg]
        intro heq
        exact hne (List.singleton_inj.mp (List.append_inj_right' heq rfl))
  · contradiction

theorem changed_of_rename {source target : String} (h : StandsAt t folder place)
    (hsource : Plain source) (htarget : Plain target) (hne : source ≠ target)
    (hrename : t.rename (join folder source) (join folder target) = .ok t') :
    ∃ text, t.read (join folder source) = .ok text ∧ StandsAt t' folder place ∧
      t'.read (join folder target) = .ok text ∧
      ∀ other, Plain other → other ≠ source → other ≠ target →
        t'.read (join folder other) = t.read (join folder other) := by
  rw [rename] at hrename
  split at hrename
  · contradiction
  · rename_i text hread
    split at hrename
    · contradiction
    · rename_i written hwrite
      have hw := changed_of_write h htarget hwrite
      have hr := changed_of_remove hw.stands hsource hrename
      refine ⟨text, hread, hr.stands, ?_, fun other hother hs ht => ?_⟩
      · rw [hr.read_other target htarget hne.symm, hw.read_name]
      · rw [hr.read_other other hother hs, hw.read_other other hother ht]

end FileTree

end GoldenCapture
