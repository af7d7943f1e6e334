import GoldenCapture.FileTree

/-!
# Paths of names under a folder

A name under a folder adds one part to the parts of the folder, whether or not the folder is
written with a slash at its end.
-/

namespace GoldenCapture

namespace FileTree

/-- A name of one part that stands for itself. -/
structure Plain (name : String) : Prop where
  no_slash : '/' ∉ name.toList
  ne_empty : name ≠ ""
  ne_here : name ≠ "."
  ne_above : name ≠ ".."

variable {folder name other : String}

/-! ## Pieces -/

theorem pieces_of_no_slash (h : '/' ∉ name.toList) : pieces name = [name] := by
  rw [pieces, List.splitOn_eq_singleton h, List.map_singleton, String.ofList_toList]

theorem pieces_append_slash (before after : String) :
    pieces (before ++ "/" ++ after) = pieces before ++ pieces after := by
  have hsplit : (before ++ "/" ++ after).toList = before.toList ++ '/' :: after.toList := by
    simp [String.toList_append]
  rw [pieces, hsplit, List.splitOn_append_cons_self, List.map_append, pieces, pieces]

theorem startsWith_slash_append (h : folder ≠ "") (rest : String) :
    (folder ++ rest).startsWith "/" = folder.startsWith "/" := by
  rw [Bool.eq_iff_iff, String.startsWith_string_iff, String.startsWith_string_iff,
    String.toList_append]
  cases hfolder : folder.toList with
  | nil => exact absurd (String.toList_eq_nil_iff.mp hfolder) h
  | cons c cs => simp

theorem Plain.startsWith_slash (h : Plain name) : name.startsWith "/" = false := by
  rw [String.startsWith_string_eq_false_iff]
  intro hstarts
  exact h.no_slash (hstarts.subset (by simp))

/-! ## Joins -/

theorem Plain.join_cases (h : Plain name) (folder : String) :
    (folder = "" ∧ join folder name = name) ∨
    (∃ above, folder = above ++ "/" ∧ join folder name = above ++ "/" ++ name) ∨
    (folder ≠ "" ∧ join folder name = folder ++ "/" ++ name) := by
  unfold join
  rw [h.startsWith_slash]
  by_cases hempty : folder = ""
  · exact .inl ⟨hempty, by simp [hempty]⟩
  · have hnonempty : folder.isEmpty = false := by simpa using hempty
    rw [hnonempty, Bool.or_self, if_neg Bool.false_ne_true]
    by_cases hends : folder.endsWith "/" = true
    · rw [if_pos hends]
      rw [← String.endsWith_toSlice, String.Slice.endsWith_string_iff,
        String.copy_toSlice] at hends
      obtain ⟨above, habove⟩ := hends
      have hfolder : folder = String.ofList above ++ "/" := by
        rw [← String.toList_inj, String.toList_append, String.toList_ofList, habove]
      exact .inr (.inl ⟨String.ofList above, hfolder, by rw [← hfolder]⟩)
    · exact .inr (.inr ⟨hempty, if_neg hends⟩)

def isPart (piece : String) : Bool := piece != "" && piece != "."

theorem Plain.isPart (h : Plain name) : isPart name = true := by
  simp [FileTree.isPart, h.ne_empty, h.ne_here]

theorem pieces_empty : pieces "" = [""] := pieces_of_no_slash (by simp)

theorem Plain.pieces_join (h : Plain name) (folder : String) :
    ∃ above, pieces (join folder name) = above ++ [name] ∧
      above.filter FileTree.isPart = (pieces folder).filter FileTree.isPart := by
  have hname := pieces_of_no_slash h.no_slash
  rcases h.join_cases folder with ⟨rfl, hjoin⟩ | ⟨above, rfl, hjoin⟩ | ⟨-, hjoin⟩
  · refine ⟨[], by rw [hjoin, hname, List.nil_append], ?_⟩
    rw [pieces_empty]
    rfl
  · refine ⟨pieces above, by rw [hjoin, pieces_append_slash, hname], ?_⟩
    have hslash : pieces (above ++ "/") = pieces above ++ [""] := by
      rw [← pieces_empty, ← pieces_append_slash, String.append_empty]
    rw [hslash, List.filter_append]
    exact (List.append_nil _).symm
  · exact ⟨pieces folder, by rw [hjoin, pieces_append_slash, hname], rfl⟩

theorem Plain.join_injective (h : Plain name) (h' : Plain other)
    (heq : join folder name = join folder other) : name = other := by
  obtain ⟨above, hpieces, -⟩ := h.pieces_join folder
  obtain ⟨above', hpieces', -⟩ := h'.pieces_join folder
  rw [heq, hpieces'] at hpieces
  have hlast : [other] = [name] := List.append_inj_right' hpieces rfl
  exact (List.singleton_inj.mp hlast).symm

theorem Plain.join_ne_empty (h : Plain name) (folder : String) : join folder name ≠ "" := by
  intro heq
  obtain ⟨above, hpieces, -⟩ := h.pieces_join folder
  rw [heq, pieces_empty] at hpieces
  rw [← List.nil_append [""]] at hpieces
  have hlast : [""] = [name] := List.append_inj_right' hpieces rfl
  exact h.ne_empty (List.singleton_inj.mp hlast).symm

theorem Plain.namesFolder_join (h : Plain name) (folder : String) :
    namesFolder (join folder name) = false := by
  obtain ⟨above, hpieces, -⟩ := h.pieces_join folder
  rw [namesFolder, hpieces, List.getLast?_concat]
  simp [h.ne_empty, h.ne_here]

theorem Plain.join_startsWith_slash (h : Plain name) (folder : String) :
    (join folder name).startsWith "/" = folder.startsWith "/" := by
  rcases h.join_cases folder with ⟨rfl, hjoin⟩ | ⟨above, rfl, hjoin⟩ | ⟨hne, hjoin⟩
  · rw [hjoin, h.startsWith_slash, String.startsWith_string_eq_false_iff.mpr (by simp)]
  · rw [hjoin]
    exact startsWith_slash_append (by simp) name
  · rw [hjoin, String.append_assoc]
    exact startsWith_slash_append hne ("/" ++ name)

theorem Plain.parts_join (h : Plain name) (folder : String) :
    parts (join folder name) = parts folder ++ [name] := by
  obtain ⟨above, hpieces, hfilter⟩ := h.pieces_join folder
  unfold parts
  rw [h.join_startsWith_slash, hpieces, List.filter_append, List.append_assoc]
  have hname : [name].filter FileTree.isPart = [name] := List.filter_cons_of_pos h.isPart
  congr 1
  show above.filter FileTree.isPart ++ [name].filter FileTree.isPart =
    (pieces folder).filter FileTree.isPart ++ [name]
  rw [hfilter, hname]

end FileTree

end GoldenCapture
