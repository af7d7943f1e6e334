import GoldenCapture.Compare.Mismatch
import GoldenCapture.Proofs.Text.Quoting
import Std.Data.String.ToNat

/-!
# Paths name places

A path in a report belongs to one place only. Each step of a path shows where it ends: names of
parts differ in their first letters, an index stands in brackets, and so does a quoted key.
-/

namespace GoldenCapture

/-! ## Parts of a path -/

/-- Paths that begin with the path of their node and, apart from it, tell places apart. -/
structure Legible {ι : Type} (path : String → ι → String) : Prop where
  append : ∀ node place, path node place = node ++ path "" place
  ne_empty : ∀ place, path "" place ≠ ""
  injective : ∀ place other, path "" place = path "" other → place = other

theorem index_injective {i j : Nat} {s t : String}
    (h : "[" ++ toString i ++ "]" ++ s = "[" ++ toString j ++ "]" ++ t) : i = j ∧ s = t := by
  have hbracket : ∀ n : Nat, ']' ∉ n.repr.toList := by
    intro n hmem
    rw [Nat.repr_eq_ofList_toDigits, String.toList_ofList] at hmem
    exact absurd (Nat.isDigit_of_mem_toDigits (by omega) (by omega) hmem) (by decide)
  rw [← String.toList_inj] at h
  simp only [String.toList_append, Nat.toString_eq_repr, List.append_assoc] at h
  obtain ⟨hindex, hrest⟩ := append_delimiter_injective (hbracket i) (hbracket j)
    (List.append_cancel_left h)
  exact ⟨Nat.repr_inj.mp (String.toList_inj.mp hindex), String.toList_inj.mp hrest⟩

theorem Legible.path_list {ι : Type} {inner : String → ι → String} (h : Legible inner)
    (node part : String) (place : InList ι) :
    place.path (node ++ part) inner = node ++ (part ++ place.path "" inner) := by
  cases place with
  | length => simp [InList.path]
  | item i => simp [InList.path, String.append_assoc]
  | inside i place =>
    simp only [InList.path]
    rw [h.append (node ++ _ ++ _ ++ _ ++ _), h.append ("" ++ _ ++ _ ++ _)]
    simp [String.append_assoc]

theorem Legible.inList {ι : Type} {inner : String → ι → String} (h : Legible inner)
    {place other : InList ι} (heq : place.path "" inner = other.path "" inner) :
    place = other := by
  -- An index in brackets comes first; what follows it is empty for an item as a whole only.
  have hitem : ∀ i, (InList.item i : InList ι).path "" inner = "[" ++ toString i ++ "]" ++ "" :=
    fun i => by simp [InList.path]
  have hinside : ∀ i p, (InList.inside i p).path "" inner =
      "[" ++ toString i ++ "]" ++ inner "" p := by
    intro i p
    rw [InList.path, h.append, String.empty_append]
  have hbracket : ∀ i : Nat, ∀ s : String, "" ≠ "[" ++ toString i ++ "]" ++ s := by
    simp [← String.toList_inj]
  cases place <;> cases other
  case length.length => rfl
  case length.item => exact absurd (heq.trans (hitem _)) (hbracket _ _)
  case length.inside => exact absurd (heq.trans (hinside _ _)) (hbracket _ _)
  case item.length => exact absurd (heq.symm.trans (hitem _)) (hbracket _ _)
  case inside.length => exact absurd (heq.symm.trans (hinside _ _)) (hbracket _ _)
  case item.item i j =>
    rw [hitem, hitem] at heq
    rw [(index_injective heq).1]
  case item.inside i j p =>
    rw [hitem, hinside] at heq
    exact absurd (index_injective heq).2.symm (h.ne_empty p)
  case inside.item i p j =>
    rw [hitem, hinside] at heq
    exact absurd (index_injective heq).2 (h.ne_empty p)
  case inside.inside i p j q =>
    rw [hinside, hinside] at heq
    obtain ⟨rfl, hplace⟩ := index_injective heq
    rw [h.injective _ _ hplace]

theorem attributePath_append (node key : String) :
    attributePath node key = node ++ attributePath "" key := by
  simp [attributePath, String.append_assoc]

theorem attributePath_injective {key other : String}
    (h : attributePath "" key = attributePath "" other) : key = other := by
  simp only [attributePath, String.append_left_inj, String.append_right_inj] at h
  exact quoted_injective h

/-! ## The tree -/

theorem ne_empty_of_letter {s : String} {c : Char} (h : s.toList[1]? = some c) : s ≠ "" := by
  rintro rfl
  simp at h

theorem letter_eq {s t : String} {c d : Char} (hs : s.toList[1]? = some c)
    (ht : t.toList[1]? = some d) (h : s = t) : c = d := by
  rw [h, ht] at hs
  exact (Option.some.inj hs).symm

/-- The first letter of a part; the parts of a node differ in it. -/
def PointPlace.letter : PointPlace → Char
  | value => 'v'
  | startTime => 's'
  | time => 't'
  | field _ => 'a'

theorem PointPlace.path_letter (place : PointPlace) :
    (place.path "").toList[1]? = some place.letter := by
  cases place <;> simp [path, attributePath, letter]

theorem PointPlace.legible : Legible PointPlace.path where
  append node place := by
    cases place with
    | field key => exact attributePath_append node key
    | value | startTime | time => simp [path]
  ne_empty place := ne_empty_of_letter place.path_letter
  injective place other h := by
    have hletter := letter_eq place.path_letter other.path_letter h
    cases place <;> cases other
    case field.field => exact congrArg field (attributePath_injective h)
    all_goals simp [letter] at hletter ⊢

theorem EntryPlace.path_points (node : String) (place : InList PointPlace) :
    (points place).path node = node ++ (".points" ++ place.path "" PointPlace.path) :=
  PointPlace.legible.path_list node ".points" place

def EntryPlace.letter : EntryPlace → Char
  | name => 'n'
  | kind => 'k'
  | unit => 'u'
  | field _ => 'a'
  | points _ => 'p'

theorem EntryPlace.path_letter (place : EntryPlace) :
    (place.path "").toList[1]? = some place.letter := by
  cases place with
  | points place => simp [path_points, letter]
  | name | kind | unit | field => simp [path, attributePath, letter]

theorem EntryPlace.legible : Legible EntryPlace.path where
  append node place := by
    cases place with
    | field key => exact attributePath_append node key
    | points place => rw [path_points, path_points, String.empty_append]
    | name | kind | unit => simp [path]
  ne_empty place := ne_empty_of_letter place.path_letter
  injective place other h := by
    have hletter := letter_eq place.path_letter other.path_letter h
    cases place <;> cases other
    case field.field => exact congrArg field (attributePath_injective h)
    case points.points =>
      simp only [path_points, String.append_right_inj] at h
      exact congrArg points (PointPlace.legible.inList h)
    all_goals simp [letter] at hletter ⊢

theorem ScopePlace.path_entries (node : String) (place : InList EntryPlace) :
    (entries place).path node = node ++ (".entries" ++ place.path "" EntryPlace.path) :=
  EntryPlace.legible.path_list node ".entries" place

def ScopePlace.letter : ScopePlace → Char
  | name => 'n'
  | version => 'v'
  | field _ => 'a'
  | entries _ => 'e'

theorem ScopePlace.path_letter (place : ScopePlace) :
    (place.path "").toList[1]? = some place.letter := by
  cases place with
  | entries place => simp [path_entries, letter]
  | name | version | field => simp [path, attributePath, letter]

theorem ScopePlace.legible : Legible ScopePlace.path where
  append node place := by
    cases place with
    | field key => exact attributePath_append node key
    | entries place => rw [path_entries, path_entries, String.empty_append]
    | name | version => simp [path]
  ne_empty place := ne_empty_of_letter place.path_letter
  injective place other h := by
    have hletter := letter_eq place.path_letter other.path_letter h
    cases place <;> cases other
    case field.field => exact congrArg field (attributePath_injective h)
    case entries.entries =>
      simp only [path_entries, String.append_right_inj] at h
      exact congrArg entries (EntryPlace.legible.inList h)
    all_goals simp [letter] at hletter ⊢

theorem ResourcePlace.path_scopes (node : String) (place : InList ScopePlace) :
    (scopes place).path node = node ++ (".scopes" ++ place.path "" ScopePlace.path) :=
  ScopePlace.legible.path_list node ".scopes" place

def ResourcePlace.letter : ResourcePlace → Char
  | field _ => 'a'
  | scopes _ => 's'

theorem ResourcePlace.path_letter (place : ResourcePlace) :
    (place.path "").toList[1]? = some place.letter := by
  cases place with
  | scopes place => simp [path_scopes, letter]
  | field => simp [path, attributePath, letter]

theorem ResourcePlace.legible : Legible ResourcePlace.path where
  append node place := by
    cases place with
    | field key => exact attributePath_append node key
    | scopes place => rw [path_scopes, path_scopes, String.empty_append]
  ne_empty place := ne_empty_of_letter place.path_letter
  injective place other h := by
    have hletter := letter_eq place.path_letter other.path_letter h
    cases place <;> cases other
    case field.field => exact congrArg field (attributePath_injective h)
    case scopes.scopes =>
      simp only [path_scopes, String.append_right_inj] at h
      exact congrArg scopes (ScopePlace.legible.inList h)
    all_goals simp [letter] at hletter ⊢

theorem Place.path_injective {place other : Place} (h : place.path = other.path) :
    place = other := by
  have hresources : ∀ p, (resources p).path = "resources" ++ p.path "" ResourcePlace.path :=
    fun p => by simpa [path] using ResourcePlace.legible.path_list "" "resources" p
  cases place <;> cases other
  case signal.signal => rfl
  case resources.resources =>
    rw [hresources, hresources, String.append_right_inj] at h
    exact congrArg resources (ResourcePlace.legible.inList h)
  case signal.resources | resources.signal =>
    rw [hresources] at h
    have hlist := congrArg String.toList h
    simp [path] at hlist

end GoldenCapture
