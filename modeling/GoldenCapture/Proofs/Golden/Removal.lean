import GoldenCapture.Scrub
import Mathlib.Data.List.Basic

/-!
# Removed entries and points

Entries are removed scope by scope under a running total. In the end each scope has been filtered,
and the total is the number of the entries that are gone. Points are dropped series by series.
-/

namespace GoldenCapture

variable {names : List String}

def Scope.without (names : List String) (scope : Scope) : Scope :=
  { scope with entries := scope.entries.filter fun entry => !names.contains entry.name }

def countNamed (names : List String) (entries : List Entry) : Nat :=
  (entries.filter fun entry => names.contains entry.name).length

theorem countNamed_append (names : List String) (first second : List Entry) :
    countNamed names (first ++ second) = countNamed names first + countNamed names second := by
  rw [countNamed, List.filter_append, List.length_append, countNamed, countNamed]

theorem countNamed_of_filter (entries : List Entry) :
    entries.length - (entries.filter fun entry => !names.contains entry.name).length =
      countNamed names entries := by
  rw [countNamed, List.length_eq_length_filter_add fun entry : Entry => names.contains entry.name,
    Nat.add_sub_cancel]

theorem Scope.removeEntries_eq (removed : Nat) (scopes : List Scope) :
    Scope.removeEntries names removed scopes =
      (removed + countNamed names (scopes.flatMap Scope.entries),
        scopes.map (Scope.without names)) := by
  induction scopes generalizing removed with
  | nil => rfl
  | cons scope rest ih =>
    rw [Scope.removeEntries, ih, countNamed_of_filter, List.flatMap_cons, countNamed_append,
      Nat.add_assoc]
    rfl

theorem Resource.removeEntries_eq (removed : Nat) (resources : List Resource) :
    Resource.removeEntries names removed resources =
      (removed + countNamed names (resources.flatMap fun r => r.scopes.flatMap Scope.entries),
        resources.map fun r => { r with scopes := r.scopes.map (Scope.without names) }) := by
  induction resources generalizing removed with
  | nil => rfl
  | cons resource rest ih =>
    rw [Resource.removeEntries, Scope.removeEntries_eq]
    dsimp only
    rw [ih, List.flatMap_cons, countNamed_append, Nat.add_assoc]
    rfl

namespace Batch

theorem removeEntries_eq (b : Batch) (names : List String) :
    b.removeEntries names = (countNamed names b.entries, b.mapScopes (Scope.without names)) := by
  unfold removeEntries
  split
  case isTrue hnames =>
    obtain rfl := List.isEmpty_iff.mp hnames
    have hsame : Scope.without [] = id := funext fun scope => by simp [Scope.without]
    simp [countNamed, mapScopes, hsame]
  case isFalse =>
    rw [Resource.removeEntries_eq, Nat.zero_add]
    rfl

theorem withoutEntries_eq (b : Batch) (names : List String) :
    b.withoutEntries names = b.mapScopes fun scope =>
      { scope with entries := scope.entries.filter fun entry => !names.contains entry.name } := by
  rw [withoutEntries, removeEntries_eq]
  rfl

theorem countEntries_eq (b : Batch) (names : List String) :
    b.countEntries names = (b.entries.filter fun entry => names.contains entry.name).length := by
  rw [countEntries, removeEntries_eq]
  rfl

theorem capPoints_eq (b : Batch) (most : Nat) :
    b.capPoints most = b.mapEntries fun entry =>
      { entry with points := entry.points.take most } := rfl

theorem countSurplus_eq (b : Batch) (most : Nat) :
    b.countSurplus most = total (b.entries.map fun entry => entry.points.length - most) := rfl

end Batch

end GoldenCapture
