/-!
# Dictionaries

Finite maps. `get?_insert` and `get?_erase` say all there is to say about an update.
-/

namespace GoldenCapture

structure Dictionary (κ α : Type) where
  entries : List (κ × α) := []

namespace Dictionary

variable {κ α : Type} [DecidableEq κ]

/-- The value of the first entry with a key. -/
def find? (key : κ) : List (κ × α) → Option α
  | [] => none
  | (k, value) :: rest => if k = key then some value else find? key rest

def get? (d : Dictionary κ α) (key : κ) : Option α := find? key d.entries

def erase (d : Dictionary κ α) (key : κ) : Dictionary κ α :=
  ⟨d.entries.filter fun entry => entry.1 ≠ key⟩

def insert (d : Dictionary κ α) (key : κ) (value : α) : Dictionary κ α :=
  ⟨(key, value) :: (d.erase key).entries⟩

@[simp] theorem get?_empty (key : κ) : (⟨[]⟩ : Dictionary κ α).get? key = none := rfl

theorem find?_filter (key other : κ) (entries : List (κ × α)) :
    find? other (entries.filter fun entry => entry.1 ≠ key) =
      if other = key then none else find? other entries := by
  induction entries with
  | nil => simp [find?]
  | cons entry rest ih =>
    obtain ⟨k, v⟩ := entry
    by_cases hk : k = key <;> by_cases ho : other = key <;> grind [find?]

@[simp] theorem get?_erase (d : Dictionary κ α) (key other : κ) :
    (d.erase key).get? other = if other = key then none else d.get? other :=
  find?_filter key other d.entries

@[simp] theorem get?_insert (d : Dictionary κ α) (key other : κ) (value : α) :
    (d.insert key value).get? other = if other = key then some value else d.get? other := by
  have := get?_erase d key other
  by_cases h : other = key
  · simp [get?, insert, find?, h]
  · simp only [get?, insert, find?, if_neg (Ne.symm h)]
    simpa [get?, h] using this

end Dictionary

end GoldenCapture
