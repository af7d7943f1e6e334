import GoldenCapture.Assertion
import GoldenCapture.Proofs.Regex.Groups
import GoldenCapture.Proofs.Regex.Meaning
import GoldenCapture.Proofs.Regex.Search

/-!
# Full matches of attributes

A pattern is checked between `^(?:` and `)$`, read as one pattern. Where an engine takes it there as
it takes it alone, the check finds out whether the pattern is taken and matches the whole text.
-/

namespace GoldenCapture

namespace Regex

open Pattern

/-! ## Patterns that break the template -/

/-- The pattern has a closing parenthesis that closes no group of its own. -/
def ClosesUnopened (pattern : String) : Prop :=
  ∃ p rest, parts? (pattern.toList.length + 1) (.start {} []) pattern.toList = some (p, ')' :: rest)

/-- The pattern ends in a comment that takes in what follows: it is well formed, and still with
the end of the template behind it. -/
def EndsInComment (pattern : String) : Prop :=
  (ofPattern? pattern).isSome = true ∧ (ofPattern? (pattern ++ ")$")).isSome = true

instance (pattern : String) : Decidable (ClosesUnopened pattern) :=
  decidable_of_iff
    (((parts? (pattern.toList.length + 1) (.start {} []) pattern.toList).bind
      (·.2.head?)) = some ')') <| by
    unfold ClosesUnopened
    rcases parts? _ _ pattern.toList with _ | ⟨p, _ | ⟨c, rest⟩⟩ <;> simp

instance (pattern : String) : Decidable (EndsInComment pattern) :=
  inferInstanceAs (Decidable (_ ∧ _))

/-- The template closes the group that it opens, around the pattern and nothing else: no
parenthesis of the pattern closes this group, unless the template is not taken then, and no comment
takes in its end, unless the pattern is not taken alone either. Of a template and a pattern that
are both well formed, the limits of the engine take both or none. -/
def Engine.FitsTemplate (engine : Engine) (pattern : String) : Prop :=
  ¬(ClosesUnopened pattern ∧ (engine.compile? (wholePattern pattern)).isSome = true) ∧
    ¬(EndsInComment pattern ∧ (engine.compile? pattern).isSome = true) ∧
    ((ofPattern? pattern).isSome = true → (ofPattern? (wholePattern pattern)).isSome = true →
      engine.admits (wholePattern pattern) = engine.admits pattern)

instance (engine : Engine) (pattern : String) : Decidable (engine.FitsTemplate pattern) :=
  inferInstanceAs (Decidable (_ ∧ _ ∧ (_ → _ → _)))

/-! ## The template -/

theorem toList_wholePattern (pattern : String) :
    (wholePattern pattern).toList =
      '^' :: '(' :: '?' :: ':' :: (pattern.toList ++ closing 1) := by
  simp [wholePattern, closing, String.toList_append]

theorem parts?_template (fuel : Nat) (input : List Char) :
    parts? (fuel + 2) (.start {} []) ('^' :: '(' :: '?' :: ':' :: input) = (do
      let outer : Progress := ⟨{}, [], [], [some (.look .textStart)]⟩
      let (p, rest) ← outer.closeGroup? (← parts? fuel (.start {} []) input)
      parts? fuel p rest) := rfl

theorem resumes_pattern (pattern : String) {fuel : Nat} (h : pattern.toList.length + 2 < fuel) :
    Resumes 1 pattern.toList.length []
      (parts? (pattern.toList.length + 1) (.start {} []) pattern.toList)
      (parts? fuel (.start {} []) (pattern.toList ++ closing 1)) :=
  partsResume 1 _ (.behind _ (Nat.le_refl _)) (Nat.lt_succ_self _) h

theorem parts?_wholePattern (pattern : String) :
    parts? ((wholePattern pattern).toList.length + 1) (.start {} [])
        (wholePattern pattern).toList = (do
      let outer : Progress := ⟨{}, [], [], [some (.look .textStart)]⟩
      let (p, rest) ← outer.closeGroup?
        (← parts? (pattern.toList.length + 5) (.start {} []) (pattern.toList ++ closing 1))
      parts? (pattern.toList.length + 5) p rest) := by
  have hlength : (wholePattern pattern).toList.length + 1 = pattern.toList.length + 5 + 2 := by
    simp [toList_wholePattern, closing]
  rw [hlength, toList_wholePattern, parts?_template]

theorem isSome_ofPattern?_iff {pattern : String} :
    (ofPattern? pattern).isSome = true ↔
      ∃ p, parts? (pattern.toList.length + 1) (.start {} []) pattern.toList = some (p, []) := by
  simp only [ofPattern?]
  generalize parts? _ _ pattern.toList = a
  rcases a with _ | ⟨p, _ | ⟨c, rest⟩⟩ <;> simp

theorem isSome_closing_iff {pattern : String} :
    (ofPattern? (pattern ++ ")$")).isSome = true ↔
      ∃ p, parts? (pattern.toList.length + 3) (.start {} []) (pattern.toList ++ closing 1) =
        some (p, []) := by
  have htext : (pattern ++ ")$").toList = pattern.toList ++ closing 1 := by
    simp [String.toList_append, closing]
  have hlength : (pattern ++ ")$").toList.length + 1 = pattern.toList.length + 3 := by
    simp [String.toList_append]
  rw [isSome_ofPattern?_iff, hlength, htext]

theorem endsInComment_of_parts? {pattern : String} {p q : Progress}
    (halone : parts? (pattern.toList.length + 1) (.start {} []) pattern.toList = some (p, []))
    (hclosed : parts? (pattern.toList.length + 5) (.start {} []) (pattern.toList ++ closing 1) =
      some (q, [])) :
    EndsInComment pattern := by
  have hresumes := resumes_pattern pattern (Nat.lt_succ_self _)
  rw [halone] at hresumes
  generalize hb : parts? _ _ (pattern.toList ++ closing 1) = b at hresumes
  cases hresumes with
  | reads =>
    have hsame := (parts?_mono_le (Nat.le_add_right _ 2) hb).symm.trans hclosed
    exact ⟨isSome_ofPattern?_iff.mpr ⟨p, halone⟩, isSome_closing_iff.mpr ⟨q, hb.trans hsame⟩⟩

theorem ofPattern?_of_closesUnopened {pattern : String} (h : ClosesUnopened pattern) :
    ofPattern? pattern = none := by
  obtain ⟨p, rest, hstop⟩ := h
  simp [ofPattern?, hstop]

theorem ofPattern?_wholePattern_of_endsInComment {pattern : String} (h : EndsInComment pattern) :
    ofPattern? (wholePattern pattern) = none := by
  obtain ⟨p, hclosed⟩ := isSome_closing_iff.mp h.2
  simp only [ofPattern?]
  rw [parts?_wholePattern, parts?_mono_le (Nat.le_add_right _ 2) hclosed]
  rfl

/-- The pattern between the start and the end of the text. -/
def anchored (r : Regex) : Regex := .cat (.look .textStart) (.cat r (.look .textEnd))

theorem ofPattern?_wholePattern {pattern : String} (hunopened : ¬ClosesUnopened pattern)
    (hcomment : ¬EndsInComment pattern) :
    ofPattern? (wholePattern pattern) = (ofPattern? pattern).map anchored := by
  have hresumes := @resumes_pattern pattern (pattern.toList.length + 5) (by omega)
  simp only [ofPattern?]
  rw [parts?_wholePattern]
  generalize ha : parts? (pattern.toList.length + 1) _ pattern.toList = a at hresumes ⊢
  generalize hb : parts? _ _ (pattern.toList ++ closing 1) = b at hresumes ⊢
  cases hresumes with
  | fails => rfl
  | strays q => rfl
  | @reads p rest rest' hbehind =>
    cases hbehind with
    | swallowed => exact absurd (endsInComment_of_parts? ha hb) hcomment
    | behind =>
      rcases rest with _ | ⟨c, rest⟩
      · -- The group is closed, and only the dollar sign is left.
        rfl
      · obtain rfl := eq_parenthesis_of_parts? ha
        exact absurd ⟨p, rest, ha⟩ hunopened

/-! ## The engine -/

variable {engine : Engine} {pattern : String}

theorem Engine.compile?_eq_none (h : ofPattern? pattern = none) :
    engine.compile? pattern = none := by
  rw [compile?, h, Option.filter_none]

theorem Engine.isSome_compile? :
    (engine.compile? pattern).isSome = true ↔
      (ofPattern? pattern).isSome = true ∧ engine.admits pattern = true := by
  cases h : ofPattern? pattern <;> simp [Engine.compile?, h, Option.filter_some]

theorem Engine.compile?_wholePattern (h : engine.FitsTemplate pattern) :
    engine.compile? (wholePattern pattern) = (engine.compile? pattern).map anchored := by
  obtain ⟨hunopened, hcomment, hlimits⟩ := h
  by_cases hopen : ClosesUnopened pattern
  · have hwhole : engine.compile? (wholePattern pattern) = none := by
      simpa [hopen] using hunopened
    rw [hwhole, compile?_eq_none (ofPattern?_of_closesUnopened hopen), Option.map_none]
  by_cases hends : EndsInComment pattern
  · have halone : engine.compile? pattern = none := by simpa [hends] using hcomment
    rw [halone, compile?_eq_none (ofPattern?_wholePattern_of_endsInComment hends), Option.map_none]
  have hwhole := ofPattern?_wholePattern hopen hends
  cases hpattern : ofPattern? pattern with
  | none => simp [Engine.compile?, hwhole, hpattern]
  | some r =>
    have hadmits := hlimits (by simp [hpattern]) (by simp [hwhole, hpattern])
    simp only [Engine.compile?, hwhole, hpattern, Option.map_some, Option.filter_some, hadmits]
    split <;> rfl

/-- The template fits exactly the patterns that are taken in it if they are taken alone. -/
theorem Engine.fitsTemplate_iff :
    engine.FitsTemplate pattern ↔
      (engine.compile? (wholePattern pattern)).isSome = (engine.compile? pattern).isSome := by
  constructor
  · intro h
    rw [compile?_wholePattern h, Option.isSome_map]
  · intro h
    refine ⟨fun ⟨hopen, hwhole⟩ => ?_, fun ⟨hends, halone⟩ => ?_, fun halone hwhole => ?_⟩
    · have hpattern := (isSome_compile?.mp (h ▸ hwhole)).1
      rw [ofPattern?_of_closesUnopened hopen] at hpattern
      cases hpattern
    · have hpattern := (isSome_compile?.mp (h ▸ halone)).1
      rw [ofPattern?_wholePattern_of_endsInComment hends] at hpattern
      cases hpattern
    · rw [Bool.eq_iff_iff, isSome_compile?, isSome_compile?] at h
      rw [Bool.eq_iff_iff]
      simpa only [halone, hwhole, true_and] using h

example : ({} : Engine).FitsTemplate "a|(b)" ∧ ({} : Engine).FitsTemplate "a)b" ∧
    ¬({} : Engine).FitsTemplate "a)|(?:b" ∧ ¬({} : Engine).FitsTemplate "(?x)a # b" := by
  decide +kernel

end Regex

/-! ## Attributes -/

variable {engine : Regex.Engine}

variable {patterns : List (String × String)}

theorem attributeProblems_comment :
    attributeProblems {} (.ofFields [("pod", .string "a")]) [("pod", "(?x)a # b")] =
        [.invalidPattern "pod" "(?x)a # b"] ∧
      (({} : Regex.Engine).compile? "(?x)a # b").isSome = true := by
  decide +kernel

end GoldenCapture
