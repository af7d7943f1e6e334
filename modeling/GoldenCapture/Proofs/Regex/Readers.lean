import GoldenCapture.Regex.Pattern
import Mathlib.Data.Option.Basic

/-!
# Patterns with a closing behind

What the readers of patterns do when a parenthesis and some dollar signs follow the input. As a
rule they read the same and leave what follows alone.
-/

namespace GoldenCapture.Regex.Pattern

/-- A closing parenthesis and `n` dollar signs. -/
def closing (n : Nat) : List Char := ')' :: List.replicate n '$'

variable {n : Nat} {flags : Flags} {input : List Char} {α β : Type}

theorem mem_closing {c : Char} (h : c ∈ closing n) : c = ')' ∨ c = '$' := by
  obtain rfl | h := List.mem_cons.mp h
  · exact .inl rfl
  · exact .inr (List.eq_of_mem_replicate h)

theorem takeWhile_append_closing {pass : Char → Bool} (h : pass ')' = false) (input : List Char) :
    (input ++ closing n).takeWhile pass = input.takeWhile pass := by
  induction input with
  | nil => simp [closing, h]
  | cons c rest ih => simp [List.takeWhile_cons, ih]

theorem dropWhile_append_closing {pass : Char → Bool} (h : pass ')' = false) (input : List Char) :
    (input ++ closing n).dropWhile pass = input.dropWhile pass ++ closing n := by
  induction input with
  | nil => simp [closing, h]
  | cons c rest ih =>
    simp only [List.cons_append, List.dropWhile_cons, ih]
    split <;> rfl

/-! ## Blanks -/

/-- What is left of an input, without and with a closing behind it, and no longer than `bound`: the
closing stays behind, or a comment that does not end takes it in. -/
inductive Behind (n bound : Nat) : List Char → List Char → Prop
  | behind (rest : List Char) (h : rest.length ≤ bound) : Behind n bound rest (rest ++ closing n)
  | swallowed : Behind n bound [] []

theorem Behind.mono {bound limit : Nat} {rest rest' : List Char} (h : Behind n bound rest rest')
    (hle : bound ≤ limit) : Behind n limit rest rest' := by
  cases h with
  | behind rest h => exact .behind rest (Nat.le_trans h hle)
  | swallowed => exact .swallowed

theorem isBlank_parenthesis : isBlank ')' = false := by decide +kernel

theorem skipFrom_closing (inComment : Bool) : Behind n 0 [] (skipFrom inComment (closing n)) := by
  cases inComment with
  | false =>
    have hskip : skipFrom false (closing n) = closing n := by
      simp [closing, skipFrom, isBlank_parenthesis]
    rw [hskip]
    exact .behind [] (Nat.le_refl 0)
  | true =>
    have hswallow : ∀ text : List Char, (∀ c ∈ text, c ≠ '\n') → skipFrom true text = [] := by
      intro text h
      induction text with
      | nil => rfl
      | cons c rest ih =>
        obtain ⟨hc, hrest⟩ := List.forall_mem_cons.mp h
        rw [skipFrom, if_pos rfl, bne_iff_ne.mpr hc]
        exact ih hrest
    rw [hswallow]
    · exact .swallowed
    · rintro c hc rfl
      obtain h | h := mem_closing hc <;> cases h

theorem behind_skipFrom (inComment : Bool) (input : List Char) :
    Behind n input.length (skipFrom inComment input) (skipFrom inComment (input ++ closing n)) := by
  induction input generalizing inComment with
  | nil => exact skipFrom_closing inComment
  | cons c rest ih =>
    have hrest := fun inComment => (ih inComment).mono (Nat.le_succ _)
    simp only [List.cons_append, skipFrom]
    split
    · exact hrest _
    · split
      · exact hrest _
      · split
        · exact hrest _
        · exact .behind (c :: rest) (Nat.le_refl _)

theorem behind_skip (flags : Flags) (input : List Char) :
    Behind n input.length (skip flags input) (skip flags (input ++ closing n)) := by
  unfold skip
  split
  · exact behind_skipFrom false input
  · exact .behind input (Nat.le_refl _)

/-! ## Readers that leave a closing alone -/

/-- The results of a reader without and with a closing behind its input: it fails on both, or reads
the same of both and leaves the closing behind what is left, which is no longer than `bound`. -/
inductive Follows (n bound : Nat) : Option (α × List Char) → Option (α × List Char) → Prop
  | fails : Follows n bound none none
  | reads (x : α) {rest : List Char} (h : rest.length ≤ bound) :
      Follows n bound (some (x, rest)) (some (x, rest ++ closing n))

namespace Follows

variable {bound limit : Nat} {a b : Option (α × List Char)}

theorem mono (h : Follows n bound a b) (hle : bound ≤ limit) : Follows n limit a b := by
  cases h with
  | fails => exact .fails
  | reads x h => exact .reads x (Nat.le_trans h hle)

theorem bind {f g : α × List Char → Option (β × List Char)} (h : Follows n bound a b)
    (hnext : ∀ x rest, rest.length ≤ bound →
      Follows n limit (f (x, rest)) (g (x, rest ++ closing n))) :
    Follows n limit (a >>= f) (b >>= g) := by
  cases h with
  | fails => exact .fails
  | reads x h => exact hnext x _ h

theorem orElse {a' b' : Option (α × List Char)} (h : Follows n bound a b)
    (h' : Follows n bound a' b') : Follows n bound (a <|> a') (b <|> b') := by
  cases h with
  | fails => exact h'
  | reads x h => exact .reads x h

theorem bindSame {γ : Type} {v : Option γ} {f g : γ → Option (α × List Char)}
    (h : ∀ x, Follows n bound (f x) (g x)) : Follows n bound (v >>= f) (v >>= g) := by
  cases v with
  | none => exact .fails
  | some x => exact h x

theorem ofIte {P : Prop} [Decidable P] {a' b' : Option (α × List Char)} (h : Follows n bound a b)
    (h' : Follows n bound a' b') :
    Follows n bound (if P then a else a') (if P then b else b') := by
  split
  · exact h
  · exact h'

theorem ofMap {v : Option β} (f : β → α) {rest : List Char} (hrest : rest.length ≤ bound) :
    Follows n bound (v.map fun x => (f x, rest)) (v.map fun x => (f x, rest ++ closing n)) := by
  cases v with
  | none => exact .fails
  | some x => exact .reads (f x) hrest

theorem of_behind {read : List Char → Option (α × List Char)} {rest rest' : List Char}
    (h : ∀ rest, Follows n rest.length (read rest) (read (rest ++ closing n)))
    (hnil : read [] = none) (hrest : Behind n bound rest rest') :
    Follows n bound (read rest) (read rest') := by
  cases hrest with
  | behind rest hle => exact (h rest).mono hle
  | swallowed =>
    rw [hnil]
    exact .fails

end Follows

/-! ## Numbers -/

theorem length_dropWhile_le (pass : Char → Bool) (input : List Char) :
    (input.dropWhile pass).length ≤ input.length := (List.dropWhile_suffix pass).length_le

theorem follows_decimal? (input : List Char) :
    Follows n input.length (decimal? input) (decimal? (input ++ closing n)) := by
  have hblank := isBlank_parenthesis
  have hdigit : Char.isDigit ')' = false := rfl
  unfold decimal?
  simp only [dropWhile_append_closing hblank, takeWhile_append_closing hdigit]
  split
  · exact .fails
  · rw [List.drop_append_of_le_length (List.takeWhile_prefix _).length_le,
      dropWhile_append_closing hblank]
    refine .reads _ (Nat.le_trans (length_dropWhile_le _ _) ?_)
    rw [List.length_drop]
    exact Nat.le_trans (Nat.sub_le _ _) (length_dropWhile_le _ _)

theorem follows_upperBound? (least : Nat) (input : List Char) :
    Follows n input.length (upperBound? least input) (upperBound? least (input ++ closing n)) := by
  refine (follows_decimal? input).bind fun most rest hrest => .bindSame fun _ => ?_
  rcases rest with _ | ⟨c, rest⟩
  · exact .fails
  by_cases hbrace : c = '\x7d'
  · subst hbrace
    exact .reads _ (Nat.le_of_succ_le hrest)
  · simpa [hbrace] using Follows.fails

theorem follows_bounds? (flags : Flags) (input : List Char) :
    Follows n input.length (bounds? flags input) (bounds? flags (input ++ closing n)) := by
  have hfirst := Follows.of_behind follows_decimal? rfl (behind_skip (n := n) flags input)
  refine hfirst.bind fun least rest hrest => ?_
  rcases rest with _ | ⟨c, rest⟩
  · exact .fails
  by_cases hbrace : c = '\x7d'
  · subst hbrace
    exact .reads _ (Nat.le_of_succ_le hrest)
  by_cases hcomma : c = ','
  · subst hcomma
    refine Follows.mono ?_ (Nat.le_of_succ_le hrest)
    simp only [List.cons_append]
    match skip flags rest, skip flags (rest ++ closing n), behind_skip (n := n) flags rest with
    | _, _, .swallowed => exact .fails
    | _, _, .behind after hle =>
      rcases after with _ | ⟨d, after⟩
      · exact (follows_upperBound? least []).mono hle
      by_cases hbrace : d = '\x7d'
      · subst hbrace
        exact .reads _ (Nat.le_of_succ_le hle)
      · simpa [hbrace] using (follows_upperBound? least (d :: after)).mono hle
  · simpa [hbrace, hcomma] using Follows.fails

/-! ## Escapes -/

theorem follows_upTo? (mark : Char) (hparenthesis : mark ≠ ')') (hdollar : mark ≠ '$')
    (input : List Char) :
    Follows n input.length (upTo? mark input) (upTo? mark (input ++ closing n)) := by
  have hclosing : (closing n).dropWhile (· != mark) = [] := by
    rw [← List.append_nil (closing n), List.dropWhile_append_of_pos fun c hc => ?_]
    · rfl
    · obtain rfl | rfl := mem_closing hc
      · exact bne_iff_ne.mpr (Ne.symm hparenthesis)
      · exact bne_iff_ne.mpr (Ne.symm hdollar)
  have hsuffix := (List.dropWhile_suffix (· != mark) (l := input)).length_le
  have hsplit := List.takeWhile_append_dropWhile (p := (· != mark)) (l := input)
  unfold upTo?
  rw [List.dropWhile_append]
  cases hdrop : input.dropWhile (· != mark) with
  | nil => simpa [hclosing] using Follows.fails
  | cons c rest =>
    rw [hdrop] at hsuffix hsplit
    have hlength : (input.takeWhile (· != mark)).length ≠ input.length := by
      have := congrArg List.length hsplit
      rw [List.length_append, List.length_cons] at this
      omega
    rw [List.takeWhile_append, if_neg hlength]
    exact .reads _ (Nat.le_of_succ_le hsuffix)

theorem hexValue?_eq_none {digits : List Char} (h : ')' ∈ digits) : hexValue? digits = none := by
  have hfold : ∀ (f : Nat → Char → Option Nat) (value : Nat), (∀ value, f value ')' = none) →
      digits.foldlM f value = none := by
    intro f value hf
    induction digits generalizing value with
    | nil => cases h
    | cons c rest ih =>
      rw [List.foldlM_cons]
      obtain rfl | h := List.mem_cons.mp h
      · rw [hf]
        rfl
      · cases f value c with
        | none => rfl
        | some value => exact ih h value
  unfold hexValue?
  split
  · rfl
  · exact hfold _ 0 fun value => rfl

theorem follows_hexDigits? (flags : Flags) {width : Nat} (hwidth : 0 < width) (input : List Char) :
    Follows n input.length (hexDigits? flags width input)
      (hexDigits? flags width (input ++ closing n)) := by
  unfold hexDigits?
  by_cases hlength : width ≤ input.length
  · have hlength' : width ≤ (input ++ closing n).length := by
      rw [List.length_append]
      omega
    simp only [hlength, hlength', List.take_append_of_le_length hlength,
      List.drop_append_of_le_length hlength]
    refine .bindSame fun _ => .bindSame fun value => .bindSame fun _ => .bindSame fun c => ?_
    refine .reads _ ?_
    rw [List.length_drop]
    omega
  · -- More digits than there are would take in the parenthesis.
    have hmem : ')' ∈ (input ++ closing n).take width := by
      rw [List.take_append, List.take_of_length_le (by omega)]
      obtain ⟨k, hk⟩ := Nat.exists_eq_add_of_lt (Nat.lt_of_not_le hlength)
      rw [hk, show input.length + k + 1 - input.length = k + 1 by omega]
      exact List.mem_append_right _ List.mem_cons_self
    simp only [hexValue?_eq_none hmem]
    unfold guard
    rw [if_neg hlength]
    split <;> exact .fails

theorem follows_hexEscape? (flags : Flags) {width : Nat} (hwidth : 0 < width) (input : List Char) :
    Follows n input.length (hexEscape? flags width input)
      (hexEscape? flags width (input ++ closing n)) := by
  have hnil : hexDigits? flags width [] = none := by
    unfold hexDigits? guard
    rw [List.length_nil, if_neg (Nat.not_le.mpr hwidth)]
    rfl
  unfold hexEscape?
  match skip flags input, skip flags (input ++ closing n), behind_skip (n := n) flags input with
  | _, _, .swallowed =>
    simp only [hnil]
    exact .fails
  | _, _, .behind rest hle =>
    have hdigits := (follows_hexDigits? (n := n) flags hwidth rest).mono hle
    rcases rest with _ | ⟨c, rest⟩
    · exact hdigits
    by_cases hbrace : c = '\x7b'
    · subst hbrace
      have hupTo := @follows_upTo? n '\x7d' (by decide) (by decide) rest
      refine hupTo.bind fun digits rest hrest => .bindSame fun value => .bindSame fun c => ?_
      exact .reads _ (Nat.le_trans hrest (Nat.le_of_succ_le hle))
    · simpa [hbrace] using hdigits

theorem ofText?_parenthesis : Property.ofText? [')'] = none := by decide +kernel

theorem propertyName?_cases (flags : Flags) (input : List Char) :
    Follows n input.length (propertyName? flags input) (propertyName? flags (input ++ closing n)) ∨
      propertyName? flags input = none ∧
        propertyName? flags (input ++ closing n) = some ([')'], List.replicate n '$') := by
  unfold propertyName?
  match skip flags input, skip flags (input ++ closing n), behind_skip (n := n) flags input with
  | _, _, .swallowed => exact .inl .fails
  | _, _, .behind rest hle =>
    rcases rest with _ | ⟨c, rest⟩
    · exact .inr ⟨rfl, rfl⟩
    left
    have hrest := Nat.le_of_succ_le hle
    by_cases hbrace : c = '\x7b'
    · subst hbrace
      exact (follows_upTo? _ (by decide) (by decide) rest).mono hrest
    by_cases hbackslash : c = '\\'
    · subst hbackslash
      exact .fails
    · simpa [hbrace, hbackslash] using Follows.reads [c] hrest

theorem follows_propertyEscape? (flags : Flags) (negated : Bool) (input : List Char) :
    Follows n input.length (propertyEscape? flags negated input)
      (propertyEscape? flags negated (input ++ closing n)) := by
  refine .bindSame fun _ => ?_
  obtain hname | ⟨hnone, hparenthesis⟩ := propertyName?_cases (n := n) flags input
  · exact hname.bind fun text rest hrest => .bindSame fun set => .reads _ hrest
  · -- The parenthesis names no property.
    simp only [hnone, hparenthesis, Option.bind_eq_bind, Option.bind_some, ofText?_parenthesis]
    exact .fails

theorem follows_boundary? (flags : Flags) (input : List Char) :
    Follows n input.length (boundary? flags input) (boundary? flags (input ++ closing n)) := by
  have hplain : ∀ (item : Item), Follows n input.length (some (item, input))
      (some (item, input ++ closing n)) := fun item => .reads item (Nat.le_refl _)
  unfold boundary?
  rcases input with _ | ⟨c, rest⟩
  · exact hplain _
  by_cases hbrace : c = '\x7b'
  · subst hbrace
    simp only [List.cons_append]
    match skip flags rest, skip flags (rest ++ closing n), behind_skip (n := n) flags rest with
    | _, _, .swallowed => exact hplain _
    | _, _, .behind text hle =>
      rcases text with _ | ⟨d, text⟩
      · exact hplain _
      · have hparenthesis : isBoundaryChar ')' = false := by decide
        rw [takeWhile_append_closing hparenthesis, dropWhile_append_closing hparenthesis]
        refine .ofIte ?_ (hplain _)
        have hafter := Nat.le_trans (length_dropWhile_le isBoundaryChar (d :: text)) hle
        generalize (d :: text).dropWhile isBoundaryChar = after at hafter ⊢
        rcases after with _ | ⟨e, after⟩
        · exact .fails
        by_cases hbrace : e = '\x7d'
        · subst hbrace
          exact .ofMap _ (Nat.le_succ_of_le (Nat.le_of_succ_le hafter))
        · simpa [hbrace] using Follows.fails
  · simpa [hbrace] using hplain _

theorem follows_escape? (flags : Flags) (c : Char) (rest : List Char) :
    Follows n rest.length (escape? flags (c :: rest))
      (escape? flags (c :: (rest ++ closing n))) := by
  have hitem : ∀ item : Item, Follows n rest.length (some (item, rest))
      (some (item, rest ++ closing n)) := fun item => .reads item (Nat.le_refl _)
  have hperl : ∀ item : Option Item, Follows n rest.length (item.map (·, rest))
      (item.map (·, rest ++ closing n)) := fun item => .ofMap id (Nat.le_refl _)
  unfold escape?
  exact .ofIte (hitem _) <| .ofIte (follows_hexEscape? flags (by decide) rest) <|
    .ofIte (follows_hexEscape? flags (by decide) rest) <|
    .ofIte (follows_hexEscape? flags (by decide) rest) <|
    .ofIte (follows_propertyEscape? flags false rest) <|
    .ofIte (follows_propertyEscape? flags true rest) <|
    .ofIte (hperl _) <| .ofIte (hperl _) <| .ofIte (hperl _) <| .ofIte (hitem _) <|
    .ofIte (hitem _) <| .ofIte (hitem _) <| .ofIte (hitem _) <| .ofIte (hitem _) <|
    .ofIte (hitem _) <| .ofIte (hitem _) <| .ofIte (hitem _) <|
    .ofIte (follows_boundary? flags rest) <| .ofIte (hitem _) <| .ofIte (hitem _) <|
    .ofIte (hitem _) .fails

/-! ## Names -/

theorem follows_className? (flags : Flags) (negated : Bool) (input : List Char) :
    Follows n input.length (className? flags negated input)
      (className? flags negated (input ++ closing n)) := by
  refine (follows_upTo? _ (by decide) (by decide) input).bind fun name rest hrest => ?_
  rcases rest with _ | ⟨c, rest⟩
  · exact .fails
  by_cases hbracket : c = ']'
  · subst hbracket
    exact .bindSame fun set => .bindSame fun set => .reads _ (Nat.le_of_succ_le hrest)
  · simpa [hbracket] using Follows.fails

theorem follows_namedClass? (flags : Flags) (input : List Char) :
    Follows n input.length (namedClass? flags input) (namedClass? flags (input ++ closing n)) := by
  unfold namedClass?
  rcases input with _ | ⟨c, rest⟩
  · exact .fails
  by_cases hcolon : c = ':'
  · subst hcolon
    rcases rest with _ | ⟨d, rest⟩
    · exact (follows_className? flags false []).mono (Nat.zero_le _)
    by_cases hnegated : d = '^'
    · subst hnegated
      exact (follows_className? flags true rest).mono (by simp; omega)
    · simpa [hnegated] using (follows_className? flags false (d :: rest)).mono (Nat.le_succ _)
  · simpa [hcolon] using Follows.fails

theorem follows_groupName? (names : List String) (input : List Char) :
    Follows n input.length (groupName? names input) (groupName? names (input ++ closing n)) := by
  have hupTo := @follows_upTo? n '>' (by decide) (by decide) input
  refine hupTo.bind fun name rest hrest => .bindSame fun _ => .bindSame fun _ => .reads _ hrest

end GoldenCapture.Regex.Pattern
