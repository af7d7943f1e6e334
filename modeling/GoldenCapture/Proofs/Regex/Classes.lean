import GoldenCapture.Proofs.Regex.Readers

/-!
# Classes with a closing behind

A bracketed class ends with a bracket, which no closing holds. So a class is read the same with and
without a closing behind it.
-/

namespace GoldenCapture.Regex.Pattern

variable {n : Nat} {flags : Flags} {α : Type}

/-! ## Inside of a closing -/

/-- A text of the characters that a closing is made of. -/
def OfClosing (text : List Char) : Prop := ∀ c ∈ text, c = ')' ∨ c = '$'

theorem ofClosing_closing : OfClosing (closing n) := fun _ => mem_closing

theorem isBlank_dollar : isBlank '$' = false := by decide +kernel

theorem skip_ofClosing (flags : Flags) {text : List Char} (h : OfClosing text) :
    skip flags text = text := by
  unfold skip
  split
  · cases text with
    | nil => rfl
    | cons c rest =>
      obtain rfl | rfl := h c List.mem_cons_self
      · simp [skipFrom, isBlank_parenthesis]
      · simp [skipFrom, isBlank_dollar]
  · rfl

/-- The results of a reader that may go on reading inside of the closing where it would fail. -/
inductive Strays (n bound : Nat) : Option (α × List Char) → Option (α × List Char) → Prop
  | follows {a b : Option (α × List Char)} (h : Follows n bound a b) : Strays n bound a b
  | beyond (x : α) {rest : List Char} (h : OfClosing rest) : Strays n bound none (some (x, rest))

namespace Strays

variable {bound limit : Nat} {a b : Option (α × List Char)}

theorem mono (h : Strays n bound a b) (hle : bound ≤ limit) : Strays n limit a b := by
  cases h with
  | follows h => exact .follows (h.mono hle)
  | beyond x h => exact .beyond x h

theorem fails : Strays n bound (none : Option (α × List Char)) none := .follows .fails

theorem bind {β : Type} {f g : α × List Char → Option (β × List Char)} (h : Strays n bound a b)
    (hnext : ∀ x rest, rest.length ≤ bound →
      Follows n limit (f (x, rest)) (g (x, rest ++ closing n)))
    (hbeyond : ∀ x rest, OfClosing rest → g (x, rest) = none) :
    Follows n limit (a >>= f) (b >>= g) := by
  cases h with
  | follows h => exact h.bind hnext
  | beyond x h =>
    simp only [Option.bind_eq_bind, Option.bind_none, Option.bind_some, hbeyond x _ h]
    exact .fails

theorem of_map {β : Type} (v : Option β) (f : β → α) {rest : List Char} (h : OfClosing rest) :
    Strays n bound none (v.map fun x => (f x, rest)) := by
  cases v with
  | none => exact .fails
  | some x => exact .beyond (f x) h

end Strays

/-! ## Members -/

theorem strays_classChar? (flags : Flags) (input : List Char) :
    Strays n (input.length - 1) (classChar? flags input)
      (classChar? flags (input ++ closing n)) := by
  rcases input with _ | ⟨c, rest⟩
  · exact .beyond _ fun c hc => .inr (List.eq_of_mem_replicate hc)
  by_cases hbackslash : c = '\\'
  · subst hbackslash
    rcases rest with _ | ⟨c, rest⟩
    · exact .beyond _ fun c hc => .inr (List.eq_of_mem_replicate hc)
    · simp only [classChar?, List.cons_append]
      match escape? flags (c :: rest), escape? flags (c :: (rest ++ closing n)),
        follows_escape? (n := n) flags c rest with
      | _, _, .fails => exact .fails
      | _, _, .reads item hrest =>
        cases item with
        | look => exact .fails
        | char | set => exact .follows (.reads _ (Nat.le_succ_of_le hrest))
  · simpa [classChar?, hbackslash] using Strays.follows (.reads (Item.char c) (Nat.le_refl _))

theorem strays_rangeFrom? (flags : Flags) (first : Item) (input : List Char) :
    Strays n (input.length - 1) (rangeFrom? flags first input)
      (rangeFrom? flags first (input ++ closing n)) := by
  unfold rangeFrom?
  cases first with
  | look | set => exact .fails
  | char a =>
    match classChar? flags input, classChar? flags (input ++ closing n),
      strays_classChar? (n := n) flags input with
    | _, _, .follows .fails => exact .fails
    | _, _, .follows (.reads item hrest) =>
      cases item with
      | look | set => exact .fails
      | char b => exact .follows (.ofIte (.ofMap id hrest) .fails)
    | _, _, .beyond item h =>
      cases item with
      | look | set => exact .fails
      | char b =>
        dsimp only
        split
        · exact .of_map _ id h
        · exact .fails

theorem strays_member?_dash (flags : Flags) (first : Item) (after : List Char) :
    Strays n (after.length + 1) (member? flags first ('-' :: after))
      (member? flags first ('-' :: (after ++ closing n))) := by
  have hsingle : Strays n (after.length + 1) ((itemSet? flags first).map (·, '-' :: after))
      ((itemSet? flags first).map (·, '-' :: (after ++ closing n))) :=
    .follows (.ofMap id (Nat.le_refl _))
  simp only [member?]
  match skip flags after, skip flags (after ++ closing n), behind_skip (n := n) flags after with
  | _, _, .swallowed => cases first <;> exact .fails
  | _, _, .behind rest hle =>
    have hrange : Strays n (after.length + 1) _ _ :=
      (strays_rangeFrom? flags first rest).mono (by omega)
    rcases rest with _ | ⟨c, rest⟩
    · exact hrange
    by_cases hbracket : c = ']'
    · subst hbracket
      exact hsingle
    by_cases hdash : c = '-'
    · subst hdash
      exact hsingle
    · simpa [hbracket, hdash] using hrange

theorem member?_ofClosing (flags : Flags) (first : Item) {text : List Char} (h : OfClosing text) :
    member? flags first text = none ∨
      member? flags first text = (itemSet? flags first).map (·, text) := by
  cases text with
  | nil => exact .inl rfl
  | cons c rest =>
    obtain rfl | rfl := h c List.mem_cons_self <;> exact .inr rfl

theorem strays_of_member? (flags : Flags) (first : Item) {text : List Char} {bound : Nat}
    (h : OfClosing text) : Strays n bound none (member? flags first text) := by
  obtain hnone | hsingle := member?_ofClosing flags first h
  · rw [hnone]
    exact .fails
  · rw [hsingle]
    exact .of_map _ id h

theorem strays_member? (flags : Flags) (first : Item) (input : List Char) :
    Strays n input.length (member? flags first input)
      (member? flags first (input ++ closing n)) := by
  rcases input with _ | ⟨c, rest⟩
  · exact strays_of_member? flags first ofClosing_closing
  by_cases hdash : c = '-'
  · subst hdash
    exact strays_member?_dash flags first rest
  · have hsingle : Strays n (c :: rest).length ((itemSet? flags first).map (·, c :: rest))
        ((itemSet? flags first).map (·, c :: rest ++ closing n)) :=
      .follows (.ofMap id (Nat.le_refl _))
    simpa [member?, hdash] using hsingle

theorem strays_classRange? (flags : Flags) (input : List Char) :
    Strays n (input.length - 1) (classRange? flags input)
      (classRange? flags (input ++ closing n)) := by
  unfold classRange?
  match classChar? flags input, classChar? flags (input ++ closing n),
    strays_classChar? (n := n) flags input with
  | _, _, .beyond first h =>
    simp only [Option.bind_eq_bind, Option.bind_none, Option.bind_some, skip_ofClosing flags h]
    exact strays_of_member? flags first h
  | _, _, .follows .fails => exact .fails
  | _, _, .follows (@Follows.reads _ _ _ first rest hrest) =>
    simp only [Option.bind_eq_bind, Option.bind_some]
    match skip flags rest, skip flags (rest ++ closing n), behind_skip (n := n) flags rest with
    | _, _, .swallowed => exact .fails
    | _, _, .behind after hle =>
      exact (strays_member? flags first after).mono (Nat.le_trans hle hrest)

/-! ## Operators and the head of a class -/

theorem follows_operator? (input : List Char) :
    Follows n (input.length - 1) (operator? input) (operator? (input ++ closing n)) := by
  rcases input with _ | ⟨c, rest⟩
  · exact .fails
  by_cases hsign : c = '&' ∨ c = '-' ∨ c = '~'
  · -- An operator is its sign twice.
    rcases rest with _ | ⟨d, rest⟩
    · obtain rfl | rfl | rfl := hsign <;> exact .fails
    by_cases htwice : d = c
    · subst htwice
      obtain rfl | rfl | rfl := hsign <;> exact .reads _ (Nat.le_succ _)
    · obtain rfl | rfl | rfl := hsign <;> simpa [operator?, htwice] using Follows.fails
  · obtain ⟨hand, hminus, htilde⟩ := not_or.mp hsign |>.imp_right not_or.mp
    simpa [operator?, hand, hminus, htilde] using Follows.fails

/-- The results of a reader that cannot fail, where blanks may be left. -/
inductive Leads (n bound : Nat) : α × List Char → α × List Char → Prop
  | mk (x : α) {rest rest' : List Char} (h : Behind n bound rest rest') :
      Leads n bound (x, rest) (x, rest')

theorem Leads.mono {bound limit : Nat} {a b : α × List Char} (h : Leads n bound a b)
    (hle : bound ≤ limit) : Leads n limit a b := by
  obtain ⟨x, hbehind⟩ := h
  exact .mk x (hbehind.mono hle)

theorem leads_leadingDashes (flags : Flags) {fuel fuel' : Nat} {input : List Char}
    (h : input.length ≤ fuel) (h' : (input ++ closing n).length ≤ fuel') :
    Leads n input.length (leadingDashes flags fuel input)
      (leadingDashes flags fuel' (input ++ closing n)) := by
  induction fuel generalizing fuel' input with
  | zero =>
    obtain rfl := List.eq_nil_of_length_eq_zero (Nat.le_zero.mp h)
    rcases fuel' with _ | fuel'
    · cases h'
    · simp only [List.nil_append, leadingDashes, skip_ofClosing flags ofClosing_closing]
      exact .mk false (.behind [] (Nat.le_refl 0))
  | succ fuel ih =>
    rcases fuel' with _ | fuel'
    · exact absurd (Nat.le_zero.mp h') (by simp [closing])
    simp only [leadingDashes]
    have hskip := behind_skip (n := n) flags input
    generalize skip flags input = rest at hskip ⊢
    generalize skip flags (input ++ closing n) = rest' at hskip ⊢
    cases hskip with
    | swallowed => exact .mk false .swallowed
    | behind _ hle =>
      rcases rest with _ | ⟨c, rest⟩
      · exact .mk false (.behind [] hle)
      by_cases hdash : c = '-'
      · subst hdash
        rw [List.length_cons] at hle
        rw [List.length_append] at h'
        have hdashes := @ih fuel' rest (by omega) (by rw [List.length_append]; omega)
        simp only [List.cons_append]
        generalize leadingDashes flags fuel rest = a at hdashes ⊢
        generalize leadingDashes flags fuel' (rest ++ closing n) = b at hdashes ⊢
        obtain ⟨_, hbehind⟩ := hdashes
        exact .mk true (hbehind.mono (Nat.le_of_succ_le hle))
      · simpa [hdash] using Leads.mk false (.behind (c :: rest) hle)

theorem leads_classStart (flags : Flags) (negated : Bool) (input : List Char) :
    Leads n input.length (classStart flags negated input)
      (classStart flags negated (input ++ closing n)) := by
  have hdashes := leads_leadingDashes (n := n) flags (Nat.le_refl input.length) (Nat.le_refl _)
  unfold classStart
  generalize leadingDashes flags input.length input = a at hdashes ⊢
  generalize leadingDashes flags (input ++ closing n).length (input ++ closing n) = b at hdashes ⊢
  obtain @⟨dashes, rest, rest', hbehind⟩ := hdashes
  cases dashes with
  | true => exact .mk _ hbehind
  | false =>
    cases hbehind with
    | swallowed => exact .mk _ .swallowed
    | behind _ hle =>
      rcases rest with _ | ⟨c, rest⟩
      · exact .mk _ (.behind [] hle)
      by_cases hbracket : c = ']'
      · subst hbracket
        exact .mk _ (.behind rest (Nat.le_of_succ_le hle))
      · simpa [hbracket] using Leads.mk (negated, CodeSet.empty) (.behind (c :: rest) hle)

theorem leads_classHead (flags : Flags) (input : List Char) :
    Leads n input.length (classHead flags input) (classHead flags (input ++ closing n)) := by
  unfold classHead
  match skip flags input, skip flags (input ++ closing n), behind_skip (n := n) flags input with
  | _, _, .swallowed => exact .mk _ .swallowed
  | _, _, .behind rest hle =>
    have hplain := (leads_classStart (n := n) flags false rest).mono hle
    rcases rest with _ | ⟨c, rest⟩
    · exact hplain
    by_cases hcaret : c = '^'
    · subst hcaret
      exact (leads_classStart flags true rest).mono (Nat.le_of_succ_le hle)
    · simpa [hcaret] using hplain

/-! ## Classes -/

theorem operator?_ofClosing {text : List Char} (h : OfClosing text) : operator? text = none := by
  cases text with
  | nil => rfl
  | cons c rest => obtain rfl | rfl := h c List.mem_cons_self <;> rfl

theorem classRange?_ofClosing (flags : Flags) {text : List Char} (h : OfClosing text) :
    classRange? flags text = none ∨
      ∃ s rest, OfClosing rest ∧ classRange? flags text = some (s, rest) := by
  cases text with
  | nil => exact .inl rfl
  | cons c rest =>
    have hrest : OfClosing rest := fun d hd => h d (List.mem_cons_of_mem c hd)
    have hmember : classRange? flags (c :: rest) = member? flags (.char c) rest := by
      obtain rfl | rfl := h c List.mem_cons_self <;>
        simp [classRange?, classChar?, skip_ofClosing flags hrest]
    rw [hmember]
    obtain hnone | hsingle := member?_ofClosing flags (.char c) hrest
    · exact .inl hnone
    · rw [hsingle]
      cases itemSet? flags (.char c) with
      | none => exact .inl rfl
      | some s => exact .inr ⟨s, rest, hrest, rfl⟩

theorem members?_plain {fuel : Nat} {left : Option (SetOperator × CodeSet)} {s : CodeSet}
    {input rest : List Char} {c : Char} (hskip : skip flags input = c :: rest)
    (hclose : c ≠ ']') (hopen : c ≠ '[') :
    members? flags (fuel + 1) left s input =
      match operator? (c :: rest) with
      | some (op, rest) => members? flags fuel (some (op, combine left s)) CodeSet.empty rest
      | none =>
        classRange? flags (c :: rest) >>= fun (t, rest) =>
          members? flags fuel left (s.union t) rest := by
  rw [members?, hskip]
  split
  · contradiction
  · simp_all
  · simp_all
  · rfl

theorem members?_ofClosing (fuel : Nat) (left : Option (SetOperator × CodeSet)) (s : CodeSet)
    {input : List Char} (h : OfClosing (skip flags input)) :
    members? flags fuel left s input = none := by
  induction fuel generalizing s input with
  | zero => rfl
  | succ fuel ih =>
    cases hskip : skip flags input with
    | nil => rw [members?, hskip]
    | cons c rest =>
      rw [hskip] at h
      have hplain : c ≠ ']' ∧ c ≠ '[' := by
        obtain rfl | rfl := h c List.mem_cons_self <;> decide
      rw [members?_plain hskip hplain.1 hplain.2, operator?_ofClosing h]
      obtain hnone | ⟨t, rest, hrest, hsome⟩ := classRange?_ofClosing flags h
      · rw [hnone]
        rfl
      · rw [hsome]
        exact ih _ (by rwa [skip_ofClosing flags hrest])

theorem members?_nil (fuel : Nat) (left : Option (SetOperator × CodeSet)) (s : CodeSet) :
    members? flags fuel left s [] = none :=
  members?_ofClosing fuel left s fun c hc => by simp [skip, skipFrom] at hc

/-- A class is read the same with a closing behind, where the input fits in the fuel. -/
def ClassFollows (n : Nat) (flags : Flags) (fuel : Nat) : Prop :=
  ∀ {fuel' : Nat} {input : List Char}, 2 * input.length + 2 ≤ fuel →
    2 * (input ++ closing n).length + 2 ≤ fuel' →
    Follows n input.length (class? flags fuel input) (class? flags fuel' (input ++ closing n))

/-- The members of a class are read the same with a closing behind, where the input fits in the
fuel. -/
def MembersFollow (n : Nat) (flags : Flags) (fuel : Nat) : Prop :=
  ∀ {fuel' : Nat} {input : List Char} (left : Option (SetOperator × CodeSet)) (s : CodeSet),
    2 * input.length + 1 ≤ fuel → 2 * (input ++ closing n).length + 1 ≤ fuel' →
    Follows n input.length (members? flags fuel left s input)
      (members? flags fuel' left s (input ++ closing n))

theorem classFollows_succ {fuel : Nat} (hmembers : MembersFollow n flags fuel) :
    ClassFollows n flags (fuel + 1) := by
  intro fuel' input h h'
  rcases fuel' with _ | fuel'
  · cases h'
  simp only [class?]
  match classHead flags input, classHead flags (input ++ closing n),
    leads_classHead (n := n) flags input with
  | _, _, @Leads.mk _ _ _ (negated, start) rest rest' hbehind =>
    have hfollows : Follows n input.length (members? flags fuel none start rest)
        (members? flags fuel' none start rest') := by
      cases hbehind with
      | swallowed =>
        rw [members?_nil, members?_nil]
        exact .fails
      | behind rest hle =>
        refine (hmembers none start (by omega) ?_).mono hle
        rw [List.length_append] at h' ⊢
        omega
    refine hfollows.bind fun s rest hrest => .bindSame fun s => .ofIte ?_ (.reads s hrest)
    exact .bindSame fun _ => .reads _ hrest

theorem membersFollow_succ {fuel : Nat} (hclass : ClassFollows n flags fuel)
    (hmembers : MembersFollow n flags fuel) : MembersFollow n flags (fuel + 1) := by
  intro fuel' input left s h h'
  rcases fuel' with _ | fuel'
  · cases h'
  have hskip := behind_skip (n := n) flags input
  generalize hrest : skip flags input = rest at hskip
  generalize hrest' : skip flags (input ++ closing n) = rest' at hskip
  cases hskip with
  | swallowed =>
    simp only [members?, hrest, hrest']
    exact .fails
  | behind rest hle =>
    rcases rest with _ | ⟨c, rest⟩
    · -- Only the closing is left.
      rw [members?, hrest, members?_ofClosing _ _ _ (hrest' ▸ ofClosing_closing)]
      exact .fails
    have hnext : ∀ {left s} {after : List Char}, after.length ≤ rest.length →
        Follows n input.length (members? flags fuel left s after)
          (members? flags fuel' left s (after ++ closing n)) := by
      intro left s after hafter
      rw [List.length_cons] at hle
      rw [List.length_append] at h'
      refine (hmembers left s (by omega) ?_).mono (by omega)
      rw [List.length_append]
      omega
    by_cases hclose : c = ']'
    · subst hclose
      simp only [members?, hrest, hrest', List.cons_append]
      exact .reads _ (Nat.le_of_succ_le hle)
    by_cases hopen : c = '['
    · subst hopen
      simp only [members?, hrest, hrest', List.cons_append]
      have hinner := @hclass fuel' rest (by rw [List.length_cons] at hle; omega) (by
        rw [List.length_cons] at hle
        rw [List.length_append] at h' ⊢
        omega)
      exact ((follows_namedClass? flags rest).orElse hinner).bind fun t after => hnext
    · -- Neither bracket: an operator, a character or a range.
      rw [List.cons_append] at hrest'
      rw [members?_plain hrest hclose hopen, members?_plain hrest' hclose hopen]
      have hrange := strays_classRange? (n := n) flags (c :: rest)
      have hoperator := follows_operator? (n := n) (c :: rest)
      rw [List.cons_append] at hoperator
      generalize operator? (c :: rest) = a at hoperator ⊢
      generalize operator? (c :: (rest ++ closing n)) = b at hoperator ⊢
      cases hoperator with
      | reads op hafter => exact hnext hafter
      | fails =>
        exact hrange.bind (fun t after => hnext) fun t after hafter =>
          members?_ofClosing _ _ _ (by rwa [skip_ofClosing flags hafter])

theorem class?_members?_follow (n : Nat) (flags : Flags) (fuel : Nat) :
    ClassFollows n flags fuel ∧ MembersFollow n flags fuel := by
  induction fuel with
  | zero => exact ⟨fun h => absurd h (by omega), fun _ _ h => absurd h (by omega)⟩
  | succ fuel ih => exact ⟨classFollows_succ ih.2, membersFollow_succ ih.1 ih.2⟩

theorem follows_class? (flags : Flags) (input : List Char) :
    Follows n input.length (class? flags (2 * input.length + 2) input)
      (class? flags (2 * (input ++ closing n).length + 2) (input ++ closing n)) :=
  (class?_members?_follow n flags _).1 (Nat.le_refl _) (Nat.le_refl _)

end GoldenCapture.Regex.Pattern
