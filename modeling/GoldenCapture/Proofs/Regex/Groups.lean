import GoldenCapture.Proofs.Regex.Classes
import Mathlib.Tactic.SplitIfs

/-!
# Groups with a closing behind

The parts of a group are read up to a parenthesis or the end, so a closing behind them is left
alone. It is not where the parts alone cannot be read: its parenthesis may be the one that was
missing, and then reading goes on to the end.
-/

namespace GoldenCapture.Regex.Pattern

variable {n : Nat} {α : Type}

/-- The results of a reader inside of a group: it fails on both, reads the same of both, or fails
alone and with the closing behind reads on to `beyond`. -/
inductive Resumes (n bound : Nat) (beyond : List Char) :
    Option (α × List Char) → Option (α × List Char) → Prop
  | fails : Resumes n bound beyond none none
  | reads (x : α) {rest rest' : List Char} (h : Behind n bound rest rest') :
      Resumes n bound beyond (some (x, rest)) (some (x, rest'))
  | strays (x : α) : Resumes n bound beyond none (some (x, beyond))

namespace Resumes

variable {bound limit : Nat} {beyond : List Char} {a b : Option (α × List Char)}

theorem mono (h : Resumes n bound beyond a b) (hle : bound ≤ limit) :
    Resumes n limit beyond a b := by
  cases h with
  | fails => exact .fails
  | reads x h => exact .reads x (h.mono hle)
  | strays x => exact .strays x

theorem of_follows (h : Follows n bound a b) : Resumes n bound beyond a b := by
  cases h with
  | fails => exact .fails
  | reads x h => exact .reads x (.behind _ h)

theorem ofIte {P : Prop} [Decidable P] {a' b' : Option (α × List Char)}
    (h : Resumes n bound beyond a b) (h' : Resumes n bound beyond a' b') :
    Resumes n bound beyond (if P then a else a') (if P then b else b') := by
  split
  · exact h
  · exact h'

theorem bind {β : Type} {left : List Char} {f g : α × List Char → Option (β × List Char)}
    (h : Resumes n bound beyond a b)
    (hnext : ∀ x {rest rest'}, Behind n bound rest rest' →
      Resumes n limit left (f (x, rest)) (g (x, rest')))
    (hstray : ∀ x, Resumes n limit left none (g (x, beyond))) :
    Resumes n limit left (a >>= f) (b >>= g) := by
  cases h with
  | fails => exact .fails
  | reads x h => exact hnext x h
  | strays x => exact hstray x

end Resumes

/-! ## Atoms and repetitions -/

theorem follows_times? (flags : Flags) (sign : Char) (rest : List Char) :
    Follows n rest.length (times? flags sign rest) (times? flags sign (rest ++ closing n)) := by
  have hsign : ∀ times : Nat × Option Nat, Follows n rest.length (some (times, rest))
      (some (times, rest ++ closing n)) := fun times => .reads times (Nat.le_refl _)
  unfold times?
  exact .ofIte (hsign _) <| .ofIte (hsign _) <| .ofIte (hsign _) (follows_bounds? flags rest)

theorem leads_lazyMark (flags : Flags) (input : List Char) :
    Leads n input.length (lazyMark flags input) (lazyMark flags (input ++ closing n)) := by
  unfold lazyMark
  match skip flags input, skip flags (input ++ closing n), behind_skip (n := n) flags input with
  | _, _, .swallowed => exact .mk false .swallowed
  | _, _, .behind rest hle =>
    rcases rest with _ | ⟨c, rest⟩
    · exact .mk false (.behind [] hle)
    by_cases hmark : c = '?'
    · subst hmark
      exact .mk true (.behind rest (Nat.le_of_succ_le hle))
    · simpa [hmark] using Leads.mk false (.behind (c :: rest) hle)

theorem resumes_repeat? (p : Progress) (sign : Char) (rest : List Char) :
    Resumes n rest.length (List.replicate n '$') (p.repeat? sign rest)
      (p.repeat? sign (rest ++ closing n)) := by
  unfold Progress.repeat? Progress.repeatLast?
  match times? p.flags sign rest, times? p.flags sign (rest ++ closing n),
    follows_times? (n := n) p.flags sign rest with
  | _, _, .fails => exact .fails
  | _, _, @Follows.reads _ _ _ (least, most) rest hle =>
    simp only [Option.bind_eq_bind, Option.bind_some]
    split
    · match lazyMark p.flags rest, lazyMark p.flags (rest ++ closing n),
        leads_lazyMark (n := n) p.flags rest with
      | _, _, .mk lazy hbehind => exact .reads _ (hbehind.mono hle)
    · exact .fails

theorem resumes_atom? (flags : Flags) (c : Char) (rest : List Char) :
    Resumes n rest.length (List.replicate n '$') (atom? flags c rest)
      (atom? flags c (rest ++ closing n)) := by
  have hplain : ∀ r : Option Regex, Resumes n rest.length (List.replicate n '$')
      (r.map (·, rest)) (r.map (·, rest ++ closing n)) :=
    fun r => .of_follows (.ofMap id (Nat.le_refl _))
  unfold atom?
  refine .ofIte ?_ <| .ofIte (hplain _) <| .ofIte (hplain (some _)) <| .ofIte (hplain (some _)) <|
    .ofIte ?_ (hplain _)
  · match class? flags (2 * rest.length + 2) rest,
      class? flags (2 * (rest ++ closing n).length + 2) (rest ++ closing n),
      follows_class? (n := n) flags rest with
    | _, _, .fails => exact .fails
    | _, _, .reads s hrest => exact .reads _ (.behind _ hrest)
  · -- A backslash at the end escapes the parenthesis.
    rcases rest with _ | ⟨d, rest⟩
    · exact .strays _
    · refine (Resumes.of_follows ?_).mono (Nat.le_succ rest.length)
      exact (follows_escape? flags d rest).bind fun item after hafter =>
        .bindSame fun r => .reads r hafter

/-! ## Openings -/

theorem flags?_cases (flags : Flags) (value : Bool) (seen : List Char) (input : List Char) :
    Follows n input.length (flags? flags value seen input)
        (flags? flags value seen (input ++ closing n)) ∨
      flags? flags value seen input = none ∧ ∃ inner named,
        flags? flags value seen (input ++ closing n) =
          some ((inner, named, ')'), List.replicate n '$') := by
  induction input generalizing flags value seen with
  | nil =>
    by_cases hminus : seen.head? = some '-'
    · left
      simpa [flags?, closing, hminus] using Follows.fails
    · exact .inr ⟨rfl, flags, !seen.isEmpty, by simp [flags?, closing, hminus]⟩
  | cons c rest ih =>
    have hnext : ∀ flags value seen, _ := fun flags value seen =>
      (ih flags value seen).imp_left fun h => h.mono (Nat.le_succ _)
    simp only [flags?, List.cons_append]
    split
    · exact .inl (.ofIte .fails (.reads _ (Nat.le_succ _)))
    · split
      · exact .inl .fails
      · split
        · exact hnext _ _ _
        · split
          · exact hnext _ _ _
          · exact .inl .fails

theorem resumes_flagGroup? (flags : Flags) (names : List String) (input : List Char) :
    Resumes n input.length (List.replicate n '$') (flagGroup? flags names input)
      (flagGroup? flags names (input ++ closing n)) := by
  obtain hfollows | ⟨hnone, inner, named, hsome⟩ := flags?_cases (n := n) flags true [] input
  · exact .of_follows <| hfollows.bind fun _ rest hrest =>
      .ofIte (.bindSame fun _ => .reads _ hrest) (.reads _ hrest)
  · unfold flagGroup?
    rw [hnone, hsome]
    cases named with
    | false => exact .fails
    | true => exact .strays _

theorem follows_namedGroup? (flags : Flags) (names : List String) (input : List Char) :
    Follows n input.length (namedGroup? flags names input)
      (namedGroup? flags names (input ++ closing n)) :=
  (follows_groupName? names input).bind fun _ _ hrest => .reads _ hrest

theorem resumes_specialGroup? (flags : Flags) (names : List String) (input : List Char) :
    Resumes n input.length (List.replicate n '$') (specialGroup? flags names input)
      (specialGroup? flags names (input ++ closing n)) := by
  have hflags := resumes_flagGroup? (n := n) flags names input
  have hnamed : ∀ {rest : List Char}, rest.length ≤ input.length →
      Resumes n input.length (List.replicate n '$') (namedGroup? flags names rest)
        (namedGroup? flags names (rest ++ closing n)) :=
    fun hle => .of_follows ((follows_namedGroup? flags names _).mono hle)
  rcases input with _ | ⟨c, rest⟩
  · exact hflags
  by_cases hequal : c = '='
  · subst hequal
    exact .fails
  by_cases hbang : c = '!'
  · subst hbang
    exact .fails
  by_cases hangle : c = '<'
  · subst hangle
    rcases rest with _ | ⟨d, rest⟩
    · exact hnamed (Nat.zero_le _)
    by_cases hequal : d = '='
    · subst hequal
      exact .fails
    by_cases hbang : d = '!'
    · subst hbang
      exact .fails
    · simpa [specialGroup?, hequal, hbang] using @hnamed (d :: rest) (Nat.le_succ _)
  by_cases hletter : c = 'P'
  · subst hletter
    rcases rest with _ | ⟨d, rest⟩
    · exact hflags
    by_cases hangle : d = '<'
    · subst hangle
      exact hnamed (Nat.le_succ_of_le (Nat.le_succ _))
    · simpa [specialGroup?, hangle] using hflags
  · simpa [specialGroup?, hequal, hbang, hangle, hletter] using hflags

theorem resumes_opening? (flags : Flags) (names : List String) (input : List Char) :
    Resumes n input.length (List.replicate n '$') (opening? flags names input)
      (opening? flags names (input ++ closing n)) := by
  unfold opening?
  match skip flags input, skip flags (input ++ closing n), behind_skip (n := n) flags input with
  | _, _, .swallowed => exact .reads _ .swallowed
  | _, _, .behind rest hle =>
    rcases rest with _ | ⟨c, rest⟩
    · exact .reads _ (.behind [] hle)
    by_cases hmark : c = '?'
    · subst hmark
      exact (resumes_specialGroup? flags names rest).mono (Nat.le_of_succ_le hle)
    · have hplain : Resumes n input.length (List.replicate n '$')
          (some (Opening.group flags names, c :: rest))
          (some (Opening.group flags names, c :: rest ++ closing n)) :=
        .reads _ (.behind (c :: rest) hle)
      simpa [hmark] using hplain

/-! ## Parts -/

theorem parts?_nil (fuel : Nat) (p : Progress) : parts? (fuel + 1) p [] = some (p, []) := by
  simp [parts?, skip, skipFrom]

theorem resumes_closeGroup? (p inner : Progress) {bound : Nat} {rest rest' : List Char}
    (h : Behind n bound rest rest') :
    Resumes n bound (List.replicate n '$') (p.closeGroup? (inner, rest))
      (p.closeGroup? (inner, rest')) := by
  cases h with
  | swallowed => exact .fails
  | behind rest hle =>
    rcases rest with _ | ⟨c, rest⟩
    · exact .strays _
    by_cases hclosed : c = ')'
    · subst hclosed
      exact .reads _ (.behind rest (Nat.le_of_succ_le hle))
    · simpa [Progress.closeGroup?, hclosed] using Resumes.fails

theorem resumes_dollars (fuel : Nat) (p : Progress) {k bound : Nat} :
    Resumes n bound [] none (parts? fuel p (List.replicate k '$')) := by
  induction fuel generalizing p k with
  | zero => exact .fails
  | succ fuel ih =>
    cases k with
    | zero =>
      rw [List.replicate_zero, parts?_nil]
      exact .strays p
    | succ k =>
      have htext : OfClosing (List.replicate (k + 1) '$') :=
        fun c hc => .inr (List.eq_of_mem_replicate hc)
      rw [parts?, skip_ofClosing p.flags htext]
      exact ih _

/-- The parts of a group are read the same with a closing behind, where the input fits in the
fuel. -/
def PartsResume (n fuel : Nat) : Prop :=
  ∀ {fuel' bound : Nat} {p : Progress} {rest rest' : List Char}, Behind n bound rest rest' →
    bound < fuel → bound + n + 1 < fuel' →
    Resumes n bound [] (parts? fuel p rest) (parts? fuel' p rest')

theorem partsResume (n fuel : Nat) : PartsResume n fuel := by
  induction fuel with
  | zero => exact fun _ h => nomatch h
  | succ fuel ih =>
    intro fuel' bound p input input' hinput h h'
    rcases fuel' with _ | fuel'
    · cases h'
    cases hinput with
    | swallowed =>
      rw [parts?_nil, parts?_nil]
      exact .reads p .swallowed
    | behind input hle =>
      have hskip := behind_skip (n := n) p.flags input
      simp only [parts?]
      generalize skip p.flags input = text at hskip ⊢
      generalize skip p.flags (input ++ closing n) = text' at hskip ⊢
      cases hskip with
      | swallowed => exact .reads p .swallowed
      | behind _ hrest =>
        rcases text with _ | ⟨c, rest⟩
        · exact .reads p (.behind [] (Nat.zero_le _))
        rw [List.length_cons] at hrest
        have hnext : ∀ {q : Progress} {after after' : List Char},
            Behind n rest.length after after' →
            Resumes n bound [] (parts? fuel q after) (parts? fuel' q after') :=
          fun hafter => (ih hafter (by omega) (by omega)).mono (by omega)
        have hstray : ∀ q : Progress,
            Resumes n bound [] none (parts? fuel' q (List.replicate n '$')) :=
          fun q => resumes_dollars fuel' q
        -- What a group leaves is read on from its closing parenthesis.
        have hclose : ∀ {a b : Option (Progress × List Char)}, Resumes n rest.length [] a b →
            Resumes n bound []
              (a >>= fun inner => p.closeGroup? inner >>= fun q => parts? fuel q.1 q.2)
              (b >>= fun inner => p.closeGroup? inner >>= fun q => parts? fuel' q.1 q.2) :=
          fun hinner => hinner.bind
            (fun inner _ _ hleft => (resumes_closeGroup? p inner hleft).bind (fun _ _ _ => hnext)
              hstray)
            fun _ => .fails
        simp only [List.cons_append]
        refine .ofIte (.reads p (.behind (c :: rest) (Nat.le_trans hrest hle))) <|
          .ofIte (hnext (.behind rest (Nat.le_refl _))) <| .ofIte ?_ <| .ofIte ?_ ?_
        · refine (resumes_opening? p.flags p.names rest).bind (fun opening _ _ hafter => ?_)
            fun opening => ?_
          · cases opening with
            | directive flags => exact hnext hafter
            | group flags names => exact hclose (ih hafter (by omega) (by omega))
          · cases opening with
            | directive flags => exact hstray _
            | group flags names => exact hclose (resumes_dollars fuel' (.start flags names))
        · exact (resumes_repeat? p c rest).bind (fun _ _ _ => hnext) hstray
        · exact (resumes_atom? p.flags c rest).bind (fun _ _ _ => hnext) fun r => hstray (p.push r)

theorem parts?_mono {fuel : Nat} {p : Progress} {input : List Char} {x : Progress × List Char}
    (h : parts? fuel p input = some x) : parts? (fuel + 1) p input = some x := by
  induction fuel generalizing p input x with
  | zero => cases h
  | succ fuel ih =>
    rw [parts?] at h ⊢
    cases hskip : skip p.flags input with
    | nil => simpa only [hskip] using h
    | cons c rest =>
      simp only [hskip] at h ⊢
      split_ifs at h ⊢
      · exact h
      · exact ih h
      · obtain ⟨⟨opening, rest⟩, hopening, h⟩ := Option.bind_eq_some_iff.mp h
        refine Option.bind_eq_some_iff.mpr ⟨_, hopening, ?_⟩
        cases opening with
        | directive flags => exact ih h
        | group flags names =>
          obtain ⟨inner, hinner, h⟩ := Option.bind_eq_some_iff.mp h
          obtain ⟨read, hread, h⟩ := Option.bind_eq_some_iff.mp h
          refine Option.bind_eq_some_iff.mpr ⟨inner, ih hinner, ?_⟩
          exact Option.bind_eq_some_iff.mpr ⟨read, hread, ih h⟩
      all_goals
        obtain ⟨read, hread, h⟩ := Option.bind_eq_some_iff.mp h
        exact Option.bind_eq_some_iff.mpr ⟨read, hread, ih h⟩

theorem parts?_mono_le {fuel fuel' : Nat} {p : Progress} {input : List Char}
    {x : Progress × List Char} (hle : fuel ≤ fuel') (h : parts? fuel p input = some x) :
    parts? fuel' p input = some x := by
  induction hle with
  | refl => exact h
  | step _ ih => exact parts?_mono ih

theorem eq_parenthesis_of_parts? {fuel : Nat} {p q : Progress} {c : Char} {input rest : List Char}
    (h : parts? fuel p input = some (q, c :: rest)) : c = ')' := by
  induction fuel generalizing p input with
  | zero => cases h
  | succ fuel ih =>
    rw [parts?] at h
    cases hskip : skip p.flags input with
    | nil => simp [hskip] at h
    | cons d after =>
      simp only [hskip] at h
      split_ifs at h with hclosed
      · cases h
        exact hclosed
      · exact ih h
      · obtain ⟨⟨opening, after⟩, -, h⟩ := Option.bind_eq_some_iff.mp h
        cases opening with
        | directive flags => exact ih h
        | group flags names =>
          obtain ⟨inner, -, h⟩ := Option.bind_eq_some_iff.mp h
          obtain ⟨read, -, h⟩ := Option.bind_eq_some_iff.mp h
          exact ih h
      all_goals
        obtain ⟨read, -, h⟩ := Option.bind_eq_some_iff.mp h
        exact ih h

end GoldenCapture.Regex.Pattern
