import GoldenCapture.Text.Quoted
import Mathlib.Data.List.Basic

/-!
# Quoted texts can be told apart

Between the quotes each character is written so that its end can be seen: it stands for itself, or
it is a backslash with a mark, or a code in braces. So two texts that are quoted alike are one.
-/

namespace GoldenCapture

theorem append_delimiter_injective {α : Type} {delimiter : α} {as bs x y : List α}
    (ha : delimiter ∉ as) (hb : delimiter ∉ bs)
    (h : as ++ delimiter :: x = bs ++ delimiter :: y) : as = bs ∧ x = y := by
  induction as generalizing bs with
  | nil =>
    cases bs with
    | nil => simpa using h
    | cons b bs =>
      simp only [List.nil_append, List.cons_append, List.cons.injEq] at h
      exact absurd h.1 (List.ne_of_not_mem_cons hb)
  | cons a as ih =>
    cases bs with
    | nil =>
      simp only [List.nil_append, List.cons_append, List.cons.injEq] at h
      exact absurd h.1.symm (List.ne_of_not_mem_cons ha)
    | cons b bs =>
      simp only [List.cons_append, List.cons.injEq] at h
      obtain ⟨rfl, hrest⟩ := ih (List.not_mem_of_not_mem_cons ha)
        (List.not_mem_of_not_mem_cons hb) h.2
      exact ⟨by rw [h.1], hrest⟩

namespace Quoted

/-! ## Hexadecimal digits -/

theorem digitChar_injective {m n : Nat} (hm : m < 16) (hn : n < 16)
    (h : m.digitChar = n.digitChar) : m = n := by
  have hall : ∀ m n : Fin 16, m.val.digitChar = n.val.digitChar → m = n := by decide
  exact congrArg Fin.val (hall ⟨m, hm⟩ ⟨n, hn⟩ h)

theorem toDigits_injective {m n : Nat} (h : Nat.toDigits 16 m = Nat.toDigits 16 n) : m = n := by
  induction m using Nat.strongRecOn generalizing n with
  | _ m ih =>
    rw [Nat.toDigits_eq_if (n := m) (by omega), Nat.toDigits_eq_if (n := n) (by omega)] at h
    split at h <;> split at h
    · exact digitChar_injective ‹_› ‹_› (List.singleton_inj.mp h)
    · have := congrArg List.length h
      simp [Nat.toDigits_ne_nil] at this
    · have := congrArg List.length h
      simp [Nat.toDigits_ne_nil] at this
    · -- The last digits agree, and so do the numbers that are left without them.
      obtain ⟨hfront, hlast⟩ := List.append_singleton_inj.mp h
      have hdiv := ih (m / 16) (by omega) hfront
      have hmod := digitChar_injective (Nat.mod_lt _ (by omega)) (Nat.mod_lt _ (by omega)) hlast
      omega

theorem brace_not_mem_toDigits (n : Nat) : '\x7d' ∉ Nat.toDigits 16 n := by
  induction n using Nat.strongRecOn with
  | _ n ih =>
    rw [Nat.toDigits_eq_if (by omega)]
    split
    · simp
    · simp [ih (n / 16) (by omega)]

/-! ## Characters -/

/-- Characters that are written as a backslash and a mark. -/
def marks : List (Char × Char) :=
  [('"', '"'), ('\\', '\\'), ('\n', 'n'), ('\r', 'r'), ('\t', 't'), ('\x00', '0')]

theorem encodeChar_cases (c : Char) :
    (c ≠ '\\' ∧ encodeChar c = [c]) ∨ (∃ m, (c, m) ∈ marks ∧ encodeChar c = ['\\', m]) ∨
      encodeChar c = codeEscape c := by
  have hnull : c.toNat = 0 → c = '\x00' := fun h => Char.ext (UInt32.toNat_inj.mp h)
  unfold encodeChar marks
  split_ifs <;> simp_all

theorem codeEscape_append_injective {c d : Char} {x y : List Char}
    (h : codeEscape c ++ x = codeEscape d ++ y) : c = d ∧ x = y := by
  simp only [codeEscape, List.append_assoc, List.append_cancel_left_eq, List.singleton_append] at h
  obtain ⟨hdigits, hrest⟩ := append_delimiter_injective (brace_not_mem_toDigits _)
    (brace_not_mem_toDigits _) h
  exact ⟨Char.ext (UInt32.toNat_inj.mp (toDigits_injective hdigits)), hrest⟩

theorem encodeChar_append_injective {c d : Char} {x y : List Char}
    (h : encodeChar c ++ x = encodeChar d ++ y) : c = d ∧ x = y := by
  have hmarks : ∀ p ∈ marks, ∀ q ∈ marks, p.2 = q.2 → p.1 = q.1 := by decide
  have hcode : ∀ p ∈ marks, p.2 ≠ 'u' := by decide
  have hescape : ∀ c, codeEscape c =
      '\\' :: 'u' :: '\x7b' :: (Nat.toDigits 16 c.toNat ++ ['\x7d']) := fun _ => rfl
  rcases encodeChar_cases c with ⟨hc, hcs⟩ | ⟨m, hc, hcs⟩ | hcs <;>
    rcases encodeChar_cases d with ⟨hd, hds⟩ | ⟨n, hd, hds⟩ | hds <;> rw [hcs, hds] at h
  · simpa using h
  · simp [hc] at h
  · simp [hescape, hc] at h
  · simp [hd.symm] at h
  · simp only [List.cons_append, List.nil_append, List.cons.injEq, true_and] at h
    exact ⟨hmarks _ hc _ hd h.1, h.2⟩
  · simp [hescape, hcode _ hc] at h
  · simp [hescape, hd.symm] at h
  · simp [hescape, (hcode _ hd).symm] at h
  · exact codeEscape_append_injective h

theorem encodeChar_ne_nil (c : Char) : encodeChar c ≠ [] := by
  rcases encodeChar_cases c with ⟨-, h⟩ | ⟨m, -, h⟩ | h <;> simp [h, codeEscape]

theorem head_encodeChar (c : Char) : (encodeChar c).head? ≠ some '"' := by
  unfold encodeChar codeEscape
  split_ifs <;> simp_all

theorem flatMap_encodeChar_append_injective {s t x y : List Char}
    (h : s.flatMap encodeChar ++ '"' :: x = t.flatMap encodeChar ++ '"' :: y) :
    s = t ∧ x = y := by
  have hquote : ∀ (c : Char) (z z' : List Char), '"' :: z ≠ encodeChar c ++ z' :=
    fun c z z' heq => by
      obtain ⟨d, rest, hd⟩ := List.exists_cons_of_ne_nil (encodeChar_ne_nil c)
      have hhead := head_encodeChar c
      rw [hd] at heq hhead
      exact hhead (congrArg some (List.cons.inj heq).1.symm)
  induction s generalizing t with
  | nil =>
    cases t with
    | nil => exact ⟨rfl, (List.cons.inj h).2⟩
    | cons d t => exact absurd (List.append_assoc .. ▸ h) (hquote d x _)
  | cons c s ih =>
    cases t with
    | nil => exact absurd (List.append_assoc .. ▸ h).symm (hquote c y _)
    | cons d t =>
      simp only [List.flatMap_cons, List.append_assoc] at h
      obtain ⟨rfl, hrest⟩ := encodeChar_append_injective h
      obtain ⟨rfl, hxy⟩ := ih hrest
      exact ⟨rfl, hxy⟩

end Quoted

theorem quoted_injective {s t : String} (h : quoted s = quoted t) : s = t := by
  have hlist := (List.cons.inj (String.ofList_injective h)).2
  exact String.toList_injective (Quoted.flatMap_encodeChar_append_injective hlist).1

end GoldenCapture
