import Mathlib.Data.String.Basic
import Mathlib.Tactic.SplitIfs

/-!
# The order of strings is the order of their bytes

Strings are compared character by character. Their UTF-8 bytes, compared one by one, come in the
same order: of two characters the larger one has the larger bytes, at the first place where they
differ.
-/

namespace GoldenCapture

def utf8Bytes (s : String) : List UInt8 := s.toUTF8.data.toList

theorem utf8Bytes_eq (s : String) : utf8Bytes s = s.toList.flatMap String.utf8EncodeChar := by
  rw [utf8Bytes, String.toUTF8_eq_toByteArray, ← String.utf8Encode_toList, List.utf8Encode,
    List.data_toByteArray]

theorem fourBytes_lt {a b c d a' b' c' d' : Nat} (ha : a < 8) (hb : b < 64) (hc : c < 64)
    (hd : d < 64) (ha' : a' < 8) (hb' : b' < 64) (hc' : c' < 64) (hd' : d' < 64)
    (h : 262144 * a + 4096 * b + 64 * c + d < 262144 * a' + 4096 * b' + 64 * c' + d')
    (x y : List UInt8) :
    [.ofNat (a + 240), .ofNat (b + 128), .ofNat (c + 128), .ofNat (d + 128)] ++ x <
      [.ofNat (a' + 240), .ofNat (b' + 128), .ofNat (c' + 128), .ofNat (d' + 128)] ++ y := by
  simp only [List.cons_append, List.nil_append, List.cons_lt_cons_iff, UInt8.lt_iff_toNat_lt,
    ← UInt8.toNat_inj, UInt8.toNat_ofNat']
  omega

theorem toNat_lt (c : Char) : c.val.toNat < 0x110000 := by
  rcases c.valid with h | ⟨-, h⟩
  · omega
  · exact h

theorem utf8EncodeChar_lt {c d : Char} (h : c < d) (x y : List UInt8) :
    String.utf8EncodeChar c ++ x < String.utf8EncodeChar d ++ y := by
  have hlt : c.val.toNat < d.val.toNat := h
  have hd := toNat_lt d
  simp only [String.utf8EncodeChar]
  generalize c.val.toNat = v at *
  generalize d.val.toNat = w at *
  by_cases hlong : 65535 < v
  · rw [if_neg (by omega), if_neg (by omega), if_neg (by omega), if_neg (by omega),
      if_neg (by omega), if_neg (by omega)]
    refine fourBytes_lt ?_ ?_ ?_ ?_ ?_ ?_ ?_ ?_ ?_ x y <;> omega
  · split_ifs <;>
    · simp only [List.cons_append, List.nil_append, List.cons_lt_cons_iff,
        UInt8.lt_iff_toNat_lt, ← UInt8.toNat_inj, UInt8.toNat_ofNat']
      omega

theorem flatMap_utf8_lt {s t : List Char} (h : s < t) :
    s.flatMap String.utf8EncodeChar < t.flatMap String.utf8EncodeChar := by
  induction s generalizing t with
  | nil =>
    cases t with
    | nil => simp at h
    | cons d t =>
      obtain ⟨b, bytes, hbytes⟩ :=
        List.exists_cons_of_ne_nil (String.utf8EncodeChar_ne_nil (c := d))
      simp [hbytes]
  | cons c s ih =>
    cases t with
    | nil => simp at h
    | cons d t =>
      rcases List.cons_lt_cons_iff.mp h with hlt | ⟨rfl, hlt⟩
      · -- The texts differ first in `c` and `d`, and their bytes within those of `c` and `d`.
        exact utf8EncodeChar_lt hlt _ _
      · exact List.append_left_lt (ih hlt)

theorem lt_iff_utf8Bytes_lt {s t : String} : s < t ↔ utf8Bytes s < utf8Bytes t := by
  rw [utf8Bytes_eq, utf8Bytes_eq]
  constructor
  · exact fun h => flatMap_utf8_lt (String.lt_iff_toList_lt.mp h)
  · intro h
    rcases lt_trichotomy s t with hlt | rfl | hlt
    · exact hlt
    · exact absurd h (List.lt_irrefl _)
    · exact absurd h (List.lt_asymm (flatMap_utf8_lt (String.lt_iff_toList_lt.mp hlt)))

end GoldenCapture
