import GoldenCapture.Proofs.Number.Numerals

/-!
# Reading a value off its text

Strings are quoted and numbers written out, but keys stand as they are. If no key looks like the
end of a key or of a map, a value can be read off its text up to the types of its numbers.
-/

namespace GoldenCapture

/-! ## Keys -/

/-- A key that shows where it ends: it holds no colon before a space and begins with no brace. -/
def LegibleKey (key : String) : Prop :=
  ¬ [':', ' '] <:+: key.toList ∧ key.toList.head? ≠ some '\x7d'

theorem infix_of_cons {α : Type} {a : α} {l pattern : List α} (h : pattern <:+: l) :
    pattern <:+: a :: l := h.trans (List.suffix_cons a l).isInfix

theorem append_colon_injective {as bs x y : List Char} (ha : ¬ [':', ' '] <:+: as)
    (hb : ¬ [':', ' '] <:+: bs) (h : as ++ ':' :: ' ' :: x = bs ++ ':' :: ' ' :: y) :
    as = bs ∧ x = y := by
  induction as generalizing bs with
  | nil =>
    match bs, hb, h with
    | [], _, h => simpa using h
    | [b], _, h => simp at h
    | b :: c :: bs, hb, h =>
      simp only [List.nil_append, List.cons_append, List.cons.injEq] at h
      obtain ⟨rfl, rfl, -⟩ := h
      exact absurd (List.prefix_append [':', ' '] bs).isInfix hb
  | cons a as ih =>
    cases bs with
    | nil =>
      match as, ha, h with
      | [], _, h => simp at h
      | c :: as, ha, h =>
        simp only [List.nil_append, List.cons_append, List.cons.injEq] at h
        obtain ⟨rfl, rfl, -⟩ := h
        exact absurd (List.prefix_append [':', ' '] as).isInfix ha
    | cons b bs =>
      simp only [List.cons_append, List.cons.injEq] at h
      obtain ⟨rfl, hrest⟩ := ih (fun hinfix => ha (infix_of_cons hinfix))
        (fun hinfix => hb (infix_of_cons hinfix)) h.2
      exact ⟨by rw [h.1], hrest⟩

namespace Value

mutual

/-- Every key of a map inside passes, at any depth. -/
def EveryKey (pass : String → Prop) : Value → Prop
  | seq items => EveryKeyItems pass items
  | map fields => EveryKeyFields pass fields
  | _ => True

def EveryKeyItems (pass : String → Prop) : List Value → Prop
  | [] => True
  | v :: rest => EveryKey pass v ∧ EveryKeyItems pass rest

def EveryKeyFields (pass : String → Prop) : List (String × Value) → Prop
  | [] => True
  | (key, v) :: rest => pass key ∧ EveryKey pass v ∧ EveryKeyFields pass rest

end

/-! ## Values alike -/

mutual

/-- One shape, one set of keys, and leaves in a relation pair by pair. -/
inductive Like (leaf : Value → Value → Prop) : Value → Value → Prop
  | leaf {v w : Value} (h : leaf v w) : Like leaf v w
  | seq {items others : List Value} (h : LikeItems leaf items others) :
      Like leaf (seq items) (seq others)
  | map {fields others : List (String × Value)} (h : LikeFields leaf fields others) :
      Like leaf (map fields) (map others)

inductive LikeItems (leaf : Value → Value → Prop) : List Value → List Value → Prop
  | nil : LikeItems leaf [] []
  | cons {v w : Value} {items others : List Value} (h : Like leaf v w)
      (hrest : LikeItems leaf items others) : LikeItems leaf (v :: items) (w :: others)

inductive LikeFields (leaf : Value → Value → Prop) :
    List (String × Value) → List (String × Value) → Prop
  | nil : LikeFields leaf [] []
  | cons {key : String} {v w : Value} {fields others : List (String × Value)} (h : Like leaf v w)
      (hrest : LikeFields leaf fields others) :
      LikeFields leaf ((key, v) :: fields) ((key, w) :: others)

end

/-- What a number is to its reader, whatever its type. -/
def numeral? : Value → Option Numeral
  | int i => some (.finite (i.toInt < 0) i.toInt.natAbs)
  | uint u => some (.finite false u.toNat)
  | double d => some d.numeral
  | _ => none

/-- One leaf, or two numbers with one numeral. -/
def Rewritten (v w : Value) : Prop :=
  v = w ∨ ∃ n, v.numeral? = some n ∧ w.numeral? = some n

theorem toString_int (a : Int) :
    toString a = (if decide (a < 0) then "-" else "") ++ toString a.natAbs := by
  rw [Int.toString_eq_repr, Int.repr_eq_if]
  by_cases h : 0 ≤ a
  · rw [if_pos h, decide_eq_false (by omega), show a.toNat = a.natAbs by omega]
    exact (String.empty_append).symm
  · rw [if_neg h, decide_eq_true (by omega), show (-a).toNat = a.natAbs by omega]
    rfl

theorem writtenAs_of_numeral? {v : Value} {n : Numeral} (h : v.numeral? = some n) :
    Numeral.WrittenAs v.display.toList n := by
  have hnat : ∀ n : Nat, PointText (toString n).toList n := fun n => by
    simpa using PointText.ofNat n
  cases v <;> cases h
  case int i =>
    unfold display
    rw [toString_int]
    exact Numeral.writtenAs_signed (hnat _) _
  case uint u => exact .positive (hnat u.toNat)
  case double d => exact d.writtenAs

/-! ## Texts -/

def itemsTail : List Value → List Char
  | [] => [']']
  | v :: rest => ',' :: ' ' :: (v.display.toList ++ itemsTail rest)

def fieldText (field : String × Value) : List Char :=
  field.1.toList ++ ':' :: ' ' :: field.2.display.toList

def fieldsTail : List (String × Value) → List Char
  | [] => ['}']
  | field :: rest => ',' :: ' ' :: (fieldText field ++ fieldsTail rest)

def itemsText : List Value → List Char
  | [] => [']']
  | v :: rest => v.display.toList ++ itemsTail rest

def fieldsText : List (String × Value) → List Char
  | [] => ['\x7d']
  | field :: rest => fieldText field ++ fieldsTail rest

theorem toList_displayItems (items : List Value) :
    (", ".intercalate (displayItems items) ++ "]").toList = itemsText items := by
  cases items with
  | nil => rfl
  | cons v rest =>
    induction rest generalizing v with
    | nil => simp [displayItems, itemsText, itemsTail]
    | cons w rest ih =>
      have hrest := ih w
      simp only [displayItems, String.intercalate_cons_cons, String.toList_append] at hrest ⊢
      simp only [List.append_assoc, hrest]
      rfl

theorem toList_displayFields (fields : List (String × Value)) :
    (", ".intercalate (displayFields fields) ++ "\x7d").toList = fieldsText fields := by
  cases fields with
  | nil => rfl
  | cons field rest =>
    induction rest generalizing field with
    | nil => simp [displayFields, fieldsText, fieldsTail, fieldText]
    | cons other rest ih =>
      have hrest := ih other
      simp only [displayFields, String.intercalate_cons_cons, String.toList_append] at hrest ⊢
      simp only [List.append_assoc, hrest]
      simp [fieldsText, fieldsTail, fieldText]

theorem toList_display_seq (items : List Value) :
    (seq items).display.toList = '[' :: itemsText items := by
  rw [← toList_displayItems, display, String.append_assoc, String.toList_append]
  rfl

theorem toList_display_map (fields : List (String × Value)) :
    (map fields).display.toList = '\x7b' :: fieldsText fields := by
  rw [← toList_displayFields, display, String.append_assoc, String.toList_append]
  rfl

/-! ## Where a text ends -/

/-- What can follow a value in a text. -/
def closers : List Char := [',', ']', '\x7d']

/-- What a string, a list and a map begin with. -/
def openers : List Char := ['"', '[', '\x7b']

def opener : Value → Option Char
  | string _ => some '"'
  | seq _ => some '['
  | map _ => some '\x7b'
  | _ => none

/-- The rest of a text behind a value. -/
def Closes (rest : List Char) : Prop := ∀ c, rest.head? = some c → c ∈ closers

theorem closes_itemsTail (items : List Value) (rest : List Char) :
    Closes (itemsTail items ++ rest) := by
  intro c hc
  cases items <;> cases hc <;> decide

theorem closes_fieldsTail (fields : List (String × Value)) (rest : List Char) :
    Closes (fieldsTail fields ++ rest) := by
  intro c hc
  cases fields <;> cases hc <;> decide

theorem append_closes_injective {as bs x y : List Char} (ha : ∀ c ∈ as, c ∉ closers)
    (hb : ∀ c ∈ bs, c ∉ closers) (hx : Closes x) (hy : Closes y) (h : as ++ x = bs ++ y) :
    as = bs ∧ x = y := by
  induction as generalizing bs with
  | nil =>
    cases bs with
    | nil => exact ⟨rfl, h⟩
    | cons b bs =>
      exact absurd (hx b (by rw [← List.nil_append x, h]; rfl)) (hb b List.mem_cons_self)
  | cons a as ih =>
    cases bs with
    | nil => exact absurd (hy a (by rw [← List.nil_append y, ← h]; rfl)) (ha a List.mem_cons_self)
    | cons b bs =>
      obtain ⟨rfl, hrest⟩ := List.cons.inj h
      obtain ⟨rfl, hxy⟩ := ih (fun c hc => ha c (List.mem_cons_of_mem _ hc))
        (fun c hc => hb c (List.mem_cons_of_mem _ hc)) hrest
      exact ⟨rfl, hxy⟩

/-- No mark of the structure of a value. -/
def IsPlain (c : Char) : Prop := c ∉ closers ∧ c ∉ openers

theorem isPlain_of_isDigit {c : Char} (h : c.isDigit = true) : IsPlain c := by
  constructor <;> intro hmem <;>
    simp only [closers, openers, List.mem_cons, List.not_mem_nil, or_false] at hmem <;>
    obtain rfl | rfl | rfl := hmem <;> exact absurd h (by decide)

theorem isPlain_of_pointText {text : List Char} {q : ℚ} (h : PointText text q) :
    ∀ c ∈ text, IsPlain c := by
  intro c hc
  cases h with
  | integral hdigits => exact isPlain_of_isDigit (hdigits c hc)
  | decimal hwhole _ hfraction =>
    rw [List.mem_append, List.mem_cons] at hc
    obtain hc | rfl | hc := hc
    · exact isPlain_of_isDigit (hwhole c hc)
    · exact ⟨by decide, by decide⟩
    · exact isPlain_of_isDigit (hfraction c hc)

theorem isPlain_of_writtenAs {text : List Char} {n : Numeral} (h : Numeral.WrittenAs text n) :
    ∀ c ∈ text, IsPlain c := by
  intro c hc
  cases h with
  | nan | infinity | negativeInfinity =>
    revert c
    simp [IsPlain, closers, openers]
  | positive h => exact isPlain_of_pointText h c hc
  | negative h =>
    obtain rfl | hc := List.mem_cons.mp hc
    · exact ⟨by decide, by decide⟩
    · exact isPlain_of_pointText h c hc

theorem isPlain_of_word {v : Value} (h : v.opener = none) : ∀ c ∈ v.display.toList, IsPlain c := by
  have hwords : ∀ c ∈ "true".toList ++ "false".toList ++ "<empty>".toList, IsPlain c := by
    simp [IsPlain, closers, openers]
  cases v <;> cases h
  case bool b =>
    intro c hc
    cases b
    · exact hwords c (List.mem_append_left _ (List.mem_append_right _ hc))
    · exact hwords c (List.mem_append_left _ (List.mem_append_left _ hc))
  case empty => exact fun c hc => hwords c (List.mem_append_right _ hc)
  case int i => exact isPlain_of_writtenAs (writtenAs_of_numeral? rfl)
  case uint u => exact isPlain_of_writtenAs (writtenAs_of_numeral? rfl)
  case double d => exact isPlain_of_writtenAs (writtenAs_of_numeral? rfl)

theorem display_ne_nil_of_word {v : Value} (h : v.opener = none) : v.display.toList ≠ [] := by
  cases v <;> cases h
  case bool b => cases b <;> exact List.cons_ne_nil _ _
  case empty => exact List.cons_ne_nil _ _
  case int i => exact (writtenAs_of_numeral? rfl).ne_nil
  case uint u => exact (writtenAs_of_numeral? rfl).ne_nil
  case double d => exact (writtenAs_of_numeral? rfl).ne_nil

theorem exists_display (v : Value) : ∃ c rest, v.display.toList = c :: rest ∧ c ∉ closers ∧
    v.opener = if c ∈ openers then some c else none := by
  have hword : v.opener = none → ∃ c rest, v.display.toList = c :: rest ∧ c ∉ closers ∧
      v.opener = if c ∈ openers then some c else none := fun hopener => by
    obtain ⟨c, rest, htext⟩ := List.exists_cons_of_ne_nil (display_ne_nil_of_word hopener)
    obtain ⟨hclosers, hopeners⟩ := isPlain_of_word hopener c (htext ▸ List.mem_cons_self)
    exact ⟨c, rest, htext, hclosers, by rw [hopener, if_neg hopeners]⟩
  cases v with
  | string s => exact ⟨'"', _, String.toList_ofList, by decide, rfl⟩
  | seq items => exact ⟨'[', _, toList_display_seq items, by decide, rfl⟩
  | map fields => exact ⟨'\x7b', _, toList_display_map fields, by decide, rfl⟩
  | bool | int | uint | double | empty => exact hword rfl

/-! ## Reading -/

theorem opener_eq_of_append {v w : Value} {x y : List Char}
    (h : v.display.toList ++ x = w.display.toList ++ y) : v.opener = w.opener := by
  obtain ⟨c, rest, htext, -, hv⟩ := v.exists_display
  obtain ⟨d, rest', htext', -, hw⟩ := w.exists_display
  rw [htext, htext'] at h
  rw [hv, hw, (List.cons.inj h).1]

theorem not_closes_display {v : Value} {x y : List Char} (hx : Closes x) :
    x ≠ v.display.toList ++ y := by
  obtain ⟨c, rest, htext, hcloser, -⟩ := v.exists_display
  intro h
  rw [htext] at h
  exact hcloser (hx c (by rw [h]; rfl))

theorem not_writtenAs_word {v : Value} {n : Numeral} (hword : v.opener = none)
    (hv : v.numeral? = none) : ¬ Numeral.WrittenAs v.display.toList n := by
  have hletter : ∀ {c : Char} {rest : List Char}, c ∉ ['N', 'i', '-'] → c.isDigit = false →
      ¬ Numeral.WrittenAs (c :: rest) n := fun hmarks hdigit h => by
    cases h with
    | nan | infinity | negativeInfinity | negative => simp at hmarks
    | positive h => exact absurd h.isDigit_head (by simp [hdigit])
  cases v <;> cases hword <;> cases hv
  case bool b => cases b <;> exact hletter (by decide) rfl
  case empty => exact hletter (by decide) rfl

theorem eq_of_word {v w : Value} (hv : v.opener = none) (hv' : v.numeral? = none)
    (hw : w.opener = none) (hw' : w.numeral? = none) (h : v.display.toList = w.display.toList) :
    v = w := by
  have hcases : ∀ v : Value, v.opener = none → v.numeral? = none →
      v ∈ [bool true, bool false, empty] := by
    rintro (b | _ | _ | _ | _ | _ | _ | _) hopener hnumeral <;> cases hopener <;> cases hnumeral
    · cases b <;> simp
    · simp
  have htexts : ∀ v ∈ [bool true, bool false, empty], ∀ w ∈ [bool true, bool false, empty],
      v.display.toList = w.display.toList → v = w := by
    simp [display]
  exact htexts v (hcases v hv hv') w (hcases w hw hw') h

theorem rewritten_of_word {v w : Value} (hv : v.opener = none) (hw : w.opener = none)
    (h : v.display.toList = w.display.toList) : Rewritten v w := by
  cases hn : v.numeral? with
  | none =>
    cases hn' : w.numeral? with
    | none => exact .inl (eq_of_word hv hn hw hn' h)
    | some n' => exact absurd (h ▸ writtenAs_of_numeral? hn') (not_writtenAs_word hv hn)
  | some n =>
    cases hn' : w.numeral? with
    | none => exact absurd (h ▸ writtenAs_of_numeral? hn) (not_writtenAs_word hw hn')
    | some n' =>
      have hsame := (writtenAs_of_numeral? hn).unique (h ▸ writtenAs_of_numeral? hn')
      exact .inr ⟨n, hn, hsame ▸ hn'⟩

theorem like_of_word {v w : Value} {x y : List Char} (hv : v.opener = none) (hx : Closes x)
    (hy : Closes y) (h : v.display.toList ++ x = w.display.toList ++ y) :
    Like Rewritten v w ∧ x = y := by
  have hw : w.opener = none := (opener_eq_of_append h).symm.trans hv
  obtain ⟨htext, hxy⟩ := append_closes_injective (fun c hc => (isPlain_of_word hv c hc).1)
    (fun c hc => (isPlain_of_word hw c hc).1) hx hy h
  exact ⟨.leaf (rewritten_of_word hv hw htext), hxy⟩

theorem fieldText_append_injective {key other : String} {v w : Value} {x y : List Char}
    (hkey : LegibleKey key) (hother : LegibleKey other)
    (h : fieldText (key, v) ++ x = fieldText (other, w) ++ y) :
    key = other ∧ v.display.toList ++ x = w.display.toList ++ y := by
  simp only [fieldText, List.append_assoc, List.cons_append] at h
  obtain ⟨hkeys, hrest⟩ := append_colon_injective hkey.1 hother.1 h
  exact ⟨String.toList_injective hkeys, hrest⟩

theorem not_brace_fieldText {key : String} {v : Value} {x y : List Char} (hkey : LegibleKey key) :
    '\x7d' :: x ≠ fieldText (key, v) ++ y := by
  intro h
  simp only [fieldText, List.append_assoc, List.cons_append] at h
  cases hlist : key.toList with
  | nil =>
    rw [hlist] at h
    cases h
  | cons c rest =>
    rw [hlist] at h
    exact hkey.2 (by rw [hlist, (List.cons.inj h).1]; rfl)

mutual

theorem like_of_append : ∀ (v w : Value) {x y : List Char}, v.EveryKey LegibleKey →
    w.EveryKey LegibleKey → Closes x → Closes y →
    v.display.toList ++ x = w.display.toList ++ y → Like Rewritten v w ∧ x = y
  | string s, w, x, y, _, _, _, _, h => by
    have hopener := opener_eq_of_append h
    cases w <;> cases hopener
    rename_i t
    simp only [display, quoted, String.toList_ofList, List.cons_append, List.append_assoc,
      List.cons.injEq, true_and] at h
    obtain ⟨hlist, hxy⟩ := Quoted.flatMap_encodeChar_append_injective h
    rw [String.toList_injective hlist]
    exact ⟨.leaf (.inl rfl), hxy⟩
  | seq items, w, x, y, hv, hw, hx, hy, h => by
    have hopener := opener_eq_of_append h
    cases w <;> cases hopener
    rename_i others
    rw [toList_display_seq, toList_display_seq, List.cons_append, List.cons_append] at h
    have htexts := List.tail_eq_of_cons_eq h
    match items, others, hv, hw, htexts with
    | [], [], _, _, htexts => exact ⟨.seq .nil, (List.cons.inj htexts).2⟩
    | [], w :: others, _, _, htexts =>
      rw [itemsText, itemsText, List.append_assoc] at htexts
      exact absurd htexts (not_closes_display (closes_itemsTail [] x))
    | v :: items, [], _, _, htexts =>
      rw [itemsText, itemsText, List.append_assoc] at htexts
      exact absurd htexts.symm (not_closes_display (closes_itemsTail [] y))
    | v :: items, w :: others, hv, hw, htexts =>
      rw [itemsText, itemsText, List.append_assoc, List.append_assoc] at htexts
      obtain ⟨hfirst, hrest⟩ := like_of_append v w hv.1 hw.1 (closes_itemsTail _ _)
        (closes_itemsTail _ _) htexts
      obtain ⟨hitems, hxy⟩ := likeItems_of_append items others hv.2 hw.2 hx hy hrest
      exact ⟨.seq (.cons hfirst hitems), hxy⟩
  | map fields, w, x, y, hv, hw, hx, hy, h => by
    have hopener := opener_eq_of_append h
    cases w <;> cases hopener
    rename_i others
    rw [toList_display_map, toList_display_map, List.cons_append, List.cons_append] at h
    have htexts := List.tail_eq_of_cons_eq h
    match fields, others, hv, hw, htexts with
    | [], [], _, _, htexts => exact ⟨.map .nil, (List.cons.inj htexts).2⟩
    | [], (other, w) :: others, _, hw, htexts =>
      rw [fieldsText, fieldsText, List.append_assoc] at htexts
      exact absurd htexts (not_brace_fieldText hw.1)
    | (key, v) :: fields, [], hv, _, htexts =>
      rw [fieldsText, fieldsText, List.append_assoc] at htexts
      exact absurd htexts.symm (not_brace_fieldText hv.1)
    | (key, v) :: fields, (other, w) :: others, hv, hw, htexts =>
      rw [fieldsText, fieldsText, List.append_assoc, List.append_assoc] at htexts
      obtain ⟨rfl, hvalues⟩ := fieldText_append_injective hv.1 hw.1 htexts
      obtain ⟨hfirst, hrest⟩ := like_of_append v w hv.2.1 hw.2.1 (closes_fieldsTail _ _)
        (closes_fieldsTail _ _) hvalues
      obtain ⟨hfields, hxy⟩ := likeFields_of_append fields others hv.2.2 hw.2.2 hx hy hrest
      exact ⟨.map (.cons hfirst hfields), hxy⟩
  | bool _, _, _, _, _, _, hx, hy, h => like_of_word rfl hx hy h
  | int _, _, _, _, _, _, hx, hy, h => like_of_word rfl hx hy h
  | uint _, _, _, _, _, _, hx, hy, h => like_of_word rfl hx hy h
  | double _, _, _, _, _, _, hx, hy, h => like_of_word rfl hx hy h
  | empty, _, _, _, _, _, hx, hy, h => like_of_word rfl hx hy h

theorem likeItems_of_append : ∀ (items others : List Value) {x y : List Char},
    EveryKeyItems LegibleKey items → EveryKeyItems LegibleKey others → Closes x → Closes y →
    itemsTail items ++ x = itemsTail others ++ y → LikeItems Rewritten items others ∧ x = y
  | [], others, x, y, _, _, _, _, h => by
    cases others with
    | nil => exact ⟨.nil, (List.cons.inj h).2⟩
    | cons => cases h
  | v :: items, others, x, y, hv, hw, hx, hy, h => by
    cases others with
    | nil => cases h
    | cons w others =>
      simp only [itemsTail, List.cons_append, List.append_assoc, List.cons.injEq, true_and] at h
      obtain ⟨hfirst, hrest⟩ := like_of_append v w hv.1 hw.1 (closes_itemsTail _ _)
        (closes_itemsTail _ _) h
      obtain ⟨hitems, hxy⟩ := likeItems_of_append items others hv.2 hw.2 hx hy hrest
      exact ⟨.cons hfirst hitems, hxy⟩

theorem likeFields_of_append : ∀ (fields others : List (String × Value)) {x y : List Char},
    EveryKeyFields LegibleKey fields → EveryKeyFields LegibleKey others → Closes x → Closes y →
    fieldsTail fields ++ x = fieldsTail others ++ y → LikeFields Rewritten fields others ∧ x = y
  | [], others, x, y, _, _, _, _, h => by
    cases others with
    | nil => exact ⟨.nil, (List.cons.inj h).2⟩
    | cons => cases h
  | (key, v) :: fields, others, x, y, hv, hw, hx, hy, h => by
    cases others with
    | nil => cases h
    | cons field others =>
      obtain ⟨other, w⟩ := field
      simp only [fieldsTail, List.cons_append, List.append_assoc, List.cons.injEq, true_and] at h
      obtain ⟨rfl, hvalues⟩ := fieldText_append_injective hv.1 hw.1 h
      obtain ⟨hfirst, hrest⟩ := like_of_append v w hv.2.1 hw.2.1 (closes_fieldsTail _ _)
        (closes_fieldsTail _ _) hvalues
      obtain ⟨hfields, hxy⟩ := likeFields_of_append fields others hv.2.2 hw.2.2 hx hy hrest
      exact ⟨.cons hfirst hfields, hxy⟩

end

/-- A value can be read off its text up to the types of its numbers. -/
theorem like_of_display {v w : Value} (hv : v.EveryKey LegibleKey) (hw : w.EveryKey LegibleKey)
    (h : v.display = w.display) : Like Rewritten v w := by
  have hnil : Closes [] := fun c hc => by cases hc
  exact (like_of_append v w hv hw hnil hnil (by rw [h])).1

/-- A key that is not legible can pass for another field. -/
example : (map [("a: 1, b", int 2)]).display = (map [("a", int 1), ("b", int 2)]).display := by
  decide +kernel

/-! ## Types of numbers -/

/-- One leaf, or two numbers of one type with one numeral. -/
def Rewritten.Typed (v w : Value) : Prop := Rewritten v w ∧ v.typeName = w.typeName

theorem equal_of_typed {v w : Value} (h : Rewritten.Typed v w) : v.Equal w := by
  obtain ⟨rfl | ⟨n, hv, hw⟩, htype⟩ := h
  · rfl
  have hnumeral : v.numeral? = w.numeral? := hv.trans hw.symm
  cases v <;> cases w <;> try contradiction
  case int.int i j =>
    obtain ⟨hsign, habsolute⟩ := Numeral.finite.inj (Option.some.inj hnumeral)
    rw [decide_eq_decide] at hsign
    rw [Nat.cast_inj] at habsolute
    rw [Int64.toInt_inj.mp (show i.toInt = j.toInt by omega)]
    rfl
  case uint.uint u u' =>
    obtain ⟨-, habsolute⟩ := Numeral.finite.inj (Option.some.inj hnumeral)
    rw [UInt64.toNat_inj.mp (Nat.cast_injective habsolute)]
    rfl
  case double.double d d' =>
    exact congrArg double ((Double.same_iff d d').mp
      (Double.same_of_numeral (Option.some.inj hnumeral)))
  all_goals simp [typeName] at htype

mutual

theorem equal_of_like : ∀ {v w : Value}, Like Rewritten.Typed v w → v.Equal w
  | _, _, .leaf h => equal_of_typed h
  | _, _, .seq h => congrArg seq (canonicalItems_eq_of_like h)
  | _, _, .map h => congrArg map (canonicalFields_eq_of_like h)

theorem canonicalItems_eq_of_like : ∀ {items others : List Value},
    LikeItems Rewritten.Typed items others → canonicalItems items = canonicalItems others
  | _, _, .nil => rfl
  | _, _, .cons h hrest => congrArg₂ List.cons (equal_of_like h) (canonicalItems_eq_of_like hrest)

theorem canonicalFields_eq_of_like : ∀ {fields others : List (String × Value)},
    LikeFields Rewritten.Typed fields others → canonicalFields fields = canonicalFields others
  | _, _, .nil => rfl
  | _, _, .cons h hrest =>
    congrArg₂ List.cons (congrArg (Prod.mk _) (equal_of_like h)) (canonicalFields_eq_of_like hrest)

end

end Value

end GoldenCapture
