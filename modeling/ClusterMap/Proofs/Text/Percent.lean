import ClusterMap.Text.Hex
import Mathlib.Data.List.Infix

/-!
# Percent escapes

In an address, a percent sign with two hexadecimal digits behind it stands for a byte, and every
other character for its own bytes in UTF-8 (`unescape`). An escape is longer than what it stands
for, so characters stand for their own bytes exactly if there is no escape among them
(`unescape_eq_utf8_iff`).
-/

namespace ClusterMap.Text

/-- The byte that two digits behind a percent sign stand for. -/
def escapedByte? (a b : Char) : Option UInt8 := do
  let high ← hexDigit? a
  let low ← hexDigit? b
  pure (UInt8.ofNat (16 * high + low))

/-- The bytes of some characters in UTF-8. -/
def utf8 (cs : List Char) : List UInt8 := cs.flatMap String.utf8EncodeChar

/-- The bytes that some characters of an address stand for. -/
def unescape : List Char → List UInt8
  | '%' :: a :: b :: rest =>
    match escapedByte? a b with
    | some byte => byte :: unescape rest
    | none => String.utf8EncodeChar '%' ++ unescape (a :: b :: rest)
  | c :: rest => String.utf8EncodeChar c ++ unescape rest
  | [] => []

/-- Somewhere among the characters stands an escape. -/
def HasEscape (cs : List Char) : Prop := ∃ a b, ['%', a, b] <:+: cs ∧ (escapedByte? a b).isSome

/-! ### Bytes of texts -/

theorem utf8_cons (c : Char) (cs : List Char) :
    utf8 (c :: cs) = String.utf8EncodeChar c ++ utf8 cs := rfl

theorem utf8_append (cs cs' : List Char) : utf8 (cs ++ cs') = utf8 cs ++ utf8 cs' :=
  List.flatMap_append

theorem length_utf8EncodeChar_pos (c : Char) : 0 < (String.utf8EncodeChar c).length :=
  List.length_pos_of_ne_nil String.utf8EncodeChar_ne_nil

/-- Texts with the same bytes are equal. -/
theorem utf8_toList_inj {s t : String} (h : utf8 s.toList = utf8 t.toList) : s = t := by
  have hbytes : s.toList.utf8Encode = t.toList.utf8Encode := congrArg List.toByteArray h
  rwa [String.utf8Encode_toList, String.utf8Encode_toList, String.toByteArray_inj] at hbytes

/-! ### Escapes -/

/-- Characters stand for no more bytes than they have themselves. -/
theorem length_unescape_le (cs : List Char) : (unescape cs).length ≤ (utf8 cs).length := by
  fun_induction unescape cs with
  | case1 a b rest byte hbyte ih =>
    have hpercent := length_utf8EncodeChar_pos '%'
    simp only [utf8_cons, List.length_append, List.length_cons]
    omega
  | case2 a b rest hbyte ih =>
    rw [utf8_cons, List.length_append, List.length_append]
    omega
  | case3 c rest hescape ih =>
    rw [utf8_cons, List.length_append, List.length_append]
    omega
  | case4 => exact Nat.le_refl _

theorem hasEscape_cons {c : Char} {rest : List Char} : HasEscape (c :: rest) ↔
    (∃ a b, ['%', a, b] <+: c :: rest ∧ (escapedByte? a b).isSome) ∨ HasEscape rest := by
  simp only [HasEscape, List.infix_cons_iff, or_and_right, exists_or]

/-- **What stands for itself.** Characters stand for their own bytes exactly if none of them are an
escape. -/
theorem unescape_eq_utf8_iff (cs : List Char) : unescape cs = utf8 cs ↔ ¬ HasEscape cs := by
  fun_induction unescape cs with
  | case1 a b rest byte hbyte ih =>
    -- one byte in place of the three or more of the escape
    have hne : byte :: unescape rest ≠ utf8 ('%' :: a :: b :: rest) := by
      intro h
      have hlength := congrArg List.length h
      have hrest := length_unescape_le rest
      have hpercent := length_utf8EncodeChar_pos '%'
      have ha := length_utf8EncodeChar_pos a
      simp only [utf8_cons, List.length_append, List.length_cons] at hlength
      omega
    have hescape : HasEscape ('%' :: a :: b :: rest) :=
      hasEscape_cons.mpr (.inl ⟨a, b, ⟨rest, rfl⟩, Option.isSome_of_eq_some hbyte⟩)
    exact iff_of_false hne (not_not_intro hescape)
  | case2 a b rest hbyte ih =>
    have hfront : ¬ ∃ x y, ['%', x, y] <+: '%' :: a :: b :: rest ∧ (escapedByte? x y).isSome := by
      rintro ⟨x, y, ⟨behind, hbehind⟩, hsome⟩
      cases hbehind
      simp [hbyte] at hsome
    have hescape : HasEscape ('%' :: a :: b :: rest) ↔ HasEscape (a :: b :: rest) :=
      hasEscape_cons.trans (or_iff_right hfront)
    rw [utf8_cons, List.append_right_inj, ih, hescape]
  | case3 c rest hnot ih =>
    have hfront : ¬ ∃ x y, ['%', x, y] <+: c :: rest ∧ (escapedByte? x y).isSome := by
      rintro ⟨x, y, ⟨behind, hbehind⟩, -⟩
      cases hbehind
      exact hnot x y behind rfl rfl
    rw [utf8_cons, List.append_right_inj, ih, hasEscape_cons, or_iff_right hfront]
  | case4 =>
    refine iff_of_true rfl ?_
    rintro ⟨a, b, hinfix, -⟩
    exact absurd (List.infix_nil.mp hinfix) (by simp)

end ClusterMap.Text
