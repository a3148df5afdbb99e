import ClusterMap.Paint.Color
import ClusterMap.Proofs.Text.Blank

/-!
# How colours are written

A colour is written as `#` with three, six or eight hexadecimal digits, and blanks may stand around
it. A channel is written as a pair of digits, or as one digit that stands for itself twice
(`Channels.Pair`). `Channels.IsWritten` is this grammar together with what is meant, for any notion
of what the first character of a pair may be.

What is read is a little more: in a pair, a plus sign is taken for a leading zero
(`Channels.Signed`). Every colour of the grammar is read, with the channels that are meant, and a
text on which grammar and reading part ways is one that is read and has a plus sign in it
(`Channels.parse_iff_written`).
-/

namespace ClusterMap

/-! ### Hexadecimal digits -/

namespace Text

/-- A hexadecimal digit, in either case, and what it counts for. -/
def IsHexDigit (c : Char) (d : Nat) : Prop :=
  "0123456789abcdef".toList[d]? = some c ∨ "0123456789ABCDEF".toList[d]? = some c

instance (c : Char) (d : Nat) : Decidable (IsHexDigit c d) :=
  inferInstanceAs (Decidable (_ ∨ _))

variable {c : Char} {d : Nat}

/-- A digit is one of twenty-two characters. -/
theorem IsHexDigit.mem (h : IsHexDigit c d) : c ∈ "0123456789abcdefABCDEF".toList := by
  have hlower : ∀ x ∈ "0123456789abcdef".toList, x ∈ "0123456789abcdefABCDEF".toList := by simp
  have hupper : ∀ x ∈ "0123456789ABCDEF".toList, x ∈ "0123456789abcdefABCDEF".toList := by simp
  rcases h with h | h
  · exact hlower c (List.mem_of_getElem? h)
  · exact hupper c (List.mem_of_getElem? h)

theorem IsHexDigit.not_blank (h : IsHexDigit c d) : isBlank c = false := by
  have hall : ∀ x ∈ "0123456789abcdefABCDEF".toList, isBlank x = false := by simp [isBlank]
  exact hall c h.mem

theorem IsHexDigit.ne_plus (h : IsHexDigit c d) : c ≠ '+' := by
  have hall : ∀ x ∈ "0123456789abcdefABCDEF".toList, x ≠ '+' := by simp
  exact hall c h.mem

theorem toNat_lt_of_hexDigit? (h : hexDigit? c = some d) : c.toNat < 103 := by
  unfold hexDigit? at h
  split at h
  next hc =>
    have h9 : c.toNat ≤ 57 := Char.le_def.mp hc.2
    omega
  next =>
    split at h
    next hc =>
      have hf : c.toNat ≤ 102 := Char.le_def.mp hc.2
      omega
    next =>
      split at h
      next hc =>
        have hF : c.toNat ≤ 70 := Char.le_def.mp hc.2
        omega
      next => cases h

/-- The digits that are read are the sixteen digits of either case. -/
theorem hexDigit?_eq_some_iff : hexDigit? c = some d ↔ IsHexDigit c d := by
  constructor
  · intro h
    -- the characters up to `f` can be looked through
    have hall : ∀ n < 103, ∀ x ∈ hexDigit? (Char.ofNat n), IsHexDigit (Char.ofNat n) x := by decide
    have hdigit := hall c.toNat (toNat_lt_of_hexDigit? h)
    rw [Char.ofNat_toNat] at hdigit
    exact hdigit d h
  · intro h
    have hlower : ∀ n < 16, "0123456789abcdef".toList[n]?.bind hexDigit? = some n := by decide
    have hupper : ∀ n < 16, "0123456789ABCDEF".toList[n]?.bind hexDigit? = some n := by decide
    rcases h with h | h
    · have hd := hlower d (List.getElem?_eq_some_iff.mp h).1
      rwa [h] at hd
    · have hd := hupper d (List.getElem?_eq_some_iff.mp h).1
      rwa [h] at hd

end Text

namespace Channels

open Text (IsHexDigit isBlank)

/-! ### The grammar -/

/-- Two characters write a channel: a digit, and before it what counts sixteen times. -/
def Pair (lead : Char → Nat → Prop) (c c' : Char) (v : UInt8) : Prop :=
  ∃ x y, lead c x ∧ IsHexDigit c' y ∧ v.toNat = 16 * x + y

/-- What stands behind the `#`, and the channels that it writes. -/
inductive Spells (lead : Char → Nat → Prop) : List Char → Channels → Prop
  /-- Every digit stands for itself twice. -/
  | short {r g b : Char} {x y z : UInt8} (hr : Pair IsHexDigit r r x) (hg : Pair IsHexDigit g g y)
      (hb : Pair IsHexDigit b b z) : Spells lead [r, g, b] ⟨x, y, z, none⟩
  | long {r r' g g' b b' : Char} {x y z : UInt8} (hr : Pair lead r r' x) (hg : Pair lead g g' y)
      (hb : Pair lead b b' z) : Spells lead [r, r', g, g', b, b'] ⟨x, y, z, none⟩
  | withAlpha {r r' g g' b b' a a' : Char} {x y z w : UInt8} (hr : Pair lead r r' x)
      (hg : Pair lead g g' y) (hb : Pair lead b b' z) (ha : Pair lead a a' w) :
      Spells lead [r, r', g, g', b, b', a, a'] ⟨x, y, z, some w⟩

/-- A text writes a colour. -/
def IsWritten (lead : Char → Nat → Prop) (s : String) (c : Channels) : Prop :=
  ∃ front ds back, s.toList = front ++ '#' :: ds ++ back ∧
    (∀ x ∈ front, isBlank x = true) ∧ (∀ x ∈ back, isBlank x = true) ∧ Spells lead ds c

/-- What is taken for the first digit of a pair. -/
def Signed (c : Char) (x : Nat) : Prop := IsHexDigit c x ∨ c = '+' ∧ x = 0

section Grammar

variable {lead lead' : Char → Nat → Prop} {ds : List Char} {c : Channels}

theorem Pair.imp {a a' : Char} {v : UInt8} (h : Pair lead a a' v)
    (himp : ∀ x, lead a x → lead' a x) : Pair lead' a a' v := by
  obtain ⟨x, y, hx, hy, hv⟩ := h
  exact ⟨x, y, himp x hx, hy, hv⟩

/-- What else may stand first in a pair does not matter where it does not stand. -/
theorem Spells.imp (h : Spells lead ds c) (himp : ∀ a ∈ ds, ∀ x, lead a x → lead' a x) :
    Spells lead' ds c := by
  cases h with
  | short hr hg hb => exact .short hr hg hb
  | long hr hg hb =>
    exact .long (hr.imp (himp _ (by simp))) (hg.imp (himp _ (by simp)))
      (hb.imp (himp _ (by simp)))
  | withAlpha hr hg hb ha =>
    exact .withAlpha (hr.imp (himp _ (by simp))) (hg.imp (himp _ (by simp)))
      (hb.imp (himp _ (by simp))) (ha.imp (himp _ (by simp)))

theorem IsWritten.imp {s : String} (h : IsWritten lead s c)
    (himp : ∀ a ∈ s.toList, ∀ x, lead a x → lead' a x) : IsWritten lead' s c := by
  obtain ⟨front, ds, back, hs, hfront, hback, hds⟩ := h
  refine ⟨front, ds, back, hs, hfront, hback, hds.imp fun a ha => himp a ?_⟩
  rw [hs]
  simp [ha]

/-- Every character behind the `#` counts for something. -/
theorem Spells.counts (h : Spells lead ds c) : ∀ a ∈ ds, ∃ x, IsHexDigit a x ∨ lead a x := by
  have hpair {a a' : Char} {v : UInt8} (h : Pair lead a a' v) :
      (∃ x, IsHexDigit a x ∨ lead a x) ∧ ∃ x, IsHexDigit a' x ∨ lead a' x := by
    obtain ⟨x, y, hx, hy, -⟩ := h
    exact ⟨⟨x, Or.inr hx⟩, ⟨y, Or.inl hy⟩⟩
  have htwice {a : Char} {v : UInt8} (h : Pair IsHexDigit a a v) :
      ∃ x, IsHexDigit a x ∨ lead a x := by
    obtain ⟨x, -, hx, -⟩ := h
    exact ⟨x, Or.inl hx⟩
  cases h with
  | short hr hg hb => simp [htwice hr, htwice hg, htwice hb]
  | long hr hg hb => simp [hpair hr, hpair hg, hpair hb]
  | withAlpha hr hg hb ha => simp [hpair hr, hpair hg, hpair hb, hpair ha]

/-- A colour ends with a digit. -/
theorem Spells.last (h : Spells lead ds c) : ∃ a x, ds.getLast? = some a ∧ IsHexDigit a x := by
  cases h with
  | short _ _ hb =>
    obtain ⟨-, y, -, hy, -⟩ := hb
    exact ⟨_, y, rfl, hy⟩
  | long _ _ hb =>
    obtain ⟨-, y, -, hy, -⟩ := hb
    exact ⟨_, y, rfl, hy⟩
  | withAlpha _ _ _ ha =>
    obtain ⟨-, y, -, hy, -⟩ := ha
    exact ⟨_, y, rfl, hy⟩

/-- No plus sign stands in a colour that is written by the grammar. -/
theorem IsWritten.plus_not_mem {s : String} (h : IsWritten IsHexDigit s c) : '+' ∉ s.toList := by
  obtain ⟨front, ds, back, hs, hfront, hback, hds⟩ := h
  have hblank : ¬ isBlank '+' = true := by decide
  intro hplus
  rw [hs, List.append_assoc, List.cons_append] at hplus
  rcases List.mem_append.mp hplus with hplus | hplus
  · exact hblank (hfront _ hplus)
  rcases List.mem_cons.mp hplus with hplus | hplus
  · exact absurd hplus (by decide)
  rcases List.mem_append.mp hplus with hplus | hplus
  · obtain ⟨x, hx | hx⟩ := hds.counts _ hplus
    · exact hx.ne_plus rfl
    · exact hx.ne_plus rfl
  · exact hblank (hback _ hplus)

end Grammar

/-! ### What is read -/

section Reading

variable {ds : List Char} {c : Channels}

theorem toNat_ofNat_pair {x y : Nat} (hx : x < 16) (hy : y < 16) :
    (UInt8.ofNat (16 * x + y)).toNat = 16 * x + y :=
  UInt8.toNat_ofNat_of_lt' (by change _ < 256; omega)

theorem single?_eq_some_iff {a : Char} {v : UInt8} :
    single? a = some v ↔ Pair IsHexDigit a a v := by
  constructor
  · intro h
    obtain ⟨d, hd, hv⟩ := Option.bind_eq_some_iff.mp h
    obtain rfl := Option.some.inj hv
    have hdigit := Text.hexDigit?_eq_some_iff.mp hd
    have hlt := Text.hexDigit?_lt hd
    have htwice : 17 * d = 16 * d + d := by omega
    exact ⟨d, d, hdigit, hdigit, by rw [htwice, toNat_ofNat_pair hlt hlt]⟩
  · rintro ⟨x, y, hx, hy, hv⟩
    have hread := Text.hexDigit?_eq_some_iff.mpr hx
    -- a character counts for one number only
    obtain rfl : x = y := Option.some.inj (hread.symm.trans (Text.hexDigit?_eq_some_iff.mpr hy))
    have htwice : 17 * x = v.toNat := by omega
    rw [single?, hread]
    change some (UInt8.ofNat (17 * x)) = some v
    rw [htwice, UInt8.ofNat_toNat]

theorem lead_eq_some_iff {a : Char} {x : Nat} :
    (if a = '+' then some 0 else Text.hexDigit? a) = some x ↔ Signed a x := by
  by_cases ha : a = '+'
  · rw [if_pos ha, Signed, Option.some.injEq]
    constructor
    · intro h
      exact Or.inr ⟨ha, h.symm⟩
    · rintro (h | ⟨-, h⟩)
      · exact absurd ha h.ne_plus
      · exact h.symm
  · rw [if_neg ha, Text.hexDigit?_eq_some_iff, Signed]
    simp [ha]

theorem Signed.lt {a : Char} {x : Nat} (h : Signed a x) : x < 16 := by
  rcases h with h | ⟨-, rfl⟩
  · exact Text.hexDigit?_lt (Text.hexDigit?_eq_some_iff.mpr h)
  · omega

theorem pair?_eq_bind (a a' : Char) :
    pair? a a' = (if a = '+' then some 0 else Text.hexDigit? a).bind fun high =>
      (Text.hexDigit? a').bind fun low => some (UInt8.ofNat (16 * high + low)) := by
  unfold pair?
  split <;> rfl

theorem pair?_eq_some_iff {a a' : Char} {v : UInt8} :
    pair? a a' = some v ↔ Pair Signed a a' v := by
  rw [pair?_eq_bind]
  constructor
  · intro h
    obtain ⟨x, hx, h⟩ := Option.bind_eq_some_iff.mp h
    obtain ⟨y, hy, hv⟩ := Option.bind_eq_some_iff.mp h
    obtain rfl := Option.some.inj hv
    have hlead := lead_eq_some_iff.mp hx
    exact ⟨x, y, hlead, Text.hexDigit?_eq_some_iff.mp hy,
      toNat_ofNat_pair hlead.lt (Text.hexDigit?_lt hy)⟩
  · rintro ⟨x, y, hx, hy, hv⟩
    rw [lead_eq_some_iff.mpr hx, Text.hexDigit?_eq_some_iff.mpr hy]
    change some (UInt8.ofNat (16 * x + y)) = some v
    rw [← hv, UInt8.ofNat_toNat]

theorem ofDigits?_eq_some_iff : ofDigits? ds = some c ↔ Spells Signed ds c := by
  constructor
  · intro h
    unfold ofDigits? at h
    split at h
    next =>
      obtain ⟨x, hx, h⟩ := Option.bind_eq_some_iff.mp h
      obtain ⟨y, hy, h⟩ := Option.bind_eq_some_iff.mp h
      obtain ⟨z, hz, h⟩ := Option.bind_eq_some_iff.mp h
      obtain rfl := Option.some.inj h
      exact .short (single?_eq_some_iff.mp hx) (single?_eq_some_iff.mp hy)
        (single?_eq_some_iff.mp hz)
    next =>
      obtain ⟨x, hx, h⟩ := Option.bind_eq_some_iff.mp h
      obtain ⟨y, hy, h⟩ := Option.bind_eq_some_iff.mp h
      obtain ⟨z, hz, h⟩ := Option.bind_eq_some_iff.mp h
      obtain rfl := Option.some.inj h
      exact .long (pair?_eq_some_iff.mp hx) (pair?_eq_some_iff.mp hy) (pair?_eq_some_iff.mp hz)
    next =>
      obtain ⟨x, hx, h⟩ := Option.bind_eq_some_iff.mp h
      obtain ⟨y, hy, h⟩ := Option.bind_eq_some_iff.mp h
      obtain ⟨z, hz, h⟩ := Option.bind_eq_some_iff.mp h
      obtain ⟨w, hw, h⟩ := Option.bind_eq_some_iff.mp h
      obtain rfl := Option.some.inj h
      exact .withAlpha (pair?_eq_some_iff.mp hx) (pair?_eq_some_iff.mp hy)
        (pair?_eq_some_iff.mp hz) (pair?_eq_some_iff.mp hw)
    next => cases h
  · intro h
    cases h with
    | short hr hg hb =>
      rw [ofDigits?, single?_eq_some_iff.mpr hr, single?_eq_some_iff.mpr hg,
        single?_eq_some_iff.mpr hb]
      rfl
    | long hr hg hb =>
      rw [ofDigits?, pair?_eq_some_iff.mpr hr, pair?_eq_some_iff.mpr hg, pair?_eq_some_iff.mpr hb]
      rfl
    | withAlpha hr hg hb ha =>
      rw [ofDigits?, pair?_eq_some_iff.mpr hr, pair?_eq_some_iff.mpr hg, pair?_eq_some_iff.mpr hb,
        pair?_eq_some_iff.mpr ha]
      rfl

/-- **What is read** is what is written with or without signs. -/
theorem parse_eq_some_iff {s : String} : parse s = some c ↔ IsWritten Signed s c := by
  constructor
  · intro h
    unfold parse at h
    split at h
    next ds htrim =>
      obtain ⟨front, back, hs, hfront, hback⟩ := (Text.trimChars_eq_iff.mp htrim).exists_ends
      exact ⟨front, ds, back, hs, hfront, hback, ofDigits?_eq_some_iff.mp h⟩
    next => cases h
  · rintro ⟨front, ds, back, hs, hfront, hback, hds⟩
    -- neither the `#` nor the last digit is blank, so all that is trimmed stands around them
    have hcore : IsCore isBlank s.toList ('#' :: ds) := by
      refine ⟨⟨front, back, hs, hfront, hback⟩, ?_, ?_⟩
      · rintro x ⟨⟩
        decide
      · obtain ⟨a, x, hlast, ha⟩ := hds.last
        rw [List.getLast?_cons, hlast]
        rintro y ⟨⟩
        exact ha.not_blank
    rw [parse, Text.trimChars_eq_iff.mpr hcore]
    exact ofDigits?_eq_some_iff.mpr hds

end Reading

/-- **Reading colours.** A text is read as the colour that it writes, if a plus sign counts as a
leading zero in a pair, and nothing else is read. Every colour that is written with digits alone is
read with its channels.

That only these are read holds of a text exactly if the text is refused or has no plus sign. -/
theorem parse_iff_written (s : String) :
    (∀ c, parse s = some c ↔ IsWritten Signed s c) ∧
    (∀ c, IsWritten IsHexDigit s c → parse s = some c) ∧
    ((∀ c, parse s = some c ↔ IsWritten IsHexDigit s c) ↔
      (parse s = none ∨ '+' ∉ s.toList)) := by
  have hread (c : Channels) (h : IsWritten IsHexDigit s c) : parse s = some c :=
    parse_eq_some_iff.mpr (h.imp fun _ _ _ => Or.inl)
  refine ⟨fun c => parse_eq_some_iff, hread, ?_, ?_⟩
  · intro h
    cases hs : parse s with
    | none => exact Or.inl rfl
    | some c => exact Or.inr ((h c).mp hs).plus_not_mem
  · intro h c
    refine ⟨fun hs => ?_, hread c⟩
    rcases h with h | h
    · rw [h] at hs
      cases hs
    · refine (parse_eq_some_iff.mp hs).imp fun a ha x hx => ?_
      rcases hx with hx | ⟨rfl, -⟩
      · exact hx
      · exact absurd ha h

/-- A colour of the grammar in capitals and between blanks, with its channels. -/
theorem parse_iff_written_clear :
    IsWritten IsHexDigit " #1F00ff80\t" ⟨31, 0, 255, some 128⟩ ∧
      parse " #1F00ff80\t" = some ⟨31, 0, 255, some 128⟩ := by
  have hwritten : IsWritten IsHexDigit " #1F00ff80\t" ⟨31, 0, 255, some 128⟩ := by
    refine ⟨[' '], "1F00ff80".toList, ['\t'], by decide, by simp [isBlank], by simp [isBlank], ?_⟩
    exact .withAlpha ⟨1, 15, by decide, by decide, by decide⟩
      ⟨0, 0, by decide, by decide, by decide⟩
      ⟨15, 15, by decide, by decide, by decide⟩ ⟨8, 0, by decide, by decide, by decide⟩
  exact ⟨hwritten, (parse_iff_written " #1F00ff80\t").2.1 _ hwritten⟩

/-- **Signs are read**, although no colour is written with them. -/
theorem parse_iff_written_fails_signed :
    parse "#+f+f+f" = some ⟨15, 15, 15, none⟩ ∧ ¬ ∃ c, IsWritten IsHexDigit "#+f+f+f" c := by
  refine ⟨by decide, ?_⟩
  rintro ⟨c, h⟩
  exact h.plus_not_mem (by decide)

end Channels

end ClusterMap
