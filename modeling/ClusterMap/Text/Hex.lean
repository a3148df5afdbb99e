/-!
# Hexadecimal digits

The sixteen digits, in either case, and the numbers they write.
-/

namespace ClusterMap.Text

/-- The value of a hexadecimal digit. -/
def hexDigit? (c : Char) : Option Nat :=
  if '0' ≤ c ∧ c ≤ '9' then some (c.toNat - '0'.toNat)
  else if 'a' ≤ c ∧ c ≤ 'f' then some (c.toNat - 'a'.toNat + 10)
  else if 'A' ≤ c ∧ c ≤ 'F' then some (c.toNat - 'A'.toNat + 10)
  else none

/-- A hexadecimal digit is worth less than sixteen. -/
theorem hexDigit?_lt {c : Char} {d : Nat} (h : hexDigit? c = some d) : d < 16 := by
  unfold hexDigit? at h
  split at h
  · next hc =>
    obtain rfl := Option.some.inj h
    have h9 : c.toNat ≤ 57 := Char.le_def.mp hc.2
    have h0 : '0'.toNat = 48 := rfl
    omega
  · split at h
    · next hc =>
      obtain rfl := Option.some.inj h
      have hf : c.toNat ≤ 102 := Char.le_def.mp hc.2
      have ha : 'a'.toNat = 97 := rfl
      omega
    · split at h
      · next hc =>
        obtain rfl := Option.some.inj h
        have hf : c.toNat ≤ 70 := Char.le_def.mp hc.2
        have ha : 'A'.toNat = 65 := rfl
        omega
      · exact absurd h (by simp)

end ClusterMap.Text
