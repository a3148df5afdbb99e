/-!
# Counters

Counters of one machine word stay at their limit once they have reached it.
-/

namespace ClusterMap.Count

/-- The largest count. -/
def limit : Nat := 18446744073709551615

/-- The count after one more. -/
def next (n : Nat) : Nat := Nat.min (n + 1) limit

/-- Below the limit a counter counts by one. -/
theorem next_of_lt {n : Nat} (h : n < limit) : next n = n + 1 := Nat.min_eq_left h

end ClusterMap.Count
