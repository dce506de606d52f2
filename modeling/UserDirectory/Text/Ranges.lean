/-!
# Ranges of code points

A character class is a list of closed ranges in ascending order, so a look-up stops at the first
range that begins beyond the point. On an ascending list `holds` is membership in one of the ranges.
-/
namespace UserDirectory.Text

/-- Closed ranges, each a first and a last code point. -/
abbrev Ranges := List (Nat × Nat)

namespace Ranges

def holds : Ranges → Nat → Bool
  | [], _ => false
  | (first, last) :: rest, n =>
    if n < first then false else if n ≤ last then true else holds rest n

/-- The ranges begin at `n` or later, are not empty, and do not meet. -/
def ascendingFrom : Ranges → Nat → Bool
  | [], _ => true
  | (first, last) :: rest, n => n ≤ first && first ≤ last && ascendingFrom rest (last + 1)

theorem first_le_of_ascendingFrom {r : Ranges} {m : Nat} (h : r.ascendingFrom m = true) :
    ∀ p ∈ r, m ≤ p.1 := by
  induction r generalizing m with
  | nil => simp
  | cons p rest ih =>
    obtain ⟨first, last⟩ := p
    simp only [ascendingFrom, Bool.and_eq_true, decide_eq_true_eq] at h
    intro q hq
    rcases List.mem_cons.1 hq with rfl | hq
    · exact h.1.1
    · have := ih h.2 q hq
      omega

theorem holds_iff {r : Ranges} {m : Nat} (h : r.ascendingFrom m = true) (n : Nat) :
    r.holds n = true ↔ ∃ p ∈ r, p.1 ≤ n ∧ n ≤ p.2 := by
  induction r generalizing m with
  | nil => simp [holds]
  | cons p rest ih =>
    obtain ⟨first, last⟩ := p
    simp only [ascendingFrom, Bool.and_eq_true, decide_eq_true_eq] at h
    have later := first_le_of_ascendingFrom h.2
    simp only [holds, List.mem_cons, exists_eq_or_imp]
    split
    · simp only [Bool.false_eq_true, false_iff, not_or, not_exists, not_and]
      refine ⟨by omega, fun q hq below => ?_⟩
      have := later q hq
      omega
    · split
      · simp; omega
      · rw [ih h.2]
        constructor
        · exact Or.inr
        · rintro (inside | found)
          · omega
          · exact found

end Ranges

end UserDirectory.Text
