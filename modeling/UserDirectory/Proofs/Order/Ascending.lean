import UserDirectory.Order.Ascending

/-!
# Ascending lists hold each element once

In an order in which no two elements are before each other, equal elements are neighbours once a
list is sorted.
-/
namespace UserDirectory.Order

variable {α : Type} [DecidableEq α] {le : α → α → Bool}

/-- Of a sorted list the elements are left in strict order. -/
theorem pairwise_dropRepeats (antisymm : ∀ a b, le a b = true → le b a = true → a = b) {l : List α}
    (sorted : l.Pairwise fun a b => le a b = true) :
    (dropRepeats l).Pairwise fun a b => le a b = true ∧ a ≠ b := by
  fun_induction dropRepeats l with
  | case1 a rest ih => exact ih (List.pairwise_cons.1 sorted).2
  | case2 a b rest differ ih =>
    obtain ⟨first, later⟩ := List.pairwise_cons.1 sorted
    refine List.pairwise_cons.2 ⟨fun x hx => ?_, ih later⟩
    rw [mem_dropRepeats] at hx
    refine ⟨first x hx, ?_⟩
    rintro rfl
    -- The element would stand behind the next one, which is not before it.
    have same : a = b := by
      rcases List.mem_cons.1 hx with same | behind
      · exact same
      · exact antisymm a b (first b List.mem_cons_self) ((List.pairwise_cons.1 later).1 a behind)
    exact differ same
  | case3 l short =>
    rcases l with _ | ⟨a, _ | ⟨b, rest⟩⟩
    · exact .nil
    · exact List.pairwise_singleton _ a
    · exact absurd rfl (short a b rest)

theorem nodup_ascending (trans : ∀ a b c, le a b = true → le b c = true → le a c = true)
    (total : ∀ a b, (le a b || le b a) = true)
    (antisymm : ∀ a b, le a b = true → le b a = true → a = b)
    (l : List α) : (ascending le l).Nodup :=
  (pairwise_dropRepeats antisymm (List.pairwise_mergeSort trans total l)).imp fun both => both.2

end UserDirectory.Order
