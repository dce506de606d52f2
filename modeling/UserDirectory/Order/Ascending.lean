/-!
# Ascending lists of distinct elements

`ascending le l` holds the elements of `l` in the order `le`, each once.
-/
namespace UserDirectory.Order

variable {α : Type}

/-- Keeps one element of each run of equal neighbours. -/
def dropRepeats [DecidableEq α] : List α → List α
  | a :: b :: rest => if a = b then dropRepeats (b :: rest) else a :: dropRepeats (b :: rest)
  | l => l

@[simp] theorem mem_dropRepeats [DecidableEq α] {x : α} {l : List α} :
    x ∈ dropRepeats l ↔ x ∈ l := by
  fun_induction dropRepeats l with
  | case1 a rest ih => simp [ih]
  | case2 a b rest h ih => simp [ih]
  | case3 l => rfl

def ascending [DecidableEq α] (le : α → α → Bool) (l : List α) : List α :=
  dropRepeats (l.mergeSort le)

@[simp] theorem mem_ascending [DecidableEq α] {le : α → α → Bool} {x : α} {l : List α} :
    x ∈ ascending le l ↔ x ∈ l := by
  simp [ascending]

end UserDirectory.Order
