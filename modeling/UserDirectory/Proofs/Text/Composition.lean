import UserDirectory.Proofs.Text.Decomposition
import UserDirectory.Proofs.Text.Utf8

/-!
# Normal forms of normal forms

Take a text of characters that cannot be taken apart, its marks in order. What is put together from
it is taken apart to that text again, once the marks are put in order. So a normal form is its own
normal form.
-/
namespace UserDirectory.Text

variable {m n : Nat} {s kept rest : List Nat}

/-! ## Order of marks -/

/-- The second need not be placed before the first. -/
def InOrder (m n : Nat) : Prop := ¬ (0 < combiningClass n ∧ combiningClass n < combiningClass m)

theorem placeMark_of_isChain (h : (n :: s).IsChain InOrder) : placeMark n s = n :: s := by
  cases s with
  | nil => rfl
  | cons m rest => rw [placeMark, if_neg (List.isChain_cons_cons.1 h).1]

theorem orderMarks_cons (n : Nat) (s : List Nat) :
    orderMarks (n :: s) = placeMark n (orderMarks s) := rfl

theorem orderMarks_of_isChain (h : s.IsChain InOrder) : orderMarks s = s := by
  induction s with
  | nil => rfl
  | cons n rest ih => rw [orderMarks_cons, ih h.tail, placeMark_of_isChain h]

theorem isChain_placeMark (h : s.IsChain InOrder) (n : Nat) : (placeMark n s).IsChain InOrder := by
  induction s with
  | nil => exact .singleton n
  | cons m rest ih =>
    rw [placeMark]
    split
    · rename_i before
      have later := ih h.tail
      -- Behind the mark stands the one that is placed, or what stood there before.
      cases rest with
      | nil => exact .cons_cons (fun first => by omega) later
      | cons l rest =>
        rw [placeMark] at later ⊢
        split
        · rename_i first
          rw [if_pos first] at later
          exact .cons_cons (List.isChain_cons_cons.1 h).1 later
        · rename_i first
          rw [if_neg first] at later
          exact .cons_cons (fun first => by omega) later
    · rename_i inOrder
      exact .cons_cons inOrder h

theorem isChain_orderMarks (s : List Nat) : (orderMarks s).IsChain InOrder := by
  induction s with
  | nil => exact .nil
  | cons n rest ih => exact isChain_placeMark ih n

/-- Two marks of different classes may be placed in either order. -/
theorem placeMark_comm (mark : 0 < combiningClass m) (lower : combiningClass m < combiningClass n)
    (s : List Nat) : placeMark n (placeMark m s) = placeMark m (placeMark n s) := by
  induction s with
  | nil => simp only [placeMark]; grind
  | cons l rest ih => grind [placeMark]

/-- A mark may stand before marks of lower classes, or behind them. -/
theorem orderMarks_passed
    (lower : ∀ m ∈ kept, 0 < combiningClass m ∧ combiningClass m < combiningClass n)
    (s : List Nat) : orderMarks (n :: (kept ++ s)) = orderMarks (kept ++ n :: s) := by
  induction kept with
  | nil => rfl
  | cons m kept ih =>
    have first := lower m List.mem_cons_self
    rw [List.cons_append, List.cons_append, orderMarks_cons m (kept ++ n :: s),
      ← ih fun m hm => lower m (List.mem_cons_of_mem _ hm), orderMarks_cons, orderMarks_cons,
      orderMarks_cons, placeMark_comm first.1 first.2]

theorem orderMarks_append (s t : List Nat) :
    orderMarks (s ++ t) = s.foldr placeMark (orderMarks t) :=
  List.foldr_append ..

/-- What stands behind a text may be put in order first. -/
theorem orderMarks_append_congr {t u : List Nat} (same : orderMarks t = orderMarks u)
    (s : List Nat) :
    orderMarks (s ++ t) = orderMarks (s ++ u) := by
  rw [orderMarks_append, orderMarks_append, same]

/-! ## Putting together -/

theorem flatMap_decompose (h : ∀ m ∈ s, Whole m) : s.flatMap decompose = s := by
  induction s with
  | nil => rfl
  | cons n rest ih =>
    rw [List.flatMap_cons, ih fun m hm => h m (List.mem_cons_of_mem _ hm),
      (h n List.mem_cons_self).decompose_eq_self]
    rfl

/-- The last of some marks in order has the highest class. -/
theorem combiningClass_le_of_isChain (marks : ∀ m ∈ n :: kept, 0 < combiningClass m)
    (order : ((n :: kept).reverse).IsChain InOrder) :
    ∀ m ∈ n :: kept, combiningClass m ≤ combiningClass n := by
  have ascending : ((n :: kept).map combiningClass).reverse.IsChain (· ≤ ·) := by
    rw [← List.map_reverse, List.isChain_map]
    refine order.imp_of_mem_imp fun a b _ hb inOrder => ?_
    have := marks b (List.mem_reverse.1 hb)
    simp only [InOrder] at inOrder
    omega
  have highest := List.pairwise_reverse.1 (List.isChain_iff_pairwise.1 ascending)
  intro m hm
  rcases List.mem_cons.1 hm with rfl | below
  · exact Nat.le_refl _
  · exact (List.pairwise_cons.1 highest).1 _ (List.mem_map_of_mem below)

/-- A mark within reach is of a higher class than all that are kept before it, which stay in order
without it. -/
theorem lower_of_reached (marks : ∀ m ∈ kept, 0 < combiningClass m)
    (order : (kept.reverse ++ n :: rest).IsChain InOrder)
    (reached : ∀ last ∈ kept.head?, combiningClass last < combiningClass n) :
    (∀ m ∈ kept, 0 < combiningClass m ∧ combiningClass m < combiningClass n) ∧
      (kept.reverse ++ rest).IsChain InOrder := by
  obtain ⟨before, behind, -⟩ := List.isChain_append.1 order
  constructor
  · intro m hm
    refine ⟨marks m hm, ?_⟩
    cases kept with
    | nil => cases hm
    | cons last more =>
      exact Nat.lt_of_le_of_lt (combiningClass_le_of_isChain marks before m hm) (reached last rfl)
  · refine before.append behind.tail fun last hlast next hnext => ?_
    rw [List.getLast?_reverse] at hlast
    have lower := reached last hlast
    have inOrder := (List.isChain_cons.1 behind).1 next hnext
    simp only [InOrder] at inOrder ⊢
    omega

theorem composite?_of_taken {starter composite : Nat}
    (taken : (if outOfReach n kept then none else composite? starter n) = some composite) :
    composite? starter n = some composite ∧
      ∀ last ∈ kept.head?, combiningClass last < combiningClass n := by
  split at taken
  · cases taken
  · rename_i within
    refine ⟨taken, fun last given => ?_⟩
    obtain ⟨more, rfl⟩ := List.head?_eq_some_iff.1 given
    simpa [outOfReach] using within

/-- What follows a starter is put together so that it is taken apart to the same again. The marks
that are not taken up are of lower classes than one that is, which may therefore stand before
them. -/
theorem orderMarks_composeAfter (starter : Nat) (kept : List Nat)
    (whole : ∀ m ∈ kept.reverse ++ rest, Whole m) (marks : ∀ m ∈ kept, 0 < combiningClass m)
    (order : (kept.reverse ++ rest).IsChain InOrder) :
    orderMarks ((composeAfter starter kept rest).flatMap decompose) =
      orderMarks (decompose starter ++ (kept.reverse ++ rest)) := by
  induction rest generalizing starter kept with
  | nil =>
    rw [List.append_nil] at whole ⊢
    rw [composeAfter, List.flatMap_cons, flatMap_decompose whole]
  | cons n rest ih =>
    simp only [composeAfter]
    split
    · rename_i composite taken
      obtain ⟨composed, reached⟩ := composite?_of_taken taken
      obtain ⟨lower, inOrder⟩ := lower_of_reached marks order reached
      -- So far the mark stood behind those that are kept.
      rw [ih composite kept (fun m hm => whole m (by grind)) marks inOrder,
        decompose_composite? composed, List.append_assoc]
      exact orderMarks_append_congr
        (orderMarks_passed (fun m hm => lower m (List.mem_reverse.1 hm)) rest) _
    · split
      · rename_i isStarter
        have later := ih n [] (fun m hm => whole m (by grind)) (by simp) order.right_of_append.tail
        rw [(whole n (by simp)).decompose_eq_self] at later
        rw [List.flatMap_append, List.flatMap_cons,
          flatMap_decompose fun m hm => whole m (List.mem_append_left _ hm), List.append_assoc]
        exact orderMarks_append_congr (orderMarks_append_congr later _) _
      · rename_i isMark
        have same : (n :: kept).reverse ++ rest = kept.reverse ++ n :: rest := by simp
        have kept_marks : ∀ m ∈ n :: kept, 0 < combiningClass m :=
          List.forall_mem_cons.2 ⟨Nat.pos_of_ne_zero isMark, marks⟩
        have later := ih starter (n :: kept) (same ▸ whole) kept_marks (same ▸ order)
        rw [later, same]

/-- The same for a whole text. -/
theorem orderMarks_compose (whole : ∀ m ∈ s, Whole m) (order : s.IsChain InOrder) :
    orderMarks ((compose s).flatMap decompose) = s := by
  induction s with
  | nil => rfl
  | cons n rest ih =>
    have first := (whole n List.mem_cons_self).decompose_eq_self
    rw [compose]
    split
    · rw [orderMarks_composeAfter n [] (fun m hm => whole m (List.mem_cons_of_mem _ hm))
        nofun order.tail,
        first]
      exact orderMarks_of_isChain order
    · have later := ih (fun m hm => whole m (List.mem_cons_of_mem _ hm)) order.tail
      rw [List.flatMap_cons, first, List.singleton_append, orderMarks_cons, later,
        placeMark_of_isChain order]

/-! ## Characters -/

theorem isValidChar_of_mem_composeAfter {starter : Nat} (first : starter.isValidChar)
    (before : ∀ m ∈ kept, m.isValidChar) (behind : ∀ m ∈ rest, m.isValidChar)
    (hm : m ∈ composeAfter starter kept rest) : m.isValidChar := by
  induction rest generalizing starter kept with
  | nil =>
    rcases List.mem_cons.1 hm with rfl | inKept
    · exact first
    · exact before m (List.mem_reverse.1 inKept)
  | cons n rest ih =>
    obtain ⟨next, later⟩ := List.forall_mem_cons.1 behind
    simp only [composeAfter] at hm
    split at hm
    · rename_i composite taken
      exact ih (isValidChar_composite? (composite?_of_taken taken).1) before later hm
    · split at hm
      · rcases List.mem_append.1 hm with inFront | inRest
        · rcases List.mem_cons.1 inFront with rfl | inKept
          · exact first
          · exact before m (List.mem_reverse.1 inKept)
        · exact ih next (List.forall_mem_nil _) later inRest
      · exact ih first (List.forall_mem_cons.2 ⟨next, before⟩) later hm

theorem isValidChar_of_mem_compose (valid : ∀ m ∈ s, m.isValidChar) (hm : m ∈ compose s) :
    m.isValidChar := by
  induction s with
  | nil => cases hm
  | cons n rest ih =>
    rw [compose] at hm
    split at hm
    · exact isValidChar_of_mem_composeAfter (valid n List.mem_cons_self) (List.forall_mem_nil _)
        (fun m hm => valid m (List.mem_cons_of_mem _ hm)) hm
    · rcases List.mem_cons.1 hm with rfl | behind
      · exact valid m List.mem_cons_self
      · exact ih (fun m hm => valid m (List.mem_cons_of_mem _ hm)) behind

/-- A normal form is its own normal form. -/
theorem normalForm_normalForm (s : List Char) : normalForm (normalForm s) = normalForm s := by
  let parts := orderMarks (s.flatMap fun c => decompose c.toNat)
  have whole : ∀ m ∈ parts, Whole m := by
    intro m hm
    obtain ⟨c, -, part⟩ := List.mem_flatMap.1 ((perm_orderMarks _).mem_iff.1 hm)
    exact whole_of_mem_decompose c.valid part
  have valid : ∀ n ∈ compose parts, n.isValidChar := fun n =>
    isValidChar_of_mem_compose fun m hm => (whole m hm).valid
  have again : ((compose parts).map Char.ofNat).flatMap (fun c => decompose c.toNat) =
      (compose parts).flatMap decompose := by
    rw [List.flatMap_map, List.flatMap_def, List.flatMap_def]
    exact congrArg List.flatten (List.map_congr_left fun n hn =>
      congrArg decompose (Utf8.toNat_ofNat (valid n hn)))
  have ordered : orderMarks ((normalForm s).flatMap fun c => decompose c.toNat) = parts :=
    (congrArg orderMarks again).trans (orderMarks_compose whole (isChain_orderMarks _))
  rw [normalForm, ordered]
  rfl

end UserDirectory.Text
