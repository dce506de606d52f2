import Mathlib.Algebra.Order.Field.Basic
import UserDirectory.Proofs.Search.Join
import UserDirectory.Proofs.Search.Rounding

/-!
# Extremes of the similarity

Two texts are similar from zero to one: not at all where they share no trigram, wholly where they
have the same ones. A text has trigrams where it has a word, so a text with a letter or a number is
wholly similar to itself. A text that has all words of another one has all its trigrams, and is the
less similar to it the more trigrams it has.
-/
namespace UserDirectory.Search

open Text

variable {a a' b : String}

/-! ## Texts with trigrams -/

theorem wordTrigrams_ne_nil (w : List Char) : wordTrigrams w ≠ [] := by
  cases w <;> simp [wordTrigrams, windows]

theorem trigramSet_nonempty_iff {s : String} :
    (trigramSet s).Nonempty ↔ ∃ c ∈ (lower s).toList, isAlphanumeric c = true := by
  rw [← exists_mem_words_iff]
  constructor
  · rintro ⟨t, ht⟩
    obtain ⟨w, hw, -⟩ := mem_trigramSet.1 ht
    exact ⟨w, hw⟩
  · rintro ⟨w, hw⟩
    obtain ⟨t, ht⟩ := List.exists_mem_of_ne_nil _ (wordTrigrams_ne_nil w)
    exact ⟨t, mem_trigramSet.2 ⟨w, hw, ht⟩⟩

/-- Each word of the second text, in small letters, is one of the first. -/
def HasWordsOf (a b : String) : Prop := ∀ w, IsWord (lower b).toList w → IsWord (lower a).toList w

theorem trigramSet_subset_of_words (words : HasWordsOf a b) : trigramSet b ⊆ trigramSet a := by
  intro t ht
  obtain ⟨w, hw, mem⟩ := mem_trigramSet.1 ht
  exact mem_trigramSet.2 ⟨w, mem_words_iff.2 (words w (mem_words_iff.1 hw)), mem⟩

/-! ## What is divided -/

/-- The number of common trigrams is divided by that of all, and nothing is divided where there is
none. -/
theorem similarity_cases (a b : String) :
    (trigramSet a ∪ trigramSet b = ∅ ∧ similarity a b = ⟨0, 1, Nat.one_pos⟩) ∨
      ∃ some : 0 < (trigramSet a ∪ trigramSet b).card,
        similarity a b = ⟨(trigramSet a ∩ trigramSet b).card,
          (trigramSet a ∪ trigramSet b).card, some⟩ := by
  have common := shared_eq_card a b
  have either := length_either_eq_card a b
  by_cases none : (trigramSet a ∪ trigramSet b).card = 0
  · exact .inl ⟨Finset.card_eq_zero.1 none, by simp only [similarity, either, none, dif_pos]⟩
  · refine .inr ⟨Nat.pos_of_ne_zero none, ?_⟩
    simp only [similarity, either, none, dif_neg, not_false_eq_true]
    rw [Ratio.mk.injEq]
    exact ⟨common, rfl⟩

theorem similarity_comm (a b : String) : similarity a b = similarity b a := by
  have either := Finset.union_comm (trigramSet a) (trigramSet b)
  rcases similarity_cases a b with ⟨none, left⟩ | ⟨some, left⟩ <;>
    rcases similarity_cases b a with ⟨none', right⟩ | ⟨some', right⟩
  · rw [left, right]
  · rw [← either, none] at some'
    cases some'
  · rw [either, none'] at some
    cases some
  · simp only [left, right, either, Finset.inter_comm (trigramSet a)]

/-! ## Extremes -/

theorem overlap_eq_one_iff : overlap a b = 1 ↔ trigramSet a = trigramSet b ∧
    (trigramSet a).Nonempty := by
  constructor
  · intro whole
    have some : ((trigramSet a ∪ trigramSet b).card : ℚ) ≠ 0 := by
      intro none
      rw [overlap, none, div_zero] at whole
      exact zero_ne_one whole
    have cards : (trigramSet a ∩ trigramSet b).card = (trigramSet a ∪ trigramSet b).card := by
      exact_mod_cast (div_eq_one_iff_eq some).1 whole
    have common := Finset.eq_of_subset_of_card_le Finset.inter_subset_union cards.ge
    have same : trigramSet a = trigramSet b :=
      (Finset.inter_eq_left.1
        (le_antisymm Finset.inter_subset_left (common ▸ Finset.subset_union_left))).antisymm
        (Finset.inter_eq_right.1
          (le_antisymm Finset.inter_subset_right (common ▸ Finset.subset_union_right)))
    refine ⟨same, Finset.nonempty_iff_ne_empty.2 fun none => some ?_⟩
    simp [← same, none]
  · rintro ⟨same, some⟩
    rw [overlap, ← same, Finset.inter_self, Finset.union_self]
    exact div_self (Nat.cast_ne_zero.2 some.card_pos.ne')

theorem overlap_eq_zero_iff : overlap a b = 0 ↔ Disjoint (trigramSet a) (trigramSet b) := by
  rw [overlap, div_eq_zero_iff, Nat.cast_eq_zero, Nat.cast_eq_zero, Finset.card_eq_zero,
    Finset.card_eq_zero, Finset.disjoint_iff_inter_eq_empty, or_iff_left_of_imp]
  intro none
  exact Finset.subset_empty.1 (none ▸ Finset.inter_subset_union)

theorem overlap_self_eq_one_iff :
    overlap a a = 1 ↔ ∃ c ∈ (lower a).toList, isAlphanumeric c = true := by
  rw [overlap_eq_one_iff, trigramSet_nonempty_iff, and_iff_right rfl]

theorem overlap_self_eq_zero_iff :
    overlap a a = 0 ↔ ¬ ∃ c ∈ (lower a).toList, isAlphanumeric c = true := by
  rw [overlap_eq_zero_iff, disjoint_self, Finset.bot_eq_empty, ← Finset.not_nonempty_iff_eq_empty,
    trigramSet_nonempty_iff]

theorem overlap_of_subset (subset : trigramSet b ⊆ trigramSet a) :
    overlap a b = (trigramSet b).card / (trigramSet a).card := by
  rw [overlap, Finset.inter_eq_right.2 subset, Finset.union_eq_left.2 subset]

/-- Of two texts with all the trigrams of a third the one with fewer trigrams is not farther from
it. -/
theorem exactDistance_le_of_card_le (some : (trigramSet b).Nonempty)
    (subset : trigramSet b ⊆ trigramSet a) (subset' : trigramSet b ⊆ trigramSet a')
    (fewer : (trigramSet a).card ≤ (trigramSet a').card) :
    exactDistance a b ≤ exactDistance a' b := by
  have pos : (0 : ℚ) < (trigramSet a).card := Nat.cast_pos.2 (some.mono subset).card_pos
  rw [exactDistance, exactDistance, overlap_of_subset subset, overlap_of_subset subset']
  exact sub_le_sub_left (div_le_div_of_nonneg_left (Nat.cast_nonneg _) pos (Nat.cast_le.2 fewer)) 1

theorem overlap_pos_of_subset (some : (trigramSet b).Nonempty)
    (subset : trigramSet b ⊆ trigramSet a) :
    0 < overlap a b := by
  rw [overlap_of_subset subset]
  exact div_pos (Nat.cast_pos.2 some.card_pos) (Nat.cast_pos.2 (some.mono subset).card_pos)

/-- The similarity is the share of common trigrams among all of two texts: the same from either
side, from zero to one, one where both have the same trigrams and have any, zero where they have
none in common. Nothing is divided by zero. A text that has all words of a term has all its
trigrams; of two such texts the one with fewer trigrams is not farther. -/
theorem similarity_is_normalised_overlap :
    (∀ a b, similarity a b = similarity b a) ∧
    (∀ a b, 0 ≤ (similarity a b).toRat ∧ (similarity a b).toRat ≤ 1) ∧
    (∀ a b, (similarity a b).toRat = 1 ↔ trigramSet a = trigramSet b ∧ (trigramSet a).Nonempty) ∧
    (∀ a b, (similarity a b).toRat = 0 ↔ Disjoint (trigramSet a) (trigramSet b)) ∧
    (∀ a, ((similarity a a).toRat = 1 ↔ ∃ c ∈ (lower a).toList, isAlphanumeric c = true) ∧
      ((similarity a a).toRat = 0 ↔ ¬ ∃ c ∈ (lower a).toList, isAlphanumeric c = true)) ∧
    (∀ a b, (trigramSet a ∪ trigramSet b = ∅ ∧ similarity a b = ⟨0, 1, Nat.one_pos⟩) ∨
      ∃ some : 0 < (trigramSet a ∪ trigramSet b).card,
        similarity a b =
          ⟨(trigramSet a ∩ trigramSet b).card, (trigramSet a ∪ trigramSet b).card, some⟩) ∧
    ∀ b, (∃ w, IsWord (lower b).toList w) →
      (∀ a, HasWordsOf a b → trigramSet b ⊆ trigramSet a ∧
        (similarity a b).toRat = (trigramSet b).card / (trigramSet a).card ∧
        0 < (similarity a b).toRat) ∧
      ∀ a a', HasWordsOf a b → HasWordsOf a' b → (trigramSet a).card ≤ (trigramSet a').card →
        exactDistance a b ≤ exactDistance a' b := by
  simp only [toRat_similarity]
  refine ⟨similarity_comm, fun a b => ⟨overlap_nonneg a b, overlap_le_one a b⟩,
    fun _ _ => overlap_eq_one_iff, fun _ _ => overlap_eq_zero_iff,
    fun _ => ⟨overlap_self_eq_one_iff, overlap_self_eq_zero_iff⟩, similarity_cases,
    fun b word => ?_⟩
  have some : (trigramSet b).Nonempty := by
    obtain ⟨w, hw⟩ := word
    exact trigramSet_nonempty_iff.2 (exists_mem_words_iff.1 ⟨w, mem_words_iff.2 hw⟩)
  refine ⟨fun a words => ?_, fun a a' words words' fewer => ?_⟩
  · have subset := trigramSet_subset_of_words words
    exact ⟨subset, overlap_of_subset subset, overlap_pos_of_subset some subset⟩
  · exact exactDistance_le_of_card_le some (trigramSet_subset_of_words words)
      (trigramSet_subset_of_words words') fewer

/-- Both names have the one word of the term, and the shorter one is closer to it. -/
theorem similarity_is_normalised_overlap_ada :
    trigramSet "ada" ⊆ trigramSet "Ada L." ∧ (similarity "Ada L." "ada").toRat = 4 / 6 ∧
      exactDistance "Ada L." "ada" ≤ exactDistance "Augusta Ada" "ada" := by
  have ada : words (lower "ada").toList = ["ada".toList] := by decide +kernel
  have short : words (lower "Ada L.").toList = ["ada".toList, "l".toList] := by decide +kernel
  have long : words (lower "Augusta Ada").toList = ["augusta".toList, "ada".toList] := by
    decide +kernel
  have first : HasWordsOf "Ada L." "ada" := by
    intro w
    simp only [← mem_words_iff, ada, short]
    exact fun h => List.mem_append_left _ h
  have second : HasWordsOf "Augusta Ada" "ada" := by
    intro w
    simp only [← mem_words_iff, ada, long]
    exact List.mem_cons_of_mem _
  have two : (trigramSet "ada").card = 4 := by
    rw [trigramSet_eq_toFinset]
    decide +kernel
  have six : (trigramSet "Ada L.").card = 6 := by
    rw [trigramSet_eq_toFinset]
    decide +kernel
  have eleven : (trigramSet "Augusta Ada").card = 11 := by
    rw [trigramSet_eq_toFinset]
    decide +kernel
  obtain ⟨-, -, -, -, -, -, contained⟩ := similarity_is_normalised_overlap
  obtain ⟨share, closer⟩ := contained "ada" ⟨_, mem_words_iff.1 (ada ▸ List.mem_singleton_self _)⟩
  obtain ⟨subset, ratio, -⟩ := share "Ada L." first
  refine ⟨subset, by simpa [two, six] using ratio, closer _ _ first second ?_⟩
  rw [six, eleven]
  decide

end UserDirectory.Search
