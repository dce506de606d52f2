import Mathlib.Data.List.Basic
import UserDirectory.Search.Trigram

/-!
# Words

A break parts the words before it from those behind it. So the words of a text are its maximal runs
of letters and numbers: each of them is one, and each such run is among them.
-/
namespace UserDirectory.Search

open Text

variable {s w : List Char} {c : Char}

/-! ## Words on both sides of a break -/

theorem words_eq (s : List Char) : words s =
    if (leadingRun s).1 = [] then (leadingRun s).2 else (leadingRun s).1 :: (leadingRun s).2 := rfl

theorem leadingRun_break (h : isAlphanumeric c = false) (s : List Char) :
    leadingRun (c :: s) = ([], words s) := by
  simp [leadingRun, words_eq, h]

theorem leadingRun_cons (h : isAlphanumeric c = true) (s : List Char) :
    leadingRun (c :: s) = (c :: (leadingRun s).1, (leadingRun s).2) := by
  simp [leadingRun, h]

/-- The run that a text begins with, and the words behind it, when more follows behind a break. -/
theorem leadingRun_append_break (h : isAlphanumeric c = false) (s rest : List Char) :
    leadingRun (s ++ c :: rest) = ((leadingRun s).1, (leadingRun s).2 ++ words rest) := by
  induction s with
  | nil => exact leadingRun_break h rest
  | cons d s ih =>
    cases inside : isAlphanumeric d with
    | true => rw [List.cons_append, leadingRun_cons inside, leadingRun_cons inside, ih]
    | false =>
      rw [List.cons_append, leadingRun_break inside, leadingRun_break inside,
        words_eq, words_eq, ih]
      split <;> rfl

theorem words_append_break (h : isAlphanumeric c = false) (s rest : List Char) :
    words (s ++ c :: rest) = words s ++ words rest := by
  rw [words_eq, words_eq s, leadingRun_append_break h]
  split <;> rfl

theorem leadingRun_of_alphanumeric (h : ∀ c ∈ s, isAlphanumeric c = true) :
    leadingRun s = (s, []) := by
  induction s with
  | nil => rfl
  | cons c s ih =>
    rw [leadingRun_cons (h c List.mem_cons_self), ih fun d hd => h d (List.mem_cons_of_mem _ hd)]

theorem words_of_alphanumeric (nonempty : s ≠ []) (h : ∀ c ∈ s, isAlphanumeric c = true) :
    words s = [s] := by
  rw [words_eq, leadingRun_of_alphanumeric h, if_neg nonempty]

/-! ## Words as maximal runs -/

/-- A run of letters and numbers in a text, with none of these next to it. -/
structure IsWord (s w : List Char) : Prop where
  ne_nil : w ≠ []
  alphanumeric : ∀ c ∈ w, isAlphanumeric c = true
  between : ∃ before after, s = before ++ w ++ after ∧
    (∀ c ∈ before.getLast?, isAlphanumeric c = false) ∧
    ∀ c ∈ after.head?, isAlphanumeric c = false

namespace IsWord

theorem append_left (h : IsWord s w) (ends : isAlphanumeric c = false) (rest : List Char) :
    IsWord (s ++ c :: rest) w := by
  obtain ⟨nonempty, alphanumeric, before, after, rfl, left, right⟩ := h
  refine ⟨nonempty, alphanumeric, before, after ++ c :: rest, by simp, left, ?_⟩
  cases after with
  | nil =>
    rintro _ ⟨⟩
    exact ends
  | cons d after => exact right

theorem append_right (h : IsWord s w) (starts : isAlphanumeric c = false) (init : List Char) :
    IsWord (init ++ c :: s) w := by
  obtain ⟨nonempty, alphanumeric, before, after, rfl, left, right⟩ := h
  refine ⟨nonempty, alphanumeric, init ++ c :: before, after, by simp, ?_, right⟩
  rw [List.getLast?_append_of_ne_nil _ (List.cons_ne_nil c before)]
  cases before with
  | nil =>
    rintro _ ⟨⟩
    exact starts
  | cons d before =>
    rw [List.getLast?_cons_cons]
    exact left

/-- A word comes first among the words from it on. -/
theorem words_append (nonempty : w ≠ []) (alphanumeric : ∀ c ∈ w, isAlphanumeric c = true)
    {after : List Char} (ends : ∀ c ∈ after.head?, isAlphanumeric c = false) :
    words (w ++ after) = w :: words after.tail := by
  cases after with
  | nil =>
    rw [List.append_nil, words_of_alphanumeric nonempty alphanumeric]
    rfl
  | cons c rest =>
    rw [words_append_break (ends c rfl), words_of_alphanumeric nonempty alphanumeric]
    rfl

theorem mem_words (h : IsWord s w) : w ∈ words s := by
  obtain ⟨nonempty, alphanumeric, before, after, rfl, left, right⟩ := h
  have first : w ∈ words (w ++ after) := by
    rw [words_append nonempty alphanumeric right]
    exact List.mem_cons_self
  rcases List.eq_nil_or_concat' before with rfl | ⟨init, c, rfl⟩
  · exact first
  · rw [List.append_assoc, List.append_assoc, List.singleton_append,
      words_append_break (left c (by simp))]
    exact List.mem_append_right _ first

end IsWord

/-- A text is a run, or a break has a shorter text on both of its sides. -/
theorem breakInduction {motive : List Char → Prop}
    (run : ∀ s, (∀ c ∈ s, isAlphanumeric c = true) → motive s)
    (parted : ∀ init c rest, isAlphanumeric c = false → motive init → motive rest →
      motive (init ++ c :: rest))
    (s : List Char) : motive s := by
  by_cases whole : ∀ c ∈ s, isAlphanumeric c = true
  · exact run s whole
  · simp only [not_forall, Bool.not_eq_true] at whole
    obtain ⟨c, hc, ends⟩ := whole
    obtain ⟨init, rest, split⟩ := List.append_of_mem hc
    have length : s.length = init.length + (rest.length + 1) := by simp [split]
    rw [split]
    exact parted init c rest ends (breakInduction run parted init) (breakInduction run parted rest)
termination_by s.length

theorem isWord_of_mem_words (h : w ∈ words s) : IsWord s w := by
  induction s using breakInduction with
  | run s whole =>
    by_cases empty : s = []
    · subst empty
      cases h
    · rw [words_of_alphanumeric empty whole] at h
      obtain rfl := List.mem_singleton.1 h
      exact ⟨empty, whole, [], [], by simp, nofun, nofun⟩
  | parted init c rest ends before behind =>
    rw [words_append_break ends, List.mem_append] at h
    rcases h with h | h
    · exact (before h).append_left ends rest
    · exact (behind h).append_right ends init

theorem mem_words_iff : w ∈ words s ↔ IsWord s w := ⟨isWord_of_mem_words, IsWord.mem_words⟩

/-- A text has a word if it has a letter or a number. -/
theorem exists_mem_words_iff : (∃ w, w ∈ words s) ↔ ∃ c ∈ s, isAlphanumeric c = true := by
  induction s using breakInduction with
  | run s whole =>
    by_cases empty : s = []
    · subst empty
      simp [words, leadingRun]
    · obtain ⟨c, hc⟩ := List.exists_mem_of_ne_nil s empty
      rw [words_of_alphanumeric empty whole]
      exact ⟨fun _ => ⟨c, hc, whole c hc⟩, fun _ => ⟨s, List.mem_singleton_self s⟩⟩
  | parted init c rest ends before behind =>
    rw [words_append_break ends]
    simp only [List.mem_append, List.mem_cons, exists_or, or_and_right, before, behind,
      exists_eq_left, ends, Bool.false_eq_true, false_or]

end UserDirectory.Search
