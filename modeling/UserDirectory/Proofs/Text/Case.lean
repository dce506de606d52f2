import UserDirectory.Proofs.Text.Utf8
import UserDirectory.Text.Case

/-!
# Small letters

A blank keeps what stands before it and what stands behind it apart: neither has a part in the small
form of the other. The small form of a character is small already, wherever it stands, so a text in
small letters stays as it is.
-/
namespace UserDirectory.Text

/-! ## Texts with a blank between them -/

theorem startsCased_append_blank (s rest : List Char) :
    startsCased (s ++ ' ' :: rest) = startsCased s := by
  induction s with
  | nil => rfl
  | cons c s ih => rw [List.cons_append, startsCased, startsCased, ih]

theorem lowerAfter_blank (after : Bool) (s : List Char) :
    lowerAfter after (' ' :: s) = ' ' :: lowerAfter false s := rfl

theorem lowerAfter_append_blank (after : Bool) (s rest : List Char) :
    lowerAfter after (s ++ ' ' :: rest) = lowerAfter after s ++ ' ' :: lowerAfter false rest := by
  induction s generalizing after with
  | nil => exact lowerAfter_blank after rest
  | cons c s ih =>
    rw [List.cons_append, lowerAfter, lowerAfter, ih, startsCased_append_blank, List.append_assoc]

theorem toList_lower (s : String) : (lower s).toList = lowerAfter false s.toList :=
  String.toList_ofList

theorem lower_append_blank (a b : String) : lower (a ++ " " ++ b) = lower a ++ " " ++ lower b := by
  apply String.toList_inj.1
  simp [toList_lower, lowerAfter_append_blank]

/-! ## Runs of a case mapping -/

namespace CaseRun

variable {run other : CaseRun} {n : Nat}

/-- The code point is one of those that the run maps. -/
def Maps (run : CaseRun) (n : Nat) : Prop :=
  run.first ≤ n ∧ n ≤ run.last ∧ (n - run.first) % run.step = 0

/-- What the run maps a code point to. -/
def image (run : CaseRun) (n : Nat) : Nat := (n + run.shift).toNat

/-- The images of a run lie before or behind another run, or between the code points that this one
maps. -/
def avoids (run other : CaseRun) : Bool :=
  (run.image run.last).blt other.first || other.last.blt (run.image run.first) ||
    (other.step == 2 && (run.step == 2 || run.first == run.last) &&
      run.image run.first % 2 != other.first % 2)

/-- The images of a run are characters, and none of them is the capital I with a dot. -/
def hasPlainImages (run : CaseRun) : Bool :=
  0 ≤ run.first + run.shift && (run.image run.last < 0x130 || 0x130 < run.image run.first) &&
    (run.image run.last < 0xD800 || (0xDFFF < run.image run.first && run.image run.last < 0x110000))

theorem Maps.image_bounds (h : run.Maps n) :
    run.image run.first ≤ run.image n ∧ run.image n ≤ run.image run.last := by
  obtain ⟨first, last, -⟩ := h
  simp only [image]
  omega

theorem Maps.not_maps_image (h : run.Maps n) (plain : run.hasPlainImages = true)
    (apart : run.avoids other = true) :
    ¬ other.Maps (run.image n) := by
  rintro ⟨first, last, step⟩
  have bounds := h.image_bounds
  obtain ⟨low, high, whole⟩ := h
  simp only [hasPlainImages, Bool.and_eq_true, decide_eq_true_eq] at plain
  simp only [avoids, Bool.or_eq_true, Bool.and_eq_true, Nat.blt_eq, beq_iff_eq, bne_iff_ne] at apart
  rcases apart with (before | behind) | ⟨⟨two, even | single⟩, between⟩
  · omega
  · omega
  · rw [two] at step
    rw [even] at whole
    simp only [image] at *
    omega
  · obtain rfl : n = run.first := by omega
    rw [two] at step
    omega

end CaseRun

theorem mapCase_eq_self {runs : List CaseRun} {n : Nat} (h : ∀ run ∈ runs, ¬ run.Maps n) :
    mapCase runs n = n := by
  induction runs with
  | nil => rfl
  | cons run rest ih =>
    have missed := h run List.mem_cons_self
    have behind := ih fun other later => h other (List.mem_cons_of_mem _ later)
    unfold mapCase
    split
    · rfl
    · rename_i reached
      split
      · rename_i inside
        simp only [Bool.and_eq_true, decide_eq_true_eq, beq_iff_eq] at inside
        exact absurd ⟨Nat.not_lt.1 reached, inside⟩ missed
      · exact behind

theorem mapCase_cases (runs : List CaseRun) (n : Nat) :
    mapCase runs n = n ∨ ∃ run ∈ runs, run.Maps n ∧ mapCase runs n = run.image n := by
  induction runs with
  | nil => exact .inl rfl
  | cons run rest ih =>
    unfold mapCase
    split
    · exact .inl rfl
    · rename_i reached
      split
      · rename_i inside
        simp only [Bool.and_eq_true, decide_eq_true_eq, beq_iff_eq] at inside
        exact .inr ⟨run, List.mem_cons_self, ⟨Nat.not_lt.1 reached, inside⟩, rfl⟩
      · rcases ih with same | ⟨other, later, mapped, image⟩
        · exact .inl same
        · exact .inr ⟨other, List.mem_cons_of_mem _ later, mapped, image⟩

/-- What a run maps to is not mapped again by runs that its images avoid. -/
theorem CaseRun.Maps.mapCase_image {runs : List CaseRun} {run : CaseRun} {n : Nat}
    (mapped : run.Maps n) (plain : run.hasPlainImages = true) (apart : runs.all run.avoids = true) :
    mapCase runs (run.image n) = run.image n :=
  mapCase_eq_self fun other hother =>
    mapped.not_maps_image plain (List.all_eq_true.1 apart other hother)

theorem CaseRun.Maps.toNat_ofNat_image {run : CaseRun} {n : Nat} (mapped : run.Maps n)
    (plain : run.hasPlainImages = true) :
    (Char.ofNat (run.image n)).toNat = run.image n ∧ run.image n ≠ 0x130 := by
  have bounds := mapped.image_bounds
  simp only [CaseRun.hasPlainImages, Bool.and_eq_true, Bool.or_eq_true, decide_eq_true_eq] at plain
  have valid : (run.image n).isValidChar := by
    unfold Nat.isValidChar
    omega
  exact ⟨Utf8.toNat_ofNat valid, by omega⟩

/-! ## The mapping to small letters -/

theorem hasPlainImages_of_mem_lowerRuns : ∀ run ∈ lowerRuns, run.hasPlainImages = true := by
  decide +kernel

theorem avoids_of_mem_lowerRuns : ∀ run ∈ lowerRuns, lowerRuns.all run.avoids = true := by
  decide +kernel

/-- The character has no other small form, wherever it stands. -/
def IsSmall (c : Char) : Prop := c ≠ 'Σ' ∧ lowerChar c = [c]

theorem isSmall_of_mapCase {c : Char} (same : mapCase lowerRuns c.toNat = c.toNat)
    (undotted : c.toNat ≠ 0x130) :
    IsSmall c := by
  refine ⟨?_, ?_⟩
  · rintro rfl
    exact absurd same (by decide +kernel)
  · rw [lowerChar, if_neg (by simpa using undotted), same, Char.ofNat_toNat]

/-- Small forms are small. -/
theorem isSmall_of_mem_lowerChar {c d : Char} (h : d ∈ lowerChar c) : IsSmall d := by
  unfold lowerChar at h
  split at h
  · rcases List.mem_cons.1 h with rfl | h
    · exact isSmall_of_mapCase (by decide +kernel) (by decide)
    · obtain rfl := List.mem_singleton.1 h
      exact isSmall_of_mapCase (by decide +kernel) (by decide)
  · rename_i undotted
    obtain rfl := List.mem_singleton.1 h
    rcases mapCase_cases lowerRuns c.toNat with same | ⟨run, hrun, mapped, image⟩
    · rw [same, Char.ofNat_toNat]
      exact isSmall_of_mapCase same (by simpa using undotted)
    · have plain := hasPlainImages_of_mem_lowerRuns run hrun
      obtain ⟨code, undotted⟩ := mapped.toNat_ofNat_image plain
      rw [image]
      refine isSmall_of_mapCase ?_ ?_ <;> rw [code]
      · exact mapped.mapCase_image plain (avoids_of_mem_lowerRuns run hrun)
      · exact undotted

theorem isSmall_of_mem_lowerAfter {after : Bool} {s : List Char} {d : Char}
    (h : d ∈ lowerAfter after s) :
    IsSmall d := by
  induction s generalizing after with
  | nil => cases h
  | cons c s ih =>
    rw [lowerAfter, List.mem_append] at h
    rcases h with first | later
    · split at first
      · obtain rfl := List.mem_singleton.1 first
        split <;> exact isSmall_of_mapCase (by decide +kernel) (by decide)
      · exact isSmall_of_mem_lowerChar first
    · exact ih later

/-- A text of small characters is in small letters, whatever it follows on. -/
theorem lowerAfter_eq_self {after : Bool} {s : List Char} (small : ∀ c ∈ s, IsSmall c) :
    lowerAfter after s = s := by
  induction s generalizing after with
  | nil => rfl
  | cons c s ih =>
    obtain ⟨noSigma, same⟩ := small c List.mem_cons_self
    rw [lowerAfter, ih fun d hd => small d (List.mem_cons_of_mem _ hd),
      if_neg (by simpa using noSigma), same]
    rfl

@[simp] theorem lower_lower (s : String) : lower (lower s) = lower s := by
  apply String.toList_inj.1
  rw [toList_lower (lower s), toList_lower s]
  exact lowerAfter_eq_self fun _ => isSmall_of_mem_lowerAfter

end UserDirectory.Text
