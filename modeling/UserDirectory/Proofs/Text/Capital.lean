import UserDirectory.Proofs.Text.Case
import UserDirectory.Proofs.Text.Trim

/-!
# Capital letters

The capital form of a character is in capitals already, though it may be several characters, so a
text in capitals stays as it is. No blank comes of a character that is not one: a text that begins
and ends without a blank does so in capitals too, and trimming does not touch it.
-/
namespace UserDirectory.Text

/-! ## The mapping to capital letters -/

/-- The images of a run lie before or behind a range of code points. -/
def CaseRun.misses (run : CaseRun) (range : Nat × Nat) : Bool :=
  (run.image run.last).blt range.1 || range.2.blt (run.image run.first)

theorem CaseRun.Maps.image_missed {run : CaseRun} {n : Nat} {range : Nat × Nat}
    (mapped : run.Maps n)
    (missed : run.misses range = true) : run.image n < range.1 ∨ range.2 < run.image n := by
  have bounds := mapped.image_bounds
  simp only [CaseRun.misses, Bool.or_eq_true, Nat.blt_eq] at missed
  omega

theorem hasPlainImages_of_mem_upperRuns : ∀ run ∈ upperRuns, run.hasPlainImages = true := by
  decide +kernel

theorem avoids_of_mem_upperRuns : ∀ run ∈ upperRuns, upperRuns.all run.avoids = true := by
  decide +kernel

theorem misses_expansions : ∀ run ∈ upperRuns,
    upperExpansions.all (fun e => run.misses (e.1, e.1)) = true := by
  decide +kernel

theorem misses_blanks : ∀ run ∈ upperRuns, ∀ range ∈ blanks, run.misses range = true := by
  decide +kernel

/-- The character is its own capital form. -/
def IsCapital (c : Char) : Prop := upperChar c = [c]

instance (c : Char) : Decidable (IsCapital c) := inferInstanceAs (Decidable (_ = _))

theorem isCapital_of_mapCase {c : Char} (same : mapCase upperRuns c.toNat = c.toNat)
    (simple : upperExpansions.lookup c.toNat = none) : IsCapital c := by
  rw [IsCapital, upperChar, simple, same, Char.ofNat_toNat]

theorem mem_upperExpansions {n : Nat} {expansion : List Nat}
    (found : upperExpansions.lookup n = some expansion) :
    (n, expansion) ∈ upperExpansions := by
  obtain ⟨before, behind, whole, -⟩ := List.lookup_eq_some_iff.1 found
  simp [whole]

theorem isCapital_of_mem_expansion :
    ∀ e ∈ upperExpansions, ∀ n ∈ e.2, IsCapital (Char.ofNat n) ∧
      isBlank (Char.ofNat n) = false := by
  decide +kernel

/-- A capital form is made of capitals, and of a blank only if the character was one. -/
theorem isCapital_of_mem_upperChar {c d : Char} (h : d ∈ upperChar c) :
    IsCapital d ∧ (isBlank c = false → isBlank d = false) := by
  unfold upperChar at h
  split at h
  · -- Expansions are few: the table itself has been checked.
    rename_i expansion found
    obtain ⟨n, hn, rfl⟩ := List.mem_map.1 h
    obtain ⟨capital, noBlank⟩ := isCapital_of_mem_expansion _ (mem_upperExpansions found) n hn
    exact ⟨capital, fun _ => noBlank⟩
  · rename_i simple
    obtain rfl := List.mem_singleton.1 h
    rcases mapCase_cases upperRuns c.toNat with same | ⟨run, hrun, mapped, image⟩
    · rw [same, Char.ofNat_toNat]
      exact ⟨isCapital_of_mapCase same simple, id⟩
    · -- The images of a run lie where no run, no expansion and no blank is.
      have plain := hasPlainImages_of_mem_upperRuns run hrun
      obtain ⟨code, -⟩ := mapped.toNat_ofNat_image plain
      rw [image]
      refine ⟨isCapital_of_mapCase ?_ ?_, fun _ => not_isBlank_of_apart fun range hrange => ?_⟩
        <;> rw [code]
      · exact mapped.mapCase_image plain (avoids_of_mem_upperRuns run hrun)
      · refine List.lookup_eq_none_iff.2 fun e he => ?_
        have := mapped.image_missed (List.all_eq_true.1 (misses_expansions run hrun) e he)
        simp only [bne_iff_ne]
        omega
      · exact mapped.image_missed (misses_blanks run hrun range hrange)

theorem upperChar_ne_nil (c : Char) : upperChar c ≠ [] := by
  have written : ∀ e ∈ upperExpansions, e.2 ≠ [] := by decide +kernel
  unfold upperChar
  split
  · rename_i expansion found
    simpa using written _ (mem_upperExpansions found)
  · simp

/-! ## Texts in capitals -/

@[simp] theorem toList_upper (s : String) : (upper s).toList = s.toList.flatMap upperChar :=
  String.toList_ofList

/-- A text of capitals is its own capital form. -/
theorem flatMap_upperChar_eq_self {s : List Char} (capital : ∀ c ∈ s, IsCapital c) :
    s.flatMap upperChar = s := by
  induction s with
  | nil => rfl
  | cons c s ih =>
    rw [List.flatMap_cons, capital c List.mem_cons_self,
      ih fun d hd => capital d (List.mem_cons_of_mem _ hd)]
    rfl

@[simp] theorem upper_upper (s : String) : upper (upper s) = upper s := by
  apply String.toList_inj.1
  rw [toList_upper, toList_upper]
  refine flatMap_upperChar_eq_self fun d hd => ?_
  obtain ⟨c, -, hcd⟩ := List.mem_flatMap.1 hd
  exact (isCapital_of_mem_upperChar hcd).1

theorem Trimmed.toList_upper {s : String} (trimmed : Trimmed isBlank s.toList) :
    Trimmed isBlank (upper s).toList := by
  rw [Text.toList_upper]
  exact trimmed.flatMap upperChar_ne_nil fun c solid d hd => (isCapital_of_mem_upperChar hd).2 solid

theorem upper_eq_empty_iff {s : String} : upper s = "" ↔ s = "" := by
  rw [← String.toList_eq_nil_iff, toList_upper, List.flatMap_eq_nil_iff, ← String.toList_eq_nil_iff]
  constructor
  · intro vanished
    exact List.eq_nil_iff_forall_not_mem.2 fun c hc => upperChar_ne_nil c (vanished c hc)
  · intro empty
    simp [empty]

end UserDirectory.Text
