import UserDirectory.Text.CharClass

/-!
# Small letters of ASCII

Writing an ASCII letter small changes no other character and no size, and once is enough. A property
of characters is checked for the ASCII ones and argued for the others.
-/
namespace UserDirectory.Text

variable {c : Char}

/-- What holds of the first 128 characters and of every other one holds of all. -/
theorem forall_char {p : Char → Prop} (ascii : ∀ n < 128, p (Char.ofNat n))
    (others : ∀ c, isAscii c = false → p c) (c : Char) : p c := by
  by_cases inside : isAscii c = true
  · rw [← Char.ofNat_toNat c]
    exact ascii c.toNat (of_decide_eq_true inside)
  · exact others c (by simpa using inside)

theorem toLower_of_not_ascii (h : isAscii c = false) : c.toLower = c := by
  have beyond : ¬ c.toNat < 128 := of_decide_eq_false h
  have value : c.toNat = c.val.toNat := rfl
  refine dif_neg fun capital => ?_
  have below : c.val.toNat ≤ 90 := UInt32.le_iff_toNat_le.1 capital.2
  omega

@[simp] theorem toLower_toLower (c : Char) : c.toLower.toLower = c.toLower := by
  refine forall_char (p := fun c => c.toLower.toLower = c.toLower) (by decide +kernel)
    (fun c other => ?_) c
  rw [toLower_of_not_ascii other, toLower_of_not_ascii other]

end UserDirectory.Text
