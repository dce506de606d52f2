/-!
# Cutting a text at a mark

`cut? mark s` splits a text at the first occurrence of `mark`, and `cutLast? mark s` at the last
one. The two pieces with the mark between them are the text again, and one of them is free of the
mark.
-/
namespace UserDirectory.Text

def cut? (mark : Char) : List Char → Option (List Char × List Char)
  | [] => none
  | c :: rest =>
    if c = mark then some ([], rest) else (cut? mark rest).map fun (a, b) => (c :: a, b)

theorem cut?_eq_some_iff {mark : Char} {s a b : List Char} :
    cut? mark s = some (a, b) ↔ s = a ++ mark :: b ∧ mark ∉ a := by
  induction s generalizing a with
  | nil => simp [cut?]
  | cons c rest ih =>
    by_cases h : c = mark
    · subst h
      cases a with
      | nil => simp [cut?]
      | cons x a =>
        simp only [cut?, ↓reduceIte, Option.some.injEq, Prod.mk.injEq]
        constructor
        · simp
        · rintro ⟨eq, free⟩
          simp at eq free
          exact absurd eq.1 free.1
    · simp only [cut?, if_neg h, Option.map_eq_some_iff, Prod.mk.injEq, Prod.exists]
      constructor
      · rintro ⟨a', b', found, rfl, rfl⟩
        have := ih.1 found
        exact ⟨by simp [this.1], by simp [this.2, Ne.symm h]⟩
      · rintro ⟨eq, free⟩
        cases a with
        | nil => simp at eq; exact absurd eq.1 h
        | cons x a =>
          simp at eq free
          exact ⟨a, b, ih.2 ⟨eq.2, free.2⟩, by rw [eq.1], rfl⟩

theorem cut?_eq_none_iff {mark : Char} {s : List Char} : cut? mark s = none ↔ mark ∉ s := by
  induction s with
  | nil => simp [cut?]
  | cons c rest ih =>
    by_cases h : c = mark
    · simp [cut?, h]
    · simp [cut?, h, ih, Ne.symm h]

def cutLast? (mark : Char) : List Char → Option (List Char × List Char)
  | [] => none
  | c :: rest =>
    match cutLast? mark rest with
    | some (a, b) => some (c :: a, b)
    | none => if c = mark then some ([], rest) else none

theorem cutLast?_eq_none_iff {mark : Char} {s : List Char} : cutLast? mark s = none ↔ mark ∉ s := by
  induction s with
  | nil => simp [cutLast?]
  | cons c rest ih =>
    by_cases h : mark ∈ rest
    · have : cutLast? mark rest ≠ none := fun none => ih.1 none h
      obtain ⟨p, found⟩ := Option.ne_none_iff_exists'.1 this
      simp [cutLast?, found, h]
    · by_cases same : c = mark
      · simp [cutLast?, ih.2 h, same]
      · simp [cutLast?, ih.2 h, same, Ne.symm same, h]

theorem cutLast?_eq_some_iff {mark : Char} {s a b : List Char} :
    cutLast? mark s = some (a, b) ↔ s = a ++ mark :: b ∧ mark ∉ b := by
  induction s generalizing a b with
  | nil => simp [cutLast?]
  | cons c rest ih =>
    rw [cutLast?]
    cases found : cutLast? mark rest with
    | none =>
      have free := cutLast?_eq_none_iff.1 found
      cases a with
      | nil => grind
      | cons x a => grind
    | some p =>
      obtain ⟨front, behind⟩ := p
      have later := ih.1 found
      cases a with
      | nil => grind
      | cons x a =>
        constructor
        · grind
        · rintro ⟨eq, free⟩
          obtain ⟨rfl, tail⟩ := List.cons.inj eq
          have same := ih.2 ⟨tail, free⟩
          rw [found] at same
          grind

/-- Every piece between two marks, so that one piece more than marks comes out. -/
def pieces (mark : Char) : List Char → List (List Char)
  | [] => [[]]
  | c :: rest =>
    match pieces mark rest with
    | [] => [[c]]
    | piece :: more => if c = mark then [] :: piece :: more else (c :: piece) :: more

end UserDirectory.Text
