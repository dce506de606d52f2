import UserDirectory.Proofs.Identity.UserId

/-!
# The texts of ids

A text is an id if it is a known provider, a tilde and a subject. Reading accepts these texts and no
others, so reading and printing are inverse to each other. An id that is made of a provider and a
subject is the one that their text is read as.
-/
namespace UserDirectory

open Text

/-- The name of a provider, a tilde, and from 1 to 128 characters with no control character among
them. -/
def IsIdText (s : String) : Prop :=
  ∃ provider ∈ ["oidc", "kubernetes"], ∃ subject : String, s = provider ++ "~" ++ subject ∧
    1 ≤ subject.length ∧ subject.length ≤ 128 ∧ ∀ c ∈ subject.toList, ¬ c.toNat ≤ 0x1F ∧
      c.toNat ≠ 0x7F

theorem isSubject_iff {s : String} : IsSubject s ↔
    1 ≤ s.length ∧ s.length ≤ 128 ∧ ∀ c ∈ s.toList, ¬ c.toNat ≤ 0x1F ∧ c.toNat ≠ 0x7F := by
  have nonempty : s ≠ "" ↔ 1 ≤ s.length := by
    rw [Nat.one_le_iff_ne_zero, ne_eq, ne_eq, String.length_eq_zero_iff]
  have control : ∀ c : Char, isControl c = false ↔ ¬ c.toNat ≤ 0x1F ∧ c.toNat ≠ 0x7F := by
    intro c
    simp only [isControl, Bool.or_eq_false_iff, decide_eq_false_iff_not, beq_eq_false_iff_ne, ne_eq]
    omega
  simp only [IsSubject, maxSubjectLength, nonempty, control]

theorem mem_providers_iff {name : String} :
    name ∈ ["oidc", "kubernetes"] ↔ ∃ p : Provider, p.name = name := by
  constructor
  · intro known
    simp only [List.mem_cons, List.not_mem_nil, or_false] at known
    rcases known with rfl | rfl
    · exact ⟨.oidc, rfl⟩
    · exact ⟨.kubernetes, rfl⟩
  · rintro ⟨_ | _, rfl⟩
    · exact List.mem_cons_self
    · exact List.mem_cons_of_mem _ List.mem_cons_self

namespace UserId

theorem isIdText_text (id : UserId) : IsIdText id.text :=
  ⟨id.provider.name, mem_providers_iff.2 ⟨id.provider, rfl⟩, id.subject, rfl,
    isSubject_iff.1 id.isSubject⟩

theorem isIdText_iff {s : String} : IsIdText s ↔ ∃ id : UserId, id.text = s := by
  constructor
  · rintro ⟨name, known, subject, rfl, accepted⟩
    obtain ⟨p, rfl⟩ := mem_providers_iff.1 known
    exact ⟨⟨p, subject, isSubject_iff.2 accepted⟩, rfl⟩
  · rintro ⟨id, rfl⟩
    exact isIdText_text id

/-- A text is read as an id if it is that of the id. -/
theorem parse_eq_ok_iff {s : String} {id : UserId} : parse s = .ok id ↔ id.text = s := by
  refine ⟨text_eq_of_parse, ?_⟩
  rintro rfl
  exact parse_text id

theorem exists_parse_iff {s : String} : (∃ id, parse s = .ok id) ↔ IsIdText s := by
  simp only [isIdText_iff, parse_eq_ok_iff]

/-- Both ways to make an id come to the same, failures included, as the first tilde ends the
provider. -/
theorem parse_join {provider subject : String} (tildeless : '~' ∉ provider.toList) :
    parse (provider ++ "~" ++ subject) = make provider subject := by
  have cut : cut? '~' (provider ++ "~" ++ subject).toList =
      some (provider.toList, subject.toList) :=
    cut?_eq_some_iff.2 ⟨by simp, tildeless⟩
  simp only [parse, cut, String.ofList_toList]

end UserId

end UserDirectory
