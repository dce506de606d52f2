import UserDirectory.Input.Email
import UserDirectory.Proofs.Text.Base64
import UserDirectory.Proofs.Text.Composition
import UserDirectory.Proofs.Text.Letter
import UserDirectory.Proofs.Text.NormalForm
import UserDirectory.Proofs.Text.Trim

/-!
# Canonical addresses read again

A canonical address stands alone and needs no trimming. Its local part is its own normal form, in
small letters if it names a role. So it is read as the same address again.
-/
namespace UserDirectory.Input.Email

open Text

/-! ## Characters of addresses -/

section Characters

variable {c : Char}

/-- No white space beyond ASCII is printable. -/
theorem not_isBlank_of_isPrintable (other : isAscii c = false) (printed : isPrintable c = true) :
    isBlank c = false := by
  have beyond : ¬ c.toNat < 128 := of_decide_eq_false other
  have apart : ∀ p ∈ blanks, 0x80 ≤ p.2 → ∀ q ∈ printable, p.2 < q.1 ∨ q.2 < p.1 := by
    decide +kernel
  obtain ⟨q, hq, first, last⟩ := (Ranges.holds_iff ascending_printable c.toNat).1 printed
  refine not_isBlank_of_apart fun p hp => ?_
  have := fun reaches => apart p hp reaches q hq
  omega

/-- What an address is made of. -/
def isAddressChar (c : Char) : Bool := isAtomChar c || c == '.' || c == '@'

/-- Nothing that is trimmed or opens a name or a bracket, and no end of a line. -/
def isPlain (c : Char) : Bool := !isBlank c && c != '<' && c != '"' && c != '\n' && c != '\r'

theorem isPlain_of_isAddressChar (c : Char) : isAddressChar c = true → isPlain c = true := by
  refine forall_char (p := fun c => isAddressChar c = true → isPlain c = true)
    (by decide +kernel) ?_ c
  intro c other address
  have differs : ∀ d : Char, isAscii d = true → c ≠ d := by
    rintro d ascii rfl
    rw [other] at ascii
    cases ascii
  have printed : isPrintable c = true := by
    simpa [isAddressChar, isAtomChar, other, differs '.' (by decide), differs '@' (by decide)]
      using address
  simp [isPlain, not_isBlank_of_isPrintable other printed, differs '<' (by decide),
    differs '"' (by decide), differs '\n' (by decide), differs '\r' (by decide)]

theorem isAtomChar_of_isLabelChar (c : Char) : isLabelChar c = true → isAtomChar c = true := by
  refine forall_char (p := fun c => isLabelChar c = true → isAtomChar c = true)
    (by decide +kernel) ?_ c
  intro c other label
  have ascii := Base64.isAscii_of_isUrlSafe (Bool.or_eq_true_iff.2 (.inl label))
  rw [other] at ascii
  cases ascii

theorem ne_at_of_isAtomChar (h : isAtomChar c = true) : c ≠ '@' := by
  rintro rfl
  exact absurd h (by decide)

end Characters

/-! ## Trimming and names -/

theorem bracketed?_eq_none {s : List Char} (unopened : '<' ∉ s) : bracketed? s = none := by
  unfold bracketed?
  split
  · exact absurd List.mem_cons_self unopened
  · rfl

/-- A text without blanks, quotes and brackets is not trimmed and has no name. -/
theorem strip_eq_self {s : List Char} (plain : ∀ c ∈ s, isPlain c = true) : strip s = s := by
  have noBlank : ∀ c ∈ s, isBlank c = false := by
    intro c hc
    have := plain c hc
    simp_all [isPlain]
  have noBracket : '<' ∉ s := fun h => absurd (plain _ h) (by decide +kernel)
  have noQuote : '"' ∉ s := fun h => absurd (plain _ h) (by decide +kernel)
  have nameless : afterName? s = none := by
    unfold afterName?
    split
    · exact absurd List.mem_cons_self noQuote
    · exact bracketed?_eq_none fun h => noBracket ((List.dropWhile_suffix _).mem h)
  simp only [strip, (trimmed_of_forall noBlank).trim_eq, nameless, Option.getD_none]

/-! ## Pieces -/

theorem pieces_ne_nil (mark : Char) (s : List Char) : pieces mark s ≠ [] := by
  cases s with
  | nil => simp [pieces]
  | cons c rest =>
    unfold pieces
    split
    · simp
    · split <;> simp

theorem mem_pieces {mark c : Char} {s : List Char} (h : c ∈ s) :
    c = mark ∨ ∃ piece ∈ pieces mark s, c ∈ piece := by
  induction s with
  | nil => cases h
  | cons d rest ih =>
    obtain ⟨piece, more, parts⟩ := List.exists_cons_of_ne_nil (pieces_ne_nil mark rest)
    simp only [pieces, parts]
    rcases List.mem_cons.1 h with rfl | later
    · by_cases same : c = mark
      · exact .inl same
      · rw [if_neg same]
        exact .inr ⟨c :: piece, List.mem_cons_self, List.mem_cons_self⟩
    · refine (ih later).imp_right ?_
      rintro ⟨found, hfound, inFound⟩
      rw [parts] at hfound
      split
      · exact ⟨found, List.mem_cons_of_mem _ hfound, inFound⟩
      · rcases List.mem_cons.1 hfound with rfl | behind
        · exact ⟨d :: found, List.mem_cons_self, List.mem_cons_of_mem _ inFound⟩
        · exact ⟨found, List.mem_cons_of_mem _ behind, inFound⟩

/-- If the pieces hold nothing else, the text holds nothing else but the mark. -/
theorem eq_or_of_mem_pieces {mark c : Char} {p : Char → Bool} {s : List Char}
    (h : ∀ piece ∈ pieces mark s, piece.all p = true) (hc : c ∈ s) : c = mark ∨ p c = true := by
  refine (mem_pieces hc).imp_right ?_
  rintro ⟨piece, hpiece, inPiece⟩
  exact List.all_eq_true.1 (h piece hpiece) c inPiece

/-! ## Local parts -/

theorem isAtomChar_of_mem_localPart {s : List Char} (h : isLocalPart s = true) {c : Char}
    (hc : c ∈ s) :
    c = '.' ∨ isAtomChar c = true := by
  simp only [isLocalPart, Bool.and_eq_true, List.all_eq_true] at h
  exact eq_or_of_mem_pieces (fun piece hpiece => List.all_eq_true.2 (h.1 piece hpiece).2) hc

/-- A local part as it is written: in its normal form, and in small letters if it names a role. -/
structure Settled (s : List Char) : Prop where
  valid : isLocalPart s = true
  normal : normalForm s = s
  small : String.ofList (s.map Char.toLower) ∈ roles → s.map Char.toLower = s

theorem settled_role : ∀ role ∈ roles, Settled role.toList := by
  have plain : ∀ role ∈ roles, isLocalPart role.toList = true ∧ role.toList.all isAscii = true ∧
      role.toList.map Char.toLower = role.toList := by decide +kernel
  intro role hrole
  obtain ⟨valid, ascii, small⟩ := plain role hrole
  exact ⟨valid, normalForm_of_ascii (List.all_eq_true.1 ascii), fun _ => small⟩

theorem settled_of_canonical {s part : List Char} (h : canonicalLocalPart? s = some part) :
    Settled part := by
  simp only [canonicalLocalPart?, Bool.and_eq_true] at h
  split at h
  · rename_i checked
    split at h
    · rename_i isRole
      obtain rfl := Option.some.inj h
      have role := settled_role _ (List.contains_iff_mem.1 isRole)
      rwa [String.toList_ofList] at role
    · rename_i noRole
      obtain rfl := Option.some.inj h
      exact ⟨checked.2, normalForm_normalForm s,
        fun role => absurd (List.contains_iff_mem.2 role) noRole⟩
  · cases h

theorem Settled.canonicalLocalPart?_eq {s : List Char} (h : Settled s) :
    canonicalLocalPart? s = some s := by
  simp only [canonicalLocalPart?, h.normal, h.valid, Bool.and_self, if_true]
  split
  · rename_i isRole
    rw [h.small (List.contains_iff_mem.1 isRole)]
  · rfl

/-! ## Domains -/

theorem isAtomChar_of_mem_domain {s : List Char} (h : isDomain s = true) {c : Char} (hc : c ∈ s) :
    c = '.' ∨ isAtomChar c = true := by
  simp only [isDomain, Bool.and_eq_true] at h
  have labels : ∀ label ∈ pieces '.' s, label.all isLabelChar = true := by
    intro label hlabel
    have valid := List.all_eq_true.1 h.1.1.1.2 label hlabel
    simp only [isLabel, Bool.and_eq_true] at valid
    exact valid.1.1.1.2
  exact (eq_or_of_mem_pieces labels hc).imp_right (isAtomChar_of_isLabelChar c)

/-! ## Addresses -/

/-- The local part and the domain of a canonical address. -/
structure Canonical (address : String) (part domain : List Char) : Prop where
  eq : address = String.ofList (part ++ '@' :: domain)
  settled : Settled part
  host : isDomain domain = true
  small : domain.map Char.toLower = domain
  short : isShort address = true

theorem exists_canonical {s a : String} (h : canonical? s = some a) :
    ∃ part domain, Canonical a part domain := by
  simp only [canonical?] at h
  split at h
  · cases h
  · split at h
    · cases h
    · split at h
      · cases h
      · rename_i part accepted
        split at h
        · rename_i checked
          obtain rfl := Option.some.inj h
          simp only [Bool.and_eq_true] at checked
          exact ⟨_, _, rfl, settled_of_canonical accepted, checked.1.1, by simp, checked.2⟩
        · cases h

theorem length_le_utf8ByteSize (s : List Char) : s.length ≤ (String.ofList s).utf8ByteSize := by
  induction s with
  | nil => simp
  | cons c s ih =>
    have := Char.utf8Size_pos c
    rw [String.ofList_cons, String.utf8ByteSize_append, String.utf8ByteSize_singleton,
      List.length_cons]
    omega

namespace Canonical

variable {a : String} {part domain : List Char}

theorem isAddressChar_of_mem (h : Canonical a part domain) {c : Char}
    (hc : c ∈ part ++ '@' :: domain) :
    isAddressChar c = true := by
  have atom : c = '.' ∨ isAtomChar c = true → isAddressChar c = true := by
    rintro (rfl | atom)
    · rfl
    · simp [isAddressChar, atom]
  rcases List.mem_append.1 hc with inPart | behind
  · exact atom (isAtomChar_of_mem_localPart h.settled.valid inPart)
  · rcases List.mem_cons.1 behind with rfl | inDomain
    · decide
    · exact atom (isAtomChar_of_mem_domain h.host inDomain)

theorem cut?_eq (h : Canonical a part domain) :
    cut? '@' (part ++ '@' :: domain) = some (part, domain) := by
  refine cut?_eq_some_iff.2 ⟨rfl, fun inPart => ?_⟩
  rcases isAtomChar_of_mem_localPart h.settled.valid inPart with point | atom
  · exact absurd point (by decide)
  · exact ne_at_of_isAtomChar atom rfl

/-- A canonical address is read as itself. -/
theorem read_again (h : Canonical a part domain) : canonical? a = some a := by
  have plain : ∀ c ∈ part ++ '@' :: domain, isPlain c = true := fun c hc =>
    isPlain_of_isAddressChar c (h.isAddressChar_of_mem hc)
  have short : (part ++ '@' :: domain).length ≤ maxTextLength := by
    have bytes : a.utf8ByteSize ≤ maxAddressLength := of_decide_eq_true h.short
    have := length_le_utf8ByteSize (part ++ '@' :: domain)
    rw [← h.eq] at this
    exact Nat.le_trans this (Nat.le_trans bytes (by decide))
  have oneLine : ((part ++ '@' :: domain).any fun c => c == '\n' || c == '\r') = false := by
    rw [List.any_eq_false]
    intro c hc
    have := plain c hc
    simp_all [isPlain]
  have given := h.short
  rw [h.eq] at given ⊢
  simp only [canonical?, String.toList_ofList, Nat.not_lt.2 short, oneLine,
    strip_eq_self plain, h.cut?_eq, h.settled.canonicalLocalPart?_eq, h.small, h.host, given]
  simp

end Canonical

theorem canonical?_canonical {s a : String} (h : canonical? s = some a) :
    canonical? a = some a := by
  obtain ⟨part, domain, canonical⟩ := exists_canonical h
  exact canonical.read_again

end UserDirectory.Input.Email
