import UserDirectory.Input.Request
import UserDirectory.Proofs.Identity.UserId
import UserDirectory.Proofs.Input.Email

/-!
# Requests that write a user

A request that is accepted has a name of the right length and a canonical address or none. From such
a name and address the payload of a user can be made again, and it is read as this user.
-/
namespace UserDirectory.Input

/-! ## Fields that pass -/

section Fields

variable {α β : Type} {c : Checked α} {fields : Fields} {name : String}
  {check : Value → Checked α} {a : α}

theorem bind_eq_ok_iff {f : α → Checked β} {b : β} :
    c.bind f = .ok b ↔ ∃ a, c = .ok a ∧ f a = .ok b := by
  cases c <;> simp [Except.bind]

theorem required_eq_ok_iff :
    required fields name check = .ok a ↔ ∃ v, fields.lookup name = some v ∧ check v = .ok a := by
  rw [required, inside_eq_ok]
  cases fields.lookup name <;> simp [refuse]

/-- Null and no value at all are nothing; any other value is checked. -/
theorem optional_eq_ok_iff {given : Option α} : optional fields name check = .ok given ↔
    match given with
    | none => fields.lookup name = none ∨ fields.lookup name = some .null
    | some a => ∃ v, fields.lookup name = some v ∧ v ≠ .null ∧ check v = .ok a := by
  unfold optional withDefault
  cases fields.lookup name with
  | none => cases given <;> simp
  | some v =>
    by_cases null : v = .null
    · subst null
      cases given <;> simp [nullable]
    · have checked : nullable check v = (check v).map some := by
        cases v with
        | null => exact absurd rfl null
        | _ => rfl
      simp only [inside_eq_ok, checked]
      cases read : check v <;> cases given <;> simp [Except.map, null, read]

theorem asShortText_eq_ok {limit : Nat} {v : Value} {s : String} (h : asShortText limit v = .ok s) :
    s ≠ "" ∧ s.length ≤ limit := by
  obtain ⟨text, -, passed⟩ := bind_eq_ok_iff.1 h
  split at passed
  · cases passed
  · rename_i nonempty
    split at passed
    · rename_i short
      cases passed
      exact ⟨nonempty, short⟩
    · cases passed

theorem asShortText_text {limit : Nat} {s : String} (nonempty : s ≠ "") (short : s.length ≤ limit) :
    asShortText limit (.text s) = .ok s := by
  simp [asShortText, asText, Except.bind, nonempty, short]

theorem asEmail_text (s : String) :
    asEmail (.text s) = (Email.canonical? s).elim (refuse .email) .ok := by
  simp only [asEmail, asText, Except.bind]
  cases Email.canonical? s <;> rfl

theorem asEmail_eq_ok {v : Value} {a : String} (h : asEmail v = .ok a) :
    ∃ s, Email.canonical? s = some a := by
  cases v with
  | text s =>
    rw [asEmail_text] at h
    cases read : Email.canonical? s with
    | none =>
      rw [read] at h
      cases h
    | some address =>
      rw [read] at h
      cases h
      exact ⟨s, read⟩
  | _ => cases h

end Fields

/-! ## Names and addresses that requests hold -/

structure Acceptable (name : String) (email : Option String) : Prop where
  name_ne : name ≠ ""
  length_le : name.length ≤ maxNameLength
  canonical : ∀ a ∈ email, ∃ s, Email.canonical? s = some a

theorem acceptable_of_ofValue {payload : Value} {q : UpsertRequest}
    (h : UpsertRequest.ofValue payload = .ok q) :
    Acceptable q.name q.email := by
  cases payload with
  | object fields =>
    replace h : UpsertRequest.ofFields fields = .ok q := h
    simp only [UpsertRequest.ofFields] at h
    split at h
    · rename_i id name email userType entryPoint idRead nameRead emailRead userTypeRead
        entryPointRead
      cases h
      obtain ⟨v, -, named⟩ := required_eq_ok_iff.1 nameRead
      obtain ⟨nonempty, short⟩ := asShortText_eq_ok named
      refine ⟨nonempty, short, ?_⟩
      rintro a rfl
      obtain ⟨v, -, -, given⟩ := optional_eq_ok_iff.1 emailRead
      exact asEmail_eq_ok given
    · cases h
  | _ => cases h

/-! ## The payload of a user -/

/-- The fields that a user is written back with. -/
def payload (u : User) : Fields :=
  [("id", .text u.id.text), ("name", .text u.name), ("email", (u.email.map Value.text).getD .null),
    ("user_type", .text u.userType.label), ("last_updated_with", .text u.lastUpdatedWith.label)]

/-- What the payload of a user is read as. -/
def writeBack (u : User) : UpsertRequest :=
  ⟨u.id, u.name, u.email, u.userType, u.lastUpdatedWith⟩

theorem ofValue_payload {u : User} (h : Acceptable u.name u.email) :
    UpsertRequest.ofValue (.object (payload u)) = .ok (writeBack u) := by
  have id : required (payload u) "id" asUserId = .ok u.id := by
    have read : asUserId (.text u.id.text) = .ok u.id := by
      simp [asUserId, asText, Except.bind, UserId.parse_text]
    exact inside_eq_ok.2 read
  have name : required (payload u) "name" (asShortText maxNameLength) = .ok u.name :=
    inside_eq_ok.2 (asShortText_text h.name_ne h.length_le)
  have email : optional (payload u) "email" asEmail = .ok u.email := by
    have read : nullable asEmail ((u.email.map Value.text).getD .null) = .ok u.email := by
      cases given : u.email with
      | none => rfl
      | some a =>
        obtain ⟨s, canonical⟩ := h.canonical a given
        simp [nullable, asEmail_text, Email.canonical?_canonical canonical, Except.map]
    exact inside_eq_ok.2 read
  have userType : withDefault (payload u) "user_type" .human asUserType = .ok u.userType := by
    have read : asUserType (.text u.userType.label) = .ok u.userType := by
      simp [asUserType, asLabel]
    exact inside_eq_ok.2 read
  have entryPoint : withDefault (payload u) "last_updated_with" .createEndpoint asEntryPoint =
      .ok u.lastUpdatedWith := by
    have read : asEntryPoint (.text u.lastUpdatedWith.label) = .ok u.lastUpdatedWith := by
      simp [asEntryPoint, asLabel]
    exact inside_eq_ok.2 read
  show UpsertRequest.ofFields (payload u) = _
  simp only [UpsertRequest.ofFields, id, name, email, userType, entryPoint, writeBack]

end UserDirectory.Input
