import UserDirectory.Order.Ascending
import UserDirectory.Text.Cut
import UserDirectory.Text.Quoted

/-!
# User ids

A user is known by an identity provider and a subject at that provider. The text of an id is the
provider's name, a tilde and the subject; the subject may hold further tildes. Ids are ordered by
the name of the provider, then by the subject, both by code points.
-/
namespace UserDirectory

open Text

/-! ## Providers -/

inductive Provider
  | oidc
  | kubernetes
deriving DecidableEq, Repr

def Provider.name : Provider → String
  | .oidc => "oidc"
  | .kubernetes => "kubernetes"

def Provider.ofName? (name : String) : Option Provider :=
  if name = "oidc" then some .oidc else if name = "kubernetes" then some .kubernetes else none

@[simp] theorem Provider.ofName?_name (p : Provider) : ofName? p.name = some p := by cases p <;> rfl

theorem Provider.ofName?_eq_some_iff {name : String} {p : Provider} :
    ofName? name = some p ↔ p.name = name := by
  constructor
  · unfold ofName?
    split
    · rintro ⟨⟩; simp_all [Provider.name]
    · split
      · rintro ⟨⟩; simp_all [Provider.name]
      · simp
  · rintro rfl
    exact ofName?_name p

/-! ## Subjects -/

/-- The largest number of characters in a subject. -/
def maxSubjectLength : Nat := 128

/-- A subject is not empty, not too long, and free of control characters. -/
def IsSubject (s : String) : Prop :=
  s ≠ "" ∧ s.length ≤ maxSubjectLength ∧ ∀ c ∈ s.toList, isControl c = false

-- The last part is decided along the subject's characters, not along all characters that there are.
instance (s : String) : Decidable (IsSubject s) :=
  have : Decidable (∀ c ∈ s.toList, isControl c = false) := List.decidableBAll _ s.toList
  inferInstanceAs (Decidable (_ ∧ _ ∧ _))

/-! ## Ids -/

structure UserId where
  provider : Provider
  subject : String
  isSubject : IsSubject subject
deriving DecidableEq

/-- Why there is no such user id. -/
inductive UserIdError
  | notText (kind : String)
  | noProvider (text : String)
  | unknownProvider (name : String)
  | emptySubject
  | longSubject
  | controlInSubject
deriving DecidableEq, Repr

def UserIdError.message : UserIdError → String
  | .notText kind => "User id must be a string, got " ++ kind
  | .noProvider text => "User id " ++ quoted text ++ " is missing the identity provider prefix"
  | .unknownProvider name => "Unknown identity provider: " ++ quoted name
  | .emptySubject => "User subject must not be empty"
  | .longSubject => s!"User subject must be at most {maxSubjectLength} characters"
  | .controlInSubject => "User subject must not contain control characters"

namespace UserId

/-- What is wrong with a text that is no subject. -/
def subjectFault (s : String) : UserIdError :=
  if s = "" then .emptySubject
  else if maxSubjectLength < s.length then .longSubject
  else .controlInSubject

/-- The id with a subject at a known provider. -/
def ofSubject (provider : Provider) (subject : String) : Except UserIdError UserId :=
  if h : IsSubject subject then .ok ⟨provider, subject, h⟩ else .error (subjectFault subject)

/-- The id with a subject at the provider of the given name. -/
def make (provider subject : String) : Except UserIdError UserId :=
  match Provider.ofName? provider with
  | none => .error (.unknownProvider provider)
  | some p => ofSubject p subject

/-- Reads an id, split at the first tilde. -/
def parse (s : String) : Except UserIdError UserId :=
  match cut? '~' s.toList with
  | none => .error (.noProvider s)
  | some (provider, subject) => make (String.ofList provider) (String.ofList subject)

def text (id : UserId) : String := id.provider.name ++ "~" ++ id.subject

instance : ToString UserId := ⟨text⟩

theorem ofSubject_subject (id : UserId) : ofSubject id.provider id.subject = .ok id := by
  simp only [ofSubject, dif_pos id.isSubject]

theorem make_name_subject (id : UserId) : make id.provider.name id.subject = .ok id := by
  simp [make, ofSubject_subject]

def before (a b : UserId) : Bool :=
  a.provider.name < b.provider.name || (a.provider.name == b.provider.name && a.subject < b.subject)

/-- The distinct ids in ascending order. -/
def sorted (ids : List UserId) : List UserId := Order.ascending (fun a b => !before b a) ids

end UserId

end UserDirectory
