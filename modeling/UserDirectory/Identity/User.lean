import UserDirectory.Identity.UserId
import UserDirectory.Time.Instant

/-!
# Users

What the directory knows of a user. Type and entry point are stored and exchanged by their labels.
-/
namespace UserDirectory

open Time

inductive UserType
  | application
  | human
deriving DecidableEq, Repr

namespace UserType

def label : UserType → String
  | .application => "application"
  | .human => "human"

def labels : List String := ["application", "human"]

def ofLabel? (s : String) : Option UserType :=
  if s = "application" then some .application else if s = "human" then some .human else none

@[simp] theorem ofLabel?_label (t : UserType) : ofLabel? t.label = some t := by cases t <;> rfl

end UserType

/-- The entry point that last wrote a user. -/
inductive EntryPoint
  | createEndpoint
  | configCallCreation
  | updateEndpoint
deriving DecidableEq, Repr

namespace EntryPoint

def label : EntryPoint → String
  | .createEndpoint => "create-endpoint"
  | .configCallCreation => "config-call-creation"
  | .updateEndpoint => "update-endpoint"

def labels : List String := ["create-endpoint", "config-call-creation", "update-endpoint"]

def ofLabel? (s : String) : Option EntryPoint :=
  if s = "create-endpoint" then some .createEndpoint
  else if s = "config-call-creation" then some .configCallCreation
  else if s = "update-endpoint" then some .updateEndpoint
  else none

@[simp] theorem ofLabel?_label (e : EntryPoint) : ofLabel? e.label = some e := by cases e <;> rfl

end EntryPoint

structure User where
  id : UserId
  name : String
  email : Option String
  userType : UserType
  lastUpdatedWith : EntryPoint
  createdAt : Instant
  updatedAt : Option Instant
deriving DecidableEq

/-- A user as a search shows it. -/
structure FoundUser where
  id : UserId
  name : String
  email : Option String
  userType : UserType
deriving DecidableEq

end UserDirectory
