import Mathlib.Data.List.Forall2
import Mathlib.Data.Set.List
import UserDirectory.Proofs.Directory.Listed
import UserDirectory.Proofs.Identity.Grammar
import UserDirectory.Proofs.Input.Request

/-!
# Requests and the ids in them

Each issue of a request names the field that it is about, and a check that refuses a value says why.
So a request is blamed for its ids if these are not texts of ids, and a request that is accepted
holds the ids of the texts that were given, in their order.
-/
namespace UserDirectory.Input

variable {α : Type} {c : Checked α} {fields : Fields} {name : String} {check : Value → Checked α}

/-! ## Where issues lie -/

/-- One of the issues lies in the field. -/
def Blames (c : Checked α) (name : String) : Prop :=
  ∃ issue ∈ issues c, issue.place.head? = some (.field name)

theorem place_of_mem_issues_inside {place : Place} {issue : Issue}
    (h : issue ∈ issues (inside place c)) :
    issue.place.head? = some place := by
  cases c with
  | ok a => cases h
  | error found =>
    obtain ⟨inner, -, rfl⟩ := List.mem_map.1 h
    rfl

theorem place_of_mem_issues_required {issue : Issue}
    (h : issue ∈ issues (required fields name check)) :
    issue.place.head? = some (.field name) :=
  place_of_mem_issues_inside h

theorem place_of_mem_issues_withDefault {default : α} {issue : Issue}
    (h : issue ∈ issues (withDefault fields name default check)) :
    issue.place.head? = some (.field name) := by
  unfold withDefault at h
  split at h
  · cases h
  · exact place_of_mem_issues_inside h

/-! ## Checks that say why they refuse -/

/-- Without an issue there is an answer. -/
def Speaks (c : Checked α) : Prop := issues c = [] → ∃ a, c = .ok a

theorem Speaks.ok (a : α) : Speaks (.ok a : Checked α) := fun _ => ⟨a, rfl⟩

theorem Speaks.refuse (fault : Fault) : Speaks (refuse fault : Checked α) := nofun

theorem Speaks.inside (speaks : Speaks c) (place : Place) : Speaks (inside place c) := by
  cases c with
  | ok a => exact .ok a
  | error found =>
    intro silent
    obtain ⟨a, ⟨⟩⟩ := speaks (List.map_eq_nil_iff.1 silent)

theorem Speaks.map {β : Type} (speaks : Speaks c) (f : α → β) : Speaks (c.map f) := by
  cases c with
  | ok a => exact .ok (f a)
  | error found =>
    intro silent
    obtain ⟨a, ⟨⟩⟩ := speaks silent

theorem Speaks.bind {β : Type} {f : α → Checked β} (speaks : Speaks c) (next : ∀ a, Speaks (f a)) :
    Speaks (c.bind f) := by
  cases c with
  | ok a => exact next a
  | error found =>
    intro silent
    obtain ⟨a, ⟨⟩⟩ := speaks silent

theorem Speaks.required (speaks : ∀ v, Speaks (check v)) : Speaks (required fields name check) := by
  refine Speaks.inside ?_ _
  split
  · exact .refuse _
  · exact speaks _

theorem Speaks.optional (speaks : ∀ v, Speaks (check v)) : Speaks (optional fields name check) := by
  unfold Input.optional withDefault
  split
  · exact .ok none
  · refine Speaks.inside ?_ _
    unfold nullable
    split
    · exact .ok none
    · exact (speaks _).map some

theorem Speaks.itemsFrom (speaks : ∀ v, Speaks (check v)) (n : Nat) (vs : List Value) :
    Speaks (itemsFrom check n vs) := by
  induction vs generalizing n with
  | nil => exact .ok []
  | cons v vs ih =>
    unfold Input.itemsFrom
    split
    · exact .ok _
    · rename_i refused
      intro silent
      obtain ⟨none, none'⟩ := List.append_eq_nil_iff.1 silent
      obtain ⟨a, first⟩ := (speaks v).inside (.index n) none
      obtain ⟨as, rest⟩ := ih (n + 1) none'
      exact (refused a as first rest).elim

theorem Speaks.items (speaks : ∀ v, Speaks (check v)) (v : Value) : Speaks (items check v) := by
  cases v with
  | list vs => exact .itemsFrom speaks 0 vs
  | _ => exact .refuse _

/-! ## Texts of ids -/

theorem asText_eq_ok_iff {v : Value} {s : String} : asText v = .ok s ↔ v = .text s := by
  cases v <;> simp [asText, Input.refuse]

theorem asText_speaks (v : Value) : Speaks (asText v) := by
  cases v with
  | text s => exact .ok s
  | _ => exact .refuse _

theorem asUserId_eq_ok_iff {v : Value} {id : UserId} : asUserId v = .ok id ↔ v = .text id.text := by
  simp only [asUserId, bind_eq_ok_iff, asText_eq_ok_iff]
  constructor
  · rintro ⟨s, rfl, read⟩
    split at read
    · rename_i parsed
      cases read
      rw [UserId.text_eq_of_parse parsed]
    · cases read
  · rintro rfl
    exact ⟨_, rfl, by rw [UserId.parse_text]⟩

theorem asUserId_speaks (v : Value) : Speaks (asUserId v) := by
  refine (asText_speaks v).bind fun s => ?_
  split
  · exact .ok _
  · exact .refuse _

/-- The ids of some texts are those that print as these, one by one. -/
theorem mapM_parse_eq_ok_iff {texts : List String} {ids : List UserId} :
    texts.mapM UserId.parse = .ok ids ↔ ids.map UserId.text = texts := by
  constructor
  · intro read
    have printed := (Directory.mapM_eq_ok read).imp fun _ _ => UserId.text_eq_of_parse
    rw [← List.forall₂_eq_eq_eq, List.forall₂_map_left_iff]
    exact printed.flip
  · rintro rfl
    induction ids with
    | nil => rfl
    | cons id ids ih =>
      rw [List.map_cons, List.mapM_cons, UserId.parse_text, ih]
      rfl

theorem itemsFrom_eq_ok_iff {n : Nat} {vs : List Value} {as : List α} :
    itemsFrom check n vs = .ok as ↔ List.Forall₂ (fun v a => check v = .ok a) vs as := by
  constructor
  · intro h
    induction vs generalizing n as with
    | nil =>
      cases h
      exact .nil
    | cons v vs ih =>
      unfold itemsFrom at h
      split at h
      · rename_i first rest
        cases h
        exact .cons (inside_eq_ok.1 first) (ih rest)
      · cases h
  · intro h
    induction h generalizing n with
    | nil => rfl
    | cons first _ ih => simp only [itemsFrom, inside_eq_ok.2 first, ih]

theorem items_asText_eq_ok_iff {v : Value} {texts : List String} :
    items asText v = .ok texts ↔ v = .list (texts.map .text) := by
  cases v with
  | list vs =>
    show itemsFrom asText 0 vs = .ok texts ↔ _
    simp only [itemsFrom_eq_ok_iff, asText_eq_ok_iff, Value.list.injEq]
    rw [← List.forall₂_map_right_iff (f := Value.text) (R := Eq), List.forall₂_eq_eq_eq]
  | _ => simp [items, refuse]

theorem asUserIds_eq_ok_iff {v : Value} {ids : List UserId} :
    asUserIds v = .ok ids ↔ v = .list (ids.map fun id => .text id.text) := by
  simp only [asUserIds, bind_eq_ok_iff, items_asText_eq_ok_iff]
  constructor
  · rintro ⟨texts, rfl, read⟩
    split at read
    · rename_i parsed
      cases read
      rw [← mapM_parse_eq_ok_iff.1 parsed, List.map_map]
      rfl
    · cases read
  · rintro rfl
    refine ⟨ids.map UserId.text, by rw [List.map_map]; rfl, ?_⟩
    rw [mapM_parse_eq_ok_iff.2 rfl]

theorem asUserIds_speaks (v : Value) : Speaks (asUserIds v) := by
  refine (Speaks.items asText_speaks v).bind fun texts => ?_
  split
  · exact .ok _
  · exact .refuse _

/-! ## Ids of requests -/

/-- The issues of a request that writes are those of its fields. -/
theorem UpsertRequest.issues_ofFields (fields : Fields) :
    issues (UpsertRequest.ofFields fields) =
      issues (required fields "id" asUserId) ++
      (issues (required fields "name" (asShortText maxNameLength)) ++
      (issues (optional fields "email" asEmail) ++
      (issues (withDefault fields "user_type" .human asUserType) ++
      issues (withDefault fields "last_updated_with" .createEndpoint asEntryPoint)))) := by
  unfold UpsertRequest.ofFields
  dsimp only
  split
  · rename_i id name email userType entryPoint
    simp only [id, name, email, userType, entryPoint, issues_ok, List.append_nil]
  · simp only [issues, List.append_assoc]

theorem ListRequest.issues_ofFields (fields : Fields) :
    issues (ListRequest.ofFields fields) =
      issues (optional fields "filter_ids" asUserIds) ++
      (issues (optional fields "filter_name" asText) ++
      (issues (optional fields "page_token" asText) ++
      issues (optional fields "page_size" (asIntFrom 1)))) := by
  unfold ListRequest.ofFields
  dsimp only
  split
  · rename_i ids name token size
    simp only [ids, name, token, size, issues_ok, List.append_nil]
  · simp only [issues, List.append_assoc]

/-- If the checks of other fields are not to blame, a request is blamed for a field that its check
refuses. -/
theorem blames_iff {β : Type} {r : Checked β} {l : List Issue} (speaks : Speaks c)
    (placed : ∀ issue ∈ issues c, issue.place.head? = some (.field name))
    (others : ∀ issue ∈ l, issue.place.head? ≠ some (.field name))
    (split : issues r = issues c ++ l) :
    Blames r name ↔ ¬ ∃ a, c = .ok a := by
  constructor
  · rintro ⟨issue, found, here⟩ ⟨a, rfl⟩
    rw [split] at found
    exact others issue found here
  · intro refused
    obtain ⟨issue, found⟩ := List.exists_mem_of_ne_nil _ (mt speaks refused)
    exact ⟨issue, split ▸ List.mem_append_left _ found, placed issue found⟩

theorem place_ne {issue : Issue} {other : String} (h : issue.place.head? = some (.field other))
    (differ : other ≠ name) : issue.place.head? ≠ some (.field name) := by
  rw [h]
  simpa using differ

/-- A request that writes is blamed for its id if this is no text of an id. -/
theorem UpsertRequest.blames_id_iff {fields : Fields} :
    Blames (UpsertRequest.ofFields fields) "id" ↔
      ¬ ∃ s, fields.lookup "id" = some (.text s) ∧ IsIdText s := by
  have accepted : (∃ id, required fields "id" asUserId = .ok id) ↔
      ∃ s, fields.lookup "id" = some (.text s) ∧ IsIdText s := by
    simp only [required_eq_ok_iff, asUserId_eq_ok_iff, UserId.isIdText_iff]
    constructor
    · rintro ⟨id, _, found, rfl⟩
      exact ⟨_, found, id, rfl⟩
    · rintro ⟨_, found, id, rfl⟩
      exact ⟨id, _, found, rfl⟩
  rw [← accepted]
  refine blames_iff (.required asUserId_speaks) (fun _ => place_of_mem_issues_required) ?_
    (issues_ofFields fields)
  intro issue found
  simp only [List.mem_append] at found
  rcases found with found | found | found | found
  · exact place_ne (place_of_mem_issues_required found) (by decide)
  · exact place_ne (place_of_mem_issues_withDefault found) (by decide)
  · exact place_ne (place_of_mem_issues_withDefault found) (by decide)
  · exact place_ne (place_of_mem_issues_withDefault found) (by decide)

/-- There are no ids where none are given, and else those of the texts that are given. -/
theorem optional_asUserIds_eq_ok_iff {ids : Option (List UserId)} :
    optional fields name asUserIds = .ok ids ↔
    match ids with
    | none => fields.lookup name = none ∨ fields.lookup name = some .null
    | some ids => fields.lookup name = some (.list (ids.map fun id => .text id.text)) := by
  rw [optional_eq_ok_iff]
  cases ids with
  | none => rfl
  | some ids =>
    simp only [asUserIds_eq_ok_iff]
    constructor
    · rintro ⟨_, found, -, rfl⟩
      exact found
    · exact fun found => ⟨_, found, nofun, rfl⟩

/-- A request that lists is blamed for its ids if they are no list of texts of ids. -/
theorem ListRequest.blames_filterIds_iff {fields : Fields} :
    Blames (ListRequest.ofFields fields) "filter_ids" ↔
    ¬ (fields.lookup "filter_ids" = none ∨ fields.lookup "filter_ids" = some .null ∨
      ∃ texts : List String, fields.lookup "filter_ids" = some (.list (texts.map .text)) ∧
        ∀ s ∈ texts, IsIdText s) := by
  have listed (texts : List String) :
      (∀ s ∈ texts, IsIdText s) ↔ ∃ ids : List UserId, ids.map UserId.text = texts := by
    simp only [UserId.isIdText_iff]
    exact (Set.ext_iff.1 (Set.range_list_map UserId.text) texts).symm
  have accepted : (∃ ids, optional fields "filter_ids" asUserIds = .ok ids) ↔
    fields.lookup "filter_ids" = none ∨
      fields.lookup "filter_ids" = some .null ∨
      ∃ texts : List String, fields.lookup "filter_ids" = some (.list (texts.map .text)) ∧
          ∀ s ∈ texts, IsIdText s := by
    simp only [optional_asUserIds_eq_ok_iff, listed]
    constructor
    · rintro ⟨_ | ids, found⟩
      · exact found.elim .inl fun null => .inr (.inl null)
      · exact .inr (.inr ⟨ids.map UserId.text, by rw [found, List.map_map]; rfl, ids, rfl⟩)
    · rintro (absent | null | ⟨_, found, ids, rfl⟩)
      · exact ⟨none, .inl absent⟩
      · exact ⟨none, .inr null⟩
      · exact ⟨some ids, by rw [found, List.map_map]; rfl⟩
  rw [← accepted]
  refine blames_iff (.optional asUserIds_speaks) (fun _ => place_of_mem_issues_withDefault)
    ?_ (issues_ofFields fields)
  intro issue found
  simp only [List.mem_append] at found
  rcases found with found | found | found
    <;> exact place_ne (place_of_mem_issues_withDefault found) (by decide)

/-- A request that is accepted to write holds the id of the text that was given. -/
theorem UpsertRequest.lookup_id {fields : Fields} {q : UpsertRequest}
    (accepted : ofFields fields = .ok q) :
    fields.lookup "id" = some (.text q.id.text) := by
  unfold ofFields at accepted
  dsimp only at accepted
  split at accepted
  · rename_i read _ _ _ _
    cases accepted
    obtain ⟨v, found, checked⟩ := required_eq_ok_iff.1 read
    rw [found, asUserId_eq_ok_iff.1 checked]
  · cases accepted

/-- A request that is accepted to list holds the ids of the texts that were given, in their
order. -/
theorem ListRequest.lookup_filterIds {fields : Fields} {q : ListRequest}
    (accepted : ofFields fields = .ok q) :
    match q.filterIds with
    | none => fields.lookup "filter_ids" = none ∨ fields.lookup "filter_ids" = some .null
    | some ids => fields.lookup "filter_ids" = some (.list (ids.map fun id => .text id.text)) := by
  unfold ofFields at accepted
  dsimp only at accepted
  split at accepted
  · rename_i read _ _ _
    cases accepted
    exact optional_asUserIds_eq_ok_iff.1 read
  · cases accepted

end UserDirectory.Input
