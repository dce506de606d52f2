import UserDirectory.Proofs.Directory.Operation

/-!
# What a page of users comes from

A list that is answered shows users of the table that the session sees. They are read from the rows
of one page, row by row, whatever the store and whatever else the table holds. So there are as many
users as rows, and each is stored and not deleted.
-/
namespace UserDirectory

open Store Paging

namespace Directory

variable {s : Session}

theorem mapM_eq_ok {ε α β : Type} {f : α → Except ε β} {l : List α} {l' : List β}
    (h : l.mapM f = .ok l') :
    List.Forall₂ (fun a b => f a = .ok b) l l' := by
  induction l generalizing l' with
  | nil =>
    cases h
    exact .nil
  | cons a l ih =>
    rw [List.mapM_cons] at h
    cases first : f a with
    | error e =>
      rw [first] at h
      cases h
    | ok b =>
      cases rest : l.mapM f with
      | error e =>
        rw [first, rest] at h
        cases h
      | ok bs =>
        rw [first, rest] at h
        cases h
        exact .cons first (ih rest)

theorem forEach_eq_ok {α β : Type} {f : α → Action Error β} {l : List α} {l' : List β}
    (h : (forEach f l s).outcome = .ok l') :
    List.Forall₂ (fun a b => ∃ s, (f a s).outcome = .ok b) l l' := by
  induction l generalizing s l' with
  | nil =>
    cases h
    exact .nil
  | cons a l ih =>
    obtain ⟨b, first, rest⟩ := Action.bind_eq_ok h
    obtain ⟨bs, others, whole⟩ := Action.bind_eq_ok rest
    cases whole
    exact .cons ⟨s, first⟩ (ih others)

/-! ## Users read from rows -/

theorem readId_eq_ok {stored : String} {id : UserId} (h : (readId stored s).outcome = .ok id) :
    UserId.parse stored = .ok id := by
  unfold readId at h
  cases parsed : UserId.parse stored with
  | ok id' =>
    rw [parsed] at h
    cases h
    rfl
  | error e =>
    rw [parsed] at h
    obtain ⟨_, -, failed⟩ := Action.bind_eq_ok h
    cases failed

theorem toUser_eq_ok {r : LabelledRow} {u : User} {row : Row}
    (labelled : LabelledRow.ofRow row = .ok r)
    (h : (toUser r s).outcome = .ok u) : row = User.row u row.deletedAt := by
  obtain ⟨rfl, typed, entered⟩ := ofRow_eq_ok labelled
  obtain ⟨id, read, whole⟩ := Action.bind_eq_ok h
  cases whole
  simp only [User.row, UserId.text_eq_of_parse (readId_eq_ok read),
    EntryPoint.label_eq_of_ofLabel? entered, UserType.label_eq_of_ofLabel? typed]

/-- What is read of rows is read of them one by one, each with its labels and its id. -/
theorem readRows_eq_ok {α β : Type} {rows : List Row} {bs : List β} {f : Row → Except LabelError α}
    {g : α → Action Error β} {made : Row → β → Prop}
    (each : ∀ row a s b, f row = .ok a → (g a s).outcome = .ok b → made row b)
    (h : ((Action.ofExcept ((rows.mapM f).mapError .storedLabel) >>= forEach g) s).outcome =
      .ok bs) :
    List.Forall₂ made rows bs := by
  obtain ⟨labelled, read, whole⟩ := Action.bind_eq_ok h
  have labels := mapM_eq_ok (Action.ofExcept_eq_ok read)
  have ids := forEach_eq_ok whole
  clear h read whole
  induction labels generalizing bs with
  | nil =>
    cases ids
    exact .nil
  | cons label _ ih =>
    cases ids with
    | cons id others =>
      obtain ⟨s, id⟩ := id
      exact .cons (each _ _ s _ label id) (ih others)

/-- Users that are read are those of the rows, one of each. -/
theorem readUsers_eq_ok {rows : List Row} {users : List User}
    (h : (readUsers rows s).outcome = .ok users) :
    List.Forall₂ (fun row u => row = User.row u row.deletedAt) rows users :=
  readRows_eq_ok (fun _ _ _ _ => toUser_eq_ok) h

/-! ## Lists that are answered -/

/-- A list that is answered has read its users from the rows of a page of the table. -/
theorem list_eq_ok {policy : Policy} {q : ListQuery} {p : Page}
    (h : (list policy q s).outcome = .ok p) :
    ∃ after t rows, readToken q.token = .ok after ∧ s.view = some t ∧
      page (q.pageQuery policy after) t = .ok (rows, t) ∧
      List.Forall₂ (fun row u => row = User.row u row.deletedAt) rows p.users := by
  obtain ⟨after, read, listed⟩ := Action.bind_eq_ok h
  have token := Action.ofExcept_eq_ok read
  rw [token] at listed
  obtain ⟨rows, ran, rest⟩ := Action.bind_eq_ok listed
  obtain ⟨users, readRows, rest⟩ := Action.bind_eq_ok rest
  obtain ⟨_, -, whole⟩ := Action.bind_eq_ok rest
  cases whole
  obtain ⟨t, t', sees, paged, -⟩ := Action.execute_eq_ok ran
  obtain rfl := (page_eq_ok paged).1
  exact ⟨after, t', rows, token, sees, paged, readUsers_eq_ok readRows⟩

/-- There are no more of them than the page was to have. -/
theorem length_listed {policy : Policy} {q : ListQuery} {p : Page}
    (h : (list policy q s).outcome = .ok p)
    (limit : 0 ≤ policy.pageSize q.pageSize) : p.users.length ≤ policy.pageSize q.pageSize := by
  obtain ⟨after, t, rows, -, -, paged, read⟩ := list_eq_ok h
  have whole : rows = takeLimit (policy.pageSize q.pageSize) ((q.pageQuery policy after).rows t) :=
    (rows_of_page paged).1
  have count := length_takeLimit limit ((q.pageQuery policy after).rows t)
  rw [← whole, read.length_eq] at count
  omega

/-- Each of them is stored and not deleted. -/
theorem row_mem_of_listed {policy : Policy} {q : ListQuery} {p : Page}
    (h : (list policy q s).outcome = .ok p) {u : User}
    (hu : u ∈ p.users) : ∃ t, s.view = some t ∧ User.row u none ∈ t := by
  obtain ⟨after, t, rows, -, sees, paged, read⟩ := list_eq_ok h
  obtain ⟨lengths, each⟩ := List.forall₂_iff_get.1 read
  obtain ⟨i, hi, rfl⟩ := List.getElem_of_mem hu
  have same : rows[i] = User.row p.users[i] rows[i].deletedAt := each i (lengths ▸ hi) hi
  have member : rows[i] ∈ takeLimit (policy.pageSize q.pageSize)
      ((q.pageQuery policy after).rows t) :=
    (rows_of_page paged).1 ▸ List.getElem_mem _
  obtain ⟨inTable, selected⟩ := PageQuery.mem_rows.1 (mem_of_mem_takeLimit member)
  have live : rows[i].deletedAt = none := by
    have reached := (PageQuery.selects_iff.1 selected).1.1
    simp only [PageQuery.reaches, Bool.and_eq_true, Option.isNone_iff_eq_none] at reached
    exact reached.1
  rw [live] at same
  exact ⟨t, sees, same ▸ inTable⟩

end Directory

end UserDirectory
