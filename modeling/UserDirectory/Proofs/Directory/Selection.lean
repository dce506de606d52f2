import UserDirectory.Proofs.Directory.Operation
import UserDirectory.Proofs.Directory.Transcript
import UserDirectory.Proofs.Search.Substring

/-!
# What a list selects

A list selects the rows that are not deleted, match the filters and come after the cursor, and what
it is answered with depends on nothing but the page of these rows. A part of the name selects the
rows whose names contain it: a list with such a filter is answered as one without it where only
these rows are stored.
-/
namespace UserDirectory.Directory

open Store Paging Search Time UserDirectory.Action

variable {policy : Policy} {q q' : ListQuery} {after : Option Cursor} {t t' : Table}
  {s s' : Session}

/-! ## The page of some rows -/

/-- The page that a list makes of the rows of its statement. -/
def pageOf (limit : Int) (rows : List Row) : Action Error Page := do
  let users ← readUsers rows
  Action.note (.listed users.length limit)
  return ⟨users, nextToken users⟩

theorem listPage_eq (q : PageQuery) :
    listPage q = Action.execute listFailure (page q) >>= pageOf q.limit := rfl

theorem list_eq (policy : Policy) (q : ListQuery) :
    list policy q = Action.ofExcept ((readToken q.token).mapError .token) >>= fun after =>
      listPage (q.pageQuery policy after) := rfl

/-- A list with a token that is read comes to what the page behind its cursor comes to. -/
theorem list_yields_page {outcome : Except Error Page} (read : readToken q.token = .ok after)
    (listed : (listPage (q.pageQuery policy after)).Yields t outcome t) :
    (list policy q).Yields t outcome t := by
  have token : (Action.ofExcept ((readToken q.token).mapError Error.token)).Yields t
      (.ok after) t := by
    rw [read]
    exact .ofExcept (.ok after) t
  rw [list_eq]
  exact token.bind listed

/-- Statements that are answered with the same rows, or refused for the same reason, couple. -/
theorem page_coupled {p p' : PageQuery} (same : (page p t).map (·.1) = (page p' t').map (·.1)) :
    Coupled (fun s s' => s.Serves t ∧ s'.Serves t') Eq (Action.execute listFailure (page p))
      (Action.execute listFailure (page p')) := by
  refine .execute ?_
  rintro s s' ⟨serves, serves'⟩
  cases read : page p t with
  | ok answer =>
    obtain ⟨rows, u⟩ := answer
    cases read' : page p' t' with
    | ok answer' =>
      obtain ⟨rows', u'⟩ := answer'
      rw [read, read'] at same
      obtain rfl : rows = rows' := Except.ok.inj same
      obtain ⟨-, rfl⟩ := rows_of_page read
      obtain ⟨-, rfl⟩ := rows_of_page read'
      rw [serves.execute_ok read, serves'.execute_ok read']
      exact ⟨.refl _, serves.seeing _, serves'.seeing _⟩
    | error refusal =>
      rw [read, read'] at same
      cases same
  | error refusal =>
    cases read' : page p' t' with
    | ok answer' =>
      rw [read, read'] at same
      cases same
    | error refusal' =>
      rw [read, read'] at same
      obtain rfl : refusal = refusal' := Except.error.inj same
      rw [serves.execute_error read, serves'.execute_error read']
      exact ⟨.refl _, serves.seeing _, serves'.seeing _⟩

/-- Lists with one token and size whose statements are answered alike are answered alike. -/
theorem list_outcome_eq (serves : s.Serves t) (serves' : s'.Serves t') (token : q'.token = q.token)
    (size : q'.pageSize = q.pageSize)
    (same : ∀ after, (page (q.pageQuery policy after) t).map (·.1) =
      (page (q'.pageQuery policy after) t').map (·.1)) :
    (list policy q s).outcome = (list policy q' s').outcome := by
  have coupled : Coupled (fun s s' => s.Serves t ∧ s'.Serves t') Eq (list policy q)
      (list policy q') := by
    rw [list_eq, list_eq, token]
    refine .bind (.of_still (.ofExcept _)) ?_
    rintro after _ rfl
    rw [listPage_eq, listPage_eq]
    refine .bind (page_coupled (same after)) ?_
    rintro rows _ rfl
    simp only [ListQuery.pageQuery, size]
    exact .of_still (listed_still rows)
  exact (coupled s s' ⟨serves, serves'⟩).1.eq

/-! ## Selected rows -/

/-- The row is not deleted, has one of the ids and contains the part of the name, as far as the list
asks for them. -/
structure ListQuery.Matches (q : ListQuery) (row : Row) : Prop where
  live : row.deletedAt = none
  ids : ∀ ids ∈ q.ids, ∃ id ∈ ids, id.text = row.id
  name : ∀ name ∈ q.name, name ≠ "" → Pattern.Contains name row.name

theorem ListQuery.selects_iff {row : Row} :
    (q.pageQuery policy after).selects row = true ↔ q.Matches row ∧
      ∀ c ∈ after, c.Before row.cursor := by
  have ids : (q.ids.map (·.map UserId.text)).all (·.contains row.id) = true ↔
      ∀ ids ∈ q.ids, ∃ id ∈ ids, id.text = row.id := by
    simp [Option.all_map, Option.all_eq_true]
  have name : (∀ name ∈ nonEmpty q.name, Pattern.holds name row.name = true) ↔
      ∀ name ∈ q.name, name ≠ "" → Pattern.Contains name row.name := by
    simp [nonEmpty, Option.mem_def, Option.filter_eq_some_iff, Pattern.holds_iff_contains]
  rw [PageQuery.selects_iff]
  simp only [PageQuery.reaches, pageQuery, Bool.and_eq_true, Option.isNone_iff_eq_none, ids, name]
  constructor
  · rintro ⟨⟨⟨live, ids⟩, name⟩, behind⟩
    exact ⟨⟨live, ids, name⟩, behind⟩
  · rintro ⟨⟨live, ids, name⟩, behind⟩
    exact ⟨⟨⟨live, ids⟩, name⟩, behind⟩

theorem ListQuery.matches_row_iff {u : User} :
    q.Matches (User.row u none) ↔ Filter.Admits ⟨q.ids, q.name⟩ u := by
  have ids : (∀ ids ∈ q.ids, ∃ id ∈ ids, id.text = u.id.text) ↔ ∀ ids ∈ q.ids, u.id ∈ ids := by
    simp [UserId.text_inj]
  constructor
  · rintro ⟨-, named, contains⟩
    exact ⟨ids.1 named, fun name hname given =>
      Pattern.holds_iff_contains.2 (contains name hname given)⟩
  · rintro ⟨named, holds⟩
    exact ⟨rfl, ids.2 named, fun name hname given =>
      Pattern.holds_iff_contains.1 (holds name hname given)⟩

/-- A list with room for all rows of a table of users shows the users that it asks for. -/
theorem mem_listed_iff (serves : s.Serves t) (wellFormed : WellFormed t)
    (read : readToken q.token = .ok after) (fits : (q.pageQuery policy after).Fits)
    (room : t.length < policy.pageSize q.pageSize)
    (small : policy.pageSize q.pageSize < 9223372036854775808) :
    ∃ page, (list policy q s).outcome = .ok page ∧ ∀ u, u ∈ page.users ↔
      q.Matches (User.row u none) ∧ User.row u none ∈ t ∧
        ∀ c ∈ after, c.Before (User.cursor u) := by
  obtain ⟨users, rows⟩ := Filter.exists_users_rows wellFormed ⟨q.ids, q.name⟩ after
  have fewer : users.length ≤ t.length := by
    have count := congrArg List.length rows
    rw [Filter.rows, PageQuery.rows, List.length_mergeSort, List.length_map] at count
    exact count ▸ List.length_filter_le _ t
  rcases list_yields (f := ⟨q.ids, q.name⟩) read (by omega) small rows with listed | ⟨unfit, -⟩
  · refine ⟨_, (listed s serves).1, fun u => ?_⟩
    rw [List.take_of_length_le (by omega), Filter.mem_of_rows rows, ListQuery.matches_row_iff]
    exact and_left_comm
  · exact absurd fits unfit

/-! ## A part of the name -/

theorem nonEmpty_some {name : String} (given : name ≠ "") : nonEmpty (some name) = some name := by
  simp [nonEmpty, Option.filter, given]

/-- The rows whose names contain a filter. -/
def containing (name : String) (t : Table) : Table :=
  t.filter fun row => decide (Pattern.Contains name row.name)

/-- Without a part of the name the statement takes no more values, and there is no pattern. -/
theorem fits_unnamed {name : String} (given : name ≠ "")
    (fits : (ListQuery.pageQuery { q with name := some name } policy after).Fits) :
    (ListQuery.pageQuery { q with name := none } policy after).Fits := by
  refine ⟨Nat.le_trans ?_ fits.few, nofun⟩
  simp only [PageQuery.values, ListQuery.pageQuery, nonEmpty_some given,
    show nonEmpty none = none from rfl, Option.elim_none, Option.elim_some]
  omega

/-- With a part of the name the statement reads what it reads without it from the rows that contain
the part. -/
theorem page_containing {name : String} (given : name ≠ "")
    (fits : (ListQuery.pageQuery { q with name := some name } policy after).Fits) (t : Table) :
    (page (ListQuery.pageQuery { q with name := some name } policy after) t).map (·.1) =
      (page (ListQuery.pageQuery { q with name := none } policy after) (containing name t)).map
        (·.1) := by
  have rows : (ListQuery.pageQuery { q with name := some name } policy after).rows t =
      (ListQuery.pageQuery { q with name := none } policy after).rows (containing name t) := by
    rw [PageQuery.rows, PageQuery.rows, containing, List.filter_filter]
    refine congrArg (List.mergeSort · Row.le) (List.filter_congr fun row _ => ?_)
    rw [Bool.eq_iff_iff, Bool.and_eq_true, decide_eq_true_iff, ListQuery.selects_iff,
      ListQuery.selects_iff]
    constructor
    · rintro ⟨⟨live, ids, contains⟩, behind⟩
      refine ⟨⟨⟨live, ids, ?_⟩, behind⟩, contains name rfl given⟩
      rintro _ ⟨⟩
    · rintro ⟨⟨⟨live, ids, -⟩, behind⟩, contains⟩
      refine ⟨⟨live, ids, ?_⟩, behind⟩
      rintro _ ⟨⟩ -
      exact contains
  cases limit : isLimit (policy.pageSize q.pageSize) with
  | true =>
    rw [page_of_fits fits limit, page_of_fits (fits_unnamed given fits) limit]
    exact congrArg (fun rows => Except.ok (takeLimit (policy.pageSize q.pageSize) rows)) rows
  | false =>
    rw [page_of_not_isLimit fits limit, page_of_not_isLimit (fits_unnamed given fits) limit]

/-- A list selects the rows that it asks for behind its cursor, by a part of the name those that
contain it, and shows them all where its page has room for them. So it is answered as one that asks
for no part where only the rows with the part are stored. An empty part is none. Texts without
U+0000 and the two noncharacters are compared as they are, with ASCII letters in one case, and the
characters that are special in a pattern are matched by themselves alone. -/
theorem list_by_part_of_name (policy : Policy) (q : ListQuery) :
    (∀ after row, (q.pageQuery policy after).selects row = true ↔
      q.Matches row ∧ ∀ c ∈ after, c.Before row.cursor) ∧
    (∀ t (s : Session) after, s.Serves t → WellFormed t → readToken q.token = .ok after →
      (q.pageQuery policy after).Fits → t.length < policy.pageSize q.pageSize →
      policy.pageSize q.pageSize < 9223372036854775808 →
      ∃ page, (list policy q s).outcome = .ok page ∧ ∀ u, u ∈ page.users ↔
        q.Matches (User.row u none) ∧ User.row u none ∈ t ∧ ∀ c ∈ after, c.Before (User.cursor u)) ∧
    (∀ name, name ≠ "" →
      (∀ after, (ListQuery.pageQuery { q with name := some name } policy after).Fits) →
      ∀ t (s s' : Session), s.Serves t → s'.Serves (containing name t) →
        (list policy { q with name := some name } s).outcome =
          (list policy { q with name := none } s').outcome) ∧
    list policy { q with name := some "" } = list policy { q with name := none } ∧
    (∀ name stored, Pattern.ComparesExactly name → Pattern.ComparesExactly stored →
      (Pattern.Contains name stored ↔
        name.toList.map Char.toLower <:+: stored.toList.map Char.toLower)) ∧
    ∀ x c, Pattern.isSpecial x = true → (Pattern.folded c = Pattern.folded x ↔ c = x) := by
  refine ⟨fun after row => ListQuery.selects_iff, ?_, ?_, ?_, fun _ _ => Pattern.contains_iff, ?_⟩
  · intro t s after serves wellFormed read fits room small
    exact mem_listed_iff serves wellFormed read fits room small
  · intro name given fits t s s' serves serves'
    exact list_outcome_eq serves serves' rfl rfl fun after => page_containing given (fits after) t
  · rfl
  · intro x c special
    exact Pattern.folded_eq_iff special

/-- Special characters next to each other, the slash among them, are looked for as they are. -/
theorem list_by_part_of_name_special :
    let now : Instant := ⟨0, by decide, by decide⟩
    let named (id name : String) : Row :=
      ⟨id, name, none, "create-endpoint", "human", now, none, none⟩
    let rows : Table :=
      [named "oidc~a" "Half, 50%_//A off", named "oidc~b" "50 percent_//A", named "oidc~c" "%_/a"]
    let s : Session := { committed := some rows }
    let s' : Session := { committed := some (containing "%_//a" rows) }
    containing "%_//a" rows = [named "oidc~a" "Half, 50%_//A off"] ∧
      (list {} { name := some "%_//a" } s).outcome = (list {} {} s').outcome ∧
      (list {} {} s').outcome.map (·.users.map (·.name)) = .ok ["Half, 50%_//A off"] := by
  intro now named rows s s'
  obtain ⟨-, -, parts, -⟩ := list_by_part_of_name {} {}
  have fits : ∀ after, (ListQuery.pageQuery { name := some "%_//a" } {} after).Fits := fun after =>
    Filter.fits_of_few (f := { name := some "%_//a" }) (by decide)
      (by rintro _ ⟨⟩; decide +kernel) after _
  have alike := parts "%_//a" (by decide) fits rows s s' ⟨rfl, rfl, rfl⟩ ⟨rfl, rfl, rfl⟩
  exact ⟨by decide +kernel, alike, by decide +kernel⟩

/-- A list finds a name by a character that the name does not hold, as both are compared as the
replacement character. It misses a part of the name behind U+0000, and finds any name by U+0000
alone. -/
theorem list_departs_from_substrings :
    let now : Instant := ⟨0, by decide, by decide⟩
    let stored (name : String) : Session :=
      { committed := some [⟨"oidc~a", name, none, "create-endpoint", "human", now, none, none⟩] }
    let found (filter name : String) : Except Error (List String) :=
      (list {} { name := some filter } (stored name)).outcome.map (·.users.map (·.name))
    let isPart (filter name : String) : Prop :=
      filter.toList.map Char.toLower <:+: name.toList.map Char.toLower
    (found "\uFFFD" "\uFFFE" = .ok ["\uFFFE"] ∧ ¬ isPart "\uFFFD" "\uFFFE") ∧
      (found "b" "a\x00b" = .ok [] ∧ isPart "b" "a\x00b") ∧
      found "\x00" "a" = .ok ["a"] ∧ ¬ isPart "\x00" "a" := by
  decide +kernel

end UserDirectory.Directory
