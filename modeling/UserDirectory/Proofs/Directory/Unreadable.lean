import UserDirectory.Proofs.Directory.Found
import UserDirectory.Proofs.Directory.Selection

/-!
# Stored ids that do not parse

A stored id that does not parse fails the lists and the searches whose answers its row belongs to,
and no others. A list is answered with the users of the whole page or fails for the first such id on
it; a search does so for the best rows. Rows that do not belong to the answer have no part in it.
-/
namespace UserDirectory

open Store Paging Search Time

namespace Directory

variable {policy : Policy} {q : ListQuery} {after : Option Cursor} {s s' : Session} {t : Table}

/-! ## Lists -/

/-- The rows are the first of those that the list asks for behind its cursor, in order. -/
def ListQuery.IsPage (q : ListQuery) (after : Option Cursor) (size : Nat) (t : Table)
    (rows : List Row) : Prop :=
  ∃ all : List Row, (all.Pairwise fun a b => a.cursor.Before b.cursor) ∧
    (∀ row, row ∈ all ↔ row ∈ t ∧ q.Matches row ∧ ∀ c ∈ after, c.Before row.cursor) ∧
      rows = all.take size

/-- The page that is read from some rows: a user of each, and the token behind the last. -/
def ShowsRows (rows : List Row) (page : Page) : Prop :=
  rows = page.users.map (User.row · none) ∧ page.nextToken = nextToken page.users

/-- The rows that a list reads. -/
def ListQuery.pageRows (q : ListQuery) (policy : Policy) (after : Option Cursor)
    (t : Table) : List Row :=
  ((q.pageQuery policy after).rows t).take (policy.pageSize q.pageSize).toNat

theorem isPage_pageRows (distinct : t.DistinctIds) (policy : Policy) (q : ListQuery)
    (after : Option Cursor) :
    q.IsPage after (policy.pageSize q.pageSize).toNat t (q.pageRows policy after t) := by
  refine ⟨_, PageQuery.pairwise_rows distinct _, fun row => ?_, rfl⟩
  rw [PageQuery.mem_rows, ListQuery.selects_iff]

/-- Rows that are not on the page have no part in it. -/
theorem pageRows_filter (distinct : t.DistinctIds) {keep : Row → Bool}
    (kept : ∀ row ∈ q.pageRows policy after t, keep row = true) :
    q.pageRows policy after (t.filter keep) = q.pageRows policy after t := by
  rw [ListQuery.pageRows, PageQuery.rows_filter distinct, take_filter_of_forall kept,
    ListQuery.pageRows]

/-- There is one such page. -/
theorem ListQuery.IsPage.unique {size : Nat} {rows rows' : List Row}
    (h : q.IsPage after size t rows) (h' : q.IsPage after size t rows') : rows = rows' := by
  obtain ⟨all, sorted, selected, rfl⟩ := h
  obtain ⟨all', sorted', selected', rfl⟩ := h'
  rw [sorted.eq_of_mem_iff sorted' fun row => (selected row).trans (selected' row).symm]

theorem ListQuery.IsPage.live {size : Nat} {rows : List Row} (h : q.IsPage after size t rows) :
    ∀ row ∈ rows, row.deletedAt = none := by
  obtain ⟨all, -, selected, rfl⟩ := h
  intro row hrow
  exact ((selected row).1 (List.mem_of_mem_take hrow)).2.1.live

/-- Rows that are not deleted are the rows of the users that are read from them. -/
theorem eq_map_row {rows : List Row} {users : List User} (live : ∀ row ∈ rows, row.deletedAt = none)
    (read : List.Forall₂ (fun row u => row = User.row u row.deletedAt) rows users) :
    rows = users.map (User.row · none) := by
  induction read with
  | nil => rfl
  | cons first _ ih =>
    rw [List.forall_mem_cons] at live
    rw [live.1] at first
    rw [List.map_cons, ← first, ← ih live.2]

/-- A list whose token is read and whose statement is within the store's limits makes its page of
these rows. -/
theorem list_outcome (serves : s.Serves t) (read : readToken q.token = .ok after)
    (fits : (q.pageQuery policy after).Fits) (pos : 1 ≤ policy.pageSize q.pageSize)
    (small : policy.pageSize q.pageSize < 2 ^ 63) (s' : Session) :
    (list policy q s).outcome =
      (readUsers (q.pageRows policy after t) s').outcome.map fun users =>
        ⟨users, nextToken users⟩ := by
  have answered : page (q.pageQuery policy after) t = .ok (q.pageRows policy after t, t) := by
    rw [page_of_fits fits (isLimit_of_lt pos small)]
    exact congrArg (fun rows => Except.ok (rows, t)) (takeLimit_of_pos pos _)
  have shown : (pageOf (policy.pageSize q.pageSize) (q.pageRows policy after t)).Yields t
      ((readUsers (q.pageRows policy after t) s').outcome.map
        fun users => ⟨users, nextToken users⟩) t :=
    .bind_map ((readUsers_still _).yields t s') fun users => .bind (.note _ t) (.pure _ t)
  have listed : (listPage (q.pageQuery policy after)).Yields t
      ((readUsers (q.pageRows policy after t) s').outcome.map
        fun users => ⟨users, nextToken users⟩) t := by
    rw [listPage_eq]
    exact .bind (.execute answered) shown
  exact (list_yields_page read listed s serves).1

/-- A list whose part of the name is beyond the limit fails, where the part is looked for in any
name. -/
theorem list_refused {name : String} (serves : s.Serves t) (read : readToken q.token = .ok after)
    (few : (q.pageQuery policy after).values ≤ maxValues)
    (part : nonEmpty q.name = some name) (long : Pattern.isTooLong name = true)
    (pos : 1 ≤ policy.pageSize q.pageSize) (small : policy.pageSize q.pageSize < 2 ^ 63) {row : Row}
    (hrow : row ∈ t) (reached : (q.pageQuery policy after).reaches row = true) :
    (list policy q s).outcome = .error (.store .list) := by
  have refused : page (q.pageQuery policy after) t = .error .patternTooLong := by
    have limit : isLimit (policy.pageSize q.pageSize) = true := isLimit_of_lt pos small
    have some : (policy.pageSize q.pageSize != 0) = true := bne_iff_ne.2 (by omega)
    have tried : t.any (q.pageQuery policy after).reaches = true :=
      List.any_eq_true.2 ⟨row, hrow, reached⟩
    rw [page, if_neg (Nat.not_lt.2 few), if_neg (by simp [ListQuery.pageQuery, limit]), tried,
      Bool.and_true, if_pos]
    simp only [ListQuery.pageQuery, some, part, Option.any_some, long, Bool.and_self]
  have failed : (listPage (q.pageQuery policy after)).Yields t (.error (.store .list)) t := by
    rw [listPage_eq]
    exact .bind_error (.execute_error refused)
  exact (list_yields_page read failed s serves).1

/-! ## Searches -/

/-- The rows are the ten best of the table, or all where there are fewer, in order. -/
structure IsBest (term : String) (t : Table) (rows : List Row) : Prop where
  length : rows.length = min 10 t.length
  sorted : rows.Pairwise fun a b => a.profile.Precedes term b.profile
  stored : ∀ row ∈ rows, row ∈ t
  ahead : ∀ row ∈ t, row ∉ rows → ∀ found ∈ rows, found.profile.Precedes term row.profile

theorem IsBest.nodup {term : String} {rows : List Row} (h : IsBest term t rows) : rows.Nodup := by
  refine List.Pairwise.imp ?_ h.sorted
  rintro row _ before rfl
  exact Profile.Precedes.irrefl term _ before

theorem isBest_best (distinct : t.DistinctIds) (term : String) : IsBest term t (t.best term) where
  length := length_best term t
  sorted := pairwise_best distinct term
  stored _ := mem_of_mem_best
  ahead _ hrow missed _ hfound := precedes_of_not_mem_best distinct hfound hrow missed

/-- A list or a search comes to what its own rows come to: the users of all of them, or the failure
for the first of their ids that does not parse, and nothing of them where it fails. Without the
other rows it comes to the same. -/
theorem unparsed_ids_fail_their_readers (serves : s.Serves t) (distinct : t.DistinctIds) :
    (∀ (policy : Policy) (q : ListQuery) (after : Option Cursor), readToken q.token = .ok after →
      (q.pageQuery policy after).Fits → 1 ≤ policy.pageSize q.pageSize →
      policy.pageSize q.pageSize < 2 ^ 63 →
      ∃ rows, q.IsPage after (policy.pageSize q.pageSize).toNat t rows ∧
        ((∀ row ∈ rows, row.Labelled) → ReadsRows rows (list policy q s).outcome (ShowsRows rows)) ∧
        (∀ page, (list policy q s).outcome = .ok page → ShowsRows rows page) ∧
        ∀ keep : Row → Bool, (∀ row ∈ rows, keep row = true) →
          ∀ s' : Session, s'.Serves (t.filter keep) →
          (list policy q s').outcome = (list policy q s).outcome) ∧
    ∀ term, ∃ rows, IsBest term t rows ∧
      ((∀ row ∈ rows, row.Typed) → ReadsRows rows (search term s).outcome fun users =>
        users.map FoundUser.profile = rows.map Row.profile) ∧
      (∀ users, (search term s).outcome = .ok users →
        users.map FoundUser.profile = rows.map Row.profile) ∧
      ∀ keep : Row → Bool, (∀ row ∈ rows, keep row = true) →
        ∀ s' : Session, s'.Serves (t.filter keep) →
          (search term s').outcome = (search term s).outcome := by
  constructor
  · intro policy q after read fits pos small
    have page := isPage_pageRows distinct policy q after
    have outcome := list_outcome serves read fits pos small s
    refine ⟨q.pageRows policy after t, page, ?_, ?_, ?_⟩
    · intro labelled
      rw [outcome]
      refine (readUsers_reads labelled s).map fun users reads => ⟨eq_map_row page.live reads, rfl⟩
    · intro page' answered
      rw [outcome] at answered
      cases reads : (readUsers (q.pageRows policy after t) s).outcome with
      | ok users =>
        rw [reads] at answered
        cases answered
        exact ⟨eq_map_row page.live (readUsers_eq_ok reads), rfl⟩
      | error e =>
        rw [reads] at answered
        cases answered
    · intro keep kept s' serves'
      rw [list_outcome serves' read fits pos small s, pageRows_filter distinct kept, outcome]
  · intro term
    refine ⟨t.best term, isBest_best distinct term, search_best serves term, ?_, ?_⟩
    · intro users answered
      rw [search_outcome serves term s] at answered
      exact map_profile_of_read (readFoundUsers_eq_ok answered)
    · intro keep kept s' serves'
      rw [search_outcome serves' term s, best_filter distinct kept, search_outcome serves term s]

/-- A row whose id does not parse is deleted, so that it has no part in lists, but a search finds
it. -/
theorem unparsed_ids_fail_their_readers_deleted :
    let now : Instant := ⟨0, by decide, by decide⟩
    let nobody : Row :=
      ⟨"nobody", "Deleted User", none, "create-endpoint", "human", now, none, some now⟩
    let ada : User := ⟨⟨.oidc, "ada", by decide⟩, "Ada", none, .human, .createEndpoint, now, none⟩
    let t : Table := [nobody, User.row ada none]
    let s : Session := { committed := some t }
    t.DistinctIds ∧ (∃ page, (list {} {} s).outcome = .ok page ∧
      ShowsRows [User.row ada none] page) ∧
      (search "x" s).outcome = .error (.storedId "nobody" (.noProvider "nobody")) := by
  intro now nobody ada t s
  have distinct : t.DistinctIds := by decide +kernel
  obtain ⟨lists, searches⟩ := unparsed_ids_fail_their_readers (s := s) ⟨rfl, rfl, rfl⟩ distinct
  refine ⟨distinct, ?_, ?_⟩
  · obtain ⟨rows, page, reads, -⟩ := lists {} {} none rfl ⟨by decide, nofun⟩ (by decide) (by decide)
    have only : rows = [User.row ada none] := by
      rw [page.unique (isPage_pageRows distinct {} {} none)]
      decide +kernel
    subst only
    refine (reads fun row hrow => ?_).parsed fun row hrow => ?_
    · obtain rfl := List.mem_singleton.1 hrow
      exact ⟨⟨.human, rfl⟩, .createEndpoint, rfl⟩
    · obtain rfl := List.mem_singleton.1 hrow
      exact ⟨ada.id, UserId.parse_text ada.id⟩
  · obtain ⟨rows, best, reads, -⟩ := searches "x"
    -- There are no more than ten rows, so the best are all of them.
    have perm : rows.Perm t := (best.nodup.subperm best.stored).perm_of_length_le
      (by simp [best.length, t])
    have typed : ∀ row ∈ rows, row.Typed := by
      intro row hrow
      rcases List.mem_pair.1 (perm.mem_iff.1 hrow) with rfl | rfl <;> exact ⟨.human, rfl⟩
    obtain ⟨before, later, split⟩ :=
      List.append_of_mem (perm.mem_iff.2 (List.mem_cons_self : nobody ∈ t))
    refine (reads typed).unparsed before nobody later _ split (fun row hrow => ?_)
      (by decide +kernel)
    have single := best.nodup
    rw [split, List.nodup_append] at single
    rcases List.mem_pair.1 (perm.mem_iff.1 (split ▸ List.mem_append_left _ hrow)) with rfl | rfl
    · exact absurd rfl (single.2.2 nobody hrow nobody List.mem_cons_self)
    · exact ⟨ada.id, UserId.parse_text ada.id⟩

/-- A part of the name that no name holds leaves an empty page, but the list fails: the part is
beyond the limit. -/
theorem list_fails_for_long_part :
    let now : Instant := ⟨0, by decide, by decide⟩
    let ada : User := ⟨⟨.oidc, "ada", by decide⟩, "Ada", none, .human, .createEndpoint, now, none⟩
    let t : Table := [User.row ada none]
    let s : Session := { committed := some t }
    let q : ListQuery := { name := some (String.ofList (List.replicate 49999 'a')) }
    q.IsPage none 100 t [] ∧ (list {} q s).outcome = .error (.store .list) ∧
      ¬ ReadsRows [] (list {} q s).outcome (ShowsRows []) := by
  intro now ada t s q
  have length : ∀ n, (String.ofList (List.replicate n 'a')).length = n := by simp
  have plain : ∀ n, '\x00' ∉ (String.ofList (List.replicate n 'a')).toList := by simp
  have given : String.ofList (List.replicate 49999 'a') ≠ "" := by
    intro none
    have impossible := length 49999
    rw [none] at impossible
    cases impossible
  have long : Pattern.isTooLong (String.ofList (List.replicate 49999 'a')) = true :=
    Pattern.isTooLong_of_length (by rw [length]; decide)
  have few : (q.pageQuery {} none).values ≤ maxValues :=
    Nat.le_trans (PageQuery.values_le _) (by decide)
  have failed : (list {} q s).outcome = .error (.store .list) :=
    list_refused ⟨rfl, rfl, rfl⟩ rfl few (nonEmpty_some given) long (by decide) (by decide)
      List.mem_cons_self rfl
  refine ⟨⟨[], .nil, fun row => ⟨nofun, ?_⟩, rfl⟩, failed, fun reads => ?_⟩
  · rintro ⟨hrow, matched, -⟩
    obtain rfl := List.mem_singleton.1 hrow
    have fewer := (matched.name _ rfl given).length_le (plain _)
    rw [length] at fewer
    exact absurd fewer (by decide)
  · obtain ⟨page, answered, -⟩ := reads.parsed (List.forall_mem_nil _)
    rw [failed] at answered
    cases answered

end Directory

end UserDirectory
