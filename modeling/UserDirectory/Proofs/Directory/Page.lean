import UserDirectory.Proofs.Directory.Reading
import UserDirectory.Proofs.Paging.Token

/-!
# Pages

On a table of users a page holds the first users, in order, that are not deleted, pass the filter
and come after the cursor. Its token is read as the cursor of its last user.
-/
namespace UserDirectory

open Store Paging Search

/-- The statement of a page is within the store's limits on values and on patterns. -/
structure Store.PageQuery.Fits (q : PageQuery) : Prop where
  few : q.values ≤ maxValues
  short : ∀ name ∈ q.name, Pattern.isTooLong name = false

/-- A statement takes six values at most beside the ids. -/
theorem Store.PageQuery.values_le (q : PageQuery) : q.values ≤ q.ids.elim 0 List.length + 6 := by
  have name : q.name.elim 0 (fun _ => 1) ≤ 1 := by cases q.name <;> simp
  have cursor : q.after.elim 0 (fun _ => 3) ≤ 3 := by cases q.after <;> simp
  rw [PageQuery.values]
  omega

namespace Directory

/-- What a list of users is restricted to. An empty part of the name restricts nothing. -/
structure Filter where
  ids : Option (List UserId) := none
  name : Option String := none

namespace Filter

variable {f : Filter}

def Admits (f : Filter) (u : User) : Prop :=
  (∀ ids ∈ f.ids, u.id ∈ ids) ∧ ∀ name ∈ f.name, name ≠ "" → Pattern.holds name u.name = true

/-- The query for the rows of a page. -/
def pageQuery (f : Filter) (after : Option Cursor) (limit : Int) : PageQuery :=
  ⟨f.ids.map (·.map UserId.text), nonEmpty f.name, after, limit⟩

/-- The statements of all pages are within the store's limits. -/
def Fits (f : Filter) : Prop := ∀ after limit, (f.pageQuery after limit).Fits

theorem fits_of_few (few : f.ids.elim 0 List.length + 6 ≤ maxValues)
    (short : ∀ name ∈ f.name, Pattern.isTooLong name = false) : f.Fits := by
  intro after limit
  have ids : (f.pageQuery after limit).ids.elim 0 List.length = f.ids.elim 0 List.length := by
    cases given : f.ids <;> simp [pageQuery, given]
  refine ⟨Nat.le_trans (PageQuery.values_le _) (ids ▸ few), fun name given => ?_⟩
  exact short name (Option.filter_eq_some_iff.1 given).1

/-- A row of a user is selected if the user is not deleted, passes the filter and comes after the
cursor. -/
theorem selects_row_iff {after : Option Cursor} {limit : Int} {u : User}
    {deletedAt : Option Time.Instant} :
    (f.pageQuery after limit).selects (User.row u deletedAt) = true ↔
      deletedAt = none ∧ f.Admits u ∧ ∀ c ∈ after, c.Before (User.cursor u) := by
  have ids : (f.ids.map (·.map UserId.text)).all (·.contains u.id.text) = true ↔
      ∀ ids ∈ f.ids, u.id ∈ ids := by
    simp [Option.all_map, Option.all_eq_true]
  have name : (∀ name ∈ nonEmpty f.name, Pattern.holds name u.name = true) ↔
      ∀ name ∈ f.name, name ≠ "" → Pattern.holds name u.name = true := by
    simp [nonEmpty, Option.mem_def, Option.filter_eq_some_iff]
  rw [PageQuery.selects_iff]
  simp only [PageQuery.reaches, pageQuery, Bool.and_eq_true, User.id_row, User.cursor_row, ids,
    Option.isNone_iff_eq_none]
  simp only [Admits, ← name, and_assoc]
  exact Iff.rfl

/-- The rows of a list, whatever the limit of a page. -/
def rows (f : Filter) (after : Option Cursor) (t : Table) : List Row := (f.pageQuery after 1).rows t

theorem rows_pageQuery (f : Filter) (after : Option Cursor) (limit : Int) (t : Table) :
    (f.pageQuery after limit).rows t = f.rows after t := rfl

/-- The rows of a list from a table of users are the rows of users. -/
theorem exists_users_rows {t : Table} (h : WellFormed t) (f : Filter) (after : Option Cursor) :
    ∃ users : List User, f.rows after t = users.map (User.row · none) := by
  refine exists_users fun row hrow => ?_
  obtain ⟨inTable, selected⟩ := PageQuery.mem_rows.1 hrow
  obtain ⟨u, hu⟩ := h.users row inTable
  rw [hu] at selected
  exact ⟨u, by rw [hu, (selects_row_iff.1 selected).1]⟩

theorem mem_of_rows {after : Option Cursor} {t : Table} {users : List User}
    (rows : f.rows after t = users.map (User.row · none)) {u : User} :
    u ∈ users ↔ User.row u none ∈ t ∧ f.Admits u ∧ ∀ c ∈ after, c.Before (User.cursor u) := by
  have listed : User.row u none ∈ f.rows after t ↔ u ∈ users := by
    rw [rows, List.mem_map]
    constructor
    · rintro ⟨v, hv, same⟩
      exact User.row_injective same ▸ hv
    · intro hu
      exact ⟨u, hu, rfl⟩
  rw [← listed, Filter.rows, PageQuery.mem_rows, selects_row_iff]
  simp

theorem pairwise_of_rows {after : Option Cursor} {t : Table} {users : List User}
    (distinct : t.DistinctIds) (rows : f.rows after t = users.map (User.row · none)) :
    users.Pairwise fun u v => (User.cursor u).Before (User.cursor v) := by
  have sorted := PageQuery.pairwise_rows distinct (f.pageQuery after 1)
  rw [rows_pageQuery, rows, List.pairwise_map] at sorted
  exact sorted

end Filter

/-! ## The statement that reads a page -/

theorem takeLimit_of_pos {α : Type} {limit : Int} (h : 1 ≤ limit) (l : List α) :
    takeLimit limit l = l.take limit.toNat := by
  rw [takeLimit, if_neg (by omega)]

theorem mem_of_mem_takeLimit {α : Type} {limit : Int} {l : List α} {a : α}
    (h : a ∈ takeLimit limit l) : a ∈ l := by
  unfold takeLimit at h
  split at h
  · exact h
  · exact List.mem_of_mem_take h

/-- A page that is answered holds the first selected rows, and the table is as it was. -/
theorem rows_of_page {q : PageQuery} {t t' : Table} {rows : List Row}
    (read : page q t = .ok (rows, t')) :
    rows = takeLimit q.limit (q.rows t) ∧ t' = t := by
  unfold page at read
  split at read
  · cases read
  · split at read
    · cases read
    · split at read
      · cases read
      · obtain ⟨rfl, rfl⟩ := Prod.mk.inj (Except.ok.inj read)
        exact ⟨rfl, rfl⟩

/-- Within its limits the store reads the page. -/
theorem page_of_fits {q : PageQuery} (fits : q.Fits) (limit : isLimit q.limit = true) (t : Table) :
    page q t = .ok (takeLimit q.limit (q.rows t), t) := by
  have short : q.name.any Pattern.isTooLong = false := by
    rw [Option.any_eq_false]
    intro name given
    exact fits.short name given
  rw [page, if_neg (Nat.not_lt.2 fits.few), limit, short, Bool.and_false, Bool.false_and]
  rfl

theorem page_of_not_isLimit {q : PageQuery} (fits : q.Fits)
    (beyond : isLimit q.limit = false) (t : Table) :
    page q t = .error .limitOutOfRange := by
  rw [page, if_neg (Nat.not_lt.2 fits.few), beyond]
  rfl

/-- The page is read, or the query is beyond the store's limits. -/
theorem page_cases {q : PageQuery} (limit : isLimit q.limit = true)
    (pos : 1 ≤ q.limit) (t : Table) :
    page q t = .ok ((q.rows t).take q.limit.toNat, t) ∨
      (¬ q.Fits ∧ ∃ refusal, page q t = .error refusal ∧ listFailure refusal = .store .list) := by
  by_cases many : maxValues < q.values
  · exact .inr ⟨fun fits => Nat.not_lt.2 fits.few many, .tooManyValues, if_pos many, rfl⟩
  · by_cases refused : (q.limit != 0 && q.name.any Pattern.isTooLong && t.any q.reaches) = true
    · refine .inr ⟨fun fits => ?_, .patternTooLong, by simp [page, many, limit, refused], rfl⟩
      simp only [Bool.and_eq_true] at refused
      obtain ⟨name, given, long⟩ := (Option.any_eq_true ..).1 refused.1.2
      rw [fits.short name given] at long
      cases long
    · refine .inl ?_
      rw [PageQuery.rows, ← takeLimit_of_pos pos, page, if_neg many, limit, if_neg (by decide),
        if_neg refused]

/-! ## Listing -/

theorem isLimit_of_lt {limit : Int} (pos : 1 ≤ limit) (small : limit < 9223372036854775808) :
    isLimit limit = true := by
  simp only [isLimit, Bool.and_eq_true, decide_eq_true_eq]
  omega

/-- The token behind some users. -/
def nextToken (users : List User) : Option String :=
  users.getLast?.map fun u => (User.cursor u).token

/-- The page after a cursor: the first users within the limit, unless the statement is beyond the
store's. -/
theorem listPage_yields {f : Filter} {after : Option Cursor} {limit : Int} {t : Table}
    (pos : 1 ≤ limit) (small : limit < 9223372036854775808) {users : List User}
    (rows : f.rows after t = users.map (User.row · none)) :
    (listPage (f.pageQuery after limit)).Yields t
        (.ok ⟨users.take limit.toNat, nextToken (users.take limit.toNat)⟩) t ∨
      (¬ (f.pageQuery after limit).Fits ∧
        (listPage (f.pageQuery after limit)).Yields t (.error (.store .list)) t) := by
  rcases page_cases (q := f.pageQuery after limit) (isLimit_of_lt pos small) pos t with
    read | ⟨unfit, refusal, refused, failure⟩
  · rw [Filter.rows_pageQuery, rows, ← List.map_take] at read
    exact .inl
      (.bind (.execute read) (.bind (readUsers_yields _ t) (.bind (.note _ t) (.pure _ t))))
  · rw [← failure]
    exact .inr ⟨unfit, .bind_error (.execute_error refused)⟩

/-- The same for a list with a token that is read. -/
theorem list_yields {policy : Policy} {f : Filter} {token : Option String} {after : Option Cursor}
    {size : Option Int} {t : Table} (read : readToken token = .ok after)
    (pos : 1 ≤ policy.pageSize size) (small : policy.pageSize size < 9223372036854775808)
    {users : List User} (rows : f.rows after t = users.map (User.row · none)) :
    (list policy ⟨f.ids, f.name, token, size⟩).Yields t
        (.ok ⟨users.take (policy.pageSize size).toNat,
          nextToken (users.take (policy.pageSize size).toNat)⟩) t ∨
      (¬ (f.pageQuery after (policy.pageSize size)).Fits ∧
        (list policy ⟨f.ids, f.name, token, size⟩).Yields t (.error (.store .list)) t) := by
  have start : (Action.ofExcept ((readToken token).mapError Error.token)).Yields t
      (.ok after) t := by
    rw [read]
    exact .ofExcept (.ok after) t
  rcases listPage_yields pos small rows with done | ⟨unfit, refused⟩
  · exact .inl (.bind start done)
  · exact .inr ⟨unfit, .bind start refused⟩

/-! ## Tokens of pages -/

/-- The token behind some users is read as the cursor of the last of them. -/
theorem readToken_nextToken {users : List User} {token : String}
    (h : nextToken users = some token) :
    ∃ u, users.getLast? = some u ∧ readToken (some token) = .ok (some (User.cursor u)) := by
  obtain ⟨u, last, rfl⟩ := Option.map_eq_some_iff.1 h
  refine ⟨u, last, ?_⟩
  have given : nonEmpty (some (User.cursor u).token) = some (User.cursor u).token := by
    simp [nonEmpty, Option.filter, Cursor.token_ne_empty]
  have decoded := Cursor.ofToken_token (c := User.cursor u) (UserId.text_ne_empty u.id)
  simp only [readToken, given, decoded]
  rfl

end Directory

end UserDirectory
