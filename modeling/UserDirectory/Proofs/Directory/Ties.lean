import UserDirectory.Proofs.Directory.Listed
import UserDirectory.Proofs.Identity.Order
import UserDirectory.Proofs.Input.Identified

/-!
# Users created at the same time

Rows are sorted and sought by the texts of ids. As these are in the order of the ids, users of a
page that were created at the same time stand in strict order of their ids, and those of the page
behind it go on in this order.
-/
namespace UserDirectory.Directory

open Store Paging

/-- The order of users in lists: by time of creation, and then by id. -/
def User.Precedes (u v : User) : Prop :=
  u.createdAt.micros < v.createdAt.micros ∨ (u.createdAt = v.createdAt ∧ u.id.before v.id = true)

theorem User.precedes_iff {u v : User} :
    User.Precedes u v ↔ (User.cursor u).Before (User.cursor v) := by
  have instants : u.createdAt = v.createdAt ↔ u.createdAt.micros = v.createdAt.micros :=
    ⟨congrArg Time.Instant.micros, Time.Instant.eq_of_micros_eq⟩
  simp only [Precedes, Cursor.Before, cursor, UserId.before_iff, instants]

/-- A row is sought behind the cursor of a user by the id, and not only by its text. -/
theorem User.isAfter_row_iff {u v : User} {deletedAt : Option Time.Instant} :
    (User.row v deletedAt).isAfter (User.cursor u) = true ↔ User.Precedes u v := by
  rw [Row.isAfter_iff, User.cursor_row, User.precedes_iff]

variable {s : Session} {policy : Policy} {q : ListQuery} {page : Page}

theorem map_cursor_of_read {rows : List Row} {users : List User}
    (read : List.Forall₂ (fun row u => row = User.row u row.deletedAt) rows users) :
    rows.map Row.cursor = users.map User.cursor := by
  induction read with
  | nil => rfl
  | cons row _ ih => rw [List.map_cons, List.map_cons, ih, row, User.cursor_row]

theorem takeLimit_sublist {α : Type} (limit : Int) (l : List α) :
    (takeLimit limit l).Sublist l := by
  unfold takeLimit
  split
  · exact List.Sublist.refl l
  · exact List.take_sublist _ l

/-- The users of a page are in strict order. -/
theorem pairwise_listed {t : Table} (sees : s.view = some t) (distinct : t.DistinctIds)
    (answered : (list policy q s).outcome = .ok page) : page.users.Pairwise User.Precedes := by
  obtain ⟨after, t', rows, -, sees', paged, read⟩ := list_eq_ok answered
  obtain rfl : t = t' := Option.some.inj (sees.symm.trans sees')
  obtain ⟨rfl, -⟩ := rows_of_page paged
  have sorted := (PageQuery.pairwise_rows distinct (q.pageQuery policy after)).sublist
    (takeLimit_sublist (q.pageQuery policy after).limit _)
  rw [← List.pairwise_map (R := Cursor.Before), map_cursor_of_read read, List.pairwise_map]
    at sorted
  exact sorted.imp User.precedes_iff.2

/-- The token of a page is that behind its users. -/
theorem nextToken_of_listed (answered : (list policy q s).outcome = .ok page) :
    page.nextToken = nextToken page.users := by
  obtain ⟨after, -, listed⟩ := Action.bind_eq_ok answered
  obtain ⟨rows, -, rest⟩ := Action.bind_eq_ok listed
  obtain ⟨users, -, rest⟩ := Action.bind_eq_ok rest
  obtain ⟨_, -, whole⟩ := Action.bind_eq_ok rest
  cases whole
  rfl

/-- Users listed behind a cursor come after it. -/
theorem before_of_listed {c : Cursor} (read : readToken q.token = .ok (some c))
    (answered : (list policy q s).outcome = .ok page) {u : User} (hu : u ∈ page.users) :
    c.Before (User.cursor u) := by
  obtain ⟨after, t, rows, read', -, paged, users⟩ := list_eq_ok answered
  obtain rfl : after = some c := Except.ok.inj (read'.symm.trans read)
  obtain ⟨rfl, -⟩ := rows_of_page paged
  have cursor := map_cursor_of_read users ▸ List.mem_map_of_mem (f := User.cursor) hu
  obtain ⟨row, hrow, same⟩ := List.mem_map.1 cursor
  have selected := (PageQuery.mem_rows.1 (mem_of_mem_takeLimit hrow)).2
  exact same ▸ (PageQuery.selects_iff.1 selected).2 c rfl

/-- Ids are ordered as their texts are, and equal if these are. Sorting ids and printing them thus
gives their distinct texts in order; the users of a page stand by time of creation and then in
strict order of their ids; and the token of a page holds the text of the last id, behind which in
this same order the next page goes on, whatever has become of the table. -/
theorem ids_ordered_as_texts :
    (∀ a b : UserId, (a.before b = true ↔ a.text < b.text) ∧ (a = b ↔ a.text = b.text)) ∧
    (∀ (texts : List String) (ids : List UserId), texts.mapM UserId.parse = .ok ids →
      (UserId.sorted ids).map UserId.text = texts.dedup.mergeSort fun s t => s ≤ t) ∧
    (∀ (policy : Policy) (q : ListQuery) (s : Session) (t : Table) (page : Page),
      s.view = some t → t.DistinctIds → (list policy q s).outcome = .ok page →
      page.users.Pairwise fun u v => User.Precedes u v ∧
        (u.createdAt = v.createdAt → u.id.before v.id = true)) ∧
    (∀ (u v : User) (deletedAt : Option Time.Instant),
      (User.row v deletedAt).isAfter (User.cursor u) = true ↔ User.Precedes u v) ∧
    ∀ (policy policy' : Policy) (q q' : ListQuery) (s s' : Session) (page page' : Page)
      (token : String),
      (list policy q s).outcome = .ok page → page.nextToken = some token →
      ∃ last, page.users.getLast? = some last ∧
        Cursor.ofToken token = .ok ⟨last.createdAt, last.id.text⟩ ∧
        (q'.token = some token → (list policy' q' s').outcome = .ok page' →
          ∀ u ∈ page'.users, User.Precedes last u) := by
  refine ⟨fun a b => ⟨UserId.before_iff, UserId.text_inj.symm⟩, fun texts ids parsed => ?_,
    fun policy q s t page sees distinct answered => ?_, fun u v deletedAt => User.isAfter_row_iff,
    fun policy policy' q q' s s' page page' token answered next => ?_⟩
  · rw [UserId.map_text_sorted, Input.mapM_parse_eq_ok_iff.1 parsed]
  · refine (pairwise_listed sees distinct answered).imp fun precedes => ⟨precedes, fun same => ?_⟩
    rcases precedes with earlier | ⟨-, before⟩
    · rw [same] at earlier
      exact absurd earlier (Int.lt_irrefl _)
    · exact before
  · have written : nextToken page.users = some token :=
      (nextToken_of_listed answered).symm.trans next
    obtain ⟨last, isLast, read⟩ := readToken_nextToken written
    have token_eq : token = (User.cursor last).token := by
      rw [nextToken, isLast] at written
      exact (Option.some.inj written).symm
    refine ⟨last, isLast, ?_, fun given answered' u hu => ?_⟩
    · rw [token_eq]
      exact Cursor.ofToken_token (UserId.text_ne_empty last.id)
    · exact User.precedes_iff.2 (before_of_listed (given ▸ read) answered' hu)

/-- Three users of one moment in a table without order, two to a page. The marks in the subjects lie
below and above the tilde, and a tilde stands in one of them. -/
theorem ids_ordered_as_texts_marks :
    let now : Time.Instant := ⟨0, by decide, by decide⟩
    let mark : UserId := ⟨.oidc, "a!", by decide⟩
    let tilde : UserId := ⟨.oidc, "a~", by decide⟩
    let umlaut : UserId := ⟨.kubernetes, "ü", by decide⟩
    let user := fun id : UserId => (⟨id, "A", none, .human, .createEndpoint, now, none⟩ : User)
    let t : Table :=
      [User.row (user tilde) none, User.row (user umlaut) none, User.row (user mark) none]
    let s : Session := { committed := some t }
    let first : Page := ⟨[user umlaut, user mark], some (User.cursor (user mark)).token⟩
    let second : Page := ⟨[user tilde], some (User.cursor (user tilde)).token⟩
    (UserId.sorted [tilde, umlaut, mark, tilde]).map UserId.text =
      (["oidc~a~", "kubernetes~ü", "oidc~a!", "oidc~a~"].dedup.mergeSort fun s t => s ≤ t) ∧
    (list {} { pageSize := some 2 } s).outcome = .ok first ∧
    umlaut.before mark = true ∧
    (list {} { token := first.nextToken, pageSize := some 2 } s).outcome = .ok second ∧
    User.Precedes (user mark) (user tilde) := by
  intro now mark tilde umlaut user t s first second
  obtain ⟨-, sorts, pages, -, follows⟩ := ids_ordered_as_texts
  have distinct : t.DistinctIds := by decide +kernel
  have answers : ∀ (token : Option String) (after : Option Cursor) (users : List User),
    readToken token = .ok after →
      (t.filter (Filter.pageQuery {} after 1).selects).Perm (users.map (User.row · none)) →
      ((users.map (User.row · none)).Pairwise fun a b => a.cursor.Before b.cursor) →
      (list {} { token := token, pageSize := some 2 } s).outcome =
        .ok ⟨users.take 2, nextToken (users.take 2)⟩ := by
    intro token after users read same ordered
    have rows : Filter.rows {} after t = users.map (User.row · none) :=
      (PageQuery.pairwise_rows distinct _).eq_of_mem_iff ordered fun row =>
        ((List.mergeSort_perm _ _).trans same).mem_iff
    rcases @list_yields {} {} token after (some 2) t read (by decide) (by decide) users rows
      with done | ⟨unfit, -⟩
    · exact (done s ⟨rfl, rfl, rfl⟩).1
    · exact absurd (Filter.fits_of_few (f := {}) (by decide) nofun _ _) unfit
  have answered : (list {} { pageSize := some 2 } s).outcome = .ok first :=
    answers none none [user umlaut, user mark, user tilde] rfl (by decide +kernel)
      (by decide +kernel)
  have next : (list {} { token := first.nextToken, pageSize := some 2 } s).outcome = .ok second :=
    answers first.nextToken (some (User.cursor (user mark))) [user tilde] (by decide +kernel)
      (by decide +kernel)
      (by decide +kernel)
  have ordered := pages {} { pageSize := some 2 } s t first rfl distinct answered
  obtain ⟨last, isLast, -, behind⟩ :=
    follows {} {} { pageSize := some 2 } { token := first.nextToken, pageSize := some 2 } s s first
      second _ answered rfl
  obtain rfl : user mark = last := Option.some.inj isLast
  refine ⟨sorts _ [tilde, umlaut, mark, tilde] rfl, answered, ?_, next, ?_⟩
  · exact ((List.pairwise_cons.1 ordered).1 (user mark) List.mem_cons_self).2 rfl
  · exact behind rfl next (user tilde) List.mem_cons_self

end UserDirectory.Directory
