import UserDirectory.Proofs.Directory.Walk

/-!
# Walks through a table at rest

If nothing is edited, a walk from any cursor on lists the users behind it one after the other, in
pages that are full up to the last, and ends with an empty page.
-/
namespace UserDirectory.Directory

open Store Paging Time

/-- A turn without edits. -/
def Ask.still (ask : Ask) : Turn := ⟨ask, []⟩

/-- A page that is read from a table. -/
def Visit.of (t : Table) (page : Page) : Visit := ⟨some t, .ok page⟩

/-! ## Full pages -/

variable {asks : List Ask} {users : List User} {pages : List Page}

/-- Pages that hold some users one after the other, each as many as are asked for or left. -/
inductive Fills : List Ask → List User → List Page → Prop
  | done {asks : List Ask} : Fills asks [] []
  | page {ask : Ask} {asks : List Ask} {first later : List User} {last : User} {pages : List Page}
      (size : first.length + 1 = min ask.limit.toNat (first ++ last :: later).length)
        (rest : Fills asks later pages) :
      Fills (ask :: asks) (first ++ last :: later)
        (⟨first ++ [last], some (User.cursor last).token⟩ :: pages)

namespace Fills

theorem flatMap_users (fills : Fills asks users pages) : pages.flatMap (·.users) = users := by
  induction fills with
  | done => rfl
  | @page ask asks first later last pages size rest ih =>
    rw [List.flatMap_cons, ih]
    exact List.append_assoc first [last] later

theorem length_le (fills : Fills asks users pages) : pages.length ≤ users.length := by
  induction fills with
  | done => exact Nat.le_refl 0
  | page size rest ih =>
    simp only [List.length_cons, List.length_append]
    omega

theorem length_page (fills : Fills asks users pages) :
    ∀ (i : Nat) (ask : Ask) (page : Page), asks[i]? = some ask → pages[i]? = some page →
      page.nextToken ≠ none ∧ 0 < page.users.length ∧
        page.users.length = min ask.limit.toNat
          (users.length - ((pages.take i).flatMap (·.users)).length) := by
  induction fills with
  | done => simp
  | @page ask asks first later last pages size rest ih =>
    intro i ask' page hask hpage
    cases i with
    | zero =>
      obtain rfl : ask = ask' := by simpa using hask
      obtain rfl : _ = page := by simpa using hpage
      simpa using size
    | succ i =>
      rw [List.getElem?_cons_succ] at hask hpage
      obtain ⟨token, pos, full⟩ := ih i ask' page hask hpage
      refine ⟨token, pos, ?_⟩
      simp only [List.take_succ_cons, List.flatMap_cons, List.length_append, List.length_cons,
        List.length_nil]
      rw [full]
      omega

/-- With one page size there are as many pages as the size goes into the number of users, rounded
up. -/
theorem length_eq (fills : Fills asks users pages) {limit : Nat} (pos : 0 < limit)
    (same : ∀ ask ∈ asks, ask.limit.toNat = limit) :
    pages.length = (users.length + limit - 1) / limit := by
  induction fills with
  | done =>
    rw [List.length_nil, List.length_nil, Nat.div_eq_of_lt (by omega)]
  | @page ask asks first later last pages size rest ih =>
    rw [same ask List.mem_cons_self] at size
    have count := ih fun ask hask => same ask (List.mem_cons_of_mem _ hask)
    simp only [List.length_append, List.length_cons] at size ⊢
    rw [count]
    by_cases full : first.length + 1 = limit
    · have total : first.length + (later.length + 1) + limit - 1 = later.length + limit - 1 +
        limit := by omega
      rw [total, Nat.add_div_right _ pos]
    · have noneLeft : later.length = 0 := by omega
      have one : (first.length + (later.length + 1) + limit - 1) / limit = 1 :=
        Nat.div_eq_of_lt_le (by omega) (by omega)
      rw [one, Nat.div_eq_of_lt (by omega)]

end Fills

/-! ## Walks that edit nothing -/

/-- Behind a listed user come the users that are listed behind. -/
theorem Filter.rows_behind {f : Filter} {after : Option Cursor} {t : Table}
    (distinct : t.DistinctIds) {first later : List User} {last : User}
    (rows : f.rows after t = (first ++ last :: later).map (User.row · none)) :
    f.rows (some (User.cursor last)) t = later.map (User.row · none) := by
  rw [List.map_append, List.map_cons] at rows
  exact PageQuery.rows_after distinct rows

/-- Enough turns without edits fill pages with all users that are left, and end with an empty
page. -/
theorem Walks.fills {f : Filter} {after : Option Cursor} {t : Table} {visits : List Visit}
    (walks : Walks f after t (asks.map Ask.still) visits) (fits : f.Fits) (distinct : t.DistinctIds)
    (rows : f.rows after t = users.map (User.row · none)) (enough : users.length < asks.length) :
    ∃ pages, Fills asks users pages ∧ visits = (pages ++ [Page.mk [] none]).map (Visit.of t) := by
  induction asks generalizing after users visits with
  | nil => simp at enough
  | cons ask asks ih =>
    cases walks with
    | refused unfit => exact absurd fits unfit
    | last exhausted =>
      obtain rfl : users = [] := by simpa [exhausted] using rows
      exact ⟨[], .done, rfl⟩
    | @page _ _ _ _ visits first later last split size rest =>
      obtain rfl : first ++ last :: later = users :=
        List.map_injective_iff.2 (fun _ _ => User.row_injective) (split.symm.trans rows)
      have fewer : later.length < asks.length := by
        simp only [List.length_append, List.length_cons] at enough
        omega
      obtain ⟨pages, fills, rfl⟩ := ih rest (Filter.rows_behind distinct split) fewer
      exact ⟨_, .page size fills, rfl⟩

/-- A walk from any token on, through a table at rest whose rows are all of users and with any page
sizes. What it lists are the users behind the token's cursor who are not deleted and whom the filter
admits, each once and in strict order. The pages are full up to the last, all of them have a token
but the empty one behind the last, and there are no more of them than users. -/
theorem walk_at_rest {s : Session} {t : Table} (serves : s.Serves t) (distinct : t.DistinctIds)
    (readable : ∀ row ∈ t, ∃ (id : UserId) (entryPoint : EntryPoint) (userType : UserType),
      UserId.parse row.id = .ok id ∧ EntryPoint.ofLabel? row.lastUpdatedWith = some entryPoint ∧
        UserType.ofLabel? row.userType = some userType)
    {f : Filter} (fits : f.Fits) {token : Option String} {after : Option Cursor}
    (read : readToken token = .ok after) :
    (∀ row ∈ t, ∃ u : User, row = User.row u row.deletedAt) ∧
    ∃ users : List User, (users.Pairwise fun u v => (User.cursor u).Before (User.cursor v)) ∧
      (∀ u : User, u ∈ users ↔ User.row u none ∈ t ∧ f.Admits u ∧
        ∀ c ∈ after, c.Before (User.cursor u)) ∧
      ∀ asks : List Ask, (∀ ask ∈ asks, ask.Sound) → users.length < asks.length →
        ∃ pages : List Page,
          walk f token (asks.map Ask.still) s = (pages ++ [Page.mk [] none]).map (Visit.of t) ∧
          pages.flatMap (·.users) = users ∧ pages.length ≤ users.length ∧
          (∀ (i : Nat) (ask : Ask) (page : Page), asks[i]? = some ask → pages[i]? = some page →
            page.nextToken ≠ none ∧ 0 < page.users.length ∧
              page.users.length = min ask.limit.toNat
                (users.length - ((pages.take i).flatMap (·.users)).length)) ∧
          ∀ limit : Nat, 0 < limit → (∀ ask ∈ asks, ask.limit = limit) →
            pages.length = (users.length + limit - 1) / limit := by
  have usersOnly : ∀ row ∈ t, ∃ u : User, row = User.row u row.deletedAt := by
    intro row hrow
    obtain ⟨id, entryPoint, userType, parsed, entered, typed⟩ := readable row hrow
    exact exists_user parsed entered typed
  have wellFormed : WellFormed t := ⟨distinct, usersOnly⟩
  obtain ⟨users, rows⟩ := f.exists_users_rows wellFormed after
  refine ⟨usersOnly, users, Filter.pairwise_of_rows distinct rows,
    fun u => Filter.mem_of_rows rows, ?_⟩
  intro asks sound enough
  have stillSound : ∀ turn ∈ asks.map Ask.still, turn.ask.Sound := by
    intro turn hturn
    obtain ⟨ask, hask, rfl⟩ := List.mem_map.1 hturn
    exact sound ask hask
  have walks : Walks f after t _ (walk f token _ s) := walks_walk serves wellFormed read stillSound
  obtain ⟨pages, fills, visits⟩ := walks.fills fits distinct rows enough
  refine ⟨pages, visits, fills.flatMap_users, fills.length_le, fills.length_page, ?_⟩
  intro limit pos same
  exact fills.length_eq pos fun ask hask => by rw [same ask hask, Int.toNat_natCast]

/-- Four users of one time of creation, of whom one is deleted and one is before the token's cursor,
which is that of no user. -/
theorem walk_at_rest_tied :
    let now : Instant := ⟨0, by decide, by decide⟩
    let ada : User := ⟨⟨.oidc, "ada", by decide⟩, "Ada", none, .human, .createEndpoint, now, none⟩
    let bob : User :=
      ⟨⟨.oidc, "bob", by decide⟩, "Bob", none, .human, .updateEndpoint, now, some now⟩
    let eve : User :=
      ⟨⟨.oidc, "eve", by decide⟩, "Eve", none, .application, .createEndpoint, now, none⟩
    let ned : User :=
      ⟨⟨.oidc, "ned", by decide⟩, "Deleted User", none, .human, .createEndpoint, now, none⟩
    let t : Table :=
      [User.row ned (some now), User.row eve none, User.row bob none, User.row ada none]
    let one : Ask := ⟨{}, some 1⟩
    readToken (some "MSYwJm9pZGN-YWRhbQ") = .ok (some ⟨now, "oidc~adam"⟩) ∧
    ∃ (users : List User) (pages : List Page),
      (bob ∈ users ∧ eve ∈ users ∧ ada ∉ users ∧ ned ∉ users) ∧
      walk {} (some "MSYwJm9pZGN-YWRhbQ") ((List.replicate (users.length + 1) one).map Ask.still)
          { committed := some t } = (pages ++ [Page.mk [] none]).map (Visit.of t) ∧
      pages.flatMap (·.users) = users ∧ pages.length = users.length := by
  intro now ada bob eve ned t one
  have read : readToken (some "MSYwJm9pZGN-YWRhbQ") = .ok (some ⟨now, "oidc~adam"⟩) := by
    decide +kernel
  have readable : ∀ row ∈ t, ∃ (id : UserId) (entryPoint : EntryPoint) (userType : UserType),
      UserId.parse row.id = .ok id ∧ EntryPoint.ofLabel? row.lastUpdatedWith = some entryPoint ∧
        UserType.ofLabel? row.userType = some userType := by
    simp [t, User.row]
  obtain ⟨-, users, -, listed, walks⟩ := walk_at_rest (s := { committed := some t }) ⟨rfl, rfl, rfl⟩
    (by decide +kernel) readable (f := {}) (Filter.fits_of_few (by decide) (by simp)) read
  have sound : ∀ ask ∈ List.replicate (users.length + 1) one, ask.Sound ∧ ask.limit = 1 := by
    intro ask hask
    rw [List.eq_of_mem_replicate hask]
    exact ⟨⟨by decide, by decide⟩, rfl⟩
  obtain ⟨pages, visits, whole, -, -, count⟩ := walks (List.replicate (users.length + 1) one)
    (fun ask hask => (sound ask hask).1) (by simp)
  have member : ∀ u : User, User.row u none ∈ t →
      (Cursor.mk now "oidc~adam").Before (User.cursor u) → u ∈ users :=
    fun u inTable behind => (listed u).2 ⟨inTable, by simp [Filter.Admits], by simpa using behind⟩
  refine ⟨read, users, pages, ⟨member bob ?_ ?_, member eve ?_ ?_, fun h => ?_, fun h => ?_⟩,
    visits, whole, ?_⟩
  · decide +kernel
  · decide +kernel
  · decide +kernel
  · decide +kernel
  · exact absurd (((listed ada).1 h).2.2 _ rfl) (by decide +kernel)
  · exact absurd ((listed ned).1 h).1 (by decide +kernel)
  · rw [count 1 (by decide) fun ask hask => (sound ask hask).2, Nat.div_one, Nat.add_sub_cancel]

end UserDirectory.Directory
