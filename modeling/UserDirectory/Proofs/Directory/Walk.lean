import UserDirectory.Proofs.Directory.Edit
import UserDirectory.Proofs.Directory.Page

/-!
# Walks through a list

A walk asks for a page, and with the token of each page for the next one, while the directory is
edited between the pages. Each page comes after the last user of the one before, and no edit moves a
row. So no user is seen twice, and a walk that comes to an empty page has passed no user who was
there all the time.
-/
namespace UserDirectory.Directory

open Store Paging Time

/-! ## Walks on sessions -/

/-- How a page is asked for. -/
structure Ask where
  policy : Policy
  size : Option Int

namespace Ask

def limit (ask : Ask) : Int := ask.policy.pageSize ask.size

/-- The effective size is positive and a limit that the store takes, which are those below the 63rd
power of 2. -/
structure Sound (ask : Ask) : Prop where
  pos : 1 ≤ ask.limit
  small : ask.limit < 9223372036854775808

end Ask

/-- A page that is asked for, and the edits between it and the next one. -/
structure Turn where
  ask : Ask
  edits : List Edit

/-- What a page is read from, and what comes of it. -/
structure Visit where
  contents : Contents
  outcome : Except Error Page

def Visit.users (v : Visit) : List User :=
  match v.outcome with
  | .ok page => page.users
  | .error _ => []

def usersOf (visits : List Visit) : List User := visits.flatMap Visit.users

/-- The pages from a token on, until there is no token, a list fails or the turns are over. -/
def walk (f : Filter) : Option String → List Turn → Session → List Visit
  | _, [], _ => []
  | token, turn :: turns, s =>
    let listed := list turn.ask.policy ⟨f.ids, f.name, token, turn.ask.size⟩ s
    ⟨s.view, listed.outcome⟩ ::
      match listed.outcome with
      | .ok ⟨_, some next⟩ => walk f (some next) turns (runAll turn.edits listed.session)
      | _ => []

/-! ## Walks on tables -/

variable {f : Filter} {after : Option Cursor} {t : Table} {turn : Turn} {turns : List Turn}
  {visits : List Visit}

/-- The visits of a walk from a cursor on, the table being known. A page that is not empty holds the
first of the rows that are left, up to the limit, and the walk goes on behind its last user. -/
inductive Walks (f : Filter) : Option Cursor → Table → List Turn → List Visit → Prop
  | stop {after : Option Cursor} {t : Table} : Walks f after t [] []
  | refused {after : Option Cursor} {t : Table} {turn : Turn} {turns : List Turn}
      (unfit : ¬ f.Fits) :
      Walks f after t (turn :: turns) [⟨some t, .error (.store .list)⟩]
  | last {after : Option Cursor} {t : Table} {turn : Turn} {turns : List Turn}
      (exhausted : f.rows after t = []) :
      Walks f after t (turn :: turns) [⟨some t, .ok ⟨[], none⟩⟩]
  | page {after : Option Cursor} {t : Table} {turn : Turn} {turns : List Turn} {visits : List Visit}
      {first later : List User} {last : User}
      (rows : f.rows after t = (first ++ last :: later).map (User.row · none))
      (size : first.length + 1 = min turn.ask.limit.toNat (first ++ last :: later).length)
      (rest : Walks f (some (User.cursor last)) (applyAll turn.edits t) turns visits) :
      Walks f after t (turn :: turns)
        (⟨some t, .ok ⟨first ++ [last], some (User.cursor last).token⟩⟩ :: visits)

/-- The first users up to a positive limit are none, or they end in a last one with the others
behind it. -/
theorem take_cases {limit : Nat} (pos : 0 < limit) (users : List User) :
    users = [] ∨ ∃ (first later : List User) (last : User), users = first ++ last :: later ∧
      users.take limit = first ++ [last] ∧ first.length + 1 = min limit users.length := by
  rcases List.eq_nil_or_concat (users.take limit) with none | ⟨first, last, taken⟩
  · left
    rw [List.take_eq_nil_iff] at none
    exact none.resolve_left (by omega)
  · right
    have whole := List.take_append_drop limit users
    rw [List.concat_eq_append] at taken
    have length := congrArg List.length taken
    rw [taken, List.append_assoc, List.singleton_append] at whole
    rw [List.length_take, List.length_append, List.length_singleton] at length
    exact ⟨first, users.drop limit, last, whole.symm, taken, length.symm⟩

theorem nextToken_concat (first : List User) (last : User) :
    nextToken (first ++ [last]) = some (User.cursor last).token := by
  simp [nextToken]

/-- A walk on a session is a walk on the table that the session sees. -/
theorem walks_walk {s : Session} {token : Option String} (serves : s.Serves t) (h : WellFormed t)
    (read : readToken token = .ok after) (sound : ∀ turn ∈ turns, turn.ask.Sound) :
    Walks f after t turns (walk f token turns s) := by
  induction turns generalizing after token t s with
  | nil => exact .stop
  | cons turn turns ih =>
    obtain ⟨pos, small⟩ := sound turn List.mem_cons_self
    obtain ⟨users, rows⟩ := f.exists_users_rows h after
    rcases list_yields read pos small rows with listed | ⟨unfit, refused⟩
    · obtain ⟨outcome, served, -⟩ := listed s serves
      have limitPos : 0 < turn.ask.limit.toNat := by omega
      rcases take_cases limitPos users with rfl | ⟨first, later, last, rfl, taken, size⟩
      · rw [List.take_nil] at outcome
        rw [walk, outcome, serves.view]
        exact .last rows
      · rw [← Ask.limit, taken, nextToken_concat] at outcome
        obtain ⟨u, isLast, readNext⟩ := readToken_nextToken (nextToken_concat first last)
        obtain rfl : u = last := by simpa using isLast.symm
        rw [walk, outcome, serves.view]
        exact .page rows size (ih (serves_runAll served h turn.edits)
          (h.applyAll turn.edits) readNext
          fun turn hturn => sound turn (List.mem_cons_of_mem _ hturn))
    · obtain ⟨outcome, -, -⟩ := refused s serves
      rw [walk, outcome, serves.view]
      exact .refused fun fits => unfit (fits _ _)

/-! ## What is seen on a walk -/

/-- The id has a user, who is not deleted and passes the filter, where the page is read. -/
def Visit.Shows (f : Filter) (x : UserId) (v : Visit) : Prop :=
  ∃ (t : Table) (u : User), v.contents = some t ∧ User.row u none ∈ t ∧ f.Admits u ∧ u.id = x

theorem usersOf_cons (v : Visit) (visits : List Visit) :
    usersOf (v :: visits) = v.users ++ usersOf visits := rfl

theorem mem_of_mem_page {u last : User} {first later : List User} (hu : u ∈ first ++ [last]) :
    u ∈ first ++ last :: later := by
  rw [List.append_cons]
  exact List.mem_append_left later hu

/-- The users of a page are in order, and those who are left come after the last of them. -/
theorem Filter.sorted_page (distinct : t.DistinctIds) {first later : List User} {last : User}
    (rows : f.rows after t = (first ++ last :: later).map (User.row · none)) :
    ((first ++ [last]).Pairwise fun u v => (User.cursor u).Before (User.cursor v)) ∧
      (∀ u ∈ first, (User.cursor u).Before (User.cursor last)) ∧
      ∀ u ∈ later, (User.cursor last).Before (User.cursor u) := by
  have sorted := Filter.pairwise_of_rows distinct rows
  rw [List.append_cons] at sorted
  obtain ⟨onPage, -, behind⟩ := List.pairwise_append.1 sorted
  obtain ⟨-, -, upToLast⟩ := List.pairwise_append.1 onPage
  exact ⟨onPage, fun u hu => upToLast u hu last List.mem_cons_self, behind last (by simp)⟩

namespace Walks

/-- A filter that fits is never refused. -/
theorem outcome (walks : Walks f after t turns visits) (fits : f.Fits) :
    ∀ v ∈ visits, ∃ page, v.outcome = .ok page := by
  induction walks with
  | stop => simp
  | refused unfit => exact absurd fits unfit
  | last => simp
  | page rows size rest ih =>
    intro v hv
    rcases List.mem_cons.1 hv with rfl | later
    · exact ⟨_, rfl⟩
    · exact ih v later

/-- Each user on a page is one that the page's table shows. -/
theorem shows (walks : Walks f after t turns visits) :
    ∀ v ∈ visits, ∀ u ∈ v.users, v.Shows f u.id := by
  induction walks with
  | stop => simp
  | refused => simp [Visit.users]
  | last => simp [Visit.users]
  | @page after t turn turns visits first later last rows size rest ih =>
    intro v hv u hu
    rcases List.mem_cons.1 hv with rfl | inRest
    · obtain ⟨inTable, admitted, -⟩ := (Filter.mem_of_rows rows).1 (mem_of_mem_page hu)
      exact ⟨t, u, rfl, inTable, admitted, rfl⟩
    · exact ih v inRest u hu

/-- Every user comes after the cursor. -/
theorem after_cursor (walks : Walks f after t turns visits) :
    ∀ u ∈ usersOf visits, ∀ c ∈ after, c.Before (User.cursor u) := by
  induction walks with
  | stop => simp [usersOf]
  | refused => simp [usersOf, Visit.users]
  | last => simp [usersOf, Visit.users]
  | @page after t turn turns visits first later last rows size rest ih =>
    intro u hu c hc
    rw [usersOf_cons, List.mem_append] at hu
    rcases hu with onPage | inRest
    · exact ((Filter.mem_of_rows rows).1 (mem_of_mem_page onPage)).2.2 c hc
    · have lastAfter :=
        ((Filter.mem_of_rows rows).1 (List.mem_append_right first List.mem_cons_self)).2.2 c hc
      exact lastAfter.trans (ih u inRest _ rfl)

/-- A user whose id the table has comes at the place of the row, although the user may be seen after
edits. -/
theorem cursor_eq (walks : Walks f after t turns visits) (h : WellFormed t) :
    ∀ u ∈ usersOf visits, ∀ row ∈ t, row.id = u.id.text → row.cursor = User.cursor u := by
  induction walks with
  | stop => simp [usersOf]
  | refused => simp [usersOf, Visit.users]
  | last => simp [usersOf, Visit.users]
  | @page after t turn turns visits first later last rows size rest ih =>
    intro u hu row hrow same
    rw [usersOf_cons, List.mem_append] at hu
    rcases hu with onPage | inRest
    · have inTable := ((Filter.mem_of_rows rows).1 (mem_of_mem_page onPage)).1
      obtain rfl : row = User.row u none := h.distinctIds.eq_of_id_eq hrow inTable same
      rfl
    · obtain ⟨row', hrow', kept⟩ := Keeps.applyAll turn.edits t row hrow
      have sameLater : row'.id = u.id.text := (congrArg Cursor.id kept).trans same
      exact kept.symm.trans (ih (h.applyAll turn.edits) u inRest row' hrow' sameLater)

/-- The users come in strict order, and no id comes twice. -/
theorem pairwise (walks : Walks f after t turns visits) (h : WellFormed t) :
    (usersOf visits).Pairwise fun u v => (User.cursor u).Before (User.cursor v) ∧ u.id ≠ v.id := by
  induction walks with
  | stop => exact .nil
  | refused => exact .nil
  | last => exact .nil
  | @page after t turn turns visits first later last rows size rest ih =>
    have whole := Walks.page rows size rest
    obtain ⟨onPage, upToLast, -⟩ := Filter.sorted_page h.distinctIds rows
    have differ : ∀ u ∈ first ++ [last], ∀ v ∈ (first ++ [last]) ++ usersOf visits,
        (User.cursor u).Before (User.cursor v) → u.id ≠ v.id := by
      intro u hu v hv before same
      have inTable := ((Filter.mem_of_rows rows).1 (mem_of_mem_page hu)).1
      have sameCursor := whole.cursor_eq h v hv _ inTable (congrArg UserId.text same)
      rw [User.cursor_row] at sameCursor
      rw [sameCursor] at before
      exact before.irrefl
    rw [usersOf_cons]
    refine List.pairwise_append.2 ⟨?_, ih (h.applyAll turn.edits), ?_⟩
    · refine onPage.imp_of_mem fun {u v} hu hv before => ⟨before, ?_⟩
      exact differ u hu v (List.mem_append_left _ hv) before
    · intro u hu v hv
      have behindLast := rest.after_cursor v hv _ rfl
      have before : (User.cursor u).Before (User.cursor v) := by
        rcases List.mem_append.1 hu with inFirst | isLast
        · exact (upToLast u inFirst).trans behindLast
        · rw [List.mem_singleton.1 isLast]
          exact behindLast
      exact ⟨before, differ u hu v (List.mem_append_right _ hv) before⟩

/-- A walk that ends with an empty page has come by every id after the cursor that all its pages'
tables show. -/
theorem complete (walks : Walks f after t turns visits) (h : WellFormed t)
    (ended : visits.getLast?.map (·.outcome) = some (.ok ⟨[], none⟩)) {x : UserId}
    (shown : ∀ v ∈ visits, v.Shows f x)
    (behind : ∀ row ∈ t, row.id = x.text → ∀ c ∈ after, c.Before row.cursor) :
    ∃ u ∈ usersOf visits, u.id = x := by
  induction walks with
  | stop => simp at ended
  | refused => simp at ended
  | @last after t turn turns exhausted =>
    obtain ⟨_, u, ⟨⟩, inTable, admitted, rfl⟩ := shown _ List.mem_cons_self
    have listed : u ∈ [] := (Filter.mem_of_rows exhausted).2
      ⟨inTable, admitted, behind _ inTable rfl⟩
    cases listed
  | @page after t turn turns visits first later last rows size rest ih =>
    obtain ⟨_, u, ⟨⟩, inTable, admitted, rfl⟩ := shown _ List.mem_cons_self
    have listed := (Filter.mem_of_rows rows).2 ⟨inTable, admitted, behind _ inTable rfl⟩
    rw [List.append_cons, List.mem_append] at listed
    rcases listed with onPage | isLater
    · exact ⟨u, List.mem_append_left _ onPage, rfl⟩
    -- The user is behind this page, and so is whatever row the edits leave of the id.
    · obtain ⟨-, -, behindLast⟩ := Filter.sorted_page h.distinctIds rows
      have behindLater : ∀ row ∈ applyAll turn.edits t, row.id = u.id.text →
          ∀ c ∈ some (User.cursor last), c.Before row.cursor := by
        rintro row hrow same c ⟨⟩
        have distinct := (h.applyAll turn.edits).distinctIds
        rw [(Keeps.applyAll turn.edits t).cursor_eq distinct inTable hrow same]
        exact behindLast u isLater
      have endedLater : visits.getLast?.map (·.outcome) = some (.ok ⟨[], none⟩) := by
        cases visits with
        | nil => simp at ended
        | cons v visits => simpa using ended
      have shownLater : ∀ v ∈ visits, v.Shows f u.id :=
        fun v hv => shown v (List.mem_cons_of_mem _ hv)
      obtain ⟨v, hv, same⟩ := ih (h.applyAll turn.edits) endedLater shownLater behindLater
      exact ⟨v, List.mem_append_right _ hv, same⟩

end Walks

/-! ## Walks from the first page on -/

/-- A walk during edits, from the first page on and from a table that edits have made. It lists what
it is shown, in strict order and no id twice; and if it comes to an empty page, it has listed once
each id that it was shown on all its pages. -/
theorem walk_during_edits {s : Session} {t : Table} (serves : s.Serves t)
    (reachable : Reachable t) (f : Filter) {turns : List Turn}
    (sound : ∀ turn ∈ turns, turn.ask.Sound) :
    (f.Fits → ∀ v ∈ walk f none turns s, ∃ page, v.outcome = .ok page) ∧
    (∀ v ∈ walk f none turns s, ∀ u ∈ v.users, v.Shows f u.id) ∧
    ((usersOf (walk f none turns s)).Pairwise fun u v => (User.cursor u).Before (User.cursor v)) ∧
    ((usersOf (walk f none turns s)).map (·.id)).Nodup ∧
    ((walk f none turns s).getLast?.map (·.outcome) = some (.ok ⟨[], none⟩) →
      ∀ x : UserId, (∀ v ∈ walk f none turns s, v.Shows f x) →
        ((usersOf (walk f none turns s)).map (·.id)).count x = 1) := by
  have wellFormed := reachable.wellFormed
  have walks : Walks f none t turns (walk f none turns s) := walks_walk serves wellFormed rfl sound
  have pairwise := walks.pairwise wellFormed
  have nodup : ((usersOf (walk f none turns s)).map (·.id)).Nodup :=
    List.pairwise_map.2 (pairwise.imp fun both => both.2)
  refine ⟨walks.outcome, walks.shows, pairwise.imp fun both => both.1, nodup, ?_⟩
  intro ended x shown
  obtain ⟨u, hu, same⟩ := walks.complete wellFormed ended shown (by simp)
  exact List.count_eq_one_of_mem nodup (List.mem_map.2 ⟨u, hu, same⟩)

/-- Behind the first page its user is erased and comes back under another name, a user who is passed
takes a name that the filter admits, and one is created behind them, all at one reading of the
clock. -/
theorem walk_during_edits_tied :
    let ada : UserId := ⟨.oidc, "ada", by decide⟩
    let eve : UserId := ⟨.oidc, "eve", by decide⟩
    let ned : UserId := ⟨.oidc, "ned", by decide⟩
    let now : Instant := ⟨0, by decide, by decide⟩
    let named (id : UserId) (name : String) : Edit :=
      .write ⟨id, some name, none, .human, .createEndpoint⟩ now
    let before : List Edit := [named eve "Eve Lace", named ada "Ada"]
    let between : List Edit :=
      [named ada "Ada Lace", .erase eve now, named eve "Lace, Eve", named ned "Lace"]
    let one : Ask := ⟨{}, some 1⟩
    let f : Filter := ⟨some [ned, eve, ada], some "lace"⟩
    let visits := walk f none [⟨one, between⟩, ⟨one, []⟩, ⟨one, []⟩, ⟨one, []⟩] (runAll before {})
    visits.length = 3 ∧ visits.getLast?.map (·.outcome) = some (.ok ⟨[], none⟩) ∧
      (∀ v ∈ visits, v.Shows f eve) ∧
      ((usersOf visits).map (·.id)).Nodup ∧ ((usersOf visits).map (·.id)).count eve = 1 := by
  intro ada eve ned now named before between one f visits
  have serves : (runAll before {}).Serves (applyAll before []) :=
    serves_runAll ⟨rfl, rfl, rfl⟩ .nil before
  have reachable : Reachable (applyAll before []) := ⟨{}, before, ⟨rfl, rfl, rfl⟩, serves.view⟩
  have sound : ∀ turn ∈ [Turn.mk one between, ⟨one, []⟩, ⟨one, []⟩, ⟨one, []⟩], turn.ask.Sound := by
    have pageSize : one.Sound := ⟨by decide, by decide⟩
    simp [pageSize]
  obtain ⟨-, -, -, nodup, complete⟩ := walk_during_edits serves reachable f sound
  have ended : visits.getLast?.map (·.outcome) = some (.ok ⟨[], none⟩) := by decide +kernel
  have tables : ∀ v ∈ visits, v.contents = some (applyAll before []) ∨
      v.contents = some (applyAll between (applyAll before [])) := by decide +kernel
  have shown : ∀ v ∈ visits, v.Shows f eve := by
    intro v hv
    rcases tables v hv with first | later
    · exact ⟨_, ⟨eve, "Eve Lace", none, .human, .createEndpoint, now, none⟩,
        first, by decide +kernel, ⟨by decide +kernel, by decide +kernel⟩, rfl⟩
    · exact ⟨_, ⟨eve, "Lace, Eve", none, .human, .createEndpoint, now, some now⟩,
        later, by decide +kernel, ⟨by decide +kernel, by decide +kernel⟩, rfl⟩
  exact ⟨by decide +kernel, ended, shown, nodup, complete ended eve shown⟩

end UserDirectory.Directory
