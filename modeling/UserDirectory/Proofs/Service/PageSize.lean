import UserDirectory.Proofs.Config.Settings
import UserDirectory.Proofs.Directory.Listed
import UserDirectory.Proofs.Service.Call

/-!
# Page sizes of a configured service

Settings that are accepted give the service a default page size and a largest one, positive and in
order. Every size that is asked for, or none, then comes to a size between 1 and the largest, and no
page holds more users.
-/
namespace UserDirectory

open Config Store Paging Directory

/-! ## Sizes -/

namespace Paging.Policy

variable {p : Policy}

theorem pageSize_none (ordered : p.defaultSize ≤ p.maxSize) : p.pageSize none = p.defaultSize := by
  simp only [pageSize]
  omega

theorem pageSize_pos (pos : 0 < p.defaultSize) (ordered : p.defaultSize ≤ p.maxSize)
    (n : Option Int) :
    1 ≤ p.pageSize n := by
  cases n with
  | none =>
    rw [pageSize_none ordered]
    omega
  | some n => exact p.pageSize_some_pos n

theorem pageSize_eq_self {n : Int} (pos : 1 ≤ n) (le : n ≤ p.maxSize) :
    p.pageSize (some n) = n := by
  simp only [pageSize]
  omega

theorem pageSize_mono {m n : Int} (le : m ≤ n) : p.pageSize (some m) ≤ p.pageSize (some n) := by
  simp only [pageSize]
  omega

end Paging.Policy

/-! ## Pages -/

namespace Service

/-- A page of the service is one of the directory, from a session without an open transaction. -/
theorem list_eq_ok {service : Service} {q : Input.ListRequest} {s : Session} {p : Page}
    (h : (service.list q s).outcome = .ok p) :
    s.inTransaction = false ∧
      (Directory.list service.policy q.asQuery s.opened).outcome = .ok p := by
  cases inside : s.inTransaction with
  | true =>
    have refused : (reading (Directory.list service.policy q.asQuery) s).outcome =
        .error .transactionOpen := by
      rw [reading, if_pos inside]
      rfl
    obtain ⟨_, -, rest⟩ := Action.bind_eq_ok h
    obtain ⟨_, answered, -⟩ := Action.bind_eq_ok rest
    cases refused.symm.trans answered
  | false =>
    have outcome := (list_of_closed service q inside).2
    rw [h] at outcome
    cases ended : (Directory.list service.policy q.asQuery s.opened).outcome with
    | error e =>
      rw [ended] at outcome
      cases outcome
    | ok page =>
      rw [ended] at outcome
      cases outcome
      exact ⟨rfl, rfl⟩

/-- Settings are loaded just if they are accepted. They then bound the sizes of all pages of their
service, whatever size is asked for and whatever the session. -/
theorem configured_sizes_bound_pages (sources : Sources) :
    (∀ st, Settings.load sources = .ok st ↔ Accepted sources st) ∧
    ∀ st, Settings.load sources = .ok st →
      let service := ofSettings st
      let size := service.policy.pageSize
      (st.databaseUrl ≠ "" ∧ 0 < st.defaultPageSize ∧ st.defaultPageSize ≤ st.maxPageSize) ∧
      service.policy = ⟨st.defaultPageSize, st.maxPageSize⟩ ∧
      size none = st.defaultPageSize ∧
      (∀ asked, 1 ≤ size asked ∧ size asked ≤ st.maxPageSize) ∧
      (∀ n, 1 ≤ n → n ≤ st.maxPageSize → size (some n) = n) ∧
      (∀ m n, m ≤ n → size (some m) ≤ size (some n)) ∧
      (∀ q s page, (Directory.list service.policy q s).outcome = .ok page →
        page.users.length ≤ size q.pageSize) ∧
      ∀ q s page, (service.list q s).outcome = .ok page → page.users.length ≤ size q.pageSize := by
  refine ⟨fun st => load_eq_ok_iff, fun st loaded => ?_⟩
  intro service size
  have accepted := load_eq_ok_iff.1 loaded
  have pos : ∀ asked, 1 ≤ size asked :=
    Policy.pageSize_pos accepted.defaultPageSize_pos accepted.ordered
  have listed : ∀ q s page, (Directory.list service.policy q s).outcome = .ok page →
      page.users.length ≤ size q.pageSize := by
    intro q s page answered
    have some : 1 ≤ service.policy.pageSize q.pageSize := pos q.pageSize
    exact length_listed answered (by omega)
  refine ⟨⟨accepted.databaseUrl_ne, accepted.defaultPageSize_pos, accepted.ordered⟩, rfl,
    Policy.pageSize_none accepted.ordered, fun asked => ⟨pos asked, Policy.pageSize_le ?_ asked⟩,
    fun n pos le => Policy.pageSize_eq_self pos le, fun m n => Policy.pageSize_mono, listed,
    fun q s page answered => ?_⟩
  · exact accepted.maxPageSize_pos
  · exact listed q.asQuery s.opened page (list_eq_ok answered).2

/-- An address given directly, the largest size as the environment has it and a default size from a
file. -/
theorem configured_sizes_bound_pages_three_sources :
    let sources : Sources := {
      direct := [("DATABASE_URL", .text "sqlite://"), ("database_url", .text "")]
      environment := [("Pagination_Size_Max", " 50 "), ("DEBUG", "off")]
      file := some "PAGINATION_SIZE_DEFAULT=20\nPAGINATION_SIZE_MAX=5\n" }
    let st : Settings := ⟨false, "INFO", "sqlite://", true, 20, 50⟩
    Settings.load sources = .ok st ∧ Settings.load { sources with direct := [] } ≠ .ok st ∧
    (ofSettings st).policy.pageSize none = 20 ∧ (ofSettings st).policy.pageSize (some 50) = 50 ∧
    (ofSettings st).policy.pageSize (some 1000000000000000000000000000000) ≤ 50 ∧
      1 ≤ (ofSettings st).policy.pageSize (some (-7)) ∧
    ∀ s page, ((ofSettings st).list {} s).outcome = .ok page → page.users.length ≤ (20 : Int) := by
  intro sources st
  have loaded : Settings.load sources = .ok st := by decide +kernel
  obtain ⟨-, bounds⟩ := configured_sizes_bound_pages sources
  obtain ⟨-, -, default, within, same, -, -, pages⟩ := bounds st loaded
  refine ⟨loaded, by decide +kernel, default, same 50 (by decide) (by decide), (within _).2,
    (within _).1, ?_⟩
  intro s page answered
  exact pages {} s page answered

end Service

end UserDirectory
