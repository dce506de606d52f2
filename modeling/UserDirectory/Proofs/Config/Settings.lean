import UserDirectory.Config.Settings

/-!
# Accepted settings

What settings come of some sources, and from which sources none do: the rule apart from the order in
which the checks are made and from the issues that they find.
-/
namespace UserDirectory.Config

open Input

/-! ## Checks that pass -/

theorem asUrl_eq_ok {name : String} {v : Value} {s : String} :
    asUrl name v = .ok s ↔ asText v = .ok s ∧ s ≠ "" := by
  unfold asUrl
  cases asText v with
  | error found => simp [Except.bind]
  | ok text =>
    simp only [Except.bind, refuse]
    split <;> grind

theorem asPageSize_eq_ok {name : String} {v : Value} {n : Int} :
    asPageSize name v = .ok n ↔ asInt v = .ok n ∧ 0 < n := by
  unfold asPageSize
  cases asInt v with
  | error found => simp [Except.bind]
  | ok m =>
    simp only [Except.bind, refuse]
    split <;> grind

/-! ## Settings that are accepted -/

/-- The value that the sources give a setting, or its default. -/
def Sources.given (sources : Sources) (name : String) (default : Value) : Value :=
  (sources.lookup name).getD default

/-- Each setting is what its value is read as, the address of the store is not empty, and the page
sizes are positive and in order. -/
structure Accepted (sources : Sources) (st : Settings) : Prop where
  debug : asBool (sources.given "DEBUG" (.bool false)) = .ok st.debug
  logLevel : ∃ s, asText (sources.given "LOG_LEVEL" (.text "INFO")) = .ok s ∧
    canonicalLevel s = st.logLevel
  databaseUrl : asText (sources.given "DATABASE_URL" (.text "")) = .ok st.databaseUrl
  databaseUrl_ne : st.databaseUrl ≠ ""
  databaseSsl : asBool (sources.given "DATABASE_SSL" (.bool true)) = .ok st.databaseSsl
  defaultPageSize : asInt (sources.given "PAGINATION_SIZE_DEFAULT" (.int 100)) =
    .ok st.defaultPageSize
  defaultPageSize_pos : 0 < st.defaultPageSize
  maxPageSize : asInt (sources.given "PAGINATION_SIZE_MAX" (.int 1000)) = .ok st.maxPageSize
  maxPageSize_pos : 0 < st.maxPageSize
  ordered : st.defaultPageSize ≤ st.maxPageSize

theorem setting_eq_ok {α : Type} {sources : Sources} {name : String} {default : Value}
    {check : Value → Checked α} {a : α} :
    setting sources name default check = .ok a ↔ check (sources.given name default) = .ok a :=
  inside_eq_ok

theorem ordered_eq_ok {st st' : Settings} :
    st.ordered = .ok st' ↔ st = st' ∧ st.defaultPageSize ≤ st.maxPageSize := by
  unfold Settings.ordered refuse
  split <;> grind

theorem level_eq_ok {v : Value} {level : String} :
    (asText v).map canonicalLevel = .ok level ↔ ∃ s, asText v = .ok s ∧
      canonicalLevel s = level := by
  cases asText v <;> simp [Except.map]

/-- Settings are loaded if they are accepted, and no others are. -/
theorem load_eq_ok_iff {sources : Sources} {st : Settings} :
    Settings.load sources = .ok st ↔ Accepted sources st := by
  constructor
  · intro loaded
    simp only [Settings.load] at loaded
    split at loaded
    · rename_i debug level url ssl default max debugRead levelRead urlRead sslRead
        defaultRead maxRead
      obtain ⟨rfl, ordered⟩ := ordered_eq_ok.1 loaded
      rw [setting_eq_ok] at debugRead levelRead urlRead sslRead defaultRead maxRead
      obtain ⟨urlText, urlGiven⟩ := asUrl_eq_ok.1 urlRead
      obtain ⟨defaultInt, defaultPos⟩ := asPageSize_eq_ok.1 defaultRead
      obtain ⟨maxInt, maxPos⟩ := asPageSize_eq_ok.1 maxRead
      exact ⟨debugRead, level_eq_ok.1 levelRead, urlText, urlGiven, sslRead, defaultInt, defaultPos,
        maxInt, maxPos, ordered⟩
    · cases loaded
  · intro accepted
    have debug := setting_eq_ok.2 accepted.debug
    have level : setting sources "LOG_LEVEL" (.text "INFO")
      (fun v => (asText v).map canonicalLevel) =
        .ok st.logLevel :=
      setting_eq_ok.2 (level_eq_ok.2 accepted.logLevel)
    have url : setting sources "DATABASE_URL" (.text "") (asUrl "DATABASE_URL") =
        .ok st.databaseUrl :=
      setting_eq_ok.2 (asUrl_eq_ok.2 ⟨accepted.databaseUrl, accepted.databaseUrl_ne⟩)
    have ssl := setting_eq_ok.2 accepted.databaseSsl
    have default : setting sources "PAGINATION_SIZE_DEFAULT" (.int 100)
      (asPageSize "PAGINATION_SIZE_DEFAULT") =
        .ok st.defaultPageSize :=
      setting_eq_ok.2 (asPageSize_eq_ok.2 ⟨accepted.defaultPageSize, accepted.defaultPageSize_pos⟩)
    have max : setting sources "PAGINATION_SIZE_MAX" (.int 1000)
      (asPageSize "PAGINATION_SIZE_MAX") =
        .ok st.maxPageSize :=
      setting_eq_ok.2 (asPageSize_eq_ok.2 ⟨accepted.maxPageSize, accepted.maxPageSize_pos⟩)
    simp only [Settings.load, debug, level, url, ssl, default, max]
    exact ordered_eq_ok.2 ⟨rfl, accepted.ordered⟩

end UserDirectory.Config
