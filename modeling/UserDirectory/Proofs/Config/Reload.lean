import UserDirectory.Proofs.Config.Settings
import UserDirectory.Proofs.Text.Capital

/-!
# Settings loaded again

Settings that are loaded and then given directly, each under its own name, are accepted and come out
as they were. A level of blanks alone is the exception: what takes the place of an empty level is
put there before the blanks are trimmed, so the level comes out empty and is replaced only when it
is given once more.
-/
namespace UserDirectory.Config

open Input Text

/-! ## Levels -/

/-- A text that is not empty and of which nothing is left when it is trimmed. -/
def OnlyBlanks (s : String) : Prop := s ≠ "" ∧ s.toList.all isBlank = true

instance (s : String) : Decidable (OnlyBlanks s) := inferInstanceAs (Decidable (_ ∧ _))

theorem canonicalLevel_empty : canonicalLevel "" = "INFO" := by
  decide +kernel

theorem canonicalLevel_of_ne {s : String} (given : s ≠ "") :
    canonicalLevel s = upper (String.ofList (trim isBlank s.toList)) := by
  rw [canonicalLevel, if_neg given]

theorem canonicalLevel_eq_empty_iff {s : String} : canonicalLevel s = "" ↔ OnlyBlanks s := by
  by_cases given : s = ""
  · subst given
    simp [canonicalLevel_empty, OnlyBlanks]
  · rw [canonicalLevel_of_ne given, upper_eq_empty_iff, String.ofList_eq_empty_iff,
      trim_eq_nil_iff, OnlyBlanks, List.all_eq_true, and_iff_right given]

/-- A level that stands is neither trimmed nor mapped a second time. -/
theorem canonicalLevel_canonicalLevel (s : String) :
    canonicalLevel (canonicalLevel s) = if OnlyBlanks s then "INFO" else canonicalLevel s := by
  split
  · rename_i blank
    rw [canonicalLevel_eq_empty_iff.2 blank, canonicalLevel_empty]
  · rename_i solid
    have stands : canonicalLevel s ≠ "" := fun empty => solid (canonicalLevel_eq_empty_iff.1 empty)
    -- Capitals of a trimmed text begin and end without a blank, so the second trimming finds
    -- nothing.
    have trimmed : Trimmed isBlank (canonicalLevel s).toList := by
      refine Trimmed.toList_upper ?_
      rw [String.toList_ofList]
      exact trimmed_trim isBlank _
    rw [canonicalLevel_of_ne stands, trimmed.trim_eq, String.ofList_toList,
      canonicalLevel, upper_upper]

/-! ## All settings -/

/-- Each setting given directly, under its own name. -/
def Settings.asSources (st : Settings) : Sources where
  direct :=
    [("DEBUG", .bool st.debug), ("LOG_LEVEL", .text st.logLevel),
      ("DATABASE_URL", .text st.databaseUrl), ("DATABASE_SSL", .bool st.databaseSsl),
      ("PAGINATION_SIZE_DEFAULT", .int st.defaultPageSize),
      ("PAGINATION_SIZE_MAX", .int st.maxPageSize)]

/-- Settings that are accepted are accepted again, and only the level is read anew. -/
theorem Accepted.again {sources : Sources} {st : Settings} (accepted : Accepted sources st) :
    Accepted st.asSources { st with logLevel := canonicalLevel st.logLevel } where
  debug := rfl
  logLevel := ⟨st.logLevel, rfl, rfl⟩
  databaseUrl := rfl
  databaseUrl_ne := accepted.databaseUrl_ne
  databaseSsl := rfl
  defaultPageSize := rfl
  defaultPageSize_pos := accepted.defaultPageSize_pos
  maxPageSize := rfl
  maxPageSize_pos := accepted.maxPageSize_pos
  ordered := accepted.ordered

/-- Settings that were loaded load again as they are, and their level is not empty, unless the level
was given as blanks alone: then it is empty, and `INFO` once the settings are loaded again. -/
theorem loaded_settings_load_again {sources : Sources} {st : Settings}
    (loaded : Settings.load sources = .ok st) :
    ∃ level, asText (sources.given "LOG_LEVEL" (.text "INFO")) = .ok level ∧
      st.logLevel = canonicalLevel level ∧
      (¬ OnlyBlanks level →
        st.logLevel ≠ "" ∧ canonicalLevel st.logLevel = st.logLevel ∧
        Settings.load st.asSources = .ok st) ∧
      (OnlyBlanks level →
        st.logLevel = "" ∧ Settings.load st.asSources = .ok { st with logLevel := "INFO" }) := by
  have accepted := load_eq_ok_iff.1 loaded
  obtain ⟨level, given, canonical⟩ := accepted.logLevel
  have again := load_eq_ok_iff.2 accepted.again
  have twice := canonicalLevel_canonicalLevel level
  rw [canonical] at twice
  refine ⟨level, given, canonical.symm, fun solid => ?_, fun blank => ?_⟩
  · rw [if_neg solid] at twice
    refine ⟨fun empty => solid (canonicalLevel_eq_empty_iff.1 (canonical.trans empty)), twice, ?_⟩
    rw [again, twice]
  · rw [if_pos blank] at twice
    refine ⟨canonical.symm.trans (canonicalLevel_eq_empty_iff.2 blank), ?_⟩
    rw [again, twice]

/-- A level between blanks, with a letter whose capital form is two letters. -/
theorem loaded_settings_load_again_sharp_s :
    let sources : Sources := {
      direct := [("debug", .text "On"), ("DATABASE_URL", .text "sqlite://")]
      environment := [("Log_Level", "\u3000gro\u00df\x1f")]
      file := some "PAGINATION_SIZE_DEFAULT=20\n" }
    let st : Settings := ⟨true, "GROSS", "sqlite://", true, 20, 1000⟩
    Settings.load sources = .ok st ∧ canonicalLevel "GROSS" = "GROSS" ∧
      Settings.load st.asSources = .ok st := by
  intro sources st
  have loaded : Settings.load sources = .ok st := by decide +kernel
  obtain ⟨level, given, -, again, -⟩ := loaded_settings_load_again loaded
  obtain rfl : "\u3000gro\u00df\x1f" = level := Except.ok.inj given
  obtain ⟨-, fixed, reloaded⟩ := again (by decide +kernel)
  exact ⟨loaded, fixed, reloaded⟩

/-- A level of blanks alone is accepted as no level at all, which is not what comes of it the second
time. -/
theorem blank_level_loads_empty :
    let sources : Sources :=
      { direct := [("DATABASE_URL", .text "sqlite://"), ("LOG_LEVEL", .text "   ")] }
    let st : Settings := ⟨false, "", "sqlite://", true, 100, 1000⟩
    Settings.load sources = .ok st ∧ Settings.load st.asSources ≠ .ok st := by
  decide +kernel

end UserDirectory.Config
