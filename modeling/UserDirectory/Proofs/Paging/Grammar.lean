import Mathlib.Data.List.TakeWhile
import UserDirectory.Proofs.Paging.Token

/-!
# The grammar of tokens

A token opens to a text if it is ASCII and its base64 stands for the UTF-8 of the text. It is read
if this text is the version, a numeral of microseconds within the years 1 to 9999 and an id that is
not empty, with ampersands between them. Every other text has a fault, which is that of the first
stage that fails.
-/
namespace UserDirectory.Paging.Cursor

open Text Number Time

/-- The token is ASCII, and when padded its base64 gives the bytes of the text. -/
def Opens (token : String) (s : List Char) : Prop :=
  (∀ c ∈ token.toList, isAscii c = true) ∧ Base64.decode? (pad token.toList) = some (Utf8.encode s)

theorem unwrap?_eq_some_iff {token : String} {s : List Char} :
    unwrap? token.toList = some s ↔ Opens token s := by
  rw [unwrap?, Opens, ← List.all_eq_true]
  by_cases ascii : token.toList.all isAscii = true
  · rw [if_pos ascii, Option.bind_eq_some_iff]
    simp only [Utf8.decode?_eq_some_iff, ascii, true_and, exists_eq_right]
  · simp [ascii]

theorem unwrap?_eq_none_iff {token : String} :
    unwrap? token.toList = none ↔ ¬ ∃ s, Opens token s := by
  simp only [← unwrap?_eq_some_iff, ← Option.isSome_iff_exists, Option.not_isSome_iff_eq_none]

/-- The text of a version, a time and an id. -/
def joined (time id : List Char) : List Char := '1' :: '&' :: time ++ '&' :: id

/-- The numeral is that of an instant, from the first microsecond of year 1 to the last one of year
9999. -/
def IsTime (time : List Char) : Prop :=
  ∃ n : Int, Numeral time n ∧ (Civil.mk ⟨1, 1, 1⟩ 0 0 0 0).micros ≤ n ∧
    n ≤ (Civil.mk ⟨9999, 12, 31⟩ 23 59 59 999999).micros

/-- What is wrong with a token, by the first stage that fails. -/
inductive Fault (token : String) : CursorError → Prop
  | empty (nothing : token = "") : Fault token .empty
  | notBase64 (some : token ≠ "") (closed : ¬ ∃ s, Opens token s) : Fault token .notBase64
  | version {s : List Char} (some : token ≠ "") (opens : Opens token s)
      (other : s.takeWhile (· ≠ '&') ≠ ['1']) :
      Fault token (.unsupportedVersion (String.ofList (s.takeWhile (· ≠ '&'))))
  | malformed {s : List Char} (opens : Opens token s) (version : s.takeWhile (· ≠ '&') = ['1'])
      (lacks : ¬ ∃ time id, '&' ∉ time ∧ id ≠ [] ∧ s = joined time id) : Fault token .malformed
  | time {time id : List Char} (opens : Opens token (joined time id)) (free : '&' ∉ time)
      (named : id ≠ [])
      (timeless : ¬ IsTime time) : Fault token .invalidTimestamp

/-! ## Times -/

theorem readInstant?_eq_some_iff {time : List Char} {t : Instant} :
    readInstant? time = some t ↔ Numeral time t.micros := by
  rw [numeral_iff]
  cases read : readPlain? time with
  | none => simp [readInstant?, read]
  | some parts =>
    obtain ⟨negative, values⟩ := parts
    simp only [readInstant?, read]
    by_cases few : values.length ≤ maxDigits
    · rw [if_neg (Nat.not_lt.2 few), Instant.ofMicros?_eq_some_iff]
      constructor
      · intro same
        exact ⟨negative, values, rfl, few, same.symm⟩
      · rintro ⟨_, _, ⟨⟩, -, same⟩
        exact same.symm
    · rw [if_pos (Nat.not_le.1 few)]
      constructor
      · intro same
        cases same
      · rintro ⟨_, _, ⟨⟩, few', -⟩
        exact absurd few' few

theorem isTime_iff {time : List Char} : IsTime time ↔ ∃ t : Instant, Numeral time t.micros := by
  rw [IsTime, micros_first, micros_last]
  constructor
  · rintro ⟨n, numeral, first, last⟩
    exact ⟨⟨n, first, last⟩, numeral⟩
  · rintro ⟨t, numeral⟩
    exact ⟨t.micros, numeral, t.first_le, t.le_last⟩

theorem readInstant?_eq_none_iff {time : List Char} : readInstant? time = none ↔ ¬ IsTime time := by
  simp only [isTime_iff, ← readInstant?_eq_some_iff, ← Option.isSome_iff_exists,
    Option.not_isSome_iff_eq_none]

theorem ampersand_not_mem_numeral {time : List Char} {n : Int} (h : Numeral time n) :
    '&' ∉ time := by
  intro mark
  rcases h.isDigit_or_eq_minus '&' mark with digit | minus
  · revert digit
    decide
  · revert minus
    decide

/-! ## Stages -/

variable {token : String} {s time id : List Char}

/-- A text is parted at the first mark. -/
theorem takeWhile_eq_getD_cut? (mark : Char) (s : List Char) :
    s.takeWhile (· ≠ mark) = ((cut? mark s).getD (s, [])).1 := by
  have all : ∀ {a : List Char}, mark ∉ a → ∀ c ∈ a, decide (c ≠ mark) = true := by
    intro a free c hc
    exact decide_eq_true fun same => free (same ▸ hc)
  cases found : cut? mark s with
  | none =>
    exact List.takeWhile_eq_self_iff.2 (all (cut?_eq_none_iff.1 found))
  | some parts =>
    obtain ⟨rfl, free⟩ := cut?_eq_some_iff.1 found
    rw [List.takeWhile_append_of_pos (all free)]
    simp

theorem ofToken_of_opens (some : token ≠ "") (opens : Opens token s) :
    ofToken token = if s.takeWhile (· ≠ '&') = ['1'] then ofFields ((cut? '&' s).getD (s, [])).2
      else .error (.unsupportedVersion (String.ofList (s.takeWhile (· ≠ '&')))) := by
  rw [ofToken, if_neg some, unwrap?_eq_some_iff.2 opens, takeWhile_eq_getD_cut?]
  rfl

/-- A text with the version has nothing behind it, or an ampersand and the rest. -/
theorem getD_cut?_of_version (version : s.takeWhile (· ≠ '&') = ['1']) :
    (s = ['1'] ∧ ((cut? '&' s).getD (s, [])).2 = []) ∨
      s = '1' :: '&' :: ((cut? '&' s).getD (s, [])).2 := by
  rw [takeWhile_eq_getD_cut?] at version
  cases found : cut? '&' s with
  | none =>
    rw [found] at version
    exact .inl ⟨version, rfl⟩
  | some parts =>
    rw [found] at version
    obtain ⟨a, b⟩ := parts
    obtain rfl : a = ['1'] := version
    exact .inr (cut?_eq_some_iff.1 found).1

theorem takeWhile_joined (time id : List Char) : (joined time id).takeWhile (· ≠ '&') = ['1'] := rfl

theorem cut?_time (free : '&' ∉ time) : cut? '&' (time ++ '&' :: id) = some (time, id) :=
  cut?_eq_some_iff.2 ⟨rfl, free⟩

theorem ne_empty_of_opens (opens : Opens token s) (nonempty : s ≠ []) : token ≠ "" := by
  rintro rfl
  have nothing : unwrap? "".toList = some [] := rfl
  rw [unwrap?_eq_some_iff.2 opens] at nothing
  exact nonempty (Option.some.inj nothing)

theorem ofToken_of_joined (opens : Opens token (joined time id)) (free : '&' ∉ time)
    (named : id ≠ []) :
    ofToken token = match readInstant? time with
      | none => .error .invalidTimestamp
      | some t => .ok ⟨t, String.ofList id⟩ := by
  have parts : cut? '&' (joined time id) = some (['1'], time ++ '&' :: id) :=
    cut?_eq_some_iff.2 ⟨rfl, by decide⟩
  rw [ofToken_of_opens (ne_empty_of_opens opens (by simp [joined])) opens,
    if_pos (takeWhile_joined time id), parts]
  rw [Option.getD_some, ofFields, cut?_time free]
  cases read : readInstant? time with
  | none => simp [named, read]
  | some t => simp [named, read]

theorem ofToken_of_lacks (opens : Opens token s) (version : s.takeWhile (· ≠ '&') = ['1'])
    (lacks : ¬ ∃ time id, '&' ∉ time ∧ id ≠ [] ∧ s = joined time id) :
    ofToken token = .error .malformed := by
  have nonempty : s ≠ [] := by
    rintro rfl
    cases version
  rw [ofToken_of_opens (ne_empty_of_opens opens nonempty) opens, if_pos version]
  rcases getD_cut?_of_version version with ⟨-, nothing⟩ | whole
  · rw [nothing]
    rfl
  · generalize ((cut? '&' s).getD (s, [])).2 = rest at whole
    subst whole
    cases found : cut? '&' rest with
    | none => simp only [ofFields, found]
    | some parts =>
      obtain ⟨time, id⟩ := parts
      obtain ⟨rfl, free⟩ := cut?_eq_some_iff.1 found
      by_cases named : id = []
      · simp only [ofFields, found, if_pos named]
      · exact absurd ⟨time, id, free, named, rfl⟩ lacks

theorem ofToken_of_fault {e : CursorError} (fault : Fault token e) : ofToken token = .error e := by
  cases fault with
  | empty nothing => rw [ofToken, if_pos nothing]
  | notBase64 some closed => rw [ofToken, if_neg some, unwrap?_eq_none_iff.2 closed]
  | version some opens other => rw [ofToken_of_opens some opens, if_neg other]
  | malformed opens version lacks => exact ofToken_of_lacks opens version lacks
  | time opens free named timeless =>
    rw [ofToken_of_joined opens free named, readInstant?_eq_none_iff.2 timeless]

theorem ofToken_of_numeral {c : Cursor} (opens : Opens token (joined time id))
    (numeral : Numeral time c.createdAt.micros) (named : id ≠ []) (same : c.id = String.ofList id) :
    ofToken token = .ok c := by
  rw [ofToken_of_joined opens (ampersand_not_mem_numeral numeral) named,
    readInstant?_eq_some_iff.2 numeral, ← same]

/-- A token fails at some stage, or it opens to a time and an id. -/
theorem fault_or_opens (token : String) :
    (∃ e, Fault token e) ∨
      ∃ (time id : List Char) (t : Instant), Opens token (joined time id) ∧
        Numeral time t.micros ∧ id ≠ [] := by
  by_cases some : token = ""
  · exact .inl ⟨_, .empty some⟩
  by_cases opens : ∃ s, Opens token s
  · obtain ⟨s, opens⟩ := opens
    by_cases version : s.takeWhile (· ≠ '&') = ['1']
    · by_cases complete : ∃ time id, '&' ∉ time ∧ id ≠ [] ∧ s = joined time id
      · obtain ⟨time, id, free, named, rfl⟩ := complete
        by_cases timed : IsTime time
        · obtain ⟨t, numeral⟩ := isTime_iff.1 timed
          exact .inr ⟨time, id, t, opens, numeral, named⟩
        · exact .inl ⟨_, .time opens free named timed⟩
      · exact .inl ⟨_, .malformed opens version complete⟩
    · exact .inl ⟨_, .version some opens version⟩
  · exact .inl ⟨_, .notBase64 some opens⟩

theorem ofToken_eq_error_iff {e : CursorError} : ofToken token = .error e ↔ Fault token e := by
  constructor
  · intro failed
    rcases fault_or_opens token with ⟨e', fault⟩ | ⟨time, id, t, opens, numeral, named⟩
    · rw [ofToken_of_fault fault] at failed
      cases failed
      exact fault
    · rw [ofToken_of_numeral (c := ⟨t, String.ofList id⟩) opens numeral named rfl] at failed
      cases failed
  · exact ofToken_of_fault

theorem ofToken_eq_ok_iff {c : Cursor} :
    ofToken token = .ok c ↔ ∃ time id, Opens token (joined time id) ∧
      Numeral time c.createdAt.micros ∧ id ≠ [] ∧
      c.id = String.ofList id := by
  constructor
  · intro read
    rcases fault_or_opens token with ⟨e', fault⟩ | ⟨time, id, t, opens, numeral, named⟩
    · rw [ofToken_of_fault fault] at read
      cases read
    · rw [ofToken_of_numeral (c := ⟨t, String.ofList id⟩) opens numeral named rfl] at read
      cases read
      exact ⟨time, id, opens, numeral, named, rfl⟩
  · rintro ⟨time, id, opens, numeral, named, same⟩
    exact ofToken_of_numeral opens numeral named same

/-! ## What a token stands for -/

/-- A token opens to one text. -/
theorem Opens.unique {s' : List Char} (opens : Opens token s) (opens' : Opens token s') :
    s = s' := by
  rw [← unwrap?_eq_some_iff] at opens opens'
  rw [opens] at opens'
  exact Option.some.inj opens'

/-- The time ends before the second ampersand, and all behind it is the id. -/
theorem joined_inj {time' id' : List Char} (free : '&' ∉ time) (free' : '&' ∉ time')
    (same : joined time id = joined time' id') : time = time' ∧ id = id' := by
  have rest : time ++ '&' :: id = time' ++ '&' :: id' := (List.cons.inj (List.cons.inj same).2).2
  have parts : cut? '&' (time ++ '&' :: id) = some (time, id) := cut?_time free
  rw [rest, cut?_time free'] at parts
  obtain ⟨times, ids⟩ := Prod.mk.inj (Option.some.inj parts)
  exact ⟨times.symm, ids.symm⟩

/-- Which tokens are read, and as what. A token is read if it is not empty and opens to the version,
the numeral of an instant and an id that is not empty, with ampersands between them. There is one
such time and one such id, and the cursor is of these. A token that is not read has the fault of the
first stage that fails, and no other. -/
theorem tokens_follow_grammar :
    (∀ token : String, (∃ c, ofToken token = .ok c) ↔
      token ≠ "" ∧ ∃ time id, Opens token (joined time id) ∧ IsTime time ∧ id ≠ []) ∧
    (∀ (token : String) (c : Cursor), ofToken token = .ok c ↔
      ∃ time id, Opens token (joined time id) ∧ Numeral time c.createdAt.micros ∧ id ≠ [] ∧
        c.id = String.ofList id) ∧
    (∀ (token : String) (time id time' id' : List Char), IsTime time → IsTime time' →
      Opens token (joined time id) → Opens token (joined time' id') → time = time' ∧ id = id') ∧
    ∀ (token : String) (e : CursorError), ofToken token = .error e ↔ Fault token e := by
  refine ⟨?_, fun _ _ => ofToken_eq_ok_iff, ?_, fun _ _ => ofToken_eq_error_iff⟩
  · intro token
    constructor
    · rintro ⟨c, read⟩
      obtain ⟨time, id, opens, numeral, named, -⟩ := ofToken_eq_ok_iff.1 read
      exact ⟨ne_empty_of_opens opens (by simp [joined]), time, id, opens,
        isTime_iff.2 ⟨c.createdAt, numeral⟩, named⟩
    · rintro ⟨-, time, id, opens, timed, named⟩
      obtain ⟨t, numeral⟩ := isTime_iff.1 timed
      exact ⟨⟨t, String.ofList id⟩, ofToken_of_numeral opens numeral named rfl⟩
  · intro token time id time' id' timed timed' opens opens'
    obtain ⟨n, numeral, -⟩ := timed
    obtain ⟨n', numeral', -⟩ := timed'
    exact joined_inj (ampersand_not_mem_numeral numeral) (ampersand_not_mem_numeral numeral')
      (opens.unique opens')

/-- A negative time with zeros in front and an id that holds ampersands, under more padding than is
needed; and a token of another version, behind which nothing counts. -/
theorem tokens_follow_grammar_ampersands :
    let time := ['-', '0', '0', '7']
    IsTime time ∧ Opens "MSYtMDA3JmEmJmI=====" (joined time ['a', '&', '&', 'b']) ∧
    (∀ time' id', IsTime time' → Opens "MSYtMDA3JmEmJmI=====" (joined time' id') →
      time' = time ∧ id' = ['a', '&', '&', 'b']) ∧
    ofToken "MSYtMDA3JmEmJmI=====" = .ok ⟨⟨-7, by decide, by decide⟩, "a&&b"⟩ ∧
    ofToken "MiYwJng" = .error (.unsupportedVersion "2") := by
  intro time
  obtain ⟨-, reads, unique, faults⟩ := tokens_follow_grammar
  have numeral : Numeral time (-7) :=
    .minus (by decide) (List.all_eq_true.1 (by decide)) (by decide)
  have timed : IsTime time := ⟨-7, numeral, by decide, by decide⟩
  have opens : Opens "MSYtMDA3JmEmJmI=====" (joined time ['a', '&', '&', 'b']) :=
    ⟨List.all_eq_true.1 (by decide), by decide⟩
  have other : Opens "MiYwJng" ['2', '&', '0', '&', 'x'] :=
    ⟨List.all_eq_true.1 (by decide), by decide⟩
  refine ⟨timed, opens, fun time' id' timed' opens' => ?_, ?_, ?_⟩
  · exact unique _ _ _ _ _ timed' timed opens' opens
  · exact (reads _ _).2 ⟨time, _, opens, numeral, by decide, rfl⟩
  · exact (faults _ _).2 (.version (by decide) other (by decide))

end UserDirectory.Paging.Cursor
