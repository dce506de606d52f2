import UserDirectory.Connection.Url
import UserDirectory.Proofs.Number.Free
import UserDirectory.Proofs.Text.Percent

/-!
# Database URLs read again

A URL without options is written so that reading its text gives the URL back: no mark that ends a
part stands in the part once it is encoded, and a missing part is kept apart from an empty one. The
host is written as it is, so it must be free of brackets and at signs; a host with a colon gets
brackets of its own.
-/
namespace UserDirectory.Connection.Url

open Text Number

/-! ## Texts up to a break -/

section Breaks

variable {p goesOn : Char → Bool} {mark : Char} {s rest : List Char}

/-- The text is empty or begins with a character outside the class. -/
def BreaksOff (p : Char → Bool) (s : List Char) : Prop := ∀ c ∈ s.head?, p c = false

theorem breaksOff_nil : BreaksOff p [] := fun _ hc => by cases hc

theorem breaksOff_cons (outside : p mark = false) : BreaksOff p (mark :: s) := by
  intro c hc
  rwa [← Option.mem_some_iff.1 hc]

theorem BreaksOff.takeWhile_eq (off : BreaksOff p s) : s.takeWhile p = [] := by
  cases s with
  | nil => rfl
  | cons c s => exact List.takeWhile_cons_of_neg (by simp [off c rfl])

theorem BreaksOff.dropWhile_eq (off : BreaksOff p s) : s.dropWhile p = s := by
  cases s with
  | nil => rfl
  | cons c s => exact List.dropWhile_cons_of_neg (by simp [off c rfl])

theorem takeWhile_append_of_off (inside : ∀ c ∈ s, p c = true) (off : BreaksOff p rest) :
    (s ++ rest).takeWhile p = s := by
  rw [List.takeWhile_append_of_pos inside, off.takeWhile_eq, List.append_nil]

theorem dropWhile_append_of_off (inside : ∀ c ∈ s, p c = true) (off : BreaksOff p rest) :
    (s ++ rest).dropWhile p = rest := by
  rw [List.dropWhile_append_of_pos inside, off.dropWhile_eq]

/-- In a run that goes on behind a mark, the mark is the last one if there is none behind it. -/
theorem cutLast?_takeWhile (inside : ∀ c ∈ s, p c = true) (goesOn : p mark = true)
    (free : mark ∉ rest) :
    cutLast? mark ((s ++ mark :: rest).takeWhile p) = some (s, rest.takeWhile p) := by
  rw [List.takeWhile_append_of_pos inside, List.takeWhile_cons_of_pos goesOn, cutLast?_eq_some_iff]
  exact ⟨rfl, fun h => free ((List.takeWhile_prefix p).subset h)⟩

theorem dropWhile_append_cons (inside : ∀ c ∈ s, p c = true) (goesOn : p mark = true) :
    (s ++ mark :: rest).dropWhile p = rest.dropWhile p := by
  rw [List.dropWhile_append_of_pos inside, List.dropWhile_cons_of_pos goesOn]

theorem splitPart_mark (inside : ∀ c ∈ s, goesOn c = true) (off : BreaksOff goesOn rest) :
    splitPart mark goesOn (mark :: (s ++ rest)) = (some s, rest) := by
  rw [splitPart, if_pos rfl, takeWhile_append_of_off inside off, dropWhile_append_of_off inside off]

theorem splitPart_of_ne (other : ∀ c ∈ s.head?, c ≠ mark) :
    splitPart mark goesOn s = (none, s) := by
  cases s with
  | nil => rfl
  | cons c s => rw [splitPart, if_neg (other c rfl)]

end Breaks

/-! ## Encoded characters -/

/-- What an encoded user name or password is made of. -/
def isEncoded (c : Char) : Bool := Percent.isUnreserved c || c == ' ' || c == '+' || c == '%'

theorem ne_of_isEncoded {c mark : Char} (encoded : isEncoded c = true)
    (foreign : isEncoded mark = false) : c ≠ mark := by
  rintro rfl
  rw [encoded] at foreign
  cases foreign

theorem isEncoded_of_mem_intText {n : Int} {c : Char} (h : c ∈ intText n) : isEncoded c = true := by
  rcases isDigit_or_eq_minus_of_mem_intText h with digit | rfl
  · simp [isEncoded, Percent.isUnreserved, Char.isAlphanum, digit]
  · decide

theorem isEncoded_of_mem_encodeCredential {s : String} {c : Char} (h : c ∈ encodeCredential s) :
    isEncoded c = true := by
  rcases Percent.mem_encode h with safe | rfl | letter
  · simp only [isEncoded, safe, Bool.true_or]
  · decide
  · simp [isEncoded, Percent.isUnreserved, letter]

theorem isEncoded_of_mem_encodeDatabase {s : String} {c : Char} (h : c ∈ encodeDatabase s) :
    isEncoded c = true ∨ c = '/' := by
  rcases Percent.mem_encode h with safe | rfl | letter
  · rw [Bool.or_eq_true, beq_iff_eq] at safe
    exact safe.imp_left fun unslashed => by simp only [isEncoded, unslashed, Bool.true_or]
  · exact .inl (by decide)
  · exact .inl (by simp [isEncoded, Percent.isUnreserved, letter])

/-! ## Texts of the parts -/

def portText : Option Int → List Char
  | none => []
  | some n => ':' :: intText n

def databaseText : Option String → List Char
  | none => []
  | some d => '/' :: encodeDatabase d

theorem toList_render (u : Url) (masked : Bool) :
    (u.render masked).toList = u.driverName.toList ++ ':' :: '/' :: '/' ::
    (u.credentialsText masked ++
      (hostText u.host ++
        (portText u.port ++ (databaseText u.database ++ queryText u.query)))) := by
  rw [render, String.toList_ofList]
  have marks : "://".toList = [':', '/', '/'] := rfl
  simp only [marks, List.append_assoc, List.cons_append, List.nil_append]
  cases u.port <;> cases u.database <;> rfl

/-! ## The driver -/

def isDriverChar (c : Char) : Bool := isWordChar c || c == '+'

theorem splitDriver?_append {name rest : List Char} (nonempty : name ≠ [])
    (inside : ∀ c ∈ name, isDriverChar c = true) :
    splitDriver? (name ++ ':' :: '/' :: '/' :: rest) = some (name, rest) := by
  have off : BreaksOff isDriverChar (':' :: '/' :: '/' :: rest) :=
    breaksOff_cons (by decide +kernel)
  have taken := takeWhile_append_of_off inside off
  have dropped := dropWhile_append_of_off inside off
  unfold isDriverChar at taken dropped
  cases name with
  | nil => exact absurd rfl nonempty
  | cons c name => simp only [splitDriver?, taken, dropped]

theorem splitDriver?_eq_some {s name rest : List Char} (h : splitDriver? s = some (name, rest)) :
    name ≠ [] ∧ ∀ c ∈ name, isDriverChar c = true := by
  simp only [splitDriver?] at h
  split at h
  · rename_i c taken more front behind
    obtain ⟨rfl, rfl⟩ := Prod.mk.inj (Option.some.inj h)
    refine ⟨List.cons_ne_nil _ _, fun d hd => ?_⟩
    rw [← front] at hd
    exact List.mem_takeWhile_imp hd
  · cases h

/-! ## Credentials -/

def isUserChar (c : Char) : Bool := c != ':' && c != '/'

theorem splitUsername_of_not_mem {s : List Char} (free : '@' ∉ s) :
    splitUsername s = ⟨none, none, s⟩ := by
  have none : cutLast? '@' (s.takeWhile isUserChar) = none :=
    cutLast?_eq_none_iff.2 fun h => free ((List.takeWhile_prefix _).subset h)
  unfold isUserChar at none
  simp only [splitUsername, none]

theorem splitUsername_append {user rest : List Char} (inside : ∀ c ∈ user, isUserChar c = true)
    (free : '@' ∉ rest) :
    splitUsername (user ++ '@' :: rest) = ⟨some user, none, rest⟩ := by
  have cut := cutLast?_takeWhile inside (by decide) free
  have dropped : (user ++ '@' :: rest).dropWhile isUserChar = rest.dropWhile isUserChar :=
    dropWhile_append_cons inside (by decide)
  have again := List.takeWhile_append_dropWhile (p := isUserChar) (l := rest)
  unfold isUserChar at cut dropped again
  simp only [splitUsername, cut, dropped, again]

/-- Without an at sign behind the first colon there is no password. -/
theorem splitCredentials_of_not_mem {s : List Char} (free : '@' ∉ s.dropWhile isUserChar) :
    splitCredentials s = splitUsername s := by
  unfold isUserChar at free
  simp only [splitCredentials]
  split
  · rename_i more behind
    have none : cut? '@' more = none := by
      refine cut?_eq_none_iff.2 fun h => free ?_
      rw [behind]
      exact List.mem_cons_of_mem _ h
    rw [none]
  · rfl

theorem splitCredentials_append {user password rest : List Char}
    (inside : ∀ c ∈ user, isUserChar c = true) (free : '@' ∉ password) :
    splitCredentials (user ++ ':' :: (password ++ '@' :: rest)) =
      ⟨some user, some password, rest⟩ := by
  have off : BreaksOff isUserChar (':' :: (password ++ '@' :: rest)) := breaksOff_cons (by decide)
  have taken := takeWhile_append_of_off inside off
  have dropped := dropWhile_append_of_off inside off
  have cut : cut? '@' (password ++ '@' :: rest) = some (password, rest) :=
    cut?_eq_some_iff.2 ⟨rfl, free⟩
  unfold isUserChar at taken dropped
  simp only [splitCredentials, taken, dropped, cut]

/-- The credentials are read from their text and whatever follows without an at sign. -/
theorem splitCredentials_credentialsText {u : Url} (named : u.username = none → u.password = none)
    {rest : List Char} (free : '@' ∉ rest) :
    splitCredentials (u.credentialsText false ++ rest) =
      ⟨u.username.map encodeCredential, u.password.map encodeCredential, rest⟩ := by
  have inside (s : String) : ∀ c ∈ encodeCredential s, isUserChar c = true := by
    intro c hc
    have encoded := isEncoded_of_mem_encodeCredential hc
    have colon : c ≠ ':' := ne_of_isEncoded encoded (by decide)
    have slash : c ≠ '/' := ne_of_isEncoded encoded (by decide)
    simp [isUserChar, colon, slash]
  have noAt (s : String) : '@' ∉ encodeCredential s := fun h =>
    ne_of_isEncoded (isEncoded_of_mem_encodeCredential h) (by decide) rfl
  obtain ⟨driverName, username, password, host, port, database, query⟩ := u
  -- A colon of the host or before the port would begin a password if an at sign stood anywhere
  -- behind it.
  cases username with
  | none =>
    obtain rfl : password = none := named rfl
    have behind : '@' ∉ rest.dropWhile isUserChar := fun h => free ((List.dropWhile_suffix _).mem h)
    exact (splitCredentials_of_not_mem behind).trans (splitUsername_of_not_mem free)
  | some user =>
    cases password with
    | none =>
      have text :
        (credentialsText ⟨driverName, some user, none, host, port, database, query⟩ false ++ rest) =
          encodeCredential user ++ '@' :: rest := by simp [credentialsText]
      have behind : '@' ∉ (encodeCredential user ++ '@' :: rest).dropWhile isUserChar := by
        rw [dropWhile_append_cons (inside user) (by decide)]
        exact fun h => free ((List.dropWhile_suffix _).mem h)
      rw [text, splitCredentials_of_not_mem behind, splitUsername_append (inside user) free]
      rfl
    | some password =>
      have text :
        (credentialsText ⟨driverName, some user, some password, host, port, database, query⟩
          false ++ rest) =
          encodeCredential user ++ ':' :: (encodeCredential password ++ '@' :: rest) := by
            simp [credentialsText]
      rw [text, splitCredentials_append (inside user) (noAt password)]
      rfl

/-! ## The host -/

def isHostChar (c : Char) : Bool := c != '/' && c != ':' && c != '?'

def isAuthorityChar (c : Char) : Bool := c != '/' && c != '?'

theorem isAuthorityChar_of_isHostChar {c : Char} (h : isHostChar c = true) :
    isAuthorityChar c = true := by
  simp_all [isHostChar, isAuthorityChar]

theorem splitPlainHost_eq (s : List Char) : splitPlainHost s =
    (if s.takeWhile isHostChar = [] then none else some (s.takeWhile isHostChar),
      s.dropWhile isHostChar) := rfl

/-- A host that is read is not empty and free of slashes and question marks. -/
theorem splitHost_fst {s host : List Char} (h : (splitHost s).1 = some host) :
    host ≠ [] ∧ ∀ c ∈ host, isAuthorityChar c = true := by
  have plain (s : List Char) (h : (splitPlainHost s).1 = some host) :
      host ≠ [] ∧ ∀ c ∈ host, isAuthorityChar c = true := by
    rw [splitPlainHost_eq] at h
    split at h
    · cases h
    · rename_i nonempty
      obtain rfl := Option.some.inj h
      exact ⟨nonempty, fun c hc => isAuthorityChar_of_isHostChar (List.mem_takeWhile_imp hc)⟩
  simp only [splitHost] at h
  split at h
  · rename_i inner
    split at h
    · rename_i c front behind found
      obtain rfl := Option.some.inj h
      have whole := (cutLast?_eq_some_iff.1 found).1
      refine ⟨List.cons_ne_nil _ _, fun d hd => List.mem_takeWhile_imp (l := inner) ?_⟩
      exact whole ▸ List.mem_append_left _ hd
    · exact plain _ h
  · exact plain _ h

theorem splitHost_of_ne {s : List Char} (unbracketed : ∀ c ∈ s.head?, c ≠ '[') :
    splitHost s = splitPlainHost s := by
  unfold splitHost
  split
  · exact absurd rfl (unbracketed '[' rfl)
  · rfl

theorem splitHost_bracketed {host rest : List Char} (nonempty : host ≠ [])
    (inside : ∀ c ∈ host, isAuthorityChar c = true) (free : ']' ∉ rest) :
    splitHost ('[' :: (host ++ ']' :: rest)) = (some host, rest) := by
  have cut := cutLast?_takeWhile inside (by decide) free
  have dropped : (host ++ ']' :: rest).dropWhile isAuthorityChar = rest.dropWhile isAuthorityChar :=
    dropWhile_append_cons inside (by decide)
  have again := List.takeWhile_append_dropWhile (p := isAuthorityChar) (l := rest)
  unfold isAuthorityChar at cut dropped again
  cases host with
  | nil => exact absurd rfl nonempty
  | cons c host => simp only [splitHost, cut, dropped, again]

/-- The host is read from its text and whatever follows behind a colon, a slash or nothing. -/
theorem splitHost_hostText {host : Option String}
    (inside : ∀ h ∈ host, h ≠ "" ∧ ∀ c ∈ h.toList, isAuthorityChar c = true)
    (unbracketed : ∀ h ∈ host, '[' ∉ h.toList) {rest : List Char} (off : BreaksOff isHostChar rest)
    (free : ']' ∉ rest) : splitHost (hostText host ++ rest) = (host.map String.toList, rest) := by
  have notOpened : ∀ c ∈ rest.head?, c ≠ '[' := by
    rintro c hc rfl
    exact absurd (off '[' hc) (by decide)
  cases host with
  | none =>
    rw [hostText, List.nil_append, splitHost_of_ne notOpened, splitPlainHost_eq, off.takeWhile_eq,
      off.dropWhile_eq]
    rfl
  | some host =>
    obtain ⟨nonempty, authority⟩ := inside host rfl
    have notNil : host.toList ≠ [] := by simpa using nonempty
    rw [hostText]
    split
    · have text : '[' :: host.toList ++ [']'] ++ rest = '[' :: (host.toList ++ ']' :: rest) := by
        simp
      rw [text, splitHost_bracketed notNil authority free]
      rfl
    · rename_i noColon
      have plain : ∀ c ∈ host.toList, isHostChar c = true := by
        intro c hc
        have colon : c ≠ ':' := by
          rintro rfl
          exact noColon (List.contains_iff_mem.2 hc)
        simpa [isHostChar, isAuthorityChar, colon] using authority c hc
      have begins : ∀ c ∈ (host.toList ++ rest).head?, c ≠ '[' := by
        rintro c hc rfl
        rw [List.head?_append_of_ne_nil _ notNil] at hc
        exact unbracketed host rfl (List.mem_of_mem_head? hc)
      rw [splitHost_of_ne begins, splitPlainHost_eq, takeWhile_append_of_off plain off,
        dropWhile_append_of_off plain off, if_neg notNil]
      rfl

/-! ## Reading in steps -/

/-- The URL with a driver name, read from what stands behind it. -/
def parseRest (driverName rest : List Char) : Except UrlError Url :=
  let credentials := splitCredentials rest
  let host := splitHost credentials.rest
  let port := splitPart ':' isAuthorityChar host.2
  let database := splitPart '/' (· != '?') port.2
  let query := splitPart '?' (· != '\n') database.2
  (readPort port.1).map fun n => {
    driverName := String.ofList driverName
    username := decoded credentials.username
    password := decoded credentials.password
    host := host.1.map String.ofList
    port := n
    database := decoded database.1
    query := readQuery (query.1.getD []) }

theorem parse_eq (s : String) : parse s =
    match splitDriver? s.toList with
    | none => .error .unreadable
    | some (driverName, rest) => parseRest driverName rest := rfl

/-! ## URLs that are read -/

/-- What every URL that is read satisfies. -/
structure WellFormed (u : Url) : Prop where
  driver_ne : u.driverName ≠ ""
  driver : ∀ c ∈ u.driverName.toList, isDriverChar c = true
  named : u.username = none → u.password = none
  host : ∀ h ∈ u.host, h ≠ "" ∧ ∀ c ∈ h.toList, isAuthorityChar c = true
  port : ∀ n ∈ u.port, (natText n.natAbs).length ≤ maxDigits

theorem splitUsername_password (s : List Char) : (splitUsername s).password = none := by
  simp only [splitUsername]
  split <;> rfl

theorem splitCredentials_named {s : List Char} (h : (splitCredentials s).username = none) :
    (splitCredentials s).password = none := by
  simp only [splitCredentials] at *
  split at h
  · split at h
    · cases h
    · exact splitUsername_password s
  · exact splitUsername_password s

theorem length_le_of_readPort {s : Option (List Char)} {port : Option Int}
    (h : readPort s = .ok port) :
    ∀ n ∈ port, (natText n.natAbs).length ≤ maxDigits := by
  rintro n rfl
  cases s with
  | none => cases h
  | some s =>
    rw [readPort] at h
    cases read : readFree (String.ofList s) with
    | error e => simp [read, Except.mapError, Except.map] at h
    | ok m =>
      obtain rfl : m = n := by simpa [read, Except.mapError, Except.map] using h
      exact length_natText_le_of_readFree read

theorem wellFormed_of_parse {s : String} {u : Url} (h : parse s = .ok u) : u.WellFormed := by
  rw [parse_eq] at h
  split at h
  · cases h
  · rename_i driverName rest found
    obtain ⟨nonempty, inside⟩ := splitDriver?_eq_some found
    simp only [parseRest] at h
    cases port : readPort
        (splitPart ':' isAuthorityChar (splitHost (splitCredentials rest).rest).2).1 with
    | error e => simp [port, Except.map] at h
    | ok n =>
      rw [port] at h
      obtain rfl := Except.ok.inj h
      refine ⟨by simpa using nonempty, by simpa using inside, fun unnamed => ?_,
        fun host hhost => ?_, length_le_of_readPort port⟩
      · have absent := splitCredentials_named (Option.map_eq_none_iff.1 unnamed)
        exact congrArg decoded absent
      · obtain ⟨chars, read, rfl⟩ := Option.map_eq_some_iff.1 hhost
        obtain ⟨notNil, authority⟩ := splitHost_fst read
        exact ⟨by simpa using notNil, by simpa using authority⟩

/-! ## Round trip -/

section RoundTrip

variable (port : Option Int) (database : Option String)

theorem isEncoded_of_mem_port_database {c : Char} (h : c ∈ portText port ++ databaseText database) :
    isEncoded c = true ∨ c = ':' ∨ c = '/' := by
  rcases List.mem_append.1 h with inPort | inDatabase
  · cases port with
    | none => cases inPort
    | some n =>
      rcases List.mem_cons.1 inPort with rfl | inText
      · exact .inr (.inl rfl)
      · exact .inl (isEncoded_of_mem_intText inText)
  · cases database with
    | none => cases inDatabase
    | some d =>
      rcases List.mem_cons.1 inDatabase with rfl | inText
      · exact .inr (.inr rfl)
      · exact (isEncoded_of_mem_encodeDatabase inText).imp_right .inr

theorem breaksOff_databaseText {p : Char → Bool} (slash : p '/' = false) :
    BreaksOff p (databaseText database) := by
  cases database with
  | none => exact breaksOff_nil
  | some d => exact breaksOff_cons slash

theorem breaksOff_port_database :
    BreaksOff isHostChar (portText port ++ databaseText database) := by
  cases port with
  | none => exact breaksOff_databaseText database (by decide)
  | some n => exact breaksOff_cons (by decide)

theorem splitPart_port : splitPart ':' isAuthorityChar (portText port ++ databaseText database) =
    (port.map intText, databaseText database) := by
  cases port with
  | none =>
    refine splitPart_of_ne fun c hc => ?_
    rintro rfl
    exact absurd (breaksOff_databaseText database (p := fun c => c == ':') rfl ':' hc) (by decide)
  | some n =>
    refine splitPart_mark (fun c hc => ?_) (breaksOff_databaseText database (by decide))
    have encoded := isEncoded_of_mem_intText hc
    have slash : c ≠ '/' := ne_of_isEncoded encoded (by decide)
    have question : c ≠ '?' := ne_of_isEncoded encoded (by decide)
    simp [isAuthorityChar, slash, question]

theorem splitPart_database : splitPart '/' (· != '?') (databaseText database) =
    (database.map encodeDatabase, []) := by
  cases database with
  | none => rfl
  | some d =>
    have inside : ∀ c ∈ encodeDatabase d, (c != '?') = true := by
      intro c hc
      rcases isEncoded_of_mem_encodeDatabase hc with encoded | rfl
      · exact bne_iff_ne.2 (ne_of_isEncoded encoded (by decide))
      · decide
    have text : databaseText (some d) = '/' :: (encodeDatabase d ++ []) := by simp [databaseText]
    rw [text, splitPart_mark inside breaksOff_nil]
    rfl

theorem decoded_map_encode {safe : Char → Bool} (encoded : safe '%' = false) (s : Option String) :
    decoded (s.map fun s => Percent.encode safe s.toList) = s := by
  cases s with
  | none => rfl
  | some s =>
    rw [Option.map_some, decoded, Option.map_some, Percent.decode_encode encoded,
      String.ofList_toList]

theorem decoded_credential (s : Option String) : decoded (s.map encodeCredential) = s :=
  decoded_map_encode (by decide) s

theorem decoded_database : decoded (database.map encodeDatabase) = database :=
  decoded_map_encode (by decide) database

theorem readPort_intText (few : ∀ n ∈ port, (natText n.natAbs).length ≤ maxDigits) :
    readPort (port.map intText) = .ok port := by
  cases port with
  | none => rfl
  | some n =>
    have read := readFree_text (few n rfl)
    rw [text] at read
    rw [Option.map_some, readPort, read]
    rfl

end RoundTrip

/-- The host has no bracket and no at sign. -/
def PlainHost (u : Url) : Prop := ∀ h ∈ u.host, '[' ∉ h.toList ∧ ']' ∉ h.toList ∧ '@' ∉ h.toList

instance (u : Url) : Decidable u.PlainHost := inferInstanceAs (Decidable (∀ h ∈ u.host, _))

theorem PlainHost.at_not_mem_hostText {u : Url} (plain : u.PlainHost) : '@' ∉ hostText u.host := by
  unfold PlainHost at plain
  cases host : u.host with
  | none => simp [hostText]
  | some h =>
    have free := (plain h host).2.2
    rw [hostText]
    split <;> simp [free]

/-- A URL without options, with a plain host, is read from its text. -/
theorem parse_render {u : Url} (formed : u.WellFormed) (plain : u.PlainHost) (bare : u.query = []) :
    parse (u.render false) = .ok u := by
  -- Behind the host stand encoded characters, a colon and slashes, so no mark that is sought before
  -- them.
  have tail {mark : Char} (foreign : isEncoded mark = false ∧ mark ≠ ':' ∧ mark ≠ '/') :
      mark ∉ portText u.port ++ databaseText u.database := by
    intro h
    rcases isEncoded_of_mem_port_database u.port u.database h with encoded | same | same
    · exact ne_of_isEncoded encoded foreign.1 rfl
    · exact foreign.2.1 same
    · exact foreign.2.2 same
  have noAt : '@' ∉ hostText u.host ++ (portText u.port ++ databaseText u.database) := by
    rw [List.mem_append, not_or]
    exact ⟨plain.at_not_mem_hostText, tail (by decide)⟩
  have driverNotNil : u.driverName.toList ≠ [] := by simpa using formed.driver_ne
  have credentials := splitCredentials_credentialsText formed.named noAt
  have host := splitHost_hostText formed.host (fun h hh => (plain h hh).1)
    (breaksOff_port_database u.port u.database) (tail (by decide))
  have text : (u.render false).toList = u.driverName.toList ++ ':' :: '/' :: '/' ::
    (u.credentialsText false ++
      (hostText u.host ++ (portText u.port ++ databaseText u.database))) := by
    rw [toList_render, bare]
    simp [queryText]
  rw [parse_eq, text, splitDriver?_append driverNotNil formed.driver]
  have noOptions : readQuery ((splitPart '?' (· != '\n') []).1.getD []) = u.query := bare.symm
  simp only [parseRest, credentials, host, splitPart_port, splitPart_database,
    readPort_intText u.port formed.port,
    decoded_credential, decoded_database, noOptions, String.ofList_toList]
  have hostKept : (u.host.map String.toList).map String.ofList = u.host := by cases u.host <;> simp
  rw [hostKept]
  rfl

end UserDirectory.Connection.Url
