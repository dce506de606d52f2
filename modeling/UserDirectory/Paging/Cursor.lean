import UserDirectory.Text.Base64
import UserDirectory.Text.Cut
import UserDirectory.Text.Utf8
import UserDirectory.Time.Instant

/-!
# Cursors of user lists

A cursor names the last user of a page by its sort key, the time of creation and the id. Its token
is the URL-safe base64 form of the version, the time in microseconds and the id with ampersands
between them; the id comes last, so it may hold ampersands itself.
-/
namespace UserDirectory.Paging

open Text Number Time

structure Cursor where
  createdAt : Instant
  id : String
deriving DecidableEq

/-- Why a token is refused, in the order in which the reasons are sought. -/
inductive CursorError
  | empty
  | notBase64
  | unsupportedVersion (version : String)
  | malformed
  | invalidTimestamp
deriving DecidableEq, Repr

def CursorError.message : CursorError → String
  | .empty => "Pagination token is empty"
  | .notBase64 => "Pagination token is not valid base64"
  | .unsupportedVersion version => "Unsupported pagination token version: " ++ quoted version
  | .malformed => "Pagination token is malformed"
  | .invalidTimestamp => "Pagination token carries an invalid timestamp"

namespace Cursor

/-- The one version of tokens. -/
def version : String := "1"

/-- The text inside a token. -/
def fields (c : Cursor) : List Char :=
  version.toList ++ '&' :: intText c.createdAt.micros ++ '&' :: c.id.toList

def token (c : Cursor) : String := String.ofList (Base64.encode (Utf8.encode c.fields))

/-- The token of a local time and an id, if the time is an instant. -/
def tokenOf? (time : LocalTime) (id : String) : Option String :=
  time.instant?.map fun t => token ⟨t, id⟩

/-- Fills a token up to a multiple of four characters. -/
def pad (s : List Char) : List Char := s ++ List.replicate ((4 - s.length % 4) % 4) '='

/-- The text inside a token, which must be ASCII. -/
def unwrap? (token : List Char) : Option (List Char) :=
  if token.all isAscii then (Base64.decode? (pad token)).bind Utf8.decode? else none

/-- The instant that a numeral of microseconds stands for. -/
def readInstant? (s : List Char) : Option Instant :=
  match readPlain? s with
  | none => none
  | some (negative, digits) =>
    if maxDigits < digits.length then none else Instant.ofMicros? (signed negative (value digits))

/-- The cursor given by the text after the version. -/
def ofFields (s : List Char) : Except CursorError Cursor :=
  match cut? '&' s with
  | none => .error .malformed
  | some (time, id) =>
    if id = [] then .error .malformed
    else match readInstant? time with
      | none => .error .invalidTimestamp
      | some createdAt => .ok ⟨createdAt, String.ofList id⟩

def ofToken (token : String) : Except CursorError Cursor :=
  if token = "" then .error .empty
  else match unwrap? token.toList with
    | none => .error .notBase64
    | some raw =>
      let (found, rest) := (cut? '&' raw).getD (raw, [])
      if found = version.toList then ofFields rest
      else .error (.unsupportedVersion (String.ofList found))

end Cursor

end UserDirectory.Paging
