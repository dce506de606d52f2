import UserDirectory.Journal.Event
import UserDirectory.Number.Binary64

/-!
# Lines of the journal

A line has the time in seconds, the level in eight columns and the name of the journal, in colours
that a terminal shows, before the message. The time is a number of seconds from the beginning of
1970. The calendar goes on before the year 1 and beyond the year 9999, as far as a year has 32 bits.
-/
namespace UserDirectory.Journal

open Number Time

def name : String := "catalog"

def escapeCode (code : String) : String := "\x1b[" ++ code ++ "m"

def reset : String := escapeCode "0"

/-- The code of the colour of a level: cyan, green, yellow, red or bold red. -/
def Level.colour : Level → String
  | .debug => escapeCode "36"
  | .info => escapeCode "32"
  | .warning => escapeCode "33"
  | .error => escapeCode "31"
  | .critical => escapeCode "1;31"

/-- A text filled up with blanks to a number of columns. -/
def column (width : Nat) (s : String) : String :=
  s ++ String.ofList (List.replicate (width - s.length) ' ')

/-! ## Times -/

/-- Why a time is not written. -/
inductive TimeError
  | undefined
  | beyondInteger
  | beyondSeconds
  | beyondYears
  | yearTooLarge
deriving DecidableEq, Repr

def TimeError.message : TimeError → String
  | .undefined => "Invalid value NaN (not a number)"
  | .beyondInteger => "int too large to convert to float"
  | .beyondSeconds => "timestamp out of range for platform time_t"
  | .beyondYears => "[Errno 75] Value too large for defined data type"
  | .yearTooLarge => "signed integer is greater than maximum"

/-- The seconds of 400 years, after which the calendar repeats. -/
def secondsPerEra : Int := 146097 * 86400

/-- The number of the era that a second lies in, from the one that begins with the year 1. -/
def era (seconds : Int) : Int := (seconds + epochDay * 86400) / secondsPerEra

/-- The calendar fields of a second, as of the same second of the era of the years 1 to 400. -/
def civilInEra (seconds : Int) : Civil :=
  .ofMicros ((seconds - era seconds * secondsPerEra) * 1000000)

/-- The year that a second lies in. -/
def year (seconds : Int) : Int := (civilInEra seconds).date.year + 400 * era seconds

/-- The whole second of a time whose year can be written. -/
def wholeSecond (time : Binary64) : Except TimeError Int :=
  match time.floor? with
  | none => .error (if time = .undefined then .undefined else .beyondSeconds)
  | some seconds =>
    if seconds < -9223372036854775808 || 9223372036854775807 < seconds then .error .beyondSeconds
    else if year seconds - 1900 < -2147483648 || 2147483647 < year seconds - 1900
      then .error .beyondYears
    else if 2147483647 < year seconds then .error .yearTooLarge
    else .ok seconds

/-- An integer number of seconds as a time. -/
def timeOfInt (seconds : Int) : Except TimeError Binary64 :=
  match Binary64.ofInt seconds with
  | .infinite _ => .error .beyondInteger
  | time => .ok time

/-- The text of a second. -/
def timeStamp (seconds : Int) : String :=
  let civil := civilInEra seconds
  String.ofList (intText (year seconds) ++ '-' :: padded 2 civil.date.month ++ '-' ::
    padded 2 civil.date.day ++
    ' ' :: timeText civil)

/-! ## Lines -/

/-- A text that ends in a reset of the colours, and in no second one. -/
def closed (s : String) : String := if reset.toList.isSuffixOf s.toList then s else s ++ reset

/-- The line of a message that is noted in a second. -/
def lineAt (seconds : Int) (level : Level) (message : String) : String :=
  closed (level.colour ++ "[" ++ timeStamp seconds ++ "] [" ++ column 8 level.name ++ "] " ++
    reset ++ escapeCode "34" ++ name ++ ":" ++ reset ++ " " ++ message)

def line (level : Level) (time : Binary64) (message : String) : Except TimeError String :=
  (wholeSecond time).map (lineAt · level message)

end UserDirectory.Journal
