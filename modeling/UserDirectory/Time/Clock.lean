import UserDirectory.Time.Instant

/-!
# Clocks

A clock shows a number of microseconds and moves on by a fixed step with each reading. A reading
outside the years 1 to 9999 is no instant.
-/
namespace UserDirectory.Time

structure Clock where
  micros : Int := 0
  step : Int := 0
deriving DecidableEq, Repr

def Clock.read (c : Clock) : Option Instant × Clock :=
  (Instant.ofMicros? c.micros, { c with micros := c.micros + c.step })

end UserDirectory.Time
