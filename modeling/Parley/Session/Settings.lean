import Parley.Time.Duration
import Parley.Word

/-!
# Settings of a session

How long a session waits, how much it queues and how much it admits. `Settings.pingPeriodFor` puts
pings at nine tenths of the time that a peer has to answer.
-/

namespace Parley

/-- The settings of a session. -/
structure Settings where
  /-- Places in the mailbox of the connection. -/
  queueCapacity : Nat := 256
  /-- How long a single write may take. -/
  writeWait : Duration := .seconds 10
  /-- How long the peer has to answer a ping. -/
  pongWait : Duration := .seconds 60
  /-- The time between pings. -/
  pingPeriod : Duration := .seconds 54
  /-- The greatest size of a message from the peer in bytes. -/
  maxMessageSize : Nat := 64 * 1024
  /-- How many posts are admitted in any window. -/
  rateLimitCount : Nat := 60
  /-- The length of the window. -/
  rateLimitWindow : Duration := .seconds 60
  deriving DecidableEq, Repr

namespace Settings

/-- The least time between pings. -/
def minPingPeriod : Duration := .millis 1

/-- A length of time that is counted in more than 64 bits of seconds has no representation. -/
def fits (d : Duration) : Bool :=
  d.parts.1 < Word.limit64

/-- Nine tenths of the time that a peer has to answer, unless nine times that time does not
fit. -/
def pingPeriodFor (pongWait : Duration) : Option Duration :=
  if fits (pongWait * 9) then some (pongWait * 9 / 10) else none

/-- The time between pings that is kept in fact. -/
def effectivePingPeriod (s : Settings) : Duration :=
  max s.pingPeriod minPingPeriod

end Settings

end Parley
