/-!
# Waiting

How long a receiver waits, and the deadline of several waits in a row. Times are
microseconds on a clock that the caller reads; nothing here reads it.
-/

namespace FirmwareUpdate

/-- The end of the clock: later instants cannot be named. -/
def clockHorizon : Nat := UInt64.size / 2 * 1000000

/-- The longest span of time that a setting can name, longer than any clock runs. -/
def longestSpan : Nat := UInt64.size * 1000000 - 1

/-- The instant `span` after `now`, if the clock reaches it. -/
def instantAfter? (now span : Nat) : Option Nat :=
  if now + span < clockHorizon then some (now + span) else none

/-- How long one receive waits. -/
inductive Timeout where
  /-- Until a packet arrives. -/
  | forever
  /-- Not at all. -/
  | poll
  /-- At most the given span. -/
  | after (span : Nat)
deriving DecidableEq, Repr

/-- The deadline of several receives in a row. -/
structure Deadline where
  /-- The instant at which it passes, if it ever does. -/
  instant : Option Nat
  /-- The last poll has been handed out. -/
  polled : Bool := false
deriving DecidableEq, Repr

namespace Timeout

/-- A timeout in milliseconds: negative waits forever, zero not at all. -/
def ofMillis (millis : Int) : Timeout :=
  if millis = 0 then poll
  else if millis < 0 then forever
  else after (millis.toNat * 1000)

/-- A timeout of the given span. -/
def ofSpan (span : Nat) : Timeout :=
  if span = 0 then poll else after span

/-- The deadline of waits that begin now. -/
def start (timeout : Timeout) (now : Nat) : Deadline :=
  match timeout with
  | forever => { instant := none }
  | poll => { instant := some now }
  | after span => { instant := instantAfter? now span }

end Timeout

namespace Deadline

/-- The timeout of the next receive, or nothing once the deadline has passed. A
deadline that has passed still allows one poll. -/
def remaining (deadline : Deadline) (now : Nat) : Option Timeout × Deadline :=
  match deadline.instant with
  | none => (some .forever, deadline)
  | some instant =>
    if now < instant then (some (.after (instant - now)), deadline)
    else if deadline.polled then (none, deadline)
    else (some .poll, { deadline with polled := true })

end Deadline

end FirmwareUpdate
