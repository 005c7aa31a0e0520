import Muster.Control.Event

/-!
# Acknowledgment policies

How a player answers the instruction to join a server, in place of the game that would connect.
-/

namespace Muster

/-- What a player reports on an attempt to join. -/
inductive AckPolicy where
  | joined
  | fail
  /-- The attempt fails for lack of a slot. -/
  | full
  | reject
  /-- Nothing is reported, and the attempt runs out of time. -/
  | ignore
  deriving DecidableEq, Repr

/-- The report that a policy leads to. -/
def AckPolicy.result? : AckPolicy → Option JoinResult
  | joined => some .joined
  | fail => some (.failed false)
  | full => some (.failed true)
  | reject => some .rejected
  | ignore => none

end Muster
