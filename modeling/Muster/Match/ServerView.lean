import Muster.Control.Event
import Muster.Probe.Scoreboard
import Muster.Probe.ServerInfo

/-!
# Servers in a matchmaking pass

What one pass knows about a server, and how good the server is before any players are considered.
An empty server is better than every other one; of the others those are better that are less than
half full and have a low score.  A server whose score is unknown counts as one with a high score.
-/

namespace Muster

/-- What one pass knows about a server. -/
structure ServerView where
  address : Endpoint
  hostname : String
  realPlayers : Count
  freeSlots : Count
  /-- Slots promised to queued players and to privileged ones. -/
  reservedSlots : Count
  /-- None where the status is unknown. -/
  totalScore : Option Int64
  deriving DecidableEq, Repr

namespace ServerView

/-- The view of a server from its reports. -/
def ofReports (info : ServerInfo) (status : Option Scoreboard) (reservedSlots : Count) :
    ServerView where
  address := info.address
  hostname := info.hostname
  realPlayers := info.realPlayers
  freeSlots := info.freeSlots
  reservedSlots
  totalScore := status.map fun board => Int64.ofInt board.totalScore

/-- Slots that a group may still take. -/
def availableSlots (view : ServerView) : Count :=
  Count.minus view.freeSlots view.reservedSlots

end ServerView

namespace Quality

def base : Float := 1000
def emptyServerBonus : Float := 1000
def halfFullBonus : Float := 3000

/-- A server is less than half full below this score and below `halfFullPlayers` players. -/
def halfFullScore : Int64 := 3000

def halfFullPlayers : Count := 6
def scorePenaltyDivisor : Float := 300
def maxScorePenalty : Float := 600

/-- The score of a server whose status is unknown. -/
def unknownScore : Int64 := 10000

/-- The deduction for a score; a negative score counts as zero. -/
def scorePenalty (score : Int64) : Float :=
  let penalty := score.toNatClampNeg.toUInt64.toFloat / scorePenaltyDivisor
  if penalty < maxScorePenalty then penalty else maxScorePenalty

/-- The quality of a server with so many players and such a score. -/
def ofServer (realPlayers : Count) (totalScore : Option Int64) : Float :=
  if realPlayers = 0 then base + halfFullBonus + emptyServerBonus
  else
    let score := totalScore.getD unknownScore
    let bonus := if score < halfFullScore ∧ realPlayers < halfFullPlayers then halfFullBonus else 0
    base + bonus - scorePenalty score

/-- The place of a quality in the order of all qualities by their bits: the negative ones first,
the larger bits before the smaller, then the others, the smaller bits before the larger. -/
def rank (quality : Float) : Nat :=
  let bits := quality.toBits.toNat
  if bits < 1 <<< 63 then (1 <<< 63) + bits else (1 <<< 64) - 1 - bits

end Quality

namespace ServerView

/-- The quality of a server before any players are considered. -/
def quality (view : ServerView) : Float :=
  Quality.ofServer view.realPlayers view.totalScore

end ServerView

end Muster
