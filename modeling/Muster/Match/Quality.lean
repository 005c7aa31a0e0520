import Muster.Match.Searcher

/-!
# The quality of a match

A match is the better the more players it has, the longer they waited, and the further their pings
stay below their limits.
-/

namespace Muster

namespace Quality

def playerCountWeight : Float := 15
def waitTimeWeight : Float := 40
def pingDeviationWeight : Float := 15

/-- The sum of the terms, added from the first to the last. -/
def total (terms : List Float) : Float :=
  terms.foldl (· + ·) 0

/-- How far a player's ping is above the player's limit.  An unknown ping and a missing limit count
as the slowest ping. -/
def pingDeviation (server : Endpoint) (player : Searcher) : Float :=
  ((player.pingTo? server).getD maxPing).toFloat -
    (player.criteria.pingLimit?.getD maxPing).toFloat

/-- The quality of a match of these players on a server of the given quality. -/
def ofMatch (serverQuality : Float) (server : Endpoint) (players : List Searcher) (now : Nat) :
    Float :=
  if players.isEmpty then serverQuality
  else
    let count := players.length.toFloat
    let averageWait := total (players.map fun player => player.waitSeconds now) / count
    let averageDeviation := total (players.map (pingDeviation server)) / count
    serverQuality + playerCountWeight * count + waitTimeWeight * averageWait -
      pingDeviationWeight * averageDeviation

end Quality

namespace QualityBits

/-- The bits are those of something that is no number. -/
def isNaN (quality : QualityBits) : Bool :=
  0x7FF0000000000000 < quality.bits &&& 0x7FFFFFFFFFFFFFFF

/-- What arithmetic makes of something that is no number: its quiet form. -/
def quieted (quality : QualityBits) : QualityBits :=
  ⟨quality.bits ||| 0x0008000000000000⟩

/-- The quality of a match of these players on a server of the given quality, by bits.  Something
that is no number keeps its sign and its payload, and without players every quality is kept. -/
def ofMatch (serverQuality : QualityBits) (server : Endpoint) (players : List Searcher)
    (now : Nat) : QualityBits :=
  if players.isEmpty then serverQuality
  else if serverQuality.isNaN then serverQuality.quieted
  else ⟨(Quality.ofMatch (Float.ofBits serverQuality.bits) server players now).toBits⟩

end QualityBits

end Muster
