import Muster.Net.Endpoint
import Muster.Text.Blank
import Muster.Text.Numeral

/-!
# Scoreboards

What a game server reports about its players when asked for its status.  The first line of the
report holds settings and is skipped.  Each further line that consists of a score, a ping and a name
in quotes, with blanks between and around them, is an entry; every other line is skipped.  The name
runs to the last quote of its line.
-/

namespace Muster

/-- One player of a scoreboard. -/
structure PlayerScore where
  score : Int32
  ping : UInt32
  name : String
  deriving DecidableEq, Repr

/-- A status report. -/
structure Scoreboard where
  address : Endpoint
  players : List PlayerScore
  deriving DecidableEq, Repr

namespace Scoreboard

/-- The line without the carriage return at its end, if it has one. -/
def dropReturn : List Char → List Char
  | [] => []
  | ['\r'] => []
  | char :: rest => char :: dropReturn rest

/-- The lines that end at a line break, which takes a carriage return before it away, and the rest
behind the last line break, unless it is empty. -/
def lines : List Char → List Char → List (List Char)
  | [], line => if line.isEmpty then [] else [line.reverse]
  | char :: rest, line =>
    if char = '\n' then dropReturn line.reverse :: lines rest []
    else lines rest (char :: line)

/-- The text before the last quote, if only blanks follow that quote. -/
def nameOf? (text : List Char) : Option (List Char) :=
  match text.reverse.dropWhile Text.isBlank with
  | '"' :: name => some name.reverse
  | _ => none

/-- The blanks at the front of a text, of which there is at least one, taken away. -/
def afterBlanks? : List Char → Option (List Char)
  | [] => none
  | char :: rest => if Text.isBlank char then some (rest.dropWhile Text.isBlank) else none

/-- The number of a score: decimal digits, with a minus sign or without a sign. -/
def scoreOf? : List Char → Option Int32
  | '-' :: digits => (Text.Numeral.digits? digits).bind fun _ => Text.Numeral.int32? ('-' :: digits)
  | digits => (Text.Numeral.digits? digits).bind fun _ => Text.Numeral.int32? digits

/-- The number of a ping: decimal digits without a sign. -/
def pingOf? (digits : List Char) : Option UInt32 :=
  (Text.Numeral.digits? digits).bind fun _ => Text.Numeral.uint32? digits

/-- The characters up to the first blank or the end, and the rest. -/
def cutWord (text : List Char) : List Char × List Char :=
  (text.takeWhile fun char => !Text.isBlank char, text.dropWhile fun char => !Text.isBlank char)

def entryOf? (line : List Char) : Option PlayerScore := do
  let (score, rest) := cutWord (Text.trimStart line)
  let score ← scoreOf? score
  let (ping, rest) := cutWord (← afterBlanks? rest)
  let ping ← pingOf? ping
  match ← afterBlanks? rest with
  | '"' :: quoted => return ⟨score, ping, String.ofList (← nameOf? quoted)⟩
  | _ => none

def ofReport (address : Endpoint) (body : String) : Scoreboard :=
  ⟨address, ((lines body.toList []).drop 1).filterMap entryOf?⟩

def totalScore (board : Scoreboard) : Int :=
  board.players.foldr (fun player total => player.score.toInt + total) 0

end Scoreboard

end Muster
