import Muster.Net.EndpointText
import Muster.Probe.ServerInfo
import Muster.Text.ColorCode

/-!
# Server listings

One line per server, in columns.  A name that is too long for its column is cut and ends in an
ellipsis; a column grows where what it holds cannot be cut.
-/

namespace Muster.Listing

def plainName (name : String) : String :=
  String.ofList (Text.stripColors name.toList)

/-- The text, cut to the width. -/
def cut (width : Nat) (text : String) : String :=
  let chars := text.toList
  if chars.length ≤ width then text else String.ofList (chars.take (width - 1) ++ ['…'])

/-- The blanks that fill a text up to the width. -/
def fill (width : Nat) (text : String) : String :=
  String.ofList (List.replicate (width - text.toList.length) ' ')

/-- The text at the left of a column. -/
def left (width : Nat) (text : String) : String :=
  text ++ fill width text

/-- The text at the right of a column. -/
def right (width : Nat) (text : String) : String :=
  fill width text ++ text

/-- The line of a server.  The score is unknown where there is no status. -/
def row (info : ServerInfo) (totalScore : Option Int) : String :=
  String.intercalate " " [
    left 22 info.address.text,
    left 32 (cut 32 (plainName info.hostname)),
    left 14 (cut 14 info.map),
    left 6 (cut 6 info.gameType),
    right 2 (toString info.clients.toNat) ++ "/" ++ left 2 (toString info.maxClients.toNat),
    "(" ++ toString info.bots.toNat ++ " bots)",
    "score",
    right 6 ((totalScore.map toString).getD "?"),
    right 4 (toString info.ping.toNat) ++ "ms" ++ if info.isPrivate then " [private]" else ""]

end Muster.Listing
