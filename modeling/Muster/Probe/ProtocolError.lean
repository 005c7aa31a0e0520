import Muster.Text.Quoted

/-!
# Protocol errors

What can be wrong with a datagram of the query protocol or with the report inside it.
-/

namespace Muster

/-- Why an info report is not that of a server one can play on. -/
inductive InfoFault where
  | notDedicated
  | notRunning
  deriving DecidableEq, Repr

/-- What is wrong with a message or a report. -/
inductive ProtocolError where
  | missingMarker
  | invalidCommand
  | invalidSeparator (separator : Char)
  | missingSeparator (text : String)
  | invalidInfo (fault : InfoFault)
  deriving DecidableEq, Repr

def InfoFault.message : InfoFault → String
  | notDedicated => "not a dedicated server"
  | notRunning => "server is not running"

def ProtocolError.message : ProtocolError → String
  | missingMarker => "datagram is missing the out-of-band marker"
  | invalidCommand => "command name is empty or contains whitespace"
  | invalidSeparator separator =>
    "separator " ++ Text.Quoted.quote separator ++ " is not a whitespace character"
  | missingSeparator text => "command \x60" ++ text ++ "\x60 is not followed by a separator"
  | invalidInfo fault => "info response rejected: " ++ fault.message

end Muster
