import Muster.Net.EndpointText

/-!
# Hosts and ports

A server as a player or a list names it: a host name or an address, and a port.  A host that holds
a colon is written in brackets.
-/

namespace Muster

/-- A host and a port. -/
structure HostPort where
  host : String
  port : UInt16
  deriving DecidableEq, Repr

namespace HostPort

/-- Names an endpoint by its address; the zone is not part of the name. -/
def ofEndpoint (endpoint : Endpoint) : HostPort :=
  ⟨endpoint.ip.text, endpoint.port⟩

/-- Cuts a text at its last colon. -/
def cutAtLastColon? : List Char → Option (List Char × List Char)
  | [] => none
  | char :: rest =>
    match cutAtLastColon? rest with
    | some (before, after) => some (char :: before, after)
    | none => if char = ':' then some ([], rest) else none

/-- Reads a host and a port.  The text of an endpoint names that endpoint; any other text is cut at
its last colon, before which stands a host that is not empty and holds no colon. -/
def ofText? (text : String) : Option HostPort :=
  match Endpoint.ofText? text with
  | some endpoint => some (ofEndpoint endpoint)
  | none => do
    let (host, port) ← cutAtLastColon? text.toList
    if host.isEmpty || host.contains ':' then none
    else return ⟨String.ofList host, ← Text.Numeral.uint16? port⟩

/-- The text of a host and a port. -/
def text (address : HostPort) : String :=
  let host := if address.host.toList.contains ':' then "[" ++ address.host ++ "]" else address.host
  host ++ ":" ++ toString address.port.toNat

end HostPort

end Muster
