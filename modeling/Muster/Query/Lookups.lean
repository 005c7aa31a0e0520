import Muster.Lookup.NameTable
import Muster.Order
import Muster.Query.Network

/-!
# Lookups of a batch

A batch looks up each server that it names once, in the order of names and ports, and only so many
at the same time.  A lookup that never ends keeps its place, so that those behind it may never be
started.
-/

namespace Muster.Lookups

def precedesOrEq (left right : HostPort) : Bool :=
  left.host < right.host || (left.host == right.host && left.port ≤ right.port)

/-- The servers to look up, each once. -/
def distinct (servers : List HostPort) : List HostPort :=
  (Order.arrange precedesOrEq servers).eraseDups

/-- The lookups that are started where there is room for so many at the same time. -/
def started (resolve : HostPort → Resolution) : Nat → List HostPort → List HostPort
  | _, [] => []
  | 0, _ => []
  | room + 1, server :: rest =>
    server ::
      started resolve (if resolve server = .pending then room else room + 1) rest

def complete (resolve : HostPort → Resolution) (servers : List HostPort) : Bool :=
  servers.all fun server => resolve server != .pending

def endpoint? (resolve : HostPort → Resolution) (server : HostPort) : Option Endpoint :=
  match resolve server with
  | .found endpoint => some endpoint
  | _ => none

/-- Something can be told of an endpoint: a game server has it, or nothing can be sent to it. -/
def isDecided (network : Network) (endpoint : Endpoint) : Bool :=
  !network.supports endpoint.ip || endpoint.port = 0 || network.hasHost endpoint

/-- Looks hosts up in a table of names.  An endpoint to which datagrams can be sent, but which no
game server has, leads nowhere. -/
def among (network : Network) (names : NameTable) (server : HostPort) : Resolution :=
  match names.resolve server with
  | .found endpoint => if isDecided network endpoint then .found endpoint else .notFound
  | other => other

/-- Looks hosts up that are addresses. -/
def literal : HostPort → Resolution :=
  NameTable.resolve []

end Muster.Lookups
