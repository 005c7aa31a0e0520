import Muster.Net.HostPort

/-!
# Name tables

A fixed assignment of endpoints to host names, in place of the names of the system.  A name of the
table wins over the address that it writes.
-/

namespace Muster

/-- What a name stands for. -/
inductive NameTarget where
  /-- Any port at this address. -/
  | host (ip : Ip)
  /-- This endpoint, whatever port is asked for. -/
  | endpoint (endpoint : Endpoint)
  /-- Nothing. -/
  | unknown
  /-- A question that is never answered. -/
  | endless
  deriving DecidableEq, Repr

/-- What comes of looking a name up. -/
inductive Resolution where
  | found (endpoint : Endpoint)
  | notFound
  | pending
  deriving DecidableEq, Repr

abbrev NameTable := List (String × NameTarget)

namespace NameTable

/-- Looks a host and a port up. -/
def resolve (table : NameTable) (address : HostPort) : Resolution :=
  match table.find? fun entry => entry.1 == address.host with
  | some (_, .host ip) => .found (.ofIp ip address.port)
  | some (_, .endpoint endpoint) => .found endpoint
  | some (_, .unknown) => .notFound
  | some (_, .endless) => .pending
  | none =>
    match Ip.ofText? address.host with
    | some ip => .found (.ofIp ip address.port)
    | none => .notFound

/-- The endpoint of a host and a port. -/
def endpoint? (table : NameTable) (address : HostPort) : Option Endpoint :=
  match table.resolve address with
  | .found endpoint => some endpoint
  | _ => none

end NameTable

end Muster
