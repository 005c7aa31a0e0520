/-!
# Endpoints

Where datagrams go: an address of either family, a port, and the network zone in which a long
address is meant.  The same address means different machines in different zones, so endpoints that
differ only in their zone are different.  Endpoints are ordered by family, then by address, then by
port, then by zone.
-/

namespace Muster

/-- An address of four bytes, or one of eight groups of sixteen bits. -/
inductive Ip where
  | v4 (a b c d : UInt8)
  | v6 (g₀ g₁ g₂ g₃ g₄ g₅ g₆ g₇ : UInt16)
  deriving DecidableEq, Repr

/-- An address, a port and a zone. -/
structure Endpoint where
  ip : Ip
  port : UInt16
  /-- The network zone of a long address; zero where none is named. -/
  zone : UInt32
  deriving DecidableEq, Repr

namespace Ip

/-- The groups of an address: bytes for the short family, words for the long one. -/
def groups : Ip → List Nat
  | v4 a b c d => [a.toNat, b.toNat, c.toNat, d.toNat]
  | v6 g₀ g₁ g₂ g₃ g₄ g₅ g₆ g₇ =>
    [g₀.toNat, g₁.toNat, g₂.toNat, g₃.toNat, g₄.toNat, g₅.toNat, g₆.toNat, g₇.toNat]

/-- The long family. -/
def isV6 : Ip → Bool
  | v4 .. => false
  | v6 .. => true

/-- An address of the short family as one of the long family writes it. -/
def mapped : Ip → Ip
  | v4 a b c d =>
    .v6 0 0 0 0 0 0xFFFF (a.toUInt16 * 256 + b.toUInt16) (c.toUInt16 * 256 + d.toUInt16)
  | ip => ip

end Ip

namespace Endpoint

/-- The endpoint at an address and a port, in no zone. -/
def ofIp (ip : Ip) (port : UInt16) : Endpoint :=
  ⟨ip, port, 0⟩

/-- The endpoint as those know it who are told no zone. -/
def withoutZone (endpoint : Endpoint) : Endpoint :=
  .ofIp endpoint.ip endpoint.port

/-- The numbers by which endpoints are ordered.  Two endpoints with equal keys are equal. -/
def key (endpoint : Endpoint) : List Nat :=
  (if endpoint.ip.isV6 then 1 else 0) :: endpoint.ip.groups ++
    [endpoint.port.toNat, endpoint.zone.toNat]

def precedes (left right : Endpoint) : Bool :=
  decide (left.key < right.key)

/-- The order of endpoints, with equality. -/
def precedesOrEq (left right : Endpoint) : Bool :=
  !right.precedes left

/-- An endpoint on the local machine. -/
def loopback (port : UInt16) : Endpoint :=
  .ofIp (.v4 127 0 0 1) port

end Endpoint

end Muster
