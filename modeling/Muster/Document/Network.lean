import Muster.Document.Probe
import Muster.Order
import Muster.Query.Network

/-!
# Documents of networks

How game servers answer.  A server either reports a snapshot, or sends fixed reports; a fixed report
is given by its body, or digit by digit as the whole datagram.
-/

namespace Muster

open Document

namespace HostBehavior

/-- The datagram that a server sends when it is asked for a report. -/
def reply? (document : Document) (kind : ProbeKind) (name : String) :
    Option (Option (List UInt8)) :=
  match document.field? (name ++ "_hex") with
  | some digits => (bytes? digits).map some
  | none => (document.get? name).map fun body => body.map (report kind)

/-- The behaviour that a document gives to a server.  A server that reports a snapshot keeps what
the document does not mention. -/
def amend? (known : Option HostBehavior) (document : Document) : Option HostBehavior := do
  let snapshot ← document.get? "snapshot"
  let isSilent ← document.get? "silent"
  match known, snapshot with
  | some (.responder old wasSilent), new =>
    return .responder (new.getD old) (isSilent.getD wasSilent)
  | _, some snapshot => return .responder snapshot (isSilent.getD false)
  | _, none =>
    return .fixed (← reply? document .info "info") (← reply? document .status "status")

end HostBehavior

namespace Network

/-- Adds the server that a document describes, or changes the one with its address. -/
def amend? (network : Network) (document : Document) : Option Network := do
  let address ← document.get "address"
  let known := network.hosts.find? fun host => host.address == address
  let behavior ← HostBehavior.amend? (known.map (·.behavior)) document
  return network.putHost ⟨address, behavior, ← document.getD "delay_ms" 0, 0⟩

def amendAll? (network : Network) (documents : List Document) : Option Network :=
  documents.foldlM amend? network

end Network

/-- The address of a server and the datagrams it has seen. -/
instance : ToDocument GameHost :=
  ⟨fun host => list [toDocument host.address, toDocument host.probes]⟩

instance : ToDocument Network := ⟨fun network =>
  toDocument (Order.arrange (fun left right => left.address.precedesOrEq right.address)
    network.hosts)⟩

end Muster
