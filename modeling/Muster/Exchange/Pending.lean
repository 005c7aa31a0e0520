import Muster.Exchange.Request
import Muster.Keyed

/-!
# The index of pending requests

Requests that await a response, under the key of that response.  Under one key there are no two
requests with the same message: a later one takes the place of an earlier one.
-/

namespace Muster

/-- The identifiers of requests, under their keys, the oldest first. -/
structure Pending where
  buckets : List (Request.Key × List RequestId)
  deriving DecidableEq, Repr

namespace Pending

def empty : Pending :=
  ⟨[]⟩

def get (pending : Pending) (key : Request.Key) : List RequestId :=
  ((pending.buckets.find? fun bucket => bucket.1 == key).map (·.2)).getD []

/-- Replaces the requests under a key; a key without requests is dropped. -/
def set (pending : Pending) (key : Request.Key) (ids : List RequestId) : Pending :=
  ⟨if ids.isEmpty then pending.buckets.filter fun bucket => bucket.1 != key
    else Keyed.alter key (fun _ => ids) pending.buckets⟩

def ids (pending : Pending) : List RequestId :=
  pending.buckets.flatMap (·.2)

def contains (pending : Pending) (id : RequestId) : Bool :=
  pending.ids.contains id

def size (pending : Pending) : Nat :=
  pending.ids.length

def isEmpty (pending : Pending) : Bool :=
  pending.buckets.isEmpty

end Pending

end Muster
