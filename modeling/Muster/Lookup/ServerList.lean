import Muster.Net.HostPort
import Muster.Order

/-!
# Server lists

A fixed list of servers by host and port, whose endpoints are looked up when they are needed, some
of them at the same time.  The endpoints are kept for a time, sorted and each once; an empty answer
is not kept.
-/

namespace Muster

/-- How the lookups of a list go. -/
structure LookupCourse where
  /-- Which of the lookups under way is the next to end, by the number of those that end later. -/
  next : Nat → Nat
  /-- The time until all have ended, in milliseconds. -/
  duration : Nat

/-- Lookups that take no time and end in the order in which they are begun. -/
def LookupCourse.immediate : LookupCourse :=
  ⟨fun _ => 0, 0⟩

/-- The endpoints that were last found. -/
structure FetchedList where
  servers : List Endpoint
  fetchedAt : Nat
  deriving DecidableEq, Repr

/-- A list of servers and the endpoints that were last found for it. -/
structure ServerList where
  entries : List HostPort
  /-- How long the endpoints are kept, in milliseconds. -/
  lifetime : Nat
  /-- How many lookups may be under way at the same time. -/
  concurrency : Nat
  concurrency_pos : 0 < concurrency
  fetched : Option FetchedList
  /-- Entries looked up so far. -/
  lookups : Nat
  deriving DecidableEq, Repr

namespace ServerList

/-- How long endpoints are kept unless something else is asked for, in milliseconds. -/
def defaultLifetime : Nat := 300000

/-- The list of the texts that name a host and a port; other texts are left out.  There is always
room for one lookup. -/
def ofTexts (texts : List String) (lifetime concurrency : Nat) : ServerList where
  entries := texts.filterMap HostPort.ofText?
  lifetime := lifetime
  concurrency := max concurrency 1
  concurrency_pos := Nat.le_max_right concurrency 1
  fetched := none
  lookups := 0

/-- An element that equals the one before it is left out. -/
def dropRepeats : List Endpoint → List Endpoint
  | [] => []
  | [endpoint] => [endpoint]
  | first :: second :: rest =>
    if first = second then dropRepeats (second :: rest)
    else first :: dropRepeats (second :: rest)

/-- Endpoints in their order, each once. -/
def sortedOnce (endpoints : List Endpoint) : List Endpoint :=
  dropRepeats (Order.arrange Endpoint.precedesOrEq endpoints)

/-- The order in which lookups end if no more of them may be under way than there is room for.  In
each turn those that wait are begun as far as there is room, and one of those under way ends. -/
def endings (room : Nat) (next : Nat → Nat) : Nat → List HostPort → List HostPort → List HostPort
  | 0, _, _ => []
  | turns + 1, underWay, waiting =>
    let begun := underWay ++ waiting.take (room - underWay.length)
    let place := next turns % begun.length
    match begun[place]? with
    | none => []
    | some entry =>
      entry :: endings room next turns (begun.eraseIdx place)
        (waiting.drop (room - underWay.length))

/-- Looks every entry up.  The endpoints come in the order in which the lookups end. -/
def fetch (list : ServerList) (resolve : HostPort → Option Endpoint) (next : Nat → Nat) :
    ServerList × List Endpoint :=
  let ended := endings list.concurrency next list.entries.length [] list.entries
  ({ list with lookups := list.lookups + ended.length }, ended.filterMap resolve)

/-- The endpoints that were last found, if there are any and they are still kept. -/
def fresh? (list : ServerList) (now : Nat) : Option (List Endpoint) :=
  (list.fetched.filter fun fetched =>
    now - fetched.fetchedAt < list.lifetime && !fetched.servers.isEmpty).map (·.servers)

/-- The endpoints of the list, looked up where none are kept.  They count as found when the last
lookup has ended. -/
def get (list : ServerList) (resolve : HostPort → Option Endpoint) (course : LookupCourse)
    (now : Nat) : ServerList × List Endpoint :=
  match list.fresh? now with
  | some servers => (list, servers)
  | none =>
    let (list, found) := list.fetch resolve course.next
    let servers := sortedOnce found
    ({ list with fetched := some ⟨servers, now + course.duration⟩ }, servers)

end ServerList

end Muster
