import Muster.Net.HostPort

/-!
# Resolution of host names

An address names itself.  Any other host is looked up in the system, and the answer is kept for a
time, a failure for a shorter one.  Names compare without regard to the case of the letters A to Z.
-/

namespace Muster

/-- How long answers are kept, in milliseconds. -/
structure ResolverConfig where
  lifetime : Nat := 600000
  failureLifetime : Nat := 120000
  deriving DecidableEq, Repr

/-- How long an answer is kept. -/
def ResolverConfig.lifetimeOf (config : ResolverConfig) (endpoint : Option Endpoint) : Nat :=
  if endpoint.isSome then config.lifetime else config.failureLifetime

/-- What the system answers at a time when it is asked for a host and a port; no endpoints where
the name is unknown. -/
abbrev SystemLookup := Nat → String → UInt16 → List Endpoint

/-- An answer that is kept. -/
structure CachedAnswer where
  host : String
  port : UInt16
  endpoint : Option Endpoint
  expiresAt : Nat
  deriving DecidableEq, Repr

/-- The answers that are kept. -/
structure Resolver where
  config : ResolverConfig
  cache : List CachedAnswer
  deriving DecidableEq, Repr

namespace Resolver

def empty (config : ResolverConfig) : Resolver :=
  ⟨config, []⟩

/-- The form in which a name is kept. -/
def foldName (host : String) : String :=
  String.ofList (host.toList.map Char.toLower)

/-- The answer for a host and a port is this one. -/
def CachedAnswer.isFor (answer : CachedAnswer) (host : String) (port : UInt16) : Bool :=
  answer.host == host && answer.port == port

/-- The first endpoint of the short family, or else the first of all. -/
def preferred (endpoints : List Endpoint) : Option Endpoint :=
  (endpoints.find? fun endpoint => !endpoint.ip.isV6).or endpoints.head?

/-- The kept answer for a folded name, unless it has expired. -/
def cached? (resolver : Resolver) (host : String) (port : UInt16) (now : Nat) :
    Option CachedAnswer :=
  (resolver.cache.find? fun answer => CachedAnswer.isFor answer host port).filter fun answer =>
    now < answer.expiresAt

/-- Keeps an answer in place of an earlier one.  The time at which it expires is assumed to be one
that the clock can tell. -/
def store (resolver : Resolver) (host : String) (port : UInt16) (endpoint : Option Endpoint)
    (now : Nat) : Resolver :=
  { resolver with
    cache := ⟨host, port, endpoint, now + resolver.config.lifetimeOf endpoint⟩ ::
      resolver.cache.filter fun answer => !CachedAnswer.isFor answer host port }

/-- The endpoint of a host and a port, or that there is none, where the system need not be asked. -/
def known? (resolver : Resolver) (host : String) (port : UInt16) (now : Nat) :
    Option (Option Endpoint) :=
  match Ip.ofText? host with
  | some ip => some (some (.ofIp ip port))
  | none => (resolver.cached? (foldName host) port now).map (·.endpoint)

/-- The system answers for a host and a port, and the answer is kept. -/
def learn (lookup : SystemLookup) (resolver : Resolver) (host : String) (port : UInt16)
    (now : Nat) : Resolver × Option Endpoint :=
  let endpoint := preferred (lookup now host port)
  (resolver.store (foldName host) port endpoint now, endpoint)

/-- The endpoint of a host and a port, and whether the system was asked.  If so, it has answered at
once. -/
def resolve (lookup : SystemLookup) (resolver : Resolver) (host : String) (port : UInt16)
    (now : Nat) : Resolver × Option Endpoint × Bool :=
  match resolver.known? host port now with
  | some endpoint => (resolver, endpoint, false)
  | none =>
    let (resolver, endpoint) := resolver.learn lookup host port now
    (resolver, endpoint, true)

def purge (resolver : Resolver) (now : Nat) : Resolver :=
  { resolver with cache := resolver.cache.filter fun answer => now < answer.expiresAt }

/-- The lookup of a machine that knows no names but its own. -/
def ownNames : SystemLookup := fun _ host port =>
  if foldName host = "localhost" then [.loopback port] else []

end Resolver

end Muster
