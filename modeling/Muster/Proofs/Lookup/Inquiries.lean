import Mathlib.Tactic.SplitIfs
import Muster.Lookup.Resolver
import Muster.Proofs.Parts

/-!
# Inquiries

People ask a resolver for hosts and ports.  Where it keeps nothing for a name, it asks the system,
which answers in its own time, and others may ask in between.  In the course of any run the answer
that is kept for a name is the one that the system gave last, and people are told the answers that
they should be told.
-/

namespace Muster

/-- The system takes no notice of the case of the letters A to Z. -/
def SystemLookup.IgnoresCase (system : SystemLookup) : Prop :=
  ∀ time host other port, Resolver.foldName host = Resolver.foldName other →
    system time host port = system time other port

namespace Resolver

variable {resolver : Resolver} {host other : String} {port otherPort : UInt16}
  {endpoint : Option Endpoint} {now later : Nat}

/-! ## Kept answers -/

/-- The name and the port that an answer is kept for. -/
def CachedAnswer.key (answer : CachedAnswer) : String × UInt16 :=
  (answer.host, answer.port)

def IsKeyed (resolver : Resolver) : Prop :=
  (resolver.cache.map CachedAnswer.key).Nodup

theorem isFor_eq (answer : CachedAnswer) (host : String) (port : UInt16) :
    CachedAnswer.isFor answer host port = (CachedAnswer.key answer == (host, port)) := rfl

theorem isKeyed_empty (config : ResolverConfig) : (empty config).IsKeyed :=
  List.nodup_nil

theorem IsKeyed.purge (hkeyed : resolver.IsKeyed) (now : Nat) : (resolver.purge now).IsKeyed :=
  hkeyed.sublist (List.filter_sublist.map _)

theorem IsKeyed.store (hkeyed : resolver.IsKeyed) (host : String) (port : UInt16)
    (endpoint : Option Endpoint) (now : Nat) : (resolver.store host port endpoint now).IsKeyed := by
  rw [IsKeyed, Resolver.store, List.map_cons, List.nodup_cons]
  refine ⟨fun hkey => ?_, hkeyed.sublist (List.filter_sublist.map _)⟩
  obtain ⟨answer, hanswer, hsame⟩ := List.mem_map.mp hkey
  have hdiffers := (List.mem_filter.mp hanswer).2
  rw [isFor_eq, hsame] at hdiffers
  simp [CachedAnswer.key] at hdiffers

/-- An answer is kept until its time is over. -/
theorem cached?_store_self :
    (resolver.store host port endpoint now).cached? host port later =
      if later < now + resolver.config.lifetimeOf endpoint then
        some ⟨host, port, endpoint, now + resolver.config.lifetimeOf endpoint⟩
      else none := by
  rw [cached?, store, List.find?_cons_of_pos (by simp [CachedAnswer.isFor]), Option.filter_some]
  simp only [decide_eq_true_eq]

/-- An answer for one name says nothing of another one. -/
theorem cached?_store_of_ne (hne : ¬ (other = host ∧ otherPort = port)) :
    (resolver.store host port endpoint now).cached? other otherPort later =
      resolver.cached? other otherPort later := by
  have hnew : ¬ (CachedAnswer.isFor
      ⟨host, port, endpoint, now + resolver.config.lifetimeOf endpoint⟩ other otherPort) := by
    rw [isFor_eq, beq_iff_eq]
    exact fun hkey => hne ⟨(congrArg Prod.fst hkey).symm, (congrArg Prod.snd hkey).symm⟩
  rw [cached?, store, List.find?_cons_of_neg (by exact hnew), List.find?_filter, cached?]
  congr 2
  funext answer
  rw [Bool.eq_iff_iff, decide_eq_true_iff, and_iff_right_of_imp]
  intro hother
  rw [isFor_eq, beq_iff_eq] at hother
  rw [isFor_eq, hother, Bool.not_eq_true', beq_eq_false_iff_ne]
  exact fun hkey => hne (Prod.mk.inj hkey)

/-- Answers whose time is over are not missed. -/
theorem cached?_purge (hkeyed : resolver.IsKeyed) (hlater : now ≤ later) :
    (resolver.purge now).cached? host port later = resolver.cached? host port later := by
  have hkept := Parts.find?_filter_key hkeyed (fun answer => decide (now < answer.expiresAt))
    (host, port)
  simp only [cached?, purge, isFor_eq, hkept, Option.filter_filter]
  congr 1
  funext answer
  rw [Bool.and_eq_right_iff_imp, decide_eq_true_iff, decide_eq_true_iff]
  exact fun hfresh => Nat.lt_of_le_of_lt hlater hfresh

end Resolver

/-! ## Runs -/

structure Question where
  host : String
  port : UInt16
  askedAt : Nat
  deriving DecidableEq

structure Inquiry extends Question where
  toldAt : Nat
  /-- The system was asked. -/
  isLookup : Bool
  endpoint : Option Endpoint
  deriving DecidableEq

/-- A resolver among those who ask it. -/
structure ResolverRun where
  resolver : Resolver
  now : Nat
  /-- The questions that the system has been asked and has not answered yet. -/
  underWay : List Question
  /-- What people have been told so far, in order. -/
  told : List Inquiry
  deriving DecidableEq

/-- What happens around a resolver. -/
inductive ResolverEvent where
  | wait (milliseconds : Nat)
  | purge
  | ask (host : String) (port : UInt16)
  /-- The system answers the question at a place among those under way. -/
  | answer (place : Nat)

def ResolverEvent.isPurge : ResolverEvent → Bool
  | .purge => true
  | _ => false

def Question.isFor (question : Question) (host : String) (port : UInt16) : Bool :=
  Resolver.foldName question.host == Resolver.foldName host && question.port == port

namespace Inquiry

/-- When the answer that somebody has been told is not kept any more. -/
def expiresAt (config : ResolverConfig) (inquiry : Inquiry) : Nat :=
  inquiry.toldAt + config.lifetimeOf inquiry.endpoint

/-- The latest answer of the system for a name and a port. -/
def latestLookup? (told : List Inquiry) (host : String) (port : UInt16) : Option Inquiry :=
  (told.filter fun inquiry => inquiry.isLookup && inquiry.isFor host port).getLast?

/-- What somebody has to be told, of all that people are told. -/
structure IsExact (config : ResolverConfig) (system : SystemLookup) (told : List Inquiry)
    (inquiry : Inquiry) : Prop where
  /-- An address names itself. -/
  address : ∀ ip, Ip.ofText? inquiry.host = some ip →
    inquiry.endpoint = some (.ofIp ip inquiry.port) ∧ inquiry.isLookup = false
  /-- For a name it is what the system answered then, or a while ago that is shorter than such an
  answer is kept. -/
  name : Ip.ofText? inquiry.host = none →
    ∃ lookup ∈ told, lookup.isLookup ∧ lookup.isFor inquiry.host inquiry.port ∧
      lookup.toldAt ≤ inquiry.toldAt ∧
      inquiry.endpoint =
        Resolver.preferred (system lookup.toldAt inquiry.host inquiry.port) ∧
      if inquiry.isLookup then lookup = inquiry
      else inquiry.toldAt < lookup.toldAt + config.lifetimeOf inquiry.endpoint
  /-- Nobody waits unless the system is asked. -/
  at_once : inquiry.isLookup = false → inquiry.toldAt = inquiry.askedAt

end Inquiry

namespace ResolverRun

open Inquiry Resolver

def start (config : ResolverConfig) (now : Nat) : ResolverRun :=
  ⟨.empty config, now, [], []⟩

def tell (run : ResolverRun) (question : Question) (isLookup : Bool)
    (endpoint : Option Endpoint) : ResolverRun :=
  { run with told := run.told ++ [⟨question, run.now, isLookup, endpoint⟩] }

def askSystem (run : ResolverRun) (question : Question) : ResolverRun :=
  { run with underWay := run.underWay ++ [question] }

def after (system : SystemLookup) (run : ResolverRun) : ResolverEvent → ResolverRun
  | .wait milliseconds => { run with now := run.now + milliseconds }
  | .purge => { run with resolver := run.resolver.purge run.now }
  | .ask host port =>
    match run.resolver.known? host port run.now with
    | some endpoint => run.tell ⟨host, port, run.now⟩ false endpoint
    | none => run.askSystem ⟨host, port, run.now⟩
  | .answer place =>
    match run.underWay[place]? with
    | none => run
    | some question =>
      let (resolver, endpoint) := run.resolver.learn system question.host question.port run.now
      { run with resolver, underWay := run.underWay.eraseIdx place }.tell question true endpoint

def afterAll (system : SystemLookup) (run : ResolverRun) (events : List ResolverEvent) :
    ResolverRun :=
  events.foldl (after system) run

/-- Nobody asks now for a name that the system is being asked for. -/
def isFree (run : ResolverRun) : ResolverEvent → Prop
  | .ask host port => ∀ question ∈ run.underWay, question.isFor host port = false
  | _ => True

/-- Nobody ever asks for a name while the system is being asked for it. -/
def IsInTurn (system : SystemLookup) : ResolverRun → List ResolverEvent → Prop
  | _, [] => True
  | run, event :: rest => run.isFree event ∧ IsInTurn system (run.after system event) rest

/-- How a resolver meets those who ask for a host and a port. -/
structure Meets (config : ResolverConfig) (system : SystemLookup) (run : ResolverRun)
    (host : String) (port : UInt16) : Prop where
  /-- They are told an address at once, and nothing else happens. -/
  address : ∀ ip, Ip.ofText? host = some ip →
    run.after system (.ask host port) =
      run.tell ⟨host, port, run.now⟩ false (some (.ofIp ip port))
  /-- The system is asked for a name that it has never been asked for, or for which its latest
  answer is not kept any more. -/
  lookup_iff : run.after system (.ask host port) = run.askSystem ⟨host, port, run.now⟩ ↔
    Ip.ofText? host = none ∧ ∀ lookup, latestLookup? run.told host port = some lookup →
      lookup.expiresAt config ≤ run.now
  /-- If the system answers at once, they are told what `resolve` gives. -/
  resolve_eq : run.afterAll system [.ask host port, .answer run.underWay.length] =
    { run with resolver := (run.resolver.resolve system host port run.now).1 }.tell
      ⟨host, port, run.now⟩ (run.resolver.resolve system host port run.now).2.2
      (run.resolver.resolve system host port run.now).2.1

end ResolverRun

/-! ## The latest answer -/

theorem Question.isFor_iff {question : Question} {host : String} {port : UInt16} :
    question.isFor host port ↔
      Resolver.foldName question.host = Resolver.foldName host ∧ question.port = port := by
  rw [Question.isFor, Bool.and_eq_true, beq_iff_eq, beq_iff_eq]

theorem Question.isFor_self (question : Question) :
    question.isFor question.host question.port :=
  Question.isFor_iff.mpr ⟨rfl, rfl⟩

/-- Two questions for what a third one is for are for the same. -/
theorem Question.isFor_of_isFor {question other : Question} {host : String} {port : UInt16}
    (hquestion : question.isFor host port) (hother : other.isFor host port) :
    question.isFor other.host other.port := by
  obtain ⟨hhost, hport⟩ := Question.isFor_iff.mp hquestion
  obtain ⟨hotherHost, hotherPort⟩ := Question.isFor_iff.mp hother
  exact Question.isFor_iff.mpr ⟨hhost.trans hotherHost.symm, hport.trans hotherPort.symm⟩

theorem Question.isFor_symm {question other : Question}
    (hsame : question.isFor other.host other.port) : other.isFor question.host question.port :=
  Question.isFor_of_isFor other.isFor_self hsame

theorem Question.isFor_eq_false_symm {question other : Question}
    (hdiffers : other.isFor question.host question.port = false) :
    question.isFor other.host other.port = false :=
  Bool.eq_false_iff.mpr fun hsame => Bool.eq_false_iff.mp hdiffers (Question.isFor_symm hsame)

namespace Inquiry

open Resolver

variable {config : ResolverConfig} {system : SystemLookup} {told others : List Inquiry}
  {inquiry lookup : Inquiry} {host : String} {port : UInt16} {now : Nat}

theorem latestLookup?_concat (told : List Inquiry) (inquiry : Inquiry) (host : String)
    (port : UInt16) :
    latestLookup? (told ++ [inquiry]) host port =
      if inquiry.isLookup && inquiry.isFor host port then some inquiry
      else latestLookup? told host port := by
  rw [latestLookup?, List.filter_append, List.getLast?_append, List.filter_singleton,
    Bool.cond_eq_ite]
  split_ifs <;> rfl

theorem mem_of_latestLookup? (hlatest : latestLookup? told host port = some lookup) :
    lookup ∈ told ∧ lookup.isLookup ∧ lookup.isFor host port := by
  have hmember := List.mem_filter.mp (List.mem_of_getLast? hlatest)
  rwa [Bool.and_eq_true] at hmember

/-- Behind every answer of the system stands its latest one for that name. -/
theorem exists_latestLookup? {follows : Inquiry → Inquiry → Prop}
    (hfollows : told.Pairwise follows) (htold : lookup ∈ told) (hlookup : lookup.isLookup)
    (hfor : lookup.isFor host port) :
    ∃ latest, latestLookup? told host port = some latest ∧
      (lookup = latest ∨ follows lookup latest) := by
  have hmember : lookup ∈ told.filter fun inquiry =>
      inquiry.isLookup && inquiry.isFor host port :=
    List.mem_filter.mpr ⟨htold, Bool.and_eq_true_iff.mpr ⟨hlookup, hfor⟩⟩
  have hpairs := hfollows.filter fun inquiry => inquiry.isLookup && inquiry.isFor host port
  rw [latestLookup?]
  rcases List.eq_nil_or_concat' (told.filter fun inquiry =>
    inquiry.isLookup && inquiry.isFor host port) with hnil | ⟨earlier, latest, hconcat⟩
  · rw [hnil] at hmember
    exact absurd hmember List.not_mem_nil
  · rw [hconcat] at hmember hpairs ⊢
    refine ⟨latest, List.getLast?_concat, ?_⟩
    rcases List.mem_append.mp hmember with hearlier | hlast
    · exact .inr ((List.pairwise_append.mp hpairs).2.2 lookup hearlier latest
        (List.mem_singleton_self latest))
    · exact .inl (List.mem_singleton.mp hlast)

/-- The endpoint of a host and a port as far as it is to be had from what people have been told. -/
def recalled? (config : ResolverConfig) (told : List Inquiry) (host : String) (port : UInt16)
    (now : Nat) : Option (Option Endpoint) :=
  match Ip.ofText? host with
  | some ip => some (some (.ofIp ip port))
  | none => ((latestLookup? told host port).filter fun lookup =>
      now < lookup.expiresAt config).map (·.endpoint)

/-- Nothing can be recalled of a name unless its latest answer is still kept. -/
theorem recalled?_eq_none_iff :
    recalled? config told host port now = none ↔
      Ip.ofText? host = none ∧ ∀ lookup, latestLookup? told host port = some lookup →
        lookup.expiresAt config ≤ now := by
  rw [recalled?]
  cases Ip.ofText? host with
  | some ip => simp
  | none => simp [Option.filter_eq_none_iff]

/-- An answer that was right stays right as more people are told theirs. -/
theorem IsExact.mono (hexact : inquiry.IsExact config system told) (hpart : told ⊆ others) :
    inquiry.IsExact config system others where
  address := hexact.address
  name := by
    intro hname
    obtain ⟨lookup, hlookup, hrest⟩ := hexact.name hname
    exact ⟨lookup, hpart hlookup, hrest⟩
  at_once := hexact.at_once

/-- The system is asked for names alone, and its answer is passed on. -/
theorem IsExact.of_isLookup (hexact : inquiry.IsExact config system told)
    (hlookup : inquiry.isLookup) :
    Ip.ofText? inquiry.host = none ∧
      inquiry.endpoint = preferred (system inquiry.toldAt inquiry.host inquiry.port) := by
  cases haddress : Ip.ofText? inquiry.host with
  | some ip =>
      have hnone := (hexact.address ip haddress).2
      rw [hlookup] at hnone
      exact absurd hnone (by decide)
  | none =>
      obtain ⟨found, -, -, -, -, hendpoint, hsame⟩ := hexact.name haddress
      rw [if_pos hlookup] at hsame
      rw [hsame] at hendpoint
      exact ⟨rfl, hendpoint⟩

end Inquiry

namespace ResolverRun

open Inquiry Resolver

variable {config : ResolverConfig} {system : SystemLookup} {run other : ResolverRun}
  {host : String} {port : UInt16} {question : Question} {endpoint : Option Endpoint}

/-! ## What is kept -/

/-- What is kept is what the system answered last, and everybody has been told the right thing. -/
structure IsSound (config : ResolverConfig) (system : SystemLookup) (run : ResolverRun) :
    Prop where
  config_eq : run.resolver.config = config
  isKeyed : run.resolver.IsKeyed
  kept : ∀ host port later, run.now ≤ later →
    (run.resolver.cached? (foldName host) port later).map (·.endpoint) =
      ((latestLookup? run.told host port).filter fun lookup =>
        later < lookup.expiresAt config).map (·.endpoint)
  exact : ∀ inquiry ∈ run.told, inquiry.IsExact config system run.told
  past : ∀ inquiry ∈ run.told, inquiry.toldAt ≤ run.now
  names : ∀ question ∈ run.underWay, Ip.ofText? question.host = none

theorem isSound_start (config : ResolverConfig) (system : SystemLookup) (now : Nat) :
    (start config now).IsSound config system where
  config_eq := rfl
  isKeyed := isKeyed_empty config
  kept := fun _ _ _ _ => rfl
  exact := fun _ hinquiry => absurd hinquiry List.not_mem_nil
  past := fun _ hinquiry => absurd hinquiry List.not_mem_nil
  names := fun _ hquestion => absurd hquestion List.not_mem_nil

/-- What need not be asked for is known from what people have been told. -/
theorem IsSound.known?_eq (hsound : run.IsSound config system) (host : String) (port : UInt16) :
    run.resolver.known? host port run.now = recalled? config run.told host port run.now := by
  rw [known?, recalled?]
  cases Ip.ofText? host with
  | some ip => rfl
  | none => exact hsound.kept host port run.now (Nat.le_refl _)

/-- Somebody is told what need not be asked for. -/
theorem IsSound.isExact_recalled (hsound : run.IsSound config system)
    (hsystem : system.IgnoresCase)
    (hrecalled : recalled? config run.told question.host question.port run.now = some endpoint)
    (hnow : question.askedAt = run.now) :
    IsExact config system run.told ⟨question, run.now, false, endpoint⟩ where
  address := by
    intro ip haddress
    rw [recalled?, haddress] at hrecalled
    exact ⟨(Option.some.inj hrecalled).symm, rfl⟩
  name := by
    intro hname
    simp only [recalled?, hname, Option.map_eq_some_iff, Option.filter_eq_some_iff,
      decide_eq_true_eq] at hrecalled
    obtain ⟨lookup, ⟨hlatest, hkept⟩, rfl⟩ := hrecalled
    obtain ⟨htold, hlookup, hfor⟩ := mem_of_latestLookup? hlatest
    obtain ⟨hhost, hport⟩ := Question.isFor_iff.mp hfor
    have hanswer := ((hsound.exact lookup htold).of_isLookup hlookup).2
    rw [hsystem _ _ _ _ hhost, hport] at hanswer
    exact ⟨lookup, htold, hlookup, hfor, hsound.past lookup htold, hanswer, hkept⟩
  at_once := fun _ => hnow.symm

/-- Everybody has been told the right thing if the last one has. -/
theorem IsSound.exact_concat (hsound : run.IsSound config system) {last : Inquiry}
    (hlast : last.IsExact config system (run.told ++ [last])) :
    ∀ inquiry ∈ run.told ++ [last], inquiry.IsExact config system (run.told ++ [last]) := by
  intro inquiry hinquiry
  rcases List.mem_append.mp hinquiry with hearlier | hnew
  · exact (hsound.exact inquiry hearlier).mono (List.subset_append_left _ _)
  · rwa [List.mem_singleton.mp hnew]

theorem IsSound.past_concat (hsound : run.IsSound config system) {last : Inquiry}
    (hlast : last.toldAt ≤ run.now) : ∀ inquiry ∈ run.told ++ [last], inquiry.toldAt ≤ run.now := by
  intro inquiry hinquiry
  rcases List.mem_append.mp hinquiry with hearlier | hnew
  · exact hsound.past inquiry hearlier
  · rwa [List.mem_singleton.mp hnew]

/-- Whoever is told from what is kept leaves everything as it is kept. -/
theorem IsSound.tell (hsound : run.IsSound config system)
    (hexact : IsExact config system run.told ⟨question, run.now, false, endpoint⟩) :
    (run.tell question false endpoint).IsSound config system where
  config_eq := hsound.config_eq
  isKeyed := hsound.isKeyed
  kept := by
    intro host port later hlater
    rw [ResolverRun.tell, latestLookup?_concat, Bool.false_and, if_neg Bool.false_ne_true]
    exact hsound.kept host port later hlater
  exact := hsound.exact_concat (hexact.mono (List.subset_append_left _ _))
  past := hsound.past_concat (Nat.le_refl run.now)
  names := hsound.names

/-- The answer of the system takes the place of what was kept for the name. -/
theorem IsSound.askSystem (hsound : run.IsSound config system)
    (hname : Ip.ofText? question.host = none) :
    (run.askSystem question).IsSound config system :=
  { hsound with
    names := by
      intro other hother
      rcases List.mem_append.mp hother with hearlier | hnew
      · exact hsound.names other hearlier
      · rw [List.mem_singleton.mp hnew]
        exact hname }

theorem IsSound.purge (hsound : run.IsSound config system) :
    (run.after system .purge).IsSound config system :=
  { hsound with
    isKeyed := hsound.isKeyed.purge run.now
    kept := by
      intro host port later hlater
      exact (congrArg (Option.map (·.endpoint)) (cached?_purge hsound.isKeyed hlater)).trans
        (hsound.kept host port later hlater) }

/-- Of an answer of the system everybody may be told as long as it is kept. -/
theorem IsSound.kept_answer (hsound : run.IsSound config system) (question : Question)
    (endpoint : Option Endpoint) (host : String) (port : UInt16) {later : Nat}
    (hlater : run.now ≤ later) :
    ((run.resolver.store (foldName question.host) question.port endpoint run.now).cached?
        (foldName host) port later).map (·.endpoint) =
      ((latestLookup? (run.told ++ [⟨question, run.now, true, endpoint⟩]) host port).filter
        fun lookup => later < lookup.expiresAt config).map (·.endpoint) := by
  rw [latestLookup?_concat, Bool.true_and]
  split_ifs with hfor
  · obtain ⟨hhost, rfl⟩ := Question.isFor_iff.mp hfor
    rw [← hhost, cached?_store_self, hsound.config_eq, Option.filter_some, expiresAt]
    by_cases hkept : later < run.now + config.lifetimeOf endpoint
    · rw [if_pos hkept, if_pos (decide_eq_true hkept)]
      rfl
    · rw [if_neg hkept, if_neg (by simpa using hkept)]
      rfl
  · rw [cached?_store_of_ne]
    · exact hsound.kept host port later hlater
    · rintro ⟨hhost, hport⟩
      exact hfor (Question.isFor_iff.mpr ⟨hhost.symm, hport.symm⟩)

theorem IsSound.answer (hsound : run.IsSound config system) (place : Nat) :
    (run.after system (.answer place)).IsSound config system := by
  rw [after]
  cases hplace : run.underWay[place]? with
  | none => exact hsound
  | some question =>
      have hname := hsound.names question (List.mem_of_getElem? hplace)
      have hnow := Nat.le_refl run.now
      constructor
      case config_eq => exact hsound.config_eq
      case isKeyed => exact hsound.isKeyed.store _ _ _ _
      case kept =>
        intro host port later hlater
        exact hsound.kept_answer question _ host port hlater
      case exact =>
        refine hsound.exact_concat ⟨fun ip haddress => ?_, fun _ => ?_, fun hnone => ?_⟩
        · rw [hname] at haddress
          exact absurd haddress (by simp)
        · exact ⟨_, List.mem_append_right _ (List.mem_singleton_self _), rfl,
            question.isFor_self, hnow, rfl, rfl⟩
        · exact absurd hnone (by simp)
      case past => exact hsound.past_concat hnow
      case names =>
        intro other hother
        exact hsound.names other (List.mem_of_mem_eraseIdx hother)

theorem IsSound.after (hsound : run.IsSound config system) (hsystem : system.IgnoresCase)
    (event : ResolverEvent) : (run.after system event).IsSound config system := by
  cases event with
  | wait milliseconds =>
      exact { hsound with
        kept := fun host port later hlater =>
          hsound.kept host port later (Nat.le_of_add_right_le hlater)
        past := fun inquiry hinquiry => Nat.le_add_right_of_le (hsound.past inquiry hinquiry) }
  | purge => exact hsound.purge
  | ask host port =>
      rw [ResolverRun.after, hsound.known?_eq]
      cases hrecalled : recalled? config run.told host port run.now with
      | some endpoint => exact hsound.tell (hsound.isExact_recalled hsystem hrecalled rfl)
      | none =>
          refine hsound.askSystem ?_
          rw [recalled?] at hrecalled
          cases hname : Ip.ofText? host with
          | some ip =>
              rw [hname] at hrecalled
              exact absurd hrecalled (by simp)
          | none => rfl
  | answer place => exact hsound.answer place

theorem IsSound.afterAll (hsound : run.IsSound config system) (hsystem : system.IgnoresCase)
    (events : List ResolverEvent) : (run.afterAll system events).IsSound config system :=
  List.foldlRecOn (motive := fun run => IsSound config system run) events _ hsound
    fun _ hsound event _ => hsound.after hsystem event

end ResolverRun

end Muster
