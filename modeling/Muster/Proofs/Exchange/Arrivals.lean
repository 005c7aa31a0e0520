import Muster.Proofs.Exchange.Attribution
import Muster.Proofs.Exchange.Leaving
import Muster.Query.Report

/-!
# Arrivals

A message is stamped when it arrives and is handed out later, after all that arrived before it; in
the meantime requests are made, sent off, ended and dropped.  Which requests it answers depends on
what has been sent by the time it is handed out, not on what had been sent when it arrived.  A
request may so be answered by a message from before it was sent, but only by one that was still to
be handed out when it was.
-/

namespace Muster

open Exchange

/-- An exchange and the messages that have arrived and are still to be handed out. -/
structure Reception where
  timed : Timed
  /-- The oldest comes first. -/
  waiting : List Inbound

namespace Reception

/-- What happens to an exchange and to the messages for it. -/
inductive Act where
  /-- A message arrives; datagrams that hold none are dropped. -/
  | arrive (sender : Endpoint) (message : Message)
  /-- The next message is handed out. -/
  | handOut
  /-- The next message is dropped, since nobody has asked for its command. -/
  | passOver
  /-- Something else is done with the exchange, or time passes. -/
  | call (call : Call)

def after (reception : Reception) : Act → Reception
  | .arrive sender message =>
    { reception with
      waiting := reception.waiting ++ [⟨sender, message, reception.timed.now⟩] }
  | .handOut =>
    match reception.waiting with
    | [] => reception
    | inbound :: rest => ⟨reception.timed.after (.dispatch inbound), rest⟩
  | .passOver => { reception with waiting := reception.waiting.tail }
  | .call call => { reception with timed := reception.timed.after call }

def run (acts : List Act) : Reception :=
  acts.foldl after ⟨.start, []⟩

def Act.Sends (act : Act) (id : RequestId) : Prop :=
  act = .call (.markSent id) ∨ act = .call (.activate id)

/-- A request was sent off when a message had arrived and was still to be handed out. -/
def SentAmid (acts : List Act) (id : RequestId) (sentAt : Nat) (inbound : Inbound) : Prop :=
  ∃ earlier act, earlier ++ [act] <+: acts ∧ act.Sends id ∧
    (run earlier).timed.now = sentAt ∧ inbound ∈ (run earlier).waiting

variable {reception next : Reception} {acts : List Act} {act : Act} {timed : Timed} {call : Call}
  {id : RequestId} {request : Request} {inbound : Inbound} {sentAt : Nat}

theorem run_concat (acts : List Act) (act : Act) : run (acts ++ [act]) = (run acts).after act :=
  List.foldl_concat ..

theorem SentAmid.concat (hamid : SentAmid acts id sentAt inbound) (act : Act) :
    SentAmid (acts ++ [act]) id sentAt inbound := by
  obtain ⟨earlier, sending, hwithin, hsent⟩ := hamid
  exact ⟨earlier, sending, hwithin.trans (List.prefix_append acts [act]), hsent⟩

/-! ## One act -/

theorem sentAt_markSent {now : Nat} (hsent : (request.markSent now).sentAt = some sentAt) :
    request.sentAt = some sentAt ∨ sentAt = now := by
  cases hearlier : request.sentAt with
  | none =>
      rw [Request.markSent, hearlier] at hsent
      exact Or.inr (Option.some.inj hsent).symm
  | some earlier =>
      rw [Request.markSent, hearlier] at hsent
      exact Or.inl hsent

/-- A request keeps the time at which it was sent first. -/
theorem sentAt_of_changed (hsent : (timed.changed request call).sentAt = some sentAt) :
    request.sentAt = some sentAt ∨ (sentAt = timed.now ∧ Act.Sends (.call call) request.id) := by
  rcases timed.sentAt_changed request call with hsame | rfl | rfl
  · exact Or.inl (hsame.symm.trans hsent)
  · have hchanged : timed.changed request (.markSent request.id) = request.markSent timed.now :=
      if_pos rfl
    rw [hchanged] at hsent
    exact (sentAt_markSent hsent).imp_right fun hnow => ⟨hnow, Or.inl rfl⟩
  · have hchanged : timed.changed request (.activate request.id) =
        if request.id = request.id ∧ request.state = .created then
          request.activate timed.exchange.nextTurn timed.now
        else request := rfl
    rw [hchanged] at hsent
    split_ifs at hsent
    · exact (sentAt_markSent hsent).imp_right fun hnow => ⟨hnow, Or.inr rfl⟩
    · exact Or.inl hsent

/-- The time at which a request was sent was known before a call, or the call sends it now. -/
theorem sentAt_after (horderly : timed.exchange.IsOrderly) (hswept : timed.exchange.IsSwept)
    (hget : (timed.after call).exchange.get? id = some request)
    (hsent : request.sentAt = some sentAt) :
    (∃ earlier, timed.exchange.get? id = some earlier ∧ earlier.sentAt = some sentAt) ∨
      (sentAt = timed.now ∧ Act.Sends (.call call) id) := by
  rcases Timed.known_after horderly hswept hget with ⟨earlier, hearlier, rfl, -⟩ | ⟨hmade, -⟩
  · obtain ⟨-, rfl⟩ := mem_of_get? hearlier
    exact (sentAt_of_changed hsent).imp_left fun hbefore => ⟨earlier, hearlier, hbefore⟩
  · obtain ⟨-, -, -, -, hnone, -⟩ := Timed.made?_eq_some hmade
    exact absurd (hnone.symm.trans hsent) (by simp)

/-- What an act does to the times: what is new is of now. -/
structure Follows (before : Reception) (act : Act) (after : Reception) : Prop where
  isOrderly : after.timed.exchange.IsOrderly
  isSwept : after.timed.exchange.IsSwept
  now_le : before.timed.now ≤ after.timed.now
  waiting : ∀ inbound ∈ after.waiting,
    inbound ∈ before.waiting ∨ inbound.receivedAt = before.timed.now
  sent : ∀ id request sentAt, after.timed.exchange.get? id = some request →
    request.sentAt = some sentAt →
    (∃ earlier, before.timed.exchange.get? id = some earlier ∧ earlier.sentAt = some sentAt) ∨
      (sentAt = before.timed.now ∧ act.Sends id)

section

variable (horderly : reception.timed.exchange.IsOrderly) (hswept : reception.timed.exchange.IsSwept)
include horderly hswept

/-- Nothing is done with the exchange. -/
theorem follows_of_timed (htimed : next.timed = reception.timed)
    (hwaiting : ∀ inbound ∈ next.waiting,
      inbound ∈ reception.waiting ∨ inbound.receivedAt = reception.timed.now) :
    Follows reception act next := by
  refine ⟨htimed ▸ horderly, htimed ▸ hswept, htimed ▸ Nat.le_refl _, hwaiting, ?_⟩
  intro id request sentAt hget hsent
  rw [htimed] at hget
  exact Or.inl ⟨request, hget, hsent⟩

theorem follows_of_call (call : Call) (htimed : next.timed = reception.timed.after call)
    (hwaiting : ∀ inbound ∈ next.waiting, inbound ∈ reception.waiting)
    (hsends : ∀ id, Act.Sends (.call call) id → act.Sends id) :
    Follows reception act next := by
  obtain ⟨hnext, hclean⟩ := Timed.isOrderly_after horderly hswept call
  refine ⟨htimed ▸ hnext, htimed ▸ hclean, htimed ▸ Timed.now_le_after _ call, ?_, ?_⟩
  · intro inbound hinbound
    exact Or.inl (hwaiting inbound hinbound)
  · intro id request sentAt hget hsent
    rw [htimed] at hget
    exact (sentAt_after horderly hswept hget hsent).imp_right (And.imp_right (hsends id))

theorem follows_after (act : Act) : Follows reception act (reception.after act) := by
  cases act with
  | arrive sender message =>
      refine follows_of_timed horderly hswept rfl ?_
      intro inbound hinbound
      refine (List.mem_append.mp hinbound).imp_right fun hnew => ?_
      rw [List.mem_singleton.mp hnew]
  | handOut =>
      rw [after]
      split
      next => exact follows_of_timed horderly hswept rfl fun _ => Or.inl
      next inbound rest hwaiting =>
        refine follows_of_call horderly hswept (.dispatch inbound) rfl ?_ (by simp [Act.Sends])
        intro other hother
        exact hwaiting ▸ List.mem_cons_of_mem inbound hother
  | passOver =>
      exact follows_of_timed horderly hswept rfl fun _ hinbound =>
        Or.inl (List.mem_of_mem_tail hinbound)
  | call call =>
      exact follows_of_call horderly hswept call rfl (fun _ => id) fun _ => id

end

/-! ## All acts -/

/-- Nothing is of the future, and a request was sent no later than a message arrived that is still
to be handed out, unless the message was there already when the request was sent. -/
structure IsDated (acts : List Act) : Prop where
  isOrderly : (run acts).timed.exchange.IsOrderly
  isSwept : (run acts).timed.exchange.IsSwept
  arrived : ∀ inbound ∈ (run acts).waiting, inbound.receivedAt ≤ (run acts).timed.now
  sent : ∀ id request sentAt, (run acts).timed.exchange.get? id = some request →
    request.sentAt = some sentAt → sentAt ≤ (run acts).timed.now ∧
      ∀ inbound ∈ (run acts).waiting,
        sentAt ≤ inbound.receivedAt ∨ SentAmid acts id sentAt inbound

theorem isDated_nil : IsDated [] := by
  refine ⟨isOrderly_empty, isSwept_empty, ?_, ?_⟩
  · intro inbound hwaiting
    exact absurd hwaiting List.not_mem_nil
  · intro id request sentAt hget
    exact absurd hget (by simp [run, Timed.start, Exchange.get?, Exchange.empty])

theorem IsDated.concat (hdated : IsDated acts) (act : Act) : IsDated (acts ++ [act]) := by
  have hfollows := follows_after hdated.isOrderly hdated.isSwept act
  rw [← run_concat] at hfollows
  refine ⟨hfollows.isOrderly, hfollows.isSwept, ?_, ?_⟩
  · intro inbound hinbound
    refine Nat.le_trans ?_ hfollows.now_le
    rcases hfollows.waiting inbound hinbound with hearlier | hnew
    · exact hdated.arrived inbound hearlier
    · exact Nat.le_of_eq hnew
  · intro id request sentAt hget hsent
    rcases hfollows.sent id request sentAt hget hsent with
      ⟨earlier, hearlier, hbefore⟩ | ⟨rfl, hsends⟩
    · obtain ⟨hpast, hall⟩ := hdated.sent id earlier sentAt hearlier hbefore
      refine ⟨Nat.le_trans hpast hfollows.now_le, fun inbound hinbound => ?_⟩
      rcases hfollows.waiting inbound hinbound with hthere | hnew
      · exact (hall inbound hthere).imp_right (SentAmid.concat · act)
      · exact Or.inl (hnew ▸ hpast)
    · -- The request is sent now, amid the messages that are still to be handed out.
      refine ⟨hfollows.now_le, fun inbound hinbound => ?_⟩
      rcases hfollows.waiting inbound hinbound with hthere | hnew
      · exact Or.inr ⟨acts, act, List.prefix_rfl, hsends, rfl, hthere⟩
      · exact Or.inl (Nat.le_of_eq hnew.symm)

theorem isDated (acts : List Act) : IsDated acts := by
  induction acts using List.reverseRecOn with
  | nil => exact isDated_nil
  | append_singleton acts act ih => exact ih.concat act

/-- The round trip of a request that is answered by a message from before it was sent is taken for
none at all. -/
theorem ping_eq_zero (hsent : request.sentAt = some sentAt) (hearly : inbound.receivedAt ≤ sentAt) :
    request.ping inbound = 0 := by
  rw [Request.ping, hsent]
  simp only [Nat.sub_eq_zero_of_le hearly]
  rfl

/-- Whatever happened before, the next message answers all open requests that await its command from
its sender and have been sent by now.  Each of them had been sent when the message arrived, or it
was sent while the message was still to be handed out; the report then shows no round trip. -/
theorem sent_before_arrival_or_amid (acts : List Act) {inbound : Inbound} {rest : List Inbound}
    (hnext : (run acts).waiting = inbound :: rest) :
    ∃ answered, Answers (run acts).timed.exchange inbound
        (run (acts ++ [.handOut])).timed.exchange
        ((run acts).timed.exchange.dispatch inbound).2 answered ∧
      ∀ request ∈ answered, ∃ sentAt, request.sentAt = some sentAt ∧
        sentAt ≤ (run acts).timed.now ∧
        (sentAt ≤ inbound.receivedAt ∨
          (SentAmid acts request.id sentAt inbound ∧ request.ping inbound = 0)) := by
  have hdated := isDated acts
  have hrun : (run (acts ++ [.handOut])).timed.exchange =
      ((run acts).timed.exchange.dispatch inbound).1 := by
    rw [run_concat, after, hnext]
    rfl
  have hanswers := Timed.answers_dispatch hdated.isOrderly hdated.isSwept inbound
  refine ⟨_, hrun ▸ hanswers, fun request hrequest => ?_⟩
  obtain ⟨hmember, -, -, -, hsome, -⟩ := (hanswers.mem_iff request).mp hrequest
  obtain ⟨sentAt, hsent⟩ := Option.isSome_iff_exists.mp hsome
  have hget := get?_of_mem hdated.isOrderly.nodup_ids hmember
  obtain ⟨hpast, hall⟩ := hdated.sent request.id request sentAt hget hsent
  have hinbound : inbound ∈ (run acts).waiting := hnext ▸ List.mem_cons_self
  refine ⟨sentAt, hsent, hpast, ?_⟩
  rcases Nat.lt_or_ge inbound.receivedAt sentAt with hearly | hinTime
  · have hamid := (hall inbound hinbound).resolve_left (Nat.not_le.mpr hearly)
    exact Or.inr ⟨hamid, ping_eq_zero hsent (Nat.le_of_lt hearly)⟩
  · exact Or.inl hinTime

/-- A request runs out of time just before its answer arrives; another one like it is made and sent
before that answer is handed out. -/
def askedAgain : List Act :=
  [.call (.create (.loopback 28960) ProbeKind.info.request "infoResponse" 10 .caller),
    .call (.insert 0), .call (.markSent 0), .call (.activate 0), .call (.advance 10),
    .call (.remove 0), .arrive (.loopback 28960) ⟨"infoResponse", "", '\n'⟩, .call (.advance 20),
    .call (.create (.loopback 28960) ProbeKind.info.request "infoResponse" 10 .caller),
    .call (.insert 1), .call (.markSent 1), .call (.activate 1)]

/-- The request that is answered was sent before its message was handed out, though after it
arrived. -/
theorem sent_before_arrival_or_amid_askedAgain :
    ∃ inbound answered, (run askedAgain).waiting = [inbound] ∧
      Answers (run askedAgain).timed.exchange inbound
        (run (askedAgain ++ [.handOut])).timed.exchange
        ((run askedAgain).timed.exchange.dispatch inbound).2 answered ∧
      answered.length = 1 ∧ ∀ request ∈ answered, ∃ sentAt, request.sentAt = some sentAt ∧
        sentAt ≤ (run askedAgain).timed.now ∧
        (sentAt ≤ inbound.receivedAt ∨
          (SentAmid askedAgain request.id sentAt inbound ∧ request.ping inbound = 0)) := by
  have hnext : (run askedAgain).waiting =
      [⟨.loopback 28960, ⟨"infoResponse", "", '\n'⟩, 10⟩] := by rfl
  obtain ⟨answered, hanswers, hsent⟩ := sent_before_arrival_or_amid askedAgain hnext
  exact ⟨_, answered, hnext, hanswers, hanswers.count_eq.symm, hsent⟩

/-- A request that a message answers need not have been sent when the message arrived. -/
theorem not_sentAt_le_receivedAt :
    ¬ ∀ (acts : List Act) (inbound : Inbound) (rest : List Inbound) (id : RequestId)
      (request later : Request) (sentAt : Nat),
      (run acts).waiting = inbound :: rest →
      (run acts).timed.exchange.get? id = some request → request.state.isFinal = false →
      (run (acts ++ [.handOut])).timed.exchange.get? id = some later →
      later.state = .completed → later.sentAt = some sentAt → sentAt ≤ inbound.receivedAt := by
  intro hclaim
  have hearly := hclaim askedAgain ⟨.loopback 28960, ⟨"infoResponse", "", '\n'⟩, 10⟩ [] 1 _ _ 30
    rfl rfl rfl rfl rfl rfl
  exact absurd hearly (by decide)

end Reception

end Muster
