import Mathlib.Data.List.Induction
import Mathlib.Data.List.Nodup
import Mathlib.Tactic.SplitIfs
import Muster.Exchange.Dispatcher
import Muster.Proofs.Keyed
import Muster.Proofs.Parts

/-!
# Handlers that stand

A handler stands from its registration until its subscription is dropped, whether by its holder or
because the label goes to another one.  The table lists under each command the handlers that stand,
in the order of their registration, and nothing else.
-/

namespace Muster

/-! ## The table -/

namespace HandlerTable

variable {table : HandlerTable} {command other label : String} {reaction : Reaction} {id : Nat}

/-- No command is listed twice, and none without handlers. -/
structure IsTidy (table : HandlerTable) : Prop where
  nodup : (table.lists.map (·.1)).Nodup
  filled : ∀ entry ∈ table.lists, entry.2 ≠ []

theorem isTidy_empty : empty.IsTidy :=
  ⟨List.nodup_nil, by simp [empty]⟩

theorem get_add (table : HandlerTable) (command label : String) (reaction : Reaction)
    (other : String) :
    (table.add command label reaction).get other =
      if other = command then table.get other ++ [⟨table.nextId, label, reaction⟩]
      else table.get other := by
  rw [get, add, Keyed.find?_alter]
  split_ifs <;> rfl

theorem IsTidy.add (htidy : table.IsTidy) (command label : String) (reaction : Reaction) :
    (table.add command label reaction).IsTidy := by
  refine ⟨Keyed.nodup_keys_alter htidy.nodup _ _, ?_⟩
  intro entry hentry
  rcases Keyed.mem_alter hentry with ⟨known, rfl⟩ | hearlier
  · exact List.append_ne_nil_of_right_ne_nil _ (List.cons_ne_nil _ _)
  · exact htidy.filled entry hearlier

@[simp]
theorem strike_fst (command : String) (id : Nat) (entry : String × List Handler) :
    (strike command id entry).1 = entry.1 := by
  rw [strike]
  split_ifs <;> rfl

theorem keys_strike (command : String) (id : Nat) (lists : List (String × List Handler)) :
    (lists.map (strike command id)).map (·.1) = lists.map (·.1) := by
  rw [List.map_map]
  exact List.map_congr_left fun entry _ => strike_fst command id entry

/-- Removing a handler changes the list of its command alone. -/
theorem get_remove (htidy : table.IsTidy) (command : String) (id : Nat) (other : String) :
    (table.remove command id).get other =
      if other = command then (table.get other).filter fun handler => handler.id != id
      else table.get other := by
  have hkeys : ((table.lists.map (strike command id)).map (·.1)).Nodup := by
    rw [keys_strike]
    exact htidy.nodup
  have hfound : (table.lists.map (strike command id)).find? (fun entry => entry.1 == other) =
      (table.lists.find? fun entry => entry.1 == other).map (strike command id) := by
    rw [List.find?_map]
    simp only [Function.comp_def, strike_fst]
  rw [get, remove, Parts.find?_filter_key hkeys, hfound, get]
  cases hentry : table.lists.find? fun entry => entry.1 == other with
  | none =>
      rw [Option.map_none, Option.filter_none]
      split_ifs <;> rfl
  | some entry =>
      have hkey : (entry.1 == other) = true :=
        List.find?_some (p := fun entry : String × List Handler => entry.1 == other) hentry
      rw [beq_iff_eq] at hkey
      simp only [Option.map_some, Option.getD_some, strike, hkey]
      split_ifs with hcommand
      · -- The list is found unless it has become empty, and then there is none.
        cases hkept : entry.2.filter fun handler => handler.id != id <;>
          simp [Option.filter, hcommand]
      · simp [Option.filter, hkey, hcommand]

theorem IsTidy.remove (htidy : table.IsTidy) (command : String) (id : Nat) :
    (table.remove command id).IsTidy := by
  constructor
  case nodup =>
    refine List.Nodup.sublist (List.filter_sublist.map _) ?_
    rw [keys_strike]
    exact htidy.nodup
  case filled =>
    intro entry hentry
    obtain ⟨hmember, hkept⟩ := List.mem_filter.mp hentry
    obtain ⟨earlier, hearlier, rfl⟩ := List.mem_map.mp hmember
    by_cases hcommand : earlier.1 = command
    · simpa [hcommand] using hkept
    · rw [strike, if_neg hcommand]
      exact htidy.filled earlier hearlier

end HandlerTable

/-! ## Changes -/

/-- What is done about the handlers. -/
inductive HandlerChange where
  | register (command label : String) (reaction : Reaction)
  | drop (label : String)
  deriving DecidableEq, Repr

def Reaction.changes : Reaction → List HandlerChange
  | .nothing => []
  | .drop label next => .drop label :: next.changes
  | .register command label reaction next => .register command label reaction :: next.changes

namespace HandlerChange

def isRegistration : HandlerChange → Bool
  | register .. => true
  | drop _ => false

def takesLabel (change : HandlerChange) (label : String) : Bool :=
  match change with
  | register _ other _ => other == label
  | drop other => other == label

end HandlerChange

def registrations (changes : List HandlerChange) : Nat :=
  changes.countP HandlerChange.isRegistration

theorem registrations_append (changes more : List HandlerChange) :
    registrations (changes ++ more) = registrations changes + registrations more :=
  List.countP_append

theorem registrations_concat (changes : List HandlerChange) (change : HandlerChange) :
    registrations (changes ++ [change]) =
      registrations changes + if change.isRegistration then 1 else 0 := by
  rw [registrations_append, registrations, registrations, List.countP_singleton]

theorem registrations_lt_of_cons (change : HandlerChange) (hregistration : change.isRegistration)
    (earlier later : List HandlerChange) :
    registrations earlier < registrations (earlier ++ change :: later) := by
  rw [registrations_append, registrations, registrations, List.countP_cons, if_pos hregistration]
  omega

/-- One of the changes registered the handler for the command, and none after it took its label
away. -/
def Handler.Stands (changes : List HandlerChange) (command : String) (handler : Handler) : Prop :=
  ∃ earlier given later,
    changes = earlier ++ .register given handler.label handler.reaction :: later ∧
    Message.lookupName given = command ∧ handler.id = registrations earlier ∧
    ∀ change ∈ later, change.takesLabel handler.label = false

namespace Handler

variable {changes more : List HandlerChange} {change : HandlerChange} {command other : String}
  {handler second : Handler}

theorem not_stands_nil : ¬ handler.Stands [] command := by
  rintro ⟨earlier, given, later, hnil, -⟩
  exact absurd hnil (by simp)

/-- Handlers are numbered by their registrations. -/
theorem Stands.id_lt (hstands : handler.Stands changes command) :
    handler.id < registrations changes := by
  obtain ⟨earlier, given, later, rfl, -, hid, -⟩ := hstands
  rw [hid]
  exact registrations_lt_of_cons _ rfl earlier later

/-- Who stands after one more change stood before it and keeps the label, or is registered by it. -/
theorem stands_concat :
    handler.Stands (changes ++ [change]) command ↔
      (handler.Stands changes command ∧ change.takesLabel handler.label = false) ∨
        handler.id = registrations changes ∧
          ∃ given, change = .register given handler.label handler.reaction ∧
            Message.lookupName given = command := by
  constructor
  · rintro ⟨earlier, given, later, hchanges, hcommand, hid, hlater⟩
    rcases Parts.concat_eq_append_cons hchanges with ⟨rfl, rfl, rfl⟩ | ⟨before, rfl, rfl⟩
    · exact Or.inr ⟨hid, given, rfl, hcommand⟩
    · rw [List.forall_mem_append, List.forall_mem_singleton] at hlater
      exact Or.inl ⟨⟨earlier, given, before, rfl, hcommand, hid, hlater.1⟩, hlater.2⟩
  · rintro (⟨⟨earlier, given, later, rfl, hcommand, hid, hlater⟩, hkept⟩ |
      ⟨hid, given, rfl, hcommand⟩)
    · refine ⟨earlier, given, later ++ [change], by simp, hcommand, hid, ?_⟩
      rw [List.forall_mem_append, List.forall_mem_singleton]
      exact ⟨hlater, hkept⟩
    · exact ⟨changes, given, [], rfl, hcommand, hid, by simp⟩

theorem stands_concat_drop {label : String} :
    handler.Stands (changes ++ [.drop label]) command ↔
      handler.Stands changes command ∧ handler.label ≠ label := by
  rw [stands_concat, HandlerChange.takesLabel, beq_eq_false_iff_ne, ne_comm]
  exact or_iff_left fun ⟨_, _, hregistered, _⟩ => HandlerChange.noConfusion hregistered

/-- A new subscription takes the label from whoever had it. -/
theorem stands_concat_register {given label : String} {reaction : Reaction} :
    handler.Stands (changes ++ [.register given label reaction]) command ↔
      (handler.Stands changes command ∧ handler.label ≠ label) ∨
        handler = ⟨registrations changes, label, reaction⟩ ∧
          command = Message.lookupName given := by
  rw [stands_concat, HandlerChange.takesLabel, beq_eq_false_iff_ne, ne_comm]
  refine or_congr_right ⟨?_, ?_⟩
  · rintro ⟨hid, named, hregistered, hcommand⟩
    obtain ⟨rfl, rfl, rfl⟩ := HandlerChange.register.inj hregistered
    rw [← hid]
    exact ⟨rfl, hcommand.symm⟩
  · rintro ⟨rfl, rfl⟩
    exact ⟨rfl, given, rfl, rfl⟩

/-- Who stood before some changes still does unless one of them took the label away; who did not
stand before them is registered by one of them. -/
theorem stands_append :
    handler.Stands (changes ++ more) command →
      (handler.Stands changes command ∧ ∀ change ∈ more, change.takesLabel handler.label = false) ∨
        registrations changes ≤ handler.id := by
  induction more using List.reverseRecOn with
  | nil =>
      intro hstands
      rw [List.append_nil] at hstands
      exact Or.inl ⟨hstands, by simp⟩
  | append_singleton more change ih =>
      intro hstands
      rw [← List.append_assoc, stands_concat] at hstands
      rcases hstands with ⟨hbefore, hkept⟩ | ⟨hid, -⟩
      · refine (ih hbefore).imp_left fun hearlier => ⟨hearlier.1, ?_⟩
        rw [List.forall_mem_append, List.forall_mem_singleton]
        exact ⟨hearlier.2, hkept⟩
      · right
        rw [hid, registrations_append]
        exact Nat.le_add_right _ _

/-- Nobody else stands with the number or the label of a handler that stands. -/
theorem Stands.eq_of_same (hfirst : handler.Stands changes command)
    (hsecond : second.Stands changes other)
    (hsame : handler.id = second.id ∨ handler.label = second.label) :
    handler = second ∧ command = other := by
  obtain ⟨earlier, given, later, rfl, hcommand, hid, hlater⟩ := hfirst
  obtain ⟨before, named, behind, hchanges, hother, hnumber, hbehind⟩ := hsecond
  rcases Parts.append_cons_cases hchanges with
    ⟨rfl, hregistered, -⟩ | ⟨between, rfl, rfl⟩ | ⟨between, rfl, rfl⟩
  · obtain ⟨rfl, hlabel, hreaction⟩ := HandlerChange.register.inj hregistered
    obtain ⟨id, label, reaction⟩ := handler
    obtain ⟨number, name, conduct⟩ := second
    simp only at hid hnumber hlabel hreaction
    rw [hid, hnumber, hlabel, hreaction, ← hcommand, ← hother]
    exact ⟨rfl, rfl⟩
  · -- The second one was registered later, so it has a greater number and would have the label.
    rcases hsame with hsame | hsame
    · have hless := registrations_lt_of_cons
        (.register given handler.label handler.reaction) rfl earlier between
      rw [← hid, ← hnumber, hsame] at hless
      exact absurd hless (Nat.lt_irrefl _)
    · have htaken := hlater (.register named second.label second.reaction) (by simp)
      rw [HandlerChange.takesLabel, hsame, beq_self_eq_true] at htaken
      exact absurd htaken (by decide)
  · rcases hsame with hsame | hsame
    · have hless := registrations_lt_of_cons
        (.register named second.label second.reaction) rfl before between
      rw [← hid, ← hnumber, hsame] at hless
      exact absurd hless (Nat.lt_irrefl _)
    · have htaken := hbehind (.register given handler.label handler.reaction) (by simp)
      rw [HandlerChange.takesLabel, hsame, beq_self_eq_true] at htaken
      exact absurd htaken (by decide)

end Handler

/-! ## What a dispatcher keeps of the changes -/

namespace Dispatcher

variable {dispatcher : Dispatcher} {changes : List HandlerChange} {command label : String}
  {handler : Handler} {id : Nat}

def change (dispatcher : Dispatcher) : HandlerChange → Dispatcher
  | .register command label reaction => dispatcher.register command label reaction
  | .drop label => dispatcher.drop label

def changeAll (dispatcher : Dispatcher) (changes : List HandlerChange) : Dispatcher :=
  changes.foldl change dispatcher

theorem react_eq (dispatcher : Dispatcher) (reaction : Reaction) :
    dispatcher.react reaction = dispatcher.changeAll reaction.changes := by
  induction reaction generalizing dispatcher with
  | nothing => rfl
  | drop label next ih => exact ih (dispatcher.drop label)
  | register command label reaction next _ ih =>
      exact ih (dispatcher.register command label reaction)

/-- The table lists the handlers that stand after the changes, in the order of registration, and
each of them has its subscription. -/
structure Records (dispatcher : Dispatcher) (changes : List HandlerChange) : Prop where
  tidy : dispatcher.table.IsTidy
  nextId_eq : dispatcher.table.nextId = registrations changes
  ordered : ∀ command, (dispatcher.table.get command).Pairwise fun first second =>
    first.id < second.id
  mem_get : ∀ command handler,
    handler ∈ dispatcher.table.get command ↔ handler.Stands changes command
  mem_subscriptions : ∀ subscription,
    subscription ∈ dispatcher.subscriptions ↔ ∃ reaction,
      (⟨subscription.id, subscription.label, reaction⟩ : Handler).Stands changes
        subscription.command

theorem records_empty : empty.Records [] where
  tidy := HandlerTable.isTidy_empty
  nextId_eq := rfl
  ordered := fun _ => List.Pairwise.nil
  mem_get := fun _ _ => iff_of_false List.not_mem_nil Handler.not_stands_nil
  mem_subscriptions := fun _ =>
    iff_of_false List.not_mem_nil fun ⟨_, hstands⟩ => Handler.not_stands_nil hstands

/-! ## Dropping -/

/-- The subscription that is dropped with the label names the handler. -/
def Strikes (dispatcher : Dispatcher) (label command : String) (id : Nat) : Prop :=
  ∃ dropped, dispatcher.subscriptions.find? (fun subscription => subscription.label == label) =
    some dropped ∧ command = dropped.command ∧ id = dropped.id

theorem get_drop_sublist (htidy : dispatcher.table.IsTidy) (label command : String) :
    ((dispatcher.drop label).table.get command).Sublist (dispatcher.table.get command) := by
  rw [drop]
  cases dispatcher.subscriptions.find? fun subscription => subscription.label == label with
  | none => exact List.Sublist.refl _
  | some dropped =>
      rw [HandlerTable.get_remove htidy]
      split_ifs
      · exact List.filter_sublist
      · exact List.Sublist.refl _

/-- Dropping a label takes one handler out of the table, and only under its own command. -/
theorem mem_get_drop (htidy : dispatcher.table.IsTidy) (label command : String)
    (handler : Handler) :
    handler ∈ (dispatcher.drop label).table.get command ↔
      handler ∈ dispatcher.table.get command ∧ ¬ dispatcher.Strikes label command handler.id := by
  rw [drop, Strikes]
  cases dispatcher.subscriptions.find? fun subscription => subscription.label == label with
  | none => simp
  | some dropped =>
      rw [HandlerTable.get_remove htidy]
      split_ifs with hcommand <;> simp [hcommand]

theorem mem_subscriptions_drop (dispatcher : Dispatcher) (label : String)
    (subscription : Subscription) :
    subscription ∈ (dispatcher.drop label).subscriptions ↔
      subscription ∈ dispatcher.subscriptions ∧ subscription.label ≠ label := by
  rw [drop]
  cases hfound : dispatcher.subscriptions.find? fun subscription => subscription.label == label with
  | none =>
      refine (and_iff_left_of_imp fun hmember hlabel => ?_).symm
      exact List.find?_eq_none.mp hfound subscription hmember (beq_iff_eq.mpr hlabel)
  | some dropped => simp

theorem tidy_drop (htidy : dispatcher.table.IsTidy) (label : String) :
    (dispatcher.drop label).table.IsTidy ∧
      (dispatcher.drop label).table.nextId = dispatcher.table.nextId := by
  rw [drop]
  cases dispatcher.subscriptions.find? fun subscription => subscription.label == label with
  | none => exact ⟨htidy, rfl⟩
  | some dropped => exact ⟨htidy.remove dropped.command dropped.id, rfl⟩

/-- A label strikes the handler that stands with it and no other. -/
theorem Records.strikes_iff (hrecords : dispatcher.Records changes)
    (hstands : handler.Stands changes command) (label : String) :
    dispatcher.Strikes label command handler.id ↔ handler.label = label := by
  constructor
  · rintro ⟨dropped, hfound, hcommand, hid⟩
    have hlabel : dropped.label = label := beq_iff_eq.mp (List.find?_some
      (p := fun subscription : Subscription => subscription.label == label) hfound)
    obtain ⟨reaction, hdropped⟩ :=
      (hrecords.mem_subscriptions dropped).mp (List.mem_of_find?_eq_some hfound)
    obtain ⟨hsame, -⟩ := hstands.eq_of_same hdropped (Or.inl hid)
    rw [hsame]
    exact hlabel
  · rintro rfl
    have hheld : (⟨handler.label, command, handler.id⟩ : Subscription) ∈
        dispatcher.subscriptions :=
      (hrecords.mem_subscriptions _).mpr ⟨handler.reaction, hstands⟩
    have hsome := List.find?_isSome (p := fun subscription : Subscription =>
      subscription.label == handler.label).mpr ⟨_, hheld, beq_self_eq_true _⟩
    obtain ⟨dropped, hfound⟩ := Option.isSome_iff_exists.mp hsome
    have hlabel : dropped.label = handler.label := beq_iff_eq.mp (List.find?_some
      (p := fun subscription : Subscription => subscription.label == handler.label) hfound)
    obtain ⟨reaction, hdropped⟩ :=
      (hrecords.mem_subscriptions dropped).mp (List.mem_of_find?_eq_some hfound)
    obtain ⟨hsame, hcommand⟩ := hstands.eq_of_same hdropped (Or.inr hlabel.symm)
    exact ⟨dropped, hfound, hcommand, congrArg Handler.id hsame⟩

theorem Records.drop (hrecords : dispatcher.Records changes) (label : String) :
    (dispatcher.drop label).Records (changes ++ [.drop label]) := by
  obtain ⟨htidy, hnext⟩ := tidy_drop hrecords.tidy label
  constructor
  case tidy => exact htidy
  case nextId_eq =>
    rw [hnext, hrecords.nextId_eq, registrations_concat]
    rfl
  case ordered =>
    exact fun command => (hrecords.ordered command).sublist
      (get_drop_sublist hrecords.tidy label command)
  case mem_get =>
    intro command handler
    rw [mem_get_drop hrecords.tidy, hrecords.mem_get, Handler.stands_concat_drop]
    exact and_congr_right fun hbefore => not_congr (hrecords.strikes_iff hbefore label)
  case mem_subscriptions =>
    intro subscription
    rw [mem_subscriptions_drop, hrecords.mem_subscriptions]
    simp only [Handler.stands_concat_drop, exists_and_right]

/-- A subscription that gives up its label names an earlier handler than the one to come. -/
theorem Records.not_strikes_nextId (hrecords : dispatcher.Records changes) (table : HandlerTable)
    (label command : String) :
    ¬ ({ dispatcher with table := table } : Dispatcher).Strikes label command
      dispatcher.table.nextId := by
  rintro ⟨dropped, hfound, -, hid⟩
  obtain ⟨reaction, hdropped⟩ :=
    (hrecords.mem_subscriptions dropped).mp (List.mem_of_find?_eq_some hfound)
  have hless := hdropped.id_lt
  rw [← hrecords.nextId_eq] at hless
  exact absurd hid (Nat.ne_of_gt hless)

/-- The new handler is the last to stand. -/
theorem Records.register (hrecords : dispatcher.Records changes) (given label : String)
    (reaction : Reaction) :
    (dispatcher.register given label reaction).Records
      (changes ++ [.register given label reaction]) := by
  let name := Message.lookupName given
  let made : Handler := ⟨dispatcher.table.nextId, label, reaction⟩
  let added : Dispatcher :=
    { dispatcher with table := dispatcher.table.add name label reaction }
  have hadded : added.table.IsTidy := hrecords.tidy.add name label reaction
  obtain ⟨htidy, hnext⟩ := tidy_drop hadded label
  have hget : ∀ command, added.table.get command =
      if command = name then dispatcher.table.get command ++ [made]
      else dispatcher.table.get command :=
    HandlerTable.get_add dispatcher.table name label reaction
  have hmade : made = ⟨registrations changes, label, reaction⟩ := by rw [← hrecords.nextId_eq]
  constructor
  case tidy => exact htidy
  case nextId_eq =>
    rw [registrations_concat, ← hrecords.nextId_eq]
    exact hnext
  case ordered =>
    intro command
    refine List.Pairwise.sublist (get_drop_sublist hadded label command) ?_
    rw [hget]
    split_ifs
    · rw [List.pairwise_append]
      refine ⟨hrecords.ordered command, List.pairwise_singleton _ _, ?_⟩
      intro handler hhandler _ hmade
      rw [List.mem_singleton.mp hmade]
      have hless := ((hrecords.mem_get command handler).mp hhandler).id_lt
      rwa [← hrecords.nextId_eq] at hless
    · exact hrecords.ordered command
  case mem_get =>
    intro command handler
    have hmember : handler ∈ added.table.get command ↔
        handler.Stands changes command ∨ handler = made ∧ command = name := by
      rw [hget, ← hrecords.mem_get]
      split_ifs with hcommand <;> simp [hcommand]
    have hdropped : handler ∈ (dispatcher.register given label reaction).table.get command ↔
        handler ∈ added.table.get command ∧ ¬ added.Strikes label command handler.id :=
      mem_get_drop hadded label command handler
    rw [hdropped, hmember, Handler.stands_concat_register, ← hmade, or_and_right]
    refine or_congr ?_ ?_
    · exact and_congr_right fun hbefore => not_congr (hrecords.strikes_iff hbefore label)
    · refine and_iff_left_of_imp ?_
      rintro ⟨rfl, -⟩
      exact hrecords.not_strikes_nextId _ label command
  case mem_subscriptions =>
    intro subscription
    have hheld : subscription ∈ (dispatcher.register given label reaction).subscriptions ↔
        subscription ∈ (added.drop label).subscriptions ∨
          subscription = ⟨label, name, made.id⟩ := by
      rw [Dispatcher.register, List.mem_append, List.mem_singleton]
    have hsame : subscription = ⟨label, name, made.id⟩ ↔ ∃ conduct,
        (⟨subscription.id, subscription.label, conduct⟩ : Handler) = made ∧
          subscription.command = name := by
      obtain ⟨held, command, id⟩ := subscription
      simp only [Subscription.mk.injEq, made, Handler.mk.injEq]
      tauto
    rw [hheld, mem_subscriptions_drop, hrecords.mem_subscriptions, hsame]
    simp only [Handler.stands_concat_register, ← hmade, exists_or, exists_and_right, name]

theorem records_changeAll (hrecords : dispatcher.Records changes) (more : List HandlerChange) :
    (dispatcher.changeAll more).Records (changes ++ more) := by
  induction more generalizing dispatcher changes with
  | nil => rwa [List.append_nil]
  | cons change rest ih =>
      have hfirst : (dispatcher.change change).Records (changes ++ [change]) := by
        cases change with
        | register given label reaction => exact hrecords.register given label reaction
        | drop label => exact hrecords.drop label
      rw [← List.singleton_append, ← List.append_assoc]
      exact ih hfirst

end Dispatcher

end Muster
