import Muster.Proofs.Probe.Framing
import Muster.Proofs.Probe.Infostrings
import Muster.Proofs.Probe.Scoreboards
import Muster.Probe.ServerInfo
import Muster.Query.Network

/-!
# Replies that are read

What a game server reports about itself is what those read who asked it, as long as its texts hold
nothing at which a report is cut: no backslash and no line break in its settings, and no line break
in the names of its players.  Everything else may stand in a name, also quotes and blanks at its
end.
-/

namespace Muster

/-- A text at which neither fields nor lines are cut. -/
def IsUncut (text : String) : Prop :=
  '\\' ∉ text.toList ∧ '\n' ∉ text.toList

instance (text : String) : Decidable (IsUncut text) :=
  inferInstanceAs (Decidable (_ ∧ _))

/-- The message can be made, its datagram is read as this message, and those who wait for an answer
of this kind get it. -/
structure Message.Answers (message : Message) (kind : ProbeKind) : Prop where
  made : ofParts message.command message.data message.separator = .ok message
  decoded : decode message.encode = .ok message
  key : message.key = kind.responseCommand

namespace Snapshot

/-- The settings are not cut, and neither are the lines of the players. -/
structure IsPlain (snapshot : Snapshot) : Prop where
  hostname : IsUncut snapshot.hostname
  map : IsUncut snapshot.map
  gameType : IsUncut snapshot.gameType
  names : ∀ player ∈ snapshot.players, '\n' ∉ player.name.toList

variable {snapshot : Snapshot}

theorem answers_reply (kind : ProbeKind) (body : String) :
    Message.Answers ⟨kind.replyCommand, body, '\n'⟩ kind := by
  have hcommand : Message.isCommand kind.replyCommand.toList := by cases kind <;> decide
  have hproper : Message.IsProper ⟨kind.replyCommand, body, '\n'⟩ := ⟨hcommand, rfl⟩
  constructor
  case made => exact Message.ofParts_eq_ok_iff.mpr ⟨rfl, hproper⟩
  case decoded => exact Message.decode_encode hproper
  case key =>
    change Message.lookupName kind.replyCommand = kind.responseCommand
    cases kind <;> decide

/-! ## Settings -/

theorem toList_render (fields : List (String × String)) :
    (render fields).toList = Infostring.joined
      (Infostring.alternating (fields.map fun field => (field.1.toList, field.2.toList))) := by
  rw [render, String.toList_join]
  induction fields with
  | nil => rfl
  | cons field rest ih =>
      have hmark : "\\".toList = ['\\'] := rfl
      rw [List.map_cons, List.flatMap_cons, ih]
      simp only [String.toList_append, hmark, Infostring.joined, Infostring.alternating,
        List.map_cons, List.flatMap_cons, List.cons_append, List.nil_append,
        List.append_assoc]

/-- The fields of a rendered report are those that were written, with keys in lower case. -/
theorem ofText_render {fields : List (String × String)} (hne : fields ≠ [])
    (hkeys : ∀ key ∈ fields.map Prod.fst, Infostring.IsKey key.toList)
    (hvalues : ∀ value ∈ fields.map Prod.snd, '\\' ∉ value.toList)
    (hlast : ∀ value ∈ (fields.map Prod.snd).getLast?, ∀ char ∈ value.toList.getLast?,
      ¬ Infostring.isSurrounding char) :
    Infostring.ofText (render fields) =
      ⟨fields.map fun field => (field.1.toList.map Char.toLower, field.2.toList)⟩ := by
  have hfields : ∀ field ∈ fields.map fun field => (field.1.toList, field.2.toList),
      Infostring.IsField field := by
    intro listed hlisted
    obtain ⟨field, hfield, rfl⟩ := List.mem_map.mp hlisted
    exact ⟨hkeys _ (List.mem_map_of_mem hfield), hvalues _ (List.mem_map_of_mem hfield)⟩
  rw [← String.ofList_toList (s := render fields), toList_render,
    Infostring.ofText_alternating (List.map_eq_nil_iff.not.mpr hne) hfields, List.map_map]
  · rfl
  · intro listed hlisted char hchar
    rw [List.getLast?_map, Option.mem_def, Option.map_eq_some_iff] at hlisted
    obtain ⟨field, hfield, rfl⟩ := hlisted
    refine hlast field.2 ?_ char hchar
    rw [List.getLast?_map, hfield]
    rfl

/-! ## Info -/

def infoFields (snapshot : Snapshot) (clients : Count) : List (String × String) := [
  ("hostname", snapshot.hostname), ("mapname", snapshot.map), ("gametype", snapshot.gameType),
  ("clients", toString clients.toNat), ("bots", toString snapshot.bots.toNat),
  ("sv_maxclients", toString snapshot.maxClients.toNat),
  ("pswrd", if snapshot.isPrivate then "1" else "0"), ("dedicated", "1"), ("sv_running", "1")]

theorem infoBody?_of_clients? {clients : Count} (hclients : snapshot.clients? = some clients) :
    snapshot.infoBody? = some (render (snapshot.infoFields clients)) := by
  rw [infoBody?, hclients]
  rfl

theorem backslash_not_mem_repr (number : Nat) : '\\' ∉ number.repr.toList := fun hmember =>
  absurd ((Text.Numeral.isDigits_repr number).isDigit '\\' hmember) (by decide)

def infoKeys : List String :=
  ["hostname", "mapname", "gametype", "clients", "bots", "sv_maxclients", "pswrd", "dedicated",
    "sv_running"]

theorem keys_infoFields (snapshot : Snapshot) (clients : Count) :
    (snapshot.infoFields clients).map Prod.fst = infoKeys := rfl

theorem listedKeys_infoFields (snapshot : Snapshot) (clients : Count) :
    ((snapshot.infoFields clients).map fun field => (field.1.toList, field.2.toList)).map
      Prod.fst = infoKeys.map String.toList := by
  rw [List.map_map, ← keys_infoFields snapshot clients, List.map_map]
  rfl

/-- The keys are written in lower case already. -/
theorem toLower_infoKeys :
    ∀ key ∈ infoKeys, key.toList.map Char.toLower = key.toList := by
  decide

/-- An info report gives back the settings that were put into it. -/
theorem ofText_infoFields (hplain : snapshot.IsPlain) (clients : Count) :
    Infostring.ofText (render (snapshot.infoFields clients)) =
      ⟨(snapshot.infoFields clients).map fun field => (field.1.toList, field.2.toList)⟩ := by
  have hlower : (snapshot.infoFields clients).map (fun field =>
      (field.1.toList.map Char.toLower, field.2.toList)) =
        (snapshot.infoFields clients).map fun field => (field.1.toList, field.2.toList) := by
    apply List.map_congr_left
    intro field hfield
    rw [toLower_infoKeys field.1 (keys_infoFields snapshot clients ▸ List.mem_map_of_mem hfield)]
  have hne : snapshot.infoFields clients ≠ [] := List.cons_ne_nil _ _
  rw [← hlower]
  apply ofText_render hne
  · rw [keys_infoFields]
    decide
  · have hflag : '\\' ∉ (if snapshot.isPrivate then "1" else "0").toList := by
      split <;> decide
    simp only [infoFields, List.map_cons, List.map_nil, List.forall_mem_cons]
    exact ⟨hplain.hostname.1, hplain.map.1, hplain.gameType.1, backslash_not_mem_repr _,
      backslash_not_mem_repr _, backslash_not_mem_repr _, hflag, by decide, by decide,
      List.forall_mem_nil _⟩
  · intro value hvalue
    obtain rfl : "1" = value := Option.some.inj hvalue
    intro char hchar
    obtain rfl : '1' = char := Option.some.inj hchar
    decide

variable (hplain : snapshot.IsPlain) {clients : Count}

include hplain

theorem get?_infoFields (key value : String) (hfield : (key, value) ∈ snapshot.infoFields clients) :
    (Infostring.ofText (render (snapshot.infoFields clients))).get? key = some value := by
  have hmember : (key.toList, value.toList) ∈ (snapshot.infoFields clients).map fun field =>
      (field.1.toList, field.2.toList) := List.mem_map_of_mem hfield
  have hnodup : (infoKeys.map String.toList).Nodup := by decide
  rw [Infostring.get?, ofText_infoFields hplain,
    Infostring.lastValue?_of_mem (listedKeys_infoFields snapshot clients ▸ hnodup) hmember,
    Option.map_some, String.ofList_toList]

theorem get?_infoFields_eq_none (key : String)
    (hkey : key.toList ∉ infoKeys.map String.toList) :
    (Infostring.ofText (render (snapshot.infoFields clients))).get? key = none := by
  rw [Infostring.get?, ofText_infoFields hplain,
    Infostring.lastValue?_eq_none (listedKeys_infoFields snapshot clients ▸ hkey), Option.map_none]

omit hplain

/-- A count is read as it was written. -/
theorem count_of_get? {fields : Infostring} {key : String} {count : Count}
    (hget : fields.get? key = some (toString count.toNat)) :
    ServerInfo.count fields key = count := by
  have htrim : Text.trim count.toNat.repr.toList = count.toNat.repr.toList :=
    (Text.Numeral.isDigits_repr count.toNat).trim_eq
  rw [ServerInfo.count, hget, Option.bind_some]
  change (Text.Numeral.uint32? (Text.trim count.toNat.repr.toList)).getD 0 = count
  rw [htrim, Text.Numeral.uint32?_repr, Option.getD_some]

/-- The report tells the snapshot. -/
structure IsToldBy (snapshot : Snapshot) (info : ServerInfo) : Prop where
  hostname : info.hostname = snapshot.hostname
  map : info.map = snapshot.map
  gameType : info.gameType = snapshot.gameType
  bots : info.bots = snapshot.bots
  maxClients : info.maxClients = snapshot.maxClients
  isPrivate : info.isPrivate = snapshot.isPrivate
  clients : info.clients.toNat = snapshot.players.length + snapshot.bots.toNat
  realPlayers : info.realPlayers.toNat = snapshot.players.length

theorem textOf_of_get? {fields : Infostring} {key value : String}
    (hget : fields.get? key = some value) (keys : List String) :
    fields.textOf (key :: keys) = value := by
  rw [Infostring.textOf, List.findSome?_cons, hget, Option.getD_some]

/-- A body in which these fields are found, and no other mark of a private server, tells the
snapshot. -/
theorem exists_ofReport_isToldBy {body : String} {clients : Count}
    (hread : ∀ key value, (key, value) ∈ snapshot.infoFields clients →
      (Infostring.ofText body).get? key = some value)
    (hneed : (Infostring.ofText body).get? "needpass" = none)
    (hgame : (Infostring.ofText body).get? "g_needpass" = none)
    (hclients : clients.toNat = snapshot.players.length + snapshot.bots.toNat)
    (address : Endpoint) (ping : UInt32) :
    ∃ info, ServerInfo.ofReport address body ping = .ok info ∧ snapshot.IsToldBy info := by
  have hflag := hread "pswrd" (if snapshot.isPrivate then "1" else "0") (by simp [infoFields])
  have hprivate : ServerInfo.flag (Infostring.ofText body) ["pswrd", "needpass", "g_needpass"] =
      snapshot.isPrivate := by
    rw [ServerInfo.flag, List.any_cons, List.any_cons, List.any_cons, List.any_nil, hflag, hneed,
      hgame]
    cases snapshot.isPrivate <;> decide
  have hcount : ∀ key count, (key, toString count.toNat) ∈ snapshot.infoFields clients →
      ServerInfo.count (Infostring.ofText body) key = count :=
    fun key count hfield => count_of_get? (hread key _ hfield)
  have hhostname := textOf_of_get? (hread "hostname" snapshot.hostname (by simp [infoFields]))
    ["sv_hostname"]
  have hmap := textOf_of_get? (hread "mapname" snapshot.map (by simp [infoFields])) []
  have hgameType := textOf_of_get? (hread "gametype" snapshot.gameType (by simp [infoFields]))
    ["g_gametype"]
  have hlisted := hcount "clients" clients (by simp [infoFields])
  have hbots := hcount "bots" snapshot.bots (by simp [infoFields])
  have hslots := hcount "sv_maxclients" snapshot.maxClients (by simp [infoFields])
  rw [ServerInfo.ofReport, hread "dedicated" "1" (by simp [infoFields]),
    hread "sv_running" "1" (by simp [infoFields]), if_neg (not_not.mpr rfl),
    if_neg (not_not.mpr rfl), hhostname, hmap, hgameType, hlisted, hbots, hslots, hprivate]
  refine ⟨_, rfl, rfl, rfl, rfl, rfl, rfl, rfl, hclients, ?_⟩
  rw [ServerInfo.realPlayers, Count.toNat_minus, hclients]
  exact Nat.add_sub_cancel _ _

theorem ofReport_infoFields (hplain : snapshot.IsPlain) {clients : Count}
    (hclients : clients.toNat = snapshot.players.length + snapshot.bots.toNat)
    (address : Endpoint) (ping : UInt32) :
    ∃ info, ServerInfo.ofReport address (render (snapshot.infoFields clients)) ping = .ok info ∧
      snapshot.IsToldBy info :=
  exists_ofReport_isToldBy (get?_infoFields hplain)
    (get?_infoFields_eq_none hplain "needpass" (by decide))
    (get?_infoFields_eq_none hplain "g_needpass" (by decide)) hclients address ping

/-- Players and bots that fit a count are the clients that are reported. -/
theorem exists_clients? (hfits : snapshot.players.length + snapshot.bots.toNat ≤ Count.max) :
    ∃ clients : Count, snapshot.clients? = some clients ∧
      clients.toNat = snapshot.players.length + snapshot.bots.toNat := by
  have hplayers : snapshot.players.length.toUInt32.toNat = snapshot.players.length :=
    UInt32.toNat_ofNat_of_lt' (Nat.lt_succ_of_le (Nat.le_of_add_right_le hfits))
  have hsum : snapshot.clients? =
      some (snapshot.players.length.toUInt32 + snapshot.bots) := by
    rw [clients?, Count.sum?, hplayers, if_pos hfits]
  refine ⟨_, hsum, ?_⟩
  rw [(Count.sum?_eq_some_iff _ _ _).mp hsum, hplayers]

/-! ## Status -/

def settingsLine (snapshot : Snapshot) : List Char :=
  Infostring.joined (Infostring.alternating [
    ("sv_hostname".toList, snapshot.hostname.toList), ("mapname".toList, snapshot.map.toList),
    ("g_gametype".toList, snapshot.gameType.toList)])

theorem newline_not_mem_settingsLine (hplain : snapshot.IsPlain) :
    '\n' ∉ snapshot.settingsLine := by
  have hsegments : ∀ segment ∈ Infostring.alternating [
      ("sv_hostname".toList, snapshot.hostname.toList), ("mapname".toList, snapshot.map.toList),
      ("g_gametype".toList, snapshot.gameType.toList)], '\n' ∉ segment := by
    simp only [Infostring.alternating, List.flatMap_cons, List.flatMap_nil, List.cons_append,
      List.nil_append, List.forall_mem_cons]
    exact ⟨by decide, hplain.hostname.2, by decide, hplain.map.2, by decide, hplain.gameType.2,
      List.forall_mem_nil _⟩
  intro hmember
  obtain ⟨segment, hsegment, hbreak⟩ := List.mem_flatMap.mp hmember
  exact hsegments segment hsegment ((List.mem_cons.mp hbreak).resolve_left (by decide))

theorem toList_playerLine (player : PlayerScore) :
    (playerLine player).toList = Scoreboard.entryLine player ++ ['\n'] := by
  have hgap : " ".toList = [' '] := rfl
  have hopen : " \"".toList = [' ', '"'] := rfl
  have hclose : "\"\n".toList = ['"', '\n'] := rfl
  have hscore : toString player.score.toInt = player.score.toInt.repr := by
    cases player.score.toInt <;> rfl
  have hping : toString player.ping.toNat = player.ping.toNat.repr := rfl
  simp only [playerLine, Scoreboard.entryLine, String.toList_append, hgap, hopen, hclose, hscore,
    hping, List.append_assoc, List.cons_append, List.nil_append]

theorem toList_statusBody (snapshot : Snapshot) :
    snapshot.statusBody.toList = snapshot.settingsLine ++ '\n' ::
      (snapshot.players.map Scoreboard.entryLine).flatMap fun line => line ++ ['\n'] := by
  have hbreak : "\n".toList = ['\n'] := rfl
  have hlines : (String.join (snapshot.players.map playerLine)).toList =
      (snapshot.players.map Scoreboard.entryLine).flatMap fun line => line ++ ['\n'] := by
    rw [String.toList_join, List.flatMap_map, List.flatMap_map]
    exact List.flatMap_congr fun player _ => toList_playerLine player
  rw [statusBody, String.toList_append, String.toList_append, toList_render, hbreak, hlines,
    List.append_assoc]
  rfl

/-- The players of a status report are read in order, whatever else their names hold. -/
theorem players_ofReport_statusBody (hplain : snapshot.IsPlain) (address : Endpoint) :
    (Scoreboard.ofReport address snapshot.statusBody).players = snapshot.players := by
  have hbreaks : ∀ line ∈ snapshot.players.map Scoreboard.entryLine, '\n' ∉ line := by
    intro line hline
    obtain ⟨player, hplayer, rfl⟩ := List.mem_map.mp hline
    exact Scoreboard.newline_not_mem_entryLine (hplain.names player hplayer)
  have hreturns : ∀ line ∈ snapshot.players.map Scoreboard.entryLine,
      line.getLast? ≠ some '\r' := by
    intro line hline
    obtain ⟨player, hplayer, rfl⟩ := List.mem_map.mp hline
    rw [Scoreboard.getLast?_entryLine]
    decide
  have hentries : Scoreboard.entryOf? ∘ Scoreboard.entryLine = some :=
    funext Scoreboard.entryOf?_entryLine
  simp only [Scoreboard.ofReport]
  rw [toList_statusBody, Scoreboard.lines_append (newline_not_mem_settingsLine hplain),
    Scoreboard.lines_flatMap hbreaks hreturns, List.drop_one, List.tail_cons, List.filterMap_map,
    hentries, List.filterMap_some]

/-! ## Both reports -/

/-- What is read from a report of this kind is what the snapshot says. -/
def IsReadIn (snapshot : Snapshot) (body : String) (address : Endpoint) (ping : UInt32) :
    ProbeKind → Prop
  | .info =>
    ∃ info, ServerInfo.ofReport address body ping = .ok info ∧ snapshot.IsToldBy info
  | .status =>
    (Scoreboard.ofReport address body).players = snapshot.players ∧
      (Int64.ofInt (Scoreboard.ofReport address body).totalScore).toInt =
        (snapshot.players.map fun player => player.score.toInt).sum

/-- What a server says of itself in plain settings can be told and is read as it was said. -/
theorem exists_body?_isReadIn (hplain : snapshot.IsPlain)
    (hfits : snapshot.players.length + snapshot.bots.toNat ≤ Count.max) (kind : ProbeKind) :
    ∃ body, snapshot.body? kind = some body ∧
      ∀ address ping, snapshot.IsReadIn body address ping kind := by
  cases kind with
  | info =>
      obtain ⟨clients, hclients, htotal⟩ := exists_clients? hfits
      exact ⟨_, infoBody?_of_clients? hclients, ofReport_infoFields hplain htotal⟩
  | status =>
      refine ⟨_, rfl, fun address _ => ?_⟩
      have hplayers := players_ofReport_statusBody hplain address
      refine ⟨hplayers, ?_⟩
      rw [Scoreboard.toInt_ofInt_totalScore (hplayers ▸ Nat.le_of_add_right_le hfits), hplayers]

/-- A responder takes a request for the kind of report that it asks for. -/
theorem asked?_request (kind : ProbeKind) :
    HostBehavior.asked? kind.request.encode = some kind := by
  have hproper : kind.request.IsProper := ⟨by cases kind <;> decide, rfl⟩
  rw [HostBehavior.asked?, Message.decode_encode hproper]
  cases kind <;> decide

/-- Whoever asks a responder for a report gets a datagram that reads as the answer to this kind of
request, and reads in it what the snapshot says. -/
theorem responder_reports_snapshot (hplain : snapshot.IsPlain)
    (hfits : snapshot.players.length + snapshot.bots.toNat ≤ Count.max) (kind : ProbeKind) :
    ∃ message, snapshot.reply? kind = some message ∧
      (HostBehavior.responder snapshot false).answer? kind.request.encode =
        some message.encode ∧
      message.Answers kind ∧
      ∀ address ping, snapshot.IsReadIn message.data address ping kind := by
  obtain ⟨body, hbody, hread⟩ := exists_body?_isReadIn hplain hfits kind
  have hreply : snapshot.reply? kind = some ⟨kind.replyCommand, body, '\n'⟩ := by
    rw [reply?, hbody, Option.map_some]
  refine ⟨_, hreply, ?_, answers_reply kind body, hread⟩
  rw [HostBehavior.answer?, if_neg Bool.false_ne_true, asked?_request, Option.bind_some, hreply,
    Option.map_some]

/-- Names that end in quotes, blanks and carriage returns. -/
def guarded : Snapshot where
  hostname := "^1Rust \"Arena\" "
  players := [⟨-5, 999, "\"quoted\" "⟩, ⟨2147483647, 0, "\\^7back\r"⟩]
  bots := 2
  isPrivate := true

theorem guarded_reports_scores :
    guarded.IsPlain ∧ guarded.players.length + guarded.bots.toNat ≤ Count.max ∧
      ∃ message, guarded.reply? .status = some message ∧
        (HostBehavior.responder guarded false).answer? ProbeKind.status.request.encode =
          some message.encode ∧
        message.Answers .status ∧
        ∀ address ping, guarded.IsReadIn message.data address ping .status := by
  have hplain : guarded.IsPlain := ⟨by decide, by decide, by decide, by decide⟩
  exact ⟨hplain, by decide, responder_reports_snapshot hplain (by decide) .status⟩

end Snapshot

end Muster
