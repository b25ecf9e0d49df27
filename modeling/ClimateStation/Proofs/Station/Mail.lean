import ClimateStation.Proofs.Station.Alarms
import ClimateStation.Proofs.Station.Footprint

/-! The datagrams of a running station. A pass takes in at most one, interprets it once and answers
nobody but its sender; whatever else is sent announces another alarm level, and goes to the
destination. The first datagram since the start fixes the destination, and nothing else moves it. -/
namespace ClimateStation
open Storage Datagram

/-- A datagram that is taken in or handed to the network, a destination that is learned, or another
alarm level. -/
def Effect.isMail : Effect → Bool
  | .received _ | .send .. | .report (.destinationLearned _) | .report (.alarmChanged ..) => true
  | _ => false

/-- The datagram that is taken in. -/
def Effect.datagram? : Effect → Option Datagram
  | .received d => some d
  | _ => none

/-- A destination is learned. -/
def Effect.isLearning : Effect → Bool
  | .report (.destinationLearned _) => true
  | _ => false

/-- A datagram is handed to the network, which accepts it. -/
def Effect.isSent : Effect → Bool
  | .send _ _ _ accepted => accepted
  | _ => false

lemma Effect.isMail_of_isLearning (e : Effect) (learning : e.isLearning = true) :
    e.isMail = true := by
  cases e with
  | report event =>
    cases event with
    | destinationLearned => rfl
    | _ => exact nomatch learning
  | _ => exact nomatch learning

lemma Effect.isMail_of_isSent (e : Effect) (sent : e.isSent = true) : e.isMail = true := by
  cases e with
  | send => rfl
  | _ => exact nomatch sent

lemma Datagram.Reply.isEmpty_iff {r : Reply} : r.isEmpty = true ↔ r.text = "" := by
  unfold isEmpty size
  rw [beq_iff_eq,String.utf8ByteSize_eq_zero_iff]

namespace Network.Settings

/-- The settings once the first datagram has come in, if one has. -/
def fixedBy (loaded : Settings) : Option Datagram → Settings
  | none => loaded
  | some d => { loaded with target := d.sender }

lemma target_of_destination {s : Settings} {peer : Endpoint} (known : s.destination = some peer) :
    { s with target := peer } = s := by
  unfold destination at known
  split at known
  · exact nomatch known
  · obtain rfl := Option.some.inj known
    rfl

end Network.Settings

/-- What a station keeps of its datagrams, with the record of them. -/
structure Mail where
  learned : Bool
  settings : Network.Settings
  received : UInt32
  sent : UInt32
  record : List Effect

namespace Mail
variable (m : Mail)

/-- What a datagram from there makes the station report. -/
def lesson (peer : Network.Endpoint) : List Effect :=
  if m.learned = true ∨ m.settings.destination = some peer then []
  else [.report (.destinationLearned peer)]

/-- Adds an effect that is no datagram taken in. -/
def add (e : Effect) : Mail :=
  { m with
    sent := if e.isSent then m.sent + 1 else m.sent
    record := m.record ++ [e] }

/-- Takes in a datagram. -/
def receive (d : Datagram) : Mail :=
  { m with
    learned := true
    settings := if m.learned then m.settings else { m.settings with target := d.sender }
    received := m.received + 1
    record := m.record ++ .received d :: m.lesson d.sender }

def datagrams : List Datagram := m.record.filterMap Effect.datagram?

lemma foldl_add (es : List Effect) : es.foldl add m = { m with
    sent := (es.foldl add m).sent
    record := m.record ++ es } := by
  induction es generalizing m with
  | nil =>
    rw [List.append_nil]
    rfl
  | cons e es ih =>
    rw [List.foldl_cons,ih]
    dsimp only [add]
    rw [List.append_assoc,List.singleton_append]

lemma record_foldl_add (es : List Effect) : (es.foldl add m).record = m.record ++ es := by
  rw [foldl_add]

lemma lesson_foldl_add (es : List Effect) (peer : Network.Endpoint) :
    (es.foldl add m).lesson peer = m.lesson peer := by
  rw [foldl_add]
  rfl

/-- The settings are those of the first datagram, it was learned from at most once, and the counters
are right. -/
structure Sound (loaded : Network.Settings) (m : Mail) : Prop where
  learned : m.learned = !m.datagrams.isEmpty
  settings : m.settings = loaded.fixedBy m.datagrams.head?
  once : m.record.countP Effect.isLearning ≤ if m.learned then 1 else 0
  received : m.received = .ofNat m.datagrams.length
  sent : m.sent = .ofNat (m.record.countP Effect.isSent)

variable {m} {loaded : Network.Settings} {e : Effect}

lemma Sound.add (sound : m.Sound loaded) (other : e.datagram? = none)
    (unlearned : e.isLearning = false) : (m.add e).Sound loaded := by
  have datagrams : (m.add e).datagrams = m.datagrams := by
    simp [Mail.datagrams,Mail.add,other]
  refine ⟨?_,?_,?_,?_,?_⟩
  · rw [datagrams]
    exact sound.learned
  · rw [datagrams]
    exact sound.settings
  · dsimp only [Mail.add]
    rw [List.countP_append,List.countP_singleton,unlearned]
    exact sound.once
  · rw [datagrams]
    exact sound.received
  · simp only [Mail.add, List.countP_append, List.countP_singleton, sound.sent]
    split
    · exact (UInt32.ofNat_add ..).symm
    · rfl

lemma Sound.foldl_add {es : List Effect} (sound : m.Sound loaded)
    (others : ∀ e ∈ es, e.datagram? = none ∧ e.isLearning = false) :
    (es.foldl Mail.add m).Sound loaded := by
  induction es generalizing m with
  | nil => exact sound
  | cons e es ih =>
    obtain ⟨⟨other,unlearned⟩,rest⟩ := List.forall_mem_cons.mp others
    exact ih (sound.add other unlearned) rest

lemma datagrams_receive (m : Mail) (d : Datagram) :
    (m.receive d).datagrams = m.datagrams ++ [d] := by
  have none : (m.lesson d.sender).filterMap Effect.datagram? = [] := by
    unfold lesson
    split <;> rfl
  simp [datagrams, receive, Effect.datagram?, none]

/-- The first datagram sets the destination; for those that follow it is set. -/
lemma Sound.receive (sound : m.Sound loaded) (d : Datagram) : (m.receive d).Sound loaded := by
  obtain ⟨learned,settings,once,received,sent⟩ := sound
  have unsent : (m.lesson d.sender).countP Effect.isSent = 0 := by
    unfold lesson
    split <;> rfl
  refine ⟨?_,?_,?_,?_,?_⟩
  · rw [datagrams_receive]
    simp [Mail.receive]
  · rw [datagrams_receive]
    dsimp only [Mail.receive]
    cases before : m.datagrams with
    | nil =>
      rw [before] at learned settings
      rw [learned,settings]
      rfl
    | cons first rest =>
      rw [before] at learned settings
      rw [learned,settings]
      rfl
  · dsimp only [Mail.receive]
    rw [List.countP_append,List.countP_cons_of_neg (by exact Bool.false_ne_true)]
    unfold lesson
    cases known : m.learned with
    | true =>
      rw [known] at once
      exact once
    | false =>
      rw [known] at once
      have none : m.record.countP Effect.isLearning = 0 := Nat.le_zero.mp once
      rw [none]
      split
      · exact Nat.zero_le _
      · exact Nat.le_refl _
  · rw [datagrams_receive,List.length_append,UInt32.ofNat_add]
    dsimp only [Mail.receive]
    rw [received]
    rfl
  · dsimp only [Mail.receive]
    rw [List.countP_append,List.countP_cons_of_neg (by exact Bool.false_ne_true),unsent]
    exact sent

end Mail

namespace Site
variable (s : Site)

def mail : Mail :=
  { learned := s.station.link.learned
    settings := s.station.link.settings
    received := s.station.link.received
    sent := s.station.link.sent
    record := s.effects.filter Effect.isMail }

/-- The datagrams that were taken in so far. -/
def datagrams : List Datagram := s.effects.filterMap Effect.datagram?

lemma datagrams_eq : s.datagrams = s.mail.datagrams := by
  rw [datagrams,Mail.datagrams,mail,List.filterMap_filter]
  congr 1
  funext e
  cases e with
  | report event => cases event <;> rfl
  | _ => rfl

lemma countP_mail {p : Effect → Bool} (mail : ∀ e, p e = true → e.isMail = true) :
    s.mail.record.countP p = s.effects.countP p := by
  rw [Site.mail,List.countP_filter]
  refine List.countP_congr fun e _ => ?_
  rw [Bool.and_eq_true,and_iff_left_iff_imp]
  exact mail e

/-- What a reading brings about: the announcements of its level, if that is another one. -/
def notices (r : Climate.Reading) (accepted : Bool) : List Effect :=
  if s.levelOf r = s.station.level then [] else s.announcements r (s.levelOf r) accepted

/-- What the sample of a pass brings about, if it takes one and that is a reading. -/
def announced (around : Surroundings) : List Effect :=
  match s.sample? around with
  | some (.ok r) => s.notices r (around.accepts .alarm)
  | _ => []

/-- The datagram that comes in when the station looks at the network: none, unless it is time to
look and the link is up. -/
def datagram? (around : Surroundings) : Option Datagram :=
  if (s.station.networkTimer.poll around.time).1 = true ∧ around.linkUp = true then around.datagram
  else none

/-- The station has looked at the link, if it is time. -/
def looked (around : Surroundings) : Site :=
  let (due,timer) := s.station.networkTimer.poll around.time
  let s := { s with station.networkTimer := timer }
  if due then s.observeLink around.linkUp else s

/-- What is sent for an answer: nothing, if it has no text. -/
def replies (d : Datagram) (lines : List String) (accepted : Bool) : List Effect :=
  let text := (Reply.ofLines lines).text
  if text = "" then [] else [.send .reply d.sender text accepted]

/-! ## Everything else -/

lemma mail_note_other {e : Effect} (other : e.isMail = false) : (s.note e).mail = s.mail := by
  unfold mail note
  rw [List.filter_append,List.filter_cons_of_neg (Bool.eq_false_iff.mp other),List.filter_nil,
    List.append_nil]

lemma record_note {e : Effect} (mail : e.isMail = true) :
    (s.note e).mail.record = s.mail.record ++ [e] := by
  unfold Site.mail note
  rw [List.filter_append,List.filter_cons_of_pos mail,List.filter_nil]

lemma mail_note {e : Effect} (mail : e.isMail = true) (unsent : e.isSent = false) :
    (s.note e).mail = s.mail.add e := by
  unfold Mail.add
  rw [← s.record_note mail,unsent]
  rfl

lemma mail_print (text : String) : (s.print text).mail = s.mail :=
  keeps_print (fun u _ => u.mail_note_other rfl) s text

lemma mail_foldl_printLine (lines : List String) : (lines.foldl printLine s).mail = s.mail := by
  induction lines generalizing s with
  | nil => rfl
  | cons line lines ih => exact (ih _).trans (s.mail_print _)

lemma mail_printMonitored (line : String) : (s.printMonitored line).mail = s.mail :=
  keeps_printMonitored (fun u _ => u.mail_note_other rfl) s line

lemma mail_refresh : s.refresh.mail = s.mail := by
  unfold refresh
  split
  · exact mail_note_other _ rfl
  · rfl

lemma mail_observeLink (up : Bool) : (s.observeLink up).mail = s.mail := by
  unfold observeLink
  split
  · rfl
  · exact mail_note_other _ rfl

lemma mail_looked (around : Surroundings) : (s.looked around).mail = s.mail := by
  unfold looked
  dsimp only
  split
  · exact mail_observeLink ..
  · rfl

lemma mail_logIfDue (time : Nat) (r : Climate.Reading) : (s.logIfDue time r).mail = s.mail :=
  keeps_logIfDue (fun u _ => u.mail_note_other rfl) (fun u _ _ => u.mail_note_other rfl)
    (fun _ _ _ _ => rfl) s time r

variable {s} {t : Site} in
/-- No command has to do with it. -/
lemma Outcome.mail {c : Command} (h : s.Outcome c t) : t.mail = s.mail := by
  cases h with
  | logClear | time | date => exact mail_note_other _ rfl
  | _ => rfl

lemma mail_obey (channel : Channel) (meaning : Except Command.CommandError Command) :
    (s.obey channel meaning).2.mail = s.mail := by
  cases meaning with
  | error e => exact s.mail_note_other rfl
  | ok c => exact (s.answer_outcome channel c).mail

lemma mail_readKeys (localEcho : Bool) (keys : List UInt8) :
    (s.readKeys localEcho keys).mail = s.mail := by
  induction keys generalizing s with
  | nil => rfl
  | cons b rest ih =>
    unfold readKeys
    rcases s.station.editor.feed localEcho b with ⟨edit,shown,editor⟩
    have fed : ({ s with station.editor := editor, keys := rest }.print shown).mail = s.mail :=
      mail_print ..
    cases edit with
    | pending => exact (ih _).trans fed
    | submit line =>
      refine Eq.trans ?_ fed
      unfold submit printPrompt
      dsimp only
      rw [mail_print,mail_foldl_printLine,dispatch_eq,mail_obey,mail_note_other _ rfl]
    | dismissed =>
      refine Eq.trans ?_ fed
      unfold dismiss printPrompt
      rw [mail_print,mail_note_other _ rfl]
      rfl

/-! ## What is sent and taken in -/

lemma mail_send (purpose : Purpose) (peer : Network.Endpoint) (text : Reply) (accepted : Bool) :
    (s.send purpose peer text accepted).mail =
      s.mail.add (.send purpose peer text.text accepted) := by
  have noted : (s.note (.send purpose peer text.text accepted)).mail = { s.mail with
      record := s.mail.record ++ [.send purpose peer text.text accepted] } := by
    rw [← s.record_note rfl]
    rfl
  cases accepted with
  | true => exact congrArg (fun m : Mail => { m with sent := m.sent + 1 }) noted
  | false => exact noted

lemma mail_checkAlarm (accepted : Bool) : (s.checkAlarm accepted).mail =
    (s.notices s.station.display.latest accepted).foldl Mail.add s.mail := by
  rw [checkAlarm_eq]
  unfold notices
  dsimp only
  split
  · rfl
  · unfold enterLevel announcements
    dsimp only
    cases s.station.link.settings.destination with
    | none => exact mail_note _ rfl rfl
    | some peer =>
      dsimp only
      rw [report,mail_note _ rfl rfl,mail_send,(send_outward ..).display]
      rfl

lemma mail_takeSample (around : Surroundings) : (s.takeSample around).mail =
    match around.sensor with
    | .error _ => s.mail
    | .ok r => (s.notices r (around.accepts .alarm)).foldl Mail.add s.mail := by
  unfold takeSample
  dsimp only
  cases around.sensor with
  | error e =>
    dsimp only
    rw [report,mail_note_other _ rfl,mail_printMonitored,mail_note_other _ rfl]
  | ok r =>
    dsimp only
    have read : { s.note (.sample (.ok r)) with station.display.latest := r }.mail = s.mail :=
      s.mail_note_other rfl
    have same (accepted : Bool) :
        { s.note (.sample (.ok r)) with station.display.latest := r }.notices r accepted =
          s.notices r accepted := rfl
    rw [mail_logIfDue,mail_printMonitored,mail_checkAlarm,read]
    dsimp only
    rw [same]

lemma mail_beforeKeys (around : Surroundings) :
    (s.beforeKeys around).mail = (s.announced around).foldl Mail.add s.mail := by
  rw [beforeKeys_eq]
  unfold announced sample?
  split
  · rw [mail_takeSample]
    cases around.sensor <;> rfl
  · rfl

lemma mail_learnDestination (peer : Network.Endpoint) : (s.learnDestination peer).mail =
    { s.mail with
      learned := true
      settings := if s.mail.learned then s.mail.settings else { s.mail.settings with target := peer }
      record := s.mail.record ++ s.mail.lesson peer } := by
  unfold learnDestination Mail.lesson
  by_cases learned : s.station.link.learned = true
  · have learned' : s.mail.learned = true := learned
    rw [if_pos learned,if_pos learned',if_pos (.inl learned'),List.append_nil]
    exact congrArg (fun learned => { s.mail with learned }) learned
  · have learned' : ¬s.mail.learned = true := learned
    rw [if_neg learned,if_neg learned']
    dsimp only
    by_cases known : s.station.link.settings.destination = some peer
    · have known' : s.mail.settings.destination = some peer := known
      rw [if_pos known,if_pos (.inr known'),List.append_nil,
        Network.Settings.target_of_destination known']
      rfl
    · have new : ¬(s.mail.learned = true ∨ s.mail.settings.destination = some peer) :=
        not_or.mpr ⟨learned',known⟩
      rw [if_neg known,if_neg new]
      exact mail_note _ rfl rfl

lemma mail_heard (d : Datagram) : (s.heard d).mail = s.mail.receive d := by
  have noted : { s.note (.received d) with
      station.link.received := s.station.link.received + 1 }.mail = { s.mail with
        received := s.mail.received + 1
        record := s.mail.record ++ [.received d] } :=
    congrArg (fun record => { s.mail with received := s.mail.received + 1, record })
      (s.record_note rfl)
  unfold heard Mail.receive
  rw [mail_learnDestination,noted]
  dsimp only
  rw [List.append_assoc]
  rfl

/-- What was taken in is answered at most once. -/
lemma mail_respond (d : Datagram) (accepted : Bool)
    (meaning : Except Command.CommandError Command) : (s.respond d accepted meaning).mail =
      (replies d ((s.heard d).obey .datagram meaning).1 accepted).foldl Mail.add
        (s.mail.receive d) := by
  have carried := ((s.heard d).mail_obey .datagram meaning).trans (s.mail_heard d)
  unfold respond replies
  dsimp only
  by_cases silent : (Reply.ofLines ((s.heard d).obey .datagram meaning).1).text = ""
  · rw [if_pos (Reply.isEmpty_iff.mpr silent),if_pos silent]
    exact carried
  · rw [if_neg (mt Reply.isEmpty_iff.mp silent),if_neg silent,mail_send,carried]
    rfl

/-! ## Passes -/

lemma serveNetwork_eq (around : Surroundings) : s.serveNetwork around =
    match s.datagram? around with
    | none => s.looked around
    | some d => (s.looked around).receive d (around.accepts .reply) := by
  unfold serveNetwork datagram? looked
  dsimp only
  cases (s.station.networkTimer.poll around.time).1 with
  | false => rfl
  | true =>
    cases around.linkUp with
    | false => rfl
    | true =>
      simp only [and_self, if_true]
      cases around.datagram <;> rfl

lemma mail_beforeNetwork (around : Surroundings) :
    (s.beforeNetwork around).mail = (s.announced around).foldl Mail.add s.mail :=
  (mail_readKeys ..).trans (s.mail_beforeKeys around)

lemma looked_strictness (around : Surroundings) :
    ((s.beforeNetwork around).looked around).station.strictness = s.station.strictness := by
  have looked (t : Site) : (t.looked around).held.config = t.held.config := by
    unfold looked
    dsimp only
    split
    · exact congrArg Held.config (observeLink_outward ..).held
    · rfl
  exact strictness_of_held ((looked _).trans (s.beforeNetwork_steps around).kept.1)

variable {s} {around : Surroundings}

/-- A pass that takes in no datagram has done everything once it has looked at the link, but for the
strip. -/
lemma pass_without_datagram (none : (s.beforeNetwork around).datagram? around = none) :
    s.pass around = ((s.beforeNetwork around).looked around).refresh ∧
      (s.pass around).mail = (s.announced around).foldl Mail.add s.mail := by
  have passed := s.pass_eq around
  rw [serveNetwork_eq,none] at passed
  refine ⟨passed,?_⟩
  rw [passed,mail_refresh,mail_looked,mail_beforeNetwork]

/-- One that takes in a datagram does after that what the text means, and sends the answer. -/
lemma pass_with_datagram {d : Datagram}
    (came : (s.beforeNetwork around).datagram? around = some d) :
    let looked := (s.beforeNetwork around).looked around
    let meaning := Command.ofText s.station.strictness (d.payload.take Station.datagramLimit)
    s.pass around = (looked.respond d (around.accepts .reply) meaning).refresh ∧
      (s.pass around).mail =
        (replies d ((looked.heard d).obey .datagram meaning).1 (around.accepts .reply)).foldl
          Mail.add (((s.announced around).foldl Mail.add s.mail).receive d) := by
  intro looked meaning
  have passed := s.pass_eq around
  rw [serveNetwork_eq,came] at passed
  dsimp only at passed
  rw [receive_eq,looked_strictness] at passed
  refine ⟨passed,?_⟩
  rw [passed,mail_refresh,mail_respond,mail_looked,mail_beforeNetwork]

variable (s around) in
lemma announced_others : ∀ e ∈ s.announced around, e.datagram? = none ∧ e.isLearning = false := by
  unfold announced notices announcements
  split
  · split
    · exact nofun
    · cases s.station.link.settings.destination with
      | none => exact List.forall_mem_singleton.mpr ⟨rfl,rfl⟩
      | some peer => exact List.forall_mem_cons.mpr ⟨⟨rfl,rfl⟩,List.forall_mem_singleton.mpr ⟨rfl,rfl⟩⟩
  · exact nofun

lemma replies_others {d : Datagram} {lines : List String} {accepted : Bool} :
    ∀ e ∈ replies d lines accepted, e.datagram? = none ∧ e.isLearning = false := by
  unfold replies
  dsimp only
  split
  · exact nofun
  · exact List.forall_mem_singleton.mpr ⟨rfl,rfl⟩

variable {loaded : Network.Settings}

lemma pass_sound (sound : s.mail.Sound loaded) (around : Surroundings) :
    (s.pass around).mail.Sound loaded := by
  have announced := sound.foldl_add (s.announced_others around)
  cases came : (s.beforeNetwork around).datagram? around with
  | none =>
    rw [(pass_without_datagram came).2]
    exact announced
  | some d =>
    rw [(pass_with_datagram came).2]
    exact (announced.receive d).foldl_add replies_others

theorem run_sound (sound : s.mail.Sound loaded) (passes : List Surroundings) :
    (s.run passes).mail.Sound loaded := by
  induction passes generalizing s with
  | nil => exact sound
  | cons around passes ih => exact ih (pass_sound sound around)

/-! ## From the start -/

variable (s)

lemma mail_loadMemory :
    s.loadMemory.2.mail = { s.mail with settings := s.loadMemory.2.station.link.settings } := by
  obtain ⟨log,gates,settings,device,same⟩ := s.loadMemory_same
  rw [same]
  rfl

/-- A start loads the settings, and has nothing else to do with datagrams. -/
lemma mail_start :
    s.start.2.mail = { s.mail with settings := s.start.2.station.link.settings } := by
  have loaded := s.mail_loadMemory
  unfold start
  split
  · rfl
  · rcases h : s.loadMemory with ⟨e | _,t⟩
    · rw [h] at loaded
      exact loaded
    · rw [h] at loaded
      have shown {u : Site} (same : u.mail = t.mail) :
          u.mail = { s.mail with settings := u.station.link.settings } := by
        have settings : u.station.link.settings = t.station.link.settings :=
          congrArg Mail.settings same
        rw [same,settings]
        exact loaded
      dsimp only
      refine shown ?_
      rw [printPrompt,mail_print,mail_print,report,mail_note_other _ rfl,mail_refresh]
      rfl

end Site

/-- Whatever comes in and whatever fails, the settings stay as they were loaded until the first
datagram makes its sender the destination, and stay so ever after; that is reported once at most.
The counters tell, modulo 2 ^ 32, how many datagrams came in and how many were accepted for sending.
A pass sends and reports first what its sample announces. If it takes in a datagram, it does after
that what the text means, once, and sends the answer to the sender, unless it is empty. -/
theorem first_datagram_fixes_destination (c : Config) (device : Device) (clock : Clock.Timestamp)
    (passes : List Surroundings) :
    let s₀ := (Site.initial c device clock).start.2
    let s := s₀.run passes
    s.station.link.settings = s₀.station.link.settings.fixedBy s.datagrams.head? ∧
    s.effects.countP Effect.isLearning ≤ 1 ∧
    s.station.link.received.toNat = s.datagrams.length % 2 ^ 32 ∧
    s.station.link.sent.toNat = s.effects.countP Effect.isSent % 2 ^ 32 ∧
    ∀ around : Surroundings,
      let looked := (s.beforeNetwork around).looked around
      match (s.beforeNetwork around).datagram? around with
      | none =>
        s.pass around = looked.refresh ∧
        (s.pass around).mail.record = s.mail.record ++ s.announced around
      | some d =>
        let meaning := Command.ofText s.station.strictness (d.payload.take Station.datagramLimit)
        let lines := ((looked.heard d).obey .datagram meaning).1
        s.pass around = (looked.respond d (around.accepts .reply) meaning).refresh ∧
        (s.pass around).mail.record = s.mail.record ++ s.announced around ++ [.received d] ++
          s.mail.lesson d.sender ++ Site.replies d lines (around.accepts .reply) := by
  intro s₀ s
  have started : s₀.mail = ⟨false,s₀.station.link.settings,0,0,[]⟩ :=
    (Site.initial c device clock).mail_start
  have sound₀ : s₀.mail.Sound s₀.station.link.settings := by
    rw [started]
    exact ⟨rfl,rfl,Nat.le_refl _,rfl,rfl⟩
  obtain ⟨-,settings,once,received,sent⟩ := Site.run_sound sound₀ passes
  refine ⟨?_,?_,?_,?_,fun around => ?_⟩
  · rw [s.datagrams_eq]
    exact settings
  · rw [← s.countP_mail Effect.isMail_of_isLearning]
    refine Nat.le_trans once ?_
    split <;> decide
  · rw [s.datagrams_eq,← UInt32.toNat_ofNat]
    exact congrArg UInt32.toNat received
  · rw [← s.countP_mail Effect.isMail_of_isSent,← UInt32.toNat_ofNat]
    exact congrArg UInt32.toNat sent
  · intro looked
    cases came : (s.beforeNetwork around).datagram? around with
    | none =>
      obtain ⟨passed,mail⟩ := Site.pass_without_datagram came
      exact ⟨passed,(congrArg Mail.record mail).trans (s.mail.record_foldl_add _)⟩
    | some d =>
      obtain ⟨passed,mail⟩ := Site.pass_with_datagram came
      refine ⟨passed,?_⟩
      rw [mail,Mail.record_foldl_add,Mail.receive,Mail.record_foldl_add,Mail.lesson_foldl_add,
        List.append_cons]

end ClimateStation
