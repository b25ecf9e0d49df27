import ClimateStation.Proofs.Station.Channels
import ClimateStation.Proofs.Station.Held
import ClimateStation.Proofs.Terminal.Transcript

/-! What happens at the console of a running station. Samples, alarms, the link and datagrams go on
around it, and none of them touches the editor, the keys that wait or what the editor is waiting
for. So a pass is a turn of the typed bytes, and a run comes to their transcript. -/
namespace ClimateStation
open Storage Terminal

/-- What an effect has to do with the console, apart from what is shown. -/
def Effect.happening? : Effect → Option Happening
  | .submitted line => some (.submitted line)
  | .dismissed => some .dismissed
  | _ => none

lemma Effect.happening?_of_isOutward {e : Effect} (h : e.isOutward = true) :
    e.happening? = none := by
  cases e <;> first | rfl | exact nomatch h

/-- The part of a site that typed bytes depend on, with those that wait. -/
structure Console where
  desk : Desk
  keys : List UInt8

namespace Site
variable (s : Site)

/-- What happened at the console so far. -/
def happenings : List Happening := s.effects.filterMap Effect.happening?

def console : Console :=
  { desk :=
      { mode := s.station.strictness
        editor := s.station.editor
        monitoring := s.station.display.monitoring
        happened := s.happenings }
    keys := s.keys }

lemma happenings_note (e : Effect) :
    (s.note e).happenings = s.happenings ++ e.happening?.toList := by
  cases h : e.happening? <;> simp [happenings,note,h]

lemma console_note {e : Effect} (h : e.happening? = none) : (s.note e).console = s.console := by
  have same : (s.note e).happenings = s.happenings := by simp [happenings_note,h]
  unfold console
  rw [same]
  rfl

lemma Outward.console {s t : Site} (h : s.Outward t) : t.console = s.console := by
  have happened : t.happenings = s.happenings := by
    obtain ⟨seen,effects,outward⟩ := h.effects
    have nothing : seen.filterMap Effect.happening? = [] :=
      List.filterMap_eq_nil_iff.mpr fun e member =>
        Effect.happening?_of_isOutward (outward e member)
    rw [happenings,effects,List.filterMap_append,nothing,List.append_nil,happenings]
  unfold Site.console
  rw [happened,h.same]
  rfl

/-! ## Commands -/

lemma Outcome.console {s t : Site} {c : Command} (h : s.Outcome c t) (other : c ≠ .climateMonitor) :
    t.console = s.console := by
  cases h with
  | monitorOn | monitorOff => exact absurd rfl other
  | logClear => exact (report_outward ..).console
  | time | date => exact console_note _ rfl
  | _ => rfl

lemma answerMonitor_console :
    s.answerMonitor.2.console = { s.console with desk := s.console.desk.obey (.ok .climateMonitor) } := by
  have split : s.console.desk.obey (.ok .climateMonitor) =
      if s.station.display.monitoring then { s.console.desk with monitoring := false }
      else { s.console.desk with monitoring := true, editor := s.station.editor.await } := rfl
  rw [split]
  unfold answerMonitor
  split <;> rfl

/-- On the console, a text does to the site what it does to the desk. -/
lemma obey_console (meaning : Except Command.CommandError Command) :
    (s.obey .console meaning).2.console =
      { s.console with desk := s.console.desk.obey meaning } := by
  cases meaning with
  | error e => exact (s.report_outward _).console
  | ok c =>
    by_cases monitor : c = .climateMonitor
    · subst monitor
      exact s.answerMonitor_console
    · have same : s.console.desk.obey (.ok c) = s.console.desk := by
        unfold Desk.obey
        split
        · next h => exact absurd (Except.ok.inj h) monitor
        · rfl
      rw [same]
      exact (markStale_outward _).console.trans ((s.answer_outcome .console c).console monitor)

/-- In a datagram, no text does anything to the console. -/
lemma obey_datagram_console (meaning : Except Command.CommandError Command) :
    (s.obey .datagram meaning).2.console = s.console := by
  cases meaning with
  | error e => exact (s.report_outward _).console
  | ok c =>
    by_cases monitor : c = .climateMonitor
    · subst monitor
      rfl
    · exact (markStale_outward _).console.trans ((s.answer_outcome .datagram c).console monitor)

/-- Does at the console what a happening stands for. -/
def handle : Happening → Site
  | .submitted line => s.submit line
  | .dismissed => s.dismiss

lemma handle_console (e : Happening) :
    (s.handle e).console = { s.console with desk := s.console.desk.handle e } := by
  cases e with
  | submitted line =>
    have noted : (s.note (.submitted line)).console =
        { s.console with desk := s.console.desk.record (.submitted line) } := by
      unfold console Desk.record
      rw [happenings_note]
      rfl
    unfold handle submit
    dsimp only
    rw [(printPrompt_outward _).console,(foldl_printLine_outward ..).console,dispatch_eq,
      obey_console,noted]
    rfl
  | dismissed =>
    unfold handle dismiss
    rw [(printPrompt_outward _).console]
    unfold console Desk.handle Desk.record
    rw [happenings_note]
    rfl

/-! ## Everything else -/

lemma console_logReading (r : Climate.Reading) : (s.logReading r).console = s.console := by
  have noted : (s.note (.logAttempt (entryOf s.clock r))).console = s.console := s.console_note rfl
  rcases s.logReading_cases r with ⟨e,device,-,reached⟩ | ⟨log,device,-,reached⟩
  · rw [reached]
    exact noted
  · rw [reached]
    exact (report_outward ..).console.trans noted

lemma console_logIfDue (time : Nat) (r : Climate.Reading) :
    (s.logIfDue time r).console = s.console := by
  unfold logIfDue
  dsimp only
  split
  · exact console_logReading ..
  · rfl

lemma console_takeSample (around : Surroundings) : (s.takeSample around).console = s.console := by
  unfold takeSample
  dsimp only
  split
  · rw [(report_outward ..).console,(printMonitored_outward ..).console]
    exact s.console_note rfl
  · rw [console_logIfDue,(printMonitored_outward ..).console,(checkAlarm_outward ..).console]
    exact s.console_note rfl

lemma console_sampleIfDue (around : Surroundings) :
    (s.sampleIfDue around).console = s.console := by
  unfold sampleIfDue
  dsimp only
  split
  · exact console_takeSample ..
  · rfl

lemma console_learnDestination (peer : Network.Endpoint) :
    (s.learnDestination peer).console = s.console := by
  unfold learnDestination
  split
  · rfl
  · dsimp only
    split
    · rfl
    · exact (report_outward ..).console

lemma console_receive (d : Datagram) (accepted : Bool) :
    (s.receive d accepted).console = s.console := by
  have heard : (s.heard d).console = s.console := by
    unfold heard
    rw [console_learnDestination]
    exact s.console_note rfl
  rw [receive_eq]
  unfold respond
  dsimp only
  split
  · rw [obey_datagram_console,heard]
  · rw [(send_outward ..).console,obey_datagram_console,heard]

lemma console_serveNetwork (around : Surroundings) :
    (s.serveNetwork around).console = s.console := by
  unfold serveNetwork
  dsimp only
  split
  · split
    · rw [console_receive,(observeLink_outward ..).console]
      rfl
    · exact (observeLink_outward ..).console
  · rfl

/-! ## Typed bytes -/

/-- A turn of the given keys leads from the desk to the site, and what happens in it is carried out
there. -/
def Turns (d : Desk) (keys : List UInt8) (t : Site) : Prop :=
  ∃ read, keys = read ++ t.keys ∧ Desk.Turn d read t.keys t.console.desk ∧
    ∀ e, t.happenings = d.happened ++ [e] → ∃ before : Site, t = before.handle e

variable {s}

lemma Turns.handle {d : Desk} {b : UInt8} {rest : List UInt8} {e : Happening}
    (typed : (s.handle e).console = ⟨d.typeByte b,rest⟩)
    (new : (d.typeByte b).happened = d.happened ++ [e]) : Turns d (b :: rest) (s.handle e) := by
  have keys : (s.handle e).keys = rest := congrArg Console.keys typed
  have happened : (s.handle e).happenings = d.happened ++ [e] :=
    (congrArg (·.desk.happened) typed).trans new
  refine ⟨[b],by rw [keys]; rfl,?_,fun e' new' => ⟨s,?_⟩⟩
  · rw [keys,typed]
    exact .happens new
  · rw [List.singleton_inj.mp (List.append_cancel_left (happened.symm.trans new'))]

lemma Turns.pending {d : Desk} {b : UInt8} {rest : List UInt8}
    (quiet : (d.typeByte b).happened = d.happened) (tail : Turns (d.typeByte b) rest s) :
    Turns d (b :: rest) s := by
  obtain ⟨read,split,turn,done⟩ := tail
  rw [quiet] at done
  exact ⟨b :: read,congrArg (b :: ·) split,.pending quiet turn,done⟩

variable (s)

/-- Reading the keys that wait is a turn. -/
theorem readKeys_turns (localEcho : Bool) (keys : List UInt8) :
    Turns s.console.desk keys (s.readKeys localEcho keys) := by
  induction keys generalizing s with
  | nil =>
    refine ⟨[],rfl,.drained,fun e new => ?_⟩
    have same : s.happenings = s.happenings ++ [e] := new
    simp at same
  | cons b rest ih =>
    unfold readKeys
    rcases fed : s.station.editor.feed localEcho b with ⟨edit,shown,editor⟩
    have typed := Desk.typeByte_of_feed (d := s.console.desk) fed
    dsimp only
    generalize ht : ({ s with station.editor := editor, keys := rest }.print shown) = t
    have reached : t.console = { desk := { s.console.desk with editor }, keys := rest } := by
      rw [← ht,(print_outward ..).console]
      rfl
    have handled (e : Happening) (is : edit.happening? = some e) :
        Turns s.console.desk (b :: rest) (t.handle e) := by
      rw [is] at typed
      refine .handle (by rw [handle_console,reached,typed]) ?_
      rw [typed]
      exact Desk.handle_happened ..
    cases edit with
    | submit line => exact handled (.submitted line) rfl
    | dismissed => exact handled .dismissed rfl
    | pending =>
      have now : s.console.desk.typeByte b = t.console.desk := typed.trans (by rw [reached]; rfl)
      refine .pending (by rw [typed]; rfl) ?_
      rw [now]
      exact ih t

/-- The site when a pass comes to the keys. -/
def beforeKeys (around : Surroundings) : Site :=
  { s with clock := around.clock, keys := s.keys ++ around.keys }.tickLights around.time
    |>.sampleIfDue around

lemma console_beforeKeys (around : Surroundings) :
    (s.beforeKeys around).console = { s.console with keys := s.keys ++ around.keys } :=
  (console_sampleIfDue ..).trans (tickLights_outward ..).console

/-- So is a pass, whatever else comes in. -/
theorem pass_turns (around : Surroundings) :
    Turns s.console.desk (s.keys ++ around.keys) (s.beforeNetwork around) := by
  have turns := (s.beforeKeys around).readKeys_turns around.localEcho (s.beforeKeys around).keys
  have keys : (s.beforeKeys around).keys = s.keys ++ around.keys :=
    congrArg Console.keys (s.console_beforeKeys around)
  rw [console_beforeKeys] at turns
  rw [← keys]
  exact turns

lemma console_pass (around : Surroundings) :
    (s.pass around).console = (s.beforeNetwork around).console := by
  rw [pass_eq,(refresh_outward _).console,console_serveNetwork]

/-- A pass carries out at most one thing, at the last byte that it reads, and leaves the keys behind
that byte. If it carries out nothing, it leaves none. -/
theorem pass_at_most_one (around : Surroundings) :
    let t := s.pass around
    ∃ now, s.keys ++ around.keys = now ++ t.keys ∧
      t.console.desk = s.console.desk.typeAll now ∧
      (t.keys = [] ∧ t.happenings = s.happenings ∨
        ∃ e, t.happenings = s.happenings ++ [e] ∧
          (∃ before : Site, s.beforeNetwork around = before.handle e) ∧
          ∀ part, part <+: now → part ≠ now →
            (s.console.desk.typeAll part).happened = s.happenings) := by
  have after := s.console_pass around
  have keys : (s.pass around).keys = (s.beforeNetwork around).keys := congrArg Console.keys after
  have happened : (s.pass around).happenings = (s.beforeNetwork around).happenings :=
    congrArg (·.desk.happened) after
  obtain ⟨now,split,turn,done⟩ := s.pass_turns around
  dsimp only
  rw [keys,happened,after]
  refine ⟨now,split,turn.typeAll_eq,?_⟩
  rcases turn.at_most_one with nothing | ⟨e,new,last⟩
  · exact .inl nothing
  · exact .inr ⟨e,new,done e new,last⟩

/-! ## Runs -/

/-- A run has read a first part of what was typed, and the rest waits. -/
theorem run_reads (passes : List Surroundings) :
    ∃ read, s.keys ++ passes.flatMap (·.keys) = read ++ (s.run passes).keys ∧
      (s.run passes).console.desk = s.console.desk.typeAll read := by
  induction passes generalizing s with
  | nil => exact ⟨[],List.append_nil _,rfl⟩
  | cons around passes ih =>
    obtain ⟨now,split,typed,-⟩ := s.pass_at_most_one around
    obtain ⟨read,rest,reached⟩ := ih (s.pass around)
    refine ⟨now ++ read,?_,?_⟩
    · rw [List.flatMap_cons,← List.append_assoc,split,List.append_assoc,rest,List.append_assoc]
      rfl
    · rw [Desk.typeAll_append,← typed]
      exact reached

variable {s} {later : List Surroundings}

lemma run_silent (silent : ∀ around ∈ later, around.keys = []) (drained : s.keys = []) :
    (s.run later).keys = [] := by
  obtain ⟨read,split,-⟩ := s.run_reads later
  rw [drained,List.flatMap_eq_nil_iff.mpr silent] at split
  exact (List.append_eq_nil_iff.mp split.symm).2

/-- Each pass that leaves keys brings about something, so there are fewer of them than there are
things to come. -/
lemma run_drains (silent : ∀ around ∈ later, around.keys = [])
    (enough : (s.console.desk.typeAll s.keys).happened.length < s.happenings.length + later.length) :
    (s.run later).keys = [] := by
  induction later generalizing s with
  | nil =>
    have kept := (s.console.desk.typeAll_happened s.keys).length_le
    exact absurd enough (Nat.not_lt.mpr kept)
  | cons around later ih =>
    have rest : ∀ other ∈ later, other.keys = [] :=
      fun other member => silent other (List.mem_cons_of_mem _ member)
    obtain ⟨now,split,typed,one⟩ := s.pass_at_most_one around
    rw [silent around List.mem_cons_self,List.append_nil] at split
    rcases one with ⟨drained,-⟩ | ⟨e,new,-⟩
    · exact run_silent (s := s.pass around) rest drained
    · refine ih rest ?_
      rw [split,Desk.typeAll_append,← typed,List.length_cons] at enough
      rw [new,List.length_append,List.length_singleton]
      omega

/-- Once all keys are read, they have been typed one after the other. -/
lemma run_typed (silent : ∀ around ∈ later, around.keys = []) (drained : (s.run later).keys = []) :
    (s.run later).console.desk = s.console.desk.typeAll s.keys := by
  obtain ⟨read,split,reached⟩ := s.run_reads later
  rw [drained,List.flatMap_eq_nil_iff.mpr silent,List.append_nil,List.append_nil] at split
  rw [split]
  exact reached

variable (s)

/-! ## From the start -/

lemma console_loadMemory : s.loadMemory.2.console = s.console := by
  obtain ⟨log,gates,settings,device,same⟩ := s.loadMemory_same
  rw [same]
  rfl

lemma console_start : s.start.2.console = s.console := by
  have loaded := s.console_loadMemory
  unfold start
  split
  · rfl
  · rcases h : s.loadMemory with ⟨e | _,t⟩
    · rw [h] at loaded
      exact loaded
    · rw [h] at loaded
      dsimp only
      rw [(printPrompt_outward _).console,(print_outward ..).console,(report_outward ..).console,
        (refresh_outward _).console,(lightUp_outward _).console]
      exact loaded

end Site

/-- What happens at the console is decided by what is typed and by how the station reads commands,
whenever the bytes arrive, and whatever else comes in or fails. At any time a first part of what was
typed has been read, and its transcript is what has happened. Each pass reads on until the next
thing happens, which it carries out, or until nothing is left; more passes than there are things to
come read all that was typed. -/
theorem console_follows_transcript (c : Config) (device : Device) (clock : Clock.Timestamp)
    (passes : List Surroundings) :
    let mode := (Station.initial c).strictness
    let s := (Site.initial c device clock).start.2.run passes
    let typed := passes.flatMap (·.keys)
    (∃ read, typed = read ++ s.keys ∧ s.happenings = transcript mode read ∧
      ∀ around, let t := s.pass around
        ∃ now, s.keys ++ around.keys = now ++ t.keys ∧
          (t.keys = [] ∧ t.happenings = s.happenings ∨
            ∃ e, t.happenings = s.happenings ++ [e] ∧
              (∃ before : Site, s.beforeNetwork around = before.handle e) ∧
              ∀ part, part <+: now → part ≠ now →
                transcript mode (read ++ part) = s.happenings)) ∧
    ∀ later, (∀ around ∈ later, around.keys = []) →
      (transcript mode typed).length < later.length →
        (s.run later).keys = [] ∧ (s.run later).happenings = transcript mode typed := by
  intro mode s typed
  have start : (Site.initial c device clock).start.2.console = ⟨.fresh mode,[]⟩ :=
    (Site.initial c device clock).console_start
  have idle : (Site.initial c device clock).start.2.keys = [] := congrArg Console.keys start
  obtain ⟨read,split,reached⟩ := (Site.initial c device clock).start.2.run_reads passes
  rw [start] at reached
  rw [idle,List.nil_append] at split
  have happened : s.happenings = transcript mode read := congrArg Desk.happened reached
  refine ⟨⟨read,split,happened,fun around => ?_⟩,fun later silent enough => ?_⟩
  · obtain ⟨now,pieces,-,one⟩ := s.pass_at_most_one around
    rw [reached] at one
    simp only [← Desk.typeAll_append] at one
    exact ⟨now,pieces,one⟩
  · have all : (s.console.desk.typeAll s.keys).happened = transcript mode typed := by
      rw [reached,← Desk.typeAll_append,← split]
      rfl
    have drained : (s.run later).keys = [] := by
      refine Site.run_drains silent ?_
      rw [all]
      exact Nat.lt_of_lt_of_le enough (Nat.le_add_left ..)
    exact ⟨drained,(congrArg Desk.happened (Site.run_typed silent drained)).trans all⟩

end ClimateStation
