import ClimateStation.Launch.Basic
import ClimateStation.Proofs.Command.Cut
import ClimateStation.Proofs.Datagram.Reply
import ClimateStation.Proofs.Station.Outcome

/-! One language on two channels. What a text is taken for is all that counts: a command leaves the
same site whichever channel it came in on, and a reply holds what the console would show, as far as
it fits. A datagram is read as far as it is received, which is all of it but for blanks that hide
that it is too long. -/
namespace ClimateStation
open Datagram

/-- The event as it would be on the given channel. -/
def Event.on (channel : Channel) : Event → Event
  | .commandRejected _ cause => .commandRejected channel cause
  | e => e

def Effect.event? : Effect → Option Event
  | .report e => some e
  | _ => none

namespace Site
variable (s : Site)

/-- The events reported so far. -/
def events : List Event := s.effects.filterMap Effect.event?

lemma events_report (e : Event) : (s.report e).events = s.events ++ [e] := by
  simp [events, report, note, Effect.event?]

lemma printed_report (e : Event) : (s.report e).printed = s.printed := by
  simp [printed, report, note]

/-! ## Printing -/

/-- Printing shows text on the console and does nothing else. -/
structure Prints (t : Site) (text : String) : Prop where
  effects : t = { s with effects := t.effects }
  events : t.events = s.events
  printed : t.printed = s.printed ++ text

lemma print_prints (text : String) : s.Prints (s.print text) text := by
  unfold print
  split
  · next blank =>
    obtain rfl := String.isEmpty_iff.mp blank
    exact ⟨rfl,rfl,String.append_empty.symm⟩
  · refine ⟨rfl,?_,?_⟩
    · simp [events, note, Effect.event?]
    · simp [printed, note, String.join_append, String.join_cons]

lemma Prints.trans {s t u : Site} {text more : String} (h : s.Prints t text)
    (h' : t.Prints u more) : s.Prints u (text ++ more) := by
  refine ⟨?_,h'.events.trans h.events,?_⟩
  · rw [h'.effects,h.effects]
  · rw [h'.printed,h.printed,String.append_assoc]

lemma foldl_printLine_prints (lines : List String) :
    s.Prints (lines.foldl printLine s) (Reply.linesText lines) := by
  induction lines generalizing s with
  | nil => exact ⟨rfl,rfl,String.append_empty.symm⟩
  | cons line lines ih =>
    rw [Reply.linesText,List.map_cons,String.join_cons]
    exact (s.print_prints (line ++ "\r\n")).trans (ih _)

/-! ## Carrying out -/

/-- Does what a text was taken for, or says why it is no command. -/
def obey (channel : Channel) : Except Command.CommandError Command → Answer
  | .ok c => ((s.answer channel c).1,(s.answer channel c).2.markStale)
  | .error e => (e.report,s.report (.commandRejected channel e))

lemma dispatch_eq (channel : Channel) (input : List UInt8) :
    s.dispatch channel input = s.obey channel (Command.ofText s.station.strictness input) := by
  unfold dispatch
  cases Command.ofText s.station.strictness input <;> rfl

lemma obey_ok (channel : Channel) {c : Command} (h : c.consoleOnly = false) :
    s.obey channel (.ok c) = ((s.carryOut c).1,(s.carryOut c).2.markStale) := by
  rw [obey,s.answer_both channel h]

variable {s}

lemma Outcome.events {t : Site} {c : Command} (h : s.Outcome c t) :
    ∃ done, t.events = s.events ++ done ∧ ∀ channel, done.map (Event.on channel) = done := by
  cases h with
  | logClear => exact ⟨[.logCleared],events_report _ _,fun _ => rfl⟩
  | time | date => exact ⟨[],by simp [Site.events, setClock, note, Effect.event?],fun _ => rfl⟩
  | _ => exact ⟨[],(List.append_nil _).symm,fun _ => rfl⟩

lemma Outcome.printed {t : Site} {c : Command} (h : s.Outcome c t) : t.printed = s.printed := by
  cases h with
  | logClear => exact printed_report _ _
  | time | date => simp [Site.printed, setClock, note]
  | _ => rfl

/-- Two answers to one text: they differ only in the channel that a reported refusal names. -/
structure Agree (s : Site) (a b : Answer) : Prop where
  lines : b.1 = a.1
  site : b.2 = { a.2 with effects := b.2.effects }
  silent : a.2.printed = s.printed
  events : ∃ done, a.2.events = s.events ++ done ∧
    b.2.events = s.events ++ done.map (Event.on .datagram)

lemma obey_agree {meaning : Except Command.CommandError Command}
    (notMonitor : meaning ≠ .ok .climateMonitor) :
    s.Agree (s.obey .console meaning) (s.obey .datagram meaning) := by
  cases meaning with
  | error e =>
    exact ⟨rfl,rfl,s.printed_report _,[.commandRejected .console e],s.events_report _,
      s.events_report _⟩
  | ok c =>
    have both : c.consoleOnly = false := by
      cases c with
      | climateMonitor => exact absurd rfl notMonitor
      | _ => rfl
    rw [s.obey_ok _ both,s.obey_ok _ both]
    obtain ⟨done,reported,unnamed⟩ := (s.carryOut_outcome c).events
    exact ⟨rfl,rfl,(s.carryOut_outcome c).printed,done,reported,(unnamed .datagram).symm ▸ reported⟩

end Site

namespace Site
variable (s : Site) (d : Datagram) (accepted : Bool)

/-- The site when the text of a datagram is about to be carried out. -/
def heard : Site :=
  { s.note (.received d) with
    station.link.received := s.station.link.received + 1 }.learnDestination d.sender

/-- Carries out what a datagram was taken for, and answers it if there is an answer. -/
def respond (meaning : Except Command.CommandError Command) : Site :=
  let (lines,t) := (s.heard d).obey .datagram meaning
  let reply := Reply.ofLines lines
  if reply.isEmpty then t else t.send .reply d.sender reply accepted

lemma heard_strictness : (s.heard d).station.strictness = s.station.strictness := by
  unfold heard learnDestination
  split
  · rfl
  · dsimp only
    split <;> rfl

lemma receive_eq : s.receive d accepted = s.respond d accepted
    (Command.ofText s.station.strictness (d.payload.take Station.datagramLimit)) := by
  unfold respond
  rw [← s.heard_strictness d,← dispatch_eq]
  rfl

end Site

/-- A station takes a datagram for what its whole payload means, unless it reads strictly and only
what it does not receive shows that the payload is too long. Then it takes the datagram for what
the first bytes mean alone. -/
theorem datagram_read_whole_iff (s : Site) (d : Datagram) (accepted : Bool) :
    let mode := s.station.strictness
    let received := Command.ofText mode (d.payload.take Station.datagramLimit)
    let hidden := mode = .strict ∧ Command.LongBeyond Station.datagramLimit d.payload
    s.receive d accepted = s.respond d accepted received ∧
    (received = Command.ofText mode d.payload ↔ ¬hidden) ∧
    (hidden → Command.ofText mode d.payload = .error (.malformed .tooLong) ∧
      received = Command.ofText mode (d.payload.take Command.Sequence.textLimit)) := by
  intro mode received hidden
  have limits : Command.Sequence.textLimit ≤ Station.datagramLimit := by decide
  refine ⟨s.receive_eq d accepted,Command.ofText_take_eq_iff limits,fun ⟨strict,beyond⟩ => ?_⟩
  exact ⟨Command.ofText_tooLong_iff.mpr ⟨strict,beyond.2⟩,
    Command.ofText_take_of_longBeyond limits beyond⟩

/-- Thirty-eight blanks behind `led on` hide from the station that the payload goes on. -/
theorem blanks_hide_length :
    let payload := Text.bytesOf ['l','e','d',' ','o','n'] ++ List.replicate 38 32 ++ [120]
    Command.ofText .strict (payload.take Station.datagramLimit) = .ok (.lightMode .on) ∧
      Command.ofText .strict payload = .error (.malformed .tooLong) := by
  decide +kernel

end ClimateStation
