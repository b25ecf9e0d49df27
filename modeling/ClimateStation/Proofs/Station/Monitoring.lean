import ClimateStation.Proofs.Station.Console
import ClimateStation.Proofs.Terminal.Stroke

/-! Monitoring at a running station. It is on exactly while the editor waits for a key, and it is
the console alone that turns it on and off: what else comes in during a run, when and in how many
datagrams, makes no difference to what is typed. -/
namespace ClimateStation
open Storage Terminal

namespace Site
variable {s t : Site}

lemma same_of_console (same : t.console = s.console) :
    t.station.editor = s.station.editor ∧
      t.station.display.monitoring = s.station.display.monitoring :=
  ⟨congrArg (·.desk.editor) same,congrArg (·.desk.monitoring) same⟩

/-- What a pass does to the console is decided by the console and the keys that are typed. -/
lemma pass_console_congr (same : t.console = s.console) {around around' : Surroundings}
    (keys : around'.keys = around.keys) : (t.pass around').console = (s.pass around).console := by
  obtain ⟨read,split,turn,-⟩ := s.pass_turns around
  obtain ⟨read',split',turn',-⟩ := t.pass_turns around'
  have waiting : t.keys = s.keys := congrArg Console.keys same
  rw [waiting,keys,split] at split'
  rw [same] at turn'
  obtain ⟨left,desk⟩ := turn.unique turn' split'
  rw [console_pass,console_pass]
  exact (congr (congrArg Console.mk desk) left).symm

lemma run_console_congr (same : t.console = s.console) {passes passes' : List Surroundings}
    (keys : passes'.map (·.keys) = passes.map (·.keys)) :
    (t.run passes').console = (s.run passes).console := by
  induction passes generalizing s t passes' with
  | nil =>
    rw [List.map_eq_nil_iff.mp keys]
    exact same
  | cons around passes ih =>
    cases passes' with
    | nil => exact nomatch keys
    | cons around' passes' =>
      obtain ⟨first,rest⟩ := List.cons_eq_cons.mp keys
      exact ih (pass_console_congr same first) rest

/-- A pass while the sensor is monitored. -/
lemma pass_monitored (around : Surroundings) (agrees : s.console.desk.Agrees)
    (on : s.station.display.monitoring = true) :
    let t := s.pass around
    if s.station.editor.meetsKey (s.keys ++ around.keys) then
      t.happenings = s.happenings ++ [.dismissed] ∧ t.station.display.monitoring = false
    else t.happenings = s.happenings ∧ t.station.display.monitoring = true ∧ t.keys = [] := by
  have after := s.console_pass around
  have keys : (s.pass around).keys = (s.beforeNetwork around).keys := congrArg Console.keys after
  obtain ⟨read,split,turn,-⟩ := s.pass_turns around
  have waits : s.console.desk.editor.waiting = true := agrees.symm.trans on
  have still : s.console.desk.monitoring = true := on
  have decided := turn.waiting waits
  -- What follows the keys in a pass leaves the console as the turn left it.
  rw [← split,← after,← keys,still] at decided
  exact decided

/-- A pass while it is not. -/
lemma pass_unmonitored (around : Surroundings) (agrees : s.console.desk.Agrees)
    (off : s.station.display.monitoring = false) :
    (s.pass around).happenings ≠ s.happenings ++ [.dismissed] := by
  obtain ⟨read,-,turn,-⟩ := s.pass_turns around
  have idle : s.console.desk.editor.waiting = false := agrees.symm.trans off
  have kept := turn.idle idle
  rw [← console_pass] at kept
  exact kept

end Site

/-- Whatever comes in and whatever fails, monitoring is on exactly while the editor waits for a key.
While it is on, the first key among the bytes that are there to be read ends it, and else nothing
happens; two bytes that are neither part of an escape sequence nor line feeds hold such a key,
whatever was typed before them. While it is off, no key is taken for one that ends it. No datagram
has a part in it: it leaves the console as it was, and runs in which the same keys are typed agree
in monitoring and in all of the editor. -/
theorem monitoring_iff_waiting (c : Config) (device : Device) (clock : Clock.Timestamp)
    (passes : List Surroundings) :
    let s := (Site.initial c device clock).start.2.run passes
    s.station.display.monitoring = s.station.editor.waiting ∧
    (∀ around, let t := s.pass around
      (s.station.display.monitoring = true →
        if s.station.editor.meetsKey (s.keys ++ around.keys) then
          t.happenings = s.happenings ++ [.dismissed] ∧ t.station.display.monitoring = false
        else
          t.happenings = s.happenings ∧ t.station.display.monitoring = true ∧ t.keys = []) ∧
      (s.station.display.monitoring = false → t.happenings ≠ s.happenings ++ [.dismissed])) ∧
    (∀ b b' rest, Editor.Plain b → Editor.Plain b' →
      s.station.editor.meetsKey (b :: b' :: rest) = true) ∧
    (∀ d accepted, (s.receive d accepted).station.editor = s.station.editor ∧
      (s.receive d accepted).station.display.monitoring = s.station.display.monitoring) ∧
    ∀ passes' : List Surroundings, passes'.map (·.keys) = passes.map (·.keys) →
      let t := (Site.initial c device clock).start.2.run passes'
      t.station.editor = s.station.editor ∧
        t.station.display.monitoring = s.station.display.monitoring := by
  intro s
  have agrees : s.console.desk.Agrees := by
    obtain ⟨read,-,reached⟩ := (Site.initial c device clock).start.2.run_reads passes
    rw [Site.console_start] at reached
    have fresh : (Site.initial c device clock).console.desk.Agrees := rfl
    have typed : s.console.desk = (Site.initial c device clock).console.desk.typeAll read := reached
    rw [typed]
    exact Desk.typeAll_agrees fresh read
  refine ⟨agrees,fun around => ⟨Site.pass_monitored around agrees,
    Site.pass_unmonitored around agrees⟩,fun b b' rest => ?_,fun d accepted => ?_,
    fun passes' keys => ?_⟩
  · exact fun first second => Editor.meetsKey_of_plain first second rest
  · exact Site.same_of_console (s.console_receive d accepted)
  · exact Site.same_of_console (Site.run_console_congr rfl keys)

end ClimateStation
