import ClimateStation.Proofs.Log.Listing
import ClimateStation.Proofs.Station.Logging
import ClimateStation.Proofs.Station.Mail

/-! Where the entries in the log come from. Whatever fails, nothing gets into the log but readings,
each with the time of the clock when it was taken. So if the log is empty at first and the clock
keeps to the calendar, every entry has a date of the calendar. -/
namespace ClimateStation
open Storage

/-- Whatever fails, an operation leaves no entries but those from before and the one that it
appends. -/
lemma Held.InStep.mem_entries {h : Held} {c : Config} (inStep : h.InStep c) (op : Log.Operation)
    {log : Log.Ring} {device : Device}
    (done : op.attempt [Layout.log] (h.log,h.device) = (log,device)) :
    ∀ e ∈ { h with log, device }.entries, e ∈ h.entries ∨ op = .append e := by
  have kept := op.mem_contents_attempt (s := (h.log,h.device)) (Layout.fits_log inStep.size)
    inStep.log
  rw [done] at kept
  exact kept

namespace Site

/-- Every entry in the log has a date of the calendar. -/
structure Dated (config : Config) (s : Site) : Prop where
  inStep : s.held.InStep config
  entries : ∀ e ∈ s.held.entries, e.timestamp.OnCalendar

variable {s t : Site} {c : Config}

/-- Clearing takes entries away, if it does anything; no other command changes them. -/
lemma Outcome.mem_entries {command : Command} (h : s.Outcome command t)
    (inStep : s.held.InStep c) : ∀ e ∈ t.held.entries, e ∈ s.held.entries := by
  by_cases clears : command = .logClear
  · subst clears
    cases h with
    | @answer _ device bytes =>
      have same : { s with device }.held.entries = s.held.entries :=
        Held.entries_of_bytes rfl bytes
      exact fun e member => same ▸ member
    | logClear cleared =>
      have kept := inStep.mem_entries .clear (Log.Operation.attempt_ok cleared)
      exact fun e member => (kept e member).resolve_right nofun
  · rw [h.entries clears inStep]
    exact fun _ member => member

/-- Logging a reading adds that reading at most. -/
lemma mem_entries_logReading (inStep : s.held.InStep c) (r : Climate.Reading) :
    ∀ e ∈ (s.logReading r).held.entries, e ∈ s.held.entries ∨ e = entryOf s.clock r := by
  intro e member
  have found : e ∈ s.held.entries ∨
      Log.Operation.append (entryOf s.clock r) = Log.Operation.append e := by
    rcases s.logReading_cases r with ⟨cause,device,failed,reached⟩ | ⟨log,device,ok,reached⟩
    · rw [reached] at member
      exact inStep.mem_entries (.append _) (Log.Operation.attempt_error failed) e member
    · rw [reached] at member
      exact inStep.mem_entries (.append _) (Log.Operation.attempt_ok ok) e member
  exact found.imp_right fun same => (Log.Operation.append.inj same).symm

namespace Dated

lemma of_held (h : s.Dated c) (held : t.held = s.held) : t.Dated c :=
  ⟨held ▸ h.inStep,held ▸ h.entries⟩

lemma outward (h : s.Dated c) (outward : s.Outward t) : t.Dated c := h.of_held outward.held

lemma dispatch (h : s.Dated c) (channel : Channel) (input : List UInt8) :
    (s.dispatch channel input).2.Dated c := by
  refine ⟨h.inStep.step (s.dispatch_step channel input),?_⟩
  rw [dispatch_eq]
  cases Command.ofText s.station.strictness input with
  | error cause => exact h.entries
  | ok command =>
    intro e member
    exact h.entries e ((s.answer_outcome channel command).mem_entries h.inStep e member)

lemma heard (h : s.Dated c) (d : Datagram) : (s.heard d).Dated c := by
  refine ⟨s.heard_held d ▸ h.inStep.learn d.sender,?_⟩
  rw [s.heard_held d,h.inStep.entries_learn]
  exact h.entries

lemma looked (h : s.Dated c) (around : Surroundings) : (s.looked around).Dated c := by
  have polled : { s with
      station.networkTimer := (s.station.networkTimer.poll around.time).2 }.Dated c := h.of_held rfl
  unfold Site.looked
  dsimp only
  split
  · exact polled.outward (observeLink_outward ..)
  · exact polled

lemma move (h : s.Dated c) (move : Move s t) : t.Dated c := by
  cases move with
  | print text => exact h.outward (s.print_outward text)
  | edit | dismiss | poll => exact h.of_held rfl
  | submit line =>
    have noted : (s.note (.submitted line)).Dated c := h.of_held rfl
    exact noted.dispatch ..
  | link up => exact h.outward (s.observeLink_outward up)
  | hear d => exact (h.heard d).dispatch ..
  | reply peer text accepted => exact h.outward (s.send_outward _ peer text accepted)
  | refresh => exact h.outward s.refresh_outward

lemma logIfDue (h : s.Dated c) (dated : s.clock.OnCalendar) (time : Nat) (r : Climate.Reading) :
    (s.logIfDue time r).Dated c := by
  have ready : { s with station.logTimer := (s.station.logTimer.poll time).2 }.Dated c :=
    h.of_held rfl
  unfold Site.logIfDue
  dsimp only
  split
  · refine ⟨ready.inStep.step (logReading_step _ r),fun e member => ?_⟩
    rcases mem_entries_logReading ready.inStep r e member with old | rfl
    · exact ready.entries e old
    · exact dated
  · exact ready

lemma takeSample (h : s.Dated c) {around : Surroundings} (dated : s.clock.OnCalendar) :
    (s.takeSample around).Dated c := by
  unfold Site.takeSample
  dsimp only
  split
  · have noted : (s.note (.sample around.sensor)).Dated c := h.of_held rfl
    exact noted.outward ((printMonitored_outward ..).trans (report_outward ..))
  · next r _ =>
    have logged {u t : Site} (h : u.Dated c) (dated : u.clock.OnCalendar) (seen : u.Outward t) :
        (t.logIfDue around.time r).Dated c :=
      (h.outward seen).logIfDue (seen.clock ▸ dated) around.time r
    refine logged ?_ ?_ ((checkAlarm_outward ..).trans (printMonitored_outward ..))
    · exact h.of_held rfl
    · exact dated

lemma beforeKeys (h : s.Dated c) {around : Surroundings} (dated : around.clock.OnCalendar) :
    (s.beforeKeys around).Dated c := by
  have ready : (s.beforeSample around).Dated c := h.of_held rfl
  rw [beforeKeys_eq]
  split
  · exact ready.takeSample dated
  · exact ready

lemma beforeNetwork (h : s.Dated c) {around : Surroundings} (dated : around.clock.OnCalendar) :
    (s.beforeNetwork around).Dated c :=
  (readKeys_moves ..).preserves (h.beforeKeys dated) fun _ _ last h => h.move last

lemma pass (h : s.Dated c) {around : Surroundings} (dated : around.clock.OnCalendar) :
    (s.pass around).Dated c :=
  (s.pass_moves around).preserves (h.beforeKeys dated) fun _ _ last h => h.move last

theorem run (h : s.Dated c) {passes : List Surroundings}
    (dated : ∀ around ∈ passes, around.clock.OnCalendar) : (s.run passes).Dated c := by
  induction passes generalizing s with
  | nil => exact h
  | cons around passes ih =>
    obtain ⟨first,rest⟩ := List.forall_mem_cons.mp dated
    exact ih (h.pass first) rest

end Dated

/-- On a device that was never written to, the log is empty at first. -/
lemma start_dated (started : s.start.1 = .ok ()) (blank : ∀ b ∈ s.device.bytes, b = erased) :
    s.start.2.Dated s.station.config := by
  obtain ⟨-,loads⟩ := start_ok_iff.mp ⟨started,rfl⟩
  obtain ⟨-,entries⟩ := loads.entries
  have none : Log.Ring.found (Place.view [Layout.log] s.device.bytes) = [] :=
    Log.Ring.found_of_erased fun b member => blank b (List.mem_of_mem_drop member)
  refine ⟨loads.inStep.1,?_⟩
  rw [entries,none]
  exact nofun

end Site
end ClimateStation
