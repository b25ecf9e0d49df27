import ClimateStation.Station.Pass
import Mathlib.Tactic.Lemma

/-! What a station lets be seen: prints, reports and datagrams sent, the lights, the alarm level and
the state of the link. Much of a pass changes nothing else, so that its memory, its settings, its
timers and its console can be followed without it. -/
namespace ClimateStation

/-- The effect is only something to be seen; no occasion for it has come. -/
def Effect.isOutward : Effect → Bool
  | .print _ | .show _ | .report _ | .send .. => true
  | _ => false

namespace Site

/-- The second site differs from the first at most in what can be seen. -/
structure Outward (s t : Site) : Prop where
  same : t = { s with
    station.lights := t.station.lights
    station.level := t.station.level
    station.stale := t.station.stale
    station.link.up := t.station.link.up
    station.link.sent := t.station.link.sent
    effects := t.effects }
  effects : ∃ seen, t.effects = s.effects ++ seen ∧ ∀ e ∈ seen, e.isOutward = true

namespace Outward
variable {s t u : Site}

lemma still (same : t = { s with
    station.lights := t.station.lights
    station.level := t.station.level
    station.stale := t.station.stale
    station.link.up := t.station.link.up
    station.link.sent := t.station.link.sent }) : s.Outward t := by
  refine ⟨same.trans ?_,[],?_,nofun⟩
  · rw [same]
  · rw [same,List.append_nil]

lemma refl (s : Site) : s.Outward s := still rfl

lemma trans (h : s.Outward t) (h' : t.Outward u) : s.Outward u := by
  obtain ⟨seen,shown,outward⟩ := h.effects
  obtain ⟨more,shown',outward'⟩ := h'.effects
  refine ⟨?_,seen ++ more,?_,fun e member => ?_⟩
  · rw [h'.same,h.same]
  · rw [shown',shown,List.append_assoc]
  · exact (List.mem_append.mp member).elim (outward e) (outward' e)

lemma clock (h : s.Outward t) : t.clock = s.clock := by rw [h.same]

lemma display (h : s.Outward t) : t.station.display = s.station.display := by rw [h.same]

end Outward

variable (s : Site)

lemma note_outward {e : Effect} (h : e.isOutward = true) : s.Outward (s.note e) :=
  ⟨rfl,[e],rfl,fun _ member => List.mem_singleton.mp member ▸ h⟩

lemma report_outward (e : Event) : s.Outward (s.report e) := s.note_outward rfl

lemma print_outward (text : String) : s.Outward (s.print text) := by
  unfold print
  split
  · exact .refl s
  · exact s.note_outward rfl

lemma printPrompt_outward : s.Outward s.printPrompt := s.print_outward _

lemma foldl_printLine_outward (lines : List String) : s.Outward (lines.foldl printLine s) := by
  induction lines generalizing s with
  | nil => exact .refl s
  | cons line lines ih => exact (s.print_outward _).trans (ih _)

lemma markStale_outward : s.Outward s.markStale := .still rfl

lemma refresh_outward : s.Outward s.refresh := by
  unfold refresh
  split
  · exact .trans (.still rfl) (note_outward _ rfl)
  · exact .refl s

lemma tickLights_outward (time : Nat) : s.Outward (s.tickLights time) := .still rfl

lemma lightUp_outward : s.Outward s.lightUp := .still rfl

lemma send_outward (purpose : Purpose) (peer : Network.Endpoint) (reply : Datagram.Reply)
    (accepted : Bool) : s.Outward (s.send purpose peer reply accepted) := by
  have noted := s.note_outward (e := .send purpose peer reply.text accepted) rfl
  unfold send
  dsimp only
  split
  · exact noted.trans (.still rfl)
  · exact noted

lemma enterLevel_outward (level : Alarm.Level) (accepted : Bool) :
    s.Outward (s.enterLevel level accepted) := by
  unfold enterLevel
  dsimp only
  refine .trans ?_ (report_outward ..)
  split
  · exact .trans (.still rfl) (send_outward ..)
  · exact .still rfl

lemma checkAlarm_outward (accepted : Bool) : s.Outward (s.checkAlarm accepted) := by
  unfold checkAlarm
  split
  · exact s.enterLevel_outward ..
  · exact .refl s

lemma printMonitored_outward (line : String) : s.Outward (s.printMonitored line) := by
  unfold printMonitored
  split
  · exact s.print_outward _
  · exact .refl s

lemma observeLink_outward (up : Bool) : s.Outward (s.observeLink up) := by
  unfold observeLink
  split
  · exact .refl s
  · exact .trans (.still rfl) (report_outward ..)

end Site
end ClimateStation
