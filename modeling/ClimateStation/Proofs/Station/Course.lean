import ClimateStation.Proofs.Station.Console

/-! The course of a pass. After its sample, a pass does one small thing after another, and these
moves are of a few kinds: what each of them keeps, the rest of the pass keeps. Whatever is done is
added at the end of the record, so the record of a pass is well defined. -/
namespace ClimateStation
open Storage

namespace Site

/-- One thing that a station does in a pass once the sample is taken. -/
inductive Move (s : Site) : Site → Prop
  | print (text : String) : Move s (s.print text)
  | edit (editor : Terminal.Editor) (keys : List UInt8) :
      Move s { s with station.editor := editor, keys }
  /-- A line is handed over and carried out. -/
  | submit (line : List UInt8) :
      Move s ((s.note (.submitted line)).dispatch .console line).2
  | dismiss : Move s ({ s with station.display.monitoring := false }.note .dismissed)
  | poll (timer : Timer) : Move s { s with station.networkTimer := timer }
  | link (up : Bool) : Move s (s.observeLink up)
  /-- A datagram is taken in and carried out. -/
  | hear (d : Datagram) :
      Move s ((s.heard d).dispatch .datagram (d.payload.take Station.datagramLimit)).2
  | reply (peer : Network.Endpoint) (text : Datagram.Reply) (accepted : Bool) :
      Move s (s.send .reply peer text accepted)
  | refresh : Move s s.refresh

abbrev Moves : Site → Site → Prop := Relation.ReflTransGen Move

variable {s t : Site}

/-- What every move keeps is kept by any number of them. -/
theorem Moves.keeps {γ : Type} {view : Site → γ} (moves : Moves s t)
    (move : ∀ u v : Site, Move u v → view v = view u) : view t = view s := by
  induction moves with
  | refl => rfl
  | tail _ last ih => exact (move _ _ last).trans ih

/-- What every move preserves holds after any number of them. -/
theorem Moves.preserves {holds : Site → Prop} (moves : Moves s t) (first : holds s)
    (move : ∀ u v : Site, Move u v → holds u → holds v) : holds t := by
  induction moves with
  | refl => exact first
  | tail _ last ih => exact move _ _ last ih

/-! ## Views that do not see what is done -/

section
variable {γ : Type} {view : Site → γ}

lemma keeps_print (printed : ∀ (u : Site) text, view (u.note (.print text)) = view u)
    (s : Site) (text : String) : view (s.print text) = view s := by
  unfold print
  split
  · rfl
  · exact printed s text

lemma keeps_printMonitored (printed : ∀ (u : Site) text, view (u.note (.print text)) = view u)
    (s : Site) (line : String) : view (s.printMonitored line) = view s := by
  unfold printMonitored
  split
  · exact keeps_print printed s _
  · rfl

/-- A view that sees nothing of the log does not see it when a reading is logged. -/
lemma keeps_logIfDue (attempted : ∀ (u : Site) entry, view (u.note (.logAttempt entry)) = view u)
    (appended : ∀ (u : Site) count next, view (u.report (.logAppended count next)) = view u)
    (stored : ∀ (u : Site) log timer device,
      view { u with station.log := log, station.logTimer := timer, device } = view u)
    (s : Site) (time : Nat) (r : Climate.Reading) : view (s.logIfDue time r) = view s := by
  have given (u : Site) : view (u.logReading r) = view u := by
    have noted := attempted u (entryOf u.clock r)
    rcases u.logReading_cases r with ⟨e,device,-,reached⟩ | ⟨log,device,-,reached⟩
    · rw [reached]
      exact (stored _ u.station.log u.station.logTimer device).trans noted
    · rw [reached]
      exact (appended ..).trans ((stored _ log u.station.logTimer device).trans noted)
  have polled := stored s s.station.log (s.station.logTimer.poll time).2 s.device
  unfold logIfDue
  dsimp only
  split
  · exact (given _).trans polled
  · exact polled

/-- One that sees nothing of the destination does not see it when that is learned. -/
lemma keeps_learnDestination
    (reported : ∀ (u : Site) peer, view (u.report (.destinationLearned peer)) = view u)
    (stored : ∀ (u : Site) learned settings device, view { u with
      station.link.learned := learned, station.link.settings := settings, device } = view u)
    (s : Site) (peer : Network.Endpoint) : view (s.learnDestination peer) = view s := by
  unfold learnDestination
  split
  · rfl
  · dsimp only
    split
    · exact stored s true s.station.link.settings s.device
    · exact (reported ..).trans (stored ..)

end

/-! ## The moves of a pass -/

variable (s)

lemma foldl_printLine_moves (lines : List String) : Moves s (lines.foldl printLine s) := by
  induction lines generalizing s with
  | nil => exact .refl
  | cons line lines ih => exact .head (.print _) (ih _)

lemma submit_moves (line : List UInt8) : Moves s (s.submit line) := by
  apply Relation.ReflTransGen.head (Move.submit line)
  exact (foldl_printLine_moves _ _).tail (.print _)

lemma dismiss_moves : Moves s s.dismiss :=
  .tail (.single .dismiss) (.print _)

lemma readKeys_moves (localEcho : Bool) (keys : List UInt8) :
    Moves s (s.readKeys localEcho keys) := by
  induction keys generalizing s with
  | nil => exact .single (.edit s.station.editor [])
  | cons b rest ih =>
    unfold readKeys
    rcases s.station.editor.feed localEcho b with ⟨edit,shown,editor⟩
    have fed : Moves s ({ s with station.editor := editor, keys := rest }.print shown) :=
      .tail (.single (.edit editor rest)) (.print shown)
    cases edit with
    | pending => exact fed.trans (ih _)
    | submit line => exact fed.trans (submit_moves _ line)
    | dismissed => exact fed.trans (dismiss_moves _)

lemma receive_moves (d : Datagram) (accepted : Bool) : Moves s (s.receive d accepted) := by
  apply Relation.ReflTransGen.head (Move.hear d)
  unfold receive
  dsimp only
  split
  · exact .refl
  · exact .single (.reply ..)

lemma serveNetwork_moves (around : Surroundings) : Moves s (s.serveNetwork around) := by
  unfold serveNetwork
  apply Relation.ReflTransGen.head (Move.poll (s.station.networkTimer.poll around.time).2)
  dsimp only
  split
  · apply Relation.ReflTransGen.head (Move.link around.linkUp)
    split
    · exact receive_moves ..
    · exact .refl
  · exact .refl

/-- What a pass does before it takes its sample, if it is time for one. -/
def beforeSample (around : Surroundings) : Site :=
  let s := { s with clock := around.clock, keys := s.keys ++ around.keys }.tickLights around.time
  { s with station.sampleTimer := (s.station.sampleTimer.poll around.time).2 }

lemma beforeKeys_eq (around : Surroundings) : s.beforeKeys around =
    if (s.station.sampleTimer.poll around.time).1 = true then
      (s.beforeSample around).takeSample around
    else s.beforeSample around := rfl

/-- All that a pass does after its sample. -/
theorem pass_moves (around : Surroundings) : Moves (s.beforeKeys around) (s.pass around) :=
  .tail ((readKeys_moves ..).trans (serveNetwork_moves ..)) .refresh

/-! ## The record -/

variable {s} {u : Site} {e : Effect} {c : Command}

/-- The effect was recorded on the way from the first site to the second. -/
def Did (s t : Site) (e : Effect) : Prop := ∃ done, t.effects = s.effects ++ done ∧ e ∈ done

lemma Did.of_earlier (did : Did s t e) (earlier : u.effects <+: s.effects) : Did u t e := by
  obtain ⟨done,effects,member⟩ := did
  obtain ⟨before,rest⟩ := earlier
  refine ⟨before ++ done,?_,List.mem_append_right _ member⟩
  rw [effects,← rest,List.append_assoc]

lemma Did.to_later (did : Did s t e) (later : t.effects <+: u.effects) : Did s u e := by
  obtain ⟨done,effects,member⟩ := did
  obtain ⟨after,rest⟩ := later
  refine ⟨done ++ after,?_,List.mem_append_left _ member⟩
  rw [← rest,effects,List.append_assoc]

lemma did_note (s : Site) (e : Effect) : Did s (s.note e) e :=
  ⟨[e],rfl,List.mem_singleton_self e⟩

lemma prefix_note (s : Site) (e : Effect) : s.effects <+: (s.note e).effects :=
  List.prefix_append _ _

lemma Outward.prefix_effects (h : s.Outward t) : s.effects <+: t.effects := by
  obtain ⟨seen,effects,-⟩ := h.effects
  exact ⟨seen,effects.symm⟩

lemma Outcome.prefix_effects (h : s.Outcome c t) : s.effects <+: t.effects := by
  cases h with
  | logClear | time | date => exact prefix_note _ _
  | _ => exact List.prefix_refl _

variable (s)

lemma dispatch_prefix_effects (channel : Channel) (input : List UInt8) :
    s.effects <+: (s.dispatch channel input).2.effects := by
  rw [dispatch_eq]
  cases Command.ofText s.station.strictness input with
  | error e => exact s.prefix_note _
  | ok c => exact (s.answer_outcome channel c).prefix_effects

lemma learnDestination_prefix_effects (peer : Network.Endpoint) :
    s.effects <+: (s.learnDestination peer).effects := by
  unfold learnDestination
  split
  · exact List.prefix_refl _
  · dsimp only
    split
    · exact List.prefix_refl _
    · exact prefix_note _ _

lemma heard_prefix_effects (d : Datagram) : s.effects <+: (s.heard d).effects := by
  have learned := learnDestination_prefix_effects
    { s.note (.received d) with station.link.received := s.station.link.received + 1 } d.sender
  exact (s.prefix_note (.received d)).trans learned

variable {s}

lemma Move.prefix_effects (move : Move s t) : s.effects <+: t.effects := by
  cases move with
  | print text => exact (s.print_outward text).prefix_effects
  | edit => exact List.prefix_refl _
  | submit line => exact (s.prefix_note _).trans (dispatch_prefix_effects ..)
  | dismiss => exact prefix_note _ _
  | poll => exact List.prefix_refl _
  | link up => exact (s.observeLink_outward up).prefix_effects
  | hear d => exact (s.heard_prefix_effects d).trans (dispatch_prefix_effects ..)
  | reply peer text accepted => exact (s.send_outward _ peer text accepted).prefix_effects
  | refresh => exact s.refresh_outward.prefix_effects

theorem Moves.prefix_effects (moves : Moves s t) : s.effects <+: t.effects := by
  induction moves with
  | refl => exact List.prefix_refl _
  | tail _ last ih => exact ih.trans last.prefix_effects

end Site
end ClimateStation
