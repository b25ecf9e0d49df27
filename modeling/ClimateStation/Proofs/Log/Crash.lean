import ClimateStation.Proofs.Log.Queue

/-! What a crash leaves of a log. A device may fail at any call, and it may stop for good between
two writes. A log that is then opened anew is the one from before the operation that was cut off or
the one after it. The payload of an append is written first: into a slot that holds no entry, or,
once the ring is full, over the oldest entry, which is the only trace that a cut can leave. -/
namespace ClimateStation.Log
open Storage

namespace Operation

/-- Tries an operation; if it fails, the bookkeeping in memory stays. -/
def attempt (op : Operation) (place : Place) (s : Ring × Device) : Ring × Device :=
  match op.carryOut s.1 place s.2 with
  | (.ok r, d) => (r, d)
  | (.error _, d) => (s.1, d)

theorem attempt_ok {op : Operation} {place : Place} {r r' : Ring} {d d' : Device}
    (h : op.carryOut r place d = (.ok r',d')) : op.attempt place (r,d) = (r',d') := by
  simp only [attempt, h]

theorem attempt_error {op : Operation} {place : Place} {r : Ring} {d d' : Device}
    {e : StorageError} (h : op.carryOut r place d = (.error e,d')) :
    op.attempt place (r,d) = (r,d') := by
  simp only [attempt, h]

/-- Tries operations one after the other, on after those that fail. -/
def attempts (place : Place) (s : Ring × Device) (ops : List Operation) : Ring × Device :=
  ops.foldl (fun s op => op.attempt place s) s

/-- An append to a full ring was cut off after its payload, which has taken the place of the oldest
entry. -/
def Overwritten (op : Operation) (r : Ring) (place : Place) (cut : List (Nat × List UInt8))
    (old new : List Entry) : Prop :=
  ∃ e, op = append e ∧ r.count = Ring.capacity ∧ cut = [(place.base + r.next, e.toBytes)] ∧
    new = e :: old.tail

variable {place : Place} {r : Ring} {d : Device}

/-- The header keeps describing the ring until the last write of an operation. -/
theorem replay_short (op : Operation) {bytes : List UInt8} {k : Nat}
    (fits : place.Fits Ring.regionSize bytes.length) (h : Ring.Describes (place.view bytes) r)
    (short : k = 0 ∨ k < (op.writes r place).length) :
    Ring.Describes (place.view (replay bytes ((op.writes r place).take k))) r ∧
      (r.contents (place.view (replay bytes ((op.writes r place).take k)))
          = r.contents (place.view bytes) ∨
        op.Overwritten r place ((op.writes r place).take k) (r.contents (place.view bytes))
          (r.contents (place.view (replay bytes ((op.writes r place).take k))))) := by
  rcases Nat.eq_zero_or_pos k with rfl | hk
  · exact ⟨h,.inl rfl⟩
  · cases op with
    | append e =>
      have hl := fits.length_view
      have h₁ : k = 1 := by
        simp only [writes, List.length_cons, List.length_nil] at short
        omega
      subst h₁
      have hv : place.view (replay bytes (((append e).writes r place).take 1))
          = overlay (place.view bytes) r.next e.toBytes := Place.view_overlay _ _ fits
      rw [hv]
      refine ⟨h.overlay_next e hl,?_⟩
      rw [h.sound.contents_overwrite _ e hl]
      by_cases hc : r.count = Ring.capacity
      · rw [if_pos hc]
        exact .inr ⟨e,rfl,hc,rfl,rfl⟩
      · rw [if_neg hc]
        exact .inl rfl
    | clear =>
      simp only [writes, List.length_cons, List.length_nil] at short
      omega
    | reopen =>
      simp only [writes, List.length_nil] at short
      omega

/-- What trying an operation preserves, under any failure plan: the header of the ring in memory is
the one on the device, and the bytes outside the region of the log are what they were. -/
theorem attempt_describes (op : Operation) {s : Ring × Device}
    (fits : place.Fits Ring.regionSize s.2.size)
    (h : Ring.Describes (place.view s.2.bytes) s.1) :
    SameOutside place.base (place.base + Ring.regionSize) s.2.bytes (op.attempt place s).2.bytes ∧
      Ring.Describes (place.view (op.attempt place s).2.bytes) (op.attempt place s).1 := by
  have ho := outcome op fits h
  rcases hc : op.carryOut s.1 place s.2 with ⟨res,d'⟩
  rw [hc] at ho
  simp only [attempt, hc]
  cases ho with
  | done plan written bytes =>
    refine ⟨?_,bytes ▸ (replay_writes op fits h).1⟩
    rw [bytes,← List.take_length (l := op.writes s.1 place)]
    exact op.replay_take_sameOutside _ fits h.sound
  | failed k short plan written bytes cause =>
    refine ⟨?_,bytes ▸ (replay_short op fits h short).1⟩
    rw [bytes]
    exact op.replay_take_sameOutside k fits h.sound

theorem attempts_describes (ops : List Operation) {s : Ring × Device}
    (fits : place.Fits Ring.regionSize s.2.size)
    (h : Ring.Describes (place.view s.2.bytes) s.1) :
    (attempts place s ops).2.size = s.2.size ∧
      Ring.Describes (place.view (attempts place s ops).2.bytes) (attempts place s ops).1 := by
  induction ops generalizing s with
  | nil => exact ⟨rfl,h⟩
  | cons op ops ih =>
    obtain ⟨hs,hd⟩ := attempt_describes op fits h
    have hsize : (op.attempt place s).2.size = s.2.size := hs.length
    obtain ⟨hs',hd'⟩ := ih (hsize ▸ fits) hd
    exact ⟨hs'.trans hsize,hd'⟩

/-- The writes of an operation that reach the device. -/
def reached (op : Operation) (place : Place) (s : Ring × Device) : List (Nat × List UInt8) :=
  (op.attempt place s).2.written.drop s.2.written.length

theorem reached_eq_take (op : Operation) {s : Ring × Device}
    (fits : place.Fits Ring.regionSize s.2.size)
    (h : Ring.Describes (place.view s.2.bytes) s.1) :
    ∃ k, op.reached place s = (op.writes s.1 place).take k ∧
      (op.attempt place s).2.bytes = replay s.2.bytes ((op.writes s.1 place).take k) := by
  have ho := outcome op fits h
  rcases hc : op.carryOut s.1 place s.2 with ⟨res,d'⟩
  rw [hc] at ho
  simp only [reached, attempt, hc]
  cases ho with
  | done plan written bytes =>
    refine ⟨(op.writes s.1 place).length,?_,?_⟩
    · rw [written,List.drop_left,List.take_length]
    · rw [bytes,List.take_length]
  | failed k short plan written bytes cause =>
    refine ⟨k,?_,bytes⟩
    rw [written,List.drop_left]

/-- How a log that is opened on what a cut left relates to the log before the operation. -/
def Recovers (op : Operation) (place : Place) (r : Ring) (es : List Entry)
    (cut : List (Nat × List UInt8)) (r' : Ring) (es' : List Entry) : Prop :=
  (r' = r ∧ es' = es) ∨ (r' = op.target r ∧ es' = op.queue es) ∨
    (r' = r ∧ op.Overwritten r place cut es es')

theorem recovers_of_take (op : Operation) {bytes : List UInt8} (k : Nat)
    (fits : place.Fits Ring.regionSize bytes.length) (h : Ring.Describes (place.view bytes) r) :
    ∃ r', Ring.Describes (place.view (replay bytes ((op.writes r place).take k))) r' ∧
      op.Recovers place r (r.contents (place.view bytes)) ((op.writes r place).take k) r'
        (r'.contents (place.view (replay bytes ((op.writes r place).take k)))) := by
  by_cases hk : k < (op.writes r place).length
  · obtain ⟨hd,he | ho⟩ := replay_short op fits h (.inr hk)
    · exact ⟨r,hd,.inl ⟨rfl,he⟩⟩
    · exact ⟨r,hd,.inr (.inr ⟨rfl,ho⟩)⟩
  · rw [List.take_of_length_le (by omega)]
    obtain ⟨hd,he⟩ := replay_writes op fits h
    exact ⟨op.target r,hd,.inr (.inl ⟨rfl,he⟩)⟩

lemma Recovers.mem {op : Operation} {cut : List (Nat × List UInt8)} {r' : Ring} {es es' : List Entry}
    (h : op.Recovers place r es cut r' es') : ∀ e ∈ es', e ∈ es ∨ op = append e := by
  intro e member
  rcases h with ⟨-,rfl⟩ | ⟨-,rfl⟩ | ⟨-,e',rfl,-,-,rfl⟩
  · exact .inl member
  · cases op with
    | append e' =>
      rcases List.mem_append.mp (List.mem_of_mem_drop member) with old | new
      · exact .inl old
      · exact .inr (congrArg append (List.mem_singleton.mp new).symm)
    | clear => exact nomatch member
    | reopen => exact .inl member
  · rcases List.mem_cons.mp member with rfl | old
    · exact .inr rfl
    · exact .inl (List.mem_of_mem_tail old)

/-- Whatever fails, an operation leaves no entries but those from before and the one that it
appends. -/
theorem mem_contents_attempt (op : Operation) {s : Ring × Device}
    (fits : place.Fits Ring.regionSize s.2.size) (h : Ring.Describes (place.view s.2.bytes) s.1) :
    ∀ e ∈ (op.attempt place s).1.contents (place.view (op.attempt place s).2.bytes),
      e ∈ s.1.contents (place.view s.2.bytes) ∨ op = append e := by
  obtain ⟨k,-,bytes⟩ := op.reached_eq_take fits h
  obtain ⟨r',described,recovers⟩ := op.recovers_of_take k fits h
  have kept := (op.attempt_describes fits h).2
  rw [bytes] at kept ⊢
  rw [kept.eq described]
  exact recovers.mem

end Operation

/-- Appends that are tried one after the other and all fail. -/
inductive FailedAppends (place : Place) (r : Ring) : Device → Device → Prop
  | none (d) : FailedAppends place r d d
  | more {d d' d'' : Device} {e : Entry} {x : StorageError}
      (failed : r.append place e d = (.error x, d')) (rest : FailedAppends place r d' d'') :
      FailedAppends place r d d''

/-- Failed appends change nothing but the slot that the next append writes anyway. -/
theorem FailedAppends.overlay_eq {place : Place} {r : Ring} {d d' : Device}
    (h : FailedAppends place r d d') (fits : place.Fits Ring.regionSize d.size) (sound : r.Sound) :
    d'.size = d.size ∧ ∀ e : Entry, overlay d'.bytes (place.base + r.next) e.toBytes
      = overlay d.bytes (place.base + r.next) e.toBytes := by
  have hb := fits.base_add_le
  have hn := sound.2.2.1
  induction h with
  | none d => exact ⟨rfl,fun _ => rfl⟩
  | @more d d' d'' e x failed rest ih =>
    have hw : place.base + r.next + e.toBytes.length ≤ d.bytes.length := by
      rw [Entry.length_toBytes]
      simp only [Device.size] at hb
      omega
    rw [Ring.append_eq e fits sound] at failed
    split at failed
    · cases failed
      exact ih fits hb
    · split at failed
      · cases failed
        have hs : (d.afterWrite (place.base + r.next) e.toBytes).afterFailure.size = d.size :=
          d.size_afterWrite hw
        obtain ⟨hs',ho⟩ := ih (hs ▸ fits) (hs ▸ hb)
        refine ⟨hs'.trans hs,fun e' => (ho e').trans ?_⟩
        exact overlay_overlay _ _ _ _ hw rfl
      · cases failed

theorem FailedAppends.append_repaired {place : Place} {r r' : Ring} {d d' d'' : Device} {e : Entry}
    (h : FailedAppends place r d d') (fits : place.Fits Ring.regionSize d.size) (sound : r.Sound)
    (ok : r.append place e d' = (.ok r', d'')) :
    ∃ d₁, r.append place e d.repaired = (.ok r', d₁) ∧ d₁.bytes = d''.bytes := by
  obtain ⟨hs,ho⟩ := h.overlay_eq fits sound
  have hr := Ring.append_eq (d := d.repaired) e fits sound
  rw [Ring.append_eq e (hs ▸ fits) sound] at ok
  split at ok
  · cases ok
  · split at ok
    · cases ok
    · cases ok
      refine ⟨_,hr,?_⟩
      simp only [Device.afterWrite_bytes, Device.repaired_bytes, ho e]

/-- Wherever a run of operations is cut off, and whichever calls fail: opening the log anew accepts
its header and finds the bookkeeping and the entries from before or from after the operation, save
that the oldest entry of a full ring may have given way to the new one. A failed operation leaves
the bookkeeping in memory as it was, and failed appends leave no trace after an append that
succeeds. -/
theorem crash_recovers (place : Place) (d₀ d₁ : Device) (r₀ : Ring) (before : List Operation)
    (op : Operation) (k : Nat) (fits : place.Fits Ring.regionSize d₀.size)
    (opened : Ring.load place d₀ = (.ok r₀, d₁)) :
    let s := Operation.attempts place (r₀, d₁) before
    let cut := (op.reached place s).take k
    let image := Device.ofBytes (replay s.2.bytes cut)
    (∃ es r es', (s.1.entries place s.2.repaired).1 = es.map .ok ∧
      Ring.load place image = (.ok r, image.afterRead) ∧
      (r.entries place image).1 = es'.map .ok ∧ op.Recovers place s.1 es cut r es') ∧
    (op.attempt place s).2.bytes = replay s.2.bytes (op.reached place s) ∧
    (∀ e, (op.carryOut s.1 place s.2).1 = .error e → (op.attempt place s).1 = s.1) ∧
    ∀ d d' e r, FailedAppends place s.1 s.2 d → s.1.append place e d = (.ok r, d') →
      ∃ d'', s.1.append place e s.2.repaired = (.ok r, d'') ∧ d''.bytes = d'.bytes := by
  intro s cut image
  obtain ⟨-,hs₁,hd₁,-⟩ := Ring.load_ok fits opened
  obtain ⟨hs,hd⟩ := Operation.attempts_describes before (s := (r₀, d₁)) (hs₁ ▸ fits) hd₁
  have hf : place.Fits Ring.regionSize s.2.size := by rw [hs,hs₁]; exact fits
  obtain ⟨j,hj,hb⟩ := op.reached_eq_take hf hd
  have hcut : cut = (op.writes s.1 place).take (min k j) := by
    simp only [cut, hj, List.take_take]
  refine ⟨?_,?_,?_,?_⟩
  · obtain ⟨r,hr,hrec⟩ := op.recovers_of_take (min k j) hf hd
    have hi : place.Fits Ring.regionSize image.size := by
      have hl := Operation.length_replay_take op (min k j) hf hd.sound
      rw [← hcut] at hl
      change place.Fits Ring.regionSize (replay s.2.bytes cut).length
      exact hl ▸ hf
    rw [← hcut] at hr hrec
    refine ⟨_,r,_,?_,?_,?_,hrec⟩
    · rw [Ring.entries_eq (d := s.2.repaired) hf hd.sound rfl]
      rfl
    · rw [Operation.load_of_describes hi hr]
      rfl
    · rw [Ring.entries_eq hi hr.sound rfl]
      rfl
  · rw [hj,hb]
  · intro e he
    rcases hc : op.carryOut s.1 place s.2 with ⟨res,d'⟩
    rw [hc] at he
    subst he
    simp only [Operation.attempt, hc]
  · intro d d' e r failed ok
    exact failed.append_repaired hf hd.sound ok

/-- A full ring whose next slot is the second one, on a device that fails the write of the header. -/
theorem crash_recovers_full_ring :
    let e : Entry := ⟨⟨24, 2, 29, 4, 23, 59, 58⟩, -5, 60⟩
    let d : Device := { Device.ofBytes ([13, 0, 27, 0] ++ List.replicate 243 7) with
      plan := ⟨fun _ => false, fun n => n == 1⟩ }
    let s : Ring × Device := (⟨13, 27⟩, d.afterRead)
    let cut := ((Operation.append e).reached [⟨0, 247⟩] s).take 2
    let image := Device.ofBytes (replay s.2.bytes cut)
    Ring.load [⟨0, 247⟩] d = (.ok s.1, s.2) ∧
    ∃ es r es', (s.1.entries [⟨0, 247⟩] s.2.repaired).1 = es.map .ok ∧
      Ring.load [⟨0, 247⟩] image = (.ok r, image.afterRead) ∧
      (r.entries [⟨0, 247⟩] image).1 = es'.map .ok ∧
      (Operation.append e).Recovers [⟨0, 247⟩] s.1 es cut r es' := by
  intro e d s cut image
  have fits : Place.Fits [⟨0, 247⟩] Ring.regionSize d.size := by decide +revert +kernel
  have opened : Ring.load [⟨0, 247⟩] d = (.ok s.1, s.2) :=
    Operation.load_of_describes fits ⟨by decide,by decide +revert +kernel⟩
  exact ⟨opened,(crash_recovers [⟨0, 247⟩] d s.2 s.1 [] (.append e) 2 fits opened).1⟩

end ClimateStation.Log
