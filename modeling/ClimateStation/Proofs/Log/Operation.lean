import ClimateStation.Proofs.Log.Slots
import ClimateStation.Proofs.Storage.Isolation

/-! What is done with a log, and what each operation does to the device under any failure plan. An
operation stands for a list of writes; what reaches the device is all of that list if the operation
succeeds, and a shorter beginning of it if it fails. -/
namespace ClimateStation.Log
open Storage

/-- What can be done with an open log. -/
inductive Operation
  | append (e : Entry)
  | clear
  /-- Drops the bookkeeping in memory and reads it back from the device. -/
  | reopen
  deriving DecidableEq, Repr

namespace Operation

def carryOut (op : Operation) (r : Ring) (place : Place) : Access Ring :=
  match op with
  | append e => r.append place e
  | clear => Ring.clear place
  | reopen => Ring.load place

/-- The bookkeeping once the operation has succeeded. -/
def target (op : Operation) (r : Ring) : Ring :=
  match op with
  | append _ => r.advance
  | clear => .empty
  | reopen => r

/-- The same operation on a queue of at most 27 entries. -/
def queue (op : Operation) (es : List Entry) : List Entry :=
  match op with
  | append e => (es ++ [e]).rtake Ring.capacity
  | clear => []
  | reopen => es

/-- The image that a cleared log writes over its region. -/
def cleared : List UInt8 := Ring.empty.header ++ List.replicate Ring.span 0

/-- The writes that the operation consists of, in order. -/
def writes (op : Operation) (r : Ring) (place : Place) : List (Nat × List UInt8) :=
  match op with
  | append e => [(place.base + r.next, e.toBytes), (place.base, r.advance.header)]
  | clear => [(place.base, cleared)]
  | reopen => []

end Operation

/-- The bytes of a device after the given writes. -/
def replay (bytes : List UInt8) (writes : List (Nat × List UInt8)) : List UInt8 :=
  writes.foldl (fun b w => overlay b w.1 w.2) bytes

lemma replay_sameOutside {start stop : Nat} {bytes : List UInt8} (writes : List (Nat × List UInt8))
    (h : ∀ w ∈ writes, start ≤ w.1 ∧ w.1 + w.2.length ≤ stop) (hl : stop ≤ bytes.length) :
    SameOutside start stop bytes (replay bytes writes) := by
  induction writes generalizing bytes with
  | nil => exact .refl ..
  | cons w ws ih =>
    obtain ⟨hs,he⟩ := h w List.mem_cons_self
    have hw : SameOutside start stop bytes (overlay bytes w.1 w.2) := .overlay hs he hl
    exact hw.trans (ih (fun w' hw' => h w' (List.mem_cons_of_mem _ hw')) (hw.length ▸ hl))

namespace Ring

@[simp] lemma length_cleared : Operation.cleared.length = regionSize := by
  rw [Operation.cleared,List.length_append,List.length_replicate]
  decide

theorem clear_eq {place : Place} {d : Device} (fits : place.Fits regionSize d.size) :
    clear place d =
      if d.plan.write d.writes then (.error .io, d.afterFailure)
      else (.ok empty, d.afterWrite place.base Operation.cleared) := by
  have h := Place.write_eq 0 Operation.cleared fits (by simp)
  change (place.write 0 Operation.cleared >>= fun _ => pure empty) d = _
  rw [Access.bind_apply,h]
  cases d.plan.write d.writes <;> rfl

theorem load_eq {place : Place} {d : Device} (fits : place.Fits regionSize d.size) :
    load place d =
      if d.plan.read d.reads then (.error .io, d.afterRead)
      else if (ofHeader (slice (place.view d.bytes) 0 headerSize)).Sound then
        (.ok (ofHeader (slice (place.view d.bytes) 0 headerSize)), d.afterRead)
      else clear place d.afterRead := by
  have h := Place.read_eq 0 headerSize fits (by decide)
  unfold load
  rw [Access.bind_apply,h]
  cases d.plan.read d.reads with
  | true => rfl
  | false =>
    simp only [Bool.false_eq_true, if_false]
    split <;> rfl

theorem append_eq {r : Ring} {place : Place} {d : Device} (e : Entry)
    (fits : place.Fits regionSize d.size) (sound : r.Sound) :
    r.append place e d =
      if d.plan.write d.writes then (.error .io, d.afterFailure)
      else if d.plan.write (d.writes + 1) then
        (.error .io, (d.afterWrite (place.base + r.next) e.toBytes).afterFailure)
      else (.ok r.advance,
        (d.afterWrite (place.base + r.next) e.toBytes).afterWrite place.base r.advance.header) := by
  have hn : r.next + e.toBytes.length ≤ regionSize := sound.2.2.1
  have h₁ := Place.write_eq r.next e.toBytes fits hn
  have hs : (d.afterWrite (place.base + r.next) e.toBytes).size = d.size :=
    d.size_afterWrite (by have := fits.base_add_le; omega)
  have h₂ := Place.write_eq (d := d.afterWrite (place.base + r.next) e.toBytes) 0 r.advance.header
    (hs ▸ fits) (by rw [length_header]; decide)
  unfold append
  rw [Access.bind_apply,h₁]
  cases d.plan.write d.writes with
  | true => rfl
  | false =>
    simp only [Bool.false_eq_true, if_false]
    rw [Access.bind_apply,h₂,Device.afterWrite_plan,Device.afterWrite_writes]
    cases d.plan.write (d.writes + 1) <;> rfl

/-- The entries that opening a log finds: those of the stored header if it is accepted. -/
def found (bytes : List UInt8) : List Entry :=
  let r := ofHeader (slice bytes 0 headerSize)
  if r.Sound then r.contents bytes else []

/-- Nothing is found where nothing was ever written. -/
lemma found_of_erased {bytes : List UInt8} (blank : ∀ b ∈ bytes, b = erased) : found bytes = [] := by
  have unsound : ∀ k ≤ headerSize, ¬(ofHeader (List.replicate k erased)).Sound := by decide
  have header : slice bytes 0 headerSize =
      List.replicate (slice bytes 0 headerSize).length erased :=
    List.eq_replicate_iff.mpr ⟨rfl,fun b member => blank b (List.mem_of_mem_take member)⟩
  have short : (slice bytes 0 headerSize).length ≤ headerSize := List.length_take_le ..
  unfold found
  dsimp only
  rw [header,if_neg (unsound _ short)]

theorem load_of_healthy {place : Place} {d : Device} (fits : place.Fits regionSize d.size)
    (healthy : d.plan = .sound) : ∃ r d', load place d = (.ok r, d') := by
  rw [load_eq fits,healthy]
  by_cases hs : (ofHeader (slice (place.view d.bytes) 0 headerSize)).Sound
  · exact ⟨_,_,if_pos hs⟩
  · have hc := clear_eq (d := d.afterRead) fits
    rw [Device.afterRead_plan,healthy] at hc
    exact ⟨_,_,(if_neg hs).trans hc⟩

/-- Opening a log leaves its header on the device, with the entries that were found. -/
theorem load_ok {place : Place} {d d' : Device} {r : Ring} (fits : place.Fits regionSize d.size)
    (h : load place d = (.ok r, d')) :
    d'.plan = d.plan ∧ d'.size = d.size ∧ Describes (place.view d'.bytes) r ∧
      r.contents (place.view d'.bytes) = found (place.view d.bytes) := by
  have hl := fits.length_view
  have hh : (slice (place.view d.bytes) 0 headerSize).length = headerSize :=
    length_slice _ _ _ (Nat.le_trans (by decide) hl)
  rw [load_eq fits] at h
  split at h
  · cases h
  · by_cases hs : (ofHeader (slice (place.view d.bytes) 0 headerSize)).Sound
    · rw [if_pos hs] at h
      cases h
      refine ⟨rfl,rfl,⟨hs,(header_ofHeader hh).symm⟩,?_⟩
      rw [found,if_pos hs]
      rfl
    · rw [if_neg hs,clear_eq (d := d.afterRead) fits] at h
      split at h
      · cases h
      · cases h
        have hv := Place.view_overlay 0 Operation.cleared fits
        rw [Nat.add_zero] at hv
        refine ⟨rfl,Device.size_afterWrite _ ?_,?_,?_⟩
        · rw [length_cleared]
          exact fits.base_add_le
        · exact hv ▸ describes_overlay_empty _ _
        · rw [found,if_neg hs,contents_empty]

end Ring

namespace Operation
variable {place : Place} {r : Ring}

/-- What an operation does to a device, whatever the failure plan. -/
inductive Outcome (op : Operation) (r : Ring) (place : Place) (d : Device) :
    Except StorageError Ring → Device → Prop
  | done {d'} (plan : d'.plan = d.plan)
      (written : d'.written = d.written ++ op.writes r place)
      (bytes : d'.bytes = replay d.bytes (op.writes r place)) :
      Outcome op r place d (.ok (op.target r)) d'
  | failed {d'} (k : Nat) (short : k = 0 ∨ k < (op.writes r place).length)
      (plan : d'.plan = d.plan)
      (written : d'.written = d.written ++ (op.writes r place).take k)
      (bytes : d'.bytes = replay d.bytes ((op.writes r place).take k))
      (cause : d.plan ≠ .sound) : Outcome op r place d (.error .io) d'

lemma ne_sound_of_read {p : FailurePlan} {n : Nat} (h : p.read n = true) : p ≠ .sound := by
  rintro rfl
  cases h

lemma ne_sound_of_write {p : FailurePlan} {n : Nat} (h : p.write n = true) : p ≠ .sound := by
  rintro rfl
  cases h

theorem load_of_describes {d : Device} (fits : place.Fits Ring.regionSize d.size)
    (h : Ring.Describes (place.view d.bytes) r) :
    Ring.load place d =
      (if d.plan.read d.reads then .error .io else .ok r, d.afterRead) := by
  rw [Ring.load_eq fits,h.header,h.sound.ofHeader_header,if_pos h.sound]
  cases d.plan.read d.reads <;> rfl

theorem outcome (op : Operation) {d : Device} (fits : place.Fits Ring.regionSize d.size)
    (h : Ring.Describes (place.view d.bytes) r) :
    Outcome op r place d (op.carryOut r place d).1 (op.carryOut r place d).2 := by
  cases op with
  | append e =>
    simp only [carryOut, Ring.append_eq e fits h.sound]
    cases h₁ : d.plan.write d.writes with
    | true => exact .failed 0 (.inl rfl) rfl (List.append_nil _).symm rfl (ne_sound_of_write h₁)
    | false =>
      cases h₂ : d.plan.write (d.writes + 1) with
      | true => exact .failed 1 (.inr Nat.one_lt_two) rfl rfl rfl (ne_sound_of_write h₂)
      | false => exact .done rfl (List.append_assoc _ _ _) rfl
  | clear =>
    simp only [carryOut, Ring.clear_eq fits]
    cases h₁ : d.plan.write d.writes with
    | true => exact .failed 0 (.inl rfl) rfl (List.append_nil _).symm rfl (ne_sound_of_write h₁)
    | false => exact .done rfl rfl rfl
  | reopen =>
    simp only [carryOut, load_of_describes fits h]
    cases h₁ : d.plan.read d.reads with
    | true => exact .failed 0 (.inl rfl) rfl (List.append_nil _).symm rfl (ne_sound_of_read h₁)
    | false => exact .done rfl (List.append_nil _).symm rfl

theorem view_replay_append {bytes : List UInt8} (e : Entry)
    (fits : place.Fits Ring.regionSize bytes.length) (hn : r.next + Entry.width ≤ Ring.regionSize) :
    place.view (replay bytes ((append e).writes r place))
      = overlay (overlay (place.view bytes) r.next e.toBytes) 0 r.advance.header := by
  have hb := fits.base_add_le
  have hl : (overlay bytes (place.base + r.next) e.toBytes).length = bytes.length :=
    length_overlay _ _ _ (by rw [Entry.length_toBytes]; omega)
  have h := Place.view_overlay 0 r.advance.header (hl ▸ fits)
  rw [Nat.add_zero,Place.view_overlay _ _ fits] at h
  exact h

/-- All writes of an operation together carry it out. -/
theorem replay_writes (op : Operation) {bytes : List UInt8}
    (fits : place.Fits Ring.regionSize bytes.length) (h : Ring.Describes (place.view bytes) r) :
    Ring.Describes (place.view (replay bytes (op.writes r place))) (op.target r) ∧
      (op.target r).contents (place.view (replay bytes (op.writes r place)))
        = op.queue (r.contents (place.view bytes)) := by
  have hl := fits.length_view
  cases op with
  | append e =>
    rw [view_replay_append e fits h.sound.2.2.1]
    have hl' : Ring.regionSize ≤ (overlay (place.view bytes) r.next e.toBytes).length := by
      rw [length_overlay _ _ _ (Nat.le_trans h.sound.2.2.1 hl)]
      exact hl
    refine ⟨h.sound.advance.describes_overlay_header _ hl',?_⟩
    rw [Ring.contents_overlay_header _ _ _ (Ring.length_header _)]
    exact h.sound.contents_append _ e hl
  | clear =>
    have hv : place.view (replay bytes (clear.writes r place))
        = overlay (place.view bytes) 0 cleared := by
      have := Place.view_overlay 0 cleared fits
      rwa [Nat.add_zero] at this
    rw [hv]
    exact ⟨Ring.describes_overlay_empty _ _,Ring.contents_empty _⟩
  | reopen => exact ⟨h,rfl⟩

/-- Whatever part of an operation reaches the device stays within the region of the log. -/
theorem replay_take_sameOutside (op : Operation) {bytes : List UInt8} (k : Nat)
    (fits : place.Fits Ring.regionSize bytes.length) (h : r.Sound) :
    SameOutside place.base (place.base + Ring.regionSize) bytes
      (replay bytes ((op.writes r place).take k)) := by
  have hw : ∀ w ∈ op.writes r place,
      place.base ≤ w.1 ∧ w.1 + w.2.length ≤ place.base + Ring.regionSize := by
    cases op with
    | append e =>
      have hn := h.2.2.1
      have hh : Ring.headerSize ≤ Ring.regionSize := by decide
      simp only [writes, List.mem_cons, List.not_mem_nil, or_false, forall_eq_or_imp, forall_eq,
        Entry.length_toBytes, Ring.length_header]
      omega
    | clear => simp [writes]
    | reopen => simp [writes]
  exact replay_sameOutside _ (fun w hwk => hw w (List.mem_of_mem_take hwk)) fits.base_add_le

theorem length_replay_take (op : Operation) {bytes : List UInt8} (k : Nat)
    (fits : place.Fits Ring.regionSize bytes.length) (h : r.Sound) :
    (replay bytes ((op.writes r place).take k)).length = bytes.length :=
  (op.replay_take_sameOutside k fits h).length

end Operation

end ClimateStation.Log
