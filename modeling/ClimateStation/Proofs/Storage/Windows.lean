import ClimateStation.Proofs.Storage.Isolation

/-! Windows within windows. On its way to the device an access passes one level after the other, each
of which knows it by the distance from its own start. It comes through if it stays inside every
level, in exact arithmetic, and the first level that it would cross the end of refuses it. Addresses
that are words of 64 bits lead to the same, as long as no window reaches beyond the largest word. -/
namespace ClimateStation.Storage

/-! ## Levels -/

/-- A size that an access is checked against, and how far the access has been moved by then. -/
structure Level where
  moved : Nat
  size : Nat
  deriving DecidableEq, Repr

namespace Level

/-- The access stays inside the level. -/
def Admits (l : Level) (offset length : Nat) : Prop := l.moved + offset + length ≤ l.size

instance (l : Level) (offset length : Nat) : Decidable (l.Admits offset length) :=
  inferInstanceAs (Decidable (_ ≤ _))

/-- A refusal names the access as the level sees it. -/
def refusal? (l : Level) (offset length : Nat) : Option StorageError :=
  if l.Admits offset length then none else some (.outOfBounds (l.moved + offset) length)

/-- The level as it is seen through a window. -/
def behind (w : Window) (l : Level) : Level := { l with moved := w.base + l.moved }

lemma moved_behind (w : Window) (l : Level) (offset : Nat) :
    (l.behind w).moved + offset = l.moved + (w.base + offset) := by
  simp only [behind]
  omega

lemma admits_behind (w : Window) (l : Level) (offset length : Nat) :
    (l.behind w).Admits offset length ↔ l.Admits (w.base + offset) length := by
  rw [Admits,Admits,moved_behind]
  rfl

lemma refusal?_behind (w : Window) (l : Level) (offset length : Nat) :
    (l.behind w).refusal? offset length = l.refusal? (w.base + offset) length := by
  simp only [refusal?, admits_behind, moved_behind]

lemma refusal?_eq_none_iff {l : Level} {offset length : Nat} :
    l.refusal? offset length = none ↔ l.Admits offset length := by
  simp [refusal?]

lemma refusal?_eq_some_iff {l : Level} {offset length : Nat} {e : StorageError} :
    l.refusal? offset length = some e ↔
      ¬l.Admits offset length ∧ .outOfBounds (l.moved + offset) length = e := by
  simp [refusal?]

end Level

namespace Place

/-- The levels on the way to a device of the given size, which is the last of them. -/
def levels (place : Place) (size : Nat) : List Level :=
  match place with
  | [] => [⟨0,size⟩]
  | w :: outer => ⟨0,w.size⟩ :: (levels outer size).map (Level.behind w)

/-- The access stays inside every window on the way, and inside the device. -/
def Admits (place : Place) (size offset length : Nat) : Prop :=
  ∀ l ∈ place.levels size, l.Admits offset length

instance (place : Place) (size offset length : Nat) : Decidable (place.Admits size offset length) :=
  inferInstanceAs (Decidable (∀ l ∈ _, _))

/-- What the first level says that does not admit an access. -/
def refusal? (place : Place) (size offset length : Nat) : Option StorageError :=
  (place.levels size).findSome? fun l => l.refusal? offset length

lemma refusal?_nil (size offset length : Nat) :
    refusal? [] size offset length =
      if offset + length ≤ size then none else some (.outOfBounds offset length) := by
  simp [refusal?, levels, Level.refusal?, Level.Admits]

lemma refusal?_cons (w : Window) (outer : Place) (size offset length : Nat) :
    refusal? (w :: outer) size offset length =
      if offset + length ≤ w.size then outer.refusal? size (w.base + offset) length
      else some (.outOfBounds offset length) := by
  simp only [refusal?, levels, List.findSome?_cons, List.findSome?_map, Function.comp_def,
    Level.refusal?_behind]
  by_cases inside : offset + length ≤ w.size
  · simp [Level.refusal?, Level.Admits, inside]
  · simp [Level.refusal?, Level.Admits, inside]

lemma refusal?_eq_none_iff {place : Place} {size offset length : Nat} :
    place.refusal? size offset length = none ↔ place.Admits size offset length := by
  simp [refusal?, Admits, Level.refusal?_eq_none_iff]

/-- Of several levels that do not admit an access, the one it meets first refuses it. -/
lemma refusal?_eq_some_iff {place : Place} {size offset length : Nat} {e : StorageError} :
    place.refusal? size offset length = some e ↔ ∃ before l after,
      place.levels size = before ++ l :: after ∧ ¬l.Admits offset length ∧
        .outOfBounds (l.moved + offset) length = e ∧ ∀ b ∈ before, b.Admits offset length := by
  simp [refusal?, List.findSome?_eq_some_iff, Level.refusal?_eq_none_iff,
    Level.refusal?_eq_some_iff, and_assoc]

/-- An access that every level admits lies in a place that fits the device. -/
theorem fits_iff_admits {place : Place} {size offset length : Nat} :
    place.Fits (offset + length) size ↔ place.Admits size offset length := by
  induction place generalizing offset with
  | nil => simp [Fits, Admits, levels, Level.Admits]
  | cons w outer ih =>
    have window : (⟨0,w.size⟩ : Level).Admits offset length ↔ offset + length ≤ w.size := by
      simp [Level.Admits]
    simp only [Fits, ← Nat.add_assoc, ih, Admits, levels, List.forall_mem_cons, List.forall_mem_map,
      Level.admits_behind, window]

end Place

/-! ## What comes through -/

/-- The device has the same bytes, and nothing more was written. -/
def Device.Untouched (before after : Device) : Prop :=
  after.bytes = before.bytes ∧ after.written = before.written

namespace Place

/-- An access reads, and a write of as many bytes replaces, the bytes of the device behind the bases
of all windows. -/
structure Serves (place : Place) (d : Device) (offset : Nat) (data : List UInt8) : Prop where
  read : ∃ d', place.read offset data.length d =
    (.ok (slice d.bytes (place.base + offset) data.length), d') ∧ d.Untouched d'
  write : ∃ d', place.write offset data d = (.ok (), d') ∧ d'.size = d.size ∧
    (∀ i, d'.bytes[i]? =
      if place.base + offset ≤ i ∧ i < place.base + offset + data.length
      then data[i - (place.base + offset)]? else d.bytes[i]?) ∧
    ∃ d'', place.read offset data.length d' = (.ok data, d'')

/-- An access and a write of as many bytes are refused, and the device stays as it is. -/
structure Refuses (place : Place) (d : Device) (offset : Nat) (data : List UInt8)
    (e : StorageError) : Prop where
  read : ∃ d', place.read offset data.length d = (.error e, d') ∧ d.Untouched d'
  write : ∃ d', place.write offset data d = (.error e, d') ∧ d.Untouched d'

section
variable {place : Place} {d : Device} {offset : Nat} {e : StorageError}

lemma read_of_fits {length : Nat} (sound : d.plan = .sound) (fits : place.Fits (offset + length) d.size) :
    place.read offset length d = (.ok (slice d.bytes (place.base + offset) length), d.afterRead) := by
  rw [read_eq offset length fits (Nat.le_refl _),sound,view,slice_drop]
  rfl

lemma write_of_fits {data : List UInt8} (sound : d.plan = .sound)
    (fits : place.Fits (offset + data.length) d.size) :
    place.write offset data d = (.ok (), d.afterWrite (place.base + offset) data) := by
  rw [write_eq offset data fits (Nat.le_refl _),sound]
  rfl

/-- What reads and writes have in common: they ask one window after the other, and then the device. -/
lemma answer_of_refusal {α : Type} (access : Place → Nat → Access α) {length : Nat}
    (window : ∀ w outer offset, access (w :: outer) offset d =
      match checkBounds offset length w.size with
      | .ok _ => access outer (w.base + offset) d
      | .error e => (.error e, d))
    (device : ∀ offset, ¬offset + length ≤ d.size →
      ∃ d', access [] offset d = (.error (.outOfBounds offset length), d') ∧ d.Untouched d')
    (refused : place.refusal? d.size offset length = some e) :
    ∃ d', access place offset d = (.error e, d') ∧ d.Untouched d' := by
  induction place generalizing offset with
  | nil =>
    rw [refusal?_nil] at refused
    split at refused
    · cases refused
    · next outside =>
      cases refused
      exact device offset outside
  | cons w outer ih =>
    rw [refusal?_cons] at refused
    rw [window,checkBounds]
    split at refused
    · next inside =>
      rw [if_pos inside]
      exact ih refused
    · next outside =>
      cases refused
      rw [if_neg outside]
      exact ⟨d,rfl,rfl,rfl⟩

theorem refuses_of_refusal {data : List UInt8} (sound : d.plan = .sound)
    (refused : place.refusal? d.size offset data.length = some e) :
    place.Refuses d offset data e := by
  constructor
  · apply answer_of_refusal (fun place offset => place.read offset data.length)
      (fun w outer offset => rfl) _ refused
    intro offset outside
    refine ⟨d.afterRead,?_,rfl,rfl⟩
    rw [read,Device.read_of_sound sound,checkBounds,if_neg outside]
    rfl
  · apply answer_of_refusal (fun place offset => place.write offset data)
      (fun w outer offset => rfl) _ refused
    intro offset outside
    refine ⟨d.afterFailure,?_,rfl,rfl⟩
    rw [write,Device.write_of_sound sound,checkBounds,if_neg outside]

theorem serves_of_fits {data : List UInt8} (sound : d.plan = .sound)
    (fits : place.Fits (offset + data.length) d.size) : place.Serves d offset data := by
  have within : place.base + (offset + data.length) ≤ d.bytes.length := fits.base_add_le
  have room : place.base + offset + data.length ≤ d.bytes.length := by omega
  let written := d.afterWrite (place.base + offset) data
  have kept : written.size = d.size := d.size_afterWrite room
  have cells : ∀ i, written.bytes[i]? =
      if place.base + offset ≤ i ∧ i < place.base + offset + data.length
      then data[i - (place.base + offset)]? else d.bytes[i]? := by
    intro i
    rw [Device.afterWrite_bytes,getElem?_overlay _ _ _ _ (by omega)]
    by_cases before : i < place.base + offset
    · rw [if_pos before,if_neg fun within => Nat.not_le.mpr before within.1]
    · simp [before,Nat.not_lt.mp before]
  have back : place.read offset data.length written = (.ok data, written.afterRead) := by
    rw [read_of_fits (d := written) sound (kept.symm ▸ fits),Device.afterWrite_bytes,
      slice_overlay _ _ _ room]
  exact ⟨⟨d.afterRead,read_of_fits sound fits,rfl,rfl⟩,
    ⟨written,write_of_fits sound fits,kept,cells,written.afterRead,back⟩⟩

theorem serves_or_refuses (place : Place) (sound : d.plan = .sound) (offset : Nat)
    (data : List UInt8) :
    place.Admits d.size offset data.length ∧ place.Serves d offset data ∨
      ¬place.Admits d.size offset data.length ∧ ∃ e, place.Refuses d offset data e := by
  by_cases inside : place.Admits d.size offset data.length
  · exact .inl ⟨inside,serves_of_fits sound (fits_iff_admits.mpr inside)⟩
  · obtain ⟨e,refused⟩ := Option.ne_none_iff_exists'.mp (refusal?_eq_none_iff.not.mpr inside)
    exact .inr ⟨inside,e,refuses_of_refusal sound refused⟩

end

/-! ## Addresses of 64 bits -/

/-- The sum of two words, unless it is beyond the largest word. -/
def checkedSum (a b : UInt64) : Option UInt64 := if a + b < a then none else some (a + b)

/-- The bounds check in words. -/
def checkWords (offset length size : UInt64) : Except StorageError Unit :=
  match checkedSum offset length with
  | some stop => if stop ≤ size then .ok () else .error (.outOfBounds offset.toNat length.toNat)
  | none => .error (.outOfBounds offset.toNat length.toNat)

/-- Where an access comes to the device, or its refusal, in words. Every window adds its base to the
address, which may wrap around. -/
def reach (place : Place) (size offset length : UInt64) : Except StorageError UInt64 :=
  match place with
  | [] => (checkWords offset length size).map fun _ => offset
  | w :: outer =>
    match checkWords offset length (.ofNat w.size) with
    | .ok _ => reach outer size (.ofNat w.base + offset) length
    | .error e => .error e

lemma checkedSum_eq (a b : UInt64) :
    checkedSum a b = if a.toNat + b.toNat < UInt64.size then some (a + b) else none := by
  have first := a.toNat_lt
  have second := b.toNat_lt
  have wraps : a + b < a ↔ ¬a.toNat + b.toNat < UInt64.size := by
    rw [UInt64.lt_iff_toNat_lt,UInt64.toNat_add,UInt64.size]
    omega
  by_cases small : a.toNat + b.toNat < UInt64.size
  · simp [checkedSum,wraps,small]
  · simp [checkedSum,wraps,small]

/-- The check in words is the check of the numbers that they stand for. -/
theorem checkWords_eq (offset length size : UInt64) :
    checkWords offset length size = checkBounds offset.toNat length.toNat size.toNat := by
  have largest := size.toNat_lt
  unfold checkWords checkBounds
  rw [checkedSum_eq]
  by_cases small : offset.toNat + length.toNat < UInt64.size
  · have exact : (offset + length).toNat = offset.toNat + length.toNat := by
      rw [UInt64.toNat_add,Nat.mod_eq_of_lt small]
    simp [small,UInt64.le_iff_toNat_le,exact]
  · have outside : ¬offset.toNat + length.toNat ≤ size.toNat := by
      rw [UInt64.size] at small
      omega
    simp [small,outside]

/-- No address wraps around on the way through windows that words can address. -/
theorem reach_eq {place : Place} (ranges : ∀ w ∈ place, w.base + w.size < UInt64.size)
    (size offset length : UInt64) :
    (place.reach size offset length).map UInt64.toNat =
      match place.refusal? size.toNat offset.toNat length.toNat with
      | some e => .error e
      | none => .ok (place.base + offset.toNat) := by
  induction place generalizing offset with
  | nil =>
    rw [reach,checkWords_eq,checkBounds,refusal?_nil]
    split <;> simp [base] <;> rfl
  | cons w outer ih =>
    obtain ⟨here,others⟩ := List.forall_mem_cons.mp ranges
    have width : (UInt64.ofNat w.size).toNat = w.size := UInt64.toNat_ofNat_of_lt' (by omega)
    rw [reach,checkWords_eq,checkBounds,refusal?_cons,width]
    by_cases inside : offset.toNat + length.toNat ≤ w.size
    -- An offset inside the window is at most its size, so its base can be added without wrapping.
    · have moved : (UInt64.ofNat w.base + offset).toNat = w.base + offset.toNat := by
        rw [UInt64.toNat_add,UInt64.toNat_ofNat_of_lt' (by omega),Nat.mod_eq_of_lt]
        rw [UInt64.size] at here
        omega
      have bases : base (w :: outer) + offset.toNat =
          Place.base outer + (w.base + offset.toNat) := by
        simp only [base, List.map_cons, List.sum_cons]
        omega
      rw [if_pos inside,if_pos inside,bases,← moved]
      exact ih others (UInt64.ofNat w.base + offset)
    · simp [inside]
      rfl

/-- An access through windows succeeds exactly if it stays inside every window on the way and inside
the device. It is then an access to the bytes of the device behind the bases of all windows, and to no
others. Otherwise the first level that it would leave refuses it, by the offset that it has there. The
address or the refusal is the same if offsets are words, as long as no window reaches beyond the
largest word. -/
theorem windows_confine (place : Place) (ranges : ∀ w ∈ place, w.base + w.size < UInt64.size)
    (d : Device) (sound : d.plan = .sound) (addressable : d.size < UInt64.size) (offset : UInt64)
    (data : List UInt8) (sized : data.length < UInt64.size) :
    let inside := place.Admits d.size offset.toNat data.length
    let reached := (place.reach (.ofNat d.size) offset (.ofNat data.length)).map UInt64.toNat
    (((∃ bytes, (place.read offset.toNat data.length d).1 = .ok bytes) ↔ inside) ∧
      ((place.write offset.toNat data d).1 = .ok () ↔ inside)) ∧
    (inside → place.Serves d offset.toNat data ∧ reached = .ok (place.base + offset.toNat)) ∧
    ∀ before l after, place.levels d.size = before ++ l :: after →
      (∀ b ∈ before, b.Admits offset.toNat data.length) → ¬l.Admits offset.toNat data.length →
      place.Refuses d offset.toNat data (.outOfBounds (l.moved + offset.toNat) data.length) ∧
      reached = .error (.outOfBounds (l.moved + offset.toNat) data.length) := by
  have words := reach_eq ranges (.ofNat d.size) offset (.ofNat data.length)
  rw [UInt64.toNat_ofNat_of_lt' addressable,UInt64.toNat_ofNat_of_lt' sized] at words
  refine ⟨?_,?_,?_⟩
  · rcases serves_or_refuses place sound offset.toNat data with ⟨inside,served⟩ | ⟨outside,e,refused⟩
    · obtain ⟨⟨_,read,-⟩,⟨_,write,-⟩⟩ := served
      exact ⟨iff_of_true ⟨_,congrArg Prod.fst read⟩ inside,
        iff_of_true (congrArg Prod.fst write) inside⟩
    · obtain ⟨⟨_,read,-⟩,⟨_,write,-⟩⟩ := refused
      exact ⟨iff_of_false (by simp [read]) outside,iff_of_false (by simp [write]) outside⟩
  · intro inside
    rw [refusal?_eq_none_iff.mpr inside] at words
    exact ⟨serves_of_fits sound (fits_iff_admits.mpr inside),words⟩
  · intro before l after split passed crossed
    have refused := refusal?_eq_some_iff.mpr ⟨before,l,after,split,crossed,rfl,passed⟩
    rw [refused] at words
    exact ⟨refuses_of_refusal sound refused,words⟩

/-- A window that is larger than the room for it in the window around it. -/
def overhanging : Place := [⟨2,8⟩,⟨4,5⟩]

theorem windows_confine_overhanging :
    (∀ w ∈ overhanging, w.base + w.size < UInt64.size) ∧ (Device.blank 12).plan = .sound ∧
    (Device.blank 12).size < UInt64.size ∧
    (overhanging.Admits 12 1 2 ∧ overhanging.Serves (Device.blank 12) 1 [7,9]) ∧
    (¬overhanging.Admits 12 2 2 ∧ overhanging.Refuses (Device.blank 12) 2 [7,9] (.outOfBounds 4 2)) ∧
    (overhanging.reach 12 (.ofNat (UInt64.size - 1)) 2).map UInt64.toNat =
      .error (.outOfBounds (UInt64.size - 1) 2) := by
  have ranges : ∀ w ∈ overhanging, w.base + w.size < UInt64.size := by decide
  have confined := windows_confine overhanging ranges (Device.blank 12) rfl (by decide)
  have inside := (confined 1 [7,9] (by decide)).2.1 (by decide)
  have outside := (confined 2 [7,9] (by decide)).2.2 [⟨0,8⟩] ⟨2,5⟩ [⟨6,12⟩] rfl (by decide) (by decide)
  have last := (confined (.ofNat (UInt64.size - 1)) [7,9] (by decide)).2.2 [] ⟨0,8⟩ [⟨2,5⟩,⟨6,12⟩]
    rfl (by decide) (by decide)
  exact ⟨ranges,rfl,by decide,⟨by decide,inside.1⟩,⟨by decide,outside.1⟩,last.2⟩

end Place

/-! The windows of the station can be addressed by words. -/
example : ∀ w ∈ [Layout.log, Layout.network, Layout.gates], w.base + w.size < UInt64.size := by
  decide
end ClimateStation.Storage
