import ClimateStation.Proofs.Log.Operation

/-! The log is a queue of its last 27 entries. On a device that does not fail, every sequence of
appends, clearings and reopenings keeps the log in step with a list to which the same is done, and
everything that can be asked of the log is answered as if it were asked of the list. -/
namespace ClimateStation.Log
open Storage

namespace Extremes

/-- The smallest and the largest temperature and humidity, each taken by itself. -/
def componentwise (es : List Entry) : Option Extremes := do
  let minTemperature ← (es.map (·.temperature)).min?
  let maxTemperature ← (es.map (·.temperature)).max?
  let minHumidity ← (es.map (·.humidity)).min?
  let maxHumidity ← (es.map (·.humidity)).max?
  pure ⟨minTemperature,maxTemperature,minHumidity,maxHumidity⟩

lemma foldl_widen (es : List Entry) (x : Extremes) :
    es.foldl widen x =
      ⟨(es.map (·.temperature)).foldl min x.minTemperature,
        (es.map (·.temperature)).foldl max x.maxTemperature,
        (es.map (·.humidity)).foldl min x.minHumidity,
        (es.map (·.humidity)).foldl max x.maxHumidity⟩ := by
  induction es generalizing x with
  | nil => rfl
  | cons e es ih => exact ih (x.widen e)

theorem ofList?_eq_componentwise (es : List Entry) : ofList? es = componentwise es := by
  cases es with
  | nil => rfl
  | cons e es =>
    rw [ofList?,foldl_widen]
    simp only [componentwise, List.map_cons, List.min?_cons', List.max?_cons']
    rfl

end Extremes

namespace Ring
variable {place : Place} {r : Ring} {d : Device}

/-- Every question to a log is answered as by a list of entries, and the log itself is on the
device. -/
structure Presents (r : Ring) (place : Place) (d : Device) (es : List Entry) : Prop where
  count : r.count = es.length
  entries : (r.entries place d).1 = es.map .ok
  get : ∀ i, (r.get? place i d).1 = .ok es[i]?
  extremes : (r.extremes place d).1 = .ok (Extremes.componentwise es)
  reopen : ∃ d', load place d = (.ok r, d') ∧ d'.bytes = d.bytes

/-- An entry is read as it is stored, unless the device fails. -/
lemma entryAt_cases (fits : place.Fits regionSize d.size) (sound : r.Sound) {i : Nat}
    (hi : i < r.count) : r.entryAt place i d =
      (if d.plan.read d.reads then .error .io
        else .ok ((r.contents (place.view d.bytes)).getD i default), d.afterRead) := by
  have hl := sound.length_contents (place.view d.bytes)
  have h := Place.read_eq (r.slot i) Entry.width fits (sound.slot_bounds hi).2
  change (place.read (r.slot i) Entry.width >>= fun b => pure (Entry.ofBytes b)) d = _
  rw [Access.bind_apply,h,List.getD_eq_getElem?_getD,List.getElem?_eq_getElem (by omega),
    sound.getElem_contents]
  cases d.plan.read d.reads <;> rfl

lemma entryAt_eq (fits : place.Fits regionSize d.size) (sound : r.Sound)
    (healthy : d.plan = .sound) {i : Nat} (hi : i < r.count) :
    r.entryAt place i d = (.ok ((r.contents (place.view d.bytes)).getD i default), d.afterRead) := by
  rw [entryAt_cases fits sound hi,healthy]
  rfl

/-- Reading entries in any order moves the device along its plan and changes nothing else. -/
lemma mapM_entryAt (fits : place.Fits regionSize d.size) (sound : r.Sound)
    (healthy : d.plan = .sound) (is : List Nat) (his : ∀ i ∈ is, i < r.count) :
    (is.mapM (r.entryAt place)) d =
      (.ok (is.map fun i => (r.contents (place.view d.bytes)).getD i default),
        { d with reads := d.reads + is.length }) := by
  induction is generalizing d with
  | nil => rfl
  | cons i is ih =>
    have hi := entryAt_eq fits sound healthy (his i List.mem_cons_self)
    have hr := ih (d := d.afterRead) fits healthy fun j hj => his j (List.mem_cons_of_mem _ hj)
    rw [List.mapM_cons,Access.bind_ok _ hi,Access.bind_ok _ hr]
    simp [Device.afterRead, Nat.add_assoc, Nat.add_comm 1]

lemma mapM_run_entryAt (fits : place.Fits regionSize d.size) (sound : r.Sound)
    (healthy : d.plan = .sound) (is : List Nat) (his : ∀ i ∈ is, i < r.count) :
    (is.mapM fun i => (r.entryAt place i).run : StateM Device _) d =
      (is.map fun i => .ok ((r.contents (place.view d.bytes)).getD i default),
        { d with reads := d.reads + is.length }) := by
  induction is generalizing d with
  | nil => rfl
  | cons i is ih =>
    have hi := entryAt_eq fits sound healthy (his i List.mem_cons_self)
    have hr := ih (d := d.afterRead) fits healthy fun j hj => his j (List.mem_cons_of_mem _ hj)
    rw [List.mapM_cons]
    change (let x := r.entryAt place i d
      let y := (is.mapM fun i => (r.entryAt place i).run : StateM Device _) x.2
      (x.1 :: y.1, y.2)) = _
    simp only [hi, hr]
    simp [Device.afterRead, Nat.add_assoc, Nat.add_comm 1]

lemma Sound.map_range_getD {r : Ring} (sound : r.Sound) (bytes : List UInt8) :
    ((List.range r.count).map fun i => (r.contents bytes).getD i default) = r.contents bytes := by
  apply List.ext_getElem
  · simp [sound.length_contents]
  · intro i h₁ h₂
    simp [h₂]

theorem entries_eq (fits : place.Fits regionSize d.size) (sound : r.Sound)
    (healthy : d.plan = .sound) :
    r.entries place d =
      ((r.contents (place.view d.bytes)).map .ok, { d with reads := d.reads + r.count }) := by
  have h := mapM_run_entryAt fits sound healthy (List.range r.count) fun i hi => List.mem_range.mp hi
  have hm := congrArg (List.map (Except.ok : Entry → Except StorageError Entry))
    (sound.map_range_getD (place.view d.bytes))
  rw [List.map_map] at hm
  rw [List.length_range] at h
  exact h.trans (congrArg (·, _) hm)

theorem extremes_eq (fits : place.Fits regionSize d.size) (sound : r.Sound)
    (healthy : d.plan = .sound) :
    r.extremes place d =
      (.ok (Extremes.componentwise (r.contents (place.view d.bytes))),
        { d with reads := d.reads + r.count }) := by
  have h := mapM_entryAt fits sound healthy (List.range r.count) fun i hi => List.mem_range.mp hi
  rw [sound.map_range_getD,List.length_range] at h
  change ((List.range r.count).mapM (r.entryAt place) >>= fun es => pure (Extremes.ofList? es)) d = _
  rw [Access.bind_ok _ h,Extremes.ofList?_eq_componentwise]
  rfl

theorem get?_eq (fits : place.Fits regionSize d.size) (sound : r.Sound) (healthy : d.plan = .sound)
    (i : Nat) : (r.get? place i d).1 = .ok (r.contents (place.view d.bytes))[i]? := by
  have hl := sound.length_contents (place.view d.bytes)
  unfold get?
  by_cases hi : i < r.count
  · rw [if_pos hi]
    change ((r.entryAt place i >>= fun e => pure (some e)) d).1 = _
    rw [Access.bind_ok _ (entryAt_eq fits sound healthy hi)]
    simp [List.getElem?_eq_getElem (show i < (r.contents (place.view d.bytes)).length by omega)]
  · rw [if_neg hi,List.getElem?_eq_none (by omega)]
    rfl

/-- A log whose header is on a sound device presents its contents. -/
theorem presents_contents (fits : place.Fits regionSize d.size) (healthy : d.plan = .sound)
    (h : Describes (place.view d.bytes) r) :
    r.Presents place d (r.contents (place.view d.bytes)) where
  count := (h.sound.length_contents _).symm
  entries := by rw [entries_eq fits h.sound healthy]
  get := get?_eq fits h.sound healthy
  extremes := by rw [extremes_eq fits h.sound healthy]
  reopen := by
    refine ⟨d.afterRead,?_,rfl⟩
    rw [Operation.load_of_describes fits h,healthy]
    rfl

end Ring

namespace Operation

/-- Carries out operations one after the other; the first failure ends the run. -/
def run (place : Place) (r : Ring) (ops : List Operation) : Access Ring :=
  ops.foldlM (fun r op => op.carryOut r place) r

variable {place : Place} {r : Ring} {d : Device}

theorem carryOut_of_healthy (op : Operation) (fits : place.Fits Ring.regionSize d.size)
    (healthy : d.plan = .sound) (h : Ring.Describes (place.view d.bytes) r) :
    ∃ d', op.carryOut r place d = (.ok (op.target r), d') ∧ d'.plan = .sound ∧
      d'.bytes = replay d.bytes (op.writes r place) := by
  have ho := outcome op fits h
  rcases hc : op.carryOut r place d with ⟨res,d'⟩
  rw [hc] at ho
  cases ho with
  | done plan written bytes => exact ⟨d',rfl,plan.trans healthy,bytes⟩
  | failed k short plan written bytes cause => exact absurd healthy cause

/-- On a sound device an operation leaves the log it should, where the next one finds it. -/
lemma step_of_healthy (op : Operation) (fits : place.Fits Ring.regionSize d.size)
    (healthy : d.plan = .sound) (h : Ring.Describes (place.view d.bytes) r) :
    ∃ d', op.carryOut r place d = (.ok (op.target r), d') ∧
      place.Fits Ring.regionSize d'.size ∧ d'.plan = .sound ∧
      Ring.Describes (place.view d'.bytes) (op.target r) ∧
      (op.target r).contents (place.view d'.bytes) =
        op.queue (r.contents (place.view d.bytes)) := by
  obtain ⟨d',carried,plan,bytes⟩ := carryOut_of_healthy op fits healthy h
  have size : d'.size = d.size := by
    rw [Device.size,bytes,← List.take_length (l := op.writes r place)]
    exact length_replay_take op _ fits h.sound
  refine ⟨d',carried,size ▸ fits,plan,?_⟩
  rw [bytes]
  exact replay_writes op fits h

/-- A run on a sound device succeeds and does to the entries what it does to a queue. -/
theorem run_of_healthy (ops : List Operation) (fits : place.Fits Ring.regionSize d.size)
    (healthy : d.plan = .sound) (h : Ring.Describes (place.view d.bytes) r) :
    ∃ r' d', run place r ops d = (.ok r', d') ∧ place.Fits Ring.regionSize d'.size ∧
      d'.plan = .sound ∧ Ring.Describes (place.view d'.bytes) r' ∧
      r'.contents (place.view d'.bytes)
        = ops.foldl (fun es op => op.queue es) (r.contents (place.view d.bytes)) := by
  induction ops generalizing r d with
  | nil => exact ⟨r,d,rfl,fits,healthy,h,rfl⟩
  | cons op ops ih =>
    obtain ⟨d₁,hc,hf,hp,hd,he⟩ := step_of_healthy op fits healthy h
    obtain ⟨r',d',hr,hf,hp',hd',he'⟩ := ih hf hp hd
    refine ⟨r',d',?_,hf,hp',hd',?_⟩
    · unfold run at hr ⊢
      rw [List.foldlM_cons,Access.bind_ok _ hc]
      exact hr
    · rw [he',he,List.foldl_cons]

end Operation

/-- A log that was opened on a sound device is a queue of its last 27 entries: whatever the device
held, opening succeeds, every sequence of operations succeeds, and after it the log presents the
list that the same operations make of the entries found at first. -/
theorem opened_log_is_queue (place : Place) (d : Device) (ops : List Operation)
    (fits : place.Fits Ring.regionSize d.size) (healthy : d.plan = .sound) :
    ∃ r₀ d₀ r d', Ring.load place d = (.ok r₀, d₀) ∧ Operation.run place r₀ ops d₀ = (.ok r, d') ∧
      r.Presents place d'
        (ops.foldl (fun es op => op.queue es) (Ring.found (place.view d.bytes))) := by
  obtain ⟨r₀,d₀,hl⟩ := Ring.load_of_healthy fits healthy
  obtain ⟨hp,hs,hd,he⟩ := Ring.load_ok fits hl
  obtain ⟨r,d',hr,hf,hp',hd',he'⟩ := Operation.run_of_healthy ops (hs ▸ fits) (hp.trans healthy) hd
  refine ⟨r₀,d₀,r,d',hl,hr,?_⟩
  have := Ring.presents_contents hf hp' hd'
  rwa [he',he] at this

/-- A full ring in a window that starts behind other bytes, with the wrap still to come. -/
theorem opened_log_is_queue_full_ring :
    let d := Device.ofBytes (List.replicate 7 1 ++ [238, 0, 27, 0] ++ List.replicate 250 7)
    let ops := [.append default, .append default, .reopen, .clear, .append default]
    Place.Fits [⟨7, 250⟩] Ring.regionSize d.size ∧ d.plan = .sound ∧
    ∃ r₀ d₀ r d', Ring.load [⟨7, 250⟩] d = (.ok r₀, d₀) ∧
      Operation.run [⟨7, 250⟩] r₀ ops d₀ = (.ok r, d') ∧
      r.Presents [⟨7, 250⟩] d'
        (ops.foldl (fun es op => op.queue es) (Ring.found (Place.view [⟨7, 250⟩] d.bytes))) :=
  ⟨by decide +kernel,rfl,opened_log_is_queue [⟨7, 250⟩] _ _ (by decide +kernel) rfl⟩

end ClimateStation.Log
