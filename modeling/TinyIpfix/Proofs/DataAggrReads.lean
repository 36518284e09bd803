import TinyIpfix.Proofs.DataAggrExtract
import TinyIpfix.Proofs.DataAggrTotal

/-! Where data aggregation reads a datagram. The offset comes from the template at
start-up, and the length of the datagram is never looked at. -/

namespace TinyIpfix.DataAggr
open CMem Transducer

/-- The datagram is long enough for the header and the fields up to the one selected. -/
def HoldsField (config : HeaderConfig) (sensor : List TemplateRec) (sensorPos : Nat) (datagram : Datagram) : Prop :=
  config.msgHeaderSize + ((sensor.take (sensorPos + 1)).map fun rec => rec.fieldLen.toNat).sum ≤ datagram.data.size

instance (config : HeaderConfig) (sensor : List TemplateRec) (sensorPos : Nat) (datagram : Datagram) :
    Decidable (HoldsField config sensor sensorPos datagram) :=
  inferInstanceAs (Decidable (_ ≤ _))

/-- A call reads inside the datagram, and one without the field leaves the open window as
it was. -/
structure ReadsInside (config : HeaderConfig) (sensor : List TemplateRec) (sensorPos : Nat) (datagram : Datagram)
    (state : State) (outcome : Outcome) : Prop where
  inside : ∀ index ∈ outcome.reads, index < datagram.data.size
  ignored : ¬ HoldsField config sensor sensorPos datagram → outcome.state.aggrCount = state.aggrCount ∧
    outcome.state.dataAggrState = state.dataAggrState ∧ outcome.state.dataAggrStateMin = state.dataAggrStateMin

/-- Whatever has arrived since start-up, the call for the next datagram reads inside it. -/
def StaysInside (overshift : Overshift) (aggrFunc : AggrFunc) (config : HeaderConfig) (degree : Nat)
    (sensor : List TemplateRec) (heap : Heap) (memory : Nat → UInt8) (sensorPos : Nat) (before : List Datagram)
    (datagram : Datagram) : Prop :=
  ∀ template library started current sent,
    getAggrTemplate config sensor heap memory sensorPos Library.initial initial = .ok (template, library, started) →
    run (receiver (step overshift aggrFunc config degree)) before started = .ok (current, sent) →
    ∃ outcome, calcAggrPayload overshift aggrFunc config degree datagram current = .ok outcome ∧
      receiver (step overshift aggrFunc config degree) datagram current = .ok (outcome.state, outcome.sent) ∧
      ReadsInside config sensor sensorPos datagram current outcome

theorem readIndices_inside_iff (config : HeaderConfig) (position : UInt16) {count : Nat} (nonempty : 0 < count)
    (size : Nat) :
    (∀ index ∈ readIndices config position count, index < size) ↔
      config.msgHeaderSize + (position.toNat + count) ≤ size := by
  constructor
  · intro inside
    have last : config.msgHeaderSize + (position.toNat + (count - 1)) ∈ readIndices config position count := by
      apply List.mem_append_right
      exact List.mem_map.mpr ⟨count - 1, List.mem_range.mpr (by omega), rfl⟩
    have bound := inside _ last
    omega
  · intro covers index member
    rcases List.mem_append.mp member with header | field
    · have bound := List.mem_range.mp header
      omega
    · obtain ⟨i, within, rfl⟩ := List.mem_map.mp field
      have bound := List.mem_range.mp within
      omega

section Selected
variable (config : HeaderConfig) {sensor : List TemplateRec} {sensorPos : Nat} (inside : sensorPos < sensor.length)

private theorem holdsField_iff (datagram : Datagram) :
    HoldsField config sensor sensorPos datagram ↔
      config.msgHeaderSize + (fieldOffset sensor sensorPos + sensor[sensorPos].fieldLen.toNat) ≤ datagram.data.size := by
  have ends : ((sensor.take (sensorPos + 1)).map fun rec => rec.fieldLen.toNat).sum =
      fieldOffset sensor sensorPos + sensor[sensorPos].fieldLen.toNat := by
    rw [← fieldOffset_succ inside, List.map_take]
    rfl
  rw [HoldsField, ends]

/-- A call for any datagram reads the bytes of the header and of the whole field. -/
theorem readsInside_iff (supported : Supported sensor) {position : UInt16} {datagram : Datagram} {state : State}
    {outcome : Outcome} (placed : position.toNat = fieldOffset sensor sensorPos)
    (reads : outcome.reads = readIndices config position sensor[sensorPos].fieldLen.toNat) :
    ReadsInside config sensor sensorPos datagram state outcome ↔ HoldsField config sensor sensorPos datagram := by
  have width := supported_width (supported _ (List.getElem_mem inside))
  have covers := readIndices_inside_iff config position (Nat.lt_of_succ_le width.1) datagram.data.size
  rw [placed, ← holdsField_iff config inside, ← reads] at covers
  constructor
  · intro read
    exact covers.mp read.inside
  · intro holds
    exact ⟨covers.mpr holds, fun missing => absurd holds missing⟩

end Selected

private theorem staysInside_iff (overshift : Overshift) (aggrFunc : AggrFunc) (config : HeaderConfig) (degree : Nat)
    {sensor : List TemplateRec} (supported : Supported sensor) (short : sensor.length < 256) {sensorPos : Nat}
    (inside : sensorPos < sensor.length) (heap : Heap) (memory : Nat → UInt8) (before : List Datagram)
    {datagram : Datagram} (data : isTemplate datagram = false) :
    StaysInside overshift aggrFunc config degree sensor heap memory sensorPos before datagram ↔
      HoldsField config sensor sensorPos datagram := by
  obtain ⟨-, -, walk, template, library, -, -, -, -, edited, placed, width⟩ :=
    getAggrTemplate_selects config supported short inside heap memory
  have narrow : walk.fieldLen.toNat < 256 := by
    have bounds := supported_width (supported _ (List.getElem_mem inside))
    rw [width]
    omega
  obtain ⟨current, sent, executed, selecting⟩ :=
    run_defined overshift aggrFunc config degree walk.payloadExtrPos narrow memory before
  obtain ⟨outcome, called, -, reads, -⟩ :=
    calcAggrPayload_total overshift aggrFunc config degree narrow datagram selecting
  rw [width] at reads
  have read : ReadsInside config sensor sensorPos datagram current outcome ↔ _ :=
    readsInside_iff config inside supported placed reads
  constructor
  · intro stays
    obtain ⟨same, again, -, readInside⟩ := stays template library _ current sent edited executed
    rw [called] at again
    cases again
    exact read.mp readInside
  · intro holds other otherLibrary started state messages starts ran
    rw [edited] at starts
    cases starts
    cases executed.symm.trans ran
    exact ⟨outcome, called, receiver_calls data called, read.mpr holds⟩

/-- After any run, the call for a datagram stays inside it exactly if the datagram holds
the selected field. Start-up does not end for a table of 256 records or more. -/
theorem stays_inside_iff (overshift : Overshift) (aggrFunc : AggrFunc) (config : HeaderConfig) (degree : Nat)
    (sensor : List TemplateRec) (supported : Supported sensor) (sensorPos : Nat) (inside : sensorPos < sensor.length)
    (heap : Heap) (memory : Nat → UInt8) (before : List Datagram) (datagram : Datagram)
    (data : isTemplate datagram = false) :
    (sensor.length < 256 →
      (StaysInside overshift aggrFunc config degree sensor heap memory sensorPos before datagram ↔
        HoldsField config sensor sensorPos datagram)) ∧
    (256 ≤ sensor.length →
      getAggrTemplate config sensor heap memory sensorPos Library.initial initial = .error .endlessLoop) := by
  constructor
  · intro short
    exact staysInside_iff overshift aggrFunc config degree supported short inside heap memory before data
  · intro long
    rw [getAggrTemplate, initializeTinyipfix_endless config long heap (by decide)]
    rfl

/-- A datagram that ends behind its first byte. -/
def bareByte : Datagram := ⟨⟨[0x08], fun _ => 0⟩, by simp [Region.size], by simp [Region.size]⟩

/-- A datagram that ends behind a field of two bytes. -/
def bareField : Datagram :=
  ⟨⟨[0x08, 0x05, 0x2b, 0x01, 0x1d], fun _ => 0⟩, by simp [Region.size], by simp [Region.size]⟩

theorem sample_reads : StaysInside ⟨fun _ _ => 0, fun _ _ => 0⟩ .min HeaderConfig.sky 2 initTemplate
    ⟨fun _ => 1, fun _ => 2⟩ (fun _ => 3) 0 [bareByte, bareField] bareField :=
  ((stays_inside_iff ⟨fun _ _ => 0, fun _ _ => 0⟩ .min HeaderConfig.sky 2 initTemplate (by decide) 0 (by decide)
    ⟨fun _ => 1, fun _ => 2⟩ (fun _ => 3) [bareByte, bareField] bareField (by decide)).1 (by decide)).mpr (by decide)

/-- The single byte does not hold the two bytes of the field. -/
theorem short_datagram_overread : ¬ StaysInside ⟨fun _ _ => 0, fun _ _ => 0⟩ .min HeaderConfig.sky 2 initTemplate
    ⟨fun _ => 1, fun _ => 2⟩ (fun _ => 3) 0 [] bareByte := by
  rw [staysInside_iff _ _ _ _ (by decide) (by decide) (by decide) _ _ _ (by decide)]
  decide

end TinyIpfix.DataAggr
