import TinyIpfix.Proofs.DataAggrExact
import TinyIpfix.Proofs.DataAggrTotal

/-! Fields of four and eight bytes. The start of the minimum and the running sum are too
narrow for four bytes, and the shifts of both loops are too wide for eight. -/

namespace TinyIpfix.DataAggr
open CMem CLoop Transducer Window Endian

/-- The value in the message for the `index`-th window of a run is the exact aggregate
of the fields selected in it. -/
def SendsAggregate (overshift : Overshift) (aggrFunc : AggrFunc) (config : HeaderConfig) (degree : Nat)
    (position width : UInt16) (memory : Nat → UInt8) (datagrams : List Datagram) (index : Nat) : Prop :=
  ∃ final sent message,
    run (receiver (step overshift aggrFunc config degree)) datagrams (ready position width memory) = .ok (final, sent) ∧
    sent[index]? = some message ∧ message.drop config.msgHeaderSize = encode width.toNat
      (aggregate aggrFunc ((window degree (dataDatagrams datagrams) index).map (fieldValue config position width)))

theorem aggregate_lt (aggrFunc : AggrFunc) {values : List Nat} {bound : Nat} (positive : 0 < bound)
    (below : ∀ value ∈ values, value < bound) : aggregate aggrFunc values < bound := by
  cases aggrFunc with
  | avg =>
    rcases List.eq_nil_or_concat' values with rfl | ⟨earlier, last, shape⟩
    · exact positive
    · have total : values.sum ≤ values.length * (bound - 1) :=
        List.sum_le_card_nsmul values (bound - 1) fun value member => by have less := below value member; omega
      have nonempty : 0 < values.length := by simp [shape]
      apply Nat.div_lt_of_lt_mul
      calc values.sum ≤ values.length * (bound - 1) := total
        _ < values.length * bound := Nat.mul_lt_mul_of_pos_left (by omega) nonempty
  | max =>
    simp only [aggregate]
    cases found : values.max? with
    | none => exact positive
    | some value => exact below value (List.max?_mem found)
  | min =>
    simp only [aggregate]
    cases found : values.min? with
    | none => exact positive
    | some value => exact below value (List.min?_mem found)

section FourBytes
variable (overshift : Overshift) (config : HeaderConfig) {degree : Nat} (positive : 1 ≤ degree) (small : degree ≤ 255)
  (position : UInt16) (memory : Nat → UInt8) {datagrams : List Datagram}
  (contains : ∀ datagram ∈ datagrams, isTemplate datagram = false → Contains config position 4 datagram)

private theorem four_narrow : (4 : UInt16).toNat ≤ 4 := Nat.le_refl 4

include contains in
private theorem received_contains : ∀ datagram ∈ dataDatagrams datagrams, Contains config position 4 datagram := by
  intro datagram member
  obtain ⟨arrived, data⟩ := mem_dataDatagrams.mp member
  exact contains datagram arrived data

include positive small contains in
private theorem sendsAggregate_iff (aggrFunc : AggrFunc) {index : Nat}
    (complete : index < (dataDatagrams datagrams).length / degree) :
    SendsAggregate overshift aggrFunc config degree position 4 memory datagrams index ↔
      (emitted aggrFunc degree
        ((window degree (dataDatagrams datagrams) index).map (converted config position 4))).toNat =
        aggregate aggrFunc ((window degree (dataDatagrams datagrams) index).map (fieldValue config position 4)) := by
  have received := received_contains config position contains
  obtain ⟨final, executed⟩ := run_folds overshift aggrFunc config positive small four_narrow memory _ received
  rw [← run_receiver] at executed
  have sentValue : (message config aggrFunc degree position 4 index
      (window degree (dataDatagrams datagrams) index)).drop config.msgHeaderSize =
      encode 4 (emitted aggrFunc degree
        ((window degree (dataDatagrams datagrams) index).map (converted config position 4))).toNat :=
    List.drop_left' (builtHeader_length config _ (fieldHeader_accepted config four_narrow))
  constructor
  · rintro ⟨other, sent, out, again, found, value⟩
    rw [executed] at again
    cases again
    simp only [List.getElem?_map, List.getElem?_range complete, Option.map_some, Option.some.injEq] at found
    rw [← found, sentValue] at value
    have below : aggregate aggrFunc ((window degree (dataDatagrams datagrams) index).map
        (fieldValue config position 4)) < 256 ^ 4 := by
      apply aggregate_lt aggrFunc (by decide)
      intro field member
      obtain ⟨datagram, included, rfl⟩ := List.mem_map.mp member
      exact fieldValue_lt (received datagram (mem_window included))
    rw [← decode_encode_of_lt 4 below, ← decode_encode_of_lt 4 (UInt32.toNat_lt _)]
    exact congrArg decode value
  · intro same
    refine ⟨final, _, _, executed, by rw [List.getElem?_map, List.getElem?_range complete]; rfl, ?_⟩
    rw [sentValue, same]
    rfl

end FourBytes

section Minimum

private theorem foldl_min_start {values : List Nat} (nonempty : values ≠ []) (start : Nat) :
    values.foldl min start = min start (values.min?.getD 0) := by
  cases values with
  | nil => exact absurd rfl nonempty
  | cons value values =>
    rw [List.min?_cons', List.foldl_cons, Option.getD_some, List.foldl_assoc]

private theorem emitted_min_iff (degree : Nat) {values : List UInt32} (nonempty : values ≠ []) :
    (emitted .min degree values).toNat = aggregate .min (values.map UInt32.toNat) ↔
      ∃ value ∈ values.map UInt32.toNat, value ≤ 0xffff := by
  have last : emitted .min degree values = (folded .min values).1 := rfl
  have some : values.map UInt32.toNat ≠ [] := by simpa using nonempty
  rw [last, folded_min_state nonempty, folded_min, foldl_min_start some, aggregate]
  obtain ⟨least, found⟩ := Option.isSome_iff_exists.mp (List.isSome_min?_of_ne_nil some)
  obtain ⟨member, lower⟩ := List.min?_eq_some_iff.mp found
  rw [found, Option.getD_some]
  constructor
  · intro same
    exact ⟨least, member, by omega⟩
  · rintro ⟨value, included, low⟩
    have below := lower value included
    omega

/-- The minimum over four-byte fields is exact in the windows that hold a value of at
most 65535, the start of the running minimum. -/
theorem sends_minimum_iff (overshift : Overshift) (config : HeaderConfig) (degree : Nat) (positive : 1 ≤ degree)
    (small : degree ≤ 255) (position : UInt16) (memory : Nat → UInt8) (datagrams : List Datagram)
    (contains : ∀ datagram ∈ datagrams, isTemplate datagram = false → Contains config position 4 datagram)
    (index : Nat) (complete : index < (dataDatagrams datagrams).length / degree) :
    SendsAggregate overshift .min config degree position 4 memory datagrams index ↔
      ∃ datagram ∈ window degree (dataDatagrams datagrams) index, fieldValue config position 4 datagram ≤ 0xffff := by
  have full := window_length complete
  have nonempty : (window degree (dataDatagrams datagrams) index).map (converted config position 4) ≠ [] := by
    apply List.ne_nil_of_length_pos
    rw [List.length_map, full]
    exact positive
  have exactly := emitted_min_iff degree nonempty
  rw [converted_values four_narrow fun datagram member =>
    received_contains config position contains datagram (mem_window member)] at exactly
  rw [sendsAggregate_iff overshift config positive small position memory contains .min complete, exactly]
  constructor
  · rintro ⟨value, member, low⟩
    obtain ⟨datagram, included, rfl⟩ := List.mem_map.mp member
    exact ⟨datagram, included, low⟩
  · rintro ⟨datagram, included, low⟩
    exact ⟨_, List.mem_map.mpr ⟨datagram, included, rfl⟩, low⟩

end Minimum

/-- A datagram of the shipped layout with a four-byte field right behind its header. -/
def sampleTime (first second third fourth : UInt8) : Datagram :=
  ⟨⟨[0x08, 0x07, 0x2a, first, second, third, fourth], fun _ => 0⟩, by simp [Region.size], by simp [Region.size]⟩

theorem sample_minimum : SendsAggregate ⟨fun _ _ => 0, fun _ _ => 0⟩ .min HeaderConfig.sky 2 0 4 (fun _ => 0)
    [sampleTime 0 1 0 0, sampleTime 0 2 0 0, sampleTime 0 3 0 0, sampleTime 0 0 9 9] 1 :=
  (sends_minimum_iff ⟨fun _ _ => 0, fun _ _ => 0⟩ HeaderConfig.sky 2 (by decide) (by decide) 0 (fun _ => 0)
    [sampleTime 0 1 0 0, sampleTime 0 2 0 0, sampleTime 0 3 0 0, sampleTime 0 0 9 9] (by decide) 1 (by decide)).mpr
    (by decide)

/-- One reading of 65536 is sent as 65535. -/
theorem minimum_too_small : ¬ SendsAggregate ⟨fun _ _ => 0, fun _ _ => 0⟩ .min HeaderConfig.sky 1 0 4 (fun _ => 0)
    [sampleTime 0 1 0 0] 0 := by
  rw [sendsAggregate_iff _ _ (by decide) (by decide) _ _ (by decide) _ (by decide)]
  decide

section Sum

/-- A 32-bit sum that wrapped does not have the right mean. -/
theorem wrapped_mean_iff {degree : Nat} (positive : 1 ≤ degree) (small : degree ≤ 255) (sum : Nat) :
    sum % 2 ^ 32 / degree = sum / degree ↔ sum < 2 ^ 32 := by
  constructor
  · intro same
    by_contra large
    -- The sum lost at least 2 ^ 32, which is more than one part.
    have lost : sum % 2 ^ 32 + degree ≤ sum := by omega
    have more := Nat.div_le_div_right (c := degree) lost
    rw [Nat.add_div_right _ positive] at more
    omega
  · intro fits
    rw [Nat.mod_eq_of_lt fits]

private theorem emitted_avg_iff {degree : Nat} (positive : 1 ≤ degree) (small : degree ≤ 255) {values : List UInt32}
    (full : values.length = degree) :
    (emitted .avg degree values).toNat = aggregate .avg (values.map UInt32.toNat) ↔
      (values.map UInt32.toNat).sum < 2 ^ 32 := by
  rw [emitted, finish, UInt32.toNat_div, folded_avg, UInt32.toNat_ofNat_of_lt' (by simp only [UInt32.size]; omega),
    aggregate, List.length_map, full]
  exact wrapped_mean_iff positive small _

/-- No addition to the running sum wraps while the `index`-th window is folded. -/
def SumKept (overshift : Overshift) (config : HeaderConfig) (degree : Nat) (position : UInt16) (memory : Nat → UInt8)
    (datagrams : List Datagram) (index : Nat) : Prop :=
  ∀ before datagram after, datagrams = before ++ datagram :: after → isTemplate datagram = false →
    (dataDatagrams before).length / degree = index → ∀ state sent decoding,
    run (receiver (step overshift .avg config degree)) before (ready position 4 memory) = .ok (state, sent) →
    convert overshift config datagram state = .ok decoding →
    (state.dataAggrState + decoding.converted).toNat = state.dataAggrState.toNat + decoding.converted.toNat

private theorem sumKept_of_fits (overshift : Overshift) (config : HeaderConfig) {degree : Nat} (positive : 1 ≤ degree)
    (small : degree ≤ 255) (position : UInt16) (memory : Nat → UInt8) {datagrams : List Datagram}
    (contains : ∀ datagram ∈ datagrams, isTemplate datagram = false → Contains config position 4 datagram) {index : Nat}
    (fits : ((window degree (dataDatagrams datagrams) index).map (fieldValue config position 4)).sum < 2 ^ 32) :
    SumKept overshift config degree position memory datagrams index := by
  rintro before datagram after rfl data opened state sent decoding executed decoded
  have received := received_contains config position contains
  have arrived : dataDatagrams (before ++ datagram :: after) =
      dataDatagrams before ++ datagram :: dataDatagrams after := by
    simp [dataDatagrams, List.filter_append, data]
  rw [arrived] at received fits
  have earlier : ∀ other ∈ dataDatagrams before, Contains config position 4 other :=
    fun other member => received other (by simp [member])
  obtain ⟨final, followed, folding⟩ := run_follows overshift .avg config positive small four_narrow memory _ earlier
  rw [run_receiver, followed] at executed
  cases executed
  -- The values summed so far and this one open the window.
  have opens := pending_prefix positive (message config .avg degree position 4) 0 (dataDatagrams before) datagram
    (dataDatagrams after)
  rw [opened] at opens
  obtain ⟨place, length⟩ := folding.selects
  obtain ⟨same, converts, value⟩ := convert_ok overshift state (by rw [length]; exact four_narrow)
    (by rw [place, length]; exact received datagram (by simp))
  rw [decoded] at converts
  cases converts
  rw [place, length] at value
  have total := congrArg (fun pair => pair.1.toNat) folding.total
  simp only [folded_avg] at total
  rw [converted_values four_narrow fun other member =>
    received other (mem_window (opens.subset (List.mem_append_left [datagram] member)))] at total
  have bound := (opens.sublist.map (fieldValue config position 4)).sum_le_sum fun _ _ => Nat.zero_le _
  rw [List.map_append, List.sum_append, List.map_singleton, List.sum_singleton] at bound
  rw [Nat.mod_eq_of_lt (by omega)] at total
  rw [UInt32.toNat_add, total, value, Nat.mod_eq_of_lt (by omega)]

/-- The mean over four-byte fields is exact, with no addition that wraps, in the windows
whose fields sum to less than 2 ^ 32. -/
theorem sends_mean_iff (overshift : Overshift) (config : HeaderConfig) (degree : Nat) (positive : 1 ≤ degree)
    (small : degree ≤ 255) (position : UInt16) (memory : Nat → UInt8) (datagrams : List Datagram)
    (contains : ∀ datagram ∈ datagrams, isTemplate datagram = false → Contains config position 4 datagram)
    (index : Nat) (complete : index < (dataDatagrams datagrams).length / degree) :
    (SumKept overshift config degree position memory datagrams index ∧
      SendsAggregate overshift .avg config degree position 4 memory datagrams index) ↔
      ((window degree (dataDatagrams datagrams) index).map (fieldValue config position 4)).sum < 2 ^ 32 := by
  have full : ((window degree (dataDatagrams datagrams) index).map (converted config position 4)).length = degree := by
    rw [List.length_map, window_length complete]
  have exactly := emitted_avg_iff positive small full
  rw [converted_values four_narrow fun datagram member =>
    received_contains config position contains datagram (mem_window member)] at exactly
  rw [sendsAggregate_iff overshift config positive small position memory contains .avg complete, exactly]
  constructor
  · rintro ⟨-, fits⟩
    exact fits
  · intro fits
    exact ⟨sumKept_of_fits overshift config positive small position memory contains fits, fits⟩

theorem sample_mean_of_times : SumKept ⟨fun _ _ => 0, fun _ _ => 0⟩ HeaderConfig.sky 2 0 (fun _ => 0)
      [sampleTime 0x80 0 0 0, sampleTime 0x7f 0 0 0] 0 ∧
    SendsAggregate ⟨fun _ _ => 0, fun _ _ => 0⟩ .avg HeaderConfig.sky 2 0 4 (fun _ => 0)
      [sampleTime 0x80 0 0 0, sampleTime 0x7f 0 0 0] 0 :=
  (sends_mean_iff ⟨fun _ _ => 0, fun _ _ => 0⟩ HeaderConfig.sky 2 (by decide) (by decide) 0 (fun _ => 0)
    [sampleTime 0x80 0 0 0, sampleTime 0x7f 0 0 0] (by decide) 0 (by decide)).mpr (by decide)

/-- The mean of 2 ^ 31 and 2 ^ 31 is sent as zero. -/
theorem mean_wrapped : ¬ SendsAggregate ⟨fun _ _ => 0, fun _ _ => 0⟩ .avg HeaderConfig.sky 2 0 4 (fun _ => 0)
    [sampleTime 0x80 0 0 0, sampleTime 0x80 0 0 0] 0 := by
  rw [sendsAggregate_iff _ _ (by decide) (by decide) _ _ (by decide) _ (by decide)]
  decide

end Sum

section EightBytes

/-- In the calls of the `index`-th window no shift reaches the 32 bits of its operand,
and the eight bytes sent for it are those of the exact maximum. -/
structure WideMaximum (overshift : Overshift) (config : HeaderConfig) (degree : Nat) (position : UInt16)
    (memory : Nat → UInt8) (datagrams : List Datagram) (index : Nat) : Prop where
  shifts : ∀ before datagram after, datagrams = before ++ datagram :: after → isTemplate datagram = false →
    (dataDatagrams before).length / degree = index → ∀ state sent outcome,
    run (receiver (step overshift .max config degree)) before (ready position 8 memory) = .ok (state, sent) →
    calcAggrPayload overshift .max config degree datagram state = .ok outcome → ∀ amount ∈ outcome.shifts, amount < 32
  sends : SendsAggregate overshift .max config degree position 8 memory datagrams index

/-- The first call of every window shifts the first byte of the field by 56. -/
theorem shifts_by_56 (overshift : Overshift) (config : HeaderConfig) (degree : Nat) (position : UInt16)
    (memory : Nat → UInt8) {datagrams : List Datagram} {index : Nat}
    (complete : index < (dataDatagrams datagrams).length / degree) :
    ∃ before datagram after state sent outcome, datagrams = before ++ datagram :: after ∧
      isTemplate datagram = false ∧ (dataDatagrams before).length / degree = index ∧
      run (receiver (step overshift .max config degree)) before (ready position 8 memory) = .ok (state, sent) ∧
      calcAggrPayload overshift .max config degree datagram state = .ok outcome ∧ 56 ∈ outcome.shifts := by
  have positive : 0 < degree := by
    rcases Nat.eq_zero_or_pos degree with rfl | positive
    · simp at complete
    · exact positive
  have covered : (index + 1) * degree ≤ (dataDatagrams datagrams).length := (Nat.le_div_iff_mul_le positive).mp complete
  rw [Nat.succ_mul] at covered
  obtain ⟨before, datagram, after, shape, data, counted⟩ :=
    dataDatagrams_split (show index * degree < (dataDatagrams datagrams).length by omega)
  have short : (8 : UInt16).toNat < 256 := by decide
  obtain ⟨state, sent, executed, selecting⟩ := run_defined overshift .max config degree position short memory before
  obtain ⟨outcome, called, -, -, shifts⟩ := calcAggrPayload_total overshift .max config degree short datagram selecting
  refine ⟨before, datagram, after, state, sent, outcome, shape, data, ?_, executed, called, ?_⟩
  · rw [counted, Nat.mul_div_cancel _ positive]
  · exact shifts.subset (List.mem_map.mpr ⟨0, List.mem_range.mpr (by decide), rfl⟩)

/-- There is no window of eight-byte fields in which all the shifts are defined. -/
theorem wide_maximum_never (overshift : Overshift) (config : HeaderConfig) (degree : Nat) (position : UInt16)
    (memory : Nat → UInt8) (datagrams : List Datagram) (index : Nat)
    (complete : index < (dataDatagrams datagrams).length / degree) :
    ¬ WideMaximum overshift config degree position memory datagrams index := by
  intro wide
  obtain ⟨before, datagram, after, state, sent, outcome, shape, data, opened, executed, called, far⟩ :=
    shifts_by_56 overshift config degree position memory complete
  have less := wide.shifts before datagram after shape data opened state sent outcome executed called 56 far
  omega

def sampleWide : Datagram :=
  ⟨⟨[0x08, 0x0b, 0x01, 0, 0, 0, 0, 0, 0, 0, 1], fun _ => 0⟩, by simp [Region.size], by simp [Region.size]⟩

theorem sample_wide : ¬ WideMaximum ⟨fun _ _ => 0, fun _ _ => 0⟩ HeaderConfig.sky 2 0 (fun _ => 0)
    [sampleWide, sampleWide, sampleWide, sampleWide] 1 :=
  wide_maximum_never ⟨fun _ _ => 0, fun _ _ => 0⟩ HeaderConfig.sky 2 0 (fun _ => 0)
    [sampleWide, sampleWide, sampleWide, sampleWide] 1 (by decide)

/-- Not even for one field that holds the value one. -/
theorem wide_one_undefined : ¬ WideMaximum ⟨fun _ _ => 0, fun _ _ => 0⟩ HeaderConfig.sky 1 0 (fun _ => 0)
    [sampleWide] 0 := by
  intro wide
  obtain ⟨before, datagram, after, state, sent, outcome, shape, data, opened, executed, called, far⟩ :=
    shifts_by_56 ⟨fun _ _ => 0, fun _ _ => 0⟩ HeaderConfig.sky 1 0 (fun _ => 0)
      (show 0 < (dataDatagrams [sampleWide]).length / 1 by decide)
  have less := wide.shifts before datagram after shape data opened state sent outcome executed called 56 far
  omega

end EightBytes

end TinyIpfix.DataAggr
