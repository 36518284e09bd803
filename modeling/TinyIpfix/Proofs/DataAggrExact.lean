import TinyIpfix.Proofs.DataAggrRun

/-! What the values sent mean. The 32-bit sum does not wrap for two-byte fields, and the
start of the minimum is above every two-byte value. -/

namespace TinyIpfix.DataAggr
open CMem Transducer Window Endian

/-- The function the aggregator is configured for, over the integers. -/
def aggregate (aggrFunc : AggrFunc) (values : List Nat) : Nat :=
  match aggrFunc with
  | .avg => values.sum / values.length
  | .max => values.max?.getD 0
  | .min => values.min?.getD 0

def aggregateMessage (config : HeaderConfig) (aggrFunc : AggrFunc) (position width : UInt16) (index : Nat)
    (datagrams : List Datagram) : Message :=
  builtHeader config dataSetId (UInt16.ofNat (config.msgHeaderSize + width.toNat)) (UInt16.ofNat index) ++
    encode width.toNat (aggregate aggrFunc (datagrams.map (fieldValue config position width)))

/-- The widths for which the aggregate is exact for every value. -/
def exactWidths (aggrFunc : AggrFunc) : List UInt16 :=
  match aggrFunc with
  | .max => [1, 2, 4]
  | _ => [1, 2]

theorem folded_avg (values : List UInt32) :
    (folded .avg values).1.toNat = (values.map UInt32.toNat).sum % 2 ^ 32 := by
  induction values using List.reverseRecOn with
  | nil => rfl
  | append_singleton values value ih =>
    rw [folded_append, accumulate, UInt32.toNat_add, ih, List.map_append, List.sum_append, Nat.mod_add_mod,
      List.map_singleton, List.sum_singleton]

private theorem folded_max (values : List UInt32) :
    (folded .max values).1.toNat = (values.map UInt32.toNat).foldl max 0 := by
  induction values using List.reverseRecOn with
  | nil => rfl
  | append_singleton values value ih =>
    rw [folded_append, accumulate, max_toNat, ih, List.map_append, List.foldl_append, List.map_singleton, List.foldl_cons,
      List.foldl_nil]

theorem folded_min (values : List UInt32) :
    (folded .min values).2.toNat = (values.map UInt32.toNat).foldl min 0xffff := by
  induction values using List.reverseRecOn with
  | nil => rfl
  | append_singleton values value ih =>
    rw [folded_append, accumulate, min_toNat, ih, List.map_append, List.foldl_append, List.map_singleton, List.foldl_cons,
      List.foldl_nil]

theorem folded_min_state {values : List UInt32} (nonempty : values ≠ []) :
    (folded .min values).1 = (folded .min values).2 := by
  obtain ⟨earlier, last, rfl⟩ := (List.eq_nil_or_concat' values).resolve_left nonempty
  rw [folded_append, accumulate]

private theorem foldl_max (values : List Nat) : values.foldl max 0 = values.max?.getD 0 := by
  cases values with
  | nil => rfl
  | cons value values => rw [List.max?_cons', List.foldl_cons, Nat.zero_max, Option.getD_some]

private theorem foldl_min {values : List Nat} {start : Nat} (below : ∀ value ∈ values, value ≤ start)
    (nonempty : values ≠ []) : values.foldl min start = values.min?.getD 0 := by
  cases values with
  | nil => exact absurd rfl nonempty
  | cons value values =>
    rw [List.min?_cons', List.foldl_cons, Nat.min_eq_right (below value (by simp)), Option.getD_some]

/-- The value sent for a window is the aggregate of the values in it. -/
theorem emitted_exact (aggrFunc : AggrFunc) {degree : Nat} (positive : 1 ≤ degree) (small : degree ≤ 255)
    {values : List UInt32} (full : values.length = degree)
    (below : aggrFunc ≠ .max → ∀ value ∈ values, value.toNat ≤ 0xffff) :
    (emitted aggrFunc degree values).toNat = aggregate aggrFunc (values.map UInt32.toNat) := by
  have nonempty : values ≠ [] := by
    rintro rfl
    rw [List.length_nil] at full
    omega
  cases aggrFunc with
  | avg =>
    have bound : (values.map UInt32.toNat).sum ≤ (values.map UInt32.toNat).length * 0xffff := by
      apply List.sum_le_card_nsmul
      intro value member
      obtain ⟨original, included, rfl⟩ := List.mem_map.mp member
      exact below (by decide) original included
    rw [List.length_map, full] at bound
    rw [emitted, finish, UInt32.toNat_div, folded_avg, UInt32.toNat_ofNat_of_lt' (by simp only [UInt32.size]; omega),
      Nat.mod_eq_of_lt (by omega), aggregate, List.length_map, full]
  | max =>
    have last : emitted .max degree values = (folded .max values).1 := rfl
    rw [last, folded_max, foldl_max, aggregate]
  | min =>
    have last : emitted .min degree values = (folded .min values).1 := rfl
    rw [last, folded_min_state nonempty, folded_min, foldl_min ?_ (by simpa using nonempty), aggregate]
    intro value member
    obtain ⟨original, included, rfl⟩ := List.mem_map.mp member
    exact below (by decide) original included

private theorem fieldValue_small {config : HeaderConfig} {position width : UInt16} {datagram : Datagram}
    (narrow : width.toNat ≤ 2) (contains : Contains config position width datagram) :
    fieldValue config position width datagram ≤ 0xffff := by
  have below := fieldValue_lt contains
  have power : 256 ^ width.toNat ≤ 256 ^ 2 := Nat.pow_le_pow_right (by omega) narrow
  omega

private theorem converted_toNat {config : HeaderConfig} {position width : UInt16} {datagram : Datagram}
    (narrow : width.toNat ≤ 4) (contains : Contains config position width datagram) :
    (converted config position width datagram).toNat = fieldValue config position width datagram := by
  have below := fieldValue_lt contains
  have power : 256 ^ width.toNat ≤ 256 ^ 4 := Nat.pow_le_pow_right (by omega) narrow
  rw [converted, UInt32.toNat_ofNat_of_lt' (by simp only [UInt32.size]; omega)]

theorem converted_values {config : HeaderConfig} {position width : UInt16} {datagrams : List Datagram}
    (narrow : width.toNat ≤ 4) (contains : ∀ datagram ∈ datagrams, Contains config position width datagram) :
    (datagrams.map (converted config position width)).map UInt32.toNat =
      datagrams.map (fieldValue config position width) := by
  rw [List.map_map]
  apply List.map_congr_left
  intro datagram member
  exact converted_toNat narrow (contains datagram member)

theorem exactWidths_narrow {aggrFunc : AggrFunc} {width : UInt16} (exactly : width ∈ exactWidths aggrFunc) :
    width.toNat ≤ 4 ∧ (aggrFunc ≠ .max → width.toNat ≤ 2) := by
  cases aggrFunc
  all_goals
    simp only [exactWidths, List.mem_cons, List.not_mem_nil, or_false] at exactly
  · rcases exactly with rfl | rfl <;> simp
  · rcases exactly with rfl | rfl | rfl <;> simp
  · rcases exactly with rfl | rfl <;> simp

theorem message_exact (config : HeaderConfig) (aggrFunc : AggrFunc) {degree : Nat} (positive : 1 ≤ degree)
    (small : degree ≤ 255) {position width : UInt16} (exactly : width ∈ exactWidths aggrFunc) (index : Nat)
    {datagrams : List Datagram} (full : datagrams.length = degree)
    (contains : ∀ datagram ∈ datagrams, Contains config position width datagram) :
    message config aggrFunc degree position width index datagrams =
      aggregateMessage config aggrFunc position width index datagrams := by
  obtain ⟨narrow, short⟩ := exactWidths_narrow exactly
  rw [message, aggregateMessage, emitted_exact aggrFunc positive small (by rw [List.length_map, full]) ?_,
    converted_values narrow contains]
  intro other value member
  obtain ⟨datagram, received, rfl⟩ := List.mem_map.mp member
  rw [converted_toNat narrow (contains datagram received)]
  exact fieldValue_small (short other) (contains datagram received)

/-- Every complete window of data datagrams is sent as the exact mean, maximum or
minimum of its fields, under consecutive sequence numbers, and nothing else is sent. -/
theorem run_sends_aggregates (overshift : Overshift) (aggrFunc : AggrFunc) (config : HeaderConfig) (degree : Nat)
    (positive : 1 ≤ degree) (small : degree ≤ 255) (position width : UInt16) (exactly : width ∈ exactWidths aggrFunc)
    (memory : Nat → UInt8) (datagrams : List Datagram)
    (contains : ∀ datagram ∈ datagrams, isTemplate datagram = false → Contains config position width datagram) :
    (∃ final, run (receiver (step overshift aggrFunc config degree)) datagrams (ready position width memory) =
      .ok (final, (List.range ((dataDatagrams datagrams).length / degree)).map fun index =>
        aggregateMessage config aggrFunc position width index (window degree (dataDatagrams datagrams) index))) ∧
    ∀ index, (aggregateMessage config aggrFunc position width index
      (window degree (dataDatagrams datagrams) index)).length = config.msgHeaderSize + width.toNat := by
  have narrow := (exactWidths_narrow exactly).1
  have received : ∀ datagram ∈ dataDatagrams datagrams, Contains config position width datagram := by
    intro datagram member
    obtain ⟨arrived, data⟩ := mem_dataDatagrams.mp member
    exact contains datagram arrived data
  constructor
  · obtain ⟨final, executed⟩ := run_folds overshift aggrFunc config positive small narrow memory _ received
    refine ⟨final, ?_⟩
    rw [run_receiver, executed]
    have same : ∀ index ∈ List.range ((dataDatagrams datagrams).length / degree),
        message config aggrFunc degree position width index (window degree (dataDatagrams datagrams) index) =
          aggregateMessage config aggrFunc position width index (window degree (dataDatagrams datagrams) index) := by
      intro index member
      apply message_exact config aggrFunc positive small exactly index (window_length (List.mem_range.mp member))
      intro datagram included
      exact received datagram (mem_window included)
    rw [List.map_congr_left same]
  · intro index
    rw [aggregateMessage, List.length_append, builtHeader_length config _ (fieldHeader_accepted config narrow),
      encode_length]

def sampleReadings : List Datagram :=
  [⟨⟨[0x08, 0x05, 0x07, 1, 4], fun _ => 0⟩, by decide, by decide⟩,
    ⟨⟨[0x04, 0x04, 0, 1], fun _ => 0⟩, by decide, by decide⟩,
    ⟨⟨[0x08, 0x06, 0x09, 3, 7, 5], fun _ => 0⟩, by decide, by decide⟩]

theorem sample_mean : ∃ final,
    run (receiver (step ⟨fun _ _ => 0, fun _ _ => 0⟩ .avg HeaderConfig.sky 2)) sampleReadings (ready 0 2 fun _ => 0) =
      .ok (final, [[0x08, 0x05, 0x00, 2, 5]]) :=
  (run_sends_aggregates ⟨fun _ _ => 0, fun _ _ => 0⟩ .avg HeaderConfig.sky 2 (by decide) (by decide) 0 2 (by decide)
    (fun _ => 0) sampleReadings (by decide)).1

end TinyIpfix.DataAggr
