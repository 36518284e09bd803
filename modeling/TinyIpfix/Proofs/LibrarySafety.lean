import TinyIpfix.Proofs.LibraryRun

/-! All call orders of the library. One flag guards two buffers, of which initialisation
with a degree other than 1 allocates only the first. -/

namespace TinyIpfix
open CMem Transducer

def Initialises (calls : List Call) : Prop :=
  ∃ heap degAggr, Call.initializeTinyipfix heap degAggr ∈ calls

/-- One of the calls initialises the library of a collector. -/
def Collects (calls : List Call) : Prop :=
  ∃ heap, Call.initializeTinyipfix heap 1 ∈ calls

/-- A call of `getData` returns `NULL` and writes nothing, or it fills the block of
`dataSize` bytes with a message of the next number. -/
def SafeGetData (config : HeaderConfig) (sensor : List TemplateRec) (readings : Nat → UInt64) (library : Library) :
    Prop :=
  getData config sensor readings library = .ok (none, library) ∨
    ∃ block buffer after, library.dataBuf = some block ∧ block.size = library.dataSize.toNat ∧
      library.dataSize.toNat = exactDataSize config sensor ∧
      getData config sensor readings library = .ok (some buffer, after) ∧
      buffer.bytes = builtHeader config dataSetId library.dataSize (nextSeqNum config library.dataSeqNum) ++
        dataBytes sensor readings

/-- Every call of `getData` in a sequence is reached without a fault and safe. -/
def GetDataSafe (config : HeaderConfig) (sensor : List TemplateRec) (calls : List Call) : Prop :=
  ∀ before readings after, calls = before ++ Call.getData readings :: after → ∃ library replies,
    run (call config sensor) before Library.initial = .ok (library, replies) ∧ SafeGetData config sensor readings library

/-- The data buffer of a collector, with a header of some number in it. -/
structure Allocated (config : HeaderConfig) (sensor : List TemplateRec) (library : Library) : Prop where
  short : sensor.length < 256
  sized : library.dataSize = UInt16.ofNat (exactDataSize config sensor)
  held : ∃ block old, library.dataBuf = some block ∧ block.size = exactDataSize config sensor ∧
    builtHeader config dataSetId (UInt16.ofNat (exactDataSize config sensor)) old <+: block.bytes

/-- What the calls made so far say about the flag and the data buffer. -/
structure Recorded (config : HeaderConfig) (sensor : List TemplateRec) (calls : List Call) (library : Library) : Prop where
  closed : ¬ Initialises calls → library.isInitialized = 0
  opened : Initialises calls → library.isInitialized = 1
  unallocated : ¬ Collects calls → library.dataBuf = none
  allocated : Collects calls → Allocated config sensor library

private theorem recorded_initial (config : HeaderConfig) (sensor : List TemplateRec) :
    Recorded config sensor [] Library.initial := by
  refine ⟨fun _ => rfl, ?_, fun _ => rfl, ?_⟩
  · rintro ⟨heap, degAggr, member⟩
    cases member
  · rintro ⟨heap, member⟩
    cases member

private theorem Collects.initialises {calls : List Call} (collects : Collects calls) : Initialises calls := by
  obtain ⟨heap, member⟩ := collects
  exact ⟨heap, 1, member⟩

section Steps
variable {config : HeaderConfig} {sensor : List TemplateRec} (supported : Supported sensor)
  (fits : exactDataSize config sensor ≤ maxMsgSize) {calls : List Call} {library : Library}
  (recorded : Recorded config sensor calls library)

include recorded in
private theorem getData_closed (fresh : ¬ Initialises calls) (readings : Nat → UInt64) :
    getData config sensor readings library = .ok (none, library) :=
  if_pos (recorded.closed fresh)

include recorded in
/-- The flag is set and the pointer is still `NULL`. -/
theorem getData_null (opened : Initialises calls) (aggregates : ¬ Collects calls) (readings : Nat → UInt64) :
    getData config sensor readings library = .error .nullPointer := by
  rw [getData, if_neg (by rw [recorded.opened opened]; decide), recorded.unallocated aggregates]
  rfl

include supported fits recorded in
private theorem getData_allocated (collects : Collects calls) (readings : Nat → UInt64) :
    ∃ block buffer after, library.dataBuf = some block ∧ block.size = exactDataSize config sensor ∧
      getData config sensor readings library = .ok (some buffer, after) ∧
      buffer.bytes = builtHeader config dataSetId library.dataSize (nextSeqNum config library.dataSeqNum) ++
        dataBytes sensor readings ∧
      after.isInitialized = library.isInitialized ∧ Allocated config sensor after := by
  obtain ⟨short, sized, block, old, held, size, starts⟩ := recorded.allocated collects
  obtain ⟨buffer, built, kept, content⟩ :=
    buildDataPayload_headed config short fits readings size starts library.dataSeqNum
  refine ⟨block, buffer, { library with
    dataBuf := some buffer, dataSeqNum := nextSeqNum config library.dataSeqNum }, held, size,
    getData_ok (recorded.opened collects.initialises) held built, ?_, rfl, short, sized,
    buffer, _, rfl, kept, (List.prefix_append _ _).trans content⟩
  rw [sized]
  refine (content.eq_of_length ?_).symm
  rw [List.length_append, builtHeader_length config _ (dataHeader_accepted fits), dataBytes_length supported,
    ← exactDataSize]
  exact kept.symm

private theorem initialize_mem_getter {request : Call} (getter : request.Getter) (heap : Heap) (degAggr : UInt8) :
    Call.initializeTinyipfix heap degAggr ∈ calls ++ [request] ↔ Call.initializeTinyipfix heap degAggr ∈ calls := by
  constructor
  · intro member
    rcases List.mem_append.mp member with earlier | last
    · exact earlier
    · rw [← List.mem_singleton.mp last] at getter
      exact getter.elim
  · intro member
    exact List.mem_append_left _ member

private theorem initialises_getter {request : Call} (getter : request.Getter) :
    Initialises (calls ++ [request]) ↔ Initialises calls := by
  simp only [Initialises, initialize_mem_getter getter]

private theorem collects_getter {request : Call} (getter : request.Getter) : Collects (calls ++ [request]) ↔ Collects calls := by
  simp only [Collects, initialize_mem_getter getter]

include recorded in
theorem Recorded.getter {request : Call} (getter : request.Getter) :
    Recorded config sensor (calls ++ [request]) library := by
  refine ⟨?_, ?_, ?_, ?_⟩
  · rw [initialises_getter getter]
    exact recorded.closed
  · rw [initialises_getter getter]
    exact recorded.opened
  · rw [collects_getter getter]
    exact recorded.unallocated
  · rw [collects_getter getter]
    exact recorded.allocated

include fits recorded in
/-- Initialisation with a template that fits succeeds in every state; with a degree
other than 1 it leaves the data buffer as it was. -/
theorem initialize_recorded (heap : Heap) {degAggr : UInt8}
    (templateFits : exactTemplateSize config sensor degAggr.toNat ≤ maxMsgSize) :
    ∃ after, call config sensor (.initializeTinyipfix heap degAggr) library = .ok (after, [.code 0]) ∧
      Recorded config sensor (calls ++ [.initializeTinyipfix heap degAggr]) after := by
  have initialises : Initialises (calls ++ [.initializeTinyipfix heap degAggr]) := ⟨heap, degAggr, by simp⟩
  by_cases collecting : degAggr = 1
  · subst collecting
    have short := short_of_fits templateFits (by decide)
    obtain ⟨template, data, executed, -, size, starts⟩ :=
      initializeTinyipfix_collecting config heap library short fits
    have collects : Collects (calls ++ [.initializeTinyipfix heap 1]) := ⟨heap, by simp⟩
    refine ⟨_, by rw [call, executed]; rfl, fun fresh => absurd initialises fresh, fun _ => rfl,
      fun aggregates => absurd collects aggregates, fun _ => ⟨short, rfl, data, 0, rfl, size, starts⟩⟩
  · obtain ⟨template, executed, -⟩ := initializeTinyipfix_aggregating config heap library collecting
      (short_of_fits templateFits) (by simp only [maxMsgSize] at templateFits; omega)
    refine ⟨_, by rw [call, executed]; rfl, fun fresh => absurd initialises fresh, fun _ => rfl, ?_, ?_⟩
    · intro aggregates
      apply recorded.unallocated
      rintro ⟨earlier, member⟩
      exact aggregates ⟨earlier, List.mem_append_left _ member⟩
    · rintro ⟨earlier, member⟩
      rcases List.mem_append.mp member with before | last
      · obtain ⟨short, sized, held⟩ := recorded.allocated ⟨earlier, before⟩
        exact ⟨short, sized, held⟩
      · cases List.mem_singleton.mp last
        exact absurd rfl collecting

include supported fits recorded in
private theorem getData_safe_iff_recorded (readings : Nat → UInt64) :
    SafeGetData config sensor readings library ↔ (Initialises calls → Collects calls) := by
  constructor
  · intro safe opened
    by_contra aggregates
    have null := getData_null recorded opened aggregates readings
    rcases safe with closed | ⟨block, buffer, after, -, -, -, filled, -⟩
    · rw [null] at closed
      cases closed
    · rw [null] at filled
      cases filled
  · intro collects
    by_cases opened : Initialises calls
    · obtain ⟨short, sized, -⟩ := recorded.allocated (collects opened)
      obtain ⟨block, buffer, after, held, size, served, content, -⟩ :=
        getData_allocated supported fits recorded (collects opened) readings
      have value : library.dataSize.toNat = exactDataSize config sensor := by
        rw [sized, UInt16.toNat_ofNat_of_lt' (exactDataSize_lt config short supported)]
      exact .inr ⟨block, buffer, after, held, size.trans value.symm, value, served, content⟩
    · exact .inl (getData_closed recorded opened readings)

include supported fits recorded in
private theorem getData_recorded (collects : Initialises calls → Collects calls) (readings : Nat → UInt64) :
    ∃ after replies, call config sensor (.getData readings) library = .ok (after, replies) ∧
      Recorded config sensor (calls ++ [.getData readings]) after := by
  by_cases opened : Initialises calls
  · obtain ⟨block, buffer, after, -, -, served, -, flag, allocated⟩ :=
      getData_allocated supported fits recorded (collects opened) readings
    have kept : Recorded config sensor calls after :=
      ⟨fun fresh => absurd opened fresh, fun _ => flag.trans (recorded.opened opened),
        fun aggregates => absurd (collects opened) aggregates, fun _ => allocated⟩
    exact ⟨after, _, by rw [call, served]; rfl, kept.getter trivial⟩
  · exact ⟨library, _, by rw [call, getData_closed recorded opened]; rfl, recorded.getter trivial⟩

end Steps

/-- A sequence of calls runs to its end, or up to a call of `getData` behind an
initialisation that allocated no data buffer. -/
theorem run_cases {config : HeaderConfig} {sensor : List TemplateRec} (supported : Supported sensor)
    (fits : exactDataSize config sensor ≤ maxMsgSize) (calls : List Call)
    (templates : ∀ heap degAggr, Call.initializeTinyipfix heap degAggr ∈ calls →
      exactTemplateSize config sensor degAggr.toNat ≤ maxMsgSize) :
    (∃ library replies, run (call config sensor) calls Library.initial = .ok (library, replies) ∧
      Recorded config sensor calls library) ∨
    ∃ before readings after library replies, calls = before ++ Call.getData readings :: after ∧
      run (call config sensor) before Library.initial = .ok (library, replies) ∧
      Recorded config sensor before library ∧ Initialises before ∧ ¬ Collects before := by
  induction calls using List.reverseRecOn with
  | nil => exact .inl ⟨_, _, rfl, recorded_initial config sensor⟩
  | append_singleton calls request ih =>
    rcases ih fun heap degAggr member => templates heap degAggr (List.mem_append_left _ member) with
      ⟨library, replies, executed, recorded⟩ | ⟨before, readings, after, library, replies, rfl, rest⟩
    · cases request with
      | initializeTinyipfix heap degAggr =>
        obtain ⟨next, stepped, kept⟩ := initialize_recorded fits recorded heap (templates heap degAggr (by simp))
        exact .inl ⟨next, _, run_append_ok executed (run_singleton stepped), kept⟩
      | getTemplate =>
        have stepped : call config sensor .getTemplate library = .ok (library, [.template (getTemplate library)]) := rfl
        exact .inl ⟨library, _, run_append_ok executed (run_singleton stepped), recorded.getter trivial⟩
      | getData readings =>
        by_cases collects : Initialises calls → Collects calls
        · obtain ⟨next, out, stepped, kept⟩ := getData_recorded supported fits recorded collects readings
          exact .inl ⟨next, _, run_append_ok executed (run_singleton stepped), kept⟩
        · rw [Classical.not_imp] at collects
          exact .inr ⟨calls, readings, [], library, replies, rfl, executed, recorded, collects⟩
    · exact .inr ⟨before, readings, after ++ [request], library, replies, by simp, rest⟩

/-- Calls for data are safe in exactly the sequences in which none comes after an
initialisation without one for a collector among the calls before it. -/
theorem getData_safe_iff (config : HeaderConfig) (sensor : List TemplateRec) (supported : Supported sensor)
    (fits : exactDataSize config sensor ≤ maxMsgSize) (calls : List Call)
    (templates : ∀ heap degAggr, Call.initializeTinyipfix heap degAggr ∈ calls →
      exactTemplateSize config sensor degAggr.toNat ≤ maxMsgSize) :
    GetDataSafe config sensor calls ↔
      ∀ before readings after, calls = before ++ Call.getData readings :: after → Initialises before → Collects before := by
  constructor
  · rintro safe before readings after rfl
    rcases run_cases supported fits before fun heap degAggr member =>
        templates heap degAggr (List.mem_append_left _ member) with
      ⟨library, replies, executed, recorded⟩ | ⟨early, sooner, late, library, replies, rfl, executed, recorded, stuck⟩
    · obtain ⟨same, out, again, held⟩ := safe before readings after rfl
      rw [executed] at again
      cases again
      exact (getData_safe_iff_recorded supported fits recorded readings).mp held
    · obtain ⟨same, out, again, held⟩ := safe early sooner (late ++ Call.getData readings :: after) (by simp)
      rw [executed] at again
      cases again
      have collects := (getData_safe_iff_recorded supported fits recorded sooner).mp held
      exact absurd (collects stuck.1) stuck.2
  · rintro collects before readings after rfl
    rcases run_cases supported fits before fun heap degAggr member =>
        templates heap degAggr (List.mem_append_left _ member) with
      ⟨library, replies, executed, recorded⟩ | ⟨early, sooner, late, library, replies, rfl, -, -, opened, aggregates⟩
    · exact ⟨library, replies, executed, (getData_safe_iff_recorded supported fits recorded readings).mpr
        (collects before readings after rfl)⟩
    · exact absurd (collects early sooner (late ++ Call.getData readings :: after) (by simp) opened) aggregates

/-- A collector that initialises again as an aggregator keeps its data buffer. -/
theorem sample_call_order : GetDataSafe HeaderConfig.sky initTemplate
    [.initializeTinyipfix ⟨fun _ => 1, fun _ => 2⟩ 1, .initializeTinyipfix ⟨fun _ => 3, fun _ => 4⟩ 3,
      .getData fun _ => 5] := by
  apply (getData_safe_iff HeaderConfig.sky initTemplate (by decide) (by decide) _ ?_).mpr
  · intro before readings after shape _
    refine ⟨⟨fun _ => 1, fun _ => 2⟩, ?_⟩
    cases before with
    | nil => cases shape
    | cons request before =>
      obtain ⟨rfl, -⟩ := List.cons.inj shape
      simp
  · intro heap degAggr member
    simp only [List.mem_cons, Call.initializeTinyipfix.injEq, List.not_mem_nil, or_false, reduceCtorEq] at member
    rcases member with ⟨-, rfl⟩ | ⟨-, rfl⟩ <;> decide

/-- The library of an aggregator dereferences `NULL` at the first call for data. -/
theorem aggregator_data_null : ¬ GetDataSafe HeaderConfig.sky initTemplate
    [.initializeTinyipfix ⟨fun _ => 0, fun _ => 0⟩ 2, .getData fun _ => 0] := by
  intro safe
  obtain ⟨library, replies, executed, held⟩ := safe [.initializeTinyipfix ⟨fun _ => 0, fun _ => 0⟩ 2] (fun _ => 0) [] rfl
  have started := recorded_initial HeaderConfig.sky initTemplate
  obtain ⟨after, stepped, recorded⟩ := initialize_recorded (by decide) started ⟨fun _ => 0, fun _ => 0⟩
    (show exactTemplateSize HeaderConfig.sky initTemplate (2 : UInt8).toNat ≤ maxMsgSize by decide)
  cases (run_singleton stepped).symm.trans executed
  have aggregates : ¬ Collects [.initializeTinyipfix ⟨fun _ => 0, fun _ => 0⟩ 2] := by simp [Collects]
  exact aggregates ((getData_safe_iff_recorded (by decide) (by decide) recorded fun _ => 0).mp held
    ⟨⟨fun _ => 0, fun _ => 0⟩, 2, by simp⟩)

end TinyIpfix
