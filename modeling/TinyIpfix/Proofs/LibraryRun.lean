import TinyIpfix.Proofs.LibraryInit
import TinyIpfix.Lib.Transducer

/-! Runs of a collector's library. After initialisation, any number of templates and
data messages is handed out, and the data messages count up. -/

namespace TinyIpfix
open CMem Transducer

/-- The readings of a call for data. -/
def Call.readings? : Call → Option (Nat → UInt64)
  | .getData readings => some readings
  | _ => none

/-- The call asks for a template or for data. -/
def Call.Getter : Call → Prop
  | .initializeTinyipfix _ _ => False
  | _ => True

def Reply.data? : Reply → Option (Option Region)
  | .data buffer => some buffer
  | _ => none

/-- The data requested by a run of calls, in order. -/
def requests (calls : List Call) : List (Nat → UInt64) :=
  calls.filterMap Call.readings?

/-- The buffers returned by the calls of `getData`, in order. -/
def dataBuffers (replies : List Reply) : List (Option Region) :=
  replies.filterMap Reply.data?

/-- The library of a collector that has handed out `served` data messages. -/
structure Serving (config : HeaderConfig) (sensor : List TemplateRec) (served : Nat) (library : Library) : Prop where
  ready : library.isInitialized = 1
  numbered : library.dataSeqNum = UInt16.ofNat (served % seqModulus config)
  held : ∃ buffer, library.dataBuf = some buffer ∧ buffer.size = exactDataSize config sensor ∧
    builtHeader config dataSetId (UInt16.ofNat (exactDataSize config sensor))
      (UInt16.ofNat (served % seqModulus config)) <+: buffer.bytes

theorem getData_ok {config : HeaderConfig} {sensor : List TemplateRec} {readings : Nat → UInt64} {library : Library}
    {block after : Region} {dataSeqNum : UInt16} (ready : library.isInitialized = 1) (held : library.dataBuf = some block)
    (built : buildDataPayload config sensor readings block library.dataSeqNum = .ok (0, after, dataSeqNum)) :
    getData config sensor readings library = .ok (some after, { library with dataBuf := some after, dataSeqNum }) := by
  rw [getData, if_neg (by rw [ready]; decide), held, deref_some, ok_bind, built]
  simp only [ok_bind, isMinusOne_eq_false, Bool.false_eq_true, ↓reduceIte, pure_ok]

section Run
variable (config : HeaderConfig) {sensor : List TemplateRec} (short : sensor.length < 256)
  (fits : exactDataSize config sensor ≤ maxMsgSize)
include short fits

theorem serving_initially (heap : Heap) :
    ∃ library, initializeTinyipfix config sensor heap 1 Library.initial = .ok (0, library) ∧
      Serving config sensor 0 library := by
  obtain ⟨template, data, executed, -, size, starts⟩ :=
    initializeTinyipfix_collecting config heap Library.initial short fits
  refine ⟨_, executed, rfl, by simp [Library.initial], data, rfl, size, ?_⟩
  rw [Nat.zero_mod]
  exact starts

theorem getData_serves (readings : Nat → UInt64) {served : Nat} {library : Library}
    (serving : Serving config sensor served library) :
    ∃ buffer after, getData config sensor readings library = .ok (some buffer, after) ∧
      buffer.size = exactDataSize config sensor ∧ dataMessage config sensor (served + 1) readings <+: buffer.bytes ∧
      Serving config sensor (served + 1) after := by
  obtain ⟨buffer, held, size, starts⟩ := serving.held
  obtain ⟨after, payload, kept, content⟩ := buildDataPayload_ok config short fits readings size served starts
  rw [← serving.numbered] at payload
  exact ⟨after, { library with
    dataBuf := some after, dataSeqNum := UInt16.ofNat ((served + 1) % seqModulus config) },
    getData_ok serving.ready held payload, kept, content, serving.ready, rfl, after, rfl, kept,
    (List.prefix_append _ _).trans content⟩

/-- With supported widths there is nothing behind the message. -/
theorem getData_message (supported : Supported sensor) (readings : Nat → UInt64) {served : Nat} {library : Library}
    (serving : Serving config sensor served library) :
    ∃ buffer after, getData config sensor readings library = .ok (some buffer, after) ∧
      buffer.bytes = dataMessage config sensor (served + 1) readings ∧ Serving config sensor (served + 1) after := by
  obtain ⟨buffer, after, handed, size, content, next⟩ := getData_serves config short fits readings serving
  have whole := content.eq_of_length ((dataMessage_length config supported fits _ _).trans size.symm)
  exact ⟨buffer, after, handed, whole.symm, next⟩

/-- Every call for data of a run is answered with the message of its own number. -/
theorem run_serves (supported : Supported sensor) {library : Library} (serving : Serving config sensor 0 library)
    (calls : List Call) (getters : ∀ request ∈ calls, request.Getter) :
    ∃ final replies, run (call config sensor) calls library = .ok (final, replies) ∧
      Serving config sensor (requests calls).length final ∧
      (dataBuffers replies).map (Option.map Region.bytes) =
        (requests calls).mapIdx fun index readings => some (dataMessage config sensor (index + 1) readings) := by
  induction calls using List.reverseRecOn with
  | nil => exact ⟨library, [], rfl, serving, rfl⟩
  | append_singleton calls request ih =>
    obtain ⟨middle, replies, executed, kept, answered⟩ := ih (fun earlier member => getters earlier (by simp [member]))
    cases request with
    | initializeTinyipfix heap degAggr => exact absurd (getters (.initializeTinyipfix heap degAggr) (by simp)) id
    | getTemplate =>
      have stepped : call config sensor .getTemplate middle = .ok (middle, [.template (getTemplate middle)]) := rfl
      refine ⟨middle, _, run_append_ok executed (run_singleton stepped), ?_, ?_⟩
      · simpa [requests, Call.readings?, List.filterMap_cons] using kept
      · simpa [requests, dataBuffers, Call.readings?, Reply.data?, List.filterMap_cons] using answered
    | getData readings =>
      obtain ⟨buffer, after, served, whole, next⟩ := getData_message config short fits supported readings kept
      have stepped : call config sensor (.getData readings) middle = .ok (after, [.data (some buffer)]) := by
        rw [call, served]
        rfl
      refine ⟨after, _, run_append_ok executed (run_singleton stepped), ?_, ?_⟩
      · simpa [requests, Call.readings?, List.filterMap_cons] using next
      · simp only [requests, dataBuffers] at answered whole
        simp [requests, dataBuffers, Call.readings?, Reply.data?, answered, whole]

end Run

/-- The header of every data message handed out is the one `buildMsgHeader` would write
anew for its number, past every wrap of the sequence number. -/
theorem getData_rebuilds_header (config : HeaderConfig) (sensor : List TemplateRec) (supported : Supported sensor)
    (fits : exactDataSize config sensor ≤ maxMsgSize) (heap : Heap) :
    (sensor.length < 256 → ∃ library, initializeTinyipfix config sensor heap 1 Library.initial = .ok (0, library) ∧
      ∀ calls, (∀ request ∈ calls, request.Getter) → ∃ final replies,
        run (call config sensor) calls library = .ok (final, replies) ∧
        (dataBuffers replies).length = (requests calls).length ∧
        ∀ index buffer, (dataBuffers replies)[index]? = some buffer → ∃ message, buffer = some message ∧
          message.bytes.take config.msgHeaderSize = builtHeader config dataSetId
            (UInt16.ofNat (exactDataSize config sensor)) (UInt16.ofNat ((index + 1) % seqModulus config))) ∧
    (256 ≤ sensor.length → initializeTinyipfix config sensor heap 1 Library.initial = .error .endlessLoop) := by
  refine ⟨?_, fun long => initializeTinyipfix_endless config long heap (by decide) _⟩
  intro short
  obtain ⟨library, initialized, serving⟩ := serving_initially config short fits heap
  refine ⟨library, initialized, ?_⟩
  intro calls getters
  obtain ⟨final, replies, executed, -, answered⟩ := run_serves config short fits supported serving calls getters
  have counted : (dataBuffers replies).length = (requests calls).length := by
    simpa using congrArg List.length answered
  refine ⟨final, replies, executed, counted, ?_⟩
  intro index buffer found
  have entry := congrArg (fun messages => messages[index]?) answered
  simp only [List.getElem?_map, found, Option.map_some, List.getElem?_mapIdx] at entry
  cases requested : (requests calls)[index]? with
  | none => simp [requested] at entry
  | some readings =>
    cases buffer with
    | none => simp [requested] at entry
    | some message =>
      simp only [requested, Option.map_some, Option.some.injEq] at entry
      refine ⟨message, rfl, ?_⟩
      rw [entry, dataMessage]
      exact List.take_left' (builtHeader_length config _ (dataHeader_accepted fits))

theorem sample_headers : ∃ library,
    initializeTinyipfix ⟨true, false⟩ initTemplate ⟨fun _ => 7, fun _ => 9⟩ 1 Library.initial = .ok (0, library) ∧
      ∃ final replies, run (call ⟨true, false⟩ initTemplate)
        [.getData fun _ => 1, .getTemplate, .getData fun _ => 2] library = .ok (final, replies) ∧
        (dataBuffers replies).length = 2 ∧
        ∀ buffer, (dataBuffers replies)[1]? = some buffer → ∃ message, buffer = some message ∧
          message.bytes.take 4 = [0x48, 21, 0, 2] := by
  obtain ⟨library, initialized, served⟩ := (getData_rebuilds_header ⟨true, false⟩ initTemplate (by decide) (by decide)
    ⟨fun _ => 7, fun _ => 9⟩).1 (by decide)
  obtain ⟨final, replies, executed, counted, headers⟩ := served [.getData fun _ => 1, .getTemplate, .getData fun _ => 2]
    (by simp [Call.Getter])
  exact ⟨library, initialized, final, replies, executed, counted, headers 1⟩

end TinyIpfix
