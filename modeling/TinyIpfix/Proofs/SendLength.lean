import TinyIpfix.Processes
import TinyIpfix.Proofs.LibraryRun

/-! The number of bytes passed to the network where it is taken from the header. Every
reader of the length keeps eight of its ten bits. -/

namespace TinyIpfix
open CMem CLoop Transducer

private theorem toUInt8_exact_iff (length : UInt16) : length.toUInt8.toNat = length.toNat ↔ length.toNat ≤ 255 := by
  rw [UInt16.toNat_toUInt8]
  omega

/-- Exactly one datagram is passed to the network, and it has this many bytes. -/
def SentWhole (size : Nat) (sent : List Message) : Prop :=
  sent.map List.length = [size]

private theorem sentWhole_low (size : UInt16) (buffer : Region) :
    SentWhole size.toNat [buffer.view size.toUInt8.toNat] ↔ size.toNat ≤ 255 := by
  simpa [SentWhole] using toUInt8_exact_iff size

section Aggregator
variable {config : HeaderConfig} {sensor : List TemplateRec} {heap : Heap} {degree : Nat}

theorem toNat_ofNat_degree (small : degree ≤ 255) : (UInt8.ofNat degree).toNat = degree :=
  UInt8.toNat_ofNat_of_lt' (by simp only [UInt8.size]; omega)

/-- The copy of the template starts with the template; behind it is whatever follows
the block it was copied from. -/
theorem MsgAggr.getAggrTemplate_ok (small : degree ≤ 255) (fits : exactTemplateSize config sensor degree ≤ maxMsgSize)
    (target : Region) (size : target.size = maxMsgSize) {library after : Library} {code : UInt8}
    (executed : initializeTinyipfix config sensor heap (UInt8.ofNat degree) library = .ok (code, after)) :
    ∃ template, MsgAggr.getAggrTemplate config sensor heap degree target library = .ok (template, after) ∧
      templateMessage config sensor degree <+: template.bytes := by
  obtain ⟨ready, block, held, content⟩ := initializeTinyipfix_template
    (by rw [toNat_ofNat_degree small]; exact fits) executed
  rw [toNat_ofNat_degree small] at content
  have handed : getTemplate after = some block := by simp [getTemplate, ready, held]
  refine ⟨⟨block.view maxMsgSize ++ target.bytes.drop maxMsgSize, target.beyond⟩, ?_, ?_⟩
  · have room : 0 + (block.view maxMsgSize).length ≤ target.size := by rw [Region.view_length, size]; simp
    simp only [getAggrTemplate, executed, ok_bind, handed, deref_some, Region.write_ok target room, pure_ok]
    simp
  · have whole : block.view (exactTemplateSize config sensor degree) = templateMessage config sensor degree := by
      rw [Region.view_take block (by rw [Region.size, content, templateMessage_length config fits]), content,
        ← templateMessage_length config fits, List.take_length]
    rw [← whole]
    exact (block.view_mono fits).trans (List.prefix_append _ _)

theorem sendAggrTemplate_eq (fits : exactTemplateSize config sensor degree ≤ maxMsgSize) {template : Region}
    (starts : templateMessage config sensor degree <+: template.bytes) :
    sendAggrTemplate template =
      .ok [template.view (UInt16.ofNat (exactTemplateSize config sensor degree)).toUInt8.toNat] := by
  rw [sendAggrTemplate, extrLenFromHeader_header config (templateHeader_accepted fits)
    ((List.prefix_append _ _).trans starts)]
  simp [msgSend]

theorem periodicSend_inv (small : degree ≤ 255) (fits : exactTemplateSize config sensor degree ≤ maxMsgSize)
    {beyond : Nat → UInt8} {sent : List Message}
    (executed : MsgAggr.periodicSend config sensor heap degree beyond = .ok sent) :
    ∃ template : Region, templateMessage config sensor degree <+: template.bytes ∧
      sent = [template.view (UInt16.ofNat (exactTemplateSize config sensor degree)).toUInt8.toNat] := by
  obtain ⟨result, got, sending⟩ := bind_inv executed
  obtain ⟨started, initialized, -⟩ := bind_inv got
  obtain ⟨template, copied, starts⟩ := MsgAggr.getAggrTemplate_ok small fits
    ⟨List.replicate maxMsgSize 0, beyond⟩ (by simp [Region.size]) initialized
  rw [copied] at got
  cases got
  cases (sendAggrTemplate_eq fits starts).symm.trans sending
  exact ⟨template, starts, rfl⟩

/-- A template size that wraps lets nothing be sent: filling the block fails. -/
theorem periodicSend_exact (small : degree ≤ 255) {size : UInt16}
    (sized : calcTemplateSize config sensor (UInt8.ofNat degree) = .ok size) {beyond : Nat → UInt8} {sent : List Message}
    (executed : MsgAggr.periodicSend config sensor heap degree beyond = .ok sent) :
    size = UInt16.ofNat (exactTemplateSize config sensor degree) ∧ exactTemplateSize config sensor degree ≤ size.toNat := by
  obtain ⟨result, got, sending⟩ := bind_inv executed
  obtain ⟨⟨code, library⟩, initialized, copied⟩ := bind_inv got
  obtain ⟨-, -, again, template, sizedAgain, built, -⟩ := initializeTinyipfix_inv initialized
  cases sized.symm.trans sizedAgain
  have covered := (buildTemplate_covered built).1
  rw [toNat_ofNat_degree small] at covered
  refine ⟨?_, covered⟩
  have short : 0 < (UInt8.ofNat degree).toNat → sensor.length < 256 := by
    intro positive
    by_contra long
    rw [calcTemplateSize_endless config (by omega) positive] at sized
    cases sized
  rw [calcTemplateSize_eq config (UInt8.ofNat degree) short, toNat_ofNat_degree small] at sized
  cases sized
  rfl

private theorem periodicSend_whole_iff (small : degree ≤ 255) {size : UInt16}
    (sized : calcTemplateSize config sensor (UInt8.ofNat degree) = .ok size) (fits : size.toNat ≤ maxMsgSize)
    {beyond : Nat → UInt8} {sent : List Message}
    (executed : MsgAggr.periodicSend config sensor heap degree beyond = .ok sent) :
    SentWhole size.toNat sent ↔ size.toNat ≤ 255 := by
  obtain ⟨rfl, covered⟩ := periodicSend_exact small sized executed
  obtain ⟨template, -, rfl⟩ := periodicSend_inv small (covered.trans fits) executed
  exact sentWhole_low _ template

theorem initializeTinyipfix_degree (heap : Heap) (small : degree ≤ 255)
    (fits : exactTemplateSize config sensor degree ≤ maxMsgSize)
    (dataFits : degree = 1 → exactDataSize config sensor ≤ maxMsgSize) :
    ∃ code library, initializeTinyipfix config sensor heap (UInt8.ofNat degree) Library.initial = .ok (code, library) := by
  by_cases collects : degree = 1
  · subst collects
    obtain ⟨template, data, executed, -⟩ := initializeTinyipfix_collecting config heap Library.initial
      (short_of_fits fits (by omega)) (dataFits rfl)
    exact ⟨0, _, executed⟩
  · have aggregates : UInt8.ofNat degree ≠ 1 := by
      intro one
      have value := congrArg UInt8.toNat one
      rw [toNat_ofNat_degree small] at value
      exact collects value
    rw [← toNat_ofNat_degree small] at fits
    obtain ⟨template, executed, -⟩ := initializeTinyipfix_aggregating config heap Library.initial aggregates
      (short_of_fits fits) (by simp only [maxMsgSize] at fits; omega)
    exact ⟨0, _, executed⟩

theorem periodicSend_ok (small : degree ≤ 255) (fits : exactTemplateSize config sensor degree ≤ maxMsgSize)
    {beyond : Nat → UInt8} (dataFits : degree = 1 → exactDataSize config sensor ≤ maxMsgSize) :
    ∃ sent, MsgAggr.periodicSend config sensor heap degree beyond = .ok sent := by
  obtain ⟨code, library, executed⟩ := initializeTinyipfix_degree heap small fits dataFits
  obtain ⟨template, copied, starts⟩ := MsgAggr.getAggrTemplate_ok small fits
    ⟨List.replicate maxMsgSize 0, beyond⟩ (by simp [Region.size]) executed
  rw [MsgAggr.periodicSend, copied]
  exact ⟨_, sendAggrTemplate_eq fits starts⟩

end Aggregator

section Collector
variable {config : HeaderConfig} {sensor : List TemplateRec}

theorem getData_keeps_template {readings : Nat → UInt64} {library after : Library} {buffer : Option Region}
    (executed : getData config sensor readings library = .ok (buffer, after)) :
    after.isInitialized = library.isInitialized ∧ after.templateBuf = library.templateBuf := by
  unfold getData at executed
  split at executed
  next closed =>
    cases executed
    exact ⟨rfl, rfl⟩
  next ready =>
    obtain ⟨data, held, afterDeref⟩ := bind_inv executed
    obtain ⟨⟨code, message, seqNum⟩, built, last⟩ := bind_inv afterDeref
    simp only [isMinusOne_eq_false, Bool.false_eq_true, ↓reduceIte] at last
    cases last
    exact ⟨rfl, rfl⟩

/-- What a wake-up of the collector can be: a look at the template or a call for data,
and one send of the buffer it got. -/
theorem unicastSenderProcess_inv {event : TimerEvent} {library after : Library} {sent : List Message}
    (executed : unicastSenderProcess config sensor event library = .ok (after, sent)) :
    ∃ reachable result, ((event = .template reachable ∧ result = getTemplate library ∧ after = library) ∨
        ∃ readings, event = .data reachable readings ∧ getData config sensor readings library = .ok (result, after)) ∧
      match result with
      | none => sent = []
      | some buffer => collectorSend reachable buffer = .ok sent := by
  cases event with
  | template reachable =>
    refine ⟨reachable, getTemplate library, ?_⟩
    simp only [unicastSenderProcess] at executed
    cases handed : getTemplate library with
    | none =>
      simp only [handed, Except.ok.injEq, Prod.mk.injEq] at executed
      exact ⟨.inl ⟨rfl, rfl, executed.1.symm⟩, executed.2.symm⟩
    | some buffer =>
      simp only [handed] at executed
      obtain ⟨messages, transmitted, last⟩ := bind_inv executed
      cases last
      exact ⟨.inl ⟨rfl, rfl, rfl⟩, transmitted⟩
  | data reachable readings =>
    obtain ⟨⟨result, next⟩, served, rest⟩ := bind_inv executed
    refine ⟨reachable, result, ?_⟩
    cases result with
    | none =>
      cases rest
      exact ⟨.inr ⟨readings, rfl, served⟩, rfl⟩
    | some buffer =>
      obtain ⟨messages, transmitted, last⟩ := bind_inv rest
      cases last
      exact ⟨.inr ⟨readings, rfl, served⟩, transmitted⟩

/-- The library with its template, as initialisation left it. -/
structure HoldsTemplate (template : Region) (library : Library) : Prop where
  ready : library.isInitialized = 1
  held : library.templateBuf = some template

theorem HoldsTemplate.handed {template : Region} {library : Library} (holds : HoldsTemplate template library) :
    getTemplate library = some template := by
  simp [getTemplate, holds.ready, holds.held]

private theorem unicastSenderProcess_keeps_template {template : Region} {event : TimerEvent} {library after : Library}
    {sent : List Message} (holds : HoldsTemplate template library)
    (executed : unicastSenderProcess config sensor event library = .ok (after, sent)) : HoldsTemplate template after := by
  obtain ⟨reachable, result, ⟨rfl, -, rfl⟩ | ⟨readings, rfl, served⟩, -⟩ := unicastSenderProcess_inv executed
  · exact holds
  · obtain ⟨ready, held⟩ := getData_keeps_template served
    exact ⟨ready.trans holds.ready, held.trans holds.held⟩

private theorem unicastSenderProcess_serves (short : sensor.length < 256) (fits : exactDataSize config sensor ≤ maxMsgSize)
    {event : TimerEvent} {library after : Library} {sent : List Message}
    (serving : ∃ served, Serving config sensor served library)
    (executed : unicastSenderProcess config sensor event library = .ok (after, sent)) :
    ∃ served, Serving config sensor served after := by
  obtain ⟨count, before⟩ := serving
  obtain ⟨reachable, result, ⟨rfl, -, rfl⟩ | ⟨readings, rfl, served⟩, -⟩ := unicastSenderProcess_inv executed
  · exact ⟨count, before⟩
  · obtain ⟨buffer, next, handed, -, -, later⟩ := getData_serves config short fits readings before
    rw [served] at handed
    cases handed
    exact ⟨count + 1, later⟩

private theorem collectorSend_second {first second : UInt8} {buffer : Region} (starts : [first, second] <+: buffer.bytes) :
    collectorSend true buffer = .ok [buffer.view second.toNat] := by
  obtain ⟨rest, bytes⟩ := starts
  have loaded : buffer.load 1 = .ok second := by
    simp [Region.load, Region.byteAt, Region.size, ← bytes]
  simp [collectorSend, loaded]

private theorem builtHeader_second {setId length : UInt16} (seqNum : UInt16) (accepted : Accepted setId length) :
    [firstByte config (shortcut setId) length, length.toUInt8] <+: builtHeader config setId length seqNum := by
  rw [builtHeader_eq config seqNum accepted]
  exact List.prefix_append _ _

theorem collectorSend_eq {setId : UInt16} {size : Nat} {seqNum : UInt16} (accepted : Accepted setId (UInt16.ofNat size))
    {buffer : Region} (starts : builtHeader config setId (UInt16.ofNat size) seqNum <+: buffer.bytes) :
    collectorSend true buffer = .ok [buffer.view (UInt16.ofNat size).toUInt8.toNat] :=
  collectorSend_second ((builtHeader_second seqNum accepted).trans starts)

/-- `buffer[1]` never asks for more than 255 bytes. -/
theorem collectorSend_short {buffer : Region} {sent : List Message} (executed : collectorSend true buffer = .ok sent)
    {size : Nat} (whole : SentWhole size sent) : size ≤ 255 := by
  obtain ⟨length, loaded, last⟩ := bind_inv executed
  cases last
  have small := length.toNat_lt
  simp only [SentWhole, List.map_cons, List.map_nil, Region.view_length, List.cons.injEq, and_true] at whole
  omega

private theorem templateSend_whole_iff (fits : exactTemplateSize config sensor 1 ≤ maxMsgSize) {template : Region}
    (content : template.bytes = templateMessage config sensor 1) {library : Library}
    (holds : HoldsTemplate template library) :
    ∃ sent, unicastSenderProcess config sensor (.template true) library = .ok (library, sent) ∧
      (SentWhole (exactTemplateSize config sensor 1) sent ↔ exactTemplateSize config sensor 1 ≤ 255) := by
  have whole := sentWhole_low (UInt16.ofNat (exactTemplateSize config sensor 1)) template
  rw [UInt16.toNat_ofNat_of_lt' (by simp only [UInt16.size, maxMsgSize] at fits ⊢; omega)] at whole
  have starts : builtHeader config templateSetId (UInt16.ofNat (exactTemplateSize config sensor 1)) 0xFFFF <+:
      template.bytes := by
    rw [content]
    exact List.prefix_append _ _
  refine ⟨_, ?_, whole⟩
  simp only [unicastSenderProcess, holds.handed, collectorSend_eq (templateHeader_accepted fits) starts, ok_bind, pure_ok]

private theorem dataSend_ok (short : sensor.length < 256) (fits : exactDataSize config sensor ≤ maxMsgSize)
    {library : Library} {served : Nat} (serving : Serving config sensor served library) (readings : Nat → UInt64) :
    ∃ after, ∃ buffer : Region, unicastSenderProcess config sensor (.data true readings) library =
      .ok (after, [buffer.view (UInt16.ofNat (exactDataSize config sensor)).toUInt8.toNat]) := by
  obtain ⟨buffer, after, handed, -, content, -⟩ := getData_serves config short fits readings serving
  refine ⟨after, buffer, ?_⟩
  simp only [unicastSenderProcess, handed, ok_bind, pure_ok,
    collectorSend_eq (dataHeader_accepted fits) ((List.prefix_append _ _).trans content)]

private theorem buildDataField_advances {header : List UInt8} {size written : Nat} {cursor next : Cursor} (small : size < 65536)
    (advanced : Advanced header size written cursor) {fieldLen : UInt16} {reading : UInt64}
    (built : buildDataField fieldLen reading cursor = .ok next) : ∃ count, Advanced header size count next := by
  unfold buildDataField at built
  split at built
  · exact ⟨_, append_advances small advanced built⟩
  · split at built
    · exact ⟨_, append_advances small advanced built⟩
    · split at built
      · exact ⟨_, append_advances small advanced built⟩
      · split at built
        · exact ⟨_, append_advances small advanced built⟩
        · cases built
          exact ⟨written, advanced⟩

private theorem updateSeqNum_behind {front : List UInt8} (two : front.length = 2) {buffer patched : Region} {dataSeqNum : UInt16}
    (starts : front <+: buffer.bytes) (updated : updateSeqNum config buffer dataSeqNum = .ok patched) :
    front <+: patched.bytes := by
  unfold updateSeqNum at updated
  split at updated
  next extended =>
    obtain ⟨high, storedHigh, storedLow⟩ := bind_inv updated
    exact Region.write_behind (Region.write_behind starts (by omega) storedHigh) (by omega) storedLow
  next => exact Region.write_behind starts (by omega) updated

/-- Whatever the payload overwrites, and also when it stops early, the first two bytes
of the header are not among it. -/
theorem buildDataPayload_behind_front {front : List UInt8} (two : front.length = 2) {readings : Nat → UInt64}
    {buffer after : Region} {dataSeqNum next : UInt16} {code : UInt8} (starts : front <+: buffer.bytes)
    (room : config.msgHeaderSize ≤ buffer.size) (small : buffer.size < 65536)
    (built : buildDataPayload config sensor readings buffer dataSeqNum = .ok (code, after, next)) :
    front <+: after.bytes ∧ after.size = buffer.size := by
  have bounds := config.msgHeaderSize_bounds
  obtain ⟨patched, updated, afterUpdate⟩ := bind_inv built
  obtain ⟨cursor, written, last⟩ := bind_inv afterUpdate
  cases last
  obtain ⟨same, again, sized⟩ := updateSeqNum_ok config room (nextSeqNum config dataSeqNum)
  cases updated.symm.trans again
  have begun : ∃ count, Advanced front buffer.size count ⟨patched, UInt16.ofNat config.msgHeaderSize⟩ :=
    ⟨config.msgHeaderSize, updateSeqNum_behind two starts updated, by omega, config.msgHeaderSize_toNat, room, sized⟩
  obtain ⟨count, advanced⟩ := forEach_history (fun _ current => ∃ count, Advanced front buffer.size count current) begun
    (fun _ _ _ _ _ _ ⟨_, held⟩ field => buildDataField_advances small held field) written
  exact ⟨advanced.starts, advanced.sized⟩

/-- The data buffer has room for a header and begins with these bytes. -/
structure HoldsFront (config : HeaderConfig) (front : List UInt8) (library : Library) : Prop where
  held : ∃ buffer, library.dataBuf = some buffer ∧ config.msgHeaderSize ≤ buffer.size ∧ buffer.size < 65536 ∧
    front <+: buffer.bytes

private theorem getData_keeps_front {front : List UInt8} (two : front.length = 2) {readings : Nat → UInt64}
    {library after : Library} {buffer : Option Region} (holds : HoldsFront config front library)
    (executed : getData config sensor readings library = .ok (buffer, after)) :
    HoldsFront config front after ∧ ∀ message, buffer = some message → front <+: message.bytes := by
  obtain ⟨block, held, room, small, starts⟩ := holds.held
  unfold getData at executed
  split at executed
  next closed =>
    cases executed
    exact ⟨holds, by simp⟩
  next ready =>
    rw [held, deref_some, ok_bind] at executed
    obtain ⟨⟨code, message, seqNum⟩, built, last⟩ := bind_inv executed
    simp only [isMinusOne_eq_false, Bool.false_eq_true, ↓reduceIte] at last
    cases last
    obtain ⟨kept, sized⟩ := buildDataPayload_behind_front two starts room small built
    refine ⟨⟨message, rfl, by rw [sized]; exact room, by rw [sized]; exact small, kept⟩, ?_⟩
    intro handed same
    cases same
    exact kept

private theorem unicastSenderProcess_keeps_front {front : List UInt8} (two : front.length = 2) {event : TimerEvent}
    {library after : Library} {sent : List Message} (holds : HoldsFront config front library)
    (executed : unicastSenderProcess config sensor event library = .ok (after, sent)) : HoldsFront config front after := by
  obtain ⟨reachable, result, ⟨rfl, -, rfl⟩ | ⟨readings, rfl, served⟩, -⟩ := unicastSenderProcess_inv executed
  · exact holds
  · exact (getData_keeps_front two holds served).1

private theorem getData_hands {readings : Nat → UInt64} {library after : Library} {buffer : Option Region}
    (ready : library.isInitialized = 1) (executed : getData config sensor readings library = .ok (buffer, after)) :
    ∃ message, buffer = some message := by
  rw [getData, if_neg (by rw [ready]; decide)] at executed
  obtain ⟨data, held, afterDeref⟩ := bind_inv executed
  obtain ⟨⟨code, message, seqNum⟩, built, last⟩ := bind_inv afterDeref
  simp only [isMinusOne_eq_false, Bool.false_eq_true, ↓reduceIte] at last
  cases last
  exact ⟨message, rfl⟩

private theorem initializeTinyipfix_dataSize (short : sensor.length < 256) {heap : Heap} {code : UInt8} {library after : Library}
    (executed : initializeTinyipfix config sensor heap 1 library = .ok (code, after)) :
    ∃ data, after.dataSize = UInt16.ofNat (exactDataSize config sensor) ∧ after.dataBuf = some data ∧
      config.msgHeaderSize ≤ data.size ∧ data.size < 65536 ∧ (after.dataSize.toNat ≤ maxMsgSize →
        builtHeader config dataSetId after.dataSize 0 <+: data.bytes) := by
  by_cases room : config.msgHeaderSize ≤ exactDataSize config sensor % 65536
  · obtain ⟨template, data, allocated, -, size, starts⟩ := initializeTinyipfix_allocates config heap library short room
    cases executed.symm.trans allocated
    refine ⟨data, rfl, rfl, by rw [size]; exact room, by rw [size]; exact Nat.mod_lt _ (by decide), ?_⟩
    rw [UInt16.toNat_ofNat']
    exact starts
  · obtain ⟨fault, outside⟩ := initializeTinyipfix_outside config heap library short (by omega)
    rw [executed] at outside
    cases outside

private theorem initializeTinyipfix_front (short : sensor.length < 256) {heap : Heap} {code : UInt8} {library after : Library}
    (executed : initializeTinyipfix config sensor heap 1 library = .ok (code, after))
    (fits : after.dataSize.toNat ≤ maxMsgSize) : ∃ first, HoldsFront config [first, after.dataSize.toUInt8] after := by
  obtain ⟨data, -, held, room, small, starts⟩ := initializeTinyipfix_dataSize short executed
  exact ⟨_, data, held, room, small, (builtHeader_second 0 ⟨by decide, fits⟩).trans (starts fits)⟩

/-- The length byte of an accepted size is never written again; a rejected one asks for
more bytes than a length byte can. -/
theorem dataSend_whole_iff {size : UInt16} {library after : Library} (ready : library.isInitialized = 1)
    (holds : size.toNat ≤ maxMsgSize → ∃ first, HoldsFront config [first, size.toUInt8] library)
    {readings : Nat → UInt64} {sent : List Message}
    (executed : unicastSenderProcess config sensor (.data true readings) library = .ok (after, sent)) :
    SentWhole size.toNat sent ↔ size.toNat ≤ 255 := by
  obtain ⟨reachable, result, ⟨event, -⟩ | ⟨later, event, served⟩, transmitted⟩ := unicastSenderProcess_inv executed
  · cases event
  · cases event
    constructor
    · intro whole
      cases result with
      | none =>
        rw [show sent = [] from transmitted] at whole
        cases whole
      | some buffer => exact collectorSend_short transmitted whole
    · intro small
      obtain ⟨first, holding⟩ := holds (by simp only [maxMsgSize]; omega)
      obtain ⟨buffer, rfl⟩ := getData_hands ready served
      have starts := (getData_keeps_front rfl holding served).2 buffer rfl
      cases (collectorSend_second starts).symm.trans transmitted
      exact (sentWhole_low size buffer).mpr small

private theorem collector_run (fits : exactTemplateSize config sensor 1 ≤ maxMsgSize) {heap : Heap} {code : UInt8}
    {library current : Library}
    (initialized : initializeTinyipfix config sensor heap 1 Library.initial = .ok (code, library))
    {events : List TimerEvent} {earlier : List Message}
    (executed : run (unicastSenderProcess config sensor) events library = .ok (current, earlier)) :
    (∃ template, template.bytes = templateMessage config sensor 1 ∧ HoldsTemplate template current) ∧
      (library.dataSize.toNat ≤ maxMsgSize → ∃ first, HoldsFront config [first, library.dataSize.toUInt8] current) ∧
      (exactDataSize config sensor ≤ maxMsgSize → ∃ served, Serving config sensor served current) := by
  have short := short_of_fits fits (by omega)
  refine ⟨?_, ?_, ?_⟩
  · have fitsOne : exactTemplateSize config sensor (1 : UInt8).toNat ≤ maxMsgSize := fits
    obtain ⟨ready, template, held, content⟩ := initializeTinyipfix_template fitsOne initialized
    refine ⟨template, content, run_invariant (HoldsTemplate template) ?_ ⟨ready, held⟩ executed⟩
    intro event _ library after sent holds stepped
    exact unicastSenderProcess_keeps_template holds stepped
  · intro accepted
    obtain ⟨first, holds⟩ := initializeTinyipfix_front short initialized accepted
    refine ⟨first, run_invariant (HoldsFront config [first, library.dataSize.toUInt8]) ?_ holds executed⟩
    intro event _ library after sent before stepped
    exact unicastSenderProcess_keeps_front rfl before stepped
  · intro dataFits
    obtain ⟨same, started, serving⟩ := serving_initially config short dataFits heap
    rw [initialized] at started
    cases started
    refine run_invariant (fun library => ∃ served, Serving config sensor served library) ?_ ⟨0, serving⟩ executed
    intro event _ library after sent before stepped
    exact unicastSenderProcess_serves short dataFits before stepped

end Collector

/-- Reading the length back and sending that many bytes is right up to 255 bytes, at
each of the places where it is done. -/
theorem sends_whole_iff (config : HeaderConfig) (sensor : List TemplateRec) (heap : Heap) :
    (∀ (buf : Region) (setId length seqNum : UInt16), Accepted setId length → config.msgHeaderSize ≤ buf.size →
      ((∃ after value, buildMsgHeader config buf setId length seqNum = .ok (0, after) ∧
        extrLenFromHeader after = .ok value ∧ value.toNat = length.toNat) ↔ length.toNat ≤ 255)) ∧
    (∀ degree beyond, degree ≤ 255 →
      (∀ size, calcTemplateSize config sensor (UInt8.ofNat degree) = .ok size → size.toNat ≤ maxMsgSize →
        ∀ sent, MsgAggr.periodicSend config sensor heap degree beyond = .ok sent →
          (SentWhole size.toNat sent ↔ size.toNat ≤ 255)) ∧
      (exactTemplateSize config sensor degree ≤ maxMsgSize → (degree = 1 → exactDataSize config sensor ≤ maxMsgSize) →
        ∃ sent, MsgAggr.periodicSend config sensor heap degree beyond = .ok sent)) ∧
    (exactTemplateSize config sensor 1 ≤ maxMsgSize → ∀ code library,
      initializeTinyipfix config sensor heap 1 Library.initial = .ok (code, library) →
      calcDataSize config sensor = .ok library.dataSize ∧ ∀ events current earlier,
      run (unicastSenderProcess config sensor) events library = .ok (current, earlier) →
      (∃ sent, unicastSenderProcess config sensor (.template true) current = .ok (current, sent) ∧
        (SentWhole (exactTemplateSize config sensor 1) sent ↔ exactTemplateSize config sensor 1 ≤ 255)) ∧
      ∀ readings,
        (∀ after sent, unicastSenderProcess config sensor (.data true readings) current = .ok (after, sent) →
          (SentWhole library.dataSize.toNat sent ↔ library.dataSize.toNat ≤ 255)) ∧
        (exactDataSize config sensor ≤ maxMsgSize →
          ∃ after sent, unicastSenderProcess config sensor (.data true readings) current = .ok (after, sent))) := by
  refine ⟨?_, ?_, ?_⟩
  · intro buf setId length seqNum accepted room
    have built := buildMsgHeader_ok config buf seqNum accepted room
    rw [← toUInt8_exact_iff]
    constructor
    · rintro ⟨after, value, executed, read, same⟩
      rw [built] at executed
      cases executed
      rw [extrLenFromHeader_header config accepted (List.prefix_append _ _)] at read
      cases read
      exact same
    · intro same
      exact ⟨_, _, built, extrLenFromHeader_header config accepted (List.prefix_append _ _), same⟩
  · intro degree beyond small
    exact ⟨fun size sized fits sent executed => periodicSend_whole_iff small sized fits executed,
      fun fits => periodicSend_ok small fits⟩
  · intro fits code library initialized
    have short := short_of_fits fits (by omega)
    obtain ⟨-, kept, -⟩ := initializeTinyipfix_dataSize short initialized
    refine ⟨by rw [kept]; exact calcDataSize_eq config short, ?_⟩
    intro events current earlier executed
    obtain ⟨⟨template, content, holds⟩, front, serving⟩ := collector_run fits initialized executed
    refine ⟨templateSend_whole_iff fits content holds, fun readings => ⟨?_, ?_⟩⟩
    · intro after sent stepped
      exact dataSend_whole_iff holds.ready front stepped
    · intro dataFits
      obtain ⟨served, before⟩ := serving dataFits
      obtain ⟨after, buffer, stepped⟩ := dataSend_ok short dataFits before readings
      exact ⟨after, _, stepped⟩

/-- A header for 256 bytes is read back as one for none, and the template for four
copies of the table of sky.c is cut off behind 7 of its 263 bytes. -/
theorem template_cut_off :
    extrLenFromHeader ⟨builtHeader HeaderConfig.sky dataSetId 256 0, fun _ => 0⟩ = .ok 0 ∧
    exactTemplateSize HeaderConfig.sky initTemplate 4 = 263 ∧
    ¬ ∃ sent, MsgAggr.periodicSend HeaderConfig.sky initTemplate ⟨fun _ => 0, fun _ => 0⟩ 4 (fun _ => 0) = .ok sent ∧
      SentWhole (exactTemplateSize HeaderConfig.sky initTemplate 4) sent := by
  refine ⟨by decide, by decide, ?_⟩
  rintro ⟨sent, executed, whole⟩
  have sized : calcTemplateSize HeaderConfig.sky initTemplate (UInt8.ofNat 4) = .ok 263 :=
    calcTemplateSize_eq _ _ (by decide)
  exact absurd ((periodicSend_whole_iff (by decide) sized (by decide) executed).mp whole) (by decide)

end TinyIpfix
