import TinyIpfix.Proofs.SendLength

/-! What is sent does not depend on what memory held before: all of it was written by the
functions that build the messages, also where more is copied than was allocated. -/

namespace TinyIpfix
open CMem CLoop Transducer

/-- The sizes that initialisation computes are at most that of a message. -/
structure SizesAccepted (config : HeaderConfig) (sensor : List TemplateRec) (degAggr : UInt8) : Prop where
  template : ∃ size, calcTemplateSize config sensor degAggr = .ok size ∧ size.toNat ≤ maxMsgSize
  data : degAggr = 1 → ∃ size, calcDataSize config sensor = .ok size ∧ size.toNat ≤ maxMsgSize

section Sizes
variable {config : HeaderConfig} {sensor : List TemplateRec} {degAggr : UInt8}

private theorem SizesAccepted.data_fits (supported : Supported sensor) (accepted : SizesAccepted config sensor degAggr)
    (collects : degAggr = 1) : exactDataSize config sensor ≤ maxMsgSize := by
  obtain ⟨size, sized, fits⟩ := accepted.data collects
  have short : sensor.length < 256 := forEach_ok_short sized
  rw [calcDataSize_eq config short] at sized
  cases sized
  rw [UInt16.toNat_ofNat_of_lt' (exactDataSize_lt config short supported)] at fits
  exact fits

private theorem SizesAccepted.template_fits (accepted : SizesAccepted config sensor 1) :
    exactTemplateSize config sensor 1 ≤ maxMsgSize := by
  obtain ⟨size, sized, fits⟩ := accepted.template
  obtain ⟨dataSize, dataSized, -⟩ := accepted.data rfl
  have short : sensor.length < 256 := forEach_ok_short dataSized
  have exactly : size = UInt16.ofNat (exactTemplateSize config sensor 1) := by
    apply Except.ok.inj
    rw [← sized]
    exact calcTemplateSize_eq config 1 fun _ => short
  rw [exactly, UInt16.toNat_ofNat_of_lt' (exactTemplateSize_one_lt config short)] at fits
  exact fits

end Sizes

theorem low_byte (size : Nat) : (UInt16.ofNat size).toUInt8.toNat = size % 256 := by
  rw [UInt16.toNat_toUInt8, UInt16.toNat_ofNat']
  exact Nat.mod_mod_of_dvd size (by decide)

/-- The part of a message that its length byte lets through. -/
def lowPart (message : List UInt8) : List UInt8 :=
  message.take (message.length % 256)

theorem view_lowPart {buffer : Region} {message : List UInt8} (starts : message <+: buffer.bytes) :
    buffer.view (UInt16.ofNat message.length).toUInt8.toNat = lowPart message := by
  rw [low_byte]
  exact buffer.view_prefix starts (Nat.mod_le _ _)

section Aggregator
variable {config : HeaderConfig} {sensor : List TemplateRec} {heap : Heap} {degree : Nat}

private theorem periodicSend_mod (config : HeaderConfig) (sensor : List TemplateRec) (heap : Heap) (degree : Nat)
    (beyond : Nat → UInt8) :
    MsgAggr.periodicSend config sensor heap (degree % 256) beyond =
      MsgAggr.periodicSend config sensor heap degree beyond := by
  have same : UInt8.ofNat (degree % 256) = UInt8.ofNat degree := by
    rw [← UInt8.toNat_inj, UInt8.toNat_ofNat', UInt8.toNat_ofNat']
    exact Nat.mod_mod degree 256
  simp only [MsgAggr.periodicSend, MsgAggr.getAggrTemplate, same]

/-- A template is only ever completed if the accepted size did not wrap. -/
theorem initializeTinyipfix_fits {degAggr : UInt8} {library after : Library} {code : UInt8}
    (accepted : SizesAccepted config sensor degAggr)
    (initialized : initializeTinyipfix config sensor heap degAggr library = .ok (code, after)) :
    exactTemplateSize config sensor degAggr.toNat ≤ maxMsgSize := by
  obtain ⟨-, -, size, template, sized, built, -⟩ := initializeTinyipfix_inv initialized
  obtain ⟨computed, same, fits⟩ := accepted.template
  rw [sized] at same
  cases same
  exact Nat.le_trans (buildTemplate_covered built).1 fits

private theorem periodicSend_eq (small : degree ≤ 255) (fits : exactTemplateSize config sensor degree ≤ maxMsgSize)
    {beyond : Nat → UInt8} {sent : List Message}
    (executed : MsgAggr.periodicSend config sensor heap degree beyond = .ok sent) :
    sent = [lowPart (templateMessage config sensor degree)] := by
  obtain ⟨template, starts, rfl⟩ := periodicSend_inv small fits executed
  rw [← view_lowPart starts, templateMessage_length config fits]

private theorem periodicSend_fits {beyond : Nat → UInt8} {sent : List Message}
    (accepted : SizesAccepted config sensor (UInt8.ofNat degree))
    (executed : MsgAggr.periodicSend config sensor heap degree beyond = .ok sent) :
    exactTemplateSize config sensor (degree % 256) ≤ maxMsgSize := by
  obtain ⟨result, got, -⟩ := bind_inv executed
  obtain ⟨started, initialized, -⟩ := bind_inv got
  have fits := initializeTinyipfix_fits accepted initialized
  rw [UInt8.toNat_ofNat'] at fits
  exact fits

end Aggregator

section Collector
variable {config : HeaderConfig} {sensor : List TemplateRec}

/-- What a collector sends, without any memory: the template, and the data messages in
the order of their numbers. -/
def transmitted (config : HeaderConfig) (sensor : List TemplateRec) (event : TimerEvent) (served : Nat) :
    Nat × List Message :=
  match event with
  | .template reachable => (served, if reachable then [lowPart (templateMessage config sensor 1)] else [])
  | .data reachable readings =>
    (served + 1, if reachable then [lowPart (dataMessage config sensor (served + 1) readings)] else [])

/-- The library of a collector that has handed out this many data messages. -/
structure Transmitting (config : HeaderConfig) (sensor : List TemplateRec) (library : Library) (served : Nat) : Prop where
  template : ∃ block, templateMessage config sensor 1 <+: block.bytes ∧ HoldsTemplate block library
  data : Serving config sensor served library

private theorem collectorSend_lowPart {setId seqNum : UInt16} {message body : List UInt8} {buffer : Region}
    (accepted : Accepted setId (UInt16.ofNat message.length))
    (headed : message = builtHeader config setId (UInt16.ofNat message.length) seqNum ++ body)
    (starts : message <+: buffer.bytes) (reachable : Bool) :
    collectorSend reachable buffer = .ok (if reachable then [lowPart message] else []) := by
  cases reachable with
  | false => rfl
  | true =>
    have header : builtHeader config setId (UInt16.ofNat message.length) seqNum <+: message := ⟨body, headed.symm⟩
    rw [collectorSend_eq accepted (header.trans starts), view_lowPart starts]
    rfl

theorem unicastSenderProcess_transmits (supported : Supported sensor)
    (templateFits : exactTemplateSize config sensor 1 ≤ maxMsgSize) (dataFits : exactDataSize config sensor ≤ maxMsgSize)
    {library : Library} {served : Nat} (transmitting : Transmitting config sensor library served) (event : TimerEvent) :
    ∃ after, unicastSenderProcess config sensor event library = .ok (after, (transmitted config sensor event served).2) ∧
      Transmitting config sensor after (transmitted config sensor event served).1 := by
  obtain ⟨⟨block, starts, holds⟩, serving⟩ := transmitting
  cases event with
  | template reachable =>
    refine ⟨library, ?_, ⟨block, starts, holds⟩, serving⟩
    have length := templateMessage_length config templateFits
    have sent := collectorSend_lowPart (by rw [length]; exact templateHeader_accepted templateFits)
      (by rw [length]; rfl) starts reachable
    simp only [unicastSenderProcess, holds.handed, sent, ok_bind, pure_ok, transmitted]
  | data reachable readings =>
    obtain ⟨buffer, after, handed, -, content, next⟩ :=
      getData_serves config (short_of_fits templateFits (by omega)) dataFits readings serving
    have length := dataMessage_length config supported dataFits (served + 1) readings
    have sent := collectorSend_lowPart (by rw [length]; exact dataHeader_accepted dataFits)
      (by rw [length]; rfl) content reachable
    obtain ⟨ready, held⟩ := getData_keeps_template handed
    refine ⟨after, ?_, ⟨block, starts, ready.trans holds.ready, held.trans holds.held⟩, next⟩
    simp only [unicastSenderProcess, handed, sent, ok_bind, pure_ok, transmitted]

theorem transmitting_initially (templateFits : exactTemplateSize config sensor 1 ≤ maxMsgSize)
    (dataFits : exactDataSize config sensor ≤ maxMsgSize) (heap : Heap) :
    ∃ library, initializeTinyipfix config sensor heap 1 Library.initial = .ok (0, library) ∧
      Transmitting config sensor library 0 := by
  have short := short_of_fits templateFits (by omega)
  obtain ⟨library, initialized, serving⟩ := serving_initially config short dataFits heap
  have templateFitsOne : exactTemplateSize config sensor (1 : UInt8).toNat ≤ maxMsgSize := templateFits
  obtain ⟨ready, block, held, content⟩ := initializeTinyipfix_template templateFitsOne initialized
  exact ⟨library, initialized, ⟨block, by rw [content]; exact List.prefix_refl _, ready, held⟩, serving⟩

theorem collector_transmits (supported : Supported sensor)
    (templateFits : exactTemplateSize config sensor 1 ≤ maxMsgSize) (dataFits : exactDataSize config sensor ≤ maxMsgSize)
    (heap : Heap) (events : List TimerEvent) :
    ∃ library final, initializeTinyipfix config sensor heap 1 Library.initial = .ok (0, library) ∧
      run (unicastSenderProcess config sensor) events library =
        .ok (final, (play (transmitted config sensor) events 0).2) := by
  obtain ⟨library, initialized, initial⟩ := transmitting_initially templateFits dataFits heap
  obtain ⟨final, executed, -⟩ := run_simulates (Transmitting config sensor) initial
    fun before event after (_ : events = _) current transmitting =>
      unicastSenderProcess_transmits supported templateFits dataFits transmitting event
  exact ⟨library, final, initialized, executed⟩

end Collector

/-- Runs that differ only in what memory held send the same, as long as the sizes that
were computed are accepted. -/
theorem sends_ignore_memory (config : HeaderConfig) (sensor : List TemplateRec) (supported : Supported sensor) :
    (∀ degree, SizesAccepted config sensor (UInt8.ofNat degree) →
      (∀ heap heap' beyond beyond' sent, MsgAggr.periodicSend config sensor heap degree beyond = .ok sent →
        MsgAggr.periodicSend config sensor heap' degree beyond' = .ok sent) ∧
      (exactTemplateSize config sensor (degree % 256) ≤ maxMsgSize → ∃ sent, ∀ heap beyond,
        MsgAggr.periodicSend config sensor heap degree beyond = .ok sent)) ∧
    (SizesAccepted config sensor 1 → ∀ heap heap' events, ∃ library library' final final' sent,
      initializeTinyipfix config sensor heap 1 Library.initial = .ok (0, library) ∧
      initializeTinyipfix config sensor heap' 1 Library.initial = .ok (0, library') ∧
      run (unicastSenderProcess config sensor) events library = .ok (final, sent) ∧
      run (unicastSenderProcess config sensor) events library' = .ok (final', sent)) := by
  constructor
  · intro degree accepted
    have small : degree % 256 ≤ 255 := by omega
    have sends : exactTemplateSize config sensor (degree % 256) ≤ maxMsgSize → ∀ heap beyond,
        MsgAggr.periodicSend config sensor heap degree beyond =
          .ok [lowPart (templateMessage config sensor (degree % 256))] := by
      intro fits heap beyond
      have dataFits : degree % 256 = 1 → exactDataSize config sensor ≤ maxMsgSize := by
        intro one
        apply accepted.data_fits supported
        rw [← UInt8.toNat_inj, UInt8.toNat_ofNat']
        exact one
      have sends : ∃ sent, MsgAggr.periodicSend config sensor heap (degree % 256) beyond = .ok sent :=
        periodicSend_ok small fits dataFits
      obtain ⟨sent, executed⟩ := sends
      rw [periodicSend_eq small fits executed, periodicSend_mod] at executed
      exact executed
    refine ⟨?_, fun fits => ⟨_, sends fits⟩⟩
    intro heap heap' beyond beyond' sent executed
    have fits := periodicSend_fits accepted executed
    rw [sends fits heap beyond] at executed
    cases executed
    exact sends fits heap' beyond'
  · intro accepted heap heap' events
    have templateFits := accepted.template_fits
    have dataFits := accepted.data_fits supported rfl
    obtain ⟨library, final, initialized, executed⟩ := collector_transmits supported templateFits dataFits heap events
    obtain ⟨library', final', initialized', executed'⟩ := collector_transmits supported templateFits dataFits heap' events
    exact ⟨library, library', final, final', _, initialized, initialized', executed, executed'⟩

theorem sample_send :
    (∃ sent, ∀ heap beyond, MsgAggr.periodicSend HeaderConfig.sky initTemplate heap 2 beyond = .ok sent) ∧
    ∀ heap heap' events, ∃ library library' final final' sent,
      initializeTinyipfix HeaderConfig.sky initTemplate heap 1 Library.initial = .ok (0, library) ∧
      initializeTinyipfix HeaderConfig.sky initTemplate heap' 1 Library.initial = .ok (0, library') ∧
      run (unicastSenderProcess HeaderConfig.sky initTemplate) events library = .ok (final, sent) ∧
      run (unicastSenderProcess HeaderConfig.sky initTemplate) events library' = .ok (final', sent) := by
  obtain ⟨aggregator, collector⟩ := sends_ignore_memory HeaderConfig.sky initTemplate (by decide)
  have twofold : SizesAccepted HeaderConfig.sky initTemplate 2 := by
    refine ⟨⟨_, calcTemplateSize_eq _ 2 (by decide), by decide⟩, ?_⟩
    intro collects
    exact absurd collects (by decide)
  have single : SizesAccepted HeaderConfig.sky initTemplate 1 :=
    ⟨⟨_, calcTemplateSize_eq _ 1 (by decide), by decide⟩, fun _ => ⟨_, calcDataSize_eq _ (by decide), by decide⟩⟩
  exact ⟨(aggregator 2 twofold).2 (by decide), collector single⟩

end TinyIpfix
