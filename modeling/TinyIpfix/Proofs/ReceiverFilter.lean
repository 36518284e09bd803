import TinyIpfix.DataAggr
import TinyIpfix.Proofs.MsgAggrSafety

/-! The filter of the receive callback against the headers the library writes. The mask
of the filter keeps the two extension flags, so it only knows templates without them. -/

namespace TinyIpfix
open CMem Transducer

/-- The datagram starts with a header written for this set id. -/
def Headed (config : HeaderConfig) (setId : UInt16) (datagram : Datagram) : Prop :=
  ∃ length seqNum, Accepted setId length ∧ builtHeader config setId length seqNum <+: datagram.data.bytes

/-- Templates are dropped, data sets are handed on, and a run does not depend on where
templates arrive or on how many do. -/
structure Separates {σ : Type} (calcAggrPayload : Datagram → σ → Checked (σ × List Message)) (config : HeaderConfig) :
    Prop where
  dropped : ∀ datagram, Headed config templateSetId datagram → ∀ state,
    receiver calcAggrPayload datagram state = .ok (state, [])
  passed : ∀ datagram, Headed config dataSetId datagram → ∀ state,
    receiver calcAggrPayload datagram state = calcAggrPayload datagram state
  unaffected : ∀ datagrams others, Interspersed (Headed config templateSetId) datagrams others → ∀ state,
    run (receiver calcAggrPayload) others state = run (receiver calcAggrPayload) datagrams state

private theorem isTemplate_iff (datagram : Datagram) :
    isTemplate datagram = true ↔ (datagram.data.byteAt 0).toNat / 4 = 1 := by
  have table : ∀ value : Fin 256, ((UInt8.ofNat value.val &&& 0xfc) == 0x04) = decide (value.val / 4 = 1) := by
    decide +kernel
  have value := table ⟨(datagram.data.byteAt 0).toNat, UInt8.toNat_lt _⟩
  rw [UInt8.ofNat_toNat] at value
  rw [isTemplate, value, decide_eq_true_iff]

private theorem headed_byteAt {config : HeaderConfig} {setId length seqNum : UInt16} (accepted : Accepted setId length)
    {datagram : Datagram} (starts : builtHeader config setId length seqNum <+: datagram.data.bytes) :
    datagram.data.byteAt 0 = firstByte config (shortcut setId) length := by
  rw [builtHeader_eq config seqNum accepted, headerBytes] at starts
  obtain ⟨rest, bytes⟩ := starts
  simp [Region.byteAt, Region.size, ← bytes]

/-- The filter looks at the flags and the set id together. -/
theorem isTemplate_headed {config : HeaderConfig} {setId : UInt16} {datagram : Datagram}
    (headed : Headed config setId datagram) : isTemplate datagram = true ↔
      (flagBits config).toNat / 4 + setIdField config (shortcut setId) = 1 := by
  obtain ⟨length, seqNum, accepted, starts⟩ := headed
  have value := firstByte_toNat config (shortcut_le accepted.1) accepted.2
  have low : length.toNat / 256 < 4 := by
    have fits := accepted.2
    simp only [maxMsgSize] at fits
    omega
  rw [isTemplate_iff, headed_byteAt accepted starts, value]
  rcases flagBits_cases config with flags | flags | flags | flags
  all_goals
    rw [flags]
    simp only [UInt8.reduceToNat]
    omega

private theorem template_field (config : HeaderConfig) : setIdField config (shortcut templateSetId) = 1 := rfl

private theorem data_field (config : HeaderConfig) : setIdField config (shortcut dataSetId) = 2 := rfl

theorem data_passed {config : HeaderConfig} {datagram : Datagram} (headed : Headed config dataSetId datagram) :
    isTemplate datagram = false := by
  have field := isTemplate_headed headed
  rw [data_field] at field
  rw [← Bool.not_eq_true, field]
  omega

theorem template_dropped_iff {config : HeaderConfig} {datagram : Datagram}
    (headed : Headed config templateSetId datagram) :
    isTemplate datagram = true ↔ config.extendedHeaderSeq = false ∧ config.extendedHeaderSetId = false := by
  rw [isTemplate_headed headed, template_field]
  obtain ⟨sequence, identifier⟩ := config
  cases sequence <;> cases identifier <;> simp [flagBits]

section Separation
variable {σ : Type} {calcAggrPayload : Datagram → σ → Checked (σ × List Message)} {config : HeaderConfig}

private theorem separates_plain (plain : config.extendedHeaderSeq = false ∧ config.extendedHeaderSetId = false) :
    Separates calcAggrPayload config := by
  have dropped : ∀ datagram, Headed config templateSetId datagram → ∀ state,
      receiver calcAggrPayload datagram state = .ok (state, []) :=
    fun datagram headed state => receiver_template calcAggrPayload ((template_dropped_iff headed).mpr plain) state
  refine ⟨dropped, ?_, ?_⟩
  · intro datagram headed state
    exact receiver_data calcAggrPayload (data_passed headed) state
  · intro datagrams others interspersed state
    exact run_interspersed dropped interspersed state

/-- A template that is as short as its header may be. -/
def bareTemplate (config : HeaderConfig) (length seqNum : UInt16) (accepted : Accepted templateSetId length) :
    Datagram where
  data := ⟨builtHeader config templateSetId length seqNum, fun _ => 0⟩
  nonempty := by
    have bounds := config.msgHeaderSize_bounds
    rw [Region.size, builtHeader_length config seqNum accepted]
    omega
  short := by
    have bounds := config.msgHeaderSize_bounds
    rw [Region.size, builtHeader_length config seqNum accepted]
    omega

/-- An aggregation that is changed by whatever it is handed is not protected from the
templates with an extended header. -/
theorem separates_iff (counts : ∀ datagram state, calcAggrPayload datagram state ≠ .ok (state, [])) (state : σ) :
    Separates calcAggrPayload config ↔ config.extendedHeaderSeq = false ∧ config.extendedHeaderSetId = false := by
  constructor
  · intro separates
    have accepted : Accepted templateSetId 8 := by decide
    have headed : Headed config templateSetId (bareTemplate config 8 0xFFFF accepted) :=
      ⟨8, 0xFFFF, accepted, List.prefix_refl _⟩
    rw [← template_dropped_iff headed]
    by_contra taken
    have dropped := separates.dropped _ headed state
    rw [receiver_data calcAggrPayload (by simpa using taken)] at dropped
    exact counts _ state dropped
  · exact separates_plain

end Separation

private theorem MsgAggr.calcAggrPayload_counts (config : HeaderConfig) (degree : Nat) (datagram : Datagram) (state : State) :
    calcAggrPayload config degree datagram state ≠ .ok (state, []) := by
  intro executed
  obtain ⟨buf, -, ⟨-, -, same⟩ | ⟨-, code, after, -, -, sent⟩⟩ := calcAggrPayload_inv executed
  · have count := congrArg (fun state => state.aggrCount.toNat) same
    simp only [UInt8.toNat_add, UInt8.reduceToNat] at count
    omega
  · cases sent

private theorem DataAggr.step_counts (overshift : Overshift) (aggrFunc : AggrFunc) (config : HeaderConfig) (degree : Nat)
    (datagram : Datagram) (state : State) : step overshift aggrFunc config degree datagram state ≠ .ok (state, []) := by
  intro executed
  obtain ⟨outcome, called, last⟩ := bind_inv executed
  obtain ⟨unchanged, none⟩ : outcome.state = state ∧ outcome.sent = [] := by simpa using last
  obtain ⟨decoding, -, rest⟩ := bind_inv called
  split at rest
  next accumulated running least =>
  split at rest
  next closes =>
    obtain ⟨held, -, afterDeref⟩ := bind_inv rest
    obtain ⟨headed, -, afterHeader⟩ := bind_inv afterDeref
    obtain ⟨encoded, -, afterLoop⟩ := bind_inv afterHeader
    obtain ⟨length, -, sent⟩ := bind_inv afterLoop
    cases sent
    simp [msgSend] at none
  next continues =>
    cases rest
    have count := congrArg (fun state => state.aggrCount.toNat) unchanged
    simp only [UInt8.toNat_add, UInt8.reduceToNat] at count
    omega

/-- Both aggregations are kept apart from templates exactly without header extensions. -/
theorem receiver_separates_iff (config : HeaderConfig) :
    (∀ degree, Separates (MsgAggr.calcAggrPayload config degree) config ↔
      config.extendedHeaderSeq = false ∧ config.extendedHeaderSetId = false) ∧
    (∀ overshift aggrFunc degree, Separates (DataAggr.step overshift aggrFunc config degree) config ↔
      config.extendedHeaderSeq = false ∧ config.extendedHeaderSetId = false) := by
  constructor
  · intro degree
    exact separates_iff (MsgAggr.calcAggrPayload_counts config degree) (MsgAggr.initial config fun _ => 0)
  · intro overshift aggrFunc degree
    exact separates_iff (DataAggr.step_counts overshift aggrFunc config degree) DataAggr.initial

/-- With the sequence extension a template is counted as a datagram of the window. -/
theorem extended_template_counted :
    ¬ Separates (MsgAggr.calcAggrPayload ⟨true, false⟩ 2) ⟨true, false⟩ := by
  intro separates
  have headed : Headed ⟨true, false⟩ templateSetId
      ⟨⟨[0x44, 8, 0xff, 0xff, 1, 0, 0, 0], fun _ => 0⟩, by decide, by decide⟩ :=
    ⟨8, 0xFFFF, by decide, ⟨[1, 0, 0, 0], by decide⟩⟩
  have dropped := separates.dropped _ headed (MsgAggr.initial ⟨true, false⟩ fun _ => 0)
  rw [receiver_data _ (by decide)] at dropped
  exact MsgAggr.calcAggrPayload_counts _ _ _ _ dropped

end TinyIpfix
