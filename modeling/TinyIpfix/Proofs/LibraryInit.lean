import TinyIpfix.Library
import TinyIpfix.Proofs.DataCodec

/-! Initialisation. A table that fits leaves the library with a template and, without
aggregation, a data header; a header that is rejected goes unnoticed. -/

namespace TinyIpfix
open CMem CLoop

theorem exactTemplateSize_one_lt (config : HeaderConfig) {sensor : List TemplateRec} (short : sensor.length < 256) :
    exactTemplateSize config sensor 1 < 65536 := by
  have bounds := config.msgHeaderSize_bounds
  have records := tableSize_le_length sensor
  rw [exactTemplateSize, setHeaderSize]
  omega

section Succeeds
variable (config : HeaderConfig) {sensor : List TemplateRec} (heap : Heap) (library : Library)

theorem initializeTinyipfix_aggregating {degAggr : UInt8} (aggregates : degAggr ≠ 1)
    (short : 0 < degAggr.toNat → sensor.length < 256)
    (small : exactTemplateSize config sensor degAggr.toNat < 65536) :
    ∃ template, initializeTinyipfix config sensor heap degAggr library =
        .ok (0, { library with
          templateSize := UInt16.ofNat (exactTemplateSize config sensor degAggr.toNat)
          templateBuf := some template, isInitialized := 1 }) ∧
      BuiltTemplate config sensor degAggr.toNat template := by
  obtain ⟨template, built, content⟩ := buildTemplate_ok config degAggr short
    (malloc (exactTemplateSize config sensor degAggr.toNat) heap.template) (malloc_size _ _) small
  refine ⟨template, ?_, content⟩
  simp only [initializeTinyipfix, calcTemplateSize_eq config degAggr short, ok_bind, UInt16.toNat_ofNat_of_lt' small, built,
    isMinusOne_eq_false, Bool.false_eq_true, ↓reduceIte, aggregates, pure_ok]

private theorem initializeTinyipfix_one (short : sensor.length < 256) :
    ∃ template, BuiltTemplate config sensor 1 template ∧
      initializeTinyipfix config sensor heap 1 library = (do
        let (_, data) ← buildDataHeader config (malloc (exactDataSize config sensor % 65536) heap.data)
          (UInt16.ofNat (exactDataSize config sensor))
        return (0, { library with
          templateSize := UInt16.ofNat (exactTemplateSize config sensor 1)
          templateBuf := some template
          dataSize := UInt16.ofNat (exactDataSize config sensor)
          dataBuf := some data, isInitialized := 1 })) := by
  have small := exactTemplateSize_one_lt config short
  obtain ⟨template, built, content⟩ := buildTemplate_ok config 1 (fun _ => short)
    (malloc (exactTemplateSize config sensor 1) heap.template) (malloc_size _ _) small
  have sizeOne : calcTemplateSize config sensor 1 = .ok (UInt16.ofNat (exactTemplateSize config sensor 1)) :=
    calcTemplateSize_eq config 1 fun _ => short
  refine ⟨template, content, ?_⟩
  simp only [initializeTinyipfix, sizeOne, ok_bind, UInt16.toNat_ofNat_of_lt' small]
  rw [show (1 : UInt8).toNat = 1 from rfl] at built
  rw [built]
  simp only [ok_bind, isMinusOne_eq_false, Bool.false_eq_true, ↓reduceIte, calcDataSize_eq config short,
    UInt16.toNat_ofNat', Nat.reducePow]

/-- A collector gets a template and a data buffer, as long as the size of the buffer, in
sixteen bits, leaves room for a header. -/
theorem initializeTinyipfix_allocates (short : sensor.length < 256)
    (room : config.msgHeaderSize ≤ exactDataSize config sensor % 65536) :
    ∃ template data, initializeTinyipfix config sensor heap 1 library =
        .ok (0, { library with
          templateSize := UInt16.ofNat (exactTemplateSize config sensor 1)
          templateBuf := some template
          dataSize := UInt16.ofNat (exactDataSize config sensor)
          dataBuf := some data, isInitialized := 1 }) ∧
      BuiltTemplate config sensor 1 template ∧ data.size = exactDataSize config sensor % 65536 ∧
      (exactDataSize config sensor % 65536 ≤ maxMsgSize →
        builtHeader config dataSetId (UInt16.ofNat (exactDataSize config sensor)) 0 <+: data.bytes) := by
  obtain ⟨template, content, executed⟩ := initializeTinyipfix_one config heap library short
  obtain ⟨data, headed, dataSize, starts⟩ := buildDataHeader_ok config (UInt16.ofNat (exactDataSize config sensor))
    (show config.msgHeaderSize ≤ (malloc (exactDataSize config sensor % 65536) heap.data).size by
      rw [malloc_size]; exact room)
  rw [UInt16.toNat_ofNat'] at starts
  refine ⟨template, data, ?_, content, dataSize.trans (malloc_size _ _), starts⟩
  rw [executed, headed]
  rfl

/-- A size that wraps below that of a header lets an accepted header be written outside. -/
theorem initializeTinyipfix_outside (short : sensor.length < 256)
    (small : exactDataSize config sensor % 65536 < config.msgHeaderSize) :
    ∃ fault, initializeTinyipfix config sensor heap 1 library = .error fault := by
  have bounds := config.msgHeaderSize_bounds
  obtain ⟨template, -, executed⟩ := initializeTinyipfix_one config heap library short
  have accepted : Accepted dataSetId (UInt16.ofNat (exactDataSize config sensor)) := by
    refine ⟨by decide, ?_⟩
    rw [UInt16.toNat_ofNat', maxMsgSize]
    omega
  obtain ⟨fault, outside⟩ := buildMsgHeader_outside config (malloc (exactDataSize config sensor % 65536) heap.data) 0
    accepted (by rw [malloc_size]; exact small)
  refine ⟨fault, ?_⟩
  rw [executed, buildDataHeader, outside]
  rfl

theorem initializeTinyipfix_collecting (short : sensor.length < 256) (fits : exactDataSize config sensor ≤ maxMsgSize) :
    ∃ template data, initializeTinyipfix config sensor heap 1 library =
        .ok (0, { library with
          templateSize := UInt16.ofNat (exactTemplateSize config sensor 1)
          templateBuf := some template
          dataSize := UInt16.ofNat (exactDataSize config sensor)
          dataBuf := some data, isInitialized := 1 }) ∧
      BuiltTemplate config sensor 1 template ∧ data.size = exactDataSize config sensor ∧
      builtHeader config dataSetId (UInt16.ofNat (exactDataSize config sensor)) 0 <+: data.bytes := by
  have whole : exactDataSize config sensor % 65536 = exactDataSize config sensor :=
    Nat.mod_eq_of_lt (by simp only [maxMsgSize] at fits; omega)
  obtain ⟨template, data, executed, content, dataSize, starts⟩ := initializeTinyipfix_allocates config heap library
    short (by rw [whole, exactDataSize]; omega)
  rw [whole] at dataSize starts
  exact ⟨template, data, executed, content, dataSize, starts fits⟩

end Succeeds

theorem initializeTinyipfix_endless (config : HeaderConfig) {sensor : List TemplateRec} (long : 256 ≤ sensor.length)
    (heap : Heap) {degAggr : UInt8} (positive : 0 < degAggr.toNat) (library : Library) :
    initializeTinyipfix config sensor heap degAggr library = .error .endlessLoop := by
  rw [initializeTinyipfix, calcTemplateSize_endless config long positive]
  rfl

section Reports

/-- The header that `initializeTinyipfix` asks for is rejected. -/
def Rejected (config : HeaderConfig) (sensor : List TemplateRec) (degAggr : UInt8) : Prop :=
  (∃ size, calcTemplateSize config sensor degAggr = .ok size ∧ maxMsgSize < size.toNat) ∨
    (degAggr = 1 ∧ ∃ size, calcDataSize config sensor = .ok size ∧ maxMsgSize < size.toNat)

/-- A rejected header is reported and leaves the library closed; a template that is
handed out starts with the header written for it. -/
structure FailureReported (config : HeaderConfig) (sensor : List TemplateRec) (heap : Heap) (degAggr : UInt8) :
    Prop where
  reported : Rejected config sensor degAggr → ∃ code library,
    initializeTinyipfix config sensor heap degAggr Library.initial = .ok (code, library) ∧ code ≠ 0 ∧
      library.isInitialized = 0 ∧ getTemplate library = none ∧
      ∀ readings, getData config sensor readings library = .ok (none, library)
  headed : ∀ code library template, initializeTinyipfix config sensor heap degAggr Library.initial = .ok (code, library) →
    getTemplate library = some template → ∃ size, calcTemplateSize config sensor degAggr = .ok size ∧
      Accepted templateSetId size ∧ builtHeader config templateSetId size 0xFFFF <+: template.bytes

variable {config : HeaderConfig} {sensor : List TemplateRec} {heap : Heap} {degAggr : UInt8} {library after : Library}
  {code : UInt8}

private theorem buildTemplate_inv {templateSize : UInt16} {buf template : Region}
    (built : buildTemplate config sensor templateSize buf degAggr = .ok (code, template)) :
    code = 0 ∧ ∃ headerCode headed cursor,
      buildMsgHeader config buf templateSetId templateSize 0xFFFF = .ok (headerCode, headed) ∧
      fillTemplate config sensor headed degAggr = .ok cursor ∧ template = cursor.buf := by
  obtain ⟨⟨headerCode, headed⟩, header, rest⟩ := bind_inv built
  simp only [isMinusOne_eq_false, Bool.false_eq_true, ↓reduceIte] at rest
  obtain ⟨cursor, filled, last⟩ := bind_inv rest
  cases last
  exact ⟨rfl, headerCode, headed, cursor, header, filled, rfl⟩

/-- Whatever the functions it calls return, `initializeTinyipfix` returns zero or not at all. -/
theorem initializeTinyipfix_inv
    (executed : initializeTinyipfix config sensor heap degAggr library = .ok (code, after)) :
    code = 0 ∧ after.isInitialized = 1 ∧ ∃ size template, calcTemplateSize config sensor degAggr = .ok size ∧
      buildTemplate config sensor size (malloc size.toNat heap.template) degAggr = .ok (0, template) ∧
      after.templateBuf = some template := by
  obtain ⟨size, sized, afterSize⟩ := bind_inv executed
  obtain ⟨⟨buildCode, template⟩, built, afterTemplate⟩ := bind_inv afterSize
  obtain ⟨rfl, -⟩ := buildTemplate_inv built
  simp only [isMinusOne_eq_false, Bool.false_eq_true, ↓reduceIte] at afterTemplate
  split at afterTemplate
  next collects =>
    obtain ⟨dataSize, dataSized, afterDataSize⟩ := bind_inv afterTemplate
    obtain ⟨⟨headerCode, data⟩, headed, last⟩ := bind_inv afterDataSize
    cases last
    exact ⟨rfl, rfl, size, template, sized, built, rfl⟩
  next aggregates =>
    cases afterTemplate
    exact ⟨rfl, rfl, size, template, sized, built, rfl⟩

/-- A template is only ever completed in a block of its exact size, and behind the header
if that was accepted. -/
theorem buildTemplate_covered {size : UInt16} {memory : Nat → UInt8} {template : Region}
    (built : buildTemplate config sensor size (malloc size.toNat memory) degAggr = .ok (code, template)) :
    exactTemplateSize config sensor degAggr.toNat ≤ size.toNat ∧
      (Accepted templateSetId size → builtHeader config templateSetId size 0xFFFF <+: template.bytes) := by
  obtain ⟨-, headerCode, headed, cursor, header, filled, rfl⟩ := buildTemplate_inv built
  by_cases accepted : Accepted templateSetId size
  · have room : config.msgHeaderSize ≤ (malloc size.toNat memory).size := by
      by_contra small
      obtain ⟨fault, outside⟩ := buildMsgHeader_outside config (malloc size.toNat memory) 0xFFFF accepted (by omega)
      rw [outside] at header
      cases header
    rw [buildMsgHeader_ok config _ 0xFFFF accepted room] at header
    cases header
    have sized := headed_size config _ 0xFFFF accepted room
    rw [malloc_size] at sized
    have advanced := fillTemplate_advances (List.prefix_append _ _) (builtHeader_length config _ accepted)
      (by rw [sized]; exact size.toNat_lt) filled
    rw [sized] at advanced
    exact ⟨advanced.inside, fun _ => advanced.starts⟩
  · have large : maxMsgSize < size.toNat := by
      by_contra small
      exact accepted ⟨by decide, by omega⟩
    rw [buildMsgHeader_rejects config _ 0xFFFF accepted] at header
    cases header
    have bounds := config.msgHeaderSize_bounds
    have headerLength : ((malloc size.toNat memory).bytes.take config.msgHeaderSize).length = config.msgHeaderSize := by
      rw [List.length_take]
      apply Nat.min_eq_left
      rw [← Region.size, malloc_size]
      simp only [maxMsgSize] at large
      omega
    have advanced := fillTemplate_advances (List.take_prefix _ _) headerLength
      (by rw [malloc_size]; exact size.toNat_lt) filled
    rw [malloc_size] at advanced
    exact ⟨advanced.inside, fun other => absurd other accepted⟩

theorem initializeTinyipfix_template (fits : exactTemplateSize config sensor degAggr.toNat ≤ maxMsgSize)
    (executed : initializeTinyipfix config sensor heap degAggr library = .ok (code, after)) :
    after.isInitialized = 1 ∧ ∃ template, after.templateBuf = some template ∧
      template.bytes = templateMessage config sensor degAggr.toNat := by
  obtain ⟨-, ready, size, template, sized, built, held⟩ := initializeTinyipfix_inv executed
  have small : exactTemplateSize config sensor degAggr.toNat < 65536 := by simp only [maxMsgSize] at fits; omega
  rw [calcTemplateSize_eq config degAggr (short_of_fits fits)] at sized
  cases sized
  obtain ⟨same, rebuilt, content⟩ := buildTemplate_ok config degAggr (short_of_fits fits)
    (malloc (UInt16.ofNat (exactTemplateSize config sensor degAggr.toNat)).toNat heap.template)
    (by rw [malloc_size, UInt16.toNat_ofNat_of_lt' small]) small
  rw [built] at rebuilt
  cases rebuilt
  exact ⟨ready, template, held, content.whole fits⟩

/-- The sizes of the two messages, as sixteen bits hold them, are at most that of a
message. Of a table with 256 records or more no size is computed. -/
def SizesFit (config : HeaderConfig) (sensor : List TemplateRec) (degAggr : UInt8) : Prop :=
  (0 < degAggr.toNat → sensor.length < 256) →
    exactTemplateSize config sensor degAggr.toNat % 65536 ≤ maxMsgSize ∧
      (degAggr = 1 → exactDataSize config sensor % 65536 ≤ maxMsgSize)

private theorem not_rejected_iff (config : HeaderConfig) (sensor : List TemplateRec) (degAggr : UInt8) :
    ¬ Rejected config sensor degAggr ↔ SizesFit config sensor degAggr := by
  constructor
  · intro accepted short
    constructor
    · by_contra large
      refine accepted (.inl ⟨_, calcTemplateSize_eq config degAggr short, ?_⟩)
      rw [UInt16.toNat_ofNat']
      exact Nat.lt_of_not_le large
    · rintro rfl
      by_contra large
      refine accepted (.inr ⟨rfl, _, calcDataSize_eq config (short (by decide)), ?_⟩)
      rw [UInt16.toNat_ofNat']
      exact Nat.lt_of_not_le large
  · rintro fit (⟨size, sized, large⟩ | ⟨rfl, size, sized, large⟩)
    · have short : 0 < degAggr.toNat → sensor.length < 256 := by
        intro positive
        by_contra long
        rw [calcTemplateSize_endless config (by omega) positive] at sized
        cases sized
      rw [calcTemplateSize_eq config degAggr short] at sized
      cases sized
      rw [UInt16.toNat_ofNat'] at large
      exact absurd (fit short).1 (Nat.not_le_of_lt large)
    · have short : sensor.length < 256 := forEach_ok_short sized
      rw [calcDataSize_eq config short] at sized
      cases sized
      rw [UInt16.toNat_ofNat'] at large
      exact absurd ((fit fun _ => short).2 rfl) (Nat.not_le_of_lt large)

/-- Initialisation does what it should exactly when no size it computes is too large. -/
theorem failure_reported_iff (config : HeaderConfig) (sensor : List TemplateRec) (heap : Heap) (degAggr : UInt8) :
    FailureReported config sensor heap degAggr ↔ SizesFit config sensor degAggr := by
  rw [← not_rejected_iff]
  constructor
  · intro holds rejected
    obtain ⟨code, library, executed, failed, -⟩ := holds.reported rejected
    exact failed (initializeTinyipfix_inv executed).1
  · intro accepted
    refine ⟨fun rejected => absurd rejected accepted, ?_⟩
    intro code library template executed handed
    obtain ⟨-, ready, size, built, sized, filled, held⟩ := initializeTinyipfix_inv executed
    have small : Accepted templateSetId size := by
      refine ⟨by decide, ?_⟩
      by_contra large
      exact accepted (.inl ⟨size, sized, by omega⟩)
    have same : built = template := by
      simpa [getTemplate, ready, held] using handed
    subst same
    exact ⟨size, sized, small, (buildTemplate_covered filled).2 small⟩

/-- Eight copies of the table of sky.c need 519 bytes. -/
theorem failure_unreported : ¬ FailureReported HeaderConfig.sky initTemplate ⟨fun _ => 0, fun _ => 0⟩ 8 := by
  intro holds
  obtain ⟨code, library, executed, failed, -⟩ := holds.reported (.inl ⟨_, calcTemplateSize_eq _ 8 (by decide), by decide⟩)
  exact failed (initializeTinyipfix_inv executed).1

end Reports

end TinyIpfix
