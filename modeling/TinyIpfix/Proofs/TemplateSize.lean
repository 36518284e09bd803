import TinyIpfix.Proofs.LibraryInit

/-! The size of a template, computed in sixteen bits and used for the block it is built
in. Where it wraps, the block is too small for the records, whatever the header says. -/

namespace TinyIpfix
open CMem

/-- The size computed is the exact one, and the template is built inside a block of it. -/
def SizeCovers (config : HeaderConfig) (sensor : List TemplateRec) (heap : Heap) (degAggr : UInt8) : Prop :=
  ∃ size template, calcTemplateSize config sensor degAggr = .ok size ∧
    size.toNat = exactTemplateSize config sensor degAggr.toNat ∧
    buildTemplate config sensor size (malloc size.toNat heap.template) degAggr = .ok (0, template)

section Covers
variable {config : HeaderConfig} {sensor : List TemplateRec} {heap : Heap} {degAggr : UInt8}

theorem SizeCovers.small (covers : SizeCovers config sensor heap degAggr) :
    exactTemplateSize config sensor degAggr.toNat < 65536 := by
  obtain ⟨size, template, -, exactly, -⟩ := covers
  rw [← exactly]
  exact size.toNat_lt

private theorem sizeCovers_of_small (heap : Heap) (short : 0 < degAggr.toNat → sensor.length < 256)
    (small : exactTemplateSize config sensor degAggr.toNat < 65536) : SizeCovers config sensor heap degAggr := by
  have exactly := UInt16.toNat_ofNat_of_lt' small
  obtain ⟨template, built, -⟩ := buildTemplate_ok config degAggr short
    (malloc (UInt16.ofNat (exactTemplateSize config sensor degAggr.toNat)).toNat heap.template)
    (by rw [malloc_size, exactly]) small
  exact ⟨_, template, calcTemplateSize_eq config degAggr short, exactly, built⟩

/-- A block of a size that wrapped is left while it is filled. -/
theorem buildTemplate_leaves (wraps : 65536 ≤ exactTemplateSize config sensor degAggr.toNat) (size : UInt16)
    (memory : Nat → UInt8) :
    ∃ fault, buildTemplate config sensor size (malloc size.toNat memory) degAggr = .error fault := by
  cases executed : buildTemplate config sensor size (malloc size.toNat memory) degAggr with
  | error fault => exact ⟨fault, rfl⟩
  | ok result =>
    have covered := (buildTemplate_covered executed).1
    have narrow := size.toNat_lt
    omega

private theorem exactTemplateSize_small (config : HeaderConfig) {degree : Nat} (few : sensor.length * degree ≤ 8190) :
    exactTemplateSize config sensor degree < 65536 := by
  have bounds := config.msgHeaderSize_bounds
  have copies : degree * tableSize sensor ≤ degree * (8 * sensor.length) :=
    Nat.mul_le_mul_left degree (tableSize_le_length sensor)
  have records : degree * (8 * sensor.length) = 8 * (sensor.length * degree) := by
    rw [Nat.mul_left_comm, Nat.mul_comm degree]
  rw [exactTemplateSize, setHeaderSize]
  omega

end Covers

/-- The block covers the template exactly where the size does not wrap, as with up to 8190
records in the template; where it wraps, what is written leaves the block. -/
theorem size_covers_iff (config : HeaderConfig) (sensor : List TemplateRec) (short : sensor.length ≤ 255) (heap : Heap)
    (degAggr : UInt8) :
    (SizeCovers config sensor heap degAggr ↔ exactTemplateSize config sensor degAggr.toNat < 65536) ∧
    (65536 ≤ exactTemplateSize config sensor degAggr.toNat → ∃ size fault,
      calcTemplateSize config sensor degAggr = .ok size ∧
      buildTemplate config sensor size (malloc size.toNat heap.template) degAggr = .error fault) ∧
    (sensor.length * degAggr.toNat ≤ 8190 → SizeCovers config sensor heap degAggr) := by
  have bounded : 0 < degAggr.toNat → sensor.length < 256 := fun _ => by omega
  refine ⟨⟨SizeCovers.small, sizeCovers_of_small heap bounded⟩, ?_, ?_⟩
  · intro wraps
    obtain ⟨fault, left⟩ := buildTemplate_leaves wraps
      (UInt16.ofNat (exactTemplateSize config sensor degAggr.toNat)) heap.template
    exact ⟨_, fault, calcTemplateSize_eq config degAggr bounded, left⟩
  · intro few
    exact sizeCovers_of_small heap bounded (exactTemplateSize_small config few)

theorem sample_covered : SizeCovers HeaderConfig.sky initTemplate ⟨fun _ => 1, fun _ => 2⟩ 255 :=
  (size_covers_iff HeaderConfig.sky initTemplate (by decide) ⟨fun _ => 1, fun _ => 2⟩ 255).2.2 (by decide)

/-- 128 copies of 64 records with the enterprise bit need 65543 bytes; seven are allocated. -/
theorem size_wraps : calcTemplateSize HeaderConfig.sky (List.replicate 64 (setFields 1 0x80A0 2 0xF0AA00AA)) 128 = .ok 7 ∧
    ¬ SizeCovers HeaderConfig.sky (List.replicate 64 (setFields 1 0x80A0 2 0xF0AA00AA)) ⟨fun _ => 0, fun _ => 0⟩ 128 := by
  have size : exactTemplateSize HeaderConfig.sky (List.replicate 64 (setFields 1 0x80A0 2 0xF0AA00AA)) 128 = 65543 := by
    decide
  constructor
  · rw [calcTemplateSize_eq HeaderConfig.sky 128 (fun _ => by decide), show (128 : UInt8).toNat = 128 from rfl, size]
    rfl
  · intro covers
    have small := covers.small
    rw [show (128 : UInt8).toNat = 128 from rfl, size] at small
    omega

end TinyIpfix
