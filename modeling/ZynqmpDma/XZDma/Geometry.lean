import ZynqmpDma.XZDma.ScatterGather

namespace ZynqmpDma.XZDma

open Base

def DscrType.size (typeOfDscr : DscrType) : BitVec 32 :=
  if typeOfDscr = .linear then sizeofLiDscr else sizeofLlDscr

theorem DscrType.size_pos (typeOfDscr : DscrType) : 0 < typeOfDscr.size.toNat := by
  cases typeOfDscr <;> decide

namespace Descriptor

variable (dscr : Descriptor)

def size : ℕ := dscr.dscrType.size.toNat

def count : ℕ := dscr.dscrCount.toNat

def srcSlot (i : ℕ) : BitVec 64 := dscr.srcDscrPtr + BitVec.ofNat 64 (dscr.size * i)

def dstSlot (i : ℕ) : BitVec 64 := dscr.dstDscrPtr + BitVec.ofNat 64 (dscr.size * i)

def physSrcSlot (i : ℕ) : BitVec 64 := dscr.physSrcDscrPtr + BitVec.ofNat 64 (dscr.size * i)

def physDstSlot (i : ℕ) : BitVec 64 := dscr.physDstDscrPtr + BitVec.ofNat 64 (dscr.size * i)

def srcBytes (i : ℕ) : Set (BitVec 64) := block (dscr.srcSlot i) dscr.size

def dstBytes (i : ℕ) : Set (BitVec 64) := block (dscr.dstSlot i) dscr.size

end Descriptor

section Tables

variable (typeOfDscr : DscrType) (dscrMemPtr descrPhysMemPtr : BitVec 64) (noOfBytes : BitVec 32)

def bdTables : Descriptor where
  dscrType := typeOfDscr
  dscrCount := (noOfBytes >>> 1) / typeOfDscr.size
  srcDscrPtr := dscrMemPtr
  physSrcDscrPtr := descrPhysMemPtr
  dstDscrPtr := dscrMemPtr +
    (typeOfDscr.size * ((noOfBytes >>> 1) / typeOfDscr.size)).setWidth 64
  physDstDscrPtr := descrPhysMemPtr +
    (typeOfDscr.size * ((noOfBytes >>> 1) / typeOfDscr.size)).setWidth 64

theorem createBDList_sets (env : Env) (s : System) (pointer : dscrMemPtr ≠ 0)
    (bytes : noOfBytes ≠ 0) :
    createBDList env typeOfDscr dscrMemPtr descrPhysMemPtr noOfBytes s =
      .ok ((noOfBytes >>> 1) / typeOfDscr.size) (s.withDma fun i =>
        { i with descriptor := bdTables typeOfDscr dscrMemPtr descrPhysMemPtr noOfBytes }) := by
  unfold createBDList
  rw [xilAssert_holds _ _ _ pointer, xilAssert_holds _ _ _ bytes]
  rfl

end Tables

/-- The descriptor tables are those that `XZDma_CreateBDList` set up in the `noOfBytes` bytes at
    `virt`, which the channel reads at `phys`. -/
structure TablesSet (dscr : Descriptor) (typeOfDscr : DscrType) (virt phys : BitVec 64)
    (noOfBytes : BitVec 32) : Prop where
  pointer : virt ≠ 0
  bytes : noOfBytes ≠ 0
  created : ∃ env s count t, createBDList env typeOfDscr virt phys noOfBytes s = .ok count t ∧
    t.dma.descriptor = dscr

theorem tablesSet_bdTables (typeOfDscr : DscrType) (virt phys : BitVec 64) (noOfBytes : BitVec 32)
    (pointer : virt ≠ 0) (bytes : noOfBytes ≠ 0) :
    TablesSet (bdTables typeOfDscr virt phys noOfBytes) typeOfDscr virt phys noOfBytes :=
  ⟨pointer, bytes, .ideal .waiting, .blank, _, _,
    createBDList_sets typeOfDscr virt phys noOfBytes _ _ pointer bytes, rfl⟩

namespace TablesSet

variable {dscr : Descriptor} {typeOfDscr : DscrType} {virt phys : BitVec 64}
  {noOfBytes : BitVec 32} (set : TablesSet dscr typeOfDscr virt phys noOfBytes)

include set

theorem eq : dscr = bdTables typeOfDscr virt phys noOfBytes := by
  obtain ⟨env, s, count, t, run, rfl⟩ := set.created
  rw [createBDList_sets typeOfDscr virt phys noOfBytes env s set.pointer set.bytes] at run
  cases run
  rfl

theorem dscrType_eq : dscr.dscrType = typeOfDscr := by
  rw [set.eq]
  rfl

theorem size_eq : dscr.size = typeOfDscr.size.toNat := by
  rw [Descriptor.size, set.dscrType_eq]

theorem size_pos : 0 < dscr.size := by
  rw [set.size_eq]
  exact typeOfDscr.size_pos

theorem count_eq : dscr.count = pairCount noOfBytes.toNat dscr.size := by
  have quotient : ((noOfBytes >>> 1) / typeOfDscr.size).toNat =
      noOfBytes.toNat / 2 / typeOfDscr.size.toNat := by
    rw [BitVec.toNat_udiv, BitVec.toNat_ushiftRight, Nat.shiftRight_eq_div_pow]
  rw [Descriptor.count, set.size_eq, pairCount, ← quotient, set.eq]
  rfl

theorem fits : 2 * (dscr.size * dscr.count) ≤ noOfBytes.toNat :=
  (le_pairCount set.size_pos).mp set.count_eq.le

theorem product_lt : dscr.size * dscr.count < 2 ^ 32 := by
  have fits := set.fits
  have bytes := noOfBytes.isLt
  omega

theorem offset_eq :
    (typeOfDscr.size * ((noOfBytes >>> 1) / typeOfDscr.size)).setWidth 64 =
      BitVec.ofNat 64 (dscr.size * dscr.count) := by
  have product := set.product_lt
  have count : dscr.count = ((noOfBytes >>> 1) / typeOfDscr.size).toNat := by
    rw [Descriptor.count, set.eq]
    rfl
  rw [set.size_eq, count] at product ⊢
  apply BitVec.eq_of_toNat_eq
  rw [BitVec.toNat_setWidth, BitVec.toNat_mul, BitVec.toNat_ofNat, Nat.mod_eq_of_lt product]

theorem src_eq : dscr.srcDscrPtr = virt := by
  rw [set.eq]
  rfl

theorem dst_eq : dscr.dstDscrPtr = virt + BitVec.ofNat 64 (dscr.size * dscr.count) := by
  rw [← set.offset_eq, set.eq]
  rfl

theorem physSrc_eq : dscr.physSrcDscrPtr = phys := by
  rw [set.eq]
  rfl

theorem physDst_eq : dscr.physDstDscrPtr = phys + BitVec.ofNat 64 (dscr.size * dscr.count) := by
  rw [← set.offset_eq, set.eq]
  rfl

theorem srcSlot_eq (i : ℕ) : dscr.srcSlot i = virt + BitVec.ofNat 64 (dscr.size * i) := by
  rw [Descriptor.srcSlot, set.src_eq]

theorem dstSlot_eq (i : ℕ) :
    dscr.dstSlot i = virt + BitVec.ofNat 64 (dscr.size * dscr.count + dscr.size * i) := by
  rw [Descriptor.dstSlot, set.dst_eq, BitVec.add_assoc, BitVec.ofNat_add]

theorem physSrcSlot_eq (i : ℕ) : dscr.physSrcSlot i = phys + BitVec.ofNat 64 (dscr.size * i) := by
  rw [Descriptor.physSrcSlot, set.physSrc_eq]

theorem physDstSlot_eq (i : ℕ) :
    dscr.physDstSlot i = phys + BitVec.ofNat 64 (dscr.size * dscr.count + dscr.size * i) := by
  rw [Descriptor.physDstSlot, set.physDst_eq, BitVec.add_assoc, BitVec.ofNat_add]

variable {i j : ℕ}

theorem src_disjoint (hi : i < dscr.count) (hj : j < dscr.count) (other : i ≠ j) :
    Disjoint (dscr.srcBytes i) (dscr.srcBytes j) := by
  have product := set.product_lt
  have slot := slot_le dscr.size hi
  have slot' := slot_le dscr.size hj
  rw [Descriptor.srcBytes, Descriptor.srcBytes, set.srcSlot_eq, set.srcSlot_eq]
  exact block_offset_disjoint virt (by omega) (by omega) (slots_apart _ other)

theorem dst_disjoint (hi : i < dscr.count) (hj : j < dscr.count) (other : i ≠ j) :
    Disjoint (dscr.dstBytes i) (dscr.dstBytes j) := by
  have product := set.product_lt
  have slot := slot_le dscr.size hi
  have slot' := slot_le dscr.size hj
  have apart := slots_apart dscr.size other
  rw [Descriptor.dstBytes, Descriptor.dstBytes, set.dstSlot_eq, set.dstSlot_eq]
  exact block_offset_disjoint virt (by omega) (by omega) (by omega)

theorem src_dst_disjoint (hi : i < dscr.count) (hj : j < dscr.count) :
    Disjoint (dscr.srcBytes i) (dscr.dstBytes j) := by
  have product := set.product_lt
  have slot := slot_le dscr.size hi
  have slot' := slot_le dscr.size hj
  rw [Descriptor.srcBytes, Descriptor.dstBytes, set.srcSlot_eq, set.dstSlot_eq]
  exact block_offset_disjoint virt (by omega) (by omega) (by omega)

theorem src_subset (hi : i < dscr.count) : dscr.srcBytes i ⊆ block virt noOfBytes.toNat := by
  have fits := set.fits
  have bytes := noOfBytes.isLt
  have slot := slot_le dscr.size hi
  rw [Descriptor.srcBytes, set.srcSlot_eq, ← block_offset_zero virt]
  exact block_offset_subset virt (by omega) (by omega) (by omega)

theorem dst_subset (hi : i < dscr.count) : dscr.dstBytes i ⊆ block virt noOfBytes.toNat := by
  have fits := set.fits
  have bytes := noOfBytes.isLt
  have slot := slot_le dscr.size hi
  rw [Descriptor.dstBytes, set.dstSlot_eq, ← block_offset_zero virt]
  exact block_offset_subset virt (by omega) (by omega) (by omega)

end TablesSet

/-- What the tables in the `noOfBytes` bytes at `virt` are like: separate slots inside these
    bytes, at the same offsets for the driver and for the channel, and as many as there can be. -/
structure Geometry (dscr : Descriptor) (virt phys : BitVec 64) (noOfBytes : ℕ) : Prop where
  product : dscr.size * dscr.count < 2 ^ 32
  srcDst : ∀ i < dscr.count, ∀ j < dscr.count, Disjoint (dscr.srcBytes i) (dscr.dstBytes j)
  src : ∀ i < dscr.count, ∀ j < dscr.count, i ≠ j → Disjoint (dscr.srcBytes i) (dscr.srcBytes j)
  dst : ∀ i < dscr.count, ∀ j < dscr.count, i ≠ j → Disjoint (dscr.dstBytes i) (dscr.dstBytes j)
  inside : ∀ i < dscr.count, ∀ a ∈ dscr.srcBytes i ∪ dscr.dstBytes i,
    virt.toNat ≤ a.toNat ∧ a.toNat < virt.toNat + noOfBytes
  physSrc : ∀ i < dscr.count, ((dscr.physSrcSlot i).toNat : ℤ) - phys.toNat =
    (dscr.srcSlot i).toNat - virt.toNat
  physDst : ∀ i < dscr.count, ((dscr.physDstSlot i).toNat : ℤ) - phys.toNat =
    (dscr.dstSlot i).toNat - virt.toNat
  largest : IsGreatest {count | 2 * (dscr.size * count) ≤ noOfBytes} dscr.count

theorem TablesSet.geometry {dscr : Descriptor} {typeOfDscr : DscrType} {virt phys : BitVec 64}
    {noOfBytes : BitVec 32} (set : TablesSet dscr typeOfDscr virt phys noOfBytes)
    (room : virt.toNat + noOfBytes.toNat ≤ 2 ^ 64)
    (physRoom : phys.toNat + noOfBytes.toNat ≤ 2 ^ 64) :
    Geometry dscr virt phys noOfBytes.toNat := by
  have fits := set.fits
  have positive := set.size_pos
  constructor
  · exact set.product_lt
  · exact fun i hi j hj => set.src_dst_disjoint hi hj
  · exact fun i hi j hj => set.src_disjoint hi hj
  · exact fun i hi j hj => set.dst_disjoint hi hj
  · intro i hi a member
    rcases member with src | dst
    · exact mem_block room (set.src_subset hi src)
    · exact mem_block room (set.dst_subset hi dst)
  · intro i hi
    have slot := slot_le dscr.size hi
    rw [set.physSrcSlot_eq, set.srcSlot_eq, offset_toNat (by omega), offset_toNat (by omega)]
    omega
  · intro i hi
    have slot := slot_le dscr.size hi
    rw [set.physDstSlot_eq, set.dstSlot_eq, offset_toNat (by omega), offset_toNat (by omega)]
    omega
  · rw [set.count_eq]
    exact pairCount_isGreatest set.size_pos

theorem createBDList_geometry (env : Env) (s : System) (typeOfDscr : DscrType)
    (virt phys : BitVec 64) (noOfBytes : BitVec 32) (pointer : virt ≠ 0) (bytes : noOfBytes ≠ 0)
    (room : virt.toNat + noOfBytes.toNat ≤ 2 ^ 64)
    (physRoom : phys.toNat + noOfBytes.toNat ≤ 2 ^ 64) :
    ∃ t, createBDList env typeOfDscr virt phys noOfBytes s = .ok t.dma.descriptor.dscrCount t ∧
      t.dma.descriptor.dscrType = typeOfDscr ∧
      Geometry t.dma.descriptor virt phys noOfBytes.toNat := by
  have run := createBDList_sets typeOfDscr virt phys noOfBytes env s pointer bytes
  have set := tablesSet_bdTables typeOfDscr virt phys noOfBytes pointer bytes
  exact ⟨s.withDma fun i => { i with descriptor := bdTables typeOfDscr virt phys noOfBytes },
    run, rfl, set.geometry room physRoom⟩

theorem createBDList_geometry_page :
    ∃ t, createBDList (.ideal .waiting) .linear 0x7F0000200000 0x70100000 4096 .blank =
        .ok t.dma.descriptor.dscrCount t ∧
      t.dma.descriptor.dscrType = .linear ∧
      Geometry t.dma.descriptor 0x7F0000200000 0x70100000 4096 :=
  createBDList_geometry (.ideal .waiting) .blank .linear 0x7F0000200000 0x70100000 4096
    (by decide) (by decide) (by decide) (by decide)

end ZynqmpDma.XZDma
