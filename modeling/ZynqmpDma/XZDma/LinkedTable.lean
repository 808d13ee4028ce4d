import ZynqmpDma.XZDma.LinearTable

namespace ZynqmpDma.XZDma

open Base

structure LlDscr extends LiDscr where
  nextDscr : BitVec 64
  reserved : BitVec 64
deriving DecidableEq, Repr

def llDscrAt (f : ℕ → BitVec 8) (o : ℕ) : LlDscr where
  toLiDscr := liDscrAt f o
  nextDscr := BitVec.ofNat 64 (valueAt f (o + 16) 8)
  reserved := BitVec.ofNat 64 (valueAt f (o + 24) 8)

theorem llDscrAt_congr {f g : ℕ → BitVec 8} {o : ℕ}
    (same : ∀ k, o ≤ k → k < o + 32 → f k = g k) : llDscrAt f o = llDscrAt g o := by
  have linear : liDscrAt f o = liDscrAt g o :=
    liDscrAt_congr fun k low high => same k low (by omega)
  have nextDscr : valueAt f (o + 16) 8 = valueAt g (o + 16) 8 :=
    valueAt_congr fun k low high => same k (by omega) (by omega)
  have reserved : valueAt f (o + 24) 8 = valueAt g (o + 24) 8 :=
    valueAt_congr fun k low high => same k (by omega) (by omega)
  simp only [llDscrAt, linear, nextDscr, reserved]

def llLayout : Layout LlDscr where
  size := 32
  fields d := liLayout.fields d.toLiDscr ++
    [⟨16, 8, d.nextDscr.toNat⟩, ⟨24, 8, d.reserved.toNat⟩]
  read := llDscrAt
  inside := by simp [liLayout]
  separate := by simp [liLayout, Field.Apart]
  read_congr := llDscrAt_congr
  read_fields := by
    intro f o d fields
    have nextDscr := d.nextDscr.isLt
    have reserved := d.reserved.isLt
    have linear : liDscrAt f o = d.toLiDscr :=
      liLayout.read_fields fun field member => fields field (List.mem_append_left _ member)
    have nextDscr' := fields ⟨16, 8, d.nextDscr.toNat⟩ (by simp)
    have reserved' := fields ⟨24, 8, d.reserved.toNat⟩ (by simp)
    simp only at nextDscr' reserved'
    rw [Nat.mod_eq_of_lt (by omega)] at nextDscr' reserved'
    simp only [llDscrAt, linear, nextDscr', reserved', BitVec.ofNat_toNat, BitVec.setWidth_eq]
  read_shift f o k := by simp only [llDscrAt, liDscrAt, valueAt, Nat.add_assoc]

def srcLlDscr (data : Transfer) (isLast : Bool) (nextDscr : BitVec 64) : LlDscr where
  toLiDscr := srcLiDscr data isLast
  nextDscr := nextDscr
  reserved := 0

def dstLlDscr (data : Transfer) (nextDscr : BitVec 64) : LlDscr where
  toLiDscr := dstLiDscr data
  nextDscr := nextDscr
  reserved := 0

theorem configLinkedList_run (env : Env) (dscrPtr addr : BitVec 64) (size ctrlValue : BitVec 32)
    (nextDscr : BitVec 64) (s : System) (pointer : Passes env (dscrPtr ≠ 0))
    (address : Passes env (addr ≠ 0)) :
    configLinkedList env dscrPtr addr size ctrlValue nextDscr s =
      .ok () (s.putFields dscrPtr
        (llLayout.fields ⟨⟨addr, size &&& word2SizeMask, ctrlValue⟩, nextDscr, 0⟩)) := by
  have start : dscrPtr + BitVec.ofNat 64 0 = dscrPtr := BitVec.add_zero dscrPtr
  unfold configLinkedList
  rw [xilAssert_passes _ _ pointer, xilAssert_passes _ _ address]
  simp only [System.putFields, llLayout, liLayout, List.cons_append, List.nil_append,
    List.foldl_cons, List.foldl_nil, start]
  rfl

theorem linkedListMode_run (env : Env) (data : Transfer) (src dst : BitVec 64) (isLast : Bool)
    (s : System) (srcPointer : Passes env (src ≠ 0)) (dstPointer : Passes env (dst ≠ 0))
    (srcAddress : Passes env (data.srcAddr ≠ 0)) (dstAddress : Passes env (data.dstAddr ≠ 0)) :
    linkedListMode env data src dst isLast s =
      .ok () ((s.putFields src (llLayout.fields
          (srcLlDscr data isLast (nextDscrAddr src isLast)))).putFields dst
        (llLayout.fields (dstLlDscr data (nextDscrAddr dst isLast)))) := by
  unfold linkedListMode
  rw [xilAssert_passes _ _ srcPointer, xilAssert_passes _ _ dstPointer,
    bind_ok _ (configLinkedList_run env src _ _ _ _ s srcPointer srcAddress),
    configLinkedList_run env dst _ _ _ _ _ dstPointer dstAddress]
  rfl

/-- The linked-list branch of `XZDma_ScatterGather` links each slot to the next one. -/
theorem writeDescriptors_linkedList_fills (env : Env) (dscr : Descriptor) (data : ℕ → Transfer)
    (num : BitVec 32) (base : BitVec 64) (dstOffset : ℕ) (s : System)
    (linked : dscr.dscrType = .linkedList) (srcTable : dscr.srcDscrPtr = base)
    (dstTable : dscr.dstDscrPtr = base + BitVec.ofNat 64 dstOffset) (nonempty : num ≠ 0)
    (apart : 32 * num.toNat ≤ dstOffset) (room : dstOffset + 32 * num.toNat ≤ 2 ^ 64)
    (pass : SlotsPass env base dstOffset 32 num.toNat data) :
    ∃ s', writeDescriptors env dscr data num s = .ok () s' ∧
      Filled llLayout base dstOffset
        (fun j => srcLlDscr (data j) (decide (j + 1 = num.toNat))
          (nextDscrAddr (base + BitVec.ofNat 64 (32 * j)) (decide (j + 1 = num.toNat))))
        (fun j => dstLlDscr (data j)
          (nextDscrAddr (base + BitVec.ofNat 64 (dstOffset + 32 * j))
            (decide (j + 1 = num.toNat)))) s s' num.toNat := by
  have stride : (32 : BitVec 64) = BitVec.ofNat 64 llLayout.size := rfl
  have other : dscr.dscrType ≠ .linear := by simp only [linked, ne_eq, reduceCtorEq,
    not_false_eq_true]
  unfold writeDescriptors
  rw [if_neg other, srcTable, dstTable]
  apply dscrLoop_fills s stride nonempty apart room
  intro j hj s
  exact linkedListMode_run env (data j) _ _ (decide (j + 1 = num.toNat)) s
    (pass.srcPointer j hj) (pass.dstPointer j hj) (pass.addresses j hj).1 (pass.addresses j hj).2

end ZynqmpDma.XZDma
