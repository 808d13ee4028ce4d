import ZynqmpDma.XZDma.ListWriting

namespace ZynqmpDma

open Base XZDma

def Event.StoreIn (bytes : Set (BitVec 64)) (e : Event) : Prop :=
  ∃ a width, e = .store a width ∧ block a width ⊆ bytes

namespace XZDma

/-- The call wrote `n` descriptors into each table, every one of them into its own slot. -/
structure OwnSlots (dscr : Descriptor) (region : Set (BitVec 64)) (data : ℕ → Transfer) (n : ℕ)
    (s s' : System) : Prop where
  stores : ∃ starts, s'.machine.log = starts ++ (listStores dscr n).reverse ++ s.machine.log ∧
    ∀ e ∈ starts, RegisterAccess s.dma.config.baseAddress e
  src : ∀ i < n, ∀ e ∈ dscrStores dscr.dscrType (dscr.srcSlot i), e.StoreIn (dscr.srcBytes i)
  dst : ∀ i < n, ∀ e ∈ dscrStores dscr.dscrType (dscr.dstSlot i), e.StoreIn (dscr.dstBytes i)
  inside : ∀ i < n, dscr.srcBytes i ⊆ region ∧ dscr.dstBytes i ⊆ region
  apart : ∀ i < n, ∀ j < n, Disjoint (dscr.srcBytes i) (dscr.dstBytes j)
  srcHolds : ∀ i < n, s'.machine.liDscr (dscr.srcSlot i) = srcLiDscr (data i) (decide (i + 1 = n))
  dstHolds : ∀ i < n, s'.machine.liDscr (dscr.dstSlot i) = dstLiDscr (data i)

/-- `XZDma_Start` turns the list down and changes nothing, or it had an idle channel with room for
    the list and wrote it in place. -/
def StartSafe (env : Env) (data : ℕ → Transfer) (num : BitVec 32) (region : Set (BitVec 64))
    (s : System) : Prop :=
  (∃ s', start env data num s = .ok xstFailure s' ∧ s'.machine.mem = s.machine.mem ∧
    s'.machine.io = s.machine.io ∧ s'.machine.fpdDmaRefCtrl = s.machine.fpdDmaRefCtrl) ∨
  (s.dma.channelState = .idle ∧ num ≤ s.dma.descriptor.dscrCount ∧
    ∃ s', start env data num s = .ok xstSuccess s' ∧
      OwnSlots s.dma.descriptor region data num.toNat s s')

theorem dscrStores_inside (typeOfDscr : DscrType) (ptr : BitVec 64) {e : Event}
    (member : e ∈ dscrStores typeOfDscr ptr) :
    e.StoreIn (block ptr typeOfDscr.size.toNat) := by
  have part (o width : ℕ) (room : o + width ≤ typeOfDscr.size.toNat)
      (small : typeOfDscr.size.toNat ≤ 2 ^ 64) :
      block (ptr + BitVec.ofNat 64 o) width ⊆ block ptr typeOfDscr.size.toNat := by
    rw [← block_offset_zero ptr typeOfDscr.size.toNat]
    exact block_offset_subset ptr (Nat.zero_le o) (by omega) (by omega)
  have whole (width : ℕ) (room : width ≤ typeOfDscr.size.toNat)
      (small : typeOfDscr.size.toNat ≤ 2 ^ 64) :
      block ptr width ⊆ block ptr typeOfDscr.size.toNat := by
    rw [← block_offset_zero ptr width]
    exact part 0 width (by omega) small
  cases typeOfDscr with
  | linear =>
    simp only [dscrStores, ite_true, List.append_nil, List.mem_cons, List.not_mem_nil,
      or_false] at member
    rcases member with rfl | rfl | rfl
    · exact ⟨_, _, rfl, whole 8 (by decide) (by decide)⟩
    · exact ⟨_, _, rfl, part 8 4 (by decide) (by decide)⟩
    · exact ⟨_, _, rfl, part 12 4 (by decide) (by decide)⟩
  | linkedList =>
    simp only [dscrStores, reduceCtorEq, ite_false, List.cons_append, List.nil_append,
      List.mem_cons, List.not_mem_nil, or_false] at member
    rcases member with rfl | rfl | rfl | rfl | rfl
    · exact ⟨_, _, rfl, whole 8 (by decide) (by decide)⟩
    · exact ⟨_, _, rfl, part 8 4 (by decide) (by decide)⟩
    · exact ⟨_, _, rfl, part 12 4 (by decide) (by decide)⟩
    · exact ⟨_, _, rfl, part 16 8 (by decide) (by decide)⟩
    · exact ⟨_, _, rfl, part 24 8 (by decide) (by decide)⟩

theorem start_failure {env : Env} {data : ℕ → Transfer} {num : BitVec 32} {s s' : System}
    (nonempty : num ≠ 0) (sg : s.dma.isSgDma = TRUE)
    (run : start env data num s = .ok xstFailure s') : Refused s num := by
  by_contra admitted
  rw [start_admitted env data (.inl nonempty) sg admitted] at run
  obtain ⟨_, t, _, done⟩ := bind_ok_inv run
  cases done

theorem StartSafe.admits {env : Env} {data : ℕ → Transfer} {num : BitVec 32}
    {region : Set (BitVec 64)} {s : System} (safe : StartSafe env data num region s)
    (nonempty : num ≠ 0) (sg : s.dma.isSgDma = TRUE) :
    (s.dma.channelState = .busy ∧ num ≥ s.dma.descriptor.dscrCount) ∨
      (s.dma.channelState = .idle ∧ num ≤ s.dma.descriptor.dscrCount) := by
  rcases safe with ⟨s', run, _⟩ | ⟨idle, fits, _⟩
  · exact .inl (start_failure nonempty sg run)
  · exact .inr ⟨idle, fits⟩

theorem ListWritten.ownSlots {data : ℕ → Transfer} {n : ℕ} {s t : System} {typeOfDscr : DscrType}
    {virt phys : BitVec 64} {noOfBytes : BitVec 32}
    (set : TablesSet s.dma.descriptor typeOfDscr virt phys noOfBytes)
    (written : ListWritten s.dma.descriptor data n s t) (fits : n ≤ s.dma.descriptor.count) :
    OwnSlots s.dma.descriptor (block virt noOfBytes.toNat) data n s
      (t.setStart s.dma.descriptor) := by
  obtain ⟨starts, log, registers⟩ := (t.setStart_accesses s.dma.descriptor).log
  rw [written.dma] at registers
  constructor
  · exact ⟨starts, by rw [log, written.log, List.append_assoc], registers⟩
  · exact fun i _ e member => dscrStores_inside _ _ member
  · exact fun i _ e member => dscrStores_inside _ _ member
  · exact fun i hi => ⟨set.src_subset (by omega), set.dst_subset (by omega)⟩
  · exact fun i hi j hj => set.src_dst_disjoint (by omega) (by omega)
  · exact written.src
  · exact written.dst

/-- The guard joins the state and the count with "and", so a list is treated safely only where
    both speak against it or neither does. -/
theorem start_safe_iff (env : Env) (s : System) (typeOfDscr : DscrType) (virt phys : BitVec 64)
    (noOfBytes : BitVec 32) (data : ℕ → Transfer) (num : BitVec 32)
    (set : TablesSet s.dma.descriptor typeOfDscr virt phys noOfBytes)
    (room : virt.toNat + noOfBytes.toNat ≤ 2 ^ 64) (sg : s.dma.isSgDma = TRUE)
    (nonempty : 1 ≤ num)
    (addresses : ∀ i < num.toNat, (data i).srcAddr ≠ 0 ∧ (data i).dstAddr ≠ 0) :
    StartSafe env data num (block virt noOfBytes.toNat) s ↔
      (s.dma.channelState = .busy ∧ num ≥ s.dma.descriptor.dscrCount) ∨
        (s.dma.channelState = .idle ∧ num ≤ s.dma.descriptor.dscrCount) := by
  have nonempty : num ≠ 0 := by bv_omega
  constructor
  · intro safe
    exact safe.admits nonempty sg
  · rintro (refused | ⟨idle, fits⟩)
    · exact .inl ⟨s, start_refused env data nonempty refused, rfl, rfl, rfl⟩
    · obtain ⟨t, started, written⟩ := set.start_written env room sg (admitted_of_idle num idle)
        nonempty fits addresses
      exact .inr ⟨idle, fits, _, started, written.ownSlots set fits⟩

theorem start_safe_iff_page :
    StartSafe (.ideal .waiting) (fun _ => ⟨0x70300000, 0x70400000, 64, 0, 0, 0⟩) 2
        (block 0x7F0000200000 4096)
        (.scatterGather .idle (bdTables .linear 0x7F0000200000 0x70100000 4096)) ↔
      (State.idle = .busy ∧
          2 ≥ (bdTables .linear 0x7F0000200000 0x70100000 4096).dscrCount) ∨
        (State.idle = .idle ∧
          2 ≤ (bdTables .linear 0x7F0000200000 0x70100000 4096).dscrCount) :=
  start_safe_iff (.ideal .waiting)
    (.scatterGather .idle (bdTables .linear 0x7F0000200000 0x70100000 4096)) .linear
    0x7F0000200000 0x70100000 4096 _ 2
    (tablesSet_bdTables .linear 0x7F0000200000 0x70100000 4096 (by decide) (by decide))
    (by decide) rfl (by decide) (by decide)

/-- Two elements for tables of one: the second source descriptor falls on the first destination
    descriptor. -/
theorem start_admits_overfull :
    ¬ StartSafe (.ideal .waiting) (fun _ => ⟨0x70300000, 0x70400000, 64, 0, 0, 0⟩) 2
      (block 0x7F0000200000 32)
      (.scatterGather .idle (bdTables .linear 0x7F0000200000 0x70100000 32)) := by
  intro safe
  have admits := safe.admits (by decide) rfl
  revert admits
  decide

end XZDma

end ZynqmpDma
