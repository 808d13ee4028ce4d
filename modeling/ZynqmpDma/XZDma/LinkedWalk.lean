import ZynqmpDma.XZDma.BusWalk

namespace ZynqmpDma.XZDma

open Base

/-- In whatever tables of linear descriptors the list is started, the channel runs these
    transfers. -/
def LinearTwins (data : ℕ → Transfer) (num : BitVec 32)
    (triples : List (BitVec 64 × BitVec 64 × BitVec 32)) : Prop :=
  ∀ (env : Env) (t : System) (virt phys : BitVec 64) (noOfBytes : BitVec 32),
    TablesSet t.dma.descriptor .linear virt phys noOfBytes →
    virt.toNat + noOfBytes.toNat ≤ 2 ^ 64 → t.dma.isSgDma = TRUE → t.dma.channelState = .idle →
    num ≤ t.dma.descriptor.dscrCount →
    ∃ t' fuel visited, start env data num t = .ok xstSuccess t' ∧
      t'.listWalk linearFormat ⟨virt, phys, noOfBytes.toNat⟩ fuel = some visited ∧
      visited.map (fun entry => linearFormat.triple entry.2) = triples

/-- The channel that follows the links in memory comes by the slots of the list in order, stops at
    the last one and runs the transfers that the linear format gives. -/
def FollowsLinks (dscr : Descriptor) (b : BusBuffer) (data : ℕ → Transfer) (num : BitVec 32)
    (s : System) : Prop :=
  ∃ fuel visited, s.listWalk linkedFormat b fuel = some visited ∧
    visited.map Prod.fst = (List.range num.toNat).map dscr.slotKey ∧
    (∀ last ∈ visited.getLast?, last.2.1.cntl &&& word3CmdMask = word3CmdStopMask) ∧
    LinearTwins data num (visited.map fun entry => linkedFormat.triple entry.2)

theorem linearTwins (data : ℕ → Transfer) {num : BitVec 32} (nonempty : num ≠ 0)
    (addresses : ∀ i < num.toNat, (data i).srcAddr ≠ 0 ∧ (data i).dstAddr ≠ 0)
    (noPause : ∀ i < num.toNat, (data i).pause ≠ TRUE) :
    LinearTwins data num ((List.range num.toNat).map fun i =>
      ((data i).srcAddr, (data i).dstAddr, (data i).size &&& word2SizeMask)) := by
  intro env t virt phys noOfBytes set room sg idle fits
  have positive : 0 < num.toNat := by bv_omega
  obtain ⟨u, started, written⟩ := set.start_written env room sg (admitted_of_idle num idle)
    nonempty fits addresses
  refine ⟨_, _, _, started, set.listWalk_linear written positive fits
    (noPause _ (by omega)), ?_⟩
  rw [List.map_map]
  rfl

section Linked

def linkedPair (dscr : Descriptor) (data : ℕ → Transfer) (n i : ℕ) : LlDscr × LlDscr :=
  (srcLlDscr (data i) (decide (i + 1 = n)) (nextDscrAddr (dscr.srcSlot i) (decide (i + 1 = n))),
    dstLlDscr (data i) (nextDscrAddr (dscr.dstSlot i) (decide (i + 1 = n))))

variable {dscr : Descriptor} {virt phys : BitVec 64} {noOfBytes : BitVec 32}
  (set : TablesSet dscr .linkedList virt phys noOfBytes) {data : ℕ → Transfer} {n i : ℕ}

include set

/-- The link of a pair leads to the bus addresses that the driver's pointers have, cut to the
    bus. -/
theorem TablesSet.nextPair_linked (more : i + 1 < n) :
    linkedFormat.nextPair (dscr.slotKey i) (linkedPair dscr data n i) =
      (virt.setWidth 49 + BitVec.ofNat 49 (32 * (i + 1)),
        virt.setWidth 49 + BitVec.ofNat 49 (32 * dscr.count + 32 * (i + 1))) := by
  have stride : dscr.size = 32 := set.size_eq
  have next (o : ℕ) : (virt + BitVec.ofNat 64 o + 32).setWidth 49 =
      virt.setWidth 49 + BitVec.ofNat 49 (o + 32) := by
    rw [← busAddress_add]
    exact congrArg _ (offset_add virt o 32)
  have other : i + 1 ≠ n := by omega
  simp only [Format.nextPair, linkedFormat, linkedPair, srcLlDscr, dstLlDscr, nextDscrAddr, other,
    decide_false, Bool.false_eq_true, ite_false, set.srcSlot_eq, set.dstSlot_eq, stride, next]
  rw [Nat.mul_succ, Nat.add_assoc]

theorem TablesSet.slotKey_linked (i : ℕ) :
    dscr.slotKey i = (phys.setWidth 49 + BitVec.ofNat 49 (32 * i),
      phys.setWidth 49 + BitVec.ofNat 49 (32 * dscr.count + 32 * i)) := by
  have stride : dscr.size = 32 := set.size_eq
  rw [Descriptor.slotKey, set.physSrcSlot_eq, set.physDstSlot_eq, stride, busAddress_add,
    busAddress_add]

/-- The links are those of the table exactly where both bases agree on the bus. -/
theorem TablesSet.linked_iff (more : i + 1 < n) :
    linkedFormat.nextPair (dscr.slotKey i) (linkedPair dscr data n i) = dscr.slotKey (i + 1) ↔
      virt.setWidth 49 = phys.setWidth 49 := by
  rw [set.nextPair_linked more, set.slotKey_linked]
  constructor
  · intro same
    exact (BitVec.add_left_inj _).mp (Prod.mk.inj same).1
  · intro same
    rw [same]

variable {s t : System} (written : ListWritten dscr data n s t) (fits : n ≤ dscr.count)

include written

theorem ListWritten.linkedPair_read (hi : i < n) :
    (linkedFormat.layout.read (window t.machine.mem (dscr.srcSlot i)) 0,
      linkedFormat.layout.read (window t.machine.mem (dscr.dstSlot i)) 0) =
        linkedPair dscr data n i :=
  Prod.ext (written.srcLink set.dscrType_eq i hi) (written.dstLink set.dscrType_eq i hi)

include fits

theorem TablesSet.followsLinks {num : BitVec 32} (count : num.toNat = n) (nonempty : num ≠ 0)
    (addresses : ∀ i < n, (data i).srcAddr ≠ 0 ∧ (data i).dstAddr ≠ 0)
    (noPause : ∀ i < n, (data i).pause ≠ TRUE)
    (followable : virt.setWidth 49 = phys.setWidth 49 ∨ n = 1) :
    FollowsLinks dscr ⟨virt, phys, noOfBytes.toNat⟩ data num (t.setStart dscr) := by
  have positive : 0 < n := by bv_omega
  have stride : linkedFormat.layout.size = dscr.size := set.size_eq.symm
  have commands (i : ℕ) (hi : i < n) :
      linkedFormat.command (linkedPair dscr data n i) = .stop ↔ i + 1 = n := by
    rw [linkedFormat.command_src rfl, elementCommand_stop, decide_eq_true_eq]
    exact ⟨fun stop => stop.2, fun last => ⟨noPause i hi, last⟩⟩
  have read (i : ℕ) (hi : i < n) := written.linkedPair_read set hi
  have walk := set.listWalk_slots linkedFormat stride (setStart_listStart t dscr) positive fits
    read (fun i more => (set.linked_iff more).mpr (followable.resolve_right (by omega)))
    (fun i hi => decide_eq_decide.mpr (commands i hi))
  refine ⟨n, _, walk, ?_, ?_, ?_⟩
  · rw [List.map_map, count]
    rfl
  · intro last member
    rw [List.getLast?_map, List.getLast?_range, if_neg (by omega)] at member
    obtain rfl := Option.some.inj member
    have stop := (commands (n - 1) (by omega)).mpr (by omega)
    exact (linkedFormat.command_eq_stop _).mp stop
  · subst count
    have twins := linearTwins data nonempty addresses noPause
    rw [List.map_map]
    exact twins

theorem FollowsLinks.followable {num : BitVec 32} (count : num.toNat = n) (nonempty : num ≠ 0)
    (follows : FollowsLinks dscr ⟨virt, phys, noOfBytes.toNat⟩ data num (t.setStart dscr)) :
    virt.setWidth 49 = phys.setWidth 49 ∨ n = 1 := by
  by_cases one : n = 1
  · exact .inr one
  · have stride : linkedFormat.layout.size = dscr.size := set.size_eq.symm
    obtain ⟨m, rfl⟩ : ∃ m, n = m + 2 := ⟨n - 2, by bv_omega⟩
    obtain ⟨fuel, visited, walk, keys, _⟩ := follows
    rw [System.listWalk, setStart_listStart] at walk
    obtain ⟨record, rest, fetched, rfl, further⟩ := follow_cases walk
    rw [count, List.range_succ_eq_map, List.range_succ_eq_map] at keys
    simp only [List.map_cons, List.map_map, List.cons.injEq] at keys
    have first : record = linkedPair dscr data (m + 2) 0 := by
      rw [set.fetchPair_slot linkedFormat stride _ (by omega)] at fetched
      exact (Option.some.inj fetched).symm.trans (written.linkedPair_read set (by omega))
    rcases further with ⟨_, rfl⟩ | ⟨_, fuel', walk'⟩
    · cases keys.2
    · obtain ⟨record', rest', _, rfl, _⟩ := follow_cases walk'
      have second : linkedFormat.nextPair (dscr.slotKey 0) record = dscr.slotKey 1 :=
        (List.cons.inj keys.2).1
      rw [first] at second
      exact .inl ((set.linked_iff (by omega)).mp second)

end Linked

theorem follows_only (env : Env) {s : System} {virt phys : BitVec 64} {noOfBytes : BitVec 32}
    {data : ℕ → Transfer} {num : BitVec 32}
    (set : TablesSet s.dma.descriptor .linkedList virt phys noOfBytes)
    (room : virt.toNat + noOfBytes.toNat ≤ 2 ^ 64) (sg : s.dma.isSgDma = TRUE)
    (admitted : ¬ Refused s num) (nonempty : num ≠ 0) (fits : num ≤ s.dma.descriptor.dscrCount)
    (addresses : ∀ i < num.toNat, (data i).srcAddr ≠ 0 ∧ (data i).dstAddr ≠ 0)
    (follows : ∃ s', start env data num s = .ok xstSuccess s' ∧
      FollowsLinks s.dma.descriptor ⟨virt, phys, noOfBytes.toNat⟩ data num s') :
    virt.setWidth 49 = phys.setWidth 49 ∨ num.toNat = 1 := by
  obtain ⟨t, started, written⟩ := set.start_written env room sg admitted nonempty fits addresses
  rcases follows with ⟨s', run, follows⟩
  rw [started] at run
  cases run
  exact follows.followable set written fits rfl nonempty

/-- A channel that `XZDma_Start` does not turn down can follow the links, which hold the driver's
    virtual addresses, where these are its own addresses, and where there is nothing to follow. -/
theorem start_followsLinks_iff (env : Env) (s : System) (virt phys : BitVec 64)
    (noOfBytes : BitVec 32) (data : ℕ → Transfer) (num : BitVec 32)
    (set : TablesSet s.dma.descriptor .linkedList virt phys noOfBytes)
    (room : virt.toNat + noOfBytes.toNat ≤ 2 ^ 64) (sg : s.dma.isSgDma = TRUE)
    (nonempty : 1 ≤ num) (fits : num ≤ s.dma.descriptor.dscrCount)
    (addresses : ∀ i < num.toNat, (data i).srcAddr ≠ 0 ∧ (data i).dstAddr ≠ 0)
    (noPause : ∀ i < num.toNat, (data i).pause ≠ TRUE) :
    (∃ s', start env data num s = .ok xstSuccess s' ∧
      FollowsLinks s.dma.descriptor ⟨virt, phys, noOfBytes.toNat⟩ data num s') ↔
      ¬ Refused s num ∧ (virt.setWidth 49 = phys.setWidth 49 ∨ num = 1) := by
  have nonempty : num ≠ 0 := by bv_omega
  have one : num = 1 ↔ num.toNat = 1 := by bv_omega
  rw [one]
  constructor
  · intro follows
    have admitted : ¬ Refused s num := by
      intro refused
      obtain ⟨s', run, _⟩ := follows
      rw [start_refused env data nonempty refused] at run
      cases run
    exact ⟨admitted, follows_only env set room sg admitted nonempty fits addresses follows⟩
  · rintro ⟨admitted, followable⟩
    obtain ⟨t, started, written⟩ := set.start_written env room sg admitted nonempty fits addresses
    exact ⟨_, started, set.followsLinks written fits rfl nonempty addresses noPause followable⟩

theorem start_followsLinks_iff_same :
    (∃ s', start (.ideal .waiting) (fun _ => ⟨0x70300000, 0x70400000, 64, 0, 0, 0⟩) 2
        (.scatterGather .idle (bdTables .linkedList 0x70100000 0x70100000 4096)) =
          .ok xstSuccess s' ∧
      FollowsLinks (bdTables .linkedList 0x70100000 0x70100000 4096)
        ⟨0x70100000, 0x70100000, 4096⟩ (fun _ => ⟨0x70300000, 0x70400000, 64, 0, 0, 0⟩) 2 s') ↔
      ¬ Refused (.scatterGather .idle (bdTables .linkedList 0x70100000 0x70100000 4096)) 2 ∧
        ((0x70100000 : BitVec 64).setWidth 49 = (0x70100000 : BitVec 64).setWidth 49 ∨
          (2 : BitVec 32) = 1) :=
  start_followsLinks_iff (.ideal .waiting)
    (.scatterGather .idle (bdTables .linkedList 0x70100000 0x70100000 4096)) 0x70100000 0x70100000
    4096 _ 2 (tablesSet_bdTables .linkedList 0x70100000 0x70100000 4096 (by decide) (by decide))
    (by decide) rfl (by decide) (by decide) (by decide) (by decide)

theorem start_loses_links :
    ¬ ∃ s', start (.ideal .waiting) (fun _ => ⟨0x70300000, 0x70400000, 64, 0, 0, 0⟩) 2
        (.scatterGather .idle (bdTables .linkedList 0x7F0000200000 0x70100000 4096)) =
          .ok xstSuccess s' ∧
      FollowsLinks (bdTables .linkedList 0x7F0000200000 0x70100000 4096)
        ⟨0x7F0000200000, 0x70100000, 4096⟩ (fun _ => ⟨0x70300000, 0x70400000, 64, 0, 0, 0⟩) 2
        s' := by
  intro follows
  have followable := follows_only (.ideal .waiting)
    (s := .scatterGather .idle (bdTables .linkedList 0x7F0000200000 0x70100000 4096))
    (tablesSet_bdTables .linkedList 0x7F0000200000 0x70100000 4096 (by decide) (by decide))
    (by decide) rfl (by decide) (by decide) (by decide) (by decide) follows
  revert followable
  decide

end ZynqmpDma.XZDma
