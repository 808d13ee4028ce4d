import ZynqmpDma.XZDma.BusWalk

namespace ZynqmpDma.XZDma

open Base

def programmed (dscr : Descriptor) (data : ℕ → Transfer) (n : ℕ) :
    List (BusKey × (LiDscr × LiDscr)) :=
  (List.range n).map fun i => (dscr.slotKey i,
    (srcLiDscr (data i) (decide (i + 1 = n)), dstLiDscr (data i)))

/-- However the channel is paused and resumed, it fetches nothing but the list, and once it was
    resumed often enough it has run the whole list and stopped. -/
def EndsWithList (dscr : Descriptor) (b : BusBuffer) (data : ℕ → Transfer) (n : ℕ) (s : System) :
    Prop :=
  (∀ actions, (s.listEngine linearFormat b actions).visited <+: programmed dscr data n) ∧
  ∀ k, n ≤ k → (s.listEngine linearFormat b (Engine.rounds k)).phase = .stopped ∧
    (s.listEngine linearFormat b (Engine.rounds k)).visited = programmed dscr data n

section Pauses

variable {dscr : Descriptor} {virt phys : BitVec 64} {noOfBytes : BitVec 32}
  (set : TablesSet dscr .linear virt phys noOfBytes) {data : ℕ → Transfer} {n : ℕ}
  {s t : System} (written : ListWritten dscr data n s t) (positive : 0 < n)

include set written positive

theorem TablesSet.endsWithList (fits : n ≤ dscr.count) (stops : (data (n - 1)).pause ≠ TRUE) :
    EndsWithList dscr ⟨virt, phys, noOfBytes.toNat⟩ data n (t.setStart dscr) := by
  have walk := set.listWalk_linear written positive fits stops
  constructor
  · exact fun actions => Engine.run_visited walk actions
  · intro k enough
    have length : (programmed dscr data n).length = n := by
      rw [programmed, List.length_map, List.length_range]
    exact Engine.run_rounds walk (length.trans_le enough)

/-- A last element that pauses leaves the channel in front of the slot behind the list, and the
    next resume makes it fetch what lies there. -/
theorem TablesSet.overruns (fits : n < dscr.count) (pauses : (data (n - 1)).pause = TRUE) :
    ∃ leftover, ((t.setStart dscr).listEngine linearFormat ⟨virt, phys, noOfBytes.toNat⟩
      (Engine.rounds (n + 1))).visited =
        programmed dscr data n ++ [(dscr.slotKey n, leftover)] := by
  have stride : linearFormat.layout.size = dscr.size := set.size_eq.symm
  have fetched (i : ℕ) (hi : i < n) :
      linearFormat.fetchPair ⟨virt, phys, noOfBytes.toNat⟩ (t.setStart dscr).machine.mem
        (dscr.slotKey i) =
          some (srcLiDscr (data i) (decide (i + 1 = n)), dstLiDscr (data i)) := by
    rw [set.fetchPair_slot linearFormat stride _ (by omega)]
    exact congrArg some (Prod.ext (written.src i hi) (written.dst i hi))
  have going (i : ℕ) (hi : i < n) :
      linearFormat.command (srcLiDscr (data i) (decide (i + 1 = n)), dstLiDscr (data i)) ≠
        .stop := by
    rw [linearFormat.command_src rfl, ne_eq, elementCommand_stop, decide_eq_true_eq]
    rintro ⟨running, rfl⟩
    exact running pauses
  obtain ⟨phase, visited⟩ := Engine.rounds_table dscr.slotKey _ fetched
    (fun i _ => set.slotKey_succ_linear i _) going
  have behind := set.fetchPair_slot linearFormat stride (t.setStart dscr).machine.mem fits
  rw [System.listEngine, setStart_listStart, Engine.rounds_succ,
    Engine.round_fetches phase behind, visited]
  exact ⟨_, rfl⟩

theorem EndsWithList.stops (fits : n < dscr.count)
    (ends : EndsWithList dscr ⟨virt, phys, noOfBytes.toNat⟩ data n (t.setStart dscr)) :
    (data (n - 1)).pause ≠ TRUE := by
  intro pauses
  obtain ⟨leftover, visited⟩ := set.overruns written positive fits pauses
  have short := (ends.1 (Engine.rounds (n + 1))).length_le
  rw [visited, List.length_append, List.length_singleton] at short
  omega

end Pauses

section Start

variable (env : Env) {s : System} {virt phys : BitVec 64} {noOfBytes : BitVec 32}
  {data : ℕ → Transfer} {num : BitVec 32}
  (set : TablesSet s.dma.descriptor .linear virt phys noOfBytes)
  (room : virt.toNat + noOfBytes.toNat ≤ 2 ^ 64) (sg : s.dma.isSgDma = TRUE) (nonempty : num ≠ 0)
  (fits : num < s.dma.descriptor.dscrCount)
  (addresses : ∀ i < num.toNat, (data i).srcAddr ≠ 0 ∧ (data i).dstAddr ≠ 0)

include set room sg nonempty fits addresses

theorem TablesSet.start_short : ∃ t, start env data num s =
    .ok xstSuccess (t.setStart s.dma.descriptor) ∧
      ListWritten s.dma.descriptor data num.toNat s t := by
  have admitted : ¬ Refused s num := by
    rintro ⟨_, full⟩
    bv_omega
  exact set.start_written env room sg admitted nonempty (by bv_omega) addresses

theorem ends_only (ends : ∃ s', start env data num s = .ok xstSuccess s' ∧
    EndsWithList s.dma.descriptor ⟨virt, phys, noOfBytes.toNat⟩ data num.toNat s') :
    (data (num.toNat - 1)).pause ≠ TRUE := by
  obtain ⟨t, started, written⟩ := set.start_short env room sg nonempty fits addresses
  rcases ends with ⟨s', run, ends⟩
  rw [started] at run
  cases run
  exact ends.stops set written (by bv_omega) fits

end Start

/-- A pause flag on the last element takes the place of the end of the list. -/
theorem start_endsWithList_iff (env : Env) (s : System) (virt phys : BitVec 64)
    (noOfBytes : BitVec 32) (data : ℕ → Transfer) (num : BitVec 32)
    (set : TablesSet s.dma.descriptor .linear virt phys noOfBytes)
    (room : virt.toNat + noOfBytes.toNat ≤ 2 ^ 64) (sg : s.dma.isSgDma = TRUE)
    (nonempty : 1 ≤ num) (fits : num < s.dma.descriptor.dscrCount)
    (addresses : ∀ i < num.toNat, (data i).srcAddr ≠ 0 ∧ (data i).dstAddr ≠ 0) :
    (∃ s', start env data num s = .ok xstSuccess s' ∧
      EndsWithList s.dma.descriptor ⟨virt, phys, noOfBytes.toNat⟩ data num.toNat s') ↔
      (data (num.toNat - 1)).pause ≠ TRUE := by
  have nonempty : num ≠ 0 := by bv_omega
  constructor
  · intro ends
    exact ends_only env set room sg nonempty fits addresses ends
  · intro stops
    obtain ⟨t, started, written⟩ := set.start_short env room sg nonempty fits addresses
    exact ⟨_, started, set.endsWithList written (by bv_omega) (Nat.le_of_lt fits) stops⟩

theorem start_endsWithList_iff_pausing :
    (∃ s', start (.ideal .waiting)
        (fun i => ⟨0x70300000, 0x70400000, 64, 0, 0, if i = 0 then 1 else 0⟩) 2
        (.scatterGather .idle (bdTables .linear 0x7F0000200000 0x70100000 4096)) =
          .ok xstSuccess s' ∧
      EndsWithList (bdTables .linear 0x7F0000200000 0x70100000 4096)
        ⟨0x7F0000200000, 0x70100000, 4096⟩
        (fun i => ⟨0x70300000, 0x70400000, 64, 0, 0, if i = 0 then 1 else 0⟩) 2 s') ↔
      (if 1 = 0 then (1 : BitVec 8) else 0) ≠ TRUE :=
  start_endsWithList_iff (.ideal .waiting)
    (.scatterGather .idle (bdTables .linear 0x7F0000200000 0x70100000 4096)) 0x7F0000200000
    0x70100000 4096 (fun i => ⟨0x70300000, 0x70400000, 64, 0, 0, if i = 0 then 1 else 0⟩) 2
    (tablesSet_bdTables .linear 0x7F0000200000 0x70100000 4096 (by decide) (by decide))
    (by decide) rfl (by decide) (by decide) (by decide)

/-- One element that pauses. -/
theorem start_pauses_past_end :
    ¬ ∃ s', start (.ideal .waiting) (fun _ => ⟨0x70300000, 0x70400000, 64, 0, 0, 1⟩) 1
        (.scatterGather .idle (bdTables .linear 0x7F0000200000 0x70100000 4096)) =
          .ok xstSuccess s' ∧
      EndsWithList (bdTables .linear 0x7F0000200000 0x70100000 4096)
        ⟨0x7F0000200000, 0x70100000, 4096⟩ (fun _ => ⟨0x70300000, 0x70400000, 64, 0, 0, 1⟩) 1
        s' := by
  intro ends
  have stops := ends_only (.ideal .waiting)
    (s := .scatterGather .idle (bdTables .linear 0x7F0000200000 0x70100000 4096))
    (tablesSet_bdTables .linear 0x7F0000200000 0x70100000 4096 (by decide) (by decide))
    (by decide) rfl (by decide) (by decide) (by decide) ends
  exact stops rfl

end ZynqmpDma.XZDma
