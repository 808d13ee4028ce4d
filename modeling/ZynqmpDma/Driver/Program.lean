import ZynqmpDma.Driver.Platform
import ZynqmpDma.Driver.Protection
import ZynqmpDma.XZDma.Movement

namespace ZynqmpDma

open Base XZDma

def TransferRequest.move (request : TransferRequest) : Move 49 :=
  (DmaDriverImpl.transferOf request).move

namespace DmaDriverImpl

variable (d : DmaDriverImpl)

def cfgNear : Set (BitVec 64) := block d.cfgAlias.near d.cfgAlias.length

def cfgFar : Set (BitVec 49) := block d.cfgAlias.far d.cfgAlias.length

def Avoids (v : Move 49) : Prop := Disjoint v.source d.cfgFar ∧ Disjoint v.target d.cfgFar

structure HoldsProgram (s : System) (moves : List (Move 49)) : Prop where
  channel : s.dma.config.baseAddress = d.zdmaConfig.baseAddress
  starts : s.listStart = d.tables.slotKey 0
  avoids : ∀ v ∈ moves, d.Avoids v
  list : ∃ data n, 0 < n ∧ n ≤ d.tables.count ∧ moves = moveList data n ∧
    (∀ i < n, (data i).pause ≠ TRUE) ∧
    ∀ i < n, liLayout.read (window s.machine.mem (d.tables.srcSlot i)) 0 =
        srcLiDscr (data i) (decide (i + 1 = n)) ∧
      liLayout.read (window s.machine.mem (d.tables.dstSlot i)) 0 = dstLiDscr (data i)

variable {d}

theorem tables_set (mapped : d.Mapped) :
    TablesSet d.tables .linear d.cfgAddr (d.cfgBuf.physAddr.setWidth 64) 4096 :=
  tablesSet_bdTables .linear d.cfgAddr (d.cfgBuf.physAddr.setWidth 64) 4096
    mapped.cfgAddr_ne_zero (by decide)

section Frame

variable {env : Env} {requests : List TransferRequest} {s t : System}

theorem configureDMA_frame (mapped : d.Mapped) (completes : d.Completes env requests)
    (run : d.configureDMA env requests s = .ok 0 t) :
    Set.EqOn t.machine.mem s.machine.mem d.cfgNearᶜ := by
  rcases completes with ⟨fits, clock, works, _, accepts⟩
  obtain ⟨r, initializes, dma, mem, control, drives, _⟩ :=
    d.configureDMA_initializes env requests s fits clock mapped.uio
  obtain ⟨u, reaches, ready⟩ :=
    d.configureChannel_reaches env requests mapped.cfgAddr_ne_zero control dma works
  have reached : d.Reached env s u := ⟨ready.dma, ready.control, drives.trans ready.accesses⟩
  obtain ⟨v, written, filled⟩ := reached.fills mapped fits accepts
  have positive : 0 < requests.length := List.length_pos_iff.mpr accepts.1
  have nonempty : BitVec.ofNat 32 requests.length ≠ 0 := by bv_omega
  have started :=
    start_sg_run env (.inl nonempty) reached.isSgDma (fun refused => reached.notBusy refused.1)
      filled.dma written
  rw [initializes, reaches, bind_ok _ started] at run
  cases run
  intro a outside
  obtain ⟨k, hk, rfl⟩ := exists_offset d.cfgAddr a
  have far : 4096 ≤ k := by
    by_contra inside
    apply outside
    show d.cfgAddr + BitVec.ofNat 64 k ∈ block d.cfgAddr 4096
    exact Alias.offset_mem d.cfgAddr (by omega) (by decide)
  have kept := filled.frame k hk (by omega) (by omega)
  rw [window, window, ready.mem, mem] at kept
  exact kept

end Frame

theorem transferData_moves (env : Env) (requests : List TransferRequest) :
    moveList (transferData env requests) requests.length =
      requests.map TransferRequest.move := by
  apply List.ext_getElem
  · rw [moveList_length, List.length_map]
  · intro j bound _
    rw [moveList_length] at bound
    simp only [moveList, List.getElem_map, List.getElem_range, transferData_get env bound]
    rfl

theorem listStart_of_starts {s : System} {dscr : Descriptor} (starts : s.starts = dscr.starts) :
    s.listStart = dscr.slotKey 0 := by
  rw [← setStart_listStart s dscr, System.listStart, System.listStart]
  have same := starts.trans (s.setStart_starts dscr).symm
  simp only [System.starts, StartValues.mk.injEq] at same
  rcases same with ⟨srcLsb, srcMsb, dstLsb, dstMsb⟩
  simp only [System.busStart, srcLsb, srcMsb, dstLsb, dstMsb]

theorem Configured.holdsProgram {env : Env} {requests : List TransferRequest} {s t : System}
    (configured : d.Configured env requests s t) (mapped : d.Mapped)
    (fits : requests.length ≤ 32) (nonempty : requests ≠ [])
    (avoids : ∀ request ∈ requests, d.Avoids request.move) :
    d.HoldsProgram t (requests.map TransferRequest.move) := by
  have set := tables_set mapped
  have count : d.tables.count = 128 := rfl
  have size : d.tables.size = 16 := rfl
  constructor
  · exact configured.channel
  · exact listStart_of_starts configured.starts
  · intro v member
    obtain ⟨request, listed, rfl⟩ := List.mem_map.mp member
    exact avoids request listed
  · refine ⟨transferData env requests, requests.length, List.length_pos_iff.mpr nonempty,
      by omega, (transferData_moves env requests).symm, ?_, ?_⟩
    · intro i bound
      rw [transferData_get env bound]
      show (0 : BitVec 8) ≠ TRUE
      decide
    · intro i bound
      rw [transferData_get env bound, set.srcSlot_eq, set.dstSlot_eq, liLayout.read_window_add,
        liLayout.read_window_add, count, size]
      exact ⟨configured.srcSlot i bound, configured.dstSlot i bound⟩

section Holds

variable {s : System} {moves : List (Move 49)}

/-- A program lives in the start registers and the cfg buffer. -/
theorem HoldsProgram.congr (holds : d.HoldsProgram s moves) (mapped : d.Mapped) (s' : System)
    (channel : s'.dma.config.baseAddress = s.dma.config.baseAddress)
    (starts : s'.listStart = s.listStart)
    (mem : Set.EqOn s'.machine.mem s.machine.mem d.cfgNear) : d.HoldsProgram s' moves := by
  have set := tables_set mapped
  have room : liLayout.size ≤ 2 ^ 64 := by decide
  obtain ⟨data, n, positive, fits, rfl, running, slots⟩ := holds.list
  refine ⟨channel.trans holds.channel, starts.trans holds.starts, holds.avoids, data, n,
    positive, fits, rfl, running, ?_⟩
  intro i hi
  have src : Set.EqOn s'.machine.mem s.machine.mem (d.tables.srcBytes i) :=
    mem.mono (set.src_subset (by omega))
  have dst : Set.EqOn s'.machine.mem s.machine.mem (d.tables.dstBytes i) :=
    mem.mono (set.dst_subset (by omega))
  rw [liLayout.read_eqOn room src, liLayout.read_eqOn room dst]
  exact slots i hi

theorem HoldsProgram.kept {s' : System} (holds : d.HoldsProgram s moves) (mapped : d.Mapped)
    (kept : d.Kept s s') : d.HoldsProgram s' moves := by
  have channel := kept.channel.trans holds.channel
  have same (r : Register) (ien : r ≠ .ien) (ctrl2 : r ≠ .ctrl2) (sts : r ≠ .sts) :
      s'.reg r = s.reg r := by
    rw [← s'.channelReg_eq r channel, ← s.channelReg_eq r holds.channel]
    exact kept.regs holds.channel r ien ctrl2 sts
  apply holds.congr mapped s' kept.channel
  · simp only [System.listStart, System.busStart, same, ne_eq, reduceCtorEq, not_false_eq_true]
  · rw [kept.mem]
    exact Set.eqOn_refl _ _

theorem HoldsProgram.walk (holds : d.HoldsProgram s moves) (mapped : d.Mapped) :
    ∃ fuel visited, s.listWalk linearFormat
        ⟨d.cfgAddr, d.cfgBuf.physAddr.setWidth 64, (4096 : BitVec 32).toNat⟩ fuel =
          some visited ∧
      (visited.map fun entry => linearFormat.move entry.2) = moves ∧
      (∀ entry ∈ visited, linearFormat.command entry.2 ≠ .pause) ∧
      ∀ entry ∈ visited, linearFormat.place entry.1 ⊆ d.cfgFar := by
  have set := tables_set mapped
  obtain ⟨data, n, positive, fits, rfl, running, slots⟩ := holds.list
  have walk : s.listWalk linearFormat
      ⟨d.cfgAddr, d.cfgBuf.physAddr.setWidth 64, (4096 : BitVec 32).toNat⟩ n =
        some ((List.range n).map fun i => (d.tables.slotKey i,
          (srcLiDscr (data i) (decide (i + 1 = n)), dstLiDscr (data i)))) := by
    apply set.listWalk_slots linearFormat set.size_eq.symm holds.starts positive fits
    · exact fun i hi => Prod.ext (slots i hi).1 (slots i hi).2
    · exact fun i _ => set.slotKey_succ_linear i _
    · intro i hi
      rw [decide_eq_decide, linearFormat.command_src rfl, elementCommand_stop, decide_eq_true_eq]
      exact ⟨fun stop => stop.2, fun last => ⟨running i hi, last⟩⟩
  refine ⟨n, _, walk, ?_, ?_, ?_⟩
  · rw [List.map_map]
    apply List.map_congr_left
    exact fun i _ => Format.move_eq rfl rfl
  · intro entry member
    obtain ⟨i, listed, rfl⟩ := List.mem_map.mp member
    rw [linearFormat.command_src rfl, ne_eq, elementCommand_pause]
    exact running i (List.mem_range.mp listed)
  · intro entry member
    obtain ⟨i, listed, rfl⟩ := List.mem_map.mp member
    have inside := List.mem_range.mp listed
    exact set.busSlots_subset (by omega)

end Holds

end DmaDriverImpl

end ZynqmpDma
