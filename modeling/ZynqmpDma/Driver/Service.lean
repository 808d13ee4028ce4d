import ZynqmpDma.Driver.Copies
import ZynqmpDma.Driver.HandOut
import ZynqmpDma.Driver.Published

namespace ZynqmpDma

open Base XZDma

namespace DmaDriverImpl

variable {d : DmaDriverImpl} {p p' : Platform}

theorem called_holds {call : Call} {a : ℤ} (mapped : d.zdmaConfig.baseAddress ≠ 0)
    (run : d.called call p = .ok a p') :
    p'.system.process.pages = p.system.process.pages := by
  have holds := (step_holds call p.system mapped).2
  unfold called at run
  rcases outcome : d.step call p.system with ⟨status, s⟩ | ⟨e, s⟩
  · rw [outcome] at run holds
    cases run
    exact holds
  · rw [outcome] at run
    cases run

theorem takeUp_system (p : Platform) : (d.takeUp p).system = p.system := by
  unfold takeUp
  split <;> rfl

/-- The user sees, as byte `k` of the data buffer, the job's byte at the buffer's physical address
    plus `k`. -/
theorem Represents.byte {job : Job} {k : ℕ} (represents : d.Represents p job)
    (buffers : d.Buffers) (hk : k < d.getBufferSize.toNat) :
    p.system.machine.mem (BitVec.ofNat 64 (d.getBuffer + k)) =
      job.mem (BitVec.ofNat 49 (d.getBufferPhysAddr.toNat + k)) := by
  have far : BitVec.ofNat 49 (d.getBufferPhysAddr.toNat + k) =
      d.dataAlias.far + BitVec.ofNat 49 k := by
    rw [BitVec.ofNat_add, BitVec.ofNat_toNat]
    rfl
  have inside : d.dataAlias.far + BitVec.ofNat 49 k ∈ block d.dataAlias.far d.dataAlias.length :=
    Alias.offset_mem d.dataAlias.far hk (d.dataAlias_room.trans (by decide))
  have outside : d.dataAlias.far + BitVec.ofNat 49 k ∈ d.cfgFarᶜ :=
    Set.disjoint_left.mp buffers.far inside
  rw [far, ← represents.mem outside, represents.coherent.data k hk, BitVec.ofNat_add]
  rfl

theorem happen_holds {happening : Happening} {a : ℤ} (mapped : d.zdmaConfig.baseAddress ≠ 0)
    (run : d.happen happening p = .ok a p') :
    p'.system.process.pages = p.system.process.pages := by
  cases happening with
  | configureDMA env requests =>
    have called : d.called (.configureDMA env requests) p = .ok a p' := run
    exact called_holds mapped called
  | startDMA =>
    obtain ⟨status, q, first, later⟩ := bind_ok_inv run
    cases later
    rw [← called_holds mapped first]
    show (d.takeUp q).system.process.pages = q.system.process.pages
    rw [takeUp_system]
  | checkDMAStatus env =>
    have called : d.called (.checkDMAStatus env) p = .ok a p' := run
    exact called_holds mapped called
  | store | load | work =>
    cases run
    rfl

end DmaDriverImpl

theorem Kernel.le_pagesFor (k : Kernel) (length : ℕ) :
    length ≤ k.pageSize * k.pagesFor length := by
  have positive := k.pageSize_pos
  have whole := Nat.div_add_mod (length + k.pageSize - 1) k.pageSize
  have rest := Nat.mod_lt (length + k.pageSize - 1) positive
  rw [pagesFor]
  omega

namespace MappedDevice

variable {k : Kernel} {a b : MappedDevice} {fd fd' page page' count count' m n : ℕ}
  {before between after after' : Process}

theorem Acquired.apart (first : Acquired k a fd page count before between)
    (second : Acquired k b fd' page' count' between after)
    (positive : 0 < count) (positive' : 0 < count') (room : m ≤ k.pageSize * count)
    (room' : n ≤ k.pageSize * count') : a.buf + m ≤ b.buf ∨ b.buf + n ≤ a.buf := by
  have apart := second.unused
  rw [first.pages, Finset.disjoint_union_right, Finset.disjoint_left] at apart
  have ordered : page + count ≤ page' ∨ page' + count' ≤ page := by
    by_contra crossing
    have inside := apart.1
    apply @inside (max page page') <;> rw [Finset.mem_Ico] <;> omega
  rw [first.buf, second.buf]
  rcases ordered with low | high
  · left
    have steps := Nat.mul_le_mul_left k.pageSize low
    rw [Nat.mul_add] at steps
    omega
  · right
    have steps := Nat.mul_le_mul_left k.pageSize high
    rw [Nat.mul_add] at steps
    omega

end MappedDevice

namespace Attempt

variable (g : Attempt) (p : Process)

/-- Pages of 4 KiB at least, and mappings that end within the address space. -/
structure InSpace : Prop where
  page : 4096 ≤ g.kernel.pageSize
  data : (g.driver p).getBuffer + (g.driver p).getBufferSize.toNat ≤ 2 ^ 64
  cfg : (g.driver p).cfgBuf.buf + 4096 ≤ 2 ^ 64

/-- The kernel publishes, for the two buffers, numbers that fit 32 bits, of memory apart. -/
structure Announces (dataSize dataAddr cfgAddr : ℕ) : Prop where
  data : ∃ sizeText addrText, Lines g.dataOutcome sizeText addrText ∧
    decimal sizeText = some dataSize ∧ hexadecimal addrText = some dataAddr
  cfg : ∃ cfgSize sizeText addrText, Lines g.cfgOutcome sizeText addrText ∧
    decimal sizeText = some cfgSize ∧ hexadecimal addrText = some cfgAddr
  sizeFits : dataSize < 2 ^ 32
  dataFits : dataAddr < 2 ^ 32
  cfgFits : cfgAddr < 2 ^ 32
  apart : dataAddr + dataSize ≤ cfgAddr ∨ cfgAddr + 4096 ≤ dataAddr

variable {g p} {dataSize dataAddr cfgAddr : ℕ}

theorem Announces.driver (announces : g.Announces dataSize dataAddr cfgAddr)
    (opens : g.AllOpen) :
    (g.driver p).getBufferSize.toNat = dataSize ∧
      (g.driver p).getBufferPhysAddr.toNat = dataAddr ∧
      (g.driver p).cfgBuf.physAddr.toNat = cfgAddr := by
  obtain ⟨sizeText, addrText, lines, size, addr⟩ := announces.data
  obtain ⟨cfgSize, sizeText', addrText', lines', size', addr'⟩ := announces.cfg
  have data := map_scans g.kernel g.udmaDataBufDevice {} p lines opens.1 size addr
  have cfg := map_scans g.kernel g.udmaCfgBufDevice {} (g.dataMap p).2.2 lines' opens.2.1 size'
    addr'
  refine ⟨?_, ?_, ?_⟩
  · show ((g.dataMap p).2.1.size).toNat = dataSize
    rw [dataMap, data.1, BitVec.toNat_ofNat, Nat.mod_eq_of_lt announces.sizeFits]
  · show ((g.dataMap p).2.1.physAddr).toNat = dataAddr
    rw [dataMap, data.2, BitVec.toNat_ofNat, Nat.mod_eq_of_lt announces.dataFits]
  · show ((g.cfgMap p).2.1.physAddr).toNat = cfgAddr
    rw [cfgMap, cfg.2, BitVec.toNat_ofNat, Nat.mod_eq_of_lt announces.cfgFits]

theorem Announces.far_disjoint (announces : g.Announces dataSize dataAddr cfgAddr)
    (opens : g.AllOpen) :
    Disjoint (block (g.driver p).dataAlias.far (g.driver p).dataAlias.length)
      (block (g.driver p).cfgAlias.far (g.driver p).cfgAlias.length) := by
  obtain ⟨size, data, cfg⟩ := announces.driver (p := p) opens
  have dataFar : (g.driver p).dataAlias.far.toNat = dataAddr := by
    show ((g.driver p).getBufferPhysAddr.setWidth 49).toNat = dataAddr
    rw [BitVec.toNat_setWidth_of_le (by decide), data]
  have cfgFar : (g.driver p).cfgAlias.far.toNat = cfgAddr := by
    show (((g.driver p).cfgBuf.physAddr.setWidth 64).setWidth 49).toNat = cfgAddr
    rw [BitVec.setWidth_setWidth_of_le _ (by decide), BitVec.toNat_setWidth_of_le (by decide), cfg]
  have length : (g.driver p).dataAlias.length = dataSize := size
  have page : (g.driver p).cfgAlias.length = 4096 := rfl
  have ⟨_, _, sizeFits, dataFits, cfgFits, apart⟩ := announces
  apply block_disjoint <;> omega

theorem near_disjoint (space : g.InSpace p) (nonempty : (g.driver p).getBufferSize.toNat ≠ 0)
    (apart : (g.driver p).dataBuf.buf + (g.driver p).getBufferSize.toNat ≤ (g.driver p).cfgBuf.buf ∨
      (g.driver p).cfgBuf.buf + 4096 ≤ (g.driver p).dataBuf.buf) :
    Disjoint (block (g.driver p).dataAlias.near (g.driver p).dataAlias.length)
      (block (g.driver p).cfgAlias.near (g.driver p).cfgAlias.length) := by
  have ⟨_, dataEnd, cfgEnd⟩ := space
  have buffer : (g.driver p).getBuffer = (g.driver p).dataBuf.buf := rfl
  have dataNear : (g.driver p).dataAlias.near.toNat = (g.driver p).dataBuf.buf := by
    apply Nat.mod_eq_of_lt
    omega
  have cfgNear : (g.driver p).cfgAlias.near.toNat = (g.driver p).cfgBuf.buf := by
    apply Nat.mod_eq_of_lt
    omega
  have length : (g.driver p).dataAlias.length = (g.driver p).getBufferSize.toNat := rfl
  have page : (g.driver p).cfgAlias.length = 4096 := rfl
  apply block_disjoint <;> omega

/-- The buffers of a driver for mapped devices are memory of their own where the kernel publishes
    memory apart. -/
theorem driver_buffers (opens : g.AllOpen) (mmaps : g.AllMmap) (space : g.InSpace p)
    (announces : g.Announces dataSize dataAddr cfgAddr) : (g.driver p).Buffers := by
  obtain ⟨_, _, data, size⟩ := MappedDevice.map_acquires udmabuf g.kernel g.dataOutcome
    g.udmaDataBufDevice p ⟨opens.1, mmaps.1⟩
  obtain ⟨_, _, cfg⟩ := g.cfg_acquires p ⟨opens.2.1, mmaps.2.1⟩
  rw [← dataMap] at data size
  have dataSome := g.kernel.pagesFor_pos
    (MapOutcome.Maps.size_ne_zero ⟨opens.1, mmaps.1⟩)
  have cfgSome := g.kernel.pagesFor_pos
    (MapOutcome.Maps.size_ne_zero ⟨opens.2.1, mmaps.2.1⟩)
  have onePage : 4096 ≤ g.kernel.pageSize *
      g.kernel.pagesFor (g.cfgOutcome.sizeRead udmabuf).toNat :=
    space.page.trans (Nat.le_mul_of_pos_right _ cfgSome)
  have size : (g.driver p).getBufferSize = g.dataOutcome.sizeRead udmabuf := size
  have dataRoom : (g.driver p).getBufferSize.toNat ≤ g.kernel.pageSize *
      g.kernel.pagesFor (g.dataOutcome.sizeRead udmabuf).toNat := by
    rw [size]
    exact g.kernel.le_pagesFor _
  have nonempty : (g.driver p).getBufferSize.toNat ≠ 0 := by
    rw [size]
    exact MapOutcome.Maps.size_ne_zero ⟨opens.1, mmaps.1⟩
  have near := data.apart cfg dataSome cfgSome dataRoom onePage
  have positive : 0 < (g.driver p).cfgBuf.buf := by
    have nonnull := cfg.nonnull
    by_contra none
    have zero : (g.cfgMap p).2.1.buf = 0 := Nat.eq_zero_of_not_pos none
    rw [zero] at nonnull
    exact nonnull rfl
  constructor
  · exact ⟨(driver_mapped opens mmaps).1, positive, space.cfg⟩
  · exact near_disjoint space nonempty near
  · exact announces.far_disjoint opens

end Attempt

/-- A driver that is handed out for mapped devices serves its user: whatever happens on a fresh
    platform, in any order that is allowed, everything is answered as of a memory with moves, in
    which the byte `k` of the data buffer is the one at the address that the kernel published,
    plus `k`; and the data buffer stays mapped. -/
theorem getDmaDriver_serves (g : Attempt) (p : Process) {d : DmaDriverImpl} {q : Process}
    {dataSize dataAddr cfgAddr : ℕ} (result : g.result p = (some d, q)) (mmaps : g.AllMmap)
    (space : g.InSpace p) (announces : g.Announces dataSize dataAddr cfgAddr) {b : Platform}
    (fresh : d.Fresh b) (process : b.system.process = q) (happenings : List Happening)
    (legal : Legal d.Allows d.answer ⟨b.mover.mem, none, []⟩ happenings) :
    let served := answers d.answer ⟨b.mover.mem, none, []⟩ happenings
    ∃ b', serve d.happen happenings b = .ok served.1 b' ∧
      (∀ k < dataSize, b'.system.machine.mem (BitVec.ofNat 64 (d.getBuffer + k)) =
        served.2.mem (BitVec.ofNat 49 (dataAddr + k))) ∧
      b'.system.process.LiveMapping g.kernel d.getBuffer dataSize := by
  intro served
  have opens : g.AllOpen := by
    by_contra closed
    have none := g.result_closed p closed
    rw [result] at none
    cases none
  rw [g.result_opens p opens] at result
  cases result
  have buffers := Attempt.driver_buffers opens mmaps space announces
  obtain ⟨mapped, page, start, held⟩ := Attempt.driver_mapped (p := p) opens mmaps
  obtain ⟨size, addr, _⟩ := announces.driver (p := p) opens
  obtain ⟨b', run, represents⟩ := serve_refines (DmaDriverImpl.represents_happen buffers)
    fresh.represents legal
  refine ⟨b', run, ?_, page, start, ?_⟩
  · intro k hk
    rw [← size] at hk
    rw [← addr]
    exact represents.byte buffers hk
  · have kept : b'.system.process.pages = (g.uioMap p).2.2.pages := by
      apply serve_keeps (fun b => b.system.process.pages = (g.uioMap p).2.2.pages) _ _ run
      · intro b happening a b'' holds step
        exact (DmaDriverImpl.happen_holds mapped step).trans holds
      · rw [process]
    rw [kept, ← size]
    exact held

namespace Attempt

def smallSample : Attempt :=
  { sample with
    dataOutcome :=
      { sample.dataOutcome with sizeAttr := some ⟨['4', '0', '9', '6', '\n'], []⟩ } }

theorem smallSample_inSpace : smallSample.InSpace .standard where
  page := by decide
  data := by decide +kernel
  cfg := by decide +kernel

theorem smallSample_announces : smallSample.Announces 4096 0x70000000 0x70100000 where
  data := ⟨['4', '0', '9', '6'], ['0', 'x', '7', '0', '0', '0', '0', '0', '0', '0'],
    ⟨by rintro _ ⟨⟩; rfl, by rintro _ ⟨⟩; rfl, by decide, by decide⟩, by decide, by decide⟩
  cfg := ⟨4096, ['4', '0', '9', '6'], ['0', 'x', '7', '0', '1', '0', '0', '0', '0', '0'],
    ⟨by rintro _ ⟨⟩; rfl, by rintro _ ⟨⟩; rfl, by decide, by decide⟩, by decide, by decide⟩
  sizeFits := by decide
  dataFits := by decide
  cfgFits := by decide
  apart := by decide

theorem smallSample_buffers : (smallSample.driver .standard).Buffers :=
  driver_buffers (by decide) (by decide) smallSample_inSpace smallSample_announces

end Attempt

/-- The user of such a buffer writes a byte, has 64 bytes copied and reads the copy. -/
theorem getDmaDriver_serves_sample :
    let d := Attempt.smallSample.driver .standard
    let q := (Attempt.smallSample.uioMap .standard).2.2
    let fresh := d.freshPlatform fun _ => 0
    let b : Platform := { fresh with system := { fresh.system with process := q } }
    let env : Env := .ideal .waiting
    ∃ b', serve d.happen [.store 3 7, .configureDMA env [⟨0x70000000, 0x70000800, 64⟩], .startDMA,
        .checkDMAStatus env, .work, .checkDMAStatus env, .load 0x803] b =
          .ok [0, 0, 0, 2, 0, 0, 7] b' ∧
      b'.system.machine.mem (BitVec.ofNat 64 (d.getBuffer + 0x803)) = 7 ∧
      b'.system.process.LiveMapping Attempt.smallSample.kernel d.getBuffer 4096 := by
  intro d q fresh b env
  let requests : List TransferRequest := [⟨0x70000000, 0x70000800, 64⟩]
  have idle := DmaDriverImpl.freshPlatform_fresh Attempt.smallSample_buffers fun _ => 0
  have begins : d.Fresh b := ⟨⟨idle.coherent.cfg, idle.coherent.data⟩, idle.phase, idle.status⟩
  have completes : d.Completes env requests :=
    ⟨by decide, by decide, .of_faithful fun _ => rfl, .of_faithful fun _ => rfl,
      .of_nonzero (by decide) (by decide)⟩
  have avoids : ∀ request ∈ requests, d.Avoids request.move := by
    intro request listed
    rw [List.mem_singleton.mp listed]
    constructor <;> exact block_disjoint (by decide +kernel) (by decide +kernel) (by decide +kernel)
  obtain ⟨b', run, bytes, live⟩ := getDmaDriver_serves Attempt.smallSample .standard
    (Attempt.smallSample.result_opens .standard (by decide)) (by decide)
    Attempt.smallSample_inSpace Attempt.smallSample_announces begins rfl
    [.store 3 7, .configureDMA env requests, .startDMA, .checkDMAStatus env, .work,
      .checkDMAStatus env, .load 0x803]
    ⟨⟨rfl, by decide +kernel⟩, fun _ => ⟨rfl, completes, avoids⟩, ⟨by decide, by decide⟩,
      ⟨by decide, fun _ => rfl⟩, trivial, ⟨by decide, fun _ => rfl⟩,
      (by decide +kernel : 0x803 < d.dataAlias.length), trivial⟩
  let served := answers d.answer ⟨b.mover.mem, none, []⟩ [.store 3 7, .configureDMA env requests,
    .startDMA, .checkDMAStatus env, .work, .checkDMAStatus env, .load 0x803]
  have moved : served.2.mem (BitVec.ofNat 49 (0x70000000 + 0x803)) = 7 := by decide +kernel
  have values : served.1 = [0, 0, 0, 2, 0, 0, 7] := by decide +kernel
  refine ⟨b', ?_, (bytes 0x803 (by decide)).trans moved, live⟩
  rw [← values]
  exact run

end ZynqmpDma
