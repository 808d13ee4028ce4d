import ZynqmpDma.Base.Alias
import ZynqmpDma.Driver.Running
import ZynqmpDma.XZDma.BusMemory

namespace ZynqmpDma

open Base XZDma

structure Platform where
  system : System
  mover : Mover BusKey (LiDscr × LiDscr) BusMemory

def Platform.workOn (p : Platform) : Platform :=
  { p with
    mover := p.mover.step linearFormat.busFetch linearFormat.command linearFormat.nextPair
      linearFormat.carryOut .fetch }

abbrev PlatformProg := EStateM Stuck Platform

def phaseStatus : Phase BusKey → BitVec 32
  | .running _ => stsBusyMask
  | .paused _ => stsPauseMask
  | .stopped => stsDoneMask
  | .faulted => stsDoneErrMask

/-- What can happen on a platform: a call of the driver, an access of its user to the data
    buffer, or the channel's next transfer. -/
inductive Happening
  | configureDMA (env : Env) (requests : List TransferRequest)
  | startDMA
  | checkDMAStatus (env : Env)
  | store (k : ℕ) (value : BitVec 8)
  | load (k : ℕ)
  | work

namespace DmaDriverImpl

variable (d : DmaDriverImpl)

def cfgAlias : Alias 64 49 where
  near := d.cfgAddr
  far := (d.cfgBuf.physAddr.setWidth 64).setWidth 49
  length := 4096

def dataAlias : Alias 64 49 where
  near := BitVec.ofNat 64 d.getBuffer
  far := d.getBufferPhysAddr.setWidth 49
  length := d.getBufferSize.toNat

/-- What the process holds in the two buffers is seen on the bus. -/
def publish (p : Platform) : Platform :=
  { p with mover := { p.mover with
      mem := d.dataAlias.carry p.system.machine.mem
        (d.cfgAlias.carry p.system.machine.mem p.mover.mem) } }

def absorb (p : Platform) : Platform :=
  { p with system := { p.system with machine := { p.system.machine with
      mem := d.dataAlias.flip.carry p.mover.mem
        (d.cfgAlias.flip.carry p.mover.mem p.system.machine.mem) } } }

def report (p : Platform) : Platform :=
  { p with
    system := p.system.report d.zdmaConfig.baseAddress (phaseStatus p.mover.engine.phase) }

def called (call : Call) : PlatformProg ℤ := fun p =>
  match d.step call p.system with
  | .ok status s => .ok status (d.report (d.publish { p with system := s }))
  | .error e s => .error e (d.report (d.publish { p with system := s }))

/-- The channel begins its list when its enable bit was written. -/
def takeUp (p : Platform) : Platform :=
  if .write (d.zdmaConfig.baseAddress + Register.offset .ctrl2) chCtrl2EnMask ∈
      p.system.machine.log then
    { p with mover := .start p.system.listStart p.mover.mem }
  else p

def happen : Happening → PlatformProg ℤ
  | .configureDMA env requests => d.called (.configureDMA env requests)
  | .startDMA => do
    let status ← d.called .startDMA
    modify fun p => d.report (d.takeUp p)
    pure status
  | .checkDMAStatus env => d.called (.checkDMAStatus env)
  | .store k value => fun p =>
    .ok 0 (d.publish { p with
      system := p.system.store (d.dataAlias.near + BitVec.ofNat 64 k) 1 value.toNat })
  | .load k => fun p => .ok (p.system.machine.mem (d.dataAlias.near + BitVec.ofNat 64 k)).toNat p
  | .work => fun p => .ok 0 (d.report (d.absorb (p.workOn)))

structure Buffers : Prop where
  mapped : d.Mapped
  near : Disjoint (block d.dataAlias.near d.dataAlias.length)
    (block d.cfgAlias.near d.cfgAlias.length)
  far : Disjoint (block d.dataAlias.far d.dataAlias.length) (block d.cfgAlias.far d.cfgAlias.length)

/-- The process and the bus agree on what the two buffers hold. -/
structure Coherent (p : Platform) : Prop where
  cfg : d.cfgAlias.Agrees p.system.machine.mem p.mover.mem
  data : d.dataAlias.Agrees p.system.machine.mem p.mover.mem

variable {d} {p : Platform}

theorem cfgAlias_room : d.cfgAlias.length ≤ 2 ^ 49 := by
  show 4096 ≤ 2 ^ 49
  decide

theorem dataAlias_room : d.dataAlias.length ≤ 2 ^ 32 := d.getBufferSize.isLt.le

theorem publish_coherent (buffers : d.Buffers) (p : Platform) : d.Coherent (d.publish p) := by
  have cfg := d.cfgAlias_room
  have data := d.dataAlias_room
  constructor
  · exact Alias.Agrees.carry (Alias.carry_agrees _ _ cfg) (by omega) cfg buffers.far
  · exact Alias.carry_agrees _ _ (by omega)

theorem publish_eq (coherent : d.Coherent p) : d.publish p = p := by
  rw [publish, Alias.carry_eq coherent.cfg, Alias.carry_eq coherent.data]

theorem absorb_coherent (buffers : d.Buffers) (p : Platform) : d.Coherent (d.absorb p) := by
  have cfg := d.cfgAlias_room
  have data := d.dataAlias_room
  have cfg' : d.cfgAlias.flip.length ≤ 2 ^ 64 := le_trans cfg (by decide)
  have data' : d.dataAlias.flip.length ≤ 2 ^ 64 := le_trans data (by decide)
  have near : Disjoint (block d.dataAlias.flip.far d.dataAlias.flip.length)
      (block d.cfgAlias.flip.far d.cfgAlias.flip.length) := buffers.near
  constructor
  · exact (Alias.Agrees.carry (Alias.carry_agrees _ _ cfg') cfg cfg' near).flip
  · exact (Alias.carry_agrees _ _ data').flip

theorem absorb_eq (coherent : d.Coherent p) : d.absorb p = p := by
  rw [absorb, Alias.carry_eq coherent.cfg.flip, Alias.carry_eq coherent.data.flip]

end DmaDriverImpl

end ZynqmpDma
