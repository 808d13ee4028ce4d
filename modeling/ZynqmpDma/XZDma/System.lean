import Mathlib.Logic.Function.Basic
import ZynqmpDma.Base.Bytes
import ZynqmpDma.Base.Programs
import ZynqmpDma.Process.Kernel
import ZynqmpDma.XZDma.Instance
import ZynqmpDma.XZDma.Registers

namespace ZynqmpDma

open Base

inductive Event
  | read (addr : BitVec 64)
  | write (addr : BitVec 64) (value : BitVec 32)
  | store (addr : BitVec 64) (width : ℕ)
deriving DecidableEq, Repr

/-- Memory by virtual address, the last value stored at each device register address, the
    `FPD_DMA_REF_CTRL` clock register, and the accesses made, newest first. -/
structure Machine where
  mem : BitVec 64 → BitVec 8
  io : BitVec 64 → BitVec 32
  fpdDmaRefCtrl : BitVec 32
  log : List Event

namespace Machine

variable (m : Machine)

def read (a : BitVec 64) : Machine := { m with log := .read a :: m.log }

def write (a : BitVec 64) (v : BitVec 32) : Machine :=
  { m with io := Function.update m.io a v, log := .write a v :: m.log }

def store (a : BitVec 64) (width value : ℕ) : Machine :=
  { m with mem := Base.store m.mem a width value, log := .store a width :: m.log }

def channelReg (base : BitVec 64) (r : XZDma.Register) : BitVec 32 := m.io (base + r.offset)

@[simp] theorem write_register (base : BitVec 64) (r r' : XZDma.Register) (v : BitVec 32) :
    (m.write (base + r.offset) v).io (base + r'.offset) =
      if r' = r then v else m.io (base + r'.offset) := by
  simp only [write, Function.update_apply, XZDma.Register.address_inj]

end Machine

/-- How the `Xil_Assert` macros are built: compiled out by `NDEBUG`, or compiled in with a
    failed assertion looping forever (`Xil_AssertWait = 1`, as in `xil_assert.c`) or making
    its function return at once (`Xil_AssertWait = 0`). -/
inductive AssertMode
  | compiledOut | waiting | returning
deriving DecidableEq, Repr

/-- What one call finds around it: the assertion build, the operating system, whether
    `/dev/mem` can be opened and mapped, what a register reads as after the last value
    stored in it, and what the stack array of transfers holds before it is filled. -/
structure Env where
  asserts : AssertMode
  kernel : Kernel
  devMemOpens : Bool
  devMemMmaps : Bool
  readBack : BitVec 64 → BitVec 32 → BitVec 32
  stackData : ℕ → XZDma.Transfer

def Env.ideal (asserts : AssertMode) : Env where
  asserts := asserts
  kernel := .aboveAll
  devMemOpens := true
  devMemMmaps := true
  readBack := fun _ value => value
  stackData := fun _ => ⟨0, 0, 0, 0, 0, 0⟩

structure System where
  dma : XZDma
  machine : Machine
  process : Process

def System.blank : System where
  dma := .zeroed
  machine := ⟨fun _ => 0, fun _ => 0, 0, []⟩
  process := .standard

namespace System

variable (s : System) (r : XZDma.Register)

def addr : BitVec 64 := s.dma.config.baseAddress + r.offset

def reg : BitVec 32 := s.machine.io (s.addr r)

def read : System := { s with machine := s.machine.read (s.addr r) }

def write (v : BitVec 32) : System := { s with machine := s.machine.write (s.addr r) v }

def store (a : BitVec 64) (width value : ℕ) : System :=
  { s with machine := s.machine.store a width value }

def withDma (f : XZDma → XZDma) : System := { s with dma := f s.dma }

def clearLog : System := { s with machine := { s.machine with log := [] } }

theorem channelReg_eq {base : BitVec 64} (channel : s.dma.config.baseAddress = base) :
    s.machine.channelReg base r = s.reg r := by
  rw [← channel]
  rfl

@[simp] theorem read_dma : (s.read r).dma = s.dma := rfl
@[simp] theorem read_process : (s.read r).process = s.process := rfl
@[simp] theorem read_mem : (s.read r).machine.mem = s.machine.mem := rfl
@[simp] theorem read_log :
    (s.read r).machine.log = .read (s.dma.config.baseAddress + r.offset) :: s.machine.log := rfl
@[simp] theorem read_addr (r' : XZDma.Register) : (s.read r).addr r' = s.addr r' := rfl
@[simp] theorem read_reg (r' : XZDma.Register) : (s.read r).reg r' = s.reg r' := by
  -- not `rfl` alone, by which `simp` would leave it to the kernel to unfold both states
  rw [reg, read_addr, reg]
  rfl

@[simp] theorem write_dma (v : BitVec 32) : (s.write r v).dma = s.dma := rfl
@[simp] theorem write_process (v : BitVec 32) : (s.write r v).process = s.process := rfl
@[simp] theorem write_mem (v : BitVec 32) : (s.write r v).machine.mem = s.machine.mem := rfl
@[simp] theorem write_log (v : BitVec 32) : (s.write r v).machine.log =
    .write (s.dma.config.baseAddress + r.offset) v :: s.machine.log := rfl
@[simp] theorem write_addr (v : BitVec 32) (r' : XZDma.Register) :
    (s.write r v).addr r' = s.addr r' := rfl
@[simp] theorem write_reg (v : BitVec 32) (r' : XZDma.Register) :
    (s.write r v).reg r' = if r' = r then v else s.reg r' :=
  s.machine.write_register s.dma.config.baseAddress r r' v

@[simp] theorem store_mem (a : BitVec 64) (width value : ℕ) :
    (s.store a width value).machine.mem = Base.store s.machine.mem a width value := rfl

@[simp] theorem withDma_dma (f : XZDma → XZDma) : (s.withDma f).dma = f s.dma := rfl
@[simp] theorem withDma_process (f : XZDma → XZDma) : (s.withDma f).process = s.process := rfl
@[simp] theorem withDma_machine (f : XZDma → XZDma) : (s.withDma f).machine = s.machine := rfl

@[simp] theorem withDma_addr {f : XZDma → XZDma} (same : ∀ i, (f i).config = i.config)
    (r' : XZDma.Register) : (s.withDma f).addr r' = s.addr r' := by
  simp only [addr, withDma_dma, same]

@[simp] theorem withDma_reg {f : XZDma → XZDma} (same : ∀ i, (f i).config = i.config)
    (r' : XZDma.Register) : (s.withDma f).reg r' = s.reg r' := by
  simp only [reg, withDma_machine, s.withDma_addr same]

end System

/-- Why a call never returns. The loop bound is there for the model only. -/
inductive Stuck
  | assertion | loopBound
deriving DecidableEq, Repr

abbrev Prog := EStateM Stuck System

namespace XZDma

/-- `Xil_AssertVoid` and `Xil_AssertNonvoid` at the head of `rest`, the remaining body. -/
def xilAssert {α : Type} (env : Env) (expression : Prop) [Decidable expression] (dflt : α)
    (rest : Prog α) : Prog α :=
  if expression then rest
  else match env.asserts with
    | .compiledOut => rest
    | .waiting => throw .assertion
    | .returning => pure dflt

theorem xilAssert_holds {α : Type} (env : Env) {expression : Prop} [Decidable expression]
    (dflt : α) (rest : Prog α) (holds : expression) :
    xilAssert env expression dflt rest = rest := if_pos holds

theorem xilAssert_compiledOut {α : Type} {env : Env} (expression : Prop) [Decidable expression]
    (dflt : α) (rest : Prog α) (out : env.asserts = .compiledOut) :
    xilAssert env expression dflt rest = rest := by
  simp only [xilAssert, out, ite_self]

theorem xilAssert_waiting {α : Type} {env : Env} {expression : Prop} [Decidable expression]
    (dflt : α) (rest : Prog α) (wait : env.asserts = .waiting) (fails : ¬ expression) :
    xilAssert env expression dflt rest = throw .assertion := by
  simp only [xilAssert, wait, fails, ite_false]

/-- An assertion that does not divert its function: it holds or is compiled out. -/
def Passes (env : Env) (expression : Prop) : Prop := expression ∨ env.asserts = .compiledOut

instance (env : Env) (expression : Prop) [Decidable expression] :
    Decidable (Passes env expression) := inferInstanceAs (Decidable (_ ∨ _))

theorem xilAssert_passes {α : Type} {env : Env} {expression : Prop} [Decidable expression]
    (dflt : α) (rest : Prog α) (passes : Passes env expression) :
    xilAssert env expression dflt rest = rest := by
  rcases passes with holds | out
  · exact xilAssert_holds env dflt rest holds
  · exact xilAssert_compiledOut expression dflt rest out

theorem xilAssert_ok {α : Type} {env : Env} {expression : Prop} [Decidable expression]
    {dflt a : α} {rest : Prog α} {s t : System}
    (run : xilAssert env expression dflt rest s = .ok a t) :
    (Passes env expression ∧ rest s = .ok a t) ∨ (¬ Passes env expression ∧ t = s) := by
  by_cases passes : Passes env expression
  · rw [xilAssert_passes dflt rest passes] at run
    exact .inl ⟨passes, run⟩
  · obtain ⟨fails, compiled⟩ := not_or.mp passes
    rw [xilAssert, if_neg fails] at run
    cases mode : env.asserts with
    | compiledOut => exact absurd mode compiled
    | waiting =>
      simp only [mode] at run
      cases run
    | returning =>
      simp only [mode] at run
      cases run
      exact .inr ⟨passes, rfl⟩

theorem xilAssert_diverted {α : Type} {env : Env} {expression : Prop} [Decidable expression]
    {dflt a : α} {rest : Prog α} {s t : System}
    (run : xilAssert env expression dflt rest s = .ok a t) (fails : ¬ Passes env expression) :
    t = s := by
  rcases xilAssert_ok run with ⟨passes, _⟩ | ⟨_, same⟩
  · exact absurd passes fails
  · exact same

theorem xilAssert_returned {α : Type} {env : Env} {expression : Prop} [Decidable expression]
    {dflt a : α} {rest : Prog α} {s s' : System} (wait : env.asserts = .waiting)
    (run : xilAssert env expression dflt rest s = .ok a s') : expression ∧ rest s = .ok a s' := by
  by_cases holds : expression
  · rw [xilAssert_holds env _ _ holds] at run
    exact ⟨holds, run⟩
  · rw [xilAssert_waiting _ _ wait holds] at run
    cases run

def readReg (env : Env) (r : Register) : Prog (BitVec 32) := fun s =>
  .ok (env.readBack (s.addr r) (s.reg r)) (s.read r)

def writeReg (r : Register) (value : BitVec 32) : Prog Unit := fun s => .ok () (s.write r value)

def storeMem (a : BitVec 64) (width value : ℕ) : Prog Unit := fun s =>
  .ok () (s.store a width value)

def getInstance : Prog XZDma := fun s => .ok s.dma s

def setInstance (f : XZDma → XZDma) : Prog Unit := fun s => .ok () (s.withDma f)

theorem readReg_run (env : Env) (r : Register) (s : System) :
    readReg env r s = .ok (env.readBack (s.addr r) (s.reg r)) (s.read r) := rfl

theorem writeReg_run (r : Register) (v : BitVec 32) (s : System) :
    writeReg r v s = .ok () (s.write r v) := rfl

theorem getInstance_run (s : System) : getInstance s = .ok s.dma s := rfl

theorem setInstance_run (f : XZDma → XZDma) (s : System) :
    setInstance f s = .ok () (s.withDma f) := rfl

end XZDma

end ZynqmpDma
