import ZynqmpDma.XZDma.Footprint
import ZynqmpDma.XZDma.Operations

namespace ZynqmpDma

open Base XZDma

namespace XZDma

def wrOnlyWordOffset (i : Fin 4) : BitVec 64 := 0x148 + 4 * BitVec.ofNat 64 i

theorem wrOnlyWordOffset_ne (i : Fin 4) (r : Register) : wrOnlyWordOffset i ≠ r.offset := by
  have apart : ∀ i : Fin 4, ∀ r ∈ Register.all, wrOnlyWordOffset i ≠ r.offset := by decide
  exact apart i r r.mem_all

theorem wrOnlyWordOffset_inj (i j : Fin 4) : wrOnlyWordOffset i = wrOnlyWordOffset j ↔ i = j := by
  revert i j
  decide

def writeWord (i : Fin 4) (value : BitVec 32) : Prog Unit := fun s =>
  .ok () { s with
    machine := s.machine.write (s.dma.config.baseAddress + wrOnlyWordOffset i) value }

/-- `XZDma_WOData`: four words for GDMA, two for ADMA. -/
def woData (buffer : ℕ → BitVec 32) : Prog Unit := do
  let inst ← getInstance
  if inst.config.dmaType = 0 then do
    writeWord 0 (buffer 0)
    writeWord 1 (buffer 1)
    writeWord 2 (buffer 2)
    writeWord 3 (buffer 3)
  else do
    writeWord 0 (buffer 0)
    writeWord 1 (buffer 1)

def enableIntr (mask : BitVec 32) : Prog Unit :=
  setInstance fun i => { i with intrMask := i.intrMask ||| mask }

inductive DeviceCall
  | operation (op : Operation)
  | woData (buffer : ℕ → BitVec 32)
  | enableIntr (mask : BitVec 32)
  | disableIntr (env : Env) (mask : BitVec 32)
  | intrClear (mask : BitVec 32)

namespace DeviceCall

def body : DeviceCall → Prog ℤ
  | operation op => op.body
  | woData buffer => do
    XZDma.woData buffer
    pure 0
  | enableIntr mask => do
    XZDma.enableIntr mask
    pure 0
  | disableIntr env mask => do
    XZDma.disableIntr env mask
    pure 0
  | intrClear mask => do
    XZDma.intrClear mask
    pure 0

def step (call : DeviceCall) : Prog ℤ := fun s => call.body s.clearLog

end DeviceCall

def Operation.registers : Operation → List Register
  | setMode .. | selfTest _ => [.ctrl0]
  | setChDataConfig .. => [.ctrl0, .ctrl1, .dataAttr]
  | setChDscrConfig _ => [.dscrAttr]
  | start .. => listRegisters
  | enable => [.ien, .ctrl2, .sts]
  | resume _ => [.ctrl0, .sts]
  | reset _ => resetRegisters
  | hardware _ => [.sts]
  | createBDList .. | channelState _ => []

section Body

variable {R : System → System → Prop} [Std.Refl R] [IsTrans System R]

theorem body_along (op : Operation)
    (steps : ∀ (α : Type) x, Primitive op.registers Set.univ α x → ∀ s, R s (finalState (x s)))
    (reports : .sts ∈ op.registers → ∀ s status, R s (s.report s.dma.config.baseAddress status))
    (s : System) : R s (finalState (op.body s)) := by
  have along {α : Type} {x : Prog α} (touches : Touches op.registers Set.univ x) (s : System) :
      R s (finalState (x s)) := Built.along touches steps s
  cases op with
  | setMode env isSgDma mode => exact along (touches_setMode env isSgDma mode) s
  | setChDataConfig env configure => exact along (touches_setChDataConfig env configure) s
  | setChDscrConfig configure => exact along (touches_setChDscrConfig configure) s
  | createBDList env typeOfDscr dscrMemPtr descrPhysMemPtr noOfBytes =>
    refine along (.bind ?_ fun count => .pure _) s
    exact touches_createBDList env typeOfDscr dscrMemPtr descrPhysMemPtr noOfBytes
  | start env data num => exact along (touches_start env data num) s
  | enable =>
    have first := along ((touches_enable).mono (by decide) subset_rfl) s
    rw [enable_run] at first
    rw [Operation.body, bind_ok _ (enable_run s)]
    refine IsTrans.trans _ _ _ first ?_
    simp only [bind_run, modify_run, pure_run, finalState_ok]
    unfold System.takeUp
    split
    · exact reports (by decide) _ _
    · exact Std.Refl.refl _
  | resume env =>
    have among : [Register.ctrl0] ⊆ [.ctrl0, .sts] := by decide
    have first := along ((touches_resume env).mono among subset_rfl) s
    rw [Operation.body, bind_run]
    cases run : XZDma.resume env s with
    | error e t =>
      rw [run] at first
      exact first
    | ok u t =>
      rw [run] at first
      refine IsTrans.trans _ _ _ first ?_
      simp only [bind_run, modify_run, pure_run, finalState_ok]
      unfold System.goOn
      split
      · exact reports (List.mem_cons_of_mem _ List.mem_cons_self) _ _
      · exact Std.Refl.refl _
  | reset env => exact along (.andThen (touches_reset env) (.pure _)) s
  | channelState env =>
    have reads : Touches [] Set.univ (xzdmaChannelState env) :=
      .bind (touches_readReg env .sts) fun value => .pure _
    exact along (.bind reads fun state => .pure _) s
  | selfTest env => exact along (touches_selfTest env) s
  | hardware status =>
    by_cases busy : s.machine.Busy s.dma.config.baseAddress
    · have run : (Operation.hardware status).body s =
          .ok 0 (s.report s.dma.config.baseAddress (status &&& stsAllMask)) := if_pos busy
      rw [run]
      exact reports List.mem_cons_self s _
    · have run : (Operation.hardware status).body s = .ok 0 s := if_neg busy
      rw [run]
      exact Std.Refl.refl s

end Body

theorem body_within (op : Operation) (s : System) :
    Within op.registers Set.univ s (finalState (op.body s)) := by
  refine body_along op (fun α x primitive s => primitive.within s) ?_ s
  intro listed s status
  exact ⟨rfl, fun _ => rfl, rfl, rfl,
    fun _ other => Function.update_of_ne (other .sts listed) _ _, Set.eqOn_refl _ _⟩

theorem woData_dma {buffer : ℕ → BitVec 32} {s t : System} {u : Unit}
    (run : woData buffer s = .ok u t) : t.dma = s.dma := by
  rw [woData, bind_ok _ (getInstance_run s)] at run
  split at run <;> cases run <;> rfl

theorem DeviceCall.step_config {call : DeviceCall} {s t : System} {a : ℤ}
    (run : call.step s = .ok a t) : t.dma.config = s.dma.config := by
  cases call with
  | operation op =>
    have footprint := body_within op s.clearLog
    rw [show op.body s.clearLog = .ok a t from run] at footprint
    exact footprint.config
  | woData buffer =>
    obtain ⟨_, u, set, done⟩ := bind_ok_inv run
    cases done
    rw [woData_dma set]
    rfl
  | enableIntr | disableIntr | intrClear =>
    cases run
    rfl

abbrev DeviceVisit := Visit Stuck System ℤ DeviceCall

end XZDma

end ZynqmpDma
