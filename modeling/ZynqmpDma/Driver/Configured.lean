import ZynqmpDma.Driver.ConfigureRuns

namespace ZynqmpDma

open Base XZDma

/-- `t` comes after `s`, points at the channel at `base`, and the accesses between them are
    those that `P` allows there. The process holds what it held. -/
structure Drives (P : BitVec 64 → Event → Prop) (base : BitVec 64) (s t : System) : Prop where
  channel : t.dma.config.baseAddress = base
  fds : t.process.fds = s.process.fds
  pages : t.process.pages = s.process.pages
  log : ∃ new, t.machine.log = new ++ s.machine.log ∧ ∀ e ∈ new, P base e

namespace Drives

variable {P Q : BitVec 64 → Event → Prop} {base : BitVec 64} {s t u : System}

theorem mono (weaker : ∀ base e, P base e → Q base e) (drives : Drives P base s t) :
    Drives Q base s t := by
  rcases drives.log with ⟨new, log, allowed⟩
  exact ⟨drives.channel, drives.fds, drives.pages, new, log,
    fun e member => weaker base e (allowed e member)⟩

theorem trans (drives : Drives P base s t) (accesses : Accesses P t u) : Drives P base s u := by
  rcases drives.log with ⟨new, log, allowed⟩
  rcases accesses.log with ⟨new', log', allowed'⟩
  refine ⟨accesses.base.trans drives.channel, ?_, ?_, new' ++ new, ?_, ?_⟩
  · rw [accesses.process, drives.fds]
  · rw [accesses.process, drives.pages]
  · rw [log', log, List.append_assoc]
  · intro e member
    rcases List.mem_append.mp member with member | member
    · rw [← drives.channel]
      exact allowed' e member
    · exact allowed e member

end Drives

def TransferRequest.asked (request : TransferRequest) : ℕ × ℕ × ℕ :=
  (request.srcAddr.toNat, request.destAddr.toNat, request.transferLength.toNat)

def TransferRequest.stored (request : TransferRequest) : ℕ × ℕ × ℕ :=
  (request.srcAddr.toNat, request.destAddr.toNat, request.transferLength.toNat % 2 ^ 30)

def TransferRequest.Nonzero (request : TransferRequest) : Prop :=
  request.srcAddr ≠ 0 ∧ request.destAddr ≠ 0

instance (request : TransferRequest) : Decidable request.Nonzero :=
  inferInstanceAs (Decidable (_ ∧ _))

/-- The list is not empty, and the assertions on its addresses divert nothing: none is zero, or
    the assertions are compiled out. -/
def Accepts (env : Env) (requests : List TransferRequest) : Prop :=
  requests ≠ [] ∧ ∀ request ∈ requests, Passes env request.Nonzero

instance (env : Env) (requests : List TransferRequest) : Decidable (Accepts env requests) :=
  inferInstanceAs (Decidable (_ ∧ _))

namespace DmaDriverImpl

variable (d : DmaDriverImpl) (env : Env) (requests : List TransferRequest)

theorem transferData_get {requests : List TransferRequest} {j : ℕ} (bound : j < requests.length) :
    transferData env requests j = transferOf requests[j] := by
  simp only [transferData, List.getElem?_eq_getElem bound]

theorem configureDMA_tooMany (s : System) (long : 32 < requests.length) :
    d.configureDMA env requests s = .ok (-10) s := by
  unfold configureDMA
  rw [if_pos long]
  rfl

theorem configureDMA_noClock (s : System) (fits : requests.length ≤ 32)
    (stopped : ¬ env.ClockActivates) :
    ∃ t, d.configureDMA env requests s = .ok (-1) t ∧ OnlyClock s t := by
  obtain ⟨t, run, only⟩ := activateFpdDmaClk_run env s
  have stops : clkStatus env ≠ 0 := mt (clkStatus_eq_zero env).mp stopped
  have returns : d.configureDMA env requests s = .ok (-1) t := by
    unfold configureDMA
    rw [if_neg (by omega), bind_ok _ run, if_pos stops]
    rfl
  exact ⟨t, returns, only⟩

theorem configureDMA_initializes (s : System) (fits : requests.length ≤ 32)
    (clock : env.ClockActivates) (mapped : d.zdmaConfig.baseAddress ≠ 0) :
    ∃ t, d.configureDMA env requests s = d.configureChannel env requests t ∧
      t.dma = initialized d.zdmaConfig d.zdmaConfig.baseAddress s.dma.descriptor ∧
      t.machine.mem = s.machine.mem ∧ t.control = resetControl 0 ∧
      Drives RegisterAccess d.zdmaConfig.baseAddress s t ∧
      .write (d.zdmaConfig.baseAddress + Register.offset .ctrl2) chCtrl2DisMask ∈
        t.machine.log := by
  obtain ⟨r, activated, only⟩ := activateFpdDmaClk_run env s
  obtain ⟨t, run, dma, mem, control, accesses, disabled⟩ :=
    cfgInitialize_run env d.zdmaConfig d.zdmaConfig.baseAddress r mapped
  have base : t.dma.config.baseAddress = d.zdmaConfig.baseAddress := by rw [dma]; rfl
  refine ⟨t, ?_, by rw [dma, only.dma], mem.trans only.mem, control, ⟨base, ?_, ?_, ?_⟩, disabled⟩
  · unfold configureDMA
    rw [if_neg (by omega), bind_ok _ activated,
      if_neg (not_not.mpr ((clkStatus_eq_zero env).mpr clock)), bind_ok _ run,
      if_neg (by decide)]
  · rw [accesses.process, only.fds]
  · rw [accesses.process, only.pages]
  · rcases accesses.log with ⟨new, log, allowed⟩
    exact ⟨new, by rw [log, only.log], by simpa only [base] using allowed⟩

theorem steps_configureChannel :
    Steps (Accesses DriverAccess) (StuckIn env) (d.configureChannel env requests) := by
  apply Steps.bind (steps_selfTest env registers_driver)
  intro tested
  apply Steps.ite (.pure _)
  apply Steps.bind (steps_setMode env registers_driver _ _)
  intro moded
  apply Steps.ite (.pure _)
  apply Steps.bind (steps_createBDList env _ _ _ _)
  intro dscrCount
  apply Steps.bind (steps_setChDataConfig env registers_driver _)
  intro configured
  apply Steps.bind (steps_start env accesses_allowLists _ _)
  intro started
  exact .pure _

/-- Past the clock, every access goes to the mapped channel or to memory, however the call
    goes on, and the channel is disabled on the way. -/
theorem configureDMA_drives (s : System) (fits : requests.length ≤ 32)
    (clock : env.ClockActivates) (mapped : d.zdmaConfig.baseAddress ≠ 0) :
    Drives DriverAccess d.zdmaConfig.baseAddress s (finalState (d.configureDMA env requests s)) ∧
      .write (d.zdmaConfig.baseAddress + Register.offset .ctrl2) chCtrl2DisMask ∈
        (finalState (d.configureDMA env requests s)).machine.log := by
  obtain ⟨t, run, _, _, _, drives, disabled⟩ :=
    d.configureDMA_initializes env requests s fits clock mapped
  have accesses := (d.steps_configureChannel env requests).along t
  rw [run]
  exact ⟨(drives.mono registers_driver).trans accesses, accesses.kept disabled⟩

theorem configureDMA_selfTestFails (s : System) (fits : requests.length ≤ 32)
    (clock : env.ClockActivates) (mapped : d.zdmaConfig.baseAddress ≠ 0)
    (fails : ¬ env.SelfTestPasses d.zdmaConfig.baseAddress) :
    ∃ t, d.configureDMA env requests s = .ok xstFailure t ∧
      Drives RegisterAccess d.zdmaConfig.baseAddress s t := by
  obtain ⟨r, run, dma, _, control, drives, _⟩ :=
    d.configureDMA_initializes env requests s fits clock mapped
  obtain ⟨t, failed, accesses⟩ := d.configureChannel_selfTestFails env requests control
    (by rw [drives.channel]; exact fails)
  exact ⟨t, run.trans failed, drives.trans accesses⟩

structure Reached (s t : System) : Prop where
  dma : t.dma = d.configuredInstance
  control : t.control = configuredControl env d.zdmaConfig.baseAddress
  drives : Drives RegisterAccess d.zdmaConfig.baseAddress s t

theorem configureDMA_reaches (s : System) (fits : requests.length ≤ 32)
    (clock : env.ClockActivates) (mapped : d.Mapped)
    (works : env.SelfTestPasses d.zdmaConfig.baseAddress) :
    ∃ t, d.configureDMA env requests s =
        (do let _ ← start env (transferData env requests) (BitVec.ofNat 32 requests.length)
            pure 0) t ∧ d.Reached env s t := by
  obtain ⟨r, run, dma, mem, control, drives, _⟩ :=
    d.configureDMA_initializes env requests s fits clock mapped.uio
  obtain ⟨t, reached, ready⟩ :=
    d.configureChannel_reaches env requests mapped.cfgAddr_ne_zero control dma works
  exact ⟨t, run.trans reached, ready.dma, ready.control, drives.trans ready.accesses⟩

theorem configureDMA_status {s t : System} {status : ℤ} (fits : requests.length ≤ 32)
    (clock : env.ClockActivates) (mapped : d.Mapped)
    (works : env.SelfTestPasses d.zdmaConfig.baseAddress)
    (run : d.configureDMA env requests s = .ok status t) : status = 0 := by
  obtain ⟨r, reached, _⟩ := d.configureDMA_reaches env requests s fits clock mapped works
  rw [reached] at run
  obtain ⟨_, u, _, rest⟩ := bind_ok_inv run
  cases rest
  rfl

structure Configured (s t : System) : Prop where
  dma : t.dma = d.configuredInstance
  control : t.control = configuredControl env d.zdmaConfig.baseAddress
  starts : t.starts = d.tables.starts
  srcSlot : ∀ j (bound : j < requests.length),
    liDscrAt (window t.machine.mem d.cfgAddr) (16 * j) =
      srcLiDscr (transferOf requests[j]) (decide (j + 1 = requests.length))
  dstSlot : ∀ j (bound : j < requests.length),
    liDscrAt (window t.machine.mem d.cfgAddr) (2048 + 16 * j) =
      dstLiDscr (transferOf requests[j])
  drives : Drives
    (fun base e => RegisterAccess base e ∨ InSlots d.cfgAddr 2048 requests.length e)
    d.zdmaConfig.baseAddress s t
  written : ∀ j < requests.length,
    .store (d.cfgAddr + BitVec.ofNat 64 (2048 + 16 * j + 12)) 4 ∈ t.machine.log

section Configures

variable {d env requests}

theorem transferData_passes (accepts : Accepts env requests) {j : ℕ} (bound : j < requests.length) :
    Passes env ((transferData env requests j).srcAddr ≠ 0) ∧
      Passes env ((transferData env requests j).dstAddr ≠ 0) := by
  have wide {a : BitVec 32} (nonzero : a ≠ 0) : a.setWidth 64 ≠ 0 := by bv_omega
  rw [transferData_get env bound]
  rcases accepts.2 requests[j] (List.getElem_mem bound) with ⟨src, dst⟩ | out
  · exact ⟨.inl (wide src), .inl (wide dst)⟩
  · exact ⟨.inr out, .inr out⟩

theorem toNat_length (fits : requests.length ≤ 32) :
    (BitVec.ofNat 32 requests.length).toNat = requests.length := by
  rw [BitVec.toNat_ofNat, Nat.mod_eq_of_lt (by omega)]

theorem Reached.descriptor {s t : System} (reached : d.Reached env s t) :
    t.dma.descriptor = d.tables := by
  rw [reached.dma]
  rfl

theorem Reached.isSgDma {s t : System} (reached : d.Reached env s t) : t.dma.isSgDma = TRUE := by
  rw [reached.dma]
  rfl

theorem Reached.notBusy {s t : System} (reached : d.Reached env s t) :
    t.dma.channelState ≠ .busy := by
  rw [reached.dma]
  simp only [configuredInstance, ne_eq, reduceCtorEq, not_false_eq_true]

theorem Reached.fills {s t : System} (reached : d.Reached env s t) (mapped : d.Mapped)
    (fits : requests.length ≤ 32) (accepts : Accepts env requests) :
    ∃ u, writeDescriptors env t.dma.descriptor (transferData env requests)
        (BitVec.ofNat 32 requests.length) t = .ok () u ∧
      TablesFilled d.cfgAddr 2048
        (fun j => srcLiDscr (transferData env requests j) (decide (j + 1 = requests.length)))
        (fun j => dstLiDscr (transferData env requests j)) t u requests.length := by
  have positive : 0 < requests.length := List.length_pos_iff.mpr accepts.1
  have nonempty : BitVec.ofNat 32 requests.length ≠ 0 := by bv_omega
  have pointers (o : ℕ) (low : o < 4096) : Passes env (d.cfgAddr + BitVec.ofNat 64 o ≠ 0) :=
    .inl (mapped.offset_ne_zero low)
  have linear := writeDescriptors_linear env d.tables (transferData env requests)
    (BitVec.ofNat 32 requests.length) d.cfgAddr 2048 t rfl rfl rfl nonempty
  rw [toNat_length fits] at linear
  rw [reached.descriptor]
  apply linear (by omega) (by omega)
  · intro j bound
    exact pointers _ (by omega)
  · intro j bound
    exact pointers _ (by omega)
  · intro j bound
    exact transferData_passes accepts bound

theorem configureDMA_configures {s : System} (fits : requests.length ≤ 32)
    (clock : env.ClockActivates) (mapped : d.Mapped)
    (works : env.SelfTestPasses d.zdmaConfig.baseAddress) (accepts : Accepts env requests) :
    ∃ t, d.configureDMA env requests s = .ok 0 t ∧ d.Configured env requests s t := by
  obtain ⟨r, run, reached⟩ := d.configureDMA_reaches env requests s fits clock mapped works
  obtain ⟨t, written, filled⟩ := reached.fills mapped fits accepts
  have positive : 0 < requests.length := List.length_pos_iff.mpr accepts.1
  have nonempty : BitVec.ofNat 32 requests.length ≠ 0 := by bv_omega
  have started :=
    start_sg_run env (.inl nonempty) reached.isSgDma (fun refused => reached.notBusy refused.1)
      filled.dma written
  have dma : t.dma = d.configuredInstance := filled.dma.trans reached.dma
  have channel : t.dma.config.baseAddress = r.dma.config.baseAddress := by rw [filled.dma]
  have io (r' : Register) : t.reg r' = r.reg r' := by
    rw [System.reg, System.addr, filled.io, channel]
    rfl
  have starts := t.setStart_accesses t.dma.descriptor
  have stores : Accesses (fun base e => RegisterAccess base e ∨
      InSlots d.cfgAddr 2048 requests.length e) r t := by
    rcases filled.log with ⟨new, log, inside⟩
    exact ⟨channel, filled.process, new, log, fun e member => .inr (inside e member)⟩
  have returns : d.configureDMA env requests s = .ok 0 (t.setStart t.dma.descriptor) := by
    rw [run, bind_ok _ started]
    rfl
  refine ⟨_, returns, dma, ?_, ?_, ?_, ?_, ?_, ?_⟩
  · rw [System.setStart_control, ← reached.control]
    simp only [System.control, io]
  · rw [System.setStart_starts, dma]
    rfl
  · intro j bound
    rw [System.setStart_mem, filled.srcSlot j bound, transferData_get env bound]
  · intro j bound
    rw [System.setStart_mem, filled.dstSlot j bound, transferData_get env bound]
  · exact ((reached.drives.mono fun _ _ => .inl).trans stores).trans (starts.mono fun _ _ => .inl)
  · intro j bound
    exact starts.kept (filled.written j bound)

theorem configured_of_returned {s t : System} (mapped : d.Mapped) (accepts : Accepts env requests)
    (run : d.configureDMA env requests s = .ok 0 t) : d.Configured env requests s t := by
  by_cases fits : requests.length ≤ 32
  · by_cases clock : env.ClockActivates
    · by_cases works : env.SelfTestPasses d.zdmaConfig.baseAddress
      · obtain ⟨u, configures, configured⟩ :=
          configureDMA_configures (s := s) fits clock mapped works accepts
        rw [configures] at run
        cases run
        exact configured
      · obtain ⟨u, fails, _⟩ :=
          d.configureDMA_selfTestFails env requests s fits clock mapped.uio works
        rw [fails] at run
        cases run
    · obtain ⟨u, stops, _⟩ := d.configureDMA_noClock env requests s fits clock
      rw [stops] at run
      cases run
  · rw [d.configureDMA_tooMany env requests s (by omega)] at run
    cases run

theorem configureDMA_returned {s t : System} {status : ℤ} (wait : env.asserts = .waiting)
    (fits : requests.length ≤ 32) (clock : env.ClockActivates) (mapped : d.Mapped)
    (works : env.SelfTestPasses d.zdmaConfig.baseAddress)
    (run : d.configureDMA env requests s = .ok status t) :
    requests ≠ [] ∧ ∀ request ∈ requests, request.Nonzero := by
  obtain ⟨r, reaches, reached⟩ := d.configureDMA_reaches env requests s fits clock mapped works
  rw [reaches] at run
  obtain ⟨_, u, started, _⟩ := bind_ok_inv run
  have linear : r.dma.descriptor.dscrType = .linear := by
    rw [reached.descriptor]
    rfl
  obtain ⟨num, addresses⟩ :=
    start_sg_returned wait reached.isSgDma reached.notBusy linear started
  rw [toNat_length fits] at addresses
  constructor
  · rintro rfl
    exact num rfl
  · intro request member
    obtain ⟨j, bound, rfl⟩ := List.getElem_of_mem member
    have nonzero := addresses j bound
    rw [transferData_get env bound] at nonzero
    have narrow {a : BitVec 32} (nonzero : a.setWidth 64 ≠ 0) : a ≠ 0 := by
      rintro rfl
      exact nonzero rfl
    exact ⟨narrow nonzero.1, narrow nonzero.2⟩

end Configures

end DmaDriverImpl

theorem transferOfPair_stored (request : TransferRequest) (isLast : Bool) :
    transferOfPair (srcLiDscr (DmaDriverImpl.transferOf request) isLast,
      dstLiDscr (DmaDriverImpl.transferOf request)) = request.stored := by
  have wide (a : BitVec 32) : (a.setWidth 64).toNat % 2 ^ 49 = a.toNat := by bv_omega
  simp only [transferOfPair, srcLiDscr, dstLiDscr, DmaDriverImpl.transferOf, wide,
    BitVec.and_assoc, BitVec.and_self, word2Size_toNat, TransferRequest.stored]

namespace DmaDriverImpl.Configured

variable {d : DmaDriverImpl} {env : Env} {requests : List TransferRequest} {s t : System}

theorem channel (configured : d.Configured env requests s t) :
    t.dma.config.baseAddress = d.zdmaConfig.baseAddress := configured.drives.channel

theorem srcDscr (configured : d.Configured env requests s t) {j : ℕ}
    (bound : j < requests.length) :
    t.srcDscr j = srcLiDscr (transferOf requests[j]) (decide (j + 1 = requests.length)) := by
  rw [System.srcDscr, configured.dma]
  exact configured.srcSlot j bound

theorem dstDscr (configured : d.Configured env requests s t) {j : ℕ}
    (bound : j < requests.length) : t.dstDscr j = dstLiDscr (transferOf requests[j]) := by
  rw [System.dstDscr, configured.dma, ← configured.dstSlot j bound]
  exact liDscrAt_window_add _ _ _ _

theorem startAddresses (configured : d.Configured env requests s t) :
    t.machine.startAddress d.zdmaConfig.baseAddress .srcStartLsb .srcStartMsb =
        d.cfgBuf.physAddr.toNat ∧
      t.machine.startAddress d.zdmaConfig.baseAddress .dstStartLsb .dstStartMsb =
        d.cfgBuf.physAddr.toNat + 2048 := by
  have reg (r : Register) := t.channelReg_eq r configured.channel
  have starts := configured.starts
  simp only [System.starts, Descriptor.starts, StartValues.mk.injEq] at starts
  rcases starts with ⟨srcLsb, srcMsb, dstLsb, dstMsb⟩
  rw [Machine.startAddress_of ((reg _).trans srcLsb) ((reg _).trans srcMsb),
    Machine.startAddress_of ((reg _).trans dstLsb) ((reg _).trans dstMsb)]
  simp only [tables]
  bv_omega

/-- The channel walks the table of the list it was given, whatever else the buffer holds. -/
theorem walk (configured : d.Configured env requests s t) (nonempty : requests ≠ []) {length : ℕ}
    (room : 2048 + 16 * requests.length ≤ length) {fuel : ℕ} (enough : requests.length ≤ fuel) :
    ∃ visited, t.machine.deviceWalk d.zdmaConfig.baseAddress (d.cfgShared length) fuel =
        some visited ∧
      visited.map (fun entry => transferOfPair entry.2) =
        requests.map TransferRequest.stored := by
  rcases configured.startAddresses with ⟨srcStart, dstStart⟩
  have positive : 0 < requests.length := List.length_pos_iff.mpr nonempty
  have get (j : ℕ) (bound : j < requests.length) := transferData_get env bound
  have table := Machine.deviceWalk_table (d.cfgShared length) 2048
    (fun j => srcLiDscr (transferData env requests j) (decide (j + 1 = requests.length)))
    (fun j => dstLiDscr (transferData env requests j)) srcStart dstStart
    (by
      intro j bound
      rw [get j bound]
      exact configured.srcSlot j bound)
    (by
      intro j bound
      rw [get j bound]
      exact configured.dstSlot j bound)
    (by
      intro j bound
      rw [get j bound]
      exact srcLiDscr_stops (by simp only [transferOf]; decide) _ _)
    room positive enough
  refine ⟨_, table, ?_⟩
  apply List.ext_getElem
  · simp only [List.length_map, List.length_range]
  · intro j _ bound
    rw [List.length_map] at bound
    simp only [List.getElem_map, List.getElem_range, get j bound, transferOfPair_stored]

theorem walkTransfers (configured : d.Configured env requests s t) (nonempty : requests ≠ [])
    {length : ℕ} (room : 2048 + 16 * requests.length ≤ length) {fuel : ℕ}
    (enough : requests.length ≤ fuel) :
    t.machine.walkTransfers d.zdmaConfig.baseAddress (d.cfgShared length) fuel =
      some (requests.map TransferRequest.stored) := by
  obtain ⟨visited, done, transfers⟩ := configured.walk nonempty room enough
  rw [Machine.walkTransfers, done, Option.map_some, transfers]

theorem scatterGatherMode (configured : d.Configured env requests s t)
    (keeps : env.KeepsMode d.zdmaConfig.baseAddress) :
    t.machine.channelReg d.zdmaConfig.baseAddress .ctrl0 &&&
      (ctrl0PointTypeMask ||| ctrl0ModeMask) = ctrl0PointTypeMask := by
  have control : t.reg .ctrl0 = (configuredControl env d.zdmaConfig.baseAddress).ctrl0 :=
    congrArg ControlValues.ctrl0 configured.control
  rw [t.channelReg_eq _ configured.channel, control, configuredControl,
    overFetchBits_and _ _ (by decide) (by decide)]
  exact keeps

theorem programmed (configured : d.Configured env requests s t) (nonempty : requests ≠ [])
    (fits : requests.length ≤ 32) (keeps : env.KeepsMode d.zdmaConfig.baseAddress) :
    t.machine.Programmed d.zdmaConfig.baseAddress (d.cfgShared 4096)
      (requests.map TransferRequest.stored) :=
  ⟨configured.scatterGatherMode keeps, _, configured.walkTransfers nonempty (by omega) le_rfl⟩

end DmaDriverImpl.Configured

end ZynqmpDma
