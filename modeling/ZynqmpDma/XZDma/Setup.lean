import Mathlib.Tactic.FinCases
import ZynqmpDma.XZDma.DeviceCalls
import ZynqmpDma.XZDma.Modes
import ZynqmpDma.XZDma.Movement

namespace ZynqmpDma

open Base XZDma

namespace XZDma

/-- A transfer as the channel has it in simple mode: 49-bit addresses, 30-bit sizes and one bit of
    coherence on each side. -/
structure SimpleTransfer where
  src : BitVec 49
  dst : BitVec 49
  srcSize : BitVec 32
  dstSize : BitVec 32
  srcCoherent : BitVec 32
  dstCoherent : BitVec 32
deriving DecidableEq, Repr

def SimpleTransfer.of (data : Transfer) : SimpleTransfer where
  src := data.srcAddr.setWidth 49
  dst := data.dstAddr.setWidth 49
  srcSize := data.size &&& word2SizeMask
  dstSize := data.size &&& word2SizeMask
  srcCoherent := data.srcCoherent.setWidth 32 &&& word3CohrntMask
  dstCoherent := data.dstCoherent.setWidth 32 &&& word3CohrntMask

/-- What a channel will do once it is enabled: fetch a list, or make one transfer in a mode. -/
structure Setup where
  pointType : BitVec 32
  mode : BitVec 32
  transfer : SimpleTransfer
  words : Fin 4 → BitVec 32
  list : BusKey

end XZDma

namespace System

variable (s : System)

def simpleTransfer : SimpleTransfer where
  src := s.busStart .srcDscrWord0 .srcDscrWord1
  dst := s.busStart .dstDscrWord0 .dstDscrWord1
  srcSize := s.reg .srcDscrWord2 &&& word2SizeMask
  dstSize := s.reg .dstDscrWord2 &&& word2SizeMask
  srcCoherent := s.reg .srcDscrWord3 &&& word3CohrntMask
  dstCoherent := s.reg .dstDscrWord3 &&& word3CohrntMask

def wrOnlyWords (i : Fin 4) : BitVec 32 :=
  s.machine.io (s.dma.config.baseAddress + wrOnlyWordOffset i)

def setup : Setup where
  pointType := pointTypeField (s.reg .ctrl0)
  mode := modeField (s.reg .ctrl0)
  transfer := s.simpleTransfer
  words := s.wrOnlyWords
  list := s.listStart

end System

namespace XZDma

namespace Setup

variable (w : Setup) (i : XZDma)

def withWord (j : Fin 4) (value : BitVec 32) : Setup :=
  { w with words := Function.update w.words j value }

def withWords (buffer : ℕ → BitVec 32) : Setup :=
  { w with words := fun j => if i.config.dmaType = 0 ∨ j.val < 2 then buffer j else w.words j }

/-- The one-way modes add up until the next normal mode or reset. -/
def withMode (isSgDma : BitVec 8) (mode : Mode) : Setup :=
  if isSgDma ≠ TRUE then
    { w with pointType := 0, mode := if mode = .normalMode then 0 else w.mode ||| mode.code }
  else if mode ≠ .normalMode then w
  else { w with pointType := 1, mode := 0 }

def afterReset : Setup :=
  { w with
    pointType := 0
    mode := 0
    transfer :=
      if i.config.isCacheCoherent = 0 then w.transfer
      else { w.transfer with
        srcCoherent := i.config.isCacheCoherent.setWidth 32 &&& word3CohrntMask
        dstCoherent := i.config.isCacheCoherent.setWidth 32 &&& word3CohrntMask } }

/-- What an operation makes of the setup once its checks let it through; `i` is the instance that
    it finds. -/
def loaded : Operation → Setup
  | .setMode _ isSgDma mode => w.withMode isSgDma mode
  | .reset _ => w.afterReset i
  | .start _ data _ =>
    if i.isSgDma ≠ TRUE then { w with transfer := .of (data 0) }
    else { w with list := i.descriptor.slotKey 0 }
  | _ => w

def next : DeviceCall → Setup
  | .operation op => if op.Effective i then w.loaded i op else w
  | .woData buffer => w.withWords i buffer
  | _ => w

variable {w i}

theorem withMode_rest (isSgDma : BitVec 8) (mode : Mode) :
    (w.withMode isSgDma mode).transfer = w.transfer ∧
      (w.withMode isSgDma mode).words = w.words ∧ (w.withMode isSgDma mode).list = w.list := by
  unfold withMode
  split
  · exact ⟨rfl, rfl, rfl⟩
  · split <;> exact ⟨rfl, rfl, rfl⟩

theorem loaded_words (op : Operation) : (w.loaded i op).words = w.words := by
  cases op with
  | setMode env isSgDma mode => exact (withMode_rest isSgDma mode).2.1
  | start env data num =>
    rw [loaded]
    split <;> rfl
  | reset | setChDataConfig | setChDscrConfig | createBDList | enable | resume | channelState
  | selfTest | hardware => rfl

theorem next_kept {α : Type} (field : Setup → α) {op : Operation}
    (kept : field (w.loaded i op) = field w) : field (w.next i (.operation op)) = field w := by
  rw [next]
  split
  · exact kept
  · rfl

end Setup

def DeviceCall.ReadsBack (base : BitVec 64) : DeviceCall → Prop
  | operation op => op.ReadsBack base
  | _ => True

section Steps

variable {s t : System} {a : ℤ} {regs : List Register} {place : Set (BitVec 64)}

theorem Within.words (within : Within regs place s t) : t.wrOnlyWords = s.wrOnlyWords := by
  funext i
  rw [System.wrOnlyWords, within.config]
  apply within.io
  intro r _ same
  rw [System.addr, BitVec.add_right_inj] at same
  exact wrOnlyWordOffset_ne i r same

theorem Within.transfer (within : Within regs place s t)
    (other : ∀ r ∈ simpleRegisters, r ∉ regs) : t.simpleTransfer = s.simpleTransfer := by
  have same (r : Register) (listed : r ∈ simpleRegisters) : t.reg r = s.reg r :=
    within.reg (other r listed)
  simp only [System.simpleTransfer, System.busStart, same .srcDscrWord0 (by decide),
    same .srcDscrWord1 (by decide), same .srcDscrWord2 (by decide), same .srcDscrWord3 (by decide),
    same .dstDscrWord0 (by decide), same .dstDscrWord1 (by decide),
    same .dstDscrWord2 (by decide), same .dstDscrWord3 (by decide)]

theorem Within.list (within : Within regs place s t) (other : ∀ r ∈ startRegisters, r ∉ regs) :
    t.listStart = s.listStart := by
  have same (r : Register) (listed : r ∈ startRegisters) : t.reg r = s.reg r :=
    within.reg (other r listed)
  simp only [System.listStart, System.busStart, same .srcStartLsb (by decide),
    same .srcStartMsb (by decide), same .dstStartLsb (by decide), same .dstStartMsb (by decide)]

theorem step_modes {op : Operation} (run : op.step s = .ok a t)
    (reads : op.ReadsBack s.dma.config.baseAddress) :
    pointTypeField (t.reg .ctrl0) = (s.setup.next s.dma (.operation op)).pointType ∧
      modeField (t.reg .ctrl0) = (s.setup.next s.dma (.operation op)).mode := by
  have ctrl0 : t.reg .ctrl0 = (s.channel.next op).ctrl0 :=
    congrArg Channel.ctrl0 (step_channel op run)
  have read {env : Env} (reads : ∀ v, env.readBack (s.addr .ctrl0) v = v) :
      s.channel.read env = s.reg .ctrl0 := reads _
  rw [ctrl0]
  cases op with
  | setMode env isSgDma mode =>
    by_cases accepted : (Operation.setMode env isSgDma mode).Effective s.dma
    · have accepted' : Passes env (isSgDma = TRUE ∨ isSgDma = FALSE) ∧ s.channel.cached = .idle :=
        accepted
      rw [Channel.next, if_pos accepted', Setup.next, if_pos accepted, Channel.setMode,
        Setup.loaded, Setup.withMode, read reads]
      by_cases simple : isSgDma ≠ TRUE
      · rw [if_pos simple, if_pos simple]
        exact ⟨pointTypeField_simpleModeBits _ mode, modeField_simpleModeBits _ mode⟩
      · rw [if_neg simple, if_neg simple]
        by_cases normal : mode ≠ .normalMode
        · rw [if_pos normal, if_pos normal]
          exact ⟨rfl, rfl⟩
        · rw [if_neg normal, if_neg normal]
          exact ⟨pointTypeField_sgModeBits _, modeField_sgModeBits _⟩
    · have accepted' : ¬ (Passes env (isSgDma = TRUE ∨ isSgDma = FALSE) ∧
          s.channel.cached = .idle) := accepted
      rw [Channel.next, if_neg accepted', Setup.next, if_neg accepted]
      exact ⟨rfl, rfl⟩
  | reset env =>
    by_cases idle : (Operation.reset env).Effective s.dma
    · have idle' : Passes env (s.channel.cached = .idle) := idle
      rw [Channel.next, if_pos idle', Setup.next, if_pos idle]
      exact ⟨pointTypeField_reset, modeField_reset⟩
    · have idle' : ¬ Passes env (s.channel.cached = .idle) := idle
      rw [Channel.next, if_neg idle', Setup.next, if_neg idle]
      exact ⟨rfl, rfl⟩
  | setChDataConfig env configure =>
    rw [Setup.next_kept Setup.pointType rfl, Setup.next_kept Setup.mode rfl, Channel.next]
    split
    · rw [read reads]
      exact ⟨pointTypeField_overFetchBits _ configure, modeField_overFetchBits _ configure⟩
    · exact ⟨rfl, rfl⟩
  | resume env =>
    rw [Setup.next_kept Setup.pointType rfl, Setup.next_kept Setup.mode rfl, Channel.next]
    split
    · rw [Channel.resume, read reads]
      exact ⟨pointTypeField_resumeBits _, modeField_resumeBits _⟩
    · exact ⟨rfl, rfl⟩
  | selfTest env =>
    rw [Setup.next_kept Setup.pointType rfl, Setup.next_kept Setup.mode rfl, Channel.next,
      read reads]
    exact ⟨rfl, rfl⟩
  | hardware status =>
    rw [Setup.next_kept Setup.pointType rfl, Setup.next_kept Setup.mode rfl, Channel.next]
    split <;> exact ⟨rfl, rfl⟩
  | start env data num =>
    have loaded : (s.setup.loaded s.dma (.start env data num)).pointType = s.setup.pointType ∧
        (s.setup.loaded s.dma (.start env data num)).mode = s.setup.mode := by
      rw [Setup.loaded]
      split <;> exact ⟨rfl, rfl⟩
    rw [Setup.next_kept Setup.pointType loaded.1, Setup.next_kept Setup.mode loaded.2]
    exact ⟨rfl, rfl⟩
  | setChDscrConfig | createBDList | enable | channelState =>
    rw [Setup.next_kept Setup.pointType rfl, Setup.next_kept Setup.mode rfl]
    exact ⟨rfl, rfl⟩

theorem simpleMode_transfer {data : Transfer} (run : simpleMode data s = .ok () t) :
    t.simpleTransfer = .of data ∧ t.listStart = s.listStart := by
  have addr (a : BitVec 64) :
      (((a >>> word1MsbShift) &&& word1MsbMask).setWidth 32 : BitVec 32).setWidth 17 ++
        ((a &&& word0LsbMask).setWidth 32 : BitVec 32) = a.setWidth 49 := start_append a
  have masked (v m : BitVec 32) : v &&& m &&& m = v &&& m := by
    rw [BitVec.and_assoc, BitVec.and_self]
  have touches : Touches simpleRegisters ∅ (simpleMode data) := touches_simpleMode data
  have list := (touches.of_ok run).list (by decide)
  refine ⟨?_, list⟩
  cases run
  simp only [System.simpleTransfer, System.busStart, System.write_reg, reduceCtorEq, ite_true,
    ite_false, addr, masked, SimpleTransfer.of]

theorem scatterGather_list {env : Env} {data : ℕ → Transfer} {num : BitVec 32}
    (passes : Passes env (num ≠ 0)) (run : scatterGather env data num s = .ok () t) :
    t.simpleTransfer = s.simpleTransfer ∧ t.listStart = s.dma.descriptor.slotKey 0 := by
  rw [scatterGather, xilAssert_passes _ _ passes, bind_ok _ (getInstance_run s)] at run
  have within := (touches_fillTables env data (s.dma.descriptor.within_univ num)).of_ok run
  refine ⟨within.transfer (by decide), ?_⟩
  obtain ⟨_, u, _, writes⟩ := bind_ok_inv run
  cases writes
  exact setStart_listStart u s.dma.descriptor

theorem start_setup {env : Env} {data : ℕ → Transfer} {num : BitVec 32}
    (run : start env data num s = .ok a t) :
    t.simpleTransfer = (s.setup.next s.dma (.operation (.start env data num))).transfer ∧
      t.listStart = (s.setup.next s.dma (.operation (.start env data num))).list := by
  unfold start at run
  rcases xilAssert_ok run with ⟨passes, body⟩ | ⟨fails, rfl⟩
  · rw [bind_ok _ (getInstance_run s)] at body
    by_cases refused : s.dma.channelState = .busy ∧ num ≥ s.dma.descriptor.dscrCount
    · have ineffective : ¬ (Operation.start env data num).Effective s.dma :=
        fun both => both.2 refused
      rw [if_pos refused] at body
      cases body
      rw [Setup.next, if_neg ineffective]
      exact ⟨rfl, rfl⟩
    · have effective : (Operation.start env data num).Effective s.dma := ⟨passes, refused⟩
      rw [if_neg refused] at body
      rw [Setup.next, if_pos effective, Setup.loaded]
      by_cases simple : s.dma.isSgDma ≠ TRUE
      · rw [if_pos simple] at body ⊢
        obtain ⟨_, u, loaded, done⟩ := bind_ok_inv body
        cases done
        exact simpleMode_transfer loaded
      · rw [if_neg simple] at body ⊢
        obtain ⟨_, u, filled, done⟩ := bind_ok_inv body
        cases done
        exact scatterGather_list passes filled
  · have ineffective : ¬ (Operation.start env data num).Effective t.dma := fun both => fails both.1
    rw [Setup.next, if_neg ineffective]
    exact ⟨rfl, rfl⟩

theorem reset_transfer {env : Env} {u : Unit} (run : reset env s = .ok u t) :
    t.simpleTransfer = (s.setup.next s.dma (.operation (.reset env))).transfer := by
  rw [Setup.next]
  by_cases idle : (Operation.reset env).Effective s.dma
  · rw [if_pos idle, Setup.loaded]
    unfold reset at run
    rw [bind_ok _ (getInstance_run s), xilAssert_passes _ _ idle] at run
    have masked (v m : BitVec 32) : v &&& m &&& m = v &&& m := by
      rw [BitVec.and_assoc, BitVec.and_self]
    by_cases noncoherent : s.dma.config.isCacheCoherent = 0
    · simp only [bind_run, disableCh, disableIntr, intrClear, totalByteClear, getSrcIntrCnt,
        getDstIntrCnt, readReg_run, writeReg_run, setInstance_run, resetCoherence, noncoherent,
        ne_eq, not_true_eq_false, ite_false, pure_run] at run
      cases run
      simp only [Setup.afterReset, if_pos noncoherent, System.setup, System.simpleTransfer,
        System.busStart, System.write_reg, System.read_reg, System.withDma_reg, implies_true,
        reduceCtorEq, ite_false]
    · simp only [bind_run, disableCh, disableIntr, intrClear, totalByteClear, getSrcIntrCnt,
        getDstIntrCnt, readReg_run, writeReg_run, setInstance_run, resetCoherence, ne_eq,
        noncoherent, not_false_eq_true, ite_true] at run
      cases run
      simp only [Setup.afterReset, if_neg noncoherent, System.setup, System.simpleTransfer,
        System.busStart, System.write_reg, System.read_reg, System.withDma_reg, implies_true,
        reduceCtorEq, ite_true, ite_false, masked]
  · rw [if_neg idle]
    unfold reset at run
    rw [bind_ok _ (getInstance_run s)] at run
    rw [xilAssert_diverted run idle]
    rfl

theorem Within.setup (within : Within regs place s t) (ctrl0 : .ctrl0 ∉ regs)
    (simple : ∀ r ∈ simpleRegisters, r ∉ regs) (list : ∀ r ∈ startRegisters, r ∉ regs) :
    t.setup = s.setup := by
  simp only [System.setup, within.reg ctrl0, within.transfer simple, within.words,
    within.list list]

theorem operation_transfer {op : Operation} (run : op.body s = .ok a t) :
    t.simpleTransfer = (s.setup.next s.dma (.operation op)).transfer ∧
      t.listStart = (s.setup.next s.dma (.operation op)).list := by
  have within := body_within op s
  rw [run] at within
  cases op with
  | setMode env isSgDma mode =>
    have rest := s.setup.withMode_rest isSgDma mode
    have transfer : (s.setup.next s.dma (.operation (.setMode env isSgDma mode))).transfer = _ :=
      Setup.next_kept Setup.transfer rest.1
    have list : (s.setup.next s.dma (.operation (.setMode env isSgDma mode))).list = _ :=
      Setup.next_kept Setup.list rest.2.2
    rw [transfer, list]
    rw [Operation.registers] at within
    exact ⟨within.transfer (by decide), within.list (by decide)⟩
  | start env data num => exact start_setup run
  | reset env =>
    obtain ⟨_, u, done, returned⟩ := bind_ok_inv run
    cases returned
    rw [Operation.registers] at within
    rw [Setup.next_kept Setup.list rfl]
    exact ⟨reset_transfer done, within.list (by decide)⟩
  | setChDataConfig | setChDscrConfig | createBDList | enable | resume | channelState | selfTest
  | hardware =>
    rw [Operation.registers] at within
    rw [Setup.next_kept Setup.transfer rfl, Setup.next_kept Setup.list rfl]
    exact ⟨within.transfer (by decide), within.list (by decide)⟩

theorem writeWord_setup (i : Fin 4) (value : BitVec 32) (s : System) :
    ∃ t, writeWord i value s = .ok () t ∧ t.dma = s.dma ∧
      t.setup = s.setup.withWord i value := by
  refine ⟨_, rfl, rfl, ?_⟩
  generalize written : (System.mk s.dma (s.machine.write _ value) s.process) = t
  have reg (r : Register) : t.reg r = s.reg r := by
    rw [← written]
    apply Function.update_of_ne
    rw [System.addr, ne_eq, BitVec.add_right_inj]
    exact (wrOnlyWordOffset_ne i r).symm
  have words : t.wrOnlyWords = Function.update s.wrOnlyWords i value := by
    rw [← written]
    funext j
    simp only [System.wrOnlyWords, Machine.write, Function.update_apply, BitVec.add_right_inj,
      wrOnlyWordOffset_inj]
  simp only [System.setup, System.simpleTransfer, System.listStart, System.busStart, reg, words,
    Setup.withWord]

theorem woData_setup (buffer : ℕ → BitVec 32) (s : System) :
    ∃ t, woData buffer s = .ok () t ∧ t.setup = s.setup.withWords s.dma buffer := by
  obtain ⟨t₀, run₀, dma₀, setup₀⟩ := writeWord_setup 0 (buffer 0) s
  obtain ⟨t₁, run₁, dma₁, setup₁⟩ := writeWord_setup 1 (buffer 1) t₀
  rw [woData, bind_ok _ (getInstance_run s)]
  by_cases gdma : s.dma.config.dmaType = 0
  · obtain ⟨t₂, run₂, dma₂, setup₂⟩ := writeWord_setup 2 (buffer 2) t₁
    obtain ⟨t₃, run₃, dma₃, setup₃⟩ := writeWord_setup 3 (buffer 3) t₂
    refine ⟨t₃, ?_, ?_⟩
    · rw [if_pos gdma, bind_ok _ run₀, bind_ok _ run₁, bind_ok _ run₂, run₃]
    · rw [setup₃, setup₂, setup₁, setup₀]
      refine congrArg (fun words => { s.setup with words := words }) ?_
      funext j
      fin_cases j <;> simp [Setup.withWord, gdma]
  · refine ⟨t₁, ?_, ?_⟩
    · rw [if_neg gdma, bind_ok _ run₀, run₁]
    · have adma : s.dma.config.dmaType ≠ 0#8 := gdma
      rw [setup₁, setup₀]
      refine congrArg (fun words => { s.setup with words := words }) ?_
      funext j
      fin_cases j <;> simp [Setup.withWord, adma]

theorem DeviceCall.step_setup (call : DeviceCall) (run : call.step s = .ok a t)
    (reads : call.ReadsBack s.dma.config.baseAddress) :
    t.setup = s.setup.next s.dma call := by
  cases call with
  | operation op =>
    have within : Within op.registers Set.univ s.clearLog t := by
      have footprint := body_within op s.clearLog
      rwa [show op.body s.clearLog = .ok a t from run] at footprint
    obtain ⟨pointType, mode⟩ := step_modes run reads
    obtain ⟨transfer, list⟩ := operation_transfer run
    have kept : (s.setup.next s.dma (.operation op)).words = s.setup.words :=
      Setup.next_kept Setup.words (Setup.loaded_words op)
    have words := within.words.trans kept.symm
    rw [System.setup, pointType, mode, transfer, list, words]
    rfl
  | woData buffer =>
    obtain ⟨u, set, setup⟩ := woData_setup buffer s.clearLog
    have done : (DeviceCall.woData buffer).step s = .ok 0 u := bind_ok _ set
    rw [done] at run
    cases run
    exact setup
  | enableIntr mask =>
    have listed : Register.ids ∈ [Register.ids] := by decide
    have touches : Touches [.ids] Set.univ (XZDma.enableIntr mask) :=
      .basic (.setInstance (fun _ => rfl) fun silent => absurd listed silent)
    cases run
    exact (touches.within s.clearLog).setup (by decide) (by decide) (by decide)
  | disableIntr env mask =>
    have touches : Touches [.ids] Set.univ (XZDma.disableIntr env mask) :=
      .bind (touches_readReg env .ids) fun current => touches_writeReg _ (by decide)
    cases run
    exact (touches.within s.clearLog).setup (by decide) (by decide) (by decide)
  | intrClear mask =>
    have touches : Touches [.isr] Set.univ (XZDma.intrClear mask) := touches_writeReg _ (by decide)
    cases run
    exact (touches.within s.clearLog).setup (by decide) (by decide) (by decide)

end Steps

section Runs

def Setup.after (w : Setup) (past : List DeviceVisit) : Setup :=
  past.foldl (fun w visit => w.next visit.before.dma visit.call) w

def SetUp (base : BitVec 64) (w : Setup) (s : System) : Prop :=
  s.dma.config.baseAddress = base ∧ s.setup = w

/-- What the channel will do once it is enabled is what the history asked for: nothing else that
    a call or the channel does comes near those registers. -/
theorem run_setup (s : System) (calls : List DeviceCall)
    (reads : ∀ call ∈ calls, call.ReadsBack s.dma.config.baseAddress)
    (past after : List DeviceVisit) (visit : DeviceVisit)
    (split : visits DeviceCall.step s calls = past ++ visit :: after) :
    visit.before.setup = s.setup.after past := by
  have keeps (w : Setup) (t : System) (call : DeviceCall) (a : ℤ) (u : System)
      (now : SetUp s.dma.config.baseAddress w t)
      (faithful : call.ReadsBack s.dma.config.baseAddress)
      (run : call.step t = .ok a u) : SetUp s.dma.config.baseAddress (w.next t.dma call) u := by
    refine ⟨(congrArg Config.baseAddress (DeviceCall.step_config run)).trans now.1, ?_⟩
    rw [call.step_setup run (now.1 ▸ faithful), now.2]
  have begins : SetUp s.dma.config.baseAddress s.setup s := ⟨rfl, rfl⟩
  have known (v : DeviceVisit) (member : v ∈ visits DeviceCall.step s calls) :
      v.call.ReadsBack s.dma.config.baseAddress := reads _ (visits_call member)
  have simulates : SetUp s.dma.config.baseAddress (s.setup.after past) visit.before :=
    visits_simulates (fun (w : Setup) (v : DeviceVisit) => w.next v.before.dma v.call) keeps begins
      known split
  exact simulates.2

theorem run_setup_start :
    let s := System.blank
    let call : DeviceCall := .operation
      (.start (.ideal .waiting) (fun _ => ⟨0x70300000, 0x70400000, 64, 0, 0, 0⟩) 1)
    (finalState (call.step s)).setup = s.setup.after [⟨s, call, call.step s⟩] :=
  run_setup .blank
    [.operation (.start (.ideal .waiting) (fun _ => ⟨0x70300000, 0x70400000, 64, 0, 0, 0⟩) 1),
      .operation .enable]
    (List.forall_mem_cons.mpr ⟨trivial, List.forall_mem_singleton.mpr trivial⟩) [_] [] ⟨_, _, _⟩ rfl

end Runs

end XZDma

end ZynqmpDma
