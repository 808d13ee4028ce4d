import ZynqmpDma.XZDma.Refinement
import ZynqmpDma.XZDma.StartRuns

namespace ZynqmpDma.XZDma

open Base

def Mode.code : Mode → BitVec 32
  | normalMode => 0
  | wronlyMode => 1
  | rdonlyMode => 2

theorem Mode.code_eq_zero {mode : Mode} (zero : mode.code = 0) : mode = .normalMode := by
  revert zero
  cases mode <;> decide

theorem Mode.code_or {mode mode' : Mode} (both : mode.code ||| mode'.code = mode'.code) :
    mode = .normalMode ∨ mode = mode' := by
  revert both
  cases mode <;> cases mode' <;> decide

def pointTypeField (ctrl0 : BitVec 32) : BitVec 32 :=
  (ctrl0 &&& ctrl0PointTypeMask) >>> ctrl0PointTypeShift

def modeField (ctrl0 : BitVec 32) : BitVec 32 := (ctrl0 &&& ctrl0ModeMask) >>> ctrl0ModeShift

section Fields

theorem pointTypeField_reset : pointTypeField ctrl0ResetValue = 0 := by decide

theorem modeField_reset : modeField ctrl0ResetValue = 0 := by decide

variable (v : BitVec 32)

@[simp] theorem pointTypeField_overFetchBits (configure : DataConfig) :
    pointTypeField (overFetchBits v configure) = pointTypeField v := by
  rw [pointTypeField, overFetchBits_and v configure (by decide) (by decide), pointTypeField]

@[simp] theorem modeField_overFetchBits (configure : DataConfig) :
    modeField (overFetchBits v configure) = modeField v := by
  rw [modeField, overFetchBits_and v configure (by decide) (by decide), modeField]

@[simp] theorem pointTypeField_resumeBits : pointTypeField (resumeBits v) = pointTypeField v := by
  rw [pointTypeField, resumeBits, and_update v (by decide) (by decide), pointTypeField]

@[simp] theorem modeField_resumeBits : modeField (resumeBits v) = modeField v := by
  rw [modeField, resumeBits, and_update v (by decide) (by decide), modeField]

@[simp] theorem pointTypeField_sgModeBits : pointTypeField (sgModeBits v) = 1 := by
  have uncleared : ~~~ctrl0ModeMask &&& ctrl0PointTypeMask = ctrl0PointTypeMask := by decide
  have set : (v ||| ctrl0PointTypeMask) &&& ctrl0PointTypeMask = ctrl0PointTypeMask := by
    have absorbed : ∀ x y : Bool, ((x || y) && y) = y := by decide
    ext i
    rw [BitVec.getElem_and, BitVec.getElem_or]
    exact absorbed _ _
  rw [pointTypeField, sgModeBits, BitVec.and_assoc, uncleared, set]
  decide

@[simp] theorem modeField_sgModeBits : modeField (sgModeBits v) = 0 := by
  have cleared : ~~~ctrl0ModeMask &&& ctrl0ModeMask = 0#32 := by decide
  rw [modeField, sgModeBits, BitVec.and_assoc, cleared, BitVec.and_zero]
  decide

@[simp] theorem pointTypeField_simpleModeBits (mode : Mode) :
    pointTypeField (simpleModeBits (v &&& ~~~ctrl0PointTypeMask) mode) = 0 := by
  have cleared : ~~~ctrl0PointTypeMask &&& ctrl0PointTypeMask = 0#32 := by decide
  cases mode with
  | normalMode =>
    have uncleared : ~~~ctrl0ModeMask &&& ctrl0PointTypeMask = ctrl0PointTypeMask := by decide
    rw [pointTypeField, simpleModeBits, BitVec.and_assoc, uncleared, BitVec.and_assoc, cleared,
      BitVec.and_zero]
    decide
  | wronlyMode =>
    rw [pointTypeField, simpleModeBits, BitVec.and_or_distrib_right, BitVec.and_assoc, cleared,
      BitVec.and_zero]
    decide
  | rdonlyMode =>
    rw [pointTypeField, simpleModeBits, BitVec.and_or_distrib_right, BitVec.and_assoc, cleared,
      BitVec.and_zero]
    decide

/-- The old mode is cleared for the normal mode only. -/
theorem modeField_simpleModeBits (mode : Mode) :
    modeField (simpleModeBits (v &&& ~~~ctrl0PointTypeMask) mode) =
      if mode = .normalMode then 0 else modeField v ||| mode.code := by
  have uncleared : ~~~ctrl0PointTypeMask &&& ctrl0ModeMask = ctrl0ModeMask := by decide
  cases mode with
  | normalMode =>
    have cleared : ~~~ctrl0ModeMask &&& ctrl0ModeMask = 0#32 := by decide
    rw [modeField, simpleModeBits, BitVec.and_assoc, cleared, BitVec.and_zero, if_pos rfl]
    decide
  | wronlyMode =>
    rw [modeField, simpleModeBits, BitVec.and_or_distrib_right, BitVec.and_assoc, uncleared,
      BitVec.ushiftRight_or_distrib]
    rfl
  | rdonlyMode =>
    rw [modeField, simpleModeBits, BitVec.and_or_distrib_right, BitVec.and_assoc, uncleared,
      BitVec.ushiftRight_or_distrib]
    rfl

end Fields

/-- What `XZDma_Start` programs, where it goes on, for a channel that is set to fetch the lists of
    scatter-gather mode, or is not. -/
def startFormat (env : Env) (pointType : BitVec 32) (data : ℕ → Transfer) (num : BitVec 32) :
    Prog ℤ := do
  if pointType = 1 then scatterGather env data num else simpleMode (data 0)
  pure xstSuccess

structure ModeAgrees (s : System) : Prop where
  pointType : pointTypeField (s.reg .ctrl0) = s.dma.isSgDma.setWidth 32
  mode : modeField (s.reg .ctrl0) = s.dma.mode.code
  format : ∀ env data num, num ≠ 0 → ¬ Refused s num →
    start env data num s = startFormat env (pointTypeField (s.reg .ctrl0)) data num s

def Operation.ReadsBack (base : BitVec 64) : Operation → Prop
  | setMode env _ _ | setChDataConfig env _ | resume env | selfTest env =>
    ∀ v, env.readBack (base + Register.offset .ctrl0) v = v
  | _ => True

namespace Channel

structure ModeAgrees (c : Channel) : Prop where
  pointType : pointTypeField c.ctrl0 = c.isSgDma.setWidth 32
  mode : modeField c.ctrl0 = c.mode.code

/-- The operation is no change from one of the one-way modes to the other, and no reset that
    `InstancePtr->IsSgDma` and `InstancePtr->Mode` would have to follow. -/
def KeepsMode (c : Channel) : Operation → Prop
  | .setMode env isSgDma mode =>
    ¬ (Passes env (isSgDma = TRUE ∨ isSgDma = FALSE) ∧ c.cached = .idle ∧ isSgDma ≠ TRUE ∧
      mode ≠ .normalMode ∧ c.mode ≠ .normalMode ∧ c.mode ≠ mode)
  | .reset env => Passes env (c.cached = .idle) → c.isSgDma = FALSE ∧ c.mode = .normalMode
  | _ => True

variable {c : Channel} {op : Operation} {env : Env}

theorem read_eq (reads : ∀ v, env.readBack (c.base + Register.offset .ctrl0) v = v) :
    c.read env = c.ctrl0 := reads c.ctrl0

theorem ModeAgrees.of_same {d : Channel} (agrees : c.ModeAgrees)
    (pointType : pointTypeField d.ctrl0 = pointTypeField c.ctrl0)
    (modes : modeField d.ctrl0 = modeField c.ctrl0) (isSgDma : d.isSgDma = c.isSgDma)
    (mode : d.mode = c.mode) : d.ModeAgrees := by
  refine ⟨?_, ?_⟩
  · rw [pointType, agrees.pointType, isSgDma]
  · rw [modes, agrees.mode, mode]

theorem ModeAgrees.setMode {isSgDma : BitVec 8} {mode : Mode} (agrees : c.ModeAgrees)
    (reads : c.read env = c.ctrl0)
    (kept : isSgDma ≠ TRUE → mode ≠ .normalMode → c.mode ≠ .normalMode → c.mode = mode) :
    (c.setMode env isSgDma mode).ModeAgrees := by
  rw [Channel.setMode, reads]
  by_cases simple : isSgDma ≠ TRUE
  · rw [if_pos simple]
    refine ⟨pointTypeField_simpleModeBits _ mode, ?_⟩
    rw [modeField_simpleModeBits, agrees.mode]
    by_cases normal : mode = .normalMode
    · rw [if_pos normal, normal]
      rfl
    · rw [if_neg normal]
      by_cases before : c.mode = .normalMode
      · rw [before]
        exact BitVec.zero_or
      · rw [kept simple normal before]
        exact BitVec.or_self
  · rw [if_neg simple]
    by_cases normal : mode = .normalMode
    · rw [if_neg (not_not.mpr normal)]
      refine ⟨pointTypeField_sgModeBits _, ?_⟩
      rw [modeField_sgModeBits, normal]
      rfl
    · rw [if_pos normal]
      exact agrees

theorem ModeAgrees.next (agrees : c.ModeAgrees) (reads : op.ReadsBack c.base)
    (keeps : c.KeepsMode op) : (c.next op).ModeAgrees := by
  cases op with
  | setMode env isSgDma mode =>
    rw [Channel.next]
    split
    case isTrue accepted =>
      refine agrees.setMode (read_eq reads) fun simple oneWay other => ?_
      by_contra changed
      exact keeps ⟨accepted.1, accepted.2, simple, oneWay, other, changed⟩
    case isFalse => exact agrees
  | setChDataConfig env configure =>
    rw [Channel.next]
    split
    · refine agrees.of_same ?_ ?_ rfl rfl
      · rw [pointTypeField_overFetchBits, read_eq reads]
      · rw [modeField_overFetchBits, read_eq reads]
    · exact agrees
  | setChDscrConfig configure => exact agrees
  | createBDList env typeOfDscr dscrMemPtr descrPhysMemPtr noOfBytes => exact agrees
  | start env data num => exact agrees
  | enable => exact agrees.of_same rfl rfl rfl rfl
  | resume env =>
    rw [Channel.next]
    split
    · refine agrees.of_same ?_ ?_ rfl rfl
      · rw [Channel.resume, pointTypeField_resumeBits, read_eq reads]
      · rw [Channel.resume, modeField_resumeBits, read_eq reads]
    · exact agrees
  | reset env =>
    rw [Channel.next]
    split
    case isTrue accepted =>
      obtain ⟨simple, normal⟩ := keeps accepted
      refine ⟨?_, ?_⟩
      · rw [simple]
        exact pointTypeField_reset
      · rw [normal]
        exact modeField_reset
    case isFalse => exact agrees
  | channelState env => exact agrees
  | selfTest env =>
    have same : c.read env = c.ctrl0 := read_eq reads
    exact agrees.of_same (congrArg pointTypeField same) (congrArg modeField same) rfl rfl
  | hardware status =>
    rw [Channel.next]
    split
    · exact agrees.of_same rfl rfl rfl rfl
    · exact agrees

theorem ModeAgrees.parts (agrees : c.ModeAgrees) (reads : op.ReadsBack c.base)
    (harm : ¬ c.KeepsMode op) : ¬ (c.next op).ModeAgrees := by
  intro after
  cases op with
  | setMode env isSgDma mode =>
    obtain ⟨passes, idle, simple, oneWay, other, changed⟩ := not_not.mp harm
    have accepted : Passes env (isSgDma = TRUE ∨ isSgDma = FALSE) ∧ c.cached = .idle :=
      ⟨passes, idle⟩
    rw [Channel.next, if_pos accepted, Channel.setMode, if_pos simple, read_eq reads] at after
    have both := after.mode
    rw [modeField_simpleModeBits, if_neg oneWay, agrees.mode] at both
    rcases Mode.code_or both with normal | same
    · exact other normal
    · exact changed same
  | reset env =>
    obtain ⟨accepted, unset⟩ := Classical.not_imp.mp harm
    rw [Channel.next, if_pos accepted] at after
    have simple : (0 : BitVec 32) = c.isSgDma.setWidth 32 :=
      pointTypeField_reset.symm.trans after.pointType
    have normal : (0 : BitVec 32) = c.mode.code := modeField_reset.symm.trans after.mode
    refine unset ⟨?_, Mode.code_eq_zero normal.symm⟩
    rw [FALSE]
    bv_omega
  | setChDataConfig | setChDscrConfig | createBDList | start | enable | resume | channelState
    | selfTest | hardware => exact harm trivial

end Channel

variable {s t : System} {op : Operation} {env : Env}

theorem setMode_accepted (env : Env) (s : System) {isSgDma : BitVec 8} (mode : Mode)
    (accepted : Passes env (isSgDma = TRUE ∨ isSgDma = FALSE) ∧ s.channel.cached = .idle)
    (valid : isSgDma = TRUE → mode = .normalMode) :
    ∃ t, setMode env isSgDma mode s = .ok xstSuccess t := by
  rw [setMode_run env mode s accepted.1 accepted.2]
  by_cases simple : isSgDma ≠ TRUE
  · rw [if_pos simple]
    exact ⟨_, rfl⟩
  · rw [if_neg simple, if_neg (not_not.mpr (valid (not_not.mp simple)))]
    exact ⟨_, rfl⟩

theorem modeAgrees_iff : ModeAgrees s ↔ s.channel.ModeAgrees := by
  constructor
  · intro agrees
    exact ⟨agrees.pointType, agrees.mode⟩
  · intro agrees
    refine ⟨agrees.pointType, agrees.mode, ?_⟩
    intro env data num nonempty admitted
    have field : pointTypeField (s.reg .ctrl0) = s.dma.isSgDma.setWidth 32 := agrees.pointType
    rw [startFormat]
    by_cases sg : s.dma.isSgDma = TRUE
    · have one : pointTypeField (s.reg .ctrl0) = 1 := by
        rw [field, sg]
        decide
      rw [if_pos one]
      exact start_admitted env data (.inl nonempty) sg admitted
    · have zero : pointTypeField (s.reg .ctrl0) ≠ 1 := by
        rw [field]
        intro one
        apply sg
        rw [TRUE]
        bv_omega
      rw [if_neg zero]
      exact start_simple env data (.inl nonempty) sg admitted

theorem setMode_rejected {isSgDma : BitVec 8} {mode : Mode}
    (run : setMode env isSgDma mode s = .ok xstFailure t) : t.channel = s.channel := by
  rw [setMode_channel run, Channel.next]
  split
  case isTrue accepted =>
    have refused : ¬ (isSgDma = TRUE → mode = .normalMode) := by
      intro valid
      obtain ⟨u, done⟩ := setMode_accepted env s mode accepted valid
      rw [run] at done
      cases done
    obtain ⟨sg, other⟩ := Classical.not_imp.mp refused
    rw [Channel.setMode, if_neg (not_not.mpr sg), if_pos other]
  case isFalse => rfl

theorem harmfulMode_returns (harm : ¬ s.channel.KeepsMode op) : ∃ a t, op.step s = .ok a t := by
  cases op with
  | setMode env isSgDma mode =>
    obtain ⟨passes, idle, simple, _⟩ := not_not.mp harm
    obtain ⟨t, run⟩ := setMode_accepted env s.clearLog mode ⟨passes, idle⟩
      fun sg => absurd sg simple
    exact ⟨_, t, run⟩
  | reset env =>
    obtain ⟨accepted, _⟩ := Classical.not_imp.mp harm
    obtain ⟨t, run, _⟩ := reset_run_channel env s.clearLog accepted
    exact ⟨0, t, bind_ok _ run⟩
  | setChDataConfig | setChDscrConfig | createBDList | start | enable | resume | channelState
    | selfTest | hardware => exact absurd trivial harm

theorem initialized_modeAgrees (env : Env) (cfg : Config) {effectiveAddr : BitVec 64} (s : System)
    (mapped : Passes env (effectiveAddr ≠ 0)) :
    (finalState (cfgInitialize env cfg effectiveAddr s)).channel.base = effectiveAddr ∧
      (finalState (cfgInitialize env cfg effectiveAddr s)).channel.ModeAgrees := by
  obtain ⟨t, run, view⟩ := cfgInitialize_channel env cfg s mapped
  rw [run, finalState_ok, view]
  exact ⟨rfl, pointTypeField_reset, modeField_reset⟩

theorem step_modeAgrees {base : BitVec 64} {a : ℤ}
    (agrees : s.channel.base = base ∧ s.channel.ModeAgrees) (reads : op.ReadsBack base)
    (keeps : s.channel.KeepsMode op) (run : op.step s = .ok a t) :
    t.channel.base = base ∧ t.channel.ModeAgrees := by
  obtain ⟨rfl, agrees⟩ := agrees
  rw [step_channel op run]
  exact ⟨s.channel.next_base op, agrees.next reads keeps⟩

theorem step_mode_parts {base : BitVec 64}
    (agrees : s.channel.base = base ∧ s.channel.ModeAgrees) (reads : op.ReadsBack base)
    (harm : ¬ s.channel.KeepsMode op) : ∃ a t, op.step s = .ok a t ∧ ¬ ModeAgrees t := by
  obtain ⟨rfl, agrees⟩ := agrees
  obtain ⟨a, t, run⟩ := harmfulMode_returns harm
  refine ⟨a, t, run, ?_⟩
  rw [modeAgrees_iff, step_channel op run]
  exact agrees.parts reads harm

/-- The mode field holds both of the modes, whichever of them came first. -/
theorem oneWayChange_parts (env : Env) (mode mode' : Mode) (idle : s.channel.cached = .idle)
    (reads : ∀ v, env.readBack (s.channel.base + Register.offset .ctrl0) v = v)
    (oneWay : mode ≠ .normalMode) (oneWay' : mode' ≠ .normalMode) (change : mode ≠ mode') :
    ∃ t, Reaches Operation.step s [.setMode env FALSE mode, .setMode env FALSE mode'] t ∧
      ¬ ModeAgrees t := by
  have simple : FALSE ≠ TRUE := by decide
  have accepted : Passes env (FALSE = TRUE ∨ FALSE = FALSE) ∧ s.channel.cached = .idle :=
    ⟨.inl (.inr rfl), idle⟩
  obtain ⟨u, run⟩ := setMode_accepted env s.clearLog mode accepted
    fun sg => absurd sg simple
  have first : (Operation.setMode env FALSE mode).step s = .ok xstSuccess u := run
  have view : u.channel = s.channel.setMode env FALSE mode := by
    rw [step_channel _ first, Channel.next, if_pos accepted]
  have set : u.channel.mode = mode := by
    rw [view, Channel.setMode, if_pos simple]
  by_cases agrees : ModeAgrees u
  · have next : (Operation.setMode env FALSE mode').ReadsBack s.channel.base := reads
    have base : u.channel.base = s.channel.base := by rw [view, Channel.setMode_base]
    have harm : ¬ u.channel.KeepsMode (.setMode env FALSE mode') := by
      refine not_not.mpr ⟨accepted.1, ?_, simple, oneWay', ?_, ?_⟩
      · rw [view, Channel.setMode_cached, idle]
      · rw [set]
        exact oneWay
      · rw [set]
        exact change
    obtain ⟨a, t, second, parted⟩ := step_mode_parts ⟨base, modeAgrees_iff.mp agrees⟩ next harm
    exact ⟨t, .later first (.later second (.start t [])), parted⟩
  · exact ⟨u, .later first (.start u _), agrees⟩

def RejectionKept (visit : Visit Stuck System ℤ Operation) : Prop :=
  ∀ env isSgDma mode t, visit.call = .setMode env isSgDma mode →
    visit.outcome = .ok xstFailure t → t.channel = visit.before.channel

theorem rejectionKept {operations : List Operation} {visit : Visit Stuck System ℤ Operation}
    (member : visit ∈ visits Operation.step s operations) : RejectionKept visit := by
  intro env isSgDma mode t call outcome
  rw [visits_outcome member, call] at outcome
  have run : setMode env isSgDma mode visit.before.clearLog = .ok xstFailure t := outcome
  rw [setMode_rejected run, System.clearLog_channel]

/-- The two ideas of the mode part where one of the one-way modes follows the other, and where a
    channel in another than the mode of reset is reset. -/
theorem run_modeAgrees_iff (env : Env) (cfg : Config) (effectiveAddr : BitVec 64) (s : System)
    (operations : List Operation) (mapped : Passes env (effectiveAddr ≠ 0))
    (reads : ∀ op ∈ operations, op.ReadsBack effectiveAddr) :
    ((∀ t, Reaches Operation.step (finalState (cfgInitialize env cfg effectiveAddr s))
        operations t → ModeAgrees t) ∧
      ∀ visit ∈ visits Operation.step (finalState (cfgInitialize env cfg effectiveAddr s))
        operations, RejectionKept visit) ↔
      ∀ visit ∈ visits Operation.step (finalState (cfgInitialize env cfg effectiveAddr s))
        operations, visit.before.channel.KeepsMode visit.call := by
  have holds := reaches_holds_iff (fun _ agrees => modeAgrees_iff.mpr agrees.2)
    (fun _ _ _ _ => step_modeAgrees) (fun _ _ => step_mode_parts)
    (initialized_modeAgrees env cfg s mapped) operations reads
  rw [holds]
  exact and_iff_left fun visit member => rejectionKept member

theorem run_modeAgrees_iff_sg :
    ((∀ t, Reaches Operation.step
        (finalState (cfgInitialize (.ideal .waiting) ⟨0, 0, 0, 0⟩ 0xFFA80000 .blank))
        [.setMode (.ideal .waiting) TRUE .normalMode, .selfTest (.ideal .waiting)] t →
        ModeAgrees t) ∧
      ∀ visit ∈ visits Operation.step
        (finalState (cfgInitialize (.ideal .waiting) ⟨0, 0, 0, 0⟩ 0xFFA80000 .blank))
        [.setMode (.ideal .waiting) TRUE .normalMode, .selfTest (.ideal .waiting)],
        RejectionKept visit) ↔
      ∀ visit ∈ visits Operation.step
        (finalState (cfgInitialize (.ideal .waiting) ⟨0, 0, 0, 0⟩ 0xFFA80000 .blank))
        [.setMode (.ideal .waiting) TRUE .normalMode, .selfTest (.ideal .waiting)],
        visit.before.channel.KeepsMode visit.call :=
  run_modeAgrees_iff (.ideal .waiting) ⟨0, 0, 0, 0⟩ 0xFFA80000 .blank _ (.inl (by decide))
    (List.forall_mem_cons.mpr ⟨fun _ => rfl, List.forall_mem_singleton.mpr fun _ => rfl⟩)

/-- Write-only mode, then read-only mode. -/
theorem run_mixes_modes :
    ¬ ((∀ t, Reaches Operation.step
          (finalState (cfgInitialize (.ideal .waiting) ⟨0, 0, 0, 0⟩ 0xFFA80000 .blank))
          [.setMode (.ideal .waiting) FALSE .wronlyMode,
            .setMode (.ideal .waiting) FALSE .rdonlyMode] t → ModeAgrees t) ∧
        ∀ visit ∈ visits Operation.step
          (finalState (cfgInitialize (.ideal .waiting) ⟨0, 0, 0, 0⟩ 0xFFA80000 .blank))
          [.setMode (.ideal .waiting) FALSE .wronlyMode,
            .setMode (.ideal .waiting) FALSE .rdonlyMode], RejectionKept visit) := by
  rintro ⟨agree, _⟩
  obtain ⟨s, run, view⟩ := cfgInitialize_channel (.ideal .waiting) ⟨0, 0, 0, 0⟩ .blank
    (.inl (show (0xFFA80000 : BitVec 64) ≠ 0 by decide))
  rw [run, finalState_ok] at agree
  have idle : s.channel.cached = .idle := by rw [view]
  obtain ⟨t, reached, parted⟩ := oneWayChange_parts (.ideal .waiting) .wronlyMode .rdonlyMode
    idle (fun _ => rfl) (by decide) (by decide) (by decide)
  exact parted (agree t reached)

end ZynqmpDma.XZDma
