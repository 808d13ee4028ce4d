import ZynqmpDma.Base.Sessions
import ZynqmpDma.Driver.Program

namespace ZynqmpDma

open Base XZDma

/-- What a driver and its channel are for: a memory, the moves that were configured, and those
    of them that were started and are still to be made. -/
structure Job where
  mem : BusMemory
  configured : Option (List (Move 49))
  queue : List (Move 49)

namespace DmaDriverImpl

variable (d : DmaDriverImpl)

def answer (job : Job) : Happening → ℤ × Job
  | .configureDMA env requests =>
    if requests.length > 32 then (-10, job)
    else if env.ClockActivates then
      (0, { job with configured := some (requests.map TransferRequest.move) })
    else (-1, job)
  | .startDMA => (0, { job with queue := job.configured.getD [] })
  | .checkDMAStatus _ => (if job.queue = [] then 0 else 2, job)
  | .store k value =>
    (0, { job with mem := Function.update job.mem (d.dataAlias.far + BitVec.ofNat 49 k) value })
  | .load k => ((job.mem (d.dataAlias.far + BitVec.ofNat 49 k)).toNat, job)
  | .work =>
    match job.queue with
    | [] => (0, job)
    | v :: queue => (0, { job with mem := v.apply job.mem, queue })

/-- The user configures and starts transfers, and writes to the data buffer, only while none is
    under way, and starts and checks them only once they are configured. A `configureDMA` that
    gets past the clock completes, with requests that leave the cfg buffer alone. -/
def Allows (job : Job) : Happening → Prop
  | .configureDMA env requests => (Call.configureDMA env requests).Initializes →
    job.queue = [] ∧ d.Completes env requests ∧ ∀ request ∈ requests, d.Avoids request.move
  | .startDMA => job.queue = [] ∧ job.configured ≠ none
  | .checkDMAStatus env => job.configured ≠ none ∧
    ∀ value, env.readBack (d.zdmaConfig.baseAddress + Register.offset .sts) value = value
  | .store k _ => job.queue = [] ∧ k < d.dataAlias.length
  | .load k => k < d.dataAlias.length
  | .work => True

structure Working (m : Mover BusKey (LiDscr × LiDscr) BusMemory) (queue : List (Move 49)) :
    Prop where
  follows : queue ≠ [] → ∃ began rest, m.Follows linearFormat.busFetch linearFormat.command
      linearFormat.nextPair linearFormat.carryOut began rest ∧
    (rest.map fun entry => linearFormat.move entry.2) = queue ∧
    ∀ entry ∈ rest, linearFormat.command entry.2 ≠ .pause
  goes : ∀ key, m.engine.phase ≠ .paused key
  stops : queue = [] → m.engine.phase = .stopped
  avoids : ∀ v ∈ queue, d.Avoids v

/-- The platform is at the job: it holds its memory, but for the cfg buffer, and its program, and
    its channel has its transfers to make. -/
structure Represents (p : Platform) (job : Job) : Prop where
  coherent : d.Coherent p
  mem : Set.EqOn p.mover.mem job.mem d.cfgFarᶜ
  status : p.system.machine.channelReg d.zdmaConfig.baseAddress .sts =
    phaseStatus p.mover.engine.phase
  program : ∀ moves, job.configured = some moves → d.HoldsProgram p.system moves
  working : d.Working p.mover job.queue

variable {d}

section Working

variable {m : Mover BusKey (LiDscr × LiDscr) BusMemory} {queue : List (Move 49)}

theorem Working.running {v : Move 49} (working : d.Working m (v :: queue)) :
    ∃ key, m.engine.phase = .running key := by
  obtain ⟨began, rest, follows, moves, _⟩ := working.follows (List.cons_ne_nil v queue)
  cases phase : m.engine.phase with
  | running key => exact ⟨key, rfl⟩
  | paused key => exact absurd phase (working.goes key)
  | stopped =>
    have ahead := follows.ahead
    rw [phase] at ahead
    rw [ahead.nil_of_stopped] at moves
    cases moves
  | faulted =>
    have ahead := follows.ahead
    rw [phase] at ahead
    cases ahead

theorem Working.status (working : d.Working m queue) :
    phaseStatus m.engine.phase = if queue = [] then stsDoneMask else stsBusyMask := by
  cases queue with
  | nil =>
    rw [working.stops rfl]
    rfl
  | cons v queue =>
    obtain ⟨key, phase⟩ := working.running
    rw [phase, if_neg (List.cons_ne_nil v queue)]
    rfl

theorem Working.advance {v : Move 49} (working : d.Working m (v :: queue)) :
    (m.step linearFormat.busFetch linearFormat.command linearFormat.nextPair
        linearFormat.carryOut .fetch).mem = v.apply m.mem ∧
      d.Working (m.step linearFormat.busFetch linearFormat.command linearFormat.nextPair
        linearFormat.carryOut .fetch) queue := by
  obtain ⟨key, phase⟩ := working.running
  obtain ⟨began, rest, follows, moves, going⟩ := working.follows (List.cons_ne_nil v queue)
  obtain ⟨record, rest', rfl, _, after, mem, follows'⟩ := follows.advance phase
  obtain ⟨first, later⟩ := List.cons.inj moves
  have here := going (key, record) List.mem_cons_self
  refine ⟨?_, fun _ => ⟨began, rest', follows', later, ?_⟩, ?_, ?_, ?_⟩
  · rw [mem, ← first]
    rfl
  · exact fun entry member => going entry (List.mem_cons_of_mem _ member)
  · intro key'
    rw [after]
    cases told : linearFormat.command record with
    | next => simp only [Engine.phaseAfter, told, ne_eq, reduceCtorEq, not_false_eq_true]
    | pause => exact absurd told here
    | stop => simp only [Engine.phaseAfter, told, ne_eq, reduceCtorEq, not_false_eq_true]
  · rintro rfl
    have ahead := follows'.ahead
    rw [List.map_eq_nil_iff.mp later] at ahead
    exact ahead.stopped_of_nil
  · exact fun v' member => working.avoids v' (List.mem_cons_of_mem _ member)

theorem HoldsProgram.working {s : System} {moves : List (Move 49)} (mapped : d.Mapped)
    (holds : d.HoldsProgram s moves) {bus : BusMemory}
    (agrees : d.cfgAlias.Agrees s.machine.mem bus) :
    d.Working (.start s.listStart bus) moves := by
  have positive : moves ≠ [] := by
    obtain ⟨data, n, positive, _, rfl, _⟩ := holds.list
    apply List.ne_nil_of_length_pos
    rwa [moveList_length]
  obtain ⟨fuel, visited, walk, listed, going, inside⟩ := holds.walk mapped
  have shows : BusBuffer.Shows ⟨d.cfgAddr, d.cfgBuf.physAddr.setWidth 64, (4096 : BitVec 32).toNat⟩
      s.machine.mem bus := agrees
  have onBus := System.listWalk_bus shows walk
  refine ⟨fun _ => ⟨bus, visited, ⟨rfl, .running onBus, fun _ _ => rfl, ?_⟩, listed, going⟩, ?_,
    fun none => absurd none positive, holds.avoids⟩
  · apply List.pairwise_of_forall_mem_list
    intro entry member entry' member'
    apply Format.keeps_of_disjoint (by decide)
    have move : linearFormat.move entry.2 ∈ moves := by
      rw [← listed]
      exact List.mem_map_of_mem member
    exact (holds.avoids _ move).2.mono_right (inside entry' member')
  · intro key wrong
    cases wrong

end Working

end DmaDriverImpl

end ZynqmpDma
