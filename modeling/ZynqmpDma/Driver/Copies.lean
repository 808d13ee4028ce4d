import Mathlib.Algebra.Order.BigOperators.Group.List
import ZynqmpDma.Driver.Session

namespace ZynqmpDma

open Base XZDma

def Happening.isWork : Happening → Bool
  | .work => true
  | _ => false

def workCount (happenings : List Happening) : ℕ := happenings.countP Happening.isWork

namespace DmaDriverImpl

variable (d : DmaDriverImpl)

/-- What happens while the user only waits: it looks at the status and at the buffer, and the
    channel works on. -/
def Waits : Happening → Prop
  | .checkDMAStatus env =>
    ∀ value, env.readBack (d.zdmaConfig.baseAddress + Register.offset .sts) value = value
  | .load k => k < d.dataAlias.length
  | .work => True
  | _ => False

variable {d} {job : Job}

section Waiting

variable {happening : Happening} {waiting : List Happening}

theorem Waits.allows (waits : d.Waits happening) (configured : job.configured ≠ none) :
    d.Allows job happening := by
  cases happening with
  | configureDMA => cases waits
  | startDMA => cases waits
  | checkDMAStatus env => exact ⟨configured, waits⟩
  | store => cases waits
  | load k => exact waits
  | work => trivial

variable (job) in
theorem Waits.answer (waits : d.Waits happening) :
    (d.answer job happening).2 =
      ⟨moveAll (job.queue.take (workCount [happening])) job.mem, job.configured,
        job.queue.drop (workCount [happening])⟩ := by
  cases happening with
  | configureDMA => cases waits
  | startDMA => cases waits
  | checkDMAStatus env => rfl
  | store => cases waits
  | load k => rfl
  | work =>
    rcases job with ⟨mem, configured, queue⟩
    cases queue <;> rfl

theorem workCount_cons (happening : Happening) (waiting : List Happening) :
    workCount (happening :: waiting) = workCount [happening] + workCount waiting := by
  show ([happening] ++ waiting).countP _ = _
  exact List.countP_append

variable (job) in
/-- While the user waits, the transfers are made in their order, and nothing else is. -/
theorem answers_waits (waits : ∀ happening ∈ waiting, d.Waits happening) :
    (answers d.answer job waiting).2 =
      ⟨moveAll (job.queue.take (workCount waiting)) job.mem, job.configured,
        job.queue.drop (workCount waiting)⟩ := by
  induction waiting generalizing job with
  | nil => rfl
  | cons happening waiting ih =>
    have first := (waits happening List.mem_cons_self).answer job
    have rest := ih (d.answer job happening).2 fun later member =>
      waits later (List.mem_cons_of_mem happening member)
    have count := workCount_cons happening waiting
    rw [answers_cons_snd, rest, first, count, List.take_add, moveAll_append, List.drop_drop]

theorem legal_waits (waits : ∀ happening ∈ waiting, d.Waits happening)
    (configured : job.configured ≠ none) : Legal d.Allows d.answer job waiting := by
  induction waiting generalizing job with
  | nil => trivial
  | cons happening waiting ih =>
    have here := waits happening List.mem_cons_self
    refine ⟨here.allows configured, ih ?_ ?_⟩
    · exact fun later member => waits later (List.mem_cons_of_mem happening member)
    · rw [here.answer]
      exact configured

variable (job) in
/-- The status is busy as long as there are transfers to be made. -/
theorem answers_status {env : Env} {i : ℕ} (waits : ∀ happening ∈ waiting, d.Waits happening)
    (check : waiting[i]? = some (.checkDMAStatus env)) :
    (answers d.answer job waiting).1[i]? =
      some (if job.queue.length ≤ workCount (waiting.take i) then 0 else 2) := by
  induction waiting generalizing job i with
  | nil => cases check
  | cons happening waiting ih =>
    cases i with
    | zero =>
      cases Option.some.inj check
      have none : job.queue = [] ↔ job.queue.length ≤ 0 := by
        rw [Nat.le_zero, List.length_eq_zero_iff]
      simp only [answers, answer, none]
      rfl
    | succ i =>
      have first := (waits happening List.mem_cons_self).answer job
      have rest := ih (d.answer job happening).2
        (fun later member => waits later (List.mem_cons_of_mem happening member)) check
      have count : (job.queue.drop (workCount [happening])).length ≤ workCount (waiting.take i) ↔
          job.queue.length ≤ workCount ((happening :: waiting).take (i + 1)) := by
        rw [List.take_succ_cons, workCount_cons happening (waiting.take i), List.length_drop]
        omega
      rw [answers_cons_fst, List.getElem?_cons_succ, rest, first]
      simp only [count]

end Waiting

section Copies

variable {p : Platform} {env : Env} {requests : List TransferRequest} {waiting : List Happening}

/-- The transfers of a session are made one after the other while the user waits, as far as the
    channel has come, and the status is idle from the moment on that all are made. -/
theorem session_copies (buffers : d.Buffers) (fresh : d.Fresh p)
    (completes : d.Completes env requests)
    (avoids : ∀ request ∈ requests, d.Avoids request.move)
    (waits : ∀ happening ∈ waiting, d.Waits happening) :
    ∃ statuses p', serve d.happen (.configureDMA env requests :: .startDMA :: waiting) p =
        .ok (0 :: 0 :: statuses) p' ∧
      d.Coherent p' ∧
      Set.EqOn p'.mover.mem
        (moveAll ((requests.map TransferRequest.move).take (workCount waiting)) p.mover.mem)
        d.cfgFarᶜ ∧
      ∀ i env', waiting[i]? = some (.checkDMAStatus env') →
        statuses[i]? = some (if requests.length ≤ workCount (waiting.take i) then 0 else 2) := by
  let moves := requests.map TransferRequest.move
  let started : Job := ⟨p.mover.mem, some moves, moves⟩
  have configures : d.answer ⟨p.mover.mem, none, []⟩ (.configureDMA env requests) =
      (0, ⟨p.mover.mem, some moves, []⟩) := by
    rw [answer, if_neg (not_lt.mpr completes.1), if_pos completes.2.1]
  have starts : d.answer ⟨p.mover.mem, some moves, []⟩ .startDMA = (0, started) := rfl
  have legal : Legal d.Allows d.answer ⟨p.mover.mem, none, []⟩
      (.configureDMA env requests :: .startDMA :: waiting) := by
    refine ⟨fun _ => ⟨rfl, completes, avoids⟩, ?_, ?_⟩
    · rw [configures]
      exact ⟨rfl, Option.some_ne_none moves⟩
    · rw [configures, starts]
      exact legal_waits waits (Option.some_ne_none moves)
  obtain ⟨p', run, represents⟩ :=
    serve_refines (represents_happen buffers) fresh.represents legal
  rw [answers_cons_fst, answers_cons_fst, configures, starts] at run
  refine ⟨_, p', run, represents.coherent, ?_, ?_⟩
  · have mem := represents.mem
    rw [answers_cons_snd, answers_cons_snd, configures, starts, answers_waits started waits] at mem
    exact mem
  · intro i env' check
    rw [answers_status started waits check, List.length_map]

def samplePieces : List TransferRequest :=
  [⟨0x70000000, 0x70080000, 64⟩, ⟨0x70000040, 0x70080040, 64⟩]

theorem samplePieces_completes : sample.Completes (.ideal .waiting) samplePieces :=
  sample_completes samplePieces (by decide) (by decide) (by decide)

theorem samplePieces_avoids : ∀ request ∈ samplePieces, sample.Avoids request.move := by
  intro request listed
  simp only [samplePieces, List.mem_cons, List.not_mem_nil, or_false] at listed
  rcases listed with rfl | rfl
  all_goals constructor <;> exact block_disjoint (by decide) (by decide) (by decide)

/-- The channel has come past the first of two pieces. -/
theorem session_copies_sample :
    let waiting : List Happening := [.work, .checkDMAStatus (.ideal .waiting)]
    ∃ statuses p', serve sample.happen
        (.configureDMA (.ideal .waiting) samplePieces :: .startDMA :: waiting) samplePlatform =
          .ok (0 :: 0 :: statuses) p' ∧
      sample.Coherent p' ∧
      Set.EqOn p'.mover.mem
        (moveAll ((samplePieces.map TransferRequest.move).take (workCount waiting))
          samplePlatform.mover.mem) sample.cfgFarᶜ ∧
      ∀ i env', waiting[i]? = some (.checkDMAStatus env') →
        statuses[i]? =
          some (if samplePieces.length ≤ workCount (waiting.take i) then 0 else 2) := by
  intro waiting
  apply session_copies sample_buffers samplePlatform_fresh samplePieces_completes
    samplePieces_avoids
  intro happening listed
  simp only [waiting, List.mem_cons, List.not_mem_nil, or_false] at listed
  rcases listed with rfl | rfl
  · trivial
  · exact fun _ => rfl

def freshPlatform (d : DmaDriverImpl) (mem : BusMemory) : Platform :=
  d.report (d.absorb ⟨.blank, ⟨⟨.stopped, []⟩, mem⟩⟩)

theorem freshPlatform_fresh (buffers : d.Buffers) (mem : BusMemory) :
    d.Fresh (d.freshPlatform mem) where
  coherent :=
    let coherent := absorb_coherent buffers ⟨.blank, ⟨⟨.stopped, []⟩, mem⟩⟩
    ⟨coherent.cfg, coherent.data⟩
  phase := rfl
  status := by
    rw [freshPlatform, report, System.report_channelReg, if_pos rfl]
    rfl

/-- Requests that are independent of each other can be listed in any order. -/
theorem session_order {requests' : List TransferRequest} (buffers : d.Buffers) (fresh : d.Fresh p)
    (completes : d.Completes env requests) (avoids : ∀ request ∈ requests, d.Avoids request.move)
    (waits : ∀ happening ∈ waiting, d.Waits happening)
    (enough : requests.length ≤ workCount waiting) (perm : requests.Perm requests')
    (apart : (requests.map TransferRequest.move).Pairwise Move.Independent) :
    ∃ statuses statuses' p' q',
      serve d.happen (.configureDMA env requests :: .startDMA :: waiting) p = .ok statuses p' ∧
      serve d.happen (.configureDMA env requests' :: .startDMA :: waiting) p = .ok statuses' q' ∧
      Set.EqOn p'.mover.mem q'.mover.mem d.cfgFarᶜ := by
  have all {moves : List (Move 49)} (few : moves.length = requests.length) :
      moves.take (workCount waiting) = moves :=
    List.take_of_length_le (few.trans_le enough)
  have completes' : d.Completes env requests' := by
    rcases completes with ⟨fits, clock, works, keeps, nonempty, passes⟩
    refine ⟨perm.length_eq ▸ fits, clock, works, keeps, ?_, ?_⟩
    · rintro rfl
      exact nonempty perm.eq_nil
    · exact fun request member => passes request (perm.mem_iff.mpr member)
  have avoids' : ∀ request ∈ requests', d.Avoids request.move :=
    fun request member => avoids request (perm.mem_iff.mpr member)
  obtain ⟨_, p', run, _, mem, _⟩ := session_copies buffers fresh completes avoids waits
  obtain ⟨_, q', run', _, mem', _⟩ := session_copies buffers fresh completes' avoids' waits
  rw [all (List.length_map _)] at mem
  rw [all ((List.length_map _).trans perm.length_eq.symm)] at mem'
  refine ⟨_, _, p', q', run, run', mem.trans ?_⟩
  rw [moveAll_perm (perm.map TransferRequest.move) apart]
  exact mem'.symm

theorem session_order_sample :
    ∃ statuses statuses' p' q',
      serve sample.happen
          [.configureDMA (.ideal .waiting) samplePieces, .startDMA, .work, .work] samplePlatform =
        .ok statuses p' ∧
      serve sample.happen
          [.configureDMA (.ideal .waiting) samplePieces.reverse, .startDMA, .work, .work]
          samplePlatform = .ok statuses' q' ∧
      Set.EqOn p'.mover.mem q'.mover.mem sample.cfgFarᶜ := by
  apply session_order sample_buffers samplePlatform_fresh samplePieces_completes
    samplePieces_avoids ?_ (by decide) samplePieces.reverse_perm.symm
  · apply List.pairwise_pair.mpr
    constructor <;> exact block_disjoint (by decide) (by decide) (by decide)
  · intro happening listed
    simp only [List.mem_cons, List.not_mem_nil, or_false, or_self] at listed
    rw [listed]
    trivial

end Copies

end DmaDriverImpl

end ZynqmpDma
