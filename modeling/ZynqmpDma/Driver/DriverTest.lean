import ZynqmpDma.Driver.Copies

namespace ZynqmpDma

open Base XZDma

/-- How one of the two parts of the test ends: it still polls, it returns because the
    configuration failed, or it has checked the buffer and knows the first wrong entry, if any.
    A failed transfer is only printed. -/
inductive TestOutcome
  | polling
  | configurationFailed
  | checked (transferFailed : Bool) (error : Option ℕ)
deriving DecidableEq, Repr

namespace DmaDriverImpl

variable (d : DmaDriverImpl)

def halfSize : BitVec 32 := d.getBufferSize / 2

def writePattern (modulus start : ℕ) : PlatformProg (List ℤ) :=
  serve d.happen ((List.range d.halfSize.toNat).map fun i =>
    .store (i + start) (BitVec.ofNat 8 (i % modulus)))

/-- `while(driver->checkDMAStatus() == XZDMA_BUSY) {}`: before each look at the status, the
    channel makes as many transfers as the schedule says. -/
def pollBusy (env : Env) : List ℕ → PlatformProg (Option ℤ)
  | [] => pure none
  | n :: schedule => do
    let _ ← serve d.happen (List.replicate n .work)
    let status ← d.happen (.checkDMAStatus env)
    if status = 2 then pollBusy env schedule else pure (some status)

def checkPattern (modulus : ℕ) : List ℕ → PlatformProg (Option ℕ)
  | [] => pure none
  | i :: rest => do
    let value ← d.happen (.load (i + d.halfSize.toNat))
    if value ≠ (i % modulus : ℕ) then pure (some i) else checkPattern modulus rest

def testRequests (env : Env) (modulus : ℕ) (requests : List TransferRequest) (schedule : List ℕ) :
    PlatformProg TestOutcome := do
  let _ ← d.writePattern modulus 0
  let _ ← d.writePattern modulus d.halfSize.toNat
  let configured ← d.happen (.configureDMA env requests)
  if configured ≠ 0 then pure .configurationFailed
  else do
    let _ ← d.happen .startDMA
    match ← d.pollBusy env schedule with
    | none => pure .polling
    | some _ => do
      let status ← d.happen (.checkDMAStatus env)
      let error ← d.checkPattern modulus (List.range d.halfSize.toNat)
      pure (.checked (decide (status ≠ 0)) error)

def listRequest (i : ℕ) : TransferRequest where
  srcAddr := d.getBufferPhysAddr + BitVec.ofNat 32 i * (d.halfSize / 32)
  destAddr := d.getBufferPhysAddr + d.halfSize + BitVec.ofNat 32 i * (d.halfSize / 32)
  transferLength := d.halfSize / 32

def place (k : ℕ) : BitVec 49 := d.dataAlias.far + BitVec.ofNat 49 k

def ShowsPattern (modulus : ℕ) (mem : BusMemory) : Prop :=
  ∀ i < d.halfSize.toNat, mem (d.place i) = BitVec.ofNat 8 (i % modulus) ∧
    mem (d.place (i + d.halfSize.toNat)) = BitVec.ofNat 8 (i % modulus)

def CopiesHalf (v : Move 49) : Prop :=
  ∃ a n, v = ⟨d.place a, d.place (a + d.halfSize.toNat), n⟩ ∧ a + n ≤ d.halfSize.toNat

variable {d} {p : Platform} {job : Job} {env : Env}

theorem halfSize_twice : 2 * d.halfSize.toNat ≤ d.dataAlias.length := by
  have half : d.halfSize.toNat = d.getBufferSize.toNat / 2 := rfl
  show 2 * d.halfSize.toNat ≤ d.getBufferSize.toNat
  omega

theorem place_inj {j k : ℕ} (hj : j < d.dataAlias.length) (hk : k < d.dataAlias.length) :
    d.place j = d.place k ↔ j = k := by
  have room := d.dataAlias_room
  exact Alias.offset_inj _ (by omega) (by omega)

section Pattern

variable {modulus : ℕ} {mem : BusMemory}

/-- A request of the test copies what is there already. -/
theorem ShowsPattern.apply {v : Move 49} (shows : d.ShowsPattern modulus mem)
    (copies : d.CopiesHalf v) : d.ShowsPattern modulus (v.apply mem) := by
  have room := d.dataAlias_room
  have twice := d.halfSize_twice
  obtain ⟨a, n, rfl, inside⟩ := copies
  let v : Move 49 := ⟨d.place a, d.place (a + d.halfSize.toNat), n⟩
  have space : a + d.halfSize.toNat + n ≤ 2 ^ 49 := by omega
  have hit {k : ℕ} (bound : k < 2 ^ 49) : d.place k ∈ v.target ↔
      a + d.halfSize.toNat ≤ k ∧ k < a + d.halfSize.toNat + n :=
    mem_block_offset d.dataAlias.far space bound
  intro i bound
  constructor
  · have missed : d.place i ∉ v.target := by
      rw [hit (by omega)]
      omega
    exact (Move.apply_of_not_mem missed).trans (shows i bound).1
  · by_cases there : d.place (i + d.halfSize.toNat) ∈ v.target
    · have source : v.src + (d.place (i + d.halfSize.toNat) - v.dst) = d.place i := by
        simp only [v, place, BitVec.ofNat_add]
        ring
      rw [Move.apply_of_mem there, source]
      exact (shows i bound).1
    · exact (Move.apply_of_not_mem there).trans (shows i bound).2

theorem ShowsPattern.moveAll {moves : List (Move 49)} (shows : d.ShowsPattern modulus mem)
    (copies : ∀ v ∈ moves, d.CopiesHalf v) : d.ShowsPattern modulus (moveAll moves mem) := by
  induction moves generalizing mem with
  | nil => exact shows
  | cons v moves ih =>
    have first := shows.apply (copies v List.mem_cons_self)
    exact ih first fun v' member => copies v' (List.mem_cons_of_mem v member)

end Pattern

section Steps

variable {modulus : ℕ}

theorem stores_spec (buffers : d.Buffers) (value : ℕ → BitVec 8) (start n : ℕ)
    (inside : n + start ≤ d.dataAlias.length) (represents : d.Represents p job)
    (idle : job.queue = []) :
    ∃ statuses p' mem',
      serve d.happen ((List.range n).map fun i => .store (i + start) (value i)) p =
        .ok statuses p' ∧
      d.Represents p' { job with mem := mem' } ∧
      (∀ i < n, mem' (d.place (i + start)) = value i) ∧
      ∀ k < d.dataAlias.length, k < start ∨ n + start ≤ k →
        mem' (d.place k) = job.mem (d.place k) := by
  induction n with
  | zero => exact ⟨[], p, job.mem, rfl, represents, by simp, fun _ _ _ => rfl⟩
  | succ n ih =>
    obtain ⟨statuses, p', mem', run, represents', stored, kept⟩ := ih (by omega)
    have allowed : d.Allows { job with mem := mem' } (.store (n + start) (value n)) :=
      ⟨idle, by omega⟩
    obtain ⟨p'', last, represents''⟩ := represents'.store buffers allowed
    have single : serve d.happen [.store (n + start) (value n)] p' = .ok [0] p'' := by
      rw [serve, bind_ok _ last]
      rfl
    refine ⟨statuses ++ [0], p'', Function.update mem' (d.place (n + start)) (value n), ?_,
      represents'', ?_, ?_⟩
    · rw [List.range_succ, List.map_append]
      exact serve_append run single
    · intro i bound
      by_cases same : i = n
      · rw [same, Function.update_self]
      · rw [Function.update_of_ne]
        · exact stored i (by omega)
        · rw [ne_eq, place_inj (by omega) (by omega)]
          omega
    · intro k bound outside
      rw [Function.update_of_ne]
      · exact kept k bound (by omega)
      · rw [ne_eq, place_inj bound (by omega)]
        omega

variable (modulus) in
/-- The two loops that fill the buffer leave the pattern in both halves. -/
theorem writePattern_shows (buffers : d.Buffers) (represents : d.Represents p job)
    (idle : job.queue = []) :
    ∃ first p' last p'' mem', d.writePattern modulus 0 p = .ok first p' ∧
      d.writePattern modulus d.halfSize.toNat p' = .ok last p'' ∧
      d.Represents p'' { job with mem := mem' } ∧ d.ShowsPattern modulus mem' := by
  have twice := d.halfSize_twice
  obtain ⟨first, p', mem, run, represents', stored, _⟩ := stores_spec buffers
    (fun i => BitVec.ofNat 8 (i % modulus)) 0 d.halfSize.toNat (by omega) represents idle
  obtain ⟨last, p'', mem', run', represents'', stored', kept⟩ := stores_spec buffers
    (fun i => BitVec.ofNat 8 (i % modulus)) d.halfSize.toNat d.halfSize.toNat (by omega)
    represents' idle
  refine ⟨first, p', last, p'', mem', run, run', represents'', ?_⟩
  intro i bound
  constructor
  · rw [kept i (by omega) (.inl bound)]
    exact stored i bound
  · exact stored' i bound

/-- The status is busy until the channel has come to the end of its list. -/
theorem pollBusy_spec (buffers : d.Buffers)
    (faithful : ∀ v, env.readBack (d.zdmaConfig.baseAddress + Register.offset .sts) v = v)
    (schedule : List ℕ) (represents : d.Represents p job) (configured : job.configured ≠ none)
    (going : job.queue ≠ []) :
    ∃ p' k, d.pollBusy env schedule p =
        .ok (if job.queue.length ≤ schedule.sum then some 0 else none) p' ∧
      d.Represents p' ⟨moveAll (job.queue.take k) job.mem, job.configured, job.queue.drop k⟩ ∧
      (job.queue.length ≤ schedule.sum → job.queue.length ≤ k) := by
  induction schedule generalizing p job with
  | nil =>
    have some : ¬ job.queue.length ≤ 0 := by
      rwa [Nat.le_zero, List.length_eq_zero_iff]
    refine ⟨p, 0, ?_, represents, id⟩
    rw [List.sum_nil, if_neg some]
    rfl
  | cons n schedule ih =>
    have works : ∀ happening ∈ List.replicate n .work, d.Waits happening := by
      intro happening member
      rw [List.eq_of_mem_replicate member]
      trivial
    have count : workCount (List.replicate n .work) = n := by
      rw [workCount, List.countP_replicate]
      rfl
    obtain ⟨q, worked, represents'⟩ := serve_refines (represents_happen buffers) represents
      (legal_waits works configured)
    rw [answers_waits job works, count] at represents'
    have ready : d.Allows ⟨moveAll (job.queue.take n) job.mem, job.configured, job.queue.drop n⟩
        (.checkDMAStatus env) := ⟨configured, faithful⟩
    obtain ⟨q', checked, checking⟩ := represents'.checkDMAStatus buffers ready
    have represents'' : d.Represents q'
        ⟨moveAll (job.queue.take n) job.mem, job.configured, job.queue.drop n⟩ := checking
    have step (rest : ℤ → PlatformProg (Option ℤ)) :
        ((do
          let _ ← serve d.happen (List.replicate n .work)
          let status ← d.happen (.checkDMAStatus env)
          rest status) : PlatformProg (Option ℤ)) p =
        rest (if job.queue.drop n = [] then 0 else 2) q' := by
      rw [bind_ok _ worked, bind_ok _ checked]
      rfl
    rw [pollBusy, step, List.sum_cons]
    by_cases done : job.queue.drop n = []
    · have enough := List.drop_eq_nil_iff.mp done
      refine ⟨q', n, ?_, represents'', fun _ => enough⟩
      rw [if_pos done, if_neg (by decide), if_pos (by omega)]
      rfl
    · have short : ¬ job.queue.length ≤ n := mt List.drop_eq_nil_iff.mpr done
      obtain ⟨p', k, run, represented, ends⟩ := ih represents'' configured done
      rw [List.length_drop] at run ends
      refine ⟨p', n + k, ?_, ?_, by omega⟩
      · rw [if_neg done, if_pos rfl, run]
        congr 1
        exact if_congr (by omega) rfl rfl
      · rw [List.take_add, moveAll_append, ← List.drop_drop]
        exact represented

theorem checkPattern_spec (buffers : d.Buffers) (fits : modulus ≤ 256) (positive : 0 < modulus)
    (shows : d.ShowsPattern modulus job.mem) {entries : List ℕ}
    (inside : ∀ i ∈ entries, i < d.halfSize.toNat) (represents : d.Represents p job) :
    ∃ p', d.checkPattern modulus entries p = .ok none p' ∧ d.Represents p' job := by
  have twice := d.halfSize_twice
  induction entries generalizing p with
  | nil => exact ⟨p, rfl, represents⟩
  | cons i entries ih =>
    have bound := inside i List.mem_cons_self
    have allowed : d.Allows job (.load (i + d.halfSize.toNat)) := by
      show i + d.halfSize.toNat < d.dataAlias.length
      omega
    obtain ⟨q, loaded, represents'⟩ := represents.load buffers allowed
    have value : (d.answer job (.load (i + d.halfSize.toNat))).1 = (i % modulus : ℕ) := by
      have small : i % modulus < 2 ^ 8 := (Nat.mod_lt i positive).trans_le fits
      have shown : job.mem (d.place (i + d.halfSize.toNat)) = BitVec.ofNat 8 (i % modulus) :=
        (shows i bound).2
      show ((job.mem (d.place (i + d.halfSize.toNat))).toNat : ℤ) = (i % modulus : ℕ)
      rw [shown, BitVec.toNat_ofNat, Nat.mod_eq_of_lt small]
    obtain ⟨p', rest, represents''⟩ :=
      ih (fun i' member => inside i' (List.mem_cons_of_mem i member)) represents'
    refine ⟨p', ?_, represents''⟩
    rw [checkPattern, bind_ok _ loaded, value, if_neg (not_not_intro rfl), rest]

end Steps

section Requests

variable {requests : List TransferRequest}

theorem CopiesHalf.avoids {v : Move 49} (buffers : d.Buffers) (copies : d.CopiesHalf v) :
    d.Avoids v := by
  have room := d.dataAlias_room
  have twice := d.halfSize_twice
  obtain ⟨a, n, rfl, inside⟩ := copies
  have within {o : ℕ} (fits : o + n ≤ d.dataAlias.length) :
      Disjoint (block (d.place o) n) d.cfgFar := by
    apply buffers.far.mono_left
    have subset := block_offset_subset d.dataAlias.far (Nat.zero_le o)
      (fits.trans_eq (Nat.zero_add _).symm) (show 0 + d.dataAlias.length ≤ 2 ^ 49 by omega)
    rwa [block_offset_zero] at subset
  exact ⟨within (by omega), within (by omega)⟩

theorem copiesHalf_of_request {a : ℕ} {request : TransferRequest}
    (room : d.getBufferPhysAddr.toNat + d.halfSize.toNat + a < 2 ^ 32)
    (src : request.srcAddr = d.getBufferPhysAddr + BitVec.ofNat 32 a)
    (dst : request.destAddr = d.getBufferPhysAddr + d.halfSize + BitVec.ofNat 32 a)
    (inside : a + request.transferLength.toNat ≤ d.halfSize.toNat) :
    d.CopiesHalf request.move := by
  have wide {k : ℕ} (bound : d.getBufferPhysAddr.toNat + k < 2 ^ 32) :
      ((d.getBufferPhysAddr + BitVec.ofNat 32 k).setWidth 64).setWidth 49 = d.place k := by
    show _ = d.getBufferPhysAddr.setWidth 49 + BitVec.ofNat 49 k
    bv_omega
  have source : (request.srcAddr.setWidth 64).setWidth 49 = d.place a := by
    rw [src]
    exact wide (by omega)
  have target : (request.destAddr.setWidth 64).setWidth 49 = d.place (a + d.halfSize.toNat) := by
    have sum : d.getBufferPhysAddr + d.halfSize + BitVec.ofNat 32 a =
        d.getBufferPhysAddr + BitVec.ofNat 32 (a + d.halfSize.toNat) := by
      bv_omega
    rw [dst, sum]
    exact wide (by omega)
  have less := Nat.mod_le request.transferLength.toNat (2 ^ 30)
  refine ⟨a, request.transferLength.toNat % 2 ^ 30, ?_, by omega⟩
  rw [← source, ← target]
  rfl

variable (positive : 0 < d.getBufferPhysAddr.toNat)
  (room : d.getBufferPhysAddr.toNat + d.getBufferSize.toNat ≤ 2 ^ 32)

include positive room

theorem listRequest_spec {i : ℕ} (bound : i < 32) :
    d.CopiesHalf (d.listRequest i).move ∧ (d.listRequest i).Nonzero := by
  have half : d.halfSize.toNat = d.getBufferSize.toNat / 2 := rfl
  have size := d.getBufferSize.isLt
  have piece : (d.halfSize / 32).toNat = d.halfSize.toNat / 32 := rfl
  have offset : BitVec.ofNat 32 i * (d.halfSize / 32) =
      BitVec.ofNat 32 (i * (d.halfSize.toNat / 32)) := by
    rw [BitVec.ofNat_mul, ← piece, BitVec.ofNat_toNat, BitVec.setWidth_eq]
  have pieces : i * (d.halfSize.toNat / 32) + d.halfSize.toNat / 32 ≤ d.halfSize.toNat := by
    have upTo : (i + 1) * (d.halfSize.toNat / 32) ≤ 32 * (d.halfSize.toNat / 32) :=
      Nat.mul_le_mul_right _ bound
    have all := Nat.mul_div_le d.halfSize.toNat 32
    rw [Nat.add_mul, Nat.one_mul] at upTo
    omega
  have empty : d.halfSize.toNat / 32 = 0 → i * (d.halfSize.toNat / 32) = 0 := by
    intro none
    rw [none, Nat.mul_zero]
  generalize i * (d.halfSize.toNat / 32) = a at *
  have below : d.getBufferPhysAddr.toNat + d.halfSize.toNat + a < 2 ^ 32 := by
    omega
  constructor
  · apply copiesHalf_of_request (a := a) below
    · rw [listRequest, offset]
    · rw [listRequest, offset]
    · exact pieces
  · constructor
    · show d.getBufferPhysAddr + BitVec.ofNat 32 i * (d.halfSize / 32) ≠ 0
      rw [offset]
      bv_omega
    · show d.getBufferPhysAddr + d.halfSize + BitVec.ofNat 32 i * (d.halfSize / 32) ≠ 0
      rw [offset]
      bv_omega

end Requests

section Test

variable {modulus : ℕ} {requests : List TransferRequest}

variable (requests) in
theorem requests_complete (nonempty : requests ≠ []) (fits : requests.length ≤ 32)
    (nonzero : ∀ request ∈ requests, request.Nonzero) (clock : env.ClockActivates)
    (faithful : ∀ r v, env.readBack (d.zdmaConfig.baseAddress + Register.offset r) v = v) :
    d.Completes env requests :=
  ⟨fits, clock, .of_faithful (faithful .ctrl0), .of_faithful (faithful .ctrl0),
    .of_nonzero nonempty nonzero⟩

variable (modulus) in
theorem testRequests_spec (buffers : d.Buffers) (completes : d.Completes env requests)
    (faithful : ∀ r v, env.readBack (d.zdmaConfig.baseAddress + Register.offset r) v = v)
    (copies : ∀ request ∈ requests, d.CopiesHalf request.move) (fits : modulus ≤ 256)
    (positive : 0 < modulus) (schedule : List ℕ) (represents : d.Represents p job)
    (idle : job.queue = []) :
    ∃ p', d.testRequests env modulus requests schedule p =
        .ok (if requests.length ≤ schedule.sum then .checked false none else .polling) p' ∧
      (requests.length ≤ schedule.sum → ∃ job', d.Represents p' job' ∧ job'.queue = []) := by
  obtain ⟨first, p₁, last, p₂, mem, write, write', filled, shows⟩ :=
    writePattern_shows modulus buffers represents idle
  let moves := requests.map TransferRequest.move
  obtain ⟨p₃, configures, represents₃⟩ := filled.configures buffers idle completes
    fun request member => (copies request member).avoids buffers
  have started : d.Allows ⟨mem, some moves, job.queue⟩ .startDMA := ⟨idle, Option.some_ne_none _⟩
  obtain ⟨p₄, starts, represents₄⟩ := represents₃.startDMA buffers started
  have going : moves ≠ [] := mt List.map_eq_nil_iff.mp completes.2.2.2.2.1
  have begun : d.Represents p₄ ⟨mem, some moves, moves⟩ := represents₄
  have length : moves.length = requests.length := List.length_map _
  obtain ⟨p₅, k, polls, represents₅, ends⟩ := pollBusy_spec buffers (faithful .sts) schedule begun
    (Option.some_ne_none moves) going
  rw [length] at polls ends
  have upTo (rest : Option ℤ → PlatformProg TestOutcome) :
      ((do
        let _ ← d.writePattern modulus 0
        let _ ← d.writePattern modulus d.halfSize.toNat
        let configured ← d.happen (.configureDMA env requests)
        if configured ≠ 0 then pure .configurationFailed
        else do
          let _ ← d.happen .startDMA
          let polled ← d.pollBusy env schedule
          rest polled) : PlatformProg TestOutcome) p =
      rest (if requests.length ≤ schedule.sum then some 0 else none) p₅ := by
    rw [bind_ok _ write, bind_ok _ write', bind_ok _ configures, if_neg (not_not_intro rfl),
      bind_ok _ starts, bind_ok _ polls]
  rw [testRequests, upTo]
  by_cases enough : requests.length ≤ schedule.sum
  · have all : moves.length ≤ k := length.trans_le (ends enough)
    rw [List.take_of_length_le all, List.drop_of_length_le all] at represents₅
    have settled : d.Allows ⟨moveAll moves mem, some moves, []⟩ (.checkDMAStatus env) :=
      ⟨Option.some_ne_none moves, faithful .sts⟩
    obtain ⟨p₆, checks, represents₆⟩ := represents₅.checkDMAStatus buffers settled
    have moved : d.ShowsPattern modulus (moveAll moves mem) := by
      apply shows.moveAll
      intro v member
      obtain ⟨request, listed, rfl⟩ := List.mem_map.mp member
      exact copies request listed
    have done : d.Represents p₆ ⟨moveAll moves mem, some moves, []⟩ := represents₆
    obtain ⟨p', reads, represents'⟩ := checkPattern_spec buffers fits positive moved
      (fun i member => List.mem_range.mp member) done
    refine ⟨p', ?_, fun _ => ⟨_, represents', rfl⟩⟩
    rw [if_pos enough, if_pos enough]
    show (d.happen (.checkDMAStatus env) >>= _) p₅ = _
    rw [bind_ok _ checks, bind_ok _ reads]
    rfl
  · refine ⟨p₅, ?_, fun wrong => absurd wrong enough⟩
    rw [if_neg enough, if_neg enough]
    rfl

variable (buffers : d.Buffers) (fresh : d.Fresh p)
  (faithful : ∀ r v, env.readBack (d.zdmaConfig.baseAddress + Register.offset r) v = v)
  (positive : 0 < d.getBufferPhysAddr.toNat)
  (room : d.getBufferPhysAddr.toNat + d.getBufferSize.toNat ≤ 2 ^ 32)

include buffers fresh faithful positive room

/-- The test reports the same whichever of its requests are left out, doubled or exchanged: its
    loops fill the place of the copy with what is copied there. -/
theorem listTest_blind (clock : env.ClockActivates) (requests : List TransferRequest)
    (nonempty : requests ≠ []) (fits : requests.length ≤ 32)
    (drawn : ∀ request ∈ requests, request ∈ (List.range 32).map d.listRequest)
    (schedule : List ℕ) (enough : requests.length ≤ schedule.sum) :
    ∃ p', d.testRequests env 256 requests schedule p = .ok (.checked false none) p' := by
  have listed : ∀ request ∈ requests, d.CopiesHalf request.move ∧ request.Nonzero := by
    intro request member
    obtain ⟨i, bound, rfl⟩ := List.mem_map.mp (drawn request member)
    exact listRequest_spec positive room (List.mem_range.mp bound)
  have complete := requests_complete requests nonempty fits
    (fun request member => (listed request member).2) clock faithful
  obtain ⟨p', run, _⟩ := testRequests_spec 256 buffers complete faithful
    (fun request member => (listed request member).1) (by decide) (by decide) schedule
    fresh.represents rfl
  rw [if_pos enough] at run
  exact ⟨p', run⟩

omit buffers fresh faithful positive room

theorem listTest_blind_sample :
    ∃ p', sample.testRequests (.ideal .waiting) 256
        [sample.listRequest 7, sample.listRequest 3, sample.listRequest 7] [1, 0, 2]
        samplePlatform = .ok (.checked false none) p' :=
  listTest_blind sample_buffers samplePlatform_fresh (fun _ _ => rfl) (by decide) (by decide)
    (by decide) [sample.listRequest 7, sample.listRequest 3, sample.listRequest 7] (by decide)
    (by decide) (by decide) [1, 0, 2] (by decide)

end Test

end DmaDriverImpl

end ZynqmpDma
