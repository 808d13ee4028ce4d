import ZynqmpDma.Base.Parties
import ZynqmpDma.Driver.Locality

namespace ZynqmpDma

open Base XZDma

structure Host (ι : Type) where
  dma : ι → XZDma
  machine : Machine
  process : Process

namespace Host

variable {ι : Type} (h : Host ι) (i : ι)

def view : System := ⟨h.dma i, h.machine, h.process⟩

variable [DecidableEq ι]

def put (s : System) : Host ι := ⟨Function.update h.dma i s.dma, s.machine, s.process⟩

def step (drivers : ι → DmaDriverImpl) (input : ι × Call) : EStateM Stuck (Host ι) ℤ := fun h =>
  match (drivers input.1).step input.2 (h.view input.1) with
  | .ok status s => .ok status (h.put input.1 s)
  | .error e s => .error e (h.put input.1 s)

@[simp] theorem put_view (s : System) : (h.put i s).view i = s := by
  have own : (h.put i s).dma i = s.dma := Function.update_self ..
  rw [view, own]
  rfl

variable {drivers : ι → DmaDriverImpl} {h i}

theorem step_ok {call : Call} {status : ℤ} {s : System}
    (run : (drivers i).step call (h.view i) = .ok status s) :
    step drivers (i, call) h = .ok status (h.put i s) := by
  simp only [step, run]

theorem step_error {call : Call} {e : Stuck} {s : System}
    (run : (drivers i).step call (h.view i) = .error e s) :
    step drivers (i, call) h = .error e (h.put i s) := by
  simp only [step, run]

theorem step_final (input : ι × Call) : finalState (step drivers input h) =
    h.put input.1 (finalState ((drivers input.1).step input.2 (h.view input.1))) := by
  unfold step
  split
  case h_1 status s run => rw [run]; rfl
  case h_2 e s run => rw [run]; rfl

/-- What a call of driver `i` does to the host is what it does to the system `i` finds. -/
theorem step_inv {input : ι × Call} {status : ℤ} {h' : Host ι}
    (run : step drivers input h = .ok status h') :
    ∃ s, (drivers input.1).step input.2 (h.view input.1) = .ok status s ∧
      h' = h.put input.1 s := by
  unfold step at run
  split at run
  case h_1 status' s taken =>
    cases run
    exact ⟨s, taken, rfl⟩
  case h_2 e s taken => cases run

end Host

structure Apart (d d' : DmaDriverImpl) : Prop where
  channels : ∀ r r', d.zdmaConfig.baseAddress + Register.offset r ≠
    d'.zdmaConfig.baseAddress + Register.offset r'
  buffers : Disjoint d.cfgNear d'.cfgNear

/-- No call that uses the channel comes before the channel is initialized. -/
def ConfiguredFirst : List Call → Prop
  | [] => True
  | call :: calls => ¬ call.UsesBase ∧ (call.Initializes ∨ ConfiguredFirst calls)

namespace Host

variable {ι : Type} [DecidableEq ι]

def callsOf (i : ι) (inputs : List (ι × Call)) : List Call :=
  (inputsOf Prod.fst i inputs).map Prod.snd

/-- Each instance is that of its channel, or will be before the channel is used. -/
def Points (drivers : ι → DmaDriverImpl) (h : Host ι) (inputs : List (ι × Call)) : Prop :=
  ∀ i, (h.dma i).config.baseAddress = (drivers i).zdmaConfig.baseAddress ∨
    ConfiguredFirst (callsOf i inputs)

variable {drivers : ι → DmaDriverImpl} {h h' : Host ι} {i : ι} {call : Call}
  {inputs : List (ι × Call)}

theorem callsOf_own : callsOf i ((i, call) :: inputs) = call :: callsOf i inputs := by
  rw [callsOf, inputsOf_own (show (i, call).1 = i from rfl)]
  rfl

theorem callsOf_other {j : ι} (other : j ≠ i) :
    callsOf j ((i, call) :: inputs) = callsOf j inputs := by
  rw [callsOf, inputsOf_other (show (i, call).1 ≠ j from Ne.symm other)]
  rfl

theorem Points.uses (points : Points drivers h ((i, call) :: inputs)) (uses : call.UsesBase) :
    (h.view i).dma.config.baseAddress = (drivers i).zdmaConfig.baseAddress := by
  rcases points i with channel | later
  · exact channel
  · rw [callsOf_own] at later
    exact absurd uses later.1

theorem Points.next {status : ℤ} {t : System}
    (mapped : ∀ i, (drivers i).zdmaConfig.baseAddress ≠ 0)
    (points : Points drivers h ((i, call) :: inputs))
    (run : (drivers i).step call (h.view i) = .ok status t) :
    Points drivers (h.put i t) inputs := by
  intro j
  by_cases own : j = i
  · subst own
    have after : (h.put j t).dma j = t.dma := Function.update_self ..
    rw [after]
    by_cases initializes : call.Initializes
    · left
      have drives := (DmaDriverImpl.step_initializes (h.view j) initializes (mapped j)).1
      rw [run] at drives
      exact drives.channel
    · rcases points j with channel | later
      · exact .inl (DmaDriverImpl.step_channel (mapped j) channel run)
      · rw [callsOf_own] at later
        exact .inr (later.2.resolve_left initializes)
  · have kept : (h.put i t).dma j = h.dma j := Function.update_of_ne own ..
    rw [kept]
    rcases points j with channel | later
    · exact .inl channel
    · rw [callsOf_other own] at later
      exact .inr later

theorem put_other (apart : Pairwise fun i j => Apart (drivers i) (drivers j)) {j : ι} {s : System}
    (other : j ≠ i) (spares : (drivers i).Spares (h.view i) s)
    (sees : (drivers j).Sees (h.view j) (h'.view j)) :
    (drivers j).Sees ((h.put i s).view j) (h'.view j) where
  dma := by
    have kept : (h.put i s).dma j = h.dma j := Function.update_of_ne other ..
    show h'.dma j = (h.put i s).dma j
    rw [kept]
    exact sees.dma
  regs r := by
    have kept := spares.io ((drivers j).zdmaConfig.baseAddress + Register.offset r)
      fun r' => (apart other).channels r r'
    exact (sees.regs r).trans kept.symm
  mem := by
    have kept := spares.mem.mono (Set.subset_compl_iff_disjoint_right.mpr (apart other).buffers)
    exact sees.mem.trans kept.symm
  log := rfl

theorem shares (mapped : ∀ i, (drivers i).Mapped)
    (apart : Pairwise fun i j => Apart (drivers i) (drivers j)) :
    Shares Prod.fst (fun i h h' => (drivers i).Sees (Host.view h i) (h'.view i)) (step drivers)
      (Points drivers) where
  own := by
    rintro ⟨i, call⟩ inputs h h' points sees
    have alike := DmaDriverImpl.step_parallel (mapped i).uio call points.uses sees
    generalize first : (drivers i).step call (h.view i) = r at alike
    generalize second : (drivers i).step call (h'.view i) = r' at alike
    cases alike with
    | ok a same =>
      rw [step_ok first, step_ok second]
      refine .ok a ?_
      rw [put_view, put_view]
      exact ⟨same.dma, same.regs, same.mem, rfl⟩
    | error e same =>
      rw [step_error first, step_error second]
      refine .error e ?_
      rw [put_view, put_view]
      exact ⟨same.dma, same.regs, same.mem, rfl⟩
  others := by
    rintro ⟨i, call⟩ inputs h h' j points other sees
    rw [step_final]
    exact put_other apart other
      (DmaDriverImpl.step_spares (mapped i) call (h.view i) points.uses) sees
  fine := by
    rintro ⟨i, call⟩ inputs h status h' points run
    obtain ⟨s, taken, rfl⟩ := step_inv run
    exact points.next (fun i => (mapped i).uio) taken

omit [DecidableEq ι] in
theorem own_tail {input : ι × Call} (own : ∀ other ∈ input :: inputs, other.1 = i) :
    input.1 = i ∧ ∀ other ∈ inputs, other.1 = i :=
  ⟨own input List.mem_cons_self, fun other listed => own other (List.mem_cons_of_mem _ listed)⟩

/-- A run of the calls of one driver is a run of the system that it finds. -/
theorem serve_view (own : ∀ input ∈ inputs, input.1 = i) {given : List ℤ}
    (run : serve (step drivers) inputs h = .ok given h') :
    serve (drivers i).step (inputs.map Prod.snd) (h.view i) = .ok given (h'.view i) := by
  induction inputs generalizing h given with
  | nil =>
    cases run
    rfl
  | cons input inputs ih =>
    obtain ⟨rfl, own'⟩ := own_tail own
    rw [serve] at run
    obtain ⟨status, u, first, later⟩ := bind_ok_inv run
    obtain ⟨statuses, u', others, last⟩ := bind_ok_inv later
    cases last
    obtain ⟨s, taken, rfl⟩ := step_inv first
    have rest := ih own' others
    rw [put_view] at rest
    rw [List.map_cons, serve, bind_ok _ taken, bind_ok _ rest]
    rfl

theorem serve_host (own : ∀ input ∈ inputs, input.1 = i) {given : List ℤ} {s : System}
    (run : serve (drivers i).step (inputs.map Prod.snd) (h.view i) = .ok given s) :
    ∃ h', serve (step drivers) inputs h = .ok given h' := by
  induction inputs generalizing h given with
  | nil =>
    cases run
    exact ⟨h, rfl⟩
  | cons input inputs ih =>
    obtain ⟨rfl, own'⟩ := own_tail own
    rw [List.map_cons, serve] at run
    obtain ⟨status, t, taken, later⟩ := bind_ok_inv run
    obtain ⟨statuses, t', others, last⟩ := bind_ok_inv later
    cases last
    rw [← h.put_view input.1 t] at others
    obtain ⟨h', rest⟩ := ih own' others
    refine ⟨h', ?_⟩
    have first : step drivers input h = .ok status (h.put input.1 t) := step_ok taken
    rw [serve, bind_ok _ first, bind_ok _ rest]
    rfl

theorem inputsOf_all (i : ι) (inputs : List (ι × Call)) :
    ∀ input ∈ inputsOf Prod.fst i inputs, input.1 = i := by
  intro input listed
  exact of_decide_eq_true (List.mem_filter.mp listed).2

end Host

/-- Any number of drivers in one process, of channels and cfg buffers apart: whatever the order of
    their calls, each driver is answered as if it were alone, and finds its channel, its instance
    and its cfg buffer as if it were alone; and the calls all return if they do so for each
    driver alone. -/
theorem drivers_independent {ι : Type} [DecidableEq ι] (drivers : ι → DmaDriverImpl)
    (mapped : ∀ i, (drivers i).Mapped)
    (apart : Pairwise fun i j => Apart (drivers i) (drivers j)) (h : Host ι)
    (inputs : List (ι × Call)) (points : Host.Points drivers h inputs) :
    ((∃ given h', serve (Host.step drivers) inputs h = .ok given h') ↔
      ∀ i, ∃ given s, serve (drivers i).step (Host.callsOf i inputs) (h.view i) = .ok given s) ∧
    ∀ given h', serve (Host.step drivers) inputs h = .ok given h' → ∀ i, ∃ s,
      serve (drivers i).step (Host.callsOf i inputs) (h.view i) =
          .ok (answersOf Prod.fst i inputs given) s ∧
        (drivers i).Sees (h'.view i) s := by
  have shares := Host.shares mapped apart
  have same (i : ι) : (drivers i).Sees (h.view i) (h.view i) :=
    ⟨rfl, fun _ => rfl, Set.eqOn_refl _ _, rfl⟩
  have alone : ∀ given h', serve (Host.step drivers) inputs h = .ok given h' → ∀ i, ∃ s,
      serve (drivers i).step (Host.callsOf i inputs) (h.view i) =
          .ok (answersOf Prod.fst i inputs given) s ∧
        (drivers i).Sees (h'.view i) s := by
    intro given h' run i
    obtain ⟨t, solo, sees⟩ := shares.solo points (same i) run
    exact ⟨t.view i, Host.serve_view (Host.inputsOf_all i inputs) solo, sees⟩
  refine ⟨⟨?_, ?_⟩, alone⟩
  · rintro ⟨given, h', run⟩ i
    obtain ⟨s, solo, _⟩ := alone given h' run i
    exact ⟨_, s, solo⟩
  · intro solos
    apply shares.together points
    intro i
    obtain ⟨given, s, solo⟩ := solos i
    obtain ⟨h', run⟩ := Host.serve_host (Host.inputsOf_all i inputs) solo
    exact ⟨h, same i, given, h', run⟩

def samplePair (second : Bool) : DmaDriverImpl :=
  if second then
    { dataBuf := { fd := 7, buf := 0x7F0000400000, size := 0x1000, physAddr := 0x70200000 }
      cfgBuf := { fd := 8, buf := 0x7F0000201000, size := 0x1000, physAddr := 0x70101000 }
      uioDma := { fd := 9, buf := 0x7F0000301000, size := 0x1000, physAddr := 0xFFA90000 } }
  else DmaDriverImpl.sample

theorem apart_of_pages {d d' : DmaDriverImpl}
    (pages : d.zdmaConfig.baseAddress.toNat + 0x1000 ≤ d'.zdmaConfig.baseAddress.toNat)
    (room : d'.zdmaConfig.baseAddress.toNat + 0x1000 ≤ 2 ^ 64)
    (buffers : Disjoint d.cfgNear d'.cfgNear) : Apart d d' where
  channels r r' := by
    have low := r.offset_lt
    have low' := r'.offset_lt
    bv_omega
  buffers := buffers

theorem Apart.symm {d d' : DmaDriverImpl} (apart : Apart d d') : Apart d' d where
  channels r r' := (apart.channels r' r).symm
  buffers := apart.buffers.symm

theorem samplePair_apart : Pairwise fun i j => Apart (samplePair i) (samplePair j) := by
  have apart : Apart (samplePair false) (samplePair true) :=
    apart_of_pages (by decide) (by decide) (block_disjoint (by decide) (by decide) (by decide))
  intro i j other
  cases i <;> cases j
  · exact absurd rfl other
  · exact apart
  · exact apart.symm
  · exact absurd rfl other

/-- Both drivers are configured, then one is started and the other asked for its status. -/
theorem drivers_independent_pair :
    let env : Env := .ideal .waiting
    let inputs : List (Bool × Call) :=
      [(false, .configureDMA env [⟨0x10000000, 0x20000000, 64⟩]),
        (true, .configureDMA env [⟨0x30000000, 0x40000000, 32⟩]),
        (false, .startDMA), (true, .checkDMAStatus env)]
    let h : Host Bool := ⟨fun _ => .zeroed, System.blank.machine, .standard⟩
    ∀ given h', serve (Host.step samplePair) inputs h = .ok given h' → ∀ i, ∃ s,
      serve (samplePair i).step (Host.callsOf i inputs) (h.view i) =
          .ok (answersOf Prod.fst i inputs given) s ∧
        (samplePair i).Sees (h'.view i) s := by
  intro env inputs h
  apply (drivers_independent samplePair _ samplePair_apart h inputs _).2
  · intro i
    cases i <;> exact ⟨by decide, by decide, by decide⟩
  · intro i
    right
    cases i <;> exact ⟨not_false, .inl ⟨by decide, by decide⟩⟩

end ZynqmpDma
