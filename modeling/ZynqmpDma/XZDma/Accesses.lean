import ZynqmpDma.XZDma.ScatterGather

namespace ZynqmpDma

open Base

def RegisterAccess (base : BitVec 64) (e : Event) : Prop :=
  ∃ r, e = .read (base + XZDma.Register.offset r) ∨
    ∃ v, e = .write (base + XZDma.Register.offset r) v

def DriverAccess (base : BitVec 64) (e : Event) : Prop :=
  RegisterAccess base e ∨ ∃ a width, e = .store a width

/-- `t` is `s` after accesses that `P` allows for the channel the instance points at, which
    stays the same. -/
structure Accesses (P : BitVec 64 → Event → Prop) (s t : System) : Prop where
  base : t.dma.config.baseAddress = s.dma.config.baseAddress
  process : t.process = s.process
  log : ∃ new, t.machine.log = new ++ s.machine.log ∧ ∀ e ∈ new, P s.dma.config.baseAddress e

namespace Accesses

variable {P : BitVec 64 → Event → Prop} {s t : System}

theorem refl (s : System) : Accesses P s s := ⟨rfl, rfl, [], rfl, by simp⟩

theorem trans {u : System} (first : Accesses P s t) (second : Accesses P t u) :
    Accesses P s u := by
  rcases first.log with ⟨new, log, allowed⟩
  rcases second.log with ⟨new', log', allowed'⟩
  refine ⟨second.base.trans first.base, second.process.trans first.process, new' ++ new, ?_, ?_⟩
  · rw [log', log, List.append_assoc]
  · intro e member
    rcases List.mem_append.mp member with member | member
    · rw [← first.base]
      exact allowed' e member
    · exact allowed e member

theorem mono {Q : BitVec 64 → Event → Prop} (accesses : Accesses P s t)
    (weaker : ∀ base e, P base e → Q base e) : Accesses Q s t := by
  rcases accesses.log with ⟨new, log, allowed⟩
  exact ⟨accesses.base, accesses.process, new, log, fun e member => weaker _ e (allowed e member)⟩

instance : Std.Refl (Accesses P) := ⟨refl⟩

instance : IsTrans System (Accesses P) := ⟨fun _ _ _ => trans⟩

theorem kept (accesses : Accesses P s t) {e : Event} (member : e ∈ s.machine.log) :
    e ∈ t.machine.log := by
  rcases accesses.log with ⟨new, log, _⟩
  rw [log]
  exact List.mem_append_right _ member

end Accesses

def StuckIn (env : Env) (e : Stuck) : Prop := e = .assertion ∧ env.asserts = .waiting

namespace XZDma

section Steps

variable {R : System → System → Prop} [Std.Refl R] {α : Type}

theorem steps_xilAssert (env : Env) (expression : Prop) [Decidable expression] (dflt : α)
    {rest : Prog α} (body : Steps R (StuckIn env) rest) :
    Steps R (StuckIn env) (xilAssert env expression dflt rest) := by
  apply Steps.ite body
  cases mode : env.asserts with
  | compiledOut => exact body
  | waiting => exact .throw ⟨rfl, mode⟩
  | returning => exact .pure dflt

theorem steps_getInstance {E : Stuck → Prop} : Steps R E getInstance where
  along s := Std.Refl.refl s
  stuck := by
    intro s e t run
    cases run

end Steps

section Registers

variable {P : BitVec 64 → Event → Prop} {E : Stuck → Prop} (env : Env)

theorem steps_setInstance {f : XZDma → XZDma}
    (same : ∀ i, (f i).config.baseAddress = i.config.baseAddress) :
    Steps (Accesses P) E (setInstance f) where
  along s := ⟨same s.dma, rfl, [], rfl, by simp⟩
  stuck := by
    intro s e t run
    cases run

variable (registers : ∀ base e, RegisterAccess base e → P base e)

include registers

theorem steps_readReg (r : Register) : Steps (Accesses P) E (readReg env r) where
  along s := by
    have access : RegisterAccess s.dma.config.baseAddress (.read (s.addr r)) := ⟨r, .inl rfl⟩
    exact ⟨rfl, rfl, [_], rfl, List.forall_mem_singleton.mpr (registers _ _ access)⟩
  stuck := by
    intro s e t run
    cases run

theorem steps_writeReg (r : Register) (v : BitVec 32) :
    Steps (Accesses P) E (writeReg r v) where
  along s := by
    have access : RegisterAccess s.dma.config.baseAddress (.write (s.addr r) v) :=
      ⟨r, .inr ⟨v, rfl⟩⟩
    exact ⟨rfl, rfl, [_], rfl, List.forall_mem_singleton.mpr (registers _ _ access)⟩
  stuck := by
    intro s e t run
    cases run

theorem steps_disableIntr (mask : BitVec 32) :
    Steps (Accesses P) (StuckIn env) (disableIntr env mask) := by
  apply Steps.bind (steps_readReg env registers _)
  intro current
  exact steps_writeReg registers _ _

theorem steps_totalByteClear : Steps (Accesses P) (StuckIn env) (totalByteClear env) := by
  apply Steps.bind (steps_readReg env registers _)
  intro count
  exact steps_writeReg registers _ _

theorem steps_resetCoherence (isCacheCoherent : BitVec 8) :
    Steps (Accesses P) E (resetCoherence isCacheCoherent) := by
  apply Steps.ite
  · apply Steps.andThen (steps_writeReg registers _ _)
    apply Steps.andThen (steps_writeReg registers _ _)
    exact steps_writeReg registers _ _
  · exact .pure _

theorem steps_reset : Steps (Accesses P) (StuckIn env) (reset env) := by
  apply Steps.bind steps_getInstance
  intro inst
  apply steps_xilAssert
  apply Steps.andThen (steps_writeReg registers _ _)
  apply Steps.andThen (steps_disableIntr env registers _)
  apply Steps.andThen (steps_writeReg registers _ _)
  refine Steps.andThen (steps_setInstance fun _ => rfl) ?_
  apply Steps.andThen (steps_writeReg registers _ _)
  apply Steps.andThen (steps_writeReg registers _ _)
  apply Steps.andThen (steps_writeReg registers _ _)
  apply Steps.andThen (steps_writeReg registers _ _)
  apply Steps.andThen (steps_totalByteClear env registers)
  apply Steps.bind (steps_readReg env registers _)
  intro srcIntrCnt
  apply Steps.bind (steps_readReg env registers _)
  intro dstIntrCnt
  apply Steps.andThen (steps_resetCoherence registers _)
  exact steps_setInstance fun _ => rfl

theorem steps_selfTest : Steps (Accesses P) (StuckIn env) (selfTest env) := by
  apply Steps.bind (steps_readReg env registers _)
  intro data
  apply Steps.andThen (steps_writeReg registers _ _)
  apply Steps.bind (steps_readReg env registers _)
  intro changed
  apply Steps.andThen (steps_writeReg registers _ _)
  exact .pure _

theorem steps_setMode (isSgDma : BitVec 8) (mode : Mode) :
    Steps (Accesses P) (StuckIn env) (setMode env isSgDma mode) := by
  have select (value : BitVec 32) {f : XZDma → XZDma}
      (same : ∀ i, (f i).config.baseAddress = i.config.baseAddress) :
      Steps (Accesses P) (StuckIn env)
        (do writeReg .ctrl0 value
            setInstance f
            pure xstSuccess) := by
    apply Steps.andThen (steps_writeReg registers _ _)
    apply Steps.andThen (steps_setInstance same)
    exact .pure _
  apply steps_xilAssert
  apply Steps.bind steps_getInstance
  intro inst
  apply Steps.ite (.pure _)
  apply Steps.bind (steps_readReg env registers _)
  intro data
  apply Steps.ite
  · exact select _ fun _ => rfl
  · apply Steps.ite (.pure _)
    exact select _ fun _ => rfl

omit registers in
theorem steps_createBDList (typeOfDscr : DscrType) (dscrMemPtr descrPhysMemPtr : BitVec 64)
    (noOfBytes : BitVec 32) :
    Steps (Accesses P) (StuckIn env)
      (createBDList env typeOfDscr dscrMemPtr descrPhysMemPtr noOfBytes) := by
  apply steps_xilAssert
  apply steps_xilAssert
  refine Steps.andThen (steps_setInstance fun _ => rfl) ?_
  exact .pure _

theorem steps_setChDataConfig (configure : DataConfig) :
    Steps (Accesses P) (StuckIn env) (setChDataConfig env configure) := by
  apply Steps.bind steps_getInstance
  intro inst
  apply Steps.ite (.pure _)
  refine Steps.andThen (steps_setInstance fun _ => rfl) ?_
  apply Steps.bind (steps_readReg env registers _)
  intro ctrl0
  apply Steps.andThen (steps_writeReg registers _ _)
  apply Steps.bind (steps_readReg env registers _)
  intro ctrl1
  apply Steps.andThen (steps_writeReg registers _ _)
  apply Steps.bind (steps_readReg env registers _)
  intro dataAttr
  apply Steps.andThen (steps_writeReg registers _ _)
  exact .pure _

end Registers

def listRegisters : List Register :=
  [.srcDscrWord0, .srcDscrWord1, .srcDscrWord2, .srcDscrWord3,
    .dstDscrWord0, .dstDscrWord1, .dstDscrWord2, .dstDscrWord3,
    .srcStartLsb, .srcStartMsb, .dstStartLsb, .dstStartMsb]

structure AllowsLists (R : System → System → Prop) : Prop where
  store : ∀ s a width value, R s (s.store a width value)
  write : ∀ s r v, r ∈ listRegisters → R s (s.write r v)

theorem accesses_allowLists : AllowsLists (Accesses DriverAccess) where
  store s a width value :=
    ⟨rfl, rfl, [_], rfl, List.forall_mem_singleton.mpr (.inr ⟨a, width, rfl⟩)⟩
  write s r v _ := by
    have access : RegisterAccess s.dma.config.baseAddress (.write (s.addr r) v) :=
      ⟨r, .inr ⟨v, rfl⟩⟩
    exact ⟨rfl, rfl, [_], rfl, List.forall_mem_singleton.mpr (.inl access)⟩

theorem registers_driver (base : BitVec 64) (e : Event) (access : RegisterAccess base e) :
    DriverAccess base e := .inl access

section Lists

variable {R : System → System → Prop} [Std.Refl R] [IsTrans System R] {E : Stuck → Prop}
  (env : Env) (allows : AllowsLists R)

include allows

omit [Std.Refl R] [IsTrans System R] in
theorem steps_storeMem (a : BitVec 64) (width value : ℕ) :
    Steps R E (storeMem a width value) where
  along s := allows.store s a width value
  stuck := by
    intro s e t run
    cases run

omit [Std.Refl R] [IsTrans System R] in
theorem steps_writeList {r : Register} (v : BitVec 32) (member : r ∈ listRegisters) :
    Steps R E (writeReg r v) where
  along s := allows.write s r v member
  stuck := by
    intro s e t run
    cases run

theorem steps_configLinear (dscrPtr addr : BitVec 64) (size ctrlValue : BitVec 32) :
    Steps R (StuckIn env)
      (configLinear env dscrPtr addr size ctrlValue) := by
  apply steps_xilAssert
  apply steps_xilAssert
  apply Steps.andThen (steps_storeMem allows _ _ _)
  apply Steps.andThen (steps_storeMem allows _ _ _)
  exact steps_storeMem allows _ _ _

theorem steps_linearMode (data : Transfer) (src dst : BitVec 64) (isLast : Bool) :
    Steps R (StuckIn env) (linearMode env data src dst isLast) := by
  apply steps_xilAssert
  apply steps_xilAssert
  apply Steps.andThen (steps_configLinear env allows _ _ _ _)
  exact steps_configLinear env allows _ _ _ _

theorem steps_configLinkedList (dscrPtr addr : BitVec 64) (size ctrlValue : BitVec 32)
    (next : BitVec 64) :
    Steps R (StuckIn env)
      (configLinkedList env dscrPtr addr size ctrlValue next) := by
  apply steps_xilAssert
  apply steps_xilAssert
  apply Steps.andThen (steps_storeMem allows _ _ _)
  apply Steps.andThen (steps_storeMem allows _ _ _)
  apply Steps.andThen (steps_storeMem allows _ _ _)
  apply Steps.andThen (steps_storeMem allows _ _ _)
  exact steps_storeMem allows _ _ _

theorem steps_linkedListMode (data : Transfer) (src dst : BitVec 64) (isLast : Bool) :
    Steps R (StuckIn env) (linkedListMode env data src dst isLast) := by
  apply steps_xilAssert
  apply steps_xilAssert
  apply Steps.andThen (steps_configLinkedList env allows _ _ _ _ _)
  exact steps_configLinkedList env allows _ _ _ _ _

omit allows in
theorem steps_dscrLoop {mode : Transfer → BitVec 64 → BitVec 64 → Bool → Prog Unit}
    (body : ∀ d p q l, Steps R (StuckIn env) (mode d p q l))
    (stride : BitVec 64) (data : ℕ → Transfer) (num : BitVec 32) (fuel : ℕ) (count : BitVec 32)
    (last : Bool) (i : ℕ) (src dst : BitVec 64) (start : count = 0 ∨ count < num)
    (enough : num.toNat < count.toNat + fuel) :
    Steps R (StuckIn env)
      (dscrLoop mode stride data num fuel count last i src dst) := by
  induction fuel generalizing count last i src dst with
  | zero => bv_omega
  | succ fuel ih =>
    apply Steps.bind (body _ _ _ _)
    intro _
    by_cases next : count + 1 < num
    · rw [if_pos next]
      exact ih _ _ _ _ _ (.inr next) (by bv_omega)
    · rw [if_neg next]
      exact .pure _

theorem steps_writeDescriptors (dscr : Descriptor) (data : ℕ → Transfer) (num : BitVec 32) :
    Steps R (StuckIn env) (writeDescriptors env dscr data num) := by
  have enough : num.toNat < (0 : BitVec 32).toNat + (num.toNat + 1) := by bv_omega
  apply Steps.ite
  · exact steps_dscrLoop env (steps_linearMode env allows) _ _ _ _ _ _ _ _ _ (.inl rfl) enough
  · exact steps_dscrLoop env (steps_linkedListMode env allows) _ _ _ _ _ _ _ _ _ (.inl rfl) enough

theorem steps_scatterGather (data : ℕ → Transfer) (num : BitVec 32) :
    Steps R (StuckIn env) (scatterGather env data num) := by
  apply steps_xilAssert
  apply Steps.bind steps_getInstance
  intro inst
  apply Steps.andThen (steps_writeDescriptors env allows _ _ _)
  apply Steps.andThen (steps_writeList allows _ (by decide))
  apply Steps.andThen (steps_writeList allows _ (by decide))
  apply Steps.andThen (steps_writeList allows _ (by decide))
  exact steps_writeList allows _ (by decide)

omit [Std.Refl R] in
theorem steps_simpleMode (data : Transfer) :
    Steps R E (simpleMode data) := by
  apply Steps.andThen (steps_writeList allows _ (by decide))
  apply Steps.andThen (steps_writeList allows _ (by decide))
  apply Steps.andThen (steps_writeList allows _ (by decide))
  apply Steps.andThen (steps_writeList allows _ (by decide))
  apply Steps.andThen (steps_writeList allows _ (by decide))
  apply Steps.andThen (steps_writeList allows _ (by decide))
  apply Steps.andThen (steps_writeList allows _ (by decide))
  exact steps_writeList allows _ (by decide)

theorem steps_start (data : ℕ → Transfer) (num : BitVec 32) :
    Steps R (StuckIn env) (start env data num) := by
  apply steps_xilAssert
  apply Steps.bind steps_getInstance
  intro inst
  apply Steps.ite (.pure _)
  apply Steps.ite
  · apply Steps.andThen (steps_simpleMode allows _)
    exact .pure _
  · apply Steps.andThen (steps_scatterGather env allows _ _)
    exact .pure _

end Lists

end XZDma

end ZynqmpDma
