import ZynqmpDma.Base.Built
import ZynqmpDma.XZDma.StartEffects

namespace ZynqmpDma

open Base

namespace XZDma

theorem Register.offset_lt (r : Register) : r.offset.toNat < 0x1000 := by
  cases r <;> decide

/-- What the driver's code does with the machine: it reads registers, writes those of `regs`,
    stores in `place`, and uses the instance. It leaves the configuration of that alone, and its
    interrupt mask unless it disables interrupts. -/
inductive Primitive (regs : List Register) (place : Set (BitVec 64)) :
    ∀ α : Type, Prog α → Prop
  | readReg (env : Env) (r : Register) : Primitive regs place _ (readReg env r)
  | writeReg {r : Register} (v : BitVec 32) (listed : r ∈ regs) :
      Primitive regs place _ (writeReg r v)
  | storeMem {a : BitVec 64} {width : ℕ} (value : ℕ) (inside : block a width ⊆ place) :
      Primitive regs place _ (storeMem a width value)
  | getInstance : Primitive regs place _ getInstance
  | setInstance {f : XZDma → XZDma} (same : ∀ i, (f i).config = i.config)
      (mask : .ids ∉ regs → ∀ i, (f i).intrMask = i.intrMask) :
      Primitive regs place _ (setInstance f)

abbrev Touches (regs : List Register) (place : Set (BitVec 64)) {α : Type} (x : Prog α) : Prop :=
  Built (Primitive regs place) x

section Programs

variable {regs regs' : List Register} {place place' : Set (BitVec 64)} {α : Type} (env : Env)

theorem Touches.mono {x : Prog α} (touches : Touches regs place x) (more : regs ⊆ regs')
    (larger : place ⊆ place') : Touches regs' place' x := by
  apply Built.mono touches
  intro α x primitive
  cases primitive with
  | readReg env r => exact .readReg env r
  | writeReg v listed => exact .writeReg v (more listed)
  | storeMem value inside => exact .storeMem value (inside.trans larger)
  | getInstance => exact .getInstance
  | setInstance same mask => exact .setInstance same fun silent => mask (mt (@more .ids) silent)

theorem touches_xilAssert (expression : Prop) [Decidable expression] (dflt : α) {rest : Prog α}
    (body : Touches regs place rest) :
    Touches regs place (xilAssert env expression dflt rest) := by
  apply Built.ite body
  cases env.asserts with
  | compiledOut => exact body
  | waiting => exact .throw _
  | returning => exact .pure dflt

theorem touches_readReg (r : Register) : Touches regs place (readReg env r) :=
  .basic (.readReg env r)

theorem touches_writeReg {r : Register} (v : BitVec 32) (listed : r ∈ regs) :
    Touches regs place (writeReg r v) := .basic (.writeReg v listed)

theorem touches_storeMem {a : BitVec 64} {width : ℕ} (value : ℕ) (inside : block a width ⊆ place) :
    Touches regs place (storeMem a width value) := .basic (.storeMem value inside)

theorem touches_getInstance : Touches regs place getInstance := .basic .getInstance

theorem touches_setInstance {f : XZDma → XZDma} (same : ∀ i, (f i).config = i.config)
    (mask : ∀ i, (f i).intrMask = i.intrMask) : Touches regs place (setInstance f) :=
  .basic (.setInstance same fun _ => mask)

def resetRegisters : List Register :=
  [.ctrl2, .ids, .isr, .ctrl0, .ctrl1, .dataAttr, .dscrAttr, .totalByte, .srcDscrWord3,
    .dstDscrWord3]

theorem touches_disableIntr (mask : BitVec 32) :
    Touches resetRegisters place (disableIntr env mask) := by
  apply Built.bind (touches_readReg env _)
  intro current
  exact touches_writeReg _ (by decide)

theorem touches_totalByteClear : Touches resetRegisters place (totalByteClear env) := by
  apply Built.bind (touches_readReg env _)
  intro count
  exact touches_writeReg _ (by decide)

theorem touches_resetCoherence (isCacheCoherent : BitVec 8) :
    Touches resetRegisters place (resetCoherence isCacheCoherent) := by
  apply Built.ite
  · apply Built.andThen (touches_writeReg _ (by decide))
    apply Built.andThen (touches_writeReg _ (by decide))
    exact touches_writeReg _ (by decide)
  · exact .pure _

theorem touches_reset : Touches resetRegisters place (reset env) := by
  apply Built.bind touches_getInstance
  intro inst
  apply touches_xilAssert
  apply Built.andThen (touches_writeReg _ (by decide))
  apply Built.andThen (touches_disableIntr env _)
  apply Built.andThen (touches_writeReg _ (by decide))
  have disables : Register.ids ∈ resetRegisters := by decide
  have unset : Touches resetRegisters place (setInstance fun i => { i with intrMask := 0 }) :=
    .basic (.setInstance (fun _ => rfl) fun silent => absurd disables silent)
  apply Built.andThen unset
  apply Built.andThen (touches_writeReg _ (by decide))
  apply Built.andThen (touches_writeReg _ (by decide))
  apply Built.andThen (touches_writeReg _ (by decide))
  apply Built.andThen (touches_writeReg _ (by decide))
  apply Built.andThen (touches_totalByteClear env)
  apply Built.bind (touches_readReg env _)
  intro srcIntrCnt
  apply Built.bind (touches_readReg env _)
  intro dstIntrCnt
  apply Built.andThen (touches_resetCoherence _)
  exact touches_setInstance (fun _ => rfl) fun _ => rfl

theorem touches_getConfigurations : Touches regs place getConfigurations :=
  touches_setInstance (fun _ => rfl) fun _ => rfl

theorem touches_selfTest : Touches [.ctrl0] place (selfTest env) := by
  apply Built.bind (touches_readReg env _)
  intro data
  apply Built.andThen (touches_writeReg _ (by decide))
  apply Built.bind (touches_readReg env _)
  intro changed
  apply Built.andThen (touches_writeReg _ (by decide))
  exact .pure _

theorem touches_setMode (isSgDma : BitVec 8) (mode : Mode) :
    Touches [.ctrl0] place (setMode env isSgDma mode) := by
  have select (value : BitVec 32) (flag : BitVec 8) :
      Touches [.ctrl0] place
        (do writeReg .ctrl0 value
            setInstance fun i => { i with isSgDma := flag, mode := mode }
            pure xstSuccess) := by
    apply Built.andThen (touches_writeReg _ (by decide))
    refine Built.andThen (touches_setInstance (fun _ => rfl) fun _ => rfl) ?_
    exact .pure _
  apply touches_xilAssert
  apply Built.bind touches_getInstance
  intro inst
  apply Built.ite (.pure _)
  apply Built.bind (touches_readReg env _)
  intro data
  apply Built.ite (select _ _)
  exact Built.ite (.pure _) (select _ _)

theorem touches_setChDataConfig (configure : DataConfig) :
    Touches [.ctrl0, .ctrl1, .dataAttr] place (setChDataConfig env configure) := by
  apply Built.bind touches_getInstance
  intro inst
  apply Built.ite (.pure _)
  refine Built.andThen (touches_setInstance (fun _ => rfl) fun _ => rfl) ?_
  apply Built.bind (touches_readReg env _)
  intro ctrl0
  apply Built.andThen (touches_writeReg _ (by decide))
  apply Built.bind (touches_readReg env _)
  intro ctrl1
  apply Built.andThen (touches_writeReg _ (by decide))
  apply Built.bind (touches_readReg env _)
  intro dataAttr
  apply Built.andThen (touches_writeReg _ (by decide))
  exact .pure _

theorem touches_setChDscrConfig (configure : DscrConfig) :
    Touches [.dscrAttr] place (setChDscrConfig configure) := by
  apply Built.bind touches_getInstance
  intro inst
  apply Built.ite (.pure _)
  refine Built.andThen (touches_setInstance (fun _ => rfl) fun _ => rfl) ?_
  apply Built.andThen (touches_writeReg _ (by decide))
  exact .pure _

theorem touches_createBDList (typeOfDscr : DscrType) (dscrMemPtr descrPhysMemPtr : BitVec 64)
    (noOfBytes : BitVec 32) :
    Touches [] place (createBDList env typeOfDscr dscrMemPtr descrPhysMemPtr noOfBytes) := by
  apply touches_xilAssert
  apply touches_xilAssert
  refine Built.andThen (touches_setInstance (fun _ => rfl) fun _ => rfl) ?_
  exact .pure _

theorem touches_resume : Touches [.ctrl0] place (resume env) := by
  apply Built.bind touches_getInstance
  intro inst
  apply touches_xilAssert
  apply touches_xilAssert
  apply Built.bind (touches_readReg env _)
  intro value
  refine Built.andThen (touches_setInstance (fun _ => rfl) fun _ => rfl) ?_
  exact touches_writeReg _ (by decide)

theorem touches_enable : Touches [.ien, .ctrl2] place enable := by
  apply Built.bind touches_getInstance
  intro inst
  apply Built.andThen (touches_writeReg _ (by decide))
  refine Built.andThen (touches_setInstance (fun _ => rfl) fun _ => rfl) ?_
  exact touches_writeReg _ (by decide)

end Programs

section Lists

variable {regs : List Register} {place : Set (BitVec 64)} (env : Env)

theorem block_field_subset {p : BitVec 64} {o width size : ℕ} (room : o + width ≤ size)
    (fits : size ≤ 2 ^ 64) : block (p + BitVec.ofNat 64 o) width ⊆ block p size := by
  have fields := block_offset_subset p (Nat.zero_le o) (by omega : o + width ≤ 0 + size) (by omega)
  rwa [block_offset_zero] at fields

theorem touches_configLinear {dscrPtr : BitVec 64} (addr : BitVec 64) (size ctrlValue : BitVec 32)
    (inside : block dscrPtr 16 ⊆ place) :
    Touches regs place (configLinear env dscrPtr addr size ctrlValue) := by
  have field (o width : ℕ) (room : o + width ≤ 16) :
      block (dscrPtr + BitVec.ofNat 64 o) width ⊆ place :=
    (block_field_subset room (by decide)).trans inside
  have first := field 0 8 (by decide)
  rw [block_offset_zero] at first
  apply touches_xilAssert
  apply touches_xilAssert
  apply Built.andThen (touches_storeMem _ first)
  apply Built.andThen (touches_storeMem _ (field 8 4 (by decide)))
  exact touches_storeMem _ (field 12 4 (by decide))

theorem touches_linearMode (data : Transfer) {src dst : BitVec 64} (isLast : Bool)
    (srcInside : block src 16 ⊆ place) (dstInside : block dst 16 ⊆ place) :
    Touches regs place (linearMode env data src dst isLast) := by
  apply touches_xilAssert
  apply touches_xilAssert
  apply Built.andThen (touches_configLinear env _ _ _ srcInside)
  exact touches_configLinear env _ _ _ dstInside

theorem touches_configLinkedList {dscrPtr : BitVec 64} (addr : BitVec 64)
    (size ctrlValue : BitVec 32) (next : BitVec 64) (inside : block dscrPtr 32 ⊆ place) :
    Touches regs place (configLinkedList env dscrPtr addr size ctrlValue next) := by
  have field (o width : ℕ) (room : o + width ≤ 32) :
      block (dscrPtr + BitVec.ofNat 64 o) width ⊆ place :=
    (block_field_subset room (by decide)).trans inside
  have first := field 0 8 (by decide)
  rw [block_offset_zero] at first
  apply touches_xilAssert
  apply touches_xilAssert
  apply Built.andThen (touches_storeMem _ first)
  apply Built.andThen (touches_storeMem _ (field 8 4 (by decide)))
  apply Built.andThen (touches_storeMem _ (field 12 4 (by decide)))
  apply Built.andThen (touches_storeMem _ (field 16 8 (by decide)))
  exact touches_storeMem _ (field 24 8 (by decide))

theorem touches_linkedListMode (data : Transfer) {src dst : BitVec 64} (isLast : Bool)
    (srcInside : block src 32 ⊆ place) (dstInside : block dst 32 ⊆ place) :
    Touches regs place (linkedListMode env data src dst isLast) := by
  apply touches_xilAssert
  apply touches_xilAssert
  apply Built.andThen (touches_configLinkedList env _ _ _ _ srcInside)
  exact touches_configLinkedList env _ _ _ _ dstInside

/-- The loop runs its body for the counts below `num`, and for the first count anyway. -/
theorem touches_dscrLoop {mode : Transfer → BitVec 64 → BitVec 64 → Bool → Prog Unit}
    {stride src dst : BitVec 64} {num : BitVec 32} (data : ℕ → Transfer)
    (body : ∀ i, i = 0 ∨ i < num.toNat → ∀ isLast, Touches regs place (mode (data i)
      (src + BitVec.ofNat 64 i * stride) (dst + BitVec.ofNat 64 i * stride) isLast))
    (fuel i : ℕ) (last : Bool) (now : i = 0 ∨ i < num.toNat) :
    Touches regs place (dscrLoop mode stride data num fuel (BitVec.ofNat 32 i) last i
      (src + BitVec.ofNat 64 i * stride) (dst + BitVec.ofNat 64 i * stride)) := by
  have wide := num.isLt
  induction fuel generalizing i last with
  | zero => exact .throw _
  | succ fuel ih =>
    have next : BitVec.ofNat 32 i + 1 < num ↔ i + 1 < num.toNat := by bv_omega
    have count : BitVec.ofNat 32 i + 1 = BitVec.ofNat 32 (i + 1) := (BitVec.ofNat_add i 1).symm
    have step (p : BitVec 64) : p + BitVec.ofNat 64 i * stride + stride =
        p + BitVec.ofNat 64 (i + 1) * stride := by
      rw [BitVec.ofNat_add, BitVec.add_mul, ← BitVec.add_assoc]
      simp
    apply Built.andThen (body i now _)
    by_cases again : i + 1 < num.toNat
    · rw [if_pos (next.mpr again), count, step, step]
      exact ih (i + 1) _ (.inr again)
    · rw [if_neg (mt next.mp again)]
      exact .pure _

def Descriptor.Within (dscr : Descriptor) (num : BitVec 32) (place : Set (BitVec 64)) : Prop :=
  let size := if dscr.dscrType = .linear then 16 else 32
  ∀ i, i = 0 ∨ i < num.toNat →
    block (dscr.srcDscrPtr + BitVec.ofNat 64 i * BitVec.ofNat 64 size) size ⊆ place ∧
      block (dscr.dstDscrPtr + BitVec.ofNat 64 i * BitVec.ofNat 64 size) size ⊆ place

theorem Descriptor.within_univ (dscr : Descriptor) (num : BitVec 32) :
    dscr.Within num Set.univ := fun _ _ => ⟨Set.subset_univ _, Set.subset_univ _⟩

theorem touches_writeDescriptors {dscr : Descriptor} (data : ℕ → Transfer) {num : BitVec 32}
    (within : dscr.Within num place) :
    Touches regs place (writeDescriptors env dscr data num) := by
  have first (p stride : BitVec 64) : p = p + BitVec.ofNat 64 0 * stride := by
    rw [show BitVec.ofNat 64 0 = 0#64 from rfl, BitVec.zero_mul, BitVec.add_zero]
  unfold writeDescriptors
  by_cases linear : dscr.dscrType = .linear
  · simp only [Descriptor.Within, linear, ite_true] at within
    rw [if_pos linear, first dscr.srcDscrPtr 16, first dscr.dstDscrPtr 16]
    refine touches_dscrLoop data ?_ _ 0 _ (.inl rfl)
    exact fun i now isLast => touches_linearMode env _ isLast (within i now).1 (within i now).2
  · simp only [Descriptor.Within, linear, ite_false] at within
    rw [if_neg linear, first dscr.srcDscrPtr 32, first dscr.dstDscrPtr 32]
    refine touches_dscrLoop data ?_ _ 0 _ (.inl rfl)
    exact fun i now isLast => touches_linkedListMode env _ isLast (within i now).1 (within i now).2

def simpleRegisters : List Register :=
  [.srcDscrWord0, .srcDscrWord1, .srcDscrWord2, .srcDscrWord3,
    .dstDscrWord0, .dstDscrWord1, .dstDscrWord2, .dstDscrWord3]

theorem touches_simpleMode (data : Transfer) : Touches simpleRegisters place (simpleMode data) := by
  apply Built.andThen (touches_writeReg _ (by decide))
  apply Built.andThen (touches_writeReg _ (by decide))
  apply Built.andThen (touches_writeReg _ (by decide))
  apply Built.andThen (touches_writeReg _ (by decide))
  apply Built.andThen (touches_writeReg _ (by decide))
  apply Built.andThen (touches_writeReg _ (by decide))
  apply Built.andThen (touches_writeReg _ (by decide))
  exact touches_writeReg _ (by decide)

theorem touches_fillTables {dscr : Descriptor} (data : ℕ → Transfer) {num : BitVec 32}
    (within : dscr.Within num place) :
    Touches startRegisters place
      (do writeDescriptors env dscr data num
          writeReg .srcStartLsb (startLsb dscr.physSrcDscrPtr)
          writeReg .srcStartMsb (startMsb dscr.physSrcDscrPtr)
          writeReg .dstStartLsb (startLsb dscr.physDstDscrPtr)
          writeReg .dstStartMsb (startMsb dscr.physDstDscrPtr)) := by
  apply Built.andThen (touches_writeDescriptors env data within)
  apply Built.andThen (touches_writeReg _ (by decide))
  apply Built.andThen (touches_writeReg _ (by decide))
  apply Built.andThen (touches_writeReg _ (by decide))
  exact touches_writeReg _ (by decide)

theorem touches_start (data : ℕ → Transfer) (num : BitVec 32) :
    Touches listRegisters Set.univ (start env data num) := by
  have simple : simpleRegisters ⊆ listRegisters := by decide
  have starts : startRegisters ⊆ listRegisters := by decide
  apply touches_xilAssert
  apply Built.bind touches_getInstance
  intro inst
  apply Built.ite (.pure _)
  apply Built.ite
  · apply Built.andThen ((touches_simpleMode (data 0)).mono simple subset_rfl)
    exact .pure _
  · apply Built.andThen
    · apply touches_xilAssert
      apply Built.bind touches_getInstance
      intro inst
      exact (touches_fillTables env data (inst.descriptor.within_univ num)).mono starts subset_rfl
    · exact .pure _

end Lists

/-- `t` is `s`, but for the registers of `regs`, the bytes of `place` and the instance, of which
    the configuration is kept, and the interrupt mask unless interrupts are disabled. -/
structure Within (regs : List Register) (place : Set (BitVec 64)) (s t : System) : Prop where
  config : t.dma.config = s.dma.config
  intrMask : .ids ∉ regs → t.dma.intrMask = s.dma.intrMask
  process : t.process = s.process
  clock : t.machine.fpdDmaRefCtrl = s.machine.fpdDmaRefCtrl
  io : ∀ a, (∀ r ∈ regs, a ≠ s.addr r) → t.machine.io a = s.machine.io a
  mem : Set.EqOn t.machine.mem s.machine.mem placeᶜ

/-- What the channel at `base`, its instance and the bytes of `own` show of two states. -/
structure SameView (base : BitVec 64) (own : Set (BitVec 64)) (s s' : System) : Prop where
  dma : s'.dma = s.dma
  regs : ∀ r, s'.machine.channelReg base r = s.machine.channelReg base r
  mem : Set.EqOn s'.machine.mem s.machine.mem own
  log : s'.machine.log = s.machine.log

structure SameChannelView (base : BitVec 64) (own : Set (BitVec 64)) (s s' : System) : Prop
    extends SameView base own s s' where
  channel : s.dma.config.baseAddress = base

section Effects

variable {regs : List Register} {place own : Set (BitVec 64)} {base : BitVec 64} {s t u : System}

theorem Within.refl (s : System) : Within regs place s s :=
  ⟨rfl, fun _ => rfl, rfl, rfl, fun _ _ => rfl, Set.eqOn_refl _ _⟩

theorem Within.trans (first : Within regs place s t) (second : Within regs place t u) :
    Within regs place s u where
  config := second.config.trans first.config
  intrMask silent := (second.intrMask silent).trans (first.intrMask silent)
  process := second.process.trans first.process
  clock := second.clock.trans first.clock
  io a other := by
    rw [second.io a, first.io a other]
    intro r listed
    rw [System.addr, first.config]
    exact other r listed
  mem := second.mem.trans first.mem

instance : Std.Refl (Within regs place) := ⟨.refl⟩

instance : IsTrans System (Within regs place) := ⟨fun _ _ _ => .trans⟩

theorem Within.reg {r : Register} (within : Within regs place s t) (other : r ∉ regs) :
    t.reg r = s.reg r := by
  rw [System.reg, System.addr, within.config]
  apply within.io
  intro r' listed same
  rw [System.addr, Register.address_inj] at same
  exact other (same ▸ listed)

theorem store_eqOn_compl {mem : BitVec 64 → BitVec 8} {a : BitVec 64} {width : ℕ} (value : ℕ)
    (inside : block a width ⊆ place) : Set.EqOn (Base.store mem a width value) mem placeᶜ := by
  intro x outside
  have other : ¬ (x - a).toNat < width := fun member => outside (inside member)
  rw [Base.store, if_neg other]

theorem store_eqOn {mem mem' : BitVec 64 → BitVec 8} (a : BitVec 64) (width value : ℕ)
    (same : Set.EqOn mem' mem own) :
    Set.EqOn (Base.store mem' a width value) (Base.store mem a width value) own := by
  intro x inside
  simp only [Base.store, same inside]

theorem Primitive.within {α : Type} {x : Prog α} (primitive : Primitive regs place α x)
    (s : System) : Within regs place s (finalState (x s)) := by
  cases primitive with
  | readReg env r => exact ⟨rfl, fun _ => rfl, rfl, rfl, fun _ _ => rfl, Set.eqOn_refl _ _⟩
  | writeReg v listed =>
    refine ⟨rfl, fun _ => rfl, rfl, rfl, ?_, Set.eqOn_refl _ _⟩
    exact fun a other => Function.update_of_ne (other _ listed) _ _
  | storeMem value inside =>
    exact ⟨rfl, fun _ => rfl, rfl, rfl, fun _ _ => rfl, store_eqOn_compl value inside⟩
  | getInstance => exact .refl s
  | setInstance same mask =>
    exact ⟨same s.dma, fun silent => mask silent s.dma, rfl, rfl, fun _ _ => rfl,
      Set.eqOn_refl _ _⟩

theorem Touches.within {α : Type} {x : Prog α} (touches : Touches regs place x) (s : System) :
    Within regs place s (finalState (x s)) :=
  Built.along touches (fun _ _ primitive => primitive.within) s

theorem Touches.of_ok {α : Type} {x : Prog α} {a : α} (touches : Touches regs place x)
    (run : x s = .ok a t) : Within regs place s t := by
  have within := touches.within s
  rwa [run] at within

theorem Within.mono {regs' : List Register} {place' : Set (BitVec 64)}
    (within : Within regs place s t) (more : regs ⊆ regs') (larger : place ⊆ place') :
    Within regs' place' s t where
  config := within.config
  intrMask silent := within.intrMask (mt (@more .ids) silent)
  process := within.process
  clock := within.clock
  io a other := within.io a fun r listed => other r (more listed)
  mem := within.mem.mono (Set.compl_subset_compl.mpr larger)

theorem Within.bind {α β : Type} {x : Prog α} {f : α → Prog β}
    (first : Within regs place s (finalState (x s)))
    (rest : ∀ a t, x s = .ok a t → Within regs place t (finalState (f a t))) :
    Within regs place s (finalState ((x >>= f) s)) := by
  rw [bind_run]
  cases run : x s with
  | ok a t =>
    rw [run] at first
    exact first.trans (rest a t run)
  | error e t =>
    rw [run] at first
    exact first

theorem xilAssert_within {α : Type} (env : Env) (expression : Prop) [Decidable expression]
    (dflt : α) {rest : Prog α} (body : Within regs place s (finalState (rest s))) :
    Within regs place s (finalState (xilAssert env expression dflt rest s)) := by
  unfold xilAssert
  by_cases holds : expression
  · rw [if_pos holds]
    exact body
  · rw [if_neg holds]
    cases env.asserts with
    | compiledOut => exact body
    | waiting => exact .refl s
    | returning => exact .refl s

theorem start_within (env : Env) (data : ℕ → Transfer) {num : BitVec 32}
    (tables : s.dma.descriptor.Within num place) :
    Within listRegisters place s (finalState (start env data num s)) := by
  have simple : simpleRegisters ⊆ listRegisters := by decide
  have starts : startRegisters ⊆ listRegisters := by decide
  apply xilAssert_within
  rw [bind_ok _ (getInstance_run s)]
  split
  · exact .refl s
  · split
    · refine Within.bind ?_ fun _ t _ => .refl t
      exact ((touches_simpleMode (data 0)).within s).mono simple subset_rfl
    · refine Within.bind ?_ fun _ t _ => .refl t
      apply xilAssert_within
      rw [bind_ok _ (getInstance_run s)]
      exact ((touches_fillTables env data tables).within s).mono starts subset_rfl

/-- The program sees no more than its channel, its instance and what it stores itself. -/
theorem Touches.parallel {α : Type} {x : Prog α} (touches : Touches regs place x) :
    Parallel (SameChannelView base own) x := by
  apply Built.parallel touches
  rintro α x primitive s s' ⟨⟨dma, same, mem, log⟩, channel⟩
  have channel' : s'.dma.config.baseAddress = base := by rw [dma, channel]
  have addr (r : Register) : s'.addr r = s.addr r := by rw [System.addr, System.addr, dma]
  have reg (r : Register) : s'.reg r = s.reg r := by
    rw [← System.channelReg_eq s' r channel', ← System.channelReg_eq s r channel, same]
  cases primitive with
  | readReg env r =>
    rw [readReg_run, readReg_run, addr, reg]
    refine .ok _ ⟨⟨dma, same, mem, ?_⟩, channel⟩
    rw [System.read_log, System.read_log, dma, log]
  | @writeReg r v listed =>
    refine .ok _ ⟨⟨dma, ?_, mem, ?_⟩, channel⟩
    · intro r'
      rw [System.channelReg_eq (s'.write r v) r' channel',
        System.channelReg_eq (s.write r v) r' channel, System.write_reg, System.write_reg, reg]
    · rw [System.write_log, System.write_log, dma, log]
  | @storeMem a width value inside =>
    refine .ok _ ⟨⟨dma, same, store_eqOn a width value mem, ?_⟩, channel⟩
    show _ :: s'.machine.log = _ :: s.machine.log
    rw [log]
  | getInstance =>
    rw [getInstance_run, getInstance_run, dma]
    exact .ok _ ⟨⟨dma, same, mem, log⟩, channel⟩
  | @setInstance f kept =>
    refine .ok _ ⟨⟨congrArg f dma, same, mem, log⟩, ?_⟩
    rw [System.withDma_dma, kept, channel]

end Effects

end XZDma

end ZynqmpDma
