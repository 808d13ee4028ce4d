import ZynqmpDma.XZDma.DeviceCalls

namespace ZynqmpDma

open Base XZDma

/-- The interrupt mask register of the channel at `base` after an access: a bit that is written to
    the enable register is cleared in it, one that is written to the disable register is set. -/
def Event.masking (base : BitVec 64) (imr : BitVec 32) : Event → BitVec 32
  | .write a v =>
    if a = base + Register.offset .ien then imr &&& ~~~v
    else if a = base + Register.offset .ids then imr ||| v
    else imr
  | _ => imr

def maskAfter (base : BitVec 64) (log : List Event) (imr : BitVec 32) : BitVec 32 :=
  log.foldr (fun e imr => e.masking base imr) imr

structure Masked where
  system : System
  imr : BitVec 32

namespace Masked

variable (b : Masked)

def logged (t : System) : Masked where
  system := t
  imr := maskAfter t.dma.config.baseAddress t.machine.log b.imr

def unmasked : BitVec 32 := ~~~b.imr &&& ixrAllIntrMask

end Masked

namespace XZDma

def masking {α : Type} (x : Prog α) : EStateM Stuck Masked α := fun b =>
  match x b.system.clearLog with
  | .ok a t => .ok a (b.logged t)
  | .error e t => .error e (b.logged t)

abbrev MaskedVisit := Visit Stuck Masked ℤ DeviceCall

/-- The interrupts that were asked for, and not reset since. -/
def asked (mask : BitVec 32) (i : XZDma) : DeviceCall → BitVec 32
  | .enableIntr more => mask ||| more
  | .operation (.reset env) => if (Operation.reset env).Effective i then 0 else mask
  | _ => mask

def askedFor (past : List MaskedVisit) : BitVec 32 :=
  past.foldl (fun mask visit => asked mask visit.before.system.dma visit.call) 0

def Quiet (base : BitVec 64) (e : Event) : Prop :=
  ∀ v, e ≠ .write (base + Register.offset .ien) v ∧ e ≠ .write (base + Register.offset .ids) v

section Log

variable {regs : List Register} {place : Set (BitVec 64)} {s t : System}

theorem quiet_read (base a : BitVec 64) : Quiet base (.read a) :=
  fun _ => ⟨Event.noConfusion, Event.noConfusion⟩

theorem quiet_store (base a : BitVec 64) (width : ℕ) : Quiet base (.store a width) :=
  fun _ => ⟨Event.noConfusion, Event.noConfusion⟩

theorem quiet_write {base offset : BitVec 64} (v : BitVec 32)
    (ien : offset ≠ Register.offset .ien) (ids : offset ≠ Register.offset .ids) :
    Quiet base (.write (base + offset) v) := by
  intro v'
  constructor
  · intro same
    exact ien ((BitVec.add_right_inj base).mp (Event.write.inj same).1)
  · intro same
    exact ids ((BitVec.add_right_inj base).mp (Event.write.inj same).1)

theorem maskAfter_quiet {base : BitVec 64} {log : List Event} (imr : BitVec 32)
    (quiet : ∀ e ∈ log, Quiet base e) : maskAfter base log imr = imr := by
  induction log with
  | nil => rfl
  | cons e log ih =>
    have later := ih fun e member => quiet e (List.mem_cons_of_mem _ member)
    have silent := quiet e List.mem_cons_self
    change e.masking base (maskAfter base log imr) = imr
    rw [later]
    cases e with
    | read | store => rfl
    | write a v =>
      have ien : a ≠ base + Register.offset .ien := by
        rintro rfl
        exact (silent v).1 rfl
      have ids : a ≠ base + Register.offset .ids := by
        rintro rfl
        exact (silent v).2 rfl
      rw [Event.masking, if_neg ien, if_neg ids]

theorem Primitive.quiet {α : Type} {x : Prog α} (primitive : Primitive regs place α x)
    (ien : .ien ∉ regs) (ids : .ids ∉ regs) (s : System) :
    Accesses Quiet s (finalState (x s)) := by
  cases primitive with
  | readReg env r => exact ⟨rfl, rfl, [_], rfl, List.forall_mem_singleton.mpr (quiet_read _ _)⟩
  | @writeReg r v listed =>
    have notIen : r.offset ≠ Register.offset .ien :=
      mt (Register.offset_inj _ _).mp fun same => ien (same ▸ listed)
    have notIds : r.offset ≠ Register.offset .ids :=
      mt (Register.offset_inj _ _).mp fun same => ids (same ▸ listed)
    exact ⟨rfl, rfl, [_], rfl, List.forall_mem_singleton.mpr (quiet_write v notIen notIds)⟩
  | storeMem value inside =>
    exact ⟨rfl, rfl, [_], rfl, List.forall_mem_singleton.mpr (quiet_store _ _ _)⟩
  | getInstance => exact .refl s
  | setInstance same mask =>
    exact ⟨congrArg Config.baseAddress (same s.dma), rfl, [], rfl, by simp⟩

theorem body_quiet (op : Operation) (ien : .ien ∉ op.registers) (ids : .ids ∉ op.registers)
    (s : System) : Accesses Quiet s (finalState (op.body s)) := by
  refine body_along op (fun α x primitive s => primitive.quiet ien ids s) ?_ s
  exact fun _ s status => ⟨rfl, rfl, [], rfl, by simp⟩

theorem logged_quiet {b : Masked} (accesses : Accesses Quiet b.system.clearLog t) :
    (b.logged t).imr = b.imr := by
  obtain ⟨new, log, quiet⟩ := accesses.log
  rw [System.clearLog_log, List.append_nil] at log
  rw [Masked.logged, log, accesses.base]
  exact maskAfter_quiet b.imr quiet

end Log

section Steps

variable {b c : Masked} {a : ℤ}

theorem masking_ok {α : Type} {x : Prog α} {a : α} (run : masking x b = .ok a c) :
    ∃ t, x b.system.clearLog = .ok a t ∧ c = b.logged t := by
  rw [masking] at run
  cases first : x b.system.clearLog with
  | ok a' t =>
    simp only [first] at run
    cases run
    exact ⟨t, rfl, rfl⟩
  | error e t => simp only [first, reduceCtorEq] at run

theorem masked_all (imr current all : BitVec 32) :
    ~~~(imr ||| (current ||| (all &&& all))) &&& all = 0 := by
  have bits : ∀ m c a : Bool, (!(m || (c || (a && a))) && a) = false := by decide
  ext i
  simp only [BitVec.getElem_and, BitVec.getElem_or, BitVec.getElem_not, bits]
  exact (BitVec.getElem_zero ‹_›).symm

theorem unmasked_more (imr mask all : BitVec 32) :
    ~~~(imr &&& ~~~(mask &&& all)) &&& all = ~~~imr &&& all ||| mask &&& all := by
  have bits : ∀ m v a : Bool, (!(m && !(v && a)) && a) = (!m && a || v && a) := by decide
  ext i
  simp only [BitVec.getElem_and, BitVec.getElem_or, BitVec.getElem_not, bits]

theorem reset_masks {env : Env} {s t : System} {u : Unit} (imr : BitVec 32)
    (fresh : s.machine.log = []) (idle : Passes env (s.dma.channelState = .idle))
    (run : reset env s = .ok u t) :
    ~~~maskAfter t.dma.config.baseAddress t.machine.log imr &&& ixrAllIntrMask = 0 ∧
      t.dma.intrMask = 0 := by
  unfold reset at run
  rw [bind_ok _ (getInstance_run _), xilAssert_passes _ _ idle] at run
  by_cases noncoherent : s.dma.config.isCacheCoherent = 0
  · simp only [bind_run, disableCh, disableIntr, intrClear, totalByteClear, getSrcIntrCnt,
      getDstIntrCnt, readReg_run, writeReg_run, setInstance_run, resetCoherence, noncoherent,
      ne_eq, not_true_eq_false, ite_false, pure_run] at run
    cases run
    refine ⟨?_, rfl⟩
    simp only [maskAfter, System.write_log, System.read_log, System.withDma_machine,
      System.withDma_dma, System.write_dma, System.read_dma, List.foldr_cons, Event.masking,
      Register.address_inj, reduceCtorEq, ite_true, ite_false, fresh, List.foldr_nil, masked_all]
  · simp only [bind_run, disableCh, disableIntr, intrClear, totalByteClear, getSrcIntrCnt,
      getDstIntrCnt, readReg_run, writeReg_run, setInstance_run, resetCoherence, ne_eq,
      noncoherent, not_false_eq_true, ite_true] at run
    cases run
    refine ⟨?_, rfl⟩
    simp only [maskAfter, System.write_log, System.read_log, System.withDma_machine,
      System.withDma_dma, System.write_dma, System.read_dma, List.foldr_cons, Event.masking,
      Register.address_inj, reduceCtorEq, ite_true, ite_false, fresh, List.foldr_nil, masked_all]

theorem disableIntr_unmasked {env : Env} {mask : BitVec 32} (i : ℕ)
    (reaches : (b.logged (finalState (disableIntr env mask b.system.clearLog))).unmasked.getLsbD i =
      true) : b.unmasked.getLsbD i = true := by
  simp only [Masked.unmasked, Masked.logged, maskAfter, disableIntr, bind_run, readReg_run,
    writeReg_run, finalState_ok, System.write_log, System.read_log, System.write_dma,
    System.read_dma, System.clearLog_log, List.foldr_cons, List.foldr_nil, Event.masking,
    Register.address_inj, reduceCtorEq, ite_true, ite_false, BitVec.getLsbD_and,
    BitVec.getLsbD_not, BitVec.getLsbD_or, Bool.and_eq_true, Bool.not_or] at reaches ⊢
  exact ⟨⟨reaches.1.1, reaches.1.2.1⟩, reaches.2⟩

theorem enable_body {s t : System} (run : Operation.enable.body s = .ok a t) :
    t = s.enabled.takeUp s.dma.config.baseAddress := by
  rw [Operation.body, bind_ok _ (enable_run s)] at run
  cases run
  rfl

theorem enable_unmasks {t : System} (ran : Operation.enable.body b.system.clearLog = .ok a t) :
    (b.logged t).unmasked = b.unmasked ||| b.system.dma.intrMask &&& ixrAllIntrMask := by
  rw [enable_body ran]
  simp only [Masked.unmasked, Masked.logged, maskAfter, System.takeUp_log, System.takeUp_dma,
    System.enabled, System.write_log, System.withDma_machine, System.withDma_dma,
    System.write_dma, System.clearLog_dma, List.foldr_cons, Event.masking,
    Register.address_inj, reduceCtorEq, ite_true, ite_false, System.clearLog_log,
    List.foldr_nil, unmasked_more]

theorem steps_writeWord {E : Stuck → Prop} (i : Fin 4) (value : BitVec 32) :
    Steps (Accesses Quiet) E (writeWord i value) where
  along s := by
    refine ⟨rfl, rfl, [_], rfl, List.forall_mem_singleton.mpr ?_⟩
    exact quiet_write value (wrOnlyWordOffset_ne i .ien) (wrOnlyWordOffset_ne i .ids)
  stuck := by
    intro s e t run
    cases run

theorem steps_woData {E : Stuck → Prop} (buffer : ℕ → BitVec 32) :
    Steps (Accesses Quiet) E (woData buffer) := by
  apply Steps.bind steps_getInstance
  intro inst
  apply Steps.ite
  · apply Steps.andThen (steps_writeWord 0 _)
    apply Steps.andThen (steps_writeWord 1 _)
    apply Steps.andThen (steps_writeWord 2 _)
    exact steps_writeWord 3 _
  · apply Steps.andThen (steps_writeWord 0 _)
    exact steps_writeWord 1 _

structure OnlyAsked (mask : BitVec 32) (b : Masked) : Prop where
  kept : b.system.dma.intrMask = mask
  only : ∀ i, b.unmasked.getLsbD i = true → mask.getLsbD i = true

theorem OnlyAsked.same {mask : BitVec 32} {t : System} (before : OnlyAsked mask b)
    (kept : t.dma.intrMask = b.system.dma.intrMask) (imr : (b.logged t).imr = b.imr) :
    OnlyAsked mask (b.logged t) where
  kept := kept.trans before.kept
  only := by
    rw [Masked.unmasked, imr]
    exact before.only

theorem OnlyAsked.quiet {mask : BitVec 32} {op : Operation} {t : System}
    (before : OnlyAsked mask b) (ran : op.body b.system.clearLog = .ok a t)
    (ien : .ien ∉ op.registers) (ids : .ids ∉ op.registers) : OnlyAsked mask (b.logged t) := by
  have within := body_within op b.system.clearLog
  have quiet := body_quiet op ien ids b.system.clearLog
  rw [ran] at within quiet
  exact before.same (within.intrMask ids) (logged_quiet quiet)

theorem OnlyAsked.enable {mask : BitVec 32} {t : System} (before : OnlyAsked mask b)
    (ran : Operation.enable.body b.system.clearLog = .ok a t) :
    OnlyAsked mask (b.logged t) ∧ (b.logged t).unmasked = mask &&& ixrAllIntrMask := by
  have unmasked : (b.logged t).unmasked = mask &&& ixrAllIntrMask := by
    rw [enable_unmasks ran, before.kept]
    apply BitVec.eq_of_getLsbD_eq
    intro i _
    have asked := before.only i
    rw [Masked.unmasked, BitVec.getLsbD_and] at asked
    rw [BitVec.getLsbD_or, Masked.unmasked, BitVec.getLsbD_and, BitVec.getLsbD_and]
    revert asked
    generalize BitVec.getLsbD (~~~b.imr) i = u
    generalize BitVec.getLsbD mask i = m
    generalize BitVec.getLsbD ixrAllIntrMask i = a
    revert u m a
    decide
  refine ⟨⟨?_, ?_⟩, unmasked⟩
  · show t.dma.intrMask = mask
    rw [enable_body ran, System.takeUp_dma]
    exact before.kept
  · intro i reaches
    rw [unmasked, BitVec.getLsbD_and, Bool.and_eq_true] at reaches
    exact reaches.1

theorem step_onlyAsked {mask : BitVec 32} {call : DeviceCall} (before : OnlyAsked mask b)
    (run : masking call.body b = .ok a c) :
    OnlyAsked (asked mask b.system.dma call) c := by
  obtain ⟨t, ran, rfl⟩ := masking_ok run
  cases call with
  | operation op =>
    rw [DeviceCall.body] at ran
    cases op with
    | enable => exact (before.enable ran).1
    | reset env =>
      obtain ⟨_, u, done, returned⟩ := bind_ok_inv ran
      cases returned
      rw [asked]
      split
      · rename_i idle
        obtain ⟨unmasked, none⟩ := reset_masks b.imr b.system.clearLog_log idle done
        refine ⟨none, ?_⟩
        intro i reaches
        rw [show (b.logged t).unmasked = 0#32 from unmasked, BitVec.getLsbD_zero] at reaches
        cases reaches
      · rename_i other
        unfold reset at done
        rw [bind_ok _ (getInstance_run _)] at done
        rw [xilAssert_diverted done other]
        exact before.same rfl rfl
    | setMode | setChDataConfig | setChDscrConfig | createBDList | start | resume | channelState
    | selfTest | hardware =>
      apply before.quiet ran
      · rw [Operation.registers]
        decide
      · rw [Operation.registers]
        decide
  | woData buffer =>
    obtain ⟨_, u, set, done⟩ := bind_ok_inv ran
    cases done
    have steps : Steps (Accesses Quiet) (fun _ => True) (XZDma.woData buffer) :=
      steps_woData buffer
    have dma := woData_dma set
    exact before.same (congrArg XZDma.intrMask dma) (logged_quiet (steps.of_ok set))
  | enableIntr more =>
    cases ran
    refine ⟨congrArg (· ||| more) before.kept, ?_⟩
    intro i reaches
    rw [asked, BitVec.getLsbD_or, before.only i reaches, Bool.true_or]
  | disableIntr env less =>
    cases ran
    refine ⟨before.kept, ?_⟩
    intro i reaches
    exact before.only i (disableIntr_unmasked i reaches)
  | intrClear cleared =>
    have primitive : Primitive [.isr] Set.univ _ (XZDma.intrClear cleared) :=
      .writeReg _ (by decide)
    have quiet := primitive.quiet (by decide) (by decide) b.system.clearLog
    cases ran
    exact before.same rfl (logged_quiet quiet)

end Steps

section Runs

theorem initialized_onlyAsked (env : Env) (cfg : Config) (effectiveAddr : BitVec 64) (b : Masked)
    (mapped : Passes env (effectiveAddr ≠ 0)) :
    OnlyAsked 0 (finalState (masking (cfgInitialize env cfg effectiveAddr) b)) := by
  obtain ⟨t, run, _⟩ := reset_run env (pointed cfg effectiveAddr b.system.clearLog) (.inl rfl)
  obtain ⟨unmasked, none⟩ := reset_masks b.imr rfl (.inl rfl) run
  simp only [masking, cfgInitialize_of_reset mapped run, finalState_ok]
  refine ⟨none, ?_⟩
  intro i reaches
  change BitVec.getLsbD (~~~maskAfter t.dma.config.baseAddress t.machine.log b.imr &&&
    ixrAllIntrMask) i = true at reaches
  rw [show _ = 0#32 from unmasked, BitVec.getLsbD_zero] at reaches
  cases reaches

/-- An interrupt that was not asked for since the last reset never reaches the processor, and
    each enabling of the channel lets through all of those that were, whatever was disabled. -/
theorem run_interrupts (env : Env) (cfg : Config) (effectiveAddr : BitVec 64) (b : Masked)
    (calls : List DeviceCall) (mapped : Passes env (effectiveAddr ≠ 0))
    (past after : List MaskedVisit) (visit : MaskedVisit)
    (split : visits (fun call => masking call.body)
      (finalState (masking (cfgInitialize env cfg effectiveAddr) b)) calls =
        past ++ visit :: after) :
    (∀ i, visit.before.unmasked.getLsbD i = true → (askedFor past).getLsbD i = true) ∧
      ∀ a c, visit.call = .operation .enable → visit.outcome = .ok a c →
        c.unmasked = askedFor past &&& ixrAllIntrMask := by
  have keeps (mask : BitVec 32) (b : Masked) (call : DeviceCall) (a : ℤ) (c : Masked)
      (before : OnlyAsked mask b) (_ : True) (run : masking call.body b = .ok a c) :
      OnlyAsked (asked mask b.system.dma call) c := step_onlyAsked before run
  have begins := initialized_onlyAsked env cfg effectiveAddr b mapped
  have holds : OnlyAsked (askedFor past) visit.before :=
    visits_simulates (fun mask (v : MaskedVisit) => asked mask v.before.system.dma v.call) keeps
      begins (fun _ _ => trivial) split
  refine ⟨holds.only, ?_⟩
  intro a c enable run
  have member : visit ∈ visits (fun call => masking call.body)
      (finalState (masking (cfgInitialize env cfg effectiveAddr) b)) calls := by
    rw [split]
    exact List.mem_append_right _ List.mem_cons_self
  rw [visits_outcome member, enable] at run
  obtain ⟨t, ran, rfl⟩ := masking_ok run
  exact (holds.enable ran).2

/-- What is disabled and then enabled with the channel gets through again. -/
theorem run_interrupts_again :
    let b : Masked := finalState (masking
      (cfgInitialize (.ideal .waiting) ⟨0, 0, 0, 0⟩ 0xFFA80000) ⟨.blank, 0⟩)
    let b₁ := finalState (masking (DeviceCall.body (.enableIntr 0x400)) b)
    let b₂ := finalState (masking (DeviceCall.body (.disableIntr (.ideal .waiting) 0x400)) b₁)
    ∃ c, masking (DeviceCall.body (.operation .enable)) b₂ = .ok 0 c ∧ c.unmasked = 0x400 := by
  intro b b₁ b₂
  obtain ⟨c, returns⟩ : ∃ c, masking (DeviceCall.body (.operation .enable)) b₂ = .ok 0 c :=
    ⟨_, rfl⟩
  refine ⟨c, returns, ?_⟩
  exact (run_interrupts (.ideal .waiting) ⟨0, 0, 0, 0⟩ 0xFFA80000 ⟨.blank, 0⟩
    [.enableIntr 0x400, .disableIntr (.ideal .waiting) 0x400, .operation .enable]
    (.inl (by decide)) [_, _] [] ⟨b₂, _, _⟩ rfl).2 0 c rfl returns

end Runs

end XZDma

end ZynqmpDma
