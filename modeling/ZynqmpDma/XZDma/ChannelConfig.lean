import ZynqmpDma.Base.BitFields
import ZynqmpDma.XZDma.Modes

namespace ZynqmpDma

open Base XZDma

namespace XZDma

def getChDataConfig : Prog DataConfig := do
  let inst ← getInstance
  pure inst.dataConfig

def getChDscrConfig : Prog DscrConfig := do
  let inst ← getInstance
  pure inst.dscrConfig

inductive ConfigField
  | overFetch | srcIssue | srcBurstType | srcBurstLen | dstBurstType | dstBurstLen | srcCache
  | srcQos | dstCache | dstQos | axCoherent | axCache | axQos
deriving DecidableEq, Repr

namespace ConfigField

def all : List ConfigField :=
  [overFetch, srcIssue, srcBurstType, srcCache, srcQos, srcBurstLen, dstBurstType, dstCache,
    dstQos, dstBurstLen, axCoherent, axCache, axQos]

def register : ConfigField → Register
  | overFetch => .ctrl0
  | srcIssue => .ctrl1
  | axCoherent | axCache | axQos => .dscrAttr
  | _ => .dataAttr

def field : ConfigField → BitField 32
  | overFetch => ⟨ctrl0OvrFetchMask, ctrl0OvrFetchShift⟩
  | srcIssue => ⟨ctrl1SrcIssueMask, 0⟩
  | srcBurstType => ⟨dataAttrArburstMask, dataAttrArburstShift⟩
  | srcBurstLen => ⟨dataAttrArlenMask, dataAttrArlenShift⟩
  | dstBurstType => ⟨dataAttrAwburstMask, dataAttrAwburstShift⟩
  | dstBurstLen => ⟨dataAttrAwlenMask, 0⟩
  | srcCache => ⟨dataAttrArcacheMask, dataAttrArcacheShift⟩
  | srcQos => ⟨dataAttrArqosMask, dataAttrArqosShift⟩
  | dstCache => ⟨dataAttrAwcacheMask, dataAttrAwcacheShift⟩
  | dstQos => ⟨dataAttrAwqosMask, dataAttrAwqosShift⟩
  | axCoherent => ⟨dscrAttrAxcohrntMask, dscrAttrAxcohrntShift⟩
  | axCache => ⟨dscrAttrAxcacheMask, dscrAttrAxcacheShift⟩
  | axQos => ⟨dscrAttrAxqosMask, 0⟩

def value (data : DataConfig) (dscr : DscrConfig) : ConfigField → BitVec 32
  | overFetch => data.overFetch.setWidth 32
  | srcIssue => data.srcIssue.setWidth 32
  | srcBurstType => data.srcBurstType.toU32
  | srcBurstLen => data.srcBurstLen.setWidth 32
  | dstBurstType => data.dstBurstType.toU32
  | dstBurstLen => data.dstBurstLen.setWidth 32
  | srcCache => data.srcCache.setWidth 32
  | srcQos => data.srcQos.setWidth 32
  | dstCache => data.dstCache.setWidth 32
  | dstQos => data.dstQos.setWidth 32
  | axCoherent => dscr.axCoherent.setWidth 32
  | axCache => dscr.axCache.setWidth 32
  | axQos => dscr.axQos.setWidth 32

theorem value_data {f : ConfigField} (register : f.register ≠ .dscrAttr) (data : DataConfig)
    (dscr dscr' : DscrConfig) : f.value data dscr = f.value data dscr' := by
  cases f <;> first | rfl | exact absurd rfl register

theorem value_dscr {f : ConfigField} (register : f.register = .dscrAttr) (data data' : DataConfig)
    (dscr : DscrConfig) : f.value data dscr = f.value data' dscr := by
  cases f <;> first | rfl | cases register

def fields (r : Register) (data : DataConfig) (dscr : DscrConfig) : BitFields 32 :=
  (all.filter (·.register = r)).map fun f => (f.field, f.value data dscr)

variable (data : DataConfig) (dscr : DscrConfig) (f : ConfigField)

theorem mem_all : f ∈ all := by
  cases f <;> decide

theorem fields_apart (r : Register) :
    (fields r data dscr).Pairwise fun entry entry' => BitField.Apart entry.1 entry'.1 := by
  have apart : ∀ r ∈ Register.all, (all.filter (·.register = r)).Pairwise fun f g =>
      BitField.Apart f.field g.field := by decide
  exact List.pairwise_map.mpr (apart r r.mem_all)

theorem get_fields (v : BitVec 32) :
    f.field.get ((fields f.register data dscr).set v) = f.value data dscr &&& f.field.limit := by
  apply BitFields.get_set (fields_apart data dscr f.register)
  apply List.mem_map.mpr
  exact ⟨f, List.mem_filter.mpr ⟨f.mem_all, decide_eq_true rfl⟩, rfl⟩

theorem overFetchBits_eq (v : BitVec 32) :
    overFetchBits v data = (fields .ctrl0 data dscr).set v := by
  show _ = v &&& ~~~(ctrl0OvrFetchMask ||| 0#32) |||
    ((data.overFetch.setWidth 32 <<< ctrl0OvrFetchShift) &&& ctrl0OvrFetchMask ||| 0#32)
  rw [BitVec.or_zero, BitVec.or_zero, overFetchBits]

theorem srcIssueBits_eq (v : BitVec 32) :
    srcIssueBits v data = (fields .ctrl1 data dscr).set v := by
  show _ = v &&& ~~~(ctrl1SrcIssueMask ||| 0#32) |||
    ((data.srcIssue.setWidth 32 <<< 0) &&& ctrl1SrcIssueMask ||| 0#32)
  rw [BitVec.or_zero, BitVec.or_zero, BitVec.shiftLeft_zero, srcIssueBits]

theorem dataAttrBits_eq (v : BitVec 32) :
    v &&& ~~~dataAttrMask ||| dataAttrBits data = (fields .dataAttr data dscr).set v := by
  have list : fields .dataAttr data dscr = [srcBurstType, srcCache, srcQos, srcBurstLen,
      dstBurstType, dstCache, dstQos, dstBurstLen].map fun f => (f.field, f.value data dscr) := rfl
  have mask : (fields .dataAttr data dscr).mask = dataAttrMask := by
    rw [list]
    show dataAttrArburstMask ||| (dataAttrArcacheMask ||| (dataAttrArqosMask |||
      (dataAttrArlenMask ||| (dataAttrAwburstMask ||| (dataAttrAwcacheMask |||
        (dataAttrAwqosMask ||| (dataAttrAwlenMask ||| 0#32))))))) = dataAttrMask
    decide
  have pack : (fields .dataAttr data dscr).pack = dataAttrBits data := by
    rw [list]
    simp only [List.map_cons, List.map_nil, BitFields.pack, BitField.bits, field, value,
      dataAttrBits, BitVec.or_assoc, BitVec.or_zero, BitVec.shiftLeft_zero]
  rw [BitFields.set, mask, pack]

theorem dscrAttrBits_eq : dscrAttrBits dscr = (fields .dscrAttr data dscr).set 0#32 := by
  have list : fields .dscrAttr data dscr =
      [axCoherent, axCache, axQos].map fun f => (f.field, f.value data dscr) := rfl
  rw [BitFields.set, BitVec.zero_and, BitVec.zero_or, list]
  simp only [List.map_cons, List.map_nil, BitFields.pack, BitField.bits, field, value,
    dscrAttrBits, BitVec.or_assoc, BitVec.or_zero, BitVec.shiftLeft_zero]

end ConfigField

end XZDma

def System.programmed (s : System) (f : ConfigField) : BitVec 32 := f.field.get (s.reg f.register)

namespace XZDma

/-- What the driver answers about its configuration is what the channel is configured with. -/
def ConfigAgrees (s : System) : Prop :=
  ∃ data dscr, getChDataConfig s = .ok data s ∧ getChDscrConfig s = .ok dscr s ∧
    ∀ f, s.programmed f = f.value data dscr

structure SameConfig (s t : System) : Prop where
  config : t.dma.config = s.dma.config
  data : t.dma.dataConfig = s.dma.dataConfig
  dscr : t.dma.dscrConfig = s.dma.dscrConfig
  programmed : t.programmed = s.programmed

instance : Std.Refl SameConfig := ⟨fun _ => ⟨rfl, rfl, rfl, rfl⟩⟩

variable {env : Env} {s t : System} {a : ℤ}

theorem SameConfig.trans {u : System} (first : SameConfig s t) (second : SameConfig t u) :
    SameConfig s u :=
  ⟨second.config.trans first.config, second.data.trans first.data,
    second.dscr.trans first.dscr, second.programmed.trans first.programmed⟩

instance : IsTrans System SameConfig := ⟨fun _ _ _ => SameConfig.trans⟩

theorem configAgrees_iff : ConfigAgrees s ↔
    ∀ f, s.programmed f = f.value s.dma.dataConfig s.dma.dscrConfig := by
  constructor
  · rintro ⟨data, dscr, run, run', agrees⟩
    cases run
    cases run'
    exact agrees
  · exact fun agrees => ⟨_, _, rfl, rfl, agrees⟩

section Same

def configRegisters : List Register := [.ctrl0, .ctrl1, .dataAttr, .dscrAttr]

theorem register_config (f : ConfigField) : f.register ∈ configRegisters := by
  cases f <;> decide

theorem programmed_write (r : Register) (v : BitVec 32) (f : ConfigField) :
    (s.write r v).programmed f = if f.register = r then f.field.get v else s.programmed f := by
  rw [System.programmed, System.write_reg]
  split <;> rfl

theorem SameConfig.of_write {r : Register} (other : r ∉ configRegisters) (v : BitVec 32) :
    SameConfig s (s.write r v) := by
  refine ⟨rfl, rfl, rfl, ?_⟩
  funext f
  rw [programmed_write, if_neg]
  rintro rfl
  exact other (register_config f)

theorem SameConfig.of_withDma {f : XZDma → XZDma} (config : ∀ i, (f i).config = i.config)
    (data : ∀ i, (f i).dataConfig = i.dataConfig) (dscr : ∀ i, (f i).dscrConfig = i.dscrConfig) :
    SameConfig s (s.withDma f) := by
  refine ⟨config s.dma, data s.dma, dscr s.dma, ?_⟩
  funext field
  rw [System.programmed, System.withDma_reg s config]
  rfl

theorem SameConfig.of_ctrl0 {v : BitVec 32}
    (kept : ConfigField.overFetch.field.get v = ConfigField.overFetch.field.get (s.reg .ctrl0)) :
    SameConfig s (s.write .ctrl0 v) := by
  refine ⟨rfl, rfl, rfl, ?_⟩
  funext f
  rw [programmed_write]
  cases f
  case overFetch => exact kept
  all_goals rfl

theorem SameConfig.of_report (status : BitVec 32) :
    SameConfig s (s.report s.dma.config.baseAddress status) := by
  refine ⟨rfl, rfl, rfl, ?_⟩
  funext f
  have other : f.register ≠ .sts := by
    cases f <;> decide
  have kept : (s.report s.dma.config.baseAddress status).reg f.register = s.reg f.register :=
    (s.report_channelReg s.dma.config.baseAddress status f.register).trans (if_neg other)
  rw [System.programmed, kept]
  rfl

theorem sameConfig_allowLists : AllowsLists SameConfig where
  store _ _ _ _ := ⟨rfl, rfl, rfl, rfl⟩
  write s r v member := by
    have other : ∀ r ∈ listRegisters, r ∉ configRegisters := by decide
    exact .of_write (other r member) v

theorem SameConfig.of_read (r : Register) : SameConfig s (s.read r) := ⟨rfl, rfl, rfl, rfl⟩

variable (reads : ∀ v, env.readBack (s.addr .ctrl0) v = v)

include reads

theorem moded_config (isSgDma : BitVec 8) (mode : Mode) {ctrl0 : BitVec 32}
    (kept : ConfigField.overFetch.field.get ctrl0 =
      ConfigField.overFetch.field.get (env.readBack (s.addr .ctrl0) (s.reg .ctrl0))) :
    SameConfig s (moded s isSgDma mode ctrl0) := by
  rw [reads] at kept
  have first : SameConfig s ((s.read .ctrl0).write .ctrl0 ctrl0) :=
    (SameConfig.of_read .ctrl0).trans (.of_ctrl0 kept)
  exact first.trans (.of_withDma (fun _ => rfl) (fun _ => rfl) fun _ => rfl)

theorem setMode_config {isSgDma : BitVec 8} {mode : Mode}
    (run : setMode env isSgDma mode s = .ok a t) : SameConfig s t := by
  by_cases flag : Passes env (isSgDma = TRUE ∨ isSgDma = FALSE)
  · by_cases idle : s.dma.channelState = .idle
    · rw [setMode_run env mode s flag idle] at run
      by_cases simple : isSgDma ≠ TRUE
      · rw [if_pos simple] at run
        cases run
        apply moded_config reads
        cases mode with
        | normalMode =>
          rw [simpleModeBits, BitField.get_keep (by decide), BitField.get_keep (by decide)]
        | wronlyMode =>
          rw [simpleModeBits, BitField.get_or, BitField.get_keep (by decide)]
          exact BitVec.or_zero
        | rdonlyMode =>
          rw [simpleModeBits, BitField.get_or, BitField.get_keep (by decide)]
          exact BitVec.or_zero
      · rw [if_neg simple] at run
        by_cases normal : mode = .normalMode
        · rw [if_neg (not_not.mpr normal)] at run
          cases run
          apply moded_config reads
          rw [sgModeBits, BitField.get_keep (by decide), BitField.get_or]
          exact BitVec.or_zero
        · rw [if_pos normal] at run
          cases run
          exact .of_read .ctrl0
    · rw [setMode_refused env mode flag idle] at run
      cases run
      exact ⟨rfl, rfl, rfl, rfl⟩
  · rw [xilAssert_diverted run flag]
    exact ⟨rfl, rfl, rfl, rfl⟩

theorem selfTest_config (run : selfTest env s = .ok a t) : SameConfig s t := by
  obtain ⟨u, run', dma, _, _, control⟩ := selfTest_run env s
  rw [run'] at run
  cases run
  rw [reads] at control
  refine ⟨by rw [dma], by rw [dma], by rw [dma], ?_⟩
  have regs : t.control = s.control := control
  funext f
  have same : t.reg f.register = s.reg f.register := by
    have ctrl0 := congrArg ControlValues.ctrl0 regs
    have ctrl1 := congrArg ControlValues.ctrl1 regs
    have dataAttr := congrArg ControlValues.dataAttr regs
    have dscrAttr := congrArg ControlValues.dscrAttr regs
    cases f <;> assumption
  rw [System.programmed, same]
  rfl

theorem resume_config {u : Unit} (run : resume env s = .ok u t) : SameConfig s t := by
  by_cases accepted : Passes env (s.dma.isSgDma = TRUE) ∧ Passes env (s.dma.channelState = .pause)
  · rw [resume_run env s accepted.1 accepted.2] at run
    cases run
    rw [resumed, reads]
    have first : SameConfig s ((s.read .ctrl0).withDma fun i => { i with channelState := .busy }) :=
      (SameConfig.of_read .ctrl0).trans (.of_withDma (fun _ => rfl) (fun _ => rfl) fun _ => rfl)
    apply first.trans
    apply SameConfig.of_ctrl0
    rw [resumeBits, BitField.get_or, BitField.get_keep (by decide)]
    exact BitVec.or_zero
  · unfold resume at run
    rw [bind_ok _ (getInstance_run s)] at run
    have diverted : t = s := by
      rcases xilAssert_ok run with ⟨sg, rest⟩ | ⟨_, same⟩
      · exact xilAssert_diverted rest fun paused => accepted ⟨sg, paused⟩
      · exact same
    rw [diverted]
    exact ⟨rfl, rfl, rfl, rfl⟩

end Same

section Changes

def resetDscrConfig : DscrConfig := ⟨0, 0, 0⟩

/-- A new data configuration is in the registers, as far as it fits. -/
theorem setChDataConfig_config (env : Env) (configure : DataConfig) (s : System)
    (idle : s.dma.channelState = .idle) :
    ∃ t, setChDataConfig env configure s = .ok xstSuccess t ∧
      t.dma = { s.dma with dataConfig := configure } ∧
      ∀ f, t.programmed f = if f.register = .dscrAttr then s.programmed f else
        f.value configure s.dma.dscrConfig &&& f.field.limit := by
  obtain ⟨t, run, dma, _, _, _, control⟩ := setChDataConfig_run env configure s idle
  refine ⟨t, run, dma, ?_⟩
  have ctrl0 := congrArg ControlValues.ctrl0 control
  have ctrl1 := congrArg ControlValues.ctrl1 control
  have dataAttr := congrArg ControlValues.dataAttr control
  have dscrAttr := congrArg ControlValues.dscrAttr control
  have set {v : BitVec 32} (f : ConfigField) (other : f.register ≠ .dscrAttr)
      (written : t.reg f.register =
        (ConfigField.fields f.register configure s.dma.dscrConfig).set v) :
      t.programmed f = if f.register = .dscrAttr then s.programmed f else
        f.value configure s.dma.dscrConfig &&& f.field.limit := by
    rw [if_neg other, System.programmed, written, ConfigField.get_fields]
  intro f
  cases f
  case overFetch => exact set .overFetch (by decide) (ctrl0.trans (ConfigField.overFetchBits_eq ..))
  case srcIssue => exact set .srcIssue (by decide) (ctrl1.trans (ConfigField.srcIssueBits_eq ..))
  case axCoherent | axCache | axQos => exact congrArg (BitField.get _) dscrAttr
  all_goals exact set _ (by decide) (dataAttr.trans (ConfigField.dataAttrBits_eq ..))

theorem setChDscrConfig_config (configure : DscrConfig) (s : System)
    (idle : s.dma.channelState = .idle) :
    ∃ t, setChDscrConfig configure s = .ok xstSuccess t ∧
      t.dma = { s.dma with dscrConfig := configure } ∧
      ∀ f, t.programmed f = if f.register = .dscrAttr then
        f.value s.dma.dataConfig configure &&& f.field.limit else s.programmed f := by
  have free : ¬ s.dma.channelState ≠ .idle := not_not.mpr idle
  rw [setChDscrConfig, bind_ok _ (getInstance_run s), if_neg free]
  refine ⟨_, rfl, rfl, ?_⟩
  intro f
  rw [programmed_write]
  by_cases there : f.register = .dscrAttr
  · rw [if_pos there, if_pos there, ConfigField.dscrAttrBits_eq s.dma.dataConfig, ← there,
      ConfigField.get_fields]
  · rw [if_neg there, if_neg there, System.programmed, System.withDma_reg _ (by intro i; rfl)]
    rfl

/-- The register has room for the lowest bit of `IsCacheCoherent`. -/
def coherentDscrConfig (isCacheCoherent : BitVec 8) : DscrConfig := ⟨isCacheCoherent &&& 1, 0, 0⟩

theorem get_resetDscrAttr (isCacheCoherent : BitVec 8) {f : ConfigField}
    (register : f.register = .dscrAttr) :
    f.field.get (resetDscrAttr isCacheCoherent) =
      f.value resetDataConfig (coherentDscrConfig isCacheCoherent) := by
  revert isCacheCoherent
  cases f
  case axCoherent | axCache | axQos => decide +kernel
  all_goals cases register

/-- A reset sets the registers, and leaves the instance's idea of them as it is. -/
theorem reset_config (env : Env) (s : System) (idle : Passes env (s.dma.channelState = .idle)) :
    ∃ t, reset env s = .ok () t ∧
      t.dma = { s.dma with intrMask := 0, channelState := .idle } ∧
      ∀ f, t.programmed f =
        f.value resetDataConfig (coherentDscrConfig s.dma.config.isCacheCoherent) := by
  obtain ⟨t, run, dma, _, _, _, _, control, _⟩ := reset_run env s idle
  have ctrl0 : t.reg .ctrl0 = ctrl0ResetValue := congrArg ControlValues.ctrl0 control
  have ctrl1 : t.reg .ctrl1 = ctrl1ResetValue := congrArg ControlValues.ctrl1 control
  have dataAttr : t.reg .dataAttr = dataAttrResetValue := congrArg ControlValues.dataAttr control
  have dscrAttr := congrArg ControlValues.dscrAttr control
  refine ⟨t, run, dma, ?_⟩
  have values {v : BitVec 32} (f : ConfigField) (other : f.register ≠ .dscrAttr)
      (reset : t.reg f.register = v)
      (value : f.field.get v = f.value resetDataConfig resetDscrConfig) :
      t.programmed f =
        f.value resetDataConfig (coherentDscrConfig s.dma.config.isCacheCoherent) := by
    rw [System.programmed, reset, value, ConfigField.value_data other]
  intro f
  cases f
  case overFetch => exact values _ (by decide) ctrl0 (by decide)
  case srcIssue => exact values _ (by decide) ctrl1 (by decide)
  case axCoherent | axCache | axQos =>
    exact (congrArg (BitField.get _) dscrAttr).trans (get_resetDscrAttr _ rfl)
  all_goals exact values _ (by decide) dataAttr (by decide)

end Changes

namespace ConfigField

def DataFits (data : DataConfig) : Prop :=
  ∀ f : ConfigField, f.register ≠ .dscrAttr → f.value data resetDscrConfig ≤ f.field.limit

def DscrFits (dscr : DscrConfig) : Prop :=
  ∀ f : ConfigField, f.register = .dscrAttr → f.value resetDataConfig dscr ≤ f.field.limit

theorem value_inj {data data' : DataConfig} {dscr dscr' : DscrConfig}
    (same : ∀ f : ConfigField, f.value data dscr = f.value data' dscr') :
    data = data' ∧ dscr = dscr' := by
  have bytes {x y : BitVec 8} (wide : x.setWidth 32 = y.setWidth 32) : x = y := by bv_omega
  have bursts {b b' : BurstType} (code : b.toU32 = b'.toU32) : b = b' := by
    revert code
    cases b <;> cases b' <;> decide
  constructor
  · rcases data with ⟨⟩
    rcases data' with ⟨⟩
    simp only [DataConfig.mk.injEq]
    exact ⟨bytes (same overFetch), bytes (same srcIssue), bursts (same srcBurstType),
      bytes (same srcBurstLen), bursts (same dstBurstType), bytes (same dstBurstLen),
      bytes (same srcCache), bytes (same srcQos), bytes (same dstCache), bytes (same dstQos)⟩
  · rcases dscr with ⟨⟩
    rcases dscr' with ⟨⟩
    simp only [DscrConfig.mk.injEq]
    exact ⟨bytes (same axCoherent), bytes (same axCache), bytes (same axQos)⟩

theorem and_limit_iff (f : ConfigField) (v : BitVec 32) :
    v &&& f.field.limit = v ↔ v ≤ f.field.limit := by
  have limits : ∃ k < 32, f.field.limit = BitVec.ofNat 32 (2 ^ k - 1) := by
    cases f
    case overFetch | axCoherent => exact ⟨1, by decide, by decide⟩
    case srcBurstType | dstBurstType => exact ⟨2, by decide, by decide⟩
    case srcIssue => exact ⟨5, by decide, by decide⟩
    all_goals exact ⟨4, by decide, by decide⟩
  obtain ⟨k, bound, limit⟩ := limits
  have small : 2 ^ k - 1 < 2 ^ 32 :=
    (Nat.sub_le _ _).trans_lt (Nat.pow_lt_pow_right (by decide) bound)
  have positive := Nat.two_pow_pos k
  rw [limit, ← BitVec.toNat_inj, toNat_and_lowMask v bound.le, BitVec.le_def, BitVec.toNat_ofNat,
    Nat.mod_eq_of_lt small]
  constructor
  · intro fits
    have less := Nat.mod_lt v.toNat positive
    omega
  · exact fun fits => Nat.mod_eq_of_lt (by omega)

end ConfigField

/-- An accepted configuration fits the registers, and a reset finds the instance with the
    configuration of a reset. -/
def KeepsConfig (s : System) : Operation → Prop
  | .setChDataConfig _ configure => s.dma.channelState = .idle → ConfigField.DataFits configure
  | .setChDscrConfig configure => s.dma.channelState = .idle → ConfigField.DscrFits configure
  | .reset env => Passes env (s.dma.channelState = .idle) →
    s.dma.dataConfig = resetDataConfig ∧ s.dma.dscrConfig = resetDscrConfig
  | _ => True

structure Configured (base : BitVec 64) (s : System) : Prop where
  base : s.dma.config.baseAddress = base
  noncoherent : s.dma.config.isCacheCoherent &&& 1 = 0
  programmed : ∀ f, s.programmed f = f.value s.dma.dataConfig s.dma.dscrConfig

section Runs

variable {base : BitVec 64} {op : Operation}

theorem Configured.same (configured : Configured base s) (same : SameConfig s t) :
    Configured base t := by
  refine ⟨?_, ?_, ?_⟩
  · rw [same.config, configured.base]
  · rw [same.config, configured.noncoherent]
  · rw [same.programmed, same.data, same.dscr]
    exact configured.programmed

theorem Configured.setChDataConfig {configure : DataConfig} (configured : Configured base s)
    (fits : s.dma.channelState = .idle → ConfigField.DataFits configure)
    (run : setChDataConfig env configure s = .ok a t) : Configured base t := by
  by_cases idle : s.dma.channelState = .idle
  · obtain ⟨u, run', dma, programmed⟩ := setChDataConfig_config env configure s idle
    rw [run'] at run
    cases run
    refine ⟨by rw [dma, ← configured.base], by rw [dma, ← configured.noncoherent], ?_⟩
    intro f
    rw [programmed, dma]
    by_cases register : f.register = .dscrAttr
    · rw [if_pos register, configured.programmed]
      exact ConfigField.value_dscr register _ _ _
    · have fit := fits idle f register
      rw [if_neg register, ConfigField.and_limit_iff,
        ConfigField.value_data register _ _ resetDscrConfig]
      exact fit
  · rw [setChDataConfig_refused env configure idle] at run
    cases run
    exact configured

theorem Configured.setChDscrConfig {configure : DscrConfig} (configured : Configured base s)
    (fits : s.dma.channelState = .idle → ConfigField.DscrFits configure)
    (run : setChDscrConfig configure s = .ok a t) : Configured base t := by
  by_cases idle : s.dma.channelState = .idle
  · obtain ⟨u, run', dma, programmed⟩ := setChDscrConfig_config configure s idle
    rw [run'] at run
    cases run
    refine ⟨by rw [dma, ← configured.base], by rw [dma, ← configured.noncoherent], ?_⟩
    intro f
    rw [programmed, dma]
    by_cases register : f.register = .dscrAttr
    · have fit := fits idle f register
      rw [if_pos register, ConfigField.and_limit_iff,
        ConfigField.value_dscr register _ resetDataConfig]
      exact fit
    · rw [if_neg register, configured.programmed]
      exact ConfigField.value_data register _ _ _
  · rw [setChDscrConfig_refused configure idle] at run
    cases run
    exact configured

theorem Configured.reset {u : Unit} (configured : Configured base s)
    (kept : Passes env (s.dma.channelState = .idle) →
      s.dma.dataConfig = resetDataConfig ∧ s.dma.dscrConfig = resetDscrConfig)
    (run : reset env s = .ok u t) : Configured base t := by
  by_cases idle : Passes env (s.dma.channelState = .idle)
  · obtain ⟨t', run', dma, programmed⟩ := reset_config env s idle
    obtain ⟨data, dscr⟩ := kept idle
    rw [run'] at run
    cases run
    refine ⟨by rw [dma, ← configured.base], by rw [dma, ← configured.noncoherent], ?_⟩
    intro f
    rw [programmed, coherentDscrConfig, configured.noncoherent, dma, data, dscr]
    rfl
  · unfold XZDma.reset at run
    rw [bind_ok _ (getInstance_run s)] at run
    rw [xilAssert_diverted run idle]
    exact configured

theorem createBDList_config {typeOfDscr : DscrType} {dscrMemPtr descrPhysMemPtr : BitVec 64}
    {noOfBytes count : BitVec 32}
    (run : createBDList env typeOfDscr dscrMemPtr descrPhysMemPtr noOfBytes s = .ok count t) :
    SameConfig s t := by
  unfold createBDList at run
  rcases xilAssert_ok run with ⟨_, rest⟩ | ⟨_, rfl⟩
  · rcases xilAssert_ok rest with ⟨_, body⟩ | ⟨_, rfl⟩
    · cases body
      exact .of_withDma (fun _ => rfl) (fun _ => rfl) fun _ => rfl
    · exact ⟨rfl, rfl, rfl, rfl⟩
  · exact ⟨rfl, rfl, rfl, rfl⟩

theorem enabled_config (s : System) : SameConfig s s.enabled := by
  have ien : SameConfig s (s.write .ien (s.dma.intrMask &&& ixrAllIntrMask)) :=
    .of_write (by decide) _
  have busy := ien.trans (.of_withDma (f := fun i => { i with channelState := .busy })
    (fun _ => rfl) (fun _ => rfl) fun _ => rfl)
  exact busy.trans (.of_write (r := .ctrl2) (by decide) chCtrl2EnMask)

theorem takeUp_config (s : System) : SameConfig s (s.takeUp s.dma.config.baseAddress) := by
  rw [System.takeUp]
  split
  · exact .of_report _
  · exact ⟨rfl, rfl, rfl, rfl⟩

theorem goOn_config (s : System) : SameConfig s (s.goOn s.dma.config.baseAddress) := by
  rw [System.goOn]
  split
  · exact .of_report _
  · exact ⟨rfl, rfl, rfl, rfl⟩

theorem hardware_config (status : BitVec 32) (run : (Operation.hardware status).step s = .ok a t) :
    SameConfig s.clearLog t := by
  by_cases busy : s.machine.Busy s.dma.config.baseAddress
  · have reported : (Operation.hardware status).step s = .ok 0 (s.clearLog.report
        s.dma.config.baseAddress (status &&& stsAllMask)) := if_pos busy
    rw [reported] at run
    cases run
    exact .of_report _
  · have silent : (Operation.hardware status).step s = .ok 0 s.clearLog := if_neg busy
    rw [silent] at run
    cases run
    exact ⟨rfl, rfl, rfl, rfl⟩

theorem step_configured (configured : Configured base s) (reads : op.ReadsBack base)
    (keeps : KeepsConfig s op) (run : op.step s = .ok a t) : Configured base t := by
  have fresh : Configured base s.clearLog :=
    ⟨configured.base, configured.noncoherent, configured.programmed⟩
  rw [← configured.base] at reads
  cases op with
  | setMode env isSgDma mode => exact fresh.same (setMode_config reads run)
  | setChDataConfig env configure => exact fresh.setChDataConfig keeps run
  | setChDscrConfig configure => exact fresh.setChDscrConfig keeps run
  | createBDList env typeOfDscr dscrMemPtr descrPhysMemPtr noOfBytes =>
    obtain ⟨count, u, created, done⟩ := bind_ok_inv run
    cases done
    exact fresh.same (createBDList_config created)
  | start env data num =>
    exact fresh.same ((steps_start env sameConfig_allowLists data num).of_ok run)
  | enable =>
    rw [Operation.step, Operation.body, bind_ok _ (enable_run _)] at run
    cases run
    exact (fresh.same (enabled_config _)).same (takeUp_config _)
  | resume env =>
    obtain ⟨_, u, resumed, done⟩ := bind_ok_inv run
    cases done
    exact (fresh.same (resume_config reads resumed)).same (goOn_config _)
  | reset env =>
    obtain ⟨_, u, done, returned⟩ := bind_ok_inv run
    cases returned
    exact fresh.reset keeps done
  | channelState env =>
    cases run
    exact fresh.same (.of_read .sts)
  | selfTest env => exact fresh.same (selfTest_config reads run)
  | hardware status => exact fresh.same (hardware_config status run)

/-- What does not fit, and what a reset leaves behind, parts the two. -/
theorem step_config_parts (configured : Configured base s) (harm : ¬ KeepsConfig s op) :
    ∃ a t, op.step s = .ok a t ∧ ¬ ConfigAgrees t := by
  cases op with
  | setChDataConfig env configure =>
    obtain ⟨idle, unfit⟩ := Classical.not_imp.mp harm
    obtain ⟨t, run, dma, programmed⟩ := setChDataConfig_config env configure s.clearLog idle
    refine ⟨xstSuccess, t, run, fun agrees => unfit ?_⟩
    intro f register
    have agree := configAgrees_iff.mp agrees f
    rw [programmed, if_neg register, dma, ConfigField.and_limit_iff] at agree
    rw [ConfigField.value_data register _ _ s.dma.dscrConfig]
    exact agree
  | setChDscrConfig configure =>
    obtain ⟨idle, unfit⟩ := Classical.not_imp.mp harm
    obtain ⟨t, run, dma, programmed⟩ := setChDscrConfig_config configure s.clearLog idle
    refine ⟨xstSuccess, t, run, fun agrees => unfit ?_⟩
    intro f register
    have agree := configAgrees_iff.mp agrees f
    rw [programmed, if_pos register, dma, ConfigField.and_limit_iff] at agree
    rw [ConfigField.value_dscr register _ s.dma.dataConfig]
    exact agree
  | reset env =>
    obtain ⟨idle, other⟩ := Classical.not_imp.mp harm
    obtain ⟨t, run, dma, programmed⟩ := reset_config env s.clearLog idle
    refine ⟨0, t, bind_ok _ run, fun agrees => other ?_⟩
    apply ConfigField.value_inj
    intro f
    have agree := configAgrees_iff.mp agrees f
    have noncoherent : s.clearLog.dma.config.isCacheCoherent &&& 1 = 0 := configured.noncoherent
    rw [programmed, coherentDscrConfig, noncoherent, dma] at agree
    exact agree.symm
  | setMode | createBDList | start | enable | resume | channelState | selfTest | hardware =>
    exact absurd trivial harm

theorem cfgInitialize_config (env : Env) (cfg : Config) (effectiveAddr : BitVec 64) (s : System)
    (mapped : Passes env (effectiveAddr ≠ 0)) :
    ∃ t, cfgInitialize env cfg effectiveAddr s = .ok xstSuccess t ∧
      t.dma = initialized cfg effectiveAddr s.dma.descriptor ∧
      ∀ f, t.programmed f = f.value resetDataConfig (coherentDscrConfig cfg.isCacheCoherent) := by
  obtain ⟨t, run, dma, programmed⟩ := reset_config env (pointed cfg effectiveAddr s) (.inl rfl)
  refine ⟨_, cfgInitialize_of_reset mapped run, ?_, ?_⟩
  · rw [withResetConfig, System.withDma_dma, dma]
    rfl
  · intro f
    rw [System.programmed, withResetConfig, System.withDma_reg _ (by intro i; rfl)]
    exact programmed f

/-- What `XZDma_GetChDataConfig` and `XZDma_GetChDscrConfig` answer is what the channel is
    configured with, unless it is coherent, until a configuration is accepted that the registers
    have no room for, or another configuration than that of a reset is reset. -/
theorem run_configAgrees_iff (env : Env) (cfg : Config) (effectiveAddr : BitVec 64) (s : System)
    (operations : List Operation) (mapped : Passes env (effectiveAddr ≠ 0))
    (reads : ∀ op ∈ operations, op.ReadsBack effectiveAddr) :
    (∀ t, Reaches Operation.step (finalState (cfgInitialize env cfg effectiveAddr s))
        operations t → ConfigAgrees t) ↔
      cfg.isCacheCoherent &&& 1 = 0 ∧
        ∀ visit ∈ visits Operation.step (finalState (cfgInitialize env cfg effectiveAddr s))
          operations, KeepsConfig visit.before visit.call := by
  obtain ⟨t, run, dma, programmed⟩ := cfgInitialize_config env cfg effectiveAddr s mapped
  rw [run, finalState_ok]
  by_cases noncoherent : cfg.isCacheCoherent &&& 1 = 0
  · have configured : Configured effectiveAddr t := by
      refine ⟨by rw [dma]; rfl, by rw [dma]; exact noncoherent, ?_⟩
      intro f
      rw [programmed, coherentDscrConfig, noncoherent, dma]
      rfl
    rw [reaches_holds_iff (fun _ configured => configAgrees_iff.mpr configured.programmed)
      (fun _ _ _ _ => step_configured) (fun _ _ configured _ => step_config_parts configured)
      configured operations reads]
    exact ⟨fun keeps => ⟨noncoherent, keeps⟩, And.right⟩
  · refine ⟨fun agrees => absurd ?_ noncoherent, fun both => absurd both.1 noncoherent⟩
    have coherent := configAgrees_iff.mp (agrees t (.start t operations)) .axCoherent
    rw [programmed, dma] at coherent
    have lowest : ∀ c : BitVec 8, (c &&& 1).setWidth 32 = (0 : BitVec 8).setWidth 32 →
        c &&& 1 = 0 := by decide +kernel
    exact lowest _ coherent

theorem run_configAgrees_iff_mode :
    let s := finalState (cfgInitialize (.ideal .waiting) ⟨0, 0, 0, 0⟩ 0xFFA80000 .blank)
    let operations : List Operation :=
      [.setMode (.ideal .waiting) TRUE .normalMode, .reset (.ideal .waiting)]
    (∀ t, Reaches Operation.step s operations t → ConfigAgrees t) ↔
      (0 : BitVec 8) &&& 1 = 0 ∧
        ∀ visit ∈ visits Operation.step s operations, KeepsConfig visit.before visit.call :=
  run_configAgrees_iff (.ideal .waiting) ⟨0, 0, 0, 0⟩ 0xFFA80000 .blank _ (.inl (by decide))
    (List.forall_mem_cons.mpr ⟨fun _ => rfl, List.forall_mem_singleton.mpr trivial⟩)

/-- The 32 outstanding transactions that the range of `SrcIssue` ends with have no room in
    their field: the channel is left with none. -/
theorem srcIssue_wraps (env : Env) (configure : DataConfig) (s : System)
    (idle : s.dma.channelState = .idle) (most : configure.srcIssue = 32) :
    ∃ t, setChDataConfig env configure s = .ok xstSuccess t ∧ t.programmed .srcIssue = 0 ∧
      getChDataConfig t = .ok configure t := by
  obtain ⟨t, run, dma, programmed⟩ := setChDataConfig_config env configure s idle
  refine ⟨t, run, ?_, ?_⟩
  · rw [programmed, if_neg (by decide), ConfigField.value, most]
    decide
  · show EStateM.Result.ok t.dma.dataConfig t = _
    rw [dma]

end Runs

end XZDma

end ZynqmpDma
