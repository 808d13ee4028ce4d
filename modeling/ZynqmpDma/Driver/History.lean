import ZynqmpDma.Driver.Programming
import ZynqmpDma.Driver.Running

namespace ZynqmpDma.DmaDriverImpl

open Base XZDma

variable {d : DmaDriverImpl}

def ReadsBack (d : DmaDriverImpl) (env : Env) : Prop :=
  ∀ r ∈ [Register.ctrl0, .ctrl1, .ctrl2, .dataAttr, .dscrAttr, .srcStartLsb, .srcStartMsb,
      .dstStartLsb, .dstStartMsb],
    ∀ v, env.readBack (d.zdmaConfig.baseAddress + Register.offset r) v = v

theorem ReadsBack.control {env : Env} (faithful : d.ReadsBack env) :
    configuredControl env d.zdmaConfig.baseAddress =
      { ctrl0 := overFetchBits (sgModeBits ctrl0ResetValue) zdmaDataConfig
        ctrl1 := srcIssueBits ctrl1ResetValue zdmaDataConfig
        ctrl2 := chCtrl2DisMask
        dataAttr := dataAttrResetValue &&& ~~~dataAttrMask ||| dataAttrBits zdmaDataConfig
        dscrAttr := dscrAttrResetValue } := by
  simp only [configuredControl, faithful .ctrl0 (by decide), faithful .ctrl1 (by decide),
    faithful .dataAttr (by decide)]

/-- Two runs that configure the same list agree on the registers, on the instance and on the
    descriptors, however they came there. -/
theorem configureDMA_forgets {env₁ env₂ : Env} {requests : List TransferRequest}
    {s₁ s₂ before₁ before₂ t₁ t₂ : System} {calls₁ calls₂ : List Call} (nonempty : requests ≠ [])
    (nonzero : ∀ request ∈ requests, request.Nonzero) (mapped : d.Mapped)
    (faithful₁ : d.ReadsBack env₁) (faithful₂ : d.ReadsBack env₂)
    (visit₁ : ⟨before₁, .configureDMA env₁ requests, .ok 0 t₁⟩ ∈ visits d.step s₁ calls₁)
    (visit₂ : ⟨before₂, .configureDMA env₂ requests, .ok 0 t₂⟩ ∈ visits d.step s₂ calls₂) :
    t₁.control = t₂.control ∧ t₁.starts = t₂.starts ∧ t₁.control.ctrl2 = chCtrl2DisMask ∧
      t₁.dma.config.baseAddress = d.zdmaConfig.baseAddress ∧ t₁.dma = t₂.dma ∧
      ∀ j < requests.length, t₁.srcDscr j = t₂.srcDscr j ∧ t₁.dstDscr j = t₂.dstDscr j := by
  have configured₁ := configured_of_returned mapped (.of_nonzero nonempty nonzero)
    (visits_outcome visit₁).symm
  have configured₂ := configured_of_returned mapped (.of_nonzero nonempty nonzero)
    (visits_outcome visit₂).symm
  have control : t₁.control = t₂.control := by
    rw [configured₁.control, configured₂.control, faithful₁.control, faithful₂.control]
  have starts : t₁.starts = t₂.starts := by rw [configured₁.starts, configured₂.starts]
  have disabled : t₁.control.ctrl2 = chCtrl2DisMask := by
    rw [configured₁.control]
    rfl
  have dma : t₁.dma = t₂.dma := by rw [configured₁.dma, configured₂.dma]
  refine ⟨control, starts, disabled, configured₁.channel, dma, ?_⟩
  intro j bound
  constructor
  · rw [configured₁.srcDscr bound, configured₂.srcDscr bound]
  · rw [configured₁.dstDscr bound, configured₂.dstDscr bound]

/-- Configuring a blank system, or one that runs another list with a stale instance, ends in the
    same registers, instance and descriptors. -/
theorem configureDMA_forgets_sample :
    let configure : Call := .configureDMA (.ideal .waiting) [⟨0x10000000, 0x20000000, 64⟩]
    let stale : System :=
      { System.blank with
        dma := { XZDma.zeroed with channelState := .busy, isSgDma := TRUE }
        machine := { System.blank.machine with mem := fun _ => 0xFF, io := fun _ => 0xFFFFFFFF } }
    ∃ t₁ t₂, sample.step configure .blank = .ok 0 t₁ ∧ sample.step configure stale = .ok 0 t₂ ∧
      t₁.control = t₂.control ∧ t₁.starts = t₂.starts ∧ t₁.control.ctrl2 = chCtrl2DisMask ∧
      t₁.dma.config.baseAddress = sample.zdmaConfig.baseAddress ∧ t₁.dma = t₂.dma ∧
      ∀ j < 1, t₁.srcDscr j = t₂.srcDscr j ∧ t₁.dstDscr j = t₂.dstDscr j := by
  intro configure stale
  have visit (s : System) : ∃ t, sample.step configure s = .ok 0 t ∧
      ⟨s, configure, .ok 0 t⟩ ∈ visits sample.step s [configure] := by
    obtain ⟨t, run, _⟩ := sample_configures s.clearLog
    have run : sample.step configure s = .ok 0 t := run
    exact ⟨t, run, run ▸ visits_head s configure []⟩
  obtain ⟨t₁, run₁, visit₁⟩ := visit .blank
  obtain ⟨t₂, run₂, visit₂⟩ := visit stale
  have faithful : sample.ReadsBack (.ideal .waiting) := fun _ _ _ => rfl
  exact ⟨t₁, t₂, run₁, run₂, configureDMA_forgets (by decide) (by decide) sample_mapped faithful
    faithful visit₁ visit₂⟩

end ZynqmpDma.DmaDriverImpl
