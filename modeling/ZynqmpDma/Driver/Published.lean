import ZynqmpDma.Driver.Configured
import ZynqmpDma.Driver.Lifetime
import ZynqmpDma.Process.Numerals

namespace ZynqmpDma

open Base XZDma

def DenoteWords (sizeText addrText : List Char) : Prop :=
  ∃ size addr, decimal sizeText = some size ∧ size < 2 ^ 32 ∧
    hexadecimal addrText = some addr ∧ addr < 2 ^ 32

section Published

variable (k : Kernel) (o : MapOutcome) (device : String) (old : MappedDevice) (p : Process)
  (sizeText addrText : List Char)

/-- When `udmabuf::map` reports success, the size and the physical address are the numbers that
    the kernel published, in the driver as in the start registers of the channel; and it
    reports an error when a text is no number or does not fit. -/
structure Publishes : Prop where
  fields : ∀ new q, old.map udmabuf k o device p = (0, new, q) →
    decimal sizeText = some new.size.toNat ∧ hexadecimal addrText = some new.physAddr.toNat
  dataBuffer : ∀ (d : DmaDriverImpl) q, old.map udmabuf k o device p = (0, d.dataBuf, q) →
    decimal sizeText = some d.getBufferSize.toNat ∧
      hexadecimal addrText = some d.getBufferPhysAddr.toNat
  tables : ∀ (d : DmaDriverImpl) q, old.map udmabuf k o device p = (0, d.cfgBuf, q) →
    d.Mapped → ∀ env requests s t, Accepts env requests →
    d.configureDMA env requests s = .ok 0 t →
    hexadecimal addrText = some (t.machine.startAddress d.zdmaConfig.baseAddress
        .srcStartLsb .srcStartMsb) ∧
      t.machine.startAddress d.zdmaConfig.baseAddress .dstStartLsb .dstStartMsb =
        t.machine.startAddress d.zdmaConfig.baseAddress .srcStartLsb .srcStartMsb + 2048
  refuses : ¬ DenoteWords sizeText addrText → (old.map udmabuf k o device p).1 ≠ 0

variable {k o device old p sizeText addrText}

theorem Publishes.denote (publishes : Publishes k o device old p sizeText addrText)
    (opens : o.Opens) : DenoteWords sizeText addrText := by
  by_contra none
  exact publishes.refuses none ((MappedDevice.map_status ..).mpr opens)

theorem publishes_of_fields
    (fields : ∀ new q, old.map udmabuf k o device p = (0, new, q) →
      decimal sizeText = some new.size.toNat ∧
        hexadecimal addrText = some new.physAddr.toNat)
    (refuses : ¬ DenoteWords sizeText addrText → (old.map udmabuf k o device p).1 ≠ 0) :
    Publishes k o device old p sizeText addrText where
  fields := fields
  dataBuffer d q maps := fields d.dataBuf q maps
  tables d q maps mapped env requests s t accepts run := by
    obtain ⟨src, dst⟩ := (DmaDriverImpl.configured_of_returned mapped accepts run).startAddresses
    rw [src, dst]
    exact ⟨(fields d.cfgBuf q maps).2, rfl⟩
  refuses := refuses

structure Lines (o : MapOutcome) (sizeText addrText : List Char) : Prop where
  size : ∀ attr, o.sizeAttr = some attr → attr.text = sizeText ++ ['\n']
  addr : ∀ attr, o.addrAttr = some attr → attr.text = addrText ++ ['\n']
  sizeShort : sizeText.length + 1 < 1024
  addrShort : addrText.length + 1 < 1024

variable (k device old p) in
theorem map_scans (lines : Lines o sizeText addrText) (opens : o.Opens) {size addr : ℕ}
    (sizeNumber : decimal sizeText = some size) (addrNumber : hexadecimal addrText = some addr) :
    (old.map udmabuf k o device p).2.1.size = BitVec.ofNat 32 size ∧
      (old.map udmabuf k o device p).2.1.physAddr = BitVec.ofNat 32 addr := by
  obtain ⟨sizeAttr, sizeOpens⟩ := Option.isSome_iff_exists.mp opens.1.1
  obtain ⟨addrAttr, addrOpens⟩ := Option.isSome_iff_exists.mp opens.1.2
  obtain ⟨scannedSize, scannedAddr⟩ :=
    MappedDevice.map_fields udmabuf k o device old p sizeOpens addrOpens
  obtain ⟨_, sizeBuffer⟩ := Attr.buffer_line (lines.size _ sizeOpens) lines.sizeShort
    (notMem_nul_of_decimal sizeNumber)
  obtain ⟨_, addrBuffer⟩ := Attr.buffer_line (lines.addr _ addrOpens) lines.addrShort
    (notMem_nul_of_hexadecimal addrNumber)
  rw [scannedSize, scannedAddr, sizeBuffer, addrBuffer]
  exact ⟨scanD_of_decimal _ sizeNumber, scanX_of_hexadecimal _ addrNumber⟩

end Published

/-- `udmabuf::map` publishes what the kernel does exactly when a file does not open, or both
    texts are numbers that fit 32 bits. -/
theorem udmabuf_publishes_iff (k : Kernel) (o : MapOutcome) (device : String)
    (old : MappedDevice) (p : Process) (sizeText addrText : List Char)
    (lines : Lines o sizeText addrText) :
    Publishes k o device old p sizeText addrText ↔
      ¬ o.Opens ∨ ∃ size addr, decimal sizeText = some size ∧ size < 2 ^ 32 ∧
        hexadecimal addrText = some addr ∧ addr < 2 ^ 32 := by
  by_cases opens : o.Opens
  · simp only [opens, not_true_eq_false, false_or]
    refine ⟨fun publishes => publishes.denote opens, ?_⟩
    rintro ⟨size, addr, sizeNumber, sizeFits, addrNumber, addrFits⟩
    obtain ⟨scannedSize, scannedAddr⟩ := map_scans k device old p lines opens sizeNumber addrNumber
    refine publishes_of_fields ?_ fun none =>
      absurd ⟨size, addr, sizeNumber, sizeFits, addrNumber, addrFits⟩ none
    intro new q maps
    rw [maps] at scannedSize scannedAddr
    rw [scannedSize, scannedAddr, BitVec.toNat_ofNat, BitVec.toNat_ofNat,
      Nat.mod_eq_of_lt sizeFits, Nat.mod_eq_of_lt addrFits]
    exact ⟨sizeNumber, addrNumber⟩
  · simp only [opens, not_false_eq_true, true_or, iff_true]
    have fails : (old.map udmabuf k o device p).1 ≠ 0 := mt (MappedDevice.map_status ..).mp opens
    exact publishes_of_fields (fun new q maps => absurd (by rw [maps]) fails) fun _ => fails

theorem udmabuf_publishes_small :
    Publishes .aboveAll Attempt.sample.cfgOutcome "udmabuf1" {} .standard ['4', '0', '9', '6']
      ['0', 'x', '7', '0', '1', '0', '0', '0', '0', '0'] :=
  (udmabuf_publishes_iff .aboveAll Attempt.sample.cfgOutcome "udmabuf1" {} .standard
    ['4', '0', '9', '6'] ['0', 'x', '7', '0', '1', '0', '0', '0', '0', '0']
    ⟨by rintro _ ⟨⟩; rfl, by rintro _ ⟨⟩; rfl, by decide, by decide⟩).mpr
    (.inr ⟨4096, 0x70100000, by decide, by decide, by decide, by decide⟩)

/-- A buffer in the memory above 4 GiB is mapped with the low 32 bits of its address. -/
theorem udmabuf_truncates :
    let high : MapOutcome :=
      { Attempt.sample.cfgOutcome with
        addrAttr := some ⟨['0', 'x', '8', '0', '0', '0', '0', '0', '0', '0', '0', '\n'], []⟩ }
    ¬ Publishes .aboveAll high "udmabuf1" {} .standard ['4', '0', '9', '6']
      ['0', 'x', '8', '0', '0', '0', '0', '0', '0', '0', '0'] := by
  intro high publishes
  obtain ⟨size, addr, _, _, number, fits⟩ := publishes.denote (by decide)
  have published : hexadecimal ['0', 'x', '8', '0', '0', '0', '0', '0', '0', '0', '0'] =
      some 0x800000000 := by decide
  rw [published] at number
  cases number
  omega

end ZynqmpDma
