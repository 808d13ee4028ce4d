import ZynqmpDma.Base.Chain
import ZynqmpDma.XZDma.StartRuns

namespace ZynqmpDma

open Base XZDma

/-- A buffer the driver and the channel share: `length` bytes at virtual address `virt` that
    the channel reads at physical addresses from `phys` on. -/
structure SharedBuffer where
  virt : BitVec 64
  phys : ℕ
  length : ℕ

def SharedBuffer.holds (b : SharedBuffer) (addr : ℕ) : Prop :=
  b.phys ≤ addr ∧ addr + 16 ≤ b.phys + b.length

instance (b : SharedBuffer) (addr : ℕ) : Decidable (b.holds addr) :=
  inferInstanceAs (Decidable (_ ∧ _))

def fetchPair (b : SharedBuffer) (mem : BitVec 64 → BitVec 8) (key : ℕ × ℕ) :
    Option (LiDscr × LiDscr) :=
  if b.holds key.1 ∧ b.holds key.2 then
    some (liDscrAt (window mem b.virt) (key.1 - b.phys),
      liDscrAt (window mem b.virt) (key.2 - b.phys))
  else none

def stops (pair : LiDscr × LiDscr) : Bool := pair.1.cntl &&& word3CmdMask = word3CmdStopMask

def nextPair (key : ℕ × ℕ) (_ : LiDscr × LiDscr) : ℕ × ℕ := (key.1 + 16, key.2 + 16)

def Machine.startAddress (m : Machine) (base : BitVec 64) (lsb msb : Register) : ℕ :=
  (m.channelReg base lsb).toNat + 2 ^ 32 * (m.channelReg base msb &&& startMsbAddrMask).toNat

/-- What the channel at `base` fetches when it runs the list its start registers point at:
    the addresses and the descriptors, in order. -/
def Machine.deviceWalk (m : Machine) (base : BitVec 64) (b : SharedBuffer) (fuel : ℕ) :
    Option (List ((ℕ × ℕ) × (LiDscr × LiDscr))) :=
  follow (fetchPair b m.mem) stops nextPair fuel
    (m.startAddress base .srcStartLsb .srcStartMsb, m.startAddress base .dstStartLsb .dstStartMsb)

def transferOfPair (pair : LiDscr × LiDscr) : ℕ × ℕ × ℕ :=
  (pair.1.address.toNat % 2 ^ 49, pair.2.address.toNat % 2 ^ 49,
    (pair.1.size &&& word2SizeMask).toNat)

def Machine.walkTransfers (m : Machine) (base : BitVec 64) (b : SharedBuffer) (fuel : ℕ) :
    Option (List (ℕ × ℕ × ℕ)) :=
  (m.deviceWalk base b fuel).map fun visited => visited.map fun entry => transferOfPair entry.2

def Machine.WalkYields (m : Machine) (base : BitVec 64) (b : SharedBuffer)
    (transfers : List (ℕ × ℕ × ℕ)) : Prop :=
  ∃ fuel, m.walkTransfers base b fuel = some transfers

/-- The channel holds a complete program: scatter-gather mode, and a list that yields exactly
    these transfers. -/
def Machine.Programmed (m : Machine) (base : BitVec 64) (b : SharedBuffer)
    (transfers : List (ℕ × ℕ × ℕ)) : Prop :=
  m.channelReg base .ctrl0 &&& (ctrl0PointTypeMask ||| ctrl0ModeMask) = ctrl0PointTypeMask ∧
    m.WalkYields base b transfers

theorem Machine.Programmed.congr {m m' : Machine} {base : BitVec 64} {b : SharedBuffer}
    {transfers : List (ℕ × ℕ × ℕ)} (programmed : m.Programmed base b transfers)
    (mem : m'.mem = m.mem)
    (regs : ∀ r ∈ [Register.ctrl0, .srcStartLsb, .srcStartMsb, .dstStartLsb, .dstStartMsb],
      m'.channelReg base r = m.channelReg base r) : m'.Programmed base b transfers := by
  rcases programmed with ⟨ctrl0, yields⟩
  refine ⟨by rw [regs .ctrl0 (by decide), ctrl0], ?_⟩
  simp only [WalkYields, walkTransfers, deviceWalk, startAddress, mem,
    regs .srcStartLsb (by decide), regs .srcStartMsb (by decide), regs .dstStartLsb (by decide),
    regs .dstStartMsb (by decide)]
  exact yields

theorem Machine.startAddress_of {m : Machine} {base ptr : BitVec 64} {lsb msb : Register}
    (low : m.channelReg base lsb = startLsb ptr) (high : m.channelReg base msb = startMsb ptr) :
    m.startAddress base lsb msb = ptr.toNat % 2 ^ 49 := by
  unfold startAddress
  rw [low, high, startLsb_toNat, startMsb_masked]
  omega

/-- Tables of `n` descriptors, the last source descriptor alone marked `STOP`, are walked slot
    by slot. -/
theorem Machine.deviceWalk_table {m : Machine} {base : BitVec 64} (b : SharedBuffer)
    (dstOffset : ℕ) {n : ℕ} (src dst : ℕ → LiDscr)
    (srcStart : m.startAddress base .srcStartLsb .srcStartMsb = b.phys)
    (dstStart : m.startAddress base .dstStartLsb .dstStartMsb = b.phys + dstOffset)
    (srcSlot : ∀ j < n, liDscrAt (window m.mem b.virt) (16 * j) = src j)
    (dstSlot : ∀ j < n, liDscrAt (window m.mem b.virt) (dstOffset + 16 * j) = dst j)
    (marked : ∀ j < n, stops (src j, dst j) = decide (j + 1 = n))
    (room : dstOffset + 16 * n ≤ b.length) (positive : 0 < n) {fuel : ℕ} (enough : n ≤ fuel) :
    m.deviceWalk base b fuel = some ((List.range n).map fun j =>
      ((b.phys + 16 * j, b.phys + dstOffset + 16 * j), (src j, dst j))) := by
  have table := @follow_table _ _ (fetchPair b m.mem) stops nextPair
    (fun j => (b.phys + 16 * j, b.phys + dstOffset + 16 * j)) (fun j => (src j, dst j)) n 0 fuel
    positive
    (by
      intro j hj
      have inside : b.holds (b.phys + 16 * j) ∧ b.holds (b.phys + dstOffset + 16 * j) := by
        simp only [SharedBuffer.holds]
        omega
      have srcAt : b.phys + 16 * j - b.phys = 16 * j := by omega
      have dstAt : b.phys + dstOffset + 16 * j - b.phys = dstOffset + 16 * j := by omega
      unfold fetchPair
      rw [if_pos inside, srcAt, dstAt, srcSlot j hj, dstSlot j hj])
    (by intro j _; simp only [nextPair, Prod.mk.injEq]; omega)
    marked (by omega)
  unfold deviceWalk
  rw [srcStart, dstStart, List.range_eq_range']
  simpa using table

namespace XZDma

theorem srcLiDscr_stops {data : Transfer} (run : data.pause ≠ TRUE) (isLast : Bool) (d : LiDscr) :
    stops (srcLiDscr data isLast, d) = isLast := by
  simp only [stops, srcLiDscr, srcCtrlValue, if_neg run]
  cases isLast <;> by_cases coherent : data.srcCoherent = TRUE <;> simp [coherent] <;> decide

end XZDma

end ZynqmpDma
