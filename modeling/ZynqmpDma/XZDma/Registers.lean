import Mathlib.Data.List.Basic

namespace ZynqmpDma.XZDma

inductive Register
  | isr | ien | ids | ctrl0 | ctrl1 | sts | dataAttr | dscrAttr
  | srcDscrWord0 | srcDscrWord1 | srcDscrWord2 | srcDscrWord3
  | dstDscrWord0 | dstDscrWord1 | dstDscrWord2 | dstDscrWord3
  | srcStartLsb | srcStartMsb | dstStartLsb | dstStartMsb
  | totalByte | irqSrcAcct | irqDstAcct | ctrl2
deriving DecidableEq, Repr

def Register.offset : Register → BitVec 64
  | isr => 0x100
  | ien => 0x108
  | ids => 0x10C
  | ctrl0 => 0x110
  | ctrl1 => 0x114
  | sts => 0x11C
  | dataAttr => 0x120
  | dscrAttr => 0x124
  | srcDscrWord0 => 0x128
  | srcDscrWord1 => 0x12C
  | srcDscrWord2 => 0x130
  | srcDscrWord3 => 0x134
  | dstDscrWord0 => 0x138
  | dstDscrWord1 => 0x13C
  | dstDscrWord2 => 0x140
  | dstDscrWord3 => 0x144
  | srcStartLsb => 0x158
  | srcStartMsb => 0x15C
  | dstStartLsb => 0x160
  | dstStartMsb => 0x164
  | totalByte => 0x188
  | irqSrcAcct => 0x190
  | irqDstAcct => 0x194
  | ctrl2 => 0x200

def Register.all : List Register :=
  [isr, ien, ids, ctrl0, ctrl1, sts, dataAttr, dscrAttr,
    srcDscrWord0, srcDscrWord1, srcDscrWord2, srcDscrWord3,
    dstDscrWord0, dstDscrWord1, dstDscrWord2, dstDscrWord3,
    srcStartLsb, srcStartMsb, dstStartLsb, dstStartMsb,
    totalByte, irqSrcAcct, irqDstAcct, ctrl2]

theorem Register.mem_all (r : Register) : r ∈ all := by
  cases r <;> decide

theorem Register.offset_inj (r r' : Register) : r.offset = r'.offset ↔ r = r' := by
  have distinct : ∀ r ∈ all, ∀ r' ∈ all, r.offset = r'.offset → r = r' := by decide
  exact ⟨distinct r r.mem_all r' r'.mem_all, congrArg Register.offset⟩

@[simp] theorem Register.address_inj (base : BitVec 64) (r r' : Register) :
    base + r.offset = base + r'.offset ↔ r = r' := by
  rw [BitVec.add_right_inj, Register.offset_inj]

def ixrAllIntrMask : BitVec 32 := 0x00000FFF

def ctrl0OvrFetchMask : BitVec 32 := 0x00000080
def ctrl0PointTypeMask : BitVec 32 := 0x00000040
def ctrl0ModeMask : BitVec 32 := 0x00000030
def ctrl0WronlyMask : BitVec 32 := 0x00000010
def ctrl0RdonlyMask : BitVec 32 := 0x00000020
def ctrl0ContAddrMask : BitVec 32 := 0x00000004
def ctrl0ContMask : BitVec 32 := 0x00000002
def ctrl0OvrFetchShift : ℕ := 7
def ctrl0PointTypeShift : ℕ := 6
def ctrl0ModeShift : ℕ := 4
def ctrl0ResetValue : BitVec 32 := 0x00000080

def ctrl1SrcIssueMask : BitVec 32 := 0x0000001F
def ctrl1ResetValue : BitVec 32 := 0x000003FF

def stsDoneErrMask : BitVec 32 := 0x00000003
def stsBusyMask : BitVec 32 := 0x00000002
def stsPauseMask : BitVec 32 := 0x00000001
def stsDoneMask : BitVec 32 := 0x00000000
def stsAllMask : BitVec 32 := 0x00000003

def dataAttrArburstMask : BitVec 32 := 0x0C000000
def dataAttrArcacheMask : BitVec 32 := 0x03C00000
def dataAttrArqosMask : BitVec 32 := 0x003C0000
def dataAttrArlenMask : BitVec 32 := 0x0003C000
def dataAttrAwburstMask : BitVec 32 := 0x00003000
def dataAttrAwcacheMask : BitVec 32 := 0x00000F00
def dataAttrAwqosMask : BitVec 32 := 0x000000F0
def dataAttrAwlenMask : BitVec 32 := 0x0000000F
def dataAttrArburstShift : ℕ := 26
def dataAttrArcacheShift : ℕ := 22
def dataAttrArqosShift : ℕ := 18
def dataAttrArlenShift : ℕ := 14
def dataAttrAwburstShift : ℕ := 12
def dataAttrAwcacheShift : ℕ := 8
def dataAttrAwqosShift : ℕ := 4
def dataAttrResetValue : BitVec 32 := 0x0483D20F

def dscrAttrAxcohrntMask : BitVec 32 := 0x00000100
def dscrAttrAxcacheMask : BitVec 32 := 0x000000F0
def dscrAttrAxqosMask : BitVec 32 := 0x0000000F
def dscrAttrAxcohrntShift : ℕ := 8
def dscrAttrAxcacheShift : ℕ := 4
def dscrAttrResetValue : BitVec 32 := 0x00000000

def word0LsbMask : BitVec 64 := 0xFFFFFFFF
def word1MsbMask : BitVec 64 := 0x0001FFFF
def word1MsbShift : ℕ := 32
def word2SizeMask : BitVec 32 := 0x3FFFFFFF
def word3CmdMask : BitVec 32 := 0x00000018
def word3CmdNxtvalidMask : BitVec 32 := 0x00000000
def word3CmdPauseMask : BitVec 32 := 0x00000008
def word3CmdStopMask : BitVec 32 := 0x00000010
def word3CohrntMask : BitVec 32 := 0x00000001
def startMsbAddrMask : BitVec 32 := 0x0001FFFF

def chCtrl2EnMask : BitVec 32 := 0x00000001
def chCtrl2DisMask : BitVec 32 := 0x00000000

end ZynqmpDma.XZDma
