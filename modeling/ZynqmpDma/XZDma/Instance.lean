import Mathlib.Init

namespace ZynqmpDma

namespace XZDma

inductive DscrType
  | linear | linkedList
deriving DecidableEq, Repr

inductive Mode
  | normalMode | wronlyMode | rdonlyMode
deriving DecidableEq, Repr

inductive State
  | idle | pause | busy
deriving DecidableEq, Repr

inductive BurstType
  | fixedBurst | incrBurst
deriving DecidableEq, Repr

def BurstType.toU32 : BurstType → BitVec 32
  | fixedBurst => 0
  | incrBurst => 1

/-- `TRUE` and `FALSE` of `xil_types.h`, in the byte-sized flags of the driver. -/
def TRUE : BitVec 8 := 1
def FALSE : BitVec 8 := 0

/-- The descriptor tables, once at the addresses the driver writes to and once at those
    the channel reads from. -/
structure Descriptor where
  srcDscrPtr : BitVec 64
  physSrcDscrPtr : BitVec 64
  dstDscrPtr : BitVec 64
  physDstDscrPtr : BitVec 64
  dscrCount : BitVec 32
  dscrType : DscrType
deriving DecidableEq, Repr

structure DataConfig where
  overFetch : BitVec 8
  srcIssue : BitVec 8
  srcBurstType : BurstType
  srcBurstLen : BitVec 8
  dstBurstType : BurstType
  dstBurstLen : BitVec 8
  srcCache : BitVec 8
  srcQos : BitVec 8
  dstCache : BitVec 8
  dstQos : BitVec 8
deriving DecidableEq, Repr

structure DscrConfig where
  axCoherent : BitVec 8
  axCache : BitVec 8
  axQos : BitVec 8
deriving DecidableEq, Repr

structure Config where
  deviceId : BitVec 16
  baseAddress : BitVec 64
  dmaType : BitVec 8
  isCacheCoherent : BitVec 8
deriving DecidableEq, Repr

structure Transfer where
  srcAddr : BitVec 64
  dstAddr : BitVec 64
  size : BitVec 32
  srcCoherent : BitVec 8
  dstCoherent : BitVec 8
  pause : BitVec 8
deriving DecidableEq, Repr

end XZDma

/-- The driver instance. The callback fields are left out: no function here calls them. -/
structure XZDma where
  config : XZDma.Config
  isReady : BitVec 32
  intrMask : BitVec 32
  mode : XZDma.Mode
  isSgDma : BitVec 8
  descriptor : XZDma.Descriptor
  dataConfig : XZDma.DataConfig
  dscrConfig : XZDma.DscrConfig
  channelState : XZDma.State
deriving DecidableEq, Repr

def XZDma.zeroed : XZDma where
  config := ⟨0, 0, 0, 0⟩
  isReady := 0
  intrMask := 0
  mode := .normalMode
  isSgDma := 0
  descriptor := ⟨0, 0, 0, 0, 0, .linear⟩
  dataConfig := ⟨0, 0, .fixedBurst, 0, .fixedBurst, 0, 0, 0, 0, 0⟩
  dscrConfig := ⟨0, 0, 0⟩
  channelState := .idle

end ZynqmpDma
