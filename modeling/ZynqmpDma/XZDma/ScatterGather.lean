import ZynqmpDma.XZDma.Control

namespace ZynqmpDma.XZDma

def sizeofLiDscr : BitVec 32 := 16

def sizeofLlDscr : BitVec 32 := 32

def createBDList (env : Env) (typeOfDscr : DscrType) (dscrMemPtr descrPhysMemPtr : BitVec 64)
    (noOfBytes : BitVec 32) : Prog (BitVec 32) :=
  xilAssert env (dscrMemPtr ≠ 0) 0 <| xilAssert env (noOfBytes ≠ 0) 0 do
    let size := if typeOfDscr = .linear then sizeofLiDscr else sizeofLlDscr
    let dscrCount := (noOfBytes >>> 1) / size
    setInstance fun i =>
      { i with
        descriptor :=
          { dscrType := typeOfDscr
            dscrCount := dscrCount
            srcDscrPtr := dscrMemPtr
            physSrcDscrPtr := descrPhysMemPtr
            dstDscrPtr := dscrMemPtr + (size * dscrCount).setWidth 64
            physDstDscrPtr := descrPhysMemPtr + (size * dscrCount).setWidth 64 } }
    pure dscrCount

def configLinear (env : Env) (dscrPtr addr : BitVec 64) (size ctrlValue : BitVec 32) : Prog Unit :=
  xilAssert env (dscrPtr ≠ 0) () <| xilAssert env (addr ≠ 0) () do
    storeMem dscrPtr 8 addr.toNat
    storeMem (dscrPtr + 8) 4 (size &&& word2SizeMask).toNat
    storeMem (dscrPtr + 12) 4 ctrlValue.toNat

/-- Word 3 of a source descriptor: a pause request wins over the end of the list. -/
def srcCtrlValue (data : Transfer) (isLast : Bool) : BitVec 32 :=
  let value :=
    if data.pause = TRUE then word3CmdPauseMask
    else if isLast then word3CmdStopMask
    else word3CmdNxtvalidMask
  if data.srcCoherent = TRUE then value ||| word3CohrntMask else value

def dstCtrlValue (data : Transfer) : BitVec 32 :=
  if data.dstCoherent = TRUE then 0 ||| word3CohrntMask else 0

def linearMode (env : Env) (data : Transfer) (srcDscrPtr dstDscrPtr : BitVec 64) (isLast : Bool) :
    Prog Unit :=
  xilAssert env (srcDscrPtr ≠ 0) () <| xilAssert env (dstDscrPtr ≠ 0) () do
    configLinear env srcDscrPtr data.srcAddr data.size (srcCtrlValue data isLast)
    configLinear env dstDscrPtr data.dstAddr data.size (dstCtrlValue data)

def configLinkedList (env : Env) (dscrPtr addr : BitVec 64) (size ctrlValue : BitVec 32)
    (nextDscrAddr : BitVec 64) : Prog Unit :=
  xilAssert env (dscrPtr ≠ 0) () <| xilAssert env (addr ≠ 0) () do
    storeMem dscrPtr 8 addr.toNat
    storeMem (dscrPtr + 8) 4 (size &&& word2SizeMask).toNat
    storeMem (dscrPtr + 12) 4 ctrlValue.toNat
    storeMem (dscrPtr + 16) 8 nextDscrAddr.toNat
    storeMem (dscrPtr + 24) 8 0

def nextDscrAddr (dscrPtr : BitVec 64) (isLast : Bool) : BitVec 64 :=
  if isLast then 0 else dscrPtr + 32

def linkedListMode (env : Env) (data : Transfer) (srcDscrPtr dstDscrPtr : BitVec 64)
    (isLast : Bool) : Prog Unit :=
  xilAssert env (srcDscrPtr ≠ 0) () <| xilAssert env (dstDscrPtr ≠ 0) () do
    configLinkedList env srcDscrPtr data.srcAddr data.size (srcCtrlValue data isLast)
      (nextDscrAddr srcDscrPtr isLast)
    configLinkedList env dstDscrPtr data.dstAddr data.size (dstCtrlValue data)
      (nextDscrAddr dstDscrPtr isLast)

/-- The `do … while (Count < Num)` loop of `XZDma_ScatterGather`; the first argument bounds
    its iterations for the model. -/
def dscrLoop (mode : Transfer → BitVec 64 → BitVec 64 → Bool → Prog Unit) (stride : BitVec 64)
    (data : ℕ → Transfer) (num : BitVec 32) :
    ℕ → BitVec 32 → Bool → ℕ → BitVec 64 → BitVec 64 → Prog Unit
  | 0, _, _, _, _, _ => throw .loopBound
  | fuel + 1, count, last, localData, srcDscr, dstDscr => do
    let last := if count = num - 1 then true else last
    mode (data localData) srcDscr dstDscr last
    if count + 1 < num then
      dscrLoop mode stride data num fuel (count + 1) last (localData + 1)
        (srcDscr + stride) (dstDscr + stride)
    else pure ()

def startLsb (ptr : BitVec 64) : BitVec 32 := (ptr &&& word0LsbMask).setWidth 32

def startMsb (ptr : BitVec 64) : BitVec 32 := ((ptr >>> word1MsbShift) &&& word1MsbMask).setWidth 32

def writeDescriptors (env : Env) (dscr : Descriptor) (data : ℕ → Transfer) (num : BitVec 32) :
    Prog Unit :=
  if dscr.dscrType = .linear then
    dscrLoop (linearMode env) 16 data num (num.toNat + 1) 0 false 0 dscr.srcDscrPtr dscr.dstDscrPtr
  else
    dscrLoop (linkedListMode env) 32 data num (num.toNat + 1) 0 false 0 dscr.srcDscrPtr
      dscr.dstDscrPtr

def scatterGather (env : Env) (data : ℕ → Transfer) (num : BitVec 32) : Prog Unit :=
  xilAssert env (num ≠ 0) () do
    let inst ← getInstance
    writeDescriptors env inst.descriptor data num
    writeReg .srcStartLsb (startLsb inst.descriptor.physSrcDscrPtr)
    writeReg .srcStartMsb (startMsb inst.descriptor.physSrcDscrPtr)
    writeReg .dstStartLsb (startLsb inst.descriptor.physDstDscrPtr)
    writeReg .dstStartMsb (startMsb inst.descriptor.physDstDscrPtr)

def simpleMode (data : Transfer) : Prog Unit := do
  writeReg .srcDscrWord0 ((data.srcAddr &&& word0LsbMask).setWidth 32)
  writeReg .srcDscrWord1 (((data.srcAddr >>> word1MsbShift) &&& word1MsbMask).setWidth 32)
  writeReg .dstDscrWord0 ((data.dstAddr &&& word0LsbMask).setWidth 32)
  writeReg .dstDscrWord1 (((data.dstAddr >>> word1MsbShift) &&& word1MsbMask).setWidth 32)
  writeReg .srcDscrWord2 (data.size &&& word2SizeMask)
  writeReg .dstDscrWord2 (data.size &&& word2SizeMask)
  writeReg .srcDscrWord3 (data.srcCoherent.setWidth 32 &&& word3CohrntMask)
  writeReg .dstDscrWord3 (data.dstCoherent.setWidth 32 &&& word3CohrntMask)

def start (env : Env) (data : ℕ → Transfer) (num : BitVec 32) : Prog ℤ :=
  xilAssert env (num ≠ 0) 0 do
    let inst ← getInstance
    if inst.channelState = .busy ∧ num ≥ inst.descriptor.dscrCount then pure xstFailure
    else if inst.isSgDma ≠ TRUE then do
      simpleMode (data 0)
      pure xstSuccess
    else do
      scatterGather env data num
      pure xstSuccess

end ZynqmpDma.XZDma
