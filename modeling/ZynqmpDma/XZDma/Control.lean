import ZynqmpDma.XZDma.System

namespace ZynqmpDma.XZDma

def xstSuccess : ℤ := 0
def xstFailure : ℤ := 1

def xilComponentIsReady : BitVec 32 := 0x11111111

def enableCh : Prog Unit := writeReg .ctrl2 chCtrl2EnMask
def disableCh : Prog Unit := writeReg .ctrl2 chCtrl2DisMask

def disableIntr (env : Env) (mask : BitVec 32) : Prog Unit := do
  let current ← readReg env .ids
  writeReg .ids (current ||| (mask &&& ixrAllIntrMask))

def intrClear (mask : BitVec 32) : Prog Unit := writeReg .isr (mask &&& ixrAllIntrMask)

def totalByteClear (env : Env) : Prog Unit := do
  let count ← readReg env .totalByte
  writeReg .totalByte count

def getSrcIntrCnt (env : Env) : Prog (BitVec 32) := readReg env .irqSrcAcct
def getDstIntrCnt (env : Env) : Prog (BitVec 32) := readReg env .irqDstAcct

def resetCoherence (isCacheCoherent : BitVec 8) : Prog Unit :=
  if isCacheCoherent ≠ 0 then do
    writeReg .dscrAttr (isCacheCoherent.setWidth 32 <<< dscrAttrAxcohrntShift)
    writeReg .srcDscrWord3 (isCacheCoherent.setWidth 32 &&& word3CohrntMask)
    writeReg .dstDscrWord3 (isCacheCoherent.setWidth 32 &&& word3CohrntMask)
  else pure ()

def reset (env : Env) : Prog Unit := do
  let inst ← getInstance
  xilAssert env (inst.channelState = .idle) () do
    disableCh
    disableIntr env ixrAllIntrMask
    intrClear ixrAllIntrMask
    setInstance fun i => { i with intrMask := 0 }
    writeReg .ctrl0 ctrl0ResetValue
    writeReg .ctrl1 ctrl1ResetValue
    writeReg .dataAttr dataAttrResetValue
    writeReg .dscrAttr dscrAttrResetValue
    totalByteClear env
    let _ ← getSrcIntrCnt env
    let _ ← getDstIntrCnt env
    resetCoherence inst.config.isCacheCoherent
    setInstance fun i => { i with channelState := .idle }

def resetDataConfig : DataConfig where
  overFetch := 1
  srcIssue := 0x1F
  srcBurstType := .incrBurst
  srcBurstLen := 0xF
  dstBurstType := .incrBurst
  dstBurstLen := 0xF
  srcCache := 0x2
  srcQos := 0x0
  dstCache := 0x2
  dstQos := 0x0

def getConfigurations : Prog Unit :=
  setInstance fun i =>
    { i with
      dataConfig := resetDataConfig
      dscrConfig := { axCoherent := 0, axCache := 0, axQos := 0 } }

def cfgInitialize (env : Env) (cfg : Config) (effectiveAddr : BitVec 64) : Prog ℤ :=
  xilAssert env (effectiveAddr ≠ 0) 0 do
    setInstance fun i =>
      { i with
        config := { cfg with baseAddress := effectiveAddr }
        isReady := xilComponentIsReady
        isSgDma := FALSE
        mode := .normalMode
        intrMask := 0
        channelState := .idle }
    reset env
    getConfigurations
    pure xstSuccess

def selfTest (env : Env) : Prog ℤ := do
  let data ← readReg env .ctrl0
  writeReg .ctrl0 (data ||| ctrl0OvrFetchMask)
  let changed ← readReg env .ctrl0
  let status := if changed &&& ctrl0OvrFetchMask ≠ ctrl0OvrFetchMask then xstFailure else xstSuccess
  writeReg .ctrl0 data
  pure status

def simpleModeBits (data : BitVec 32) : Mode → BitVec 32
  | .normalMode => data &&& ~~~ctrl0ModeMask
  | .wronlyMode => data ||| ctrl0WronlyMask
  | .rdonlyMode => data ||| ctrl0RdonlyMask

def sgModeBits (data : BitVec 32) : BitVec 32 := (data ||| ctrl0PointTypeMask) &&& ~~~ctrl0ModeMask

def setMode (env : Env) (isSgDma : BitVec 8) (mode : Mode) : Prog ℤ :=
  xilAssert env (isSgDma = TRUE ∨ isSgDma = FALSE) 0 do
    let inst ← getInstance
    if inst.channelState ≠ .idle then pure xstFailure
    else do
      let data ← readReg env .ctrl0
      if isSgDma ≠ TRUE then do
        writeReg .ctrl0 (simpleModeBits (data &&& ~~~ctrl0PointTypeMask) mode)
        setInstance fun i => { i with isSgDma := FALSE, mode := mode }
        pure xstSuccess
      else if mode ≠ .normalMode then pure xstFailure
      else do
        writeReg .ctrl0 (sgModeBits data)
        setInstance fun i => { i with isSgDma := TRUE, mode := mode }
        pure xstSuccess

def overFetchBits (data : BitVec 32) (configure : DataConfig) : BitVec 32 :=
  data &&& ~~~ctrl0OvrFetchMask |||
    ((configure.overFetch.setWidth 32 <<< ctrl0OvrFetchShift) &&& ctrl0OvrFetchMask)

def srcIssueBits (data : BitVec 32) (configure : DataConfig) : BitVec 32 :=
  data &&& ~~~ctrl1SrcIssueMask ||| (configure.srcIssue.setWidth 32 &&& ctrl1SrcIssueMask)

def dataAttrMask : BitVec 32 :=
  dataAttrArburstMask ||| dataAttrArlenMask ||| dataAttrAwburstMask ||| dataAttrAwlenMask |||
    dataAttrArcacheMask ||| dataAttrAwcacheMask ||| dataAttrAwqosMask ||| dataAttrArqosMask

def dataAttrBits (configure : DataConfig) : BitVec 32 :=
  ((configure.srcBurstType.toU32 <<< dataAttrArburstShift) &&& dataAttrArburstMask) |||
  ((configure.srcCache.setWidth 32 <<< dataAttrArcacheShift) &&& dataAttrArcacheMask) |||
  ((configure.srcQos.setWidth 32 <<< dataAttrArqosShift) &&& dataAttrArqosMask) |||
  ((configure.srcBurstLen.setWidth 32 <<< dataAttrArlenShift) &&& dataAttrArlenMask) |||
  ((configure.dstBurstType.toU32 <<< dataAttrAwburstShift) &&& dataAttrAwburstMask) |||
  ((configure.dstCache.setWidth 32 <<< dataAttrAwcacheShift) &&& dataAttrAwcacheMask) |||
  ((configure.dstQos.setWidth 32 <<< dataAttrAwqosShift) &&& dataAttrAwqosMask) |||
  (configure.dstBurstLen.setWidth 32 &&& dataAttrAwlenMask)

def setChDataConfig (env : Env) (configure : DataConfig) : Prog ℤ := do
  let inst ← getInstance
  if inst.channelState ≠ .idle then pure xstFailure
  else do
    setInstance fun i => { i with dataConfig := configure }
    let data ← readReg env .ctrl0
    writeReg .ctrl0 (overFetchBits data configure)
    let data ← readReg env .ctrl1
    writeReg .ctrl1 (srcIssueBits data configure)
    let data ← readReg env .dataAttr
    writeReg .dataAttr (data &&& ~~~dataAttrMask ||| dataAttrBits configure)
    pure xstSuccess

def dscrAttrBits (configure : DscrConfig) : BitVec 32 :=
  ((configure.axCoherent.setWidth 32 <<< dscrAttrAxcohrntShift) &&& dscrAttrAxcohrntMask) |||
  ((configure.axCache.setWidth 32 <<< dscrAttrAxcacheShift) &&& dscrAttrAxcacheMask) |||
  (configure.axQos.setWidth 32 &&& dscrAttrAxqosMask)

def setChDscrConfig (configure : DscrConfig) : Prog ℤ := do
  let inst ← getInstance
  if inst.channelState ≠ .idle then pure xstFailure
  else do
    setInstance fun i => { i with dscrConfig := configure }
    writeReg .dscrAttr (dscrAttrBits configure)
    pure xstSuccess

def resumeBits (data : BitVec 32) : BitVec 32 := data &&& ~~~ctrl0ContAddrMask ||| ctrl0ContMask

def resume (env : Env) : Prog Unit := do
  let inst ← getInstance
  xilAssert env (inst.isSgDma = TRUE) () <| xilAssert env (inst.channelState = .pause) () do
    let value ← readReg env .ctrl0
    setInstance fun i => { i with channelState := .busy }
    writeReg .ctrl0 (resumeBits value)

def stateOf (value : BitVec 32) : State :=
  if value &&& stsAllMask = stsDoneMask ∨ value &&& stsAllMask = stsDoneErrMask then .idle
  else if value &&& stsAllMask = stsPauseMask then .pause
  else .busy

/-- `XZDma_ChannelState`, which looks at the channel and not at `ChannelState`. -/
def xzdmaChannelState (env : Env) : Prog State := do
  let value ← readReg env .sts
  pure (stateOf value)

def enable : Prog Unit := do
  let inst ← getInstance
  writeReg .ien (inst.intrMask &&& ixrAllIntrMask)
  setInstance fun i => { i with channelState := .busy }
  enableCh

end ZynqmpDma.XZDma
