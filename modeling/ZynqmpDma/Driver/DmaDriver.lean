import ZynqmpDma.Process.Mapping
import ZynqmpDma.XZDma.ScatterGather

namespace ZynqmpDma

open XZDma

structure TransferRequest where
  srcAddr : BitVec 32
  destAddr : BitVec 32
  transferLength : BitVec 32
deriving DecidableEq, Repr

/-- The mapped members of `DmaDriverImpl`. Its last member, the `XZDma` instance, is the part
    of the driver object that calls change, and lives in `System`. -/
structure DmaDriverImpl where
  dataBuf : MappedDevice := {}
  cfgBuf : MappedDevice := {}
  uioDma : MappedDevice := {}

def activateFpdDmaClk (env : Env) : Prog ℤ := fun s =>
  if env.devMemOpens then
    let fd := env.kernel.freshFd s.process
    let p := s.process.openFd env.kernel "/dev/mem"
    if env.devMemMmaps then
      let addr := p.mmapAddr env.kernel env.kernel.pageSize
      let p := p.mmap env.kernel env.kernel.pageSize
      let clk := s.machine.fpdDmaRefCtrl ||| 0x1000000
      .ok 0 { s with
        machine := { s.machine with fpdDmaRefCtrl := clk }
        process := (p.munmap env.kernel addr env.kernel.pageSize).close fd }
    else .ok (-2) { s with process := (p.mmapFails env.kernel.pageSize).close fd }
  else .ok (-1) { s with process := s.process.openFails "/dev/mem" }

namespace DmaDriverImpl

variable (d : DmaDriverImpl)

def map (k : Kernel) (dataOutcome cfgOutcome uioOutcome : MapOutcome)
    (uioDmaDriverDevice udmaDataBufDevice udmaCfgBufDevice : String) (p : Process) :
    ℤ × DmaDriverImpl × Process :=
  match d.dataBuf.map udmabuf k dataOutcome udmaDataBufDevice p with
  | (status, dataBuf, p) =>
    let d := { d with dataBuf }
    if status ≠ 0 then (-1, d, p)
    else match d.cfgBuf.map udmabuf k cfgOutcome udmaCfgBufDevice p with
      | (status, cfgBuf, p) =>
        let d := { d with cfgBuf }
        if status ≠ 0 then (-1, d, p)
        else match d.uioDma.map uio k uioOutcome uioDmaDriverDevice p with
          | (status, uioDma, p) =>
            let d := { d with uioDma }
            if status ≠ 0 then (-1, d, p) else (0, d, p)

/-- The members are destroyed in the reverse order of their declaration. -/
def destroy (k : Kernel) (p : Process) : Process :=
  d.dataBuf.destroy k (d.cfgBuf.destroy k (d.uioDma.destroy k p))

def getBuffer : ℕ := d.dataBuf.buf
def getBufferPhysAddr : BitVec 32 := d.dataBuf.physAddr
def getBufferSize : BitVec 32 := d.dataBuf.size

def cfgAddr : BitVec 64 := BitVec.ofNat 64 d.cfgBuf.buf

/-- The `Config` that `configureDMA` builds; what the initialiser leaves out is zero. -/
def zdmaConfig : Config where
  deviceId := 0
  baseAddress := BitVec.ofNat 64 d.uioDma.buf
  dmaType := 0
  isCacheCoherent := 0

def zdmaDataConfig : DataConfig where
  overFetch := 1
  srcIssue := 0x1F
  srcBurstType := .incrBurst
  srcBurstLen := 0xF
  dstBurstType := .incrBurst
  dstBurstLen := 0xF
  srcCache := 0x2
  dstCache := 0x2
  srcQos := 0
  dstQos := 0

def transferOf (request : TransferRequest) : Transfer where
  dstAddr := request.destAddr.setWidth 64
  dstCoherent := 1
  pause := 0
  srcAddr := request.srcAddr.setWidth 64
  srcCoherent := 1
  size := request.transferLength

/-- The array `Data` after the loop over the requests: the rest keeps what the stack held. -/
def transferData (env : Env) (requests : List TransferRequest) : ℕ → Transfer := fun i =>
  match requests[i]? with
  | some request => transferOf request
  | none => env.stackData i

/-- `configureDMA` from the self-test on. -/
def configureChannel (env : Env) (requests : List TransferRequest) : Prog ℤ := do
  let status ← selfTest env
  if status ≠ xstSuccess then pure xstFailure
  else do
    let status ← setMode env TRUE .normalMode
    if status ≠ xstSuccess then pure xstFailure
    else do
      let _ ← createBDList env .linear d.cfgAddr (d.cfgBuf.physAddr.setWidth 64) 4096
      let _ ← setChDataConfig env zdmaDataConfig
      let _ ← start env (transferData env requests) (BitVec.ofNat 32 requests.length)
      pure 0

def configureDMA (env : Env) (requests : List TransferRequest) : Prog ℤ :=
  if requests.length > 32 then pure (-10)
  else do
    let clk ← activateFpdDmaClk env
    if clk ≠ 0 then pure (-1)
    else do
      let status ← cfgInitialize env d.zdmaConfig d.zdmaConfig.baseAddress
      if status ≠ xstSuccess then pure xstFailure else d.configureChannel env requests

/-- `startDMA`, which reports success whatever state the channel is in. -/
def startDMA : Prog ℤ := do
  enable
  pure 0

def checkDMAStatus (env : Env) : Prog (BitVec 32) := do
  let value ← readReg env .sts
  pure (value &&& stsAllMask)

end DmaDriverImpl

/-- `getDmaDriver`: no driver when `map` fails, and then what was built is destroyed. -/
def getDmaDriver (k : Kernel) (dataOutcome cfgOutcome uioOutcome : MapOutcome)
    (uioDmaDriverDevice udmaDataBufDevice udmaCfgBufDevice : String) (p : Process) :
    Option DmaDriverImpl × Process :=
  match ({} : DmaDriverImpl).map k dataOutcome cfgOutcome uioOutcome uioDmaDriverDevice
      udmaDataBufDevice udmaCfgBufDevice p with
  | (status, d, p) => if status ≠ 0 then (none, d.destroy k p) else (some d, p)

end ZynqmpDma
