import ZynqmpDma.Process.Kernel
import ZynqmpDma.Process.Scan

namespace ZynqmpDma

/-- A sysfs attribute as the kernel returns it, and what the buffer held before the read. -/
structure Attr where
  text : List Char
  stale : List Char

def Attr.buffer (attr : Attr) : List Char :=
  let filled := attr.text.take 1024
  (filled ++ attr.stale.drop filled.length).takeWhile (· ≠ '\x00')

structure MapOutcome where
  sizeAttr : Option Attr
  addrAttr : Option Attr
  devOpens : Bool
  mmaps : Bool

/-- The fields of `udmabuf` and of `uio`, which are the same; value-initialised to zero. -/
structure MappedDevice where
  fd : ℤ := 0
  buf : ℕ := 0
  deviceName : String := ""
  size : BitVec 32 := 0
  physAddr : BitVec 32 := 0

structure DeviceClass where
  sysDir : String
  sizeFile : String
  addrFile : String
  scanSize : List Char → BitVec 32 → BitVec 32

namespace MappedDevice

/-- The end of `map`: open the device file and map `size` bytes of it. A failed `mmap` closes
    the file, but the function still returns 0. -/
def mapBuffer (k : Kernel) (o : MapOutcome) (self : MappedDevice) (p : Process) :
    ℤ × MappedDevice × Process :=
  let path := "/dev/" ++ self.deviceName
  if o.devOpens then
    let fd := k.freshFd p
    let p := p.openFd k path
    -- `mmap` of no bytes fails whatever room there is
    if o.mmaps ∧ self.size ≠ 0 then
      (0, { self with fd := fd, buf := p.mmapAddr k self.size.toNat }, p.mmap k self.size.toNat)
    else
      (0, { self with fd := fd, buf := mapFailed }, (p.mmapFails self.size.toNat).close fd)
  else
    (-3, { self with fd := -1 }, p.openFails path)

def readAttr (k : Kernel) (path : String) (p : Process) : Process :=
  (p.openFd k path).close (k.freshFd p)

def map (c : DeviceClass) (k : Kernel) (o : MapOutcome) (device : String) (self : MappedDevice)
    (p : Process) : ℤ × MappedDevice × Process :=
  let self := { self with deviceName := device }
  let sizePath := c.sysDir ++ device ++ c.sizeFile
  let addrPath := c.sysDir ++ device ++ c.addrFile
  match o.sizeAttr with
  | none => (-1, self, p.openFails sizePath)
  | some sizeAttr =>
    let self := { self with size := c.scanSize sizeAttr.buffer self.size }
    let p := readAttr k sizePath p
    match o.addrAttr with
    | none => (-2, self, p.openFails addrPath)
    | some addrAttr =>
      let self := { self with physAddr := scanX addrAttr.buffer self.physAddr }
      mapBuffer k o self (readAttr k addrPath p)

def destroy (k : Kernel) (self : MappedDevice) (p : Process) : Process :=
  (p.munmap k self.buf k.pageSize).close self.fd

end MappedDevice

def udmabuf : DeviceClass where
  sysDir := "/sys/class/udmabuf/"
  sizeFile := "/size"
  addrFile := "/phys_addr"
  scanSize := scanD

def uio : DeviceClass where
  sysDir := "/sys/class/uio/"
  sizeFile := "/maps/map0/size"
  addrFile := "/maps/map0/addr"
  scanSize := scanX

end ZynqmpDma
