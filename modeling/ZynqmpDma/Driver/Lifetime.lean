import ZynqmpDma.Driver.DmaDriver
import ZynqmpDma.Process.MapRuns

namespace ZynqmpDma

/-- A call of `getDmaDriver`: its arguments, and what the system calls it makes will meet. -/
structure Attempt where
  kernel : Kernel
  dataOutcome : MapOutcome
  cfgOutcome : MapOutcome
  uioOutcome : MapOutcome
  uioDmaDriverDevice : String
  udmaDataBufDevice : String
  udmaCfgBufDevice : String

namespace Attempt

variable (g : Attempt) (p : Process)

def result : Option DmaDriverImpl × Process :=
  getDmaDriver g.kernel g.dataOutcome g.cfgOutcome g.uioOutcome g.uioDmaDriverDevice
    g.udmaDataBufDevice g.udmaCfgBufDevice p

def lifetime : Process :=
  match g.result p with
  | (some d, q) => d.destroy g.kernel q
  | (none, q) => q

def dataMap : ℤ × MappedDevice × Process :=
  ({} : MappedDevice).map udmabuf g.kernel g.dataOutcome g.udmaDataBufDevice p

def cfgMap : ℤ × MappedDevice × Process :=
  ({} : MappedDevice).map udmabuf g.kernel g.cfgOutcome g.udmaCfgBufDevice (g.dataMap p).2.2

def uioMap : ℤ × MappedDevice × Process :=
  ({} : MappedDevice).map uio g.kernel g.uioOutcome g.uioDmaDriverDevice (g.cfgMap p).2.2

def driver : DmaDriverImpl where
  dataBuf := (g.dataMap p).2.1
  cfgBuf := (g.cfgMap p).2.1
  uioDma := (g.uioMap p).2.1

def AllOpen : Prop := g.dataOutcome.Opens ∧ g.cfgOutcome.Opens ∧ g.uioOutcome.Opens

def AllMmap : Prop :=
  g.dataOutcome.Mmaps udmabuf ∧ g.cfgOutcome.Mmaps udmabuf ∧ g.uioOutcome.Mmaps uio

instance : Decidable g.AllOpen := inferInstanceAs (Decidable (_ ∧ _))

instance : Decidable g.AllMmap := inferInstanceAs (Decidable (_ ∧ _))

theorem map_eq :
    ({} : DmaDriverImpl).map g.kernel g.dataOutcome g.cfgOutcome g.uioOutcome g.uioDmaDriverDevice
        g.udmaDataBufDevice g.udmaCfgBufDevice p =
      if ¬ g.dataOutcome.Opens then (-1, { dataBuf := (g.dataMap p).2.1 }, (g.dataMap p).2.2)
      else if ¬ g.cfgOutcome.Opens then
        (-1, { dataBuf := (g.dataMap p).2.1, cfgBuf := (g.cfgMap p).2.1 }, (g.cfgMap p).2.2)
      else if ¬ g.uioOutcome.Opens then (-1, g.driver p, (g.uioMap p).2.2)
      else (0, g.driver p, (g.uioMap p).2.2) := by
  have dataStatus : (g.dataMap p).1 ≠ 0 ↔ ¬ g.dataOutcome.Opens :=
    not_congr (MappedDevice.map_status ..)
  have cfgStatus : (g.cfgMap p).1 ≠ 0 ↔ ¬ g.cfgOutcome.Opens :=
    not_congr (MappedDevice.map_status ..)
  have uioStatus : (g.uioMap p).1 ≠ 0 ↔ ¬ g.uioOutcome.Opens :=
    not_congr (MappedDevice.map_status ..)
  simp only [← dataStatus, ← cfgStatus, ← uioStatus]
  rfl

theorem result_opens (opens : g.AllOpen) :
    g.result p = (some (g.driver p), (g.uioMap p).2.2) := by
  rcases opens with ⟨data, cfg, uio⟩
  unfold result
  rw [getDmaDriver, g.map_eq]
  simp [data, cfg, uio]

theorem result_closed (closed : ¬ g.AllOpen) : (g.result p).1 = none := by
  unfold result
  rw [getDmaDriver, g.map_eq]
  by_cases data : g.dataOutcome.Opens
  · by_cases cfg : g.cfgOutcome.Opens
    · have uio : ¬ g.uioOutcome.Opens := fun uio => closed ⟨data, cfg, uio⟩
      simp [data, cfg, uio]
    · simp [data, cfg]
  · simp [data]

theorem lifetime_eq :
    g.lifetime p =
      if ¬ g.dataOutcome.Opens then
        ({ dataBuf := (g.dataMap p).2.1 } : DmaDriverImpl).destroy g.kernel (g.dataMap p).2.2
      else if ¬ g.cfgOutcome.Opens then
        ({ dataBuf := (g.dataMap p).2.1, cfgBuf := (g.cfgMap p).2.1 } : DmaDriverImpl).destroy
          g.kernel (g.cfgMap p).2.2
      else (g.driver p).destroy g.kernel (g.uioMap p).2.2 := by
  unfold lifetime
  rw [result, getDmaDriver, g.map_eq]
  by_cases data : g.dataOutcome.Opens
  · by_cases cfg : g.cfgOutcome.Opens
    · by_cases uio : g.uioOutcome.Opens <;> simp [data, cfg, uio]
    · simp [data, cfg]
  · simp [data]

/-- The process ends with the descriptors and pages it began with, and every descriptor it
    opened was closed once, no other one ever. -/
structure Balanced : Prop where
  fds : (g.lifetime p.unrecorded).fds = p.fds
  pages : (g.lifetime p.unrecorded).pages = p.pages
  owned : owned (g.lifetime p.unrecorded).calls = some []

section Balanced

variable {g p}

theorem Balanced.clean (balanced : g.Balanced p) :
    g.dataOutcome.Maps udmabuf ∧ g.cfgOutcome.Maps udmabuf ∧ g.uioOutcome.Clean uio := by
  have total := owned_surplus balanced.owned
  have data := MappedDevice.map_surplus udmabuf g.kernel g.dataOutcome g.udmaDataBufDevice
    p.unrecorded
  have cfg := MappedDevice.map_surplus udmabuf g.kernel g.cfgOutcome g.udmaCfgBufDevice
    (g.dataMap p.unrecorded).2.2
  have uio := MappedDevice.map_surplus uio g.kernel g.uioOutcome g.uioDmaDriverDevice
    (g.cfgMap p.unrecorded).2.2
  rw [← dataMap, show surplus p.unrecorded.calls = 0 from rfl] at data
  rw [← cfgMap] at cfg
  rw [← uioMap] at uio
  rw [List.length_nil, lifetime_eq] at total
  by_cases dataOpens : g.dataOutcome.Opens
  · by_cases cfgOpens : g.cfgOutcome.Opens
    · simp only [dataOpens, cfgOpens, not_true_eq_false, ite_false, DmaDriverImpl.destroy,
        MappedDevice.destroy_surplus, driver] at total
      rcases data with ⟨data, dataClean⟩ | data
      · rcases cfg with ⟨cfg, cfgClean⟩ | cfg
        · rcases uio with ⟨uio, uioClean⟩ | uio
          · exact ⟨⟨dataOpens, dataClean.2 dataOpens.2⟩, ⟨cfgOpens, cfgClean.2 cfgOpens.2⟩,
              uioClean⟩
          · omega
        · omega
      · omega
    · simp only [dataOpens, cfgOpens, not_true_eq_false, not_false_eq_true, ite_false, ite_true,
        DmaDriverImpl.destroy, MappedDevice.destroy_surplus, MappedDevice.debt_default] at total
      omega
  · simp only [dataOpens, not_false_eq_true, ite_true, DmaDriverImpl.destroy,
      MappedDevice.destroy_surplus, MappedDevice.debt_default] at total
    omega

theorem data_acquires (q : Process) (maps : g.dataOutcome.Maps udmabuf) :
    ∃ fd page, MappedDevice.Acquired g.kernel (g.dataMap q).2.1 fd page
      (g.kernel.pagesFor (g.dataOutcome.sizeRead udmabuf).toNat) q (g.dataMap q).2.2 := by
  obtain ⟨fd, page, acquired, _⟩ := MappedDevice.map_acquires udmabuf g.kernel g.dataOutcome
    g.udmaDataBufDevice q maps
  exact ⟨fd, page, acquired⟩

theorem cfg_acquires (q : Process) (maps : g.cfgOutcome.Maps udmabuf) :
    ∃ fd page, MappedDevice.Acquired g.kernel (g.cfgMap q).2.1 fd page
      (g.kernel.pagesFor (g.cfgOutcome.sizeRead udmabuf).toNat) (g.dataMap q).2.2
      (g.cfgMap q).2.2 := by
  obtain ⟨fd, page, acquired, _⟩ := MappedDevice.map_acquires udmabuf g.kernel g.cfgOutcome
    g.udmaCfgBufDevice (g.dataMap q).2.2 maps
  exact ⟨fd, page, acquired⟩

theorem uio_acquires (q : Process) (maps : g.uioOutcome.Maps uio) :
    ∃ fd page, MappedDevice.Acquired g.kernel (g.uioMap q).2.1 fd page
      (g.kernel.pagesFor (g.uioOutcome.sizeRead uio).toNat) (g.cfgMap q).2.2 (g.uioMap q).2.2 := by
  obtain ⟨fd, page, acquired, _⟩ := MappedDevice.map_acquires uio g.kernel g.uioOutcome
    g.uioDmaDriverDevice (g.cfgMap q).2.2 maps
  exact ⟨fd, page, acquired⟩

theorem lifetime_of_buffers (q : Process) (data : g.dataOutcome.Opens) (cfg : g.cfgOutcome.Opens) :
    g.lifetime q = (g.dataMap q).2.1.destroy g.kernel ((g.cfgMap q).2.1.destroy g.kernel
      ((g.uioMap q).2.1.destroy g.kernel (g.uioMap q).2.2)) := by
  rw [lifetime_eq, if_neg (not_not.mpr data), if_neg (not_not.mpr cfg)]
  rfl

theorem Balanced.uio_maps (balanced : g.Balanced p) (data : g.dataOutcome.Maps udmabuf)
    (cfg : g.cfgOutcome.Maps udmabuf) (uio : g.uioOutcome.Maps uio) :
    g.dataOutcome.MapsOnePage udmabuf g.kernel ∧ g.cfgOutcome.MapsOnePage udmabuf g.kernel ∧
      g.uioOutcome.MapsOnePage ZynqmpDma.uio g.kernel := by
  obtain ⟨_, _, dataHolds⟩ := g.data_acquires p.unrecorded data
  obtain ⟨_, _, cfgHolds⟩ := g.cfg_acquires p.unrecorded cfg
  obtain ⟨_, _, uioHolds⟩ := g.uio_acquires p.unrecorded uio
  have before : p.unrecorded.pages = p.pages := rfl
  have pages := balanced.pages
  rw [g.lifetime_of_buffers _ data.1 cfg.1] at pages
  have dataCard := dataHolds.card
  have cfgCard := cfgHolds.card
  have uioCard := uioHolds.card
  have uioGone := uioHolds.destroy_card (g.uioMap p.unrecorded).2.2
  have cfgGone := cfgHolds.destroy_card
    ((g.uioMap p.unrecorded).2.1.destroy g.kernel (g.uioMap p.unrecorded).2.2)
  have dataGone := dataHolds.destroy_card ((g.cfgMap p.unrecorded).2.1.destroy g.kernel
    ((g.uioMap p.unrecorded).2.1.destroy g.kernel (g.uioMap p.unrecorded).2.2))
  rw [pages] at dataGone
  rw [before] at dataCard
  have dataSome := g.kernel.pagesFor_pos data.size_ne_zero
  have cfgSome := g.kernel.pagesFor_pos cfg.size_ne_zero
  have uioSome := g.kernel.pagesFor_pos uio.size_ne_zero
  have dataPage := (g.kernel.pagesFor_eq_one data.size_ne_zero).mp (by omega)
  have cfgPage := (g.kernel.pagesFor_eq_one cfg.size_ne_zero).mp (by omega)
  have uioPage := (g.kernel.pagesFor_eq_one uio.size_ne_zero).mp (by omega)
  exact ⟨⟨data, dataPage⟩, ⟨cfg, cfgPage⟩, ⟨uio, uioPage⟩⟩

theorem Balanced.uio_closed (balanced : g.Balanced p) (data : g.dataOutcome.Maps udmabuf)
    (cfg : g.cfgOutcome.Maps udmabuf) (uio : g.uioOutcome.SysfsOpens)
    (closed : g.uioOutcome.devOpens = false) :
    g.dataOutcome.MapsOnePage udmabuf g.kernel ∧ g.cfgOutcome.MapsOnePage udmabuf g.kernel ∧
      0 ∉ p.pages := by
  obtain ⟨_, _, dataHolds⟩ := g.data_acquires p.unrecorded data
  obtain ⟨_, _, cfgHolds⟩ := g.cfg_acquires p.unrecorded cfg
  obtain ⟨file, buf, _, same, _⟩ := MappedDevice.map_noDevice ZynqmpDma.uio g.kernel g.uioOutcome
    g.uioDmaDriverDevice (g.cfgMap p.unrecorded).2.2 uio closed
  rw [← uioMap] at file buf same
  obtain ⟨_, erased, _⟩ := MappedDevice.destroy_nothing (k := g.kernel)
    (q := (g.uioMap p.unrecorded).2.2) file buf
  have before : p.unrecorded.pages = p.pages := rfl
  have pages := balanced.pages
  rw [g.lifetime_of_buffers _ data.1 cfg.1] at pages
  have unmapped : 0 ∉ p.pages := by
    rw [← pages]
    intro kept
    have left := MappedDevice.destroy_subset _ _ _ (MappedDevice.destroy_subset _ _ _ kept)
    rw [erased] at left
    exact Finset.notMem_erase 0 _ left
  have absent : 0 ∉ (g.uioMap p.unrecorded).2.2.pages := by
    rw [same]
    exact cfgHolds.zero_notMem (dataHolds.zero_notMem unmapped)
  rw [Finset.erase_eq_of_notMem absent, same] at erased
  have dataCard := dataHolds.card
  have cfgCard := cfgHolds.card
  have cfgGone := cfgHolds.destroy_card
    ((g.uioMap p.unrecorded).2.1.destroy g.kernel (g.uioMap p.unrecorded).2.2)
  have dataGone := dataHolds.destroy_card ((g.cfgMap p.unrecorded).2.1.destroy g.kernel
    ((g.uioMap p.unrecorded).2.1.destroy g.kernel (g.uioMap p.unrecorded).2.2))
  rw [pages] at dataGone
  rw [erased] at cfgGone
  rw [before] at dataCard
  have dataSome := g.kernel.pagesFor_pos data.size_ne_zero
  have cfgSome := g.kernel.pagesFor_pos cfg.size_ne_zero
  have dataPage := (g.kernel.pagesFor_eq_one data.size_ne_zero).mp (by omega)
  have cfgPage := (g.kernel.pagesFor_eq_one cfg.size_ne_zero).mp (by omega)
  exact ⟨⟨data, dataPage⟩, ⟨cfg, cfgPage⟩, unmapped⟩

theorem balanced_of_uio (data : g.dataOutcome.MapsOnePage udmabuf g.kernel)
    (cfg : g.cfgOutcome.MapsOnePage udmabuf g.kernel)
    (uio : let last := (g.uioMap p.unrecorded).2.1.destroy g.kernel (g.uioMap p.unrecorded).2.2
      last.fds = (g.cfgMap p.unrecorded).2.2.fds ∧
        last.pages = (g.cfgMap p.unrecorded).2.2.pages ∧
        ∀ held, owned (g.cfgMap p.unrecorded).2.2.calls = some held →
          owned last.calls = some held) : g.Balanced p := by
  obtain ⟨_, _, dataHolds⟩ := g.data_acquires p.unrecorded data.1
  obtain ⟨_, _, cfgHolds⟩ := g.cfg_acquires p.unrecorded cfg.1
  rw [(g.kernel.pagesFor_eq_one data.1.size_ne_zero).mpr data.2] at dataHolds
  rw [(g.kernel.pagesFor_eq_one cfg.1.size_ne_zero).mpr cfg.2] at cfgHolds
  rcases uio with ⟨uioFds, uioPages, uioOwns⟩
  obtain ⟨cfgFds, cfgPages, cfgOwns⟩ := cfgHolds.destroy uioFds uioPages
  obtain ⟨dataFds, dataPages, dataOwns⟩ := dataHolds.destroy cfgFds cfgPages
  have nothing : owned p.unrecorded.calls = some [] := rfl
  have lifetime := g.lifetime_of_buffers p.unrecorded data.1.1 cfg.1.1
  constructor
  · rw [lifetime, dataFds]
    rfl
  · rw [lifetime, dataPages]
    rfl
  · rw [lifetime]
    exact dataOwns _ (cfgOwns _ (uioOwns _ (cfgHolds.owns _ (dataHolds.owns _ nothing))))

end Balanced

/-- When the life of a driver is balanced: all three devices map, with sizes of one page at
    most, or only the uio device file is missing and the first page is not mapped. -/
theorem balanced_iff :
    g.Balanced p ↔
      g.dataOutcome.MapsOnePage udmabuf g.kernel ∧ g.cfgOutcome.MapsOnePage udmabuf g.kernel ∧
        (g.uioOutcome.MapsOnePage uio g.kernel ∨
          g.uioOutcome.SysfsOpens ∧ g.uioOutcome.devOpens = false ∧ 0 ∉ p.pages) := by
  constructor
  · intro balanced
    rcases balanced.clean with ⟨data, cfg, opens, mmaps⟩
    cases dev : g.uioOutcome.devOpens with
    | true =>
      obtain ⟨dataPage, cfgPage, uioPage⟩ :=
        balanced.uio_maps data cfg ⟨⟨opens, dev⟩, mmaps dev⟩
      exact ⟨dataPage, cfgPage, .inl uioPage⟩
    | false =>
      obtain ⟨dataPage, cfgPage, unmapped⟩ := balanced.uio_closed data cfg opens dev
      exact ⟨dataPage, cfgPage, .inr ⟨opens, rfl, unmapped⟩⟩
  · rintro ⟨data, cfg, uio | ⟨opens, closed, unmapped⟩⟩
    · obtain ⟨_, _, uioHolds⟩ := g.uio_acquires p.unrecorded uio.1
      rw [(g.kernel.pagesFor_eq_one uio.1.size_ne_zero).mpr uio.2] at uioHolds
      obtain ⟨fds, pages, owns⟩ := uioHolds.destroy rfl rfl
      exact balanced_of_uio data cfg ⟨fds, pages, fun held holds => owns _ (uioHolds.owns _ holds)⟩
    · obtain ⟨_, _, dataHolds⟩ := g.data_acquires p.unrecorded data.1
      obtain ⟨_, _, cfgHolds⟩ := g.cfg_acquires p.unrecorded cfg.1
      obtain ⟨file, buf, fds, pages, owns⟩ := MappedDevice.map_noDevice ZynqmpDma.uio g.kernel
        g.uioOutcome g.uioDmaDriverDevice (g.cfgMap p.unrecorded).2.2 opens closed
      rw [← uioMap] at file buf fds pages owns
      obtain ⟨closes, erases, keeps⟩ := MappedDevice.destroy_nothing (k := g.kernel)
        (q := (g.uioMap p.unrecorded).2.2) file buf
      have absent : 0 ∉ (g.cfgMap p.unrecorded).2.2.pages :=
        cfgHolds.zero_notMem (dataHolds.zero_notMem unmapped)
      have pages : ((g.uioMap p.unrecorded).2.1.destroy g.kernel
          (g.uioMap p.unrecorded).2.2).pages = (g.cfgMap p.unrecorded).2.2.pages := by
        rw [erases, pages, Finset.erase_eq_of_notMem absent]
      apply balanced_of_uio data cfg ⟨closes.trans fds, pages, ?_⟩
      intro held holds
      rw [keeps]
      exact owns held holds

def sample : Attempt where
  kernel := .aboveAll
  dataOutcome :=
    { sizeAttr := some ⟨['5', '2', '4', '2', '8', '8', '\n'], []⟩
      addrAttr := some ⟨['0', 'x', '7', '0', '0', '0', '0', '0', '0', '0', '\n'], []⟩
      devOpens := true
      mmaps := true }
  cfgOutcome :=
    { sizeAttr := some ⟨['4', '0', '9', '6', '\n'], []⟩
      addrAttr := some ⟨['0', 'x', '7', '0', '1', '0', '0', '0', '0', '0', '\n'], []⟩
      devOpens := true
      mmaps := true }
  uioOutcome :=
    { sizeAttr := some ⟨['0', 'x', '1', '0', '0', '0', '\n'], []⟩
      addrAttr := some ⟨['0', 'x', 'f', 'd', '5', '7', '0', '0', '0', '0', '\n'], []⟩
      devOpens := true
      mmaps := true }
  uioDmaDriverDevice := "uio0"
  udmaDataBufDevice := "udmabuf0"
  udmaCfgBufDevice := "udmabuf1"

/-- All but the first page of the data buffer stay mapped. -/
theorem sample_leaks : ¬ sample.Balanced .standard := by
  intro balanced
  have sizes := balanced.uio_maps (by decide) (by decide) (by decide)
  exact absurd sizes.1 (by decide)

end Attempt

end ZynqmpDma
