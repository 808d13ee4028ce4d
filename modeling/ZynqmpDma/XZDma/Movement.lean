import ZynqmpDma.Base.Pauses
import ZynqmpDma.XZDma.BusMemory
import ZynqmpDma.XZDma.LinkedWalk

namespace ZynqmpDma.XZDma

open Base

def moveList (data : ℕ → Transfer) (n : ℕ) : List (Move 49) :=
  (List.range n).map fun i => (data i).move

theorem moveList_length (data : ℕ → Transfer) (n : ℕ) : (moveList data n).length = n := by
  rw [moveList, List.length_map, List.length_range]

namespace Descriptor

variable (dscr : Descriptor)

def busSlots (i : ℕ) : Set (BitVec 49) :=
  block (dscr.slotKey i).1 dscr.size ∪ block (dscr.slotKey i).2 dscr.size

/-- No element is moved over the descriptors of a later one. -/
def Spared (data : ℕ → Transfer) (n : ℕ) : Prop :=
  ∀ i j, i < j → j < n → Disjoint (data i).move.target (dscr.busSlots j)

end Descriptor

/-- However the channel is paused and resumed, it moves the elements in order, and once it was
    resumed often enough it has moved them all and stopped. -/
structure Carries {δ : Type} (format : Format δ) (s : System) (bus : BusMemory)
    (data : ℕ → Transfer) (n : ℕ) : Prop where
  inOrder : ∀ actions, ∃ c ≤ n,
    (s.channelMover format bus actions).mem = moveAll (moveList data c) bus
  all : ∀ k, n ≤ k → (s.channelMover format bus (Engine.rounds k)).engine.phase = .stopped ∧
    (s.channelMover format bus (Engine.rounds k)).mem = moveAll (moveList data n) bus

def pauseCount (data : ℕ → Transfer) (n : ℕ) : ℕ :=
  (List.range n).countP fun i => (data i).pause = TRUE

/-- With `resumes` resumes, each of a channel that has come to rest, the channel moves the
    elements up to the one whose pause is not resumed, and rests there; or all of them. -/
def CarriesLegs {δ : Type} (format : Format δ) (s : System) (bus : BusMemory)
    (data : ℕ → Transfer) (n : ℕ) : Prop :=
  ∀ resumes k, n ≤ k → ∃ c ≤ n,
    (s.channelMover format bus (Engine.legs k resumes)).mem = moveAll (moveList data c) bus ∧
      pauseCount data c = min (resumes + 1) (pauseCount data n) ∧
      ((c = n ∧ (s.channelMover format bus (Engine.legs k resumes)).engine.phase = .stopped) ∨
        (0 < c ∧ (data (c - 1)).pause = TRUE ∧
          ∃ key, (s.channelMover format bus (Engine.legs k resumes)).engine.phase = .paused key))

def DscrType.CarriesLegs (typeOfDscr : DscrType) (s : System) (bus : BusMemory)
    (data : ℕ → Transfer) (n : ℕ) : Prop :=
  match typeOfDscr with
  | linear => XZDma.CarriesLegs linearFormat s bus data n
  | linkedList => XZDma.CarriesLegs linkedFormat s bus data n

def DscrType.Carries (typeOfDscr : DscrType) (s : System) (bus : BusMemory)
    (data : ℕ → Transfer) (n : ℕ) : Prop :=
  match typeOfDscr with
  | linear => XZDma.Carries linearFormat s bus data n
  | linkedList => XZDma.Carries linkedFormat s bus data n

section Walk

variable {dscr : Descriptor} {typeOfDscr : DscrType} {virt phys : BitVec 64}
  {noOfBytes : BitVec 32} (set : TablesSet dscr typeOfDscr virt phys noOfBytes) {δ : Type}
  {format : Format δ} (stride : format.layout.size = dscr.size) {data : ℕ → Transfer} {n fuel : ℕ}
  {t : System} {records : ℕ → δ × δ}
  (walk : t.listWalk format ⟨virt, phys, noOfBytes.toNat⟩ fuel =
    some ((List.range n).map fun i => (dscr.slotKey i, records i)))
  (moves : ∀ i < n, format.move (records i) = (data i).move)
  (spared : dscr.Spared data n) {bus : BusMemory}
  (shows : BusBuffer.Shows ⟨virt, phys, noOfBytes.toNat⟩ t.machine.mem bus)

theorem prefix_range {α : Type} {f : ℕ → α} {n : ℕ} {done : List α}
    (inOrder : done <+: (List.range n).map f) :
    done.length ≤ n ∧ done = (List.range done.length).map f := by
  have short := inOrder.length_le
  rw [List.length_map, List.length_range] at short
  refine ⟨short, ?_⟩
  have taken := List.prefix_iff_eq_take.mp inOrder
  rwa [← List.map_take, List.take_range, Nat.min_eq_left short] at taken

include moves in
theorem map_move_range {c : ℕ} (le : c ≤ n) :
    (((List.range c).map fun i => (dscr.slotKey i, records i)).map fun entry =>
      format.move entry.2) = moveList data c := by
  rw [List.map_map, moveList]
  apply List.map_congr_left
  intro i member
  exact moves i (Nat.lt_of_lt_of_le (List.mem_range.mp member) le)

theorem pauseCount_range (keys : ℕ → BusKey) {c : ℕ} (le : c ≤ n)
    (pauses : ∀ i < n, format.command (records i) = .pause ↔ (data i).pause = TRUE) :
    Engine.pauseCount format.command ((List.range c).map fun i => (keys i, records i)) =
      pauseCount data c := by
  rw [Engine.pauseCount, List.countP_map, pauseCount]
  apply List.countP_congr
  intro i member
  have flag := pauses i (Nat.lt_of_lt_of_le (List.mem_range.mp member) le)
  simpa only [Function.comp_apply, decide_eq_true_eq] using flag

theorem through_range (keys : ℕ → BusKey) (resumes : ℕ)
    (pauses : ∀ i < n, format.command (records i) = .pause ↔ (data i).pause = TRUE) :
    ∃ c ≤ n, Engine.through format.command resumes
        ((List.range n).map fun i => (keys i, records i)) =
          (List.range c).map (fun i => (keys i, records i)) ∧
      pauseCount data c = min (resumes + 1) (pauseCount data n) ∧
      (c = n ∨ 0 < c ∧ (data (c - 1)).pause = TRUE) := by
  have inOrder := Engine.through_prefix format.command resumes
    ((List.range n).map fun i => (keys i, records i))
  have counted := Engine.pauseCount_through format.command resumes
    ((List.range n).map fun i => (keys i, records i))
  have ends := Engine.through_ends format.command resumes
    ((List.range n).map fun i => (keys i, records i))
  obtain ⟨short, listed⟩ := prefix_range inOrder
  generalize (Engine.through format.command resumes
    ((List.range n).map fun i => (keys i, records i))).length = c at *
  rw [listed] at counted ends
  rw [pauseCount_range keys short pauses, pauseCount_range keys le_rfl pauses] at counted
  refine ⟨c, short, listed, counted, ?_⟩
  rcases ends with all | ⟨before, last, ends, pausing⟩
  · left
    simpa only [List.length_map, List.length_range] using congrArg List.length all
  · right
    cases c with
    | zero => simp only [List.range_zero, List.map_nil, List.nil_eq, List.append_eq_nil_iff,
        List.cons_ne_self, and_false] at ends
    | succ c =>
      rw [List.range_succ, List.map_append] at ends
      have same : last = (keys c, records c) := by
        have := (List.append_inj' ends rfl).2
        exact (List.singleton_inj.mp this).symm
      rw [same] at pausing
      exact ⟨Nat.succ_pos c, (pauses c short).mp pausing⟩

include set stride walk moves spared shows

theorem TablesSet.channelMover_eq (actions : List Action) :
    (t.channelMover format bus actions).engine =
        (Engine.start t.listStart).run (format.busFetch bus) format.command format.nextPair
          actions ∧
      (t.channelMover format bus actions).mem = moveAll
        ((t.channelMover format bus actions).engine.visited.map fun entry => format.move entry.2)
        bus := by
  have apart : ((List.range n).map fun i => (dscr.slotKey i, records i)).Pairwise
      fun entry entry' => Disjoint (format.move entry.2).target (format.place entry'.1) := by
    rw [List.pairwise_map]
    apply List.pairwise_lt_range.imp_of_mem
    intro i j first second before
    rw [List.mem_range] at first second
    rw [moves i first, Format.place, stride]
    exact spared i j before second
  have room : format.layout.size ≤ 2 ^ 49 := by
    rw [stride, set.size_eq]
    cases typeOfDscr <;> decide
  exact System.channelMover_run shows room walk apart actions

theorem TablesSet.carries : XZDma.Carries format t bus data n := by
  have onBus := System.listWalk_bus shows walk
  constructor
  · intro actions
    obtain ⟨engine, mem⟩ := set.channelMover_eq stride walk moves spared shows actions
    have inOrder := Engine.run_visited onBus actions
    rw [← engine] at inOrder
    obtain ⟨short, listed⟩ := prefix_range inOrder
    rw [mem, listed, map_move_range moves short]
    exact ⟨_, short, rfl⟩
  · intro k enough
    obtain ⟨engine, mem⟩ := set.channelMover_eq stride walk moves spared shows (Engine.rounds k)
    have length : ((List.range n).map fun i => (dscr.slotKey i, records i)).length = n := by
      rw [List.length_map, List.length_range]
    obtain ⟨stopped, visited⟩ := Engine.run_rounds onBus (length.trans_le enough)
    rw [← engine] at stopped visited
    refine ⟨stopped, ?_⟩
    rw [mem, visited, map_move_range moves le_rfl]

theorem TablesSet.carriesLegs
    (pauses : ∀ i < n, format.command (records i) = .pause ↔ (data i).pause = TRUE) :
    XZDma.CarriesLegs format t bus data n := by
  intro resumes k enough
  have onBus := System.listWalk_bus shows walk
  obtain ⟨engine, mem⟩ := set.channelMover_eq stride walk moves spared shows (Engine.legs k resumes)
  have length : ((List.range n).map fun i => (dscr.slotKey i, records i)).length = n := by
    rw [List.length_map, List.length_range]
  obtain ⟨visited, ahead, rests⟩ := Engine.Ahead.legs (e := .start t.listStart) resumes rfl
    (.running onBus) (length.trans_le enough)
  rw [← engine] at visited ahead rests
  obtain ⟨c, short, through, counted, ends⟩ := through_range dscr.slotKey resumes pauses
  rw [through, List.length_map, List.length_range] at ahead
  rw [through, Engine.start, List.nil_append] at visited
  refine ⟨c, short, ?_, counted, ?_⟩
  · rw [mem, visited, map_move_range moves short]
  · by_cases all : c = n
    · left
      rw [List.drop_eq_nil_of_le (by omega)] at ahead
      exact ⟨all, ahead.stopped_of_nil⟩
    · right
      obtain ⟨positive, pausing⟩ := ends.resolve_left all
      refine ⟨positive, pausing, ?_⟩
      cases phase : (t.channelMover format bus (Engine.legs k resumes)).engine.phase with
      | running key => exact absurd phase (rests key)
      | paused key => exact ⟨key, rfl⟩
      | stopped =>
        rw [phase] at ahead
        have dropped := List.drop_eq_nil_iff.mp ahead.nil_of_stopped
        omega
      | faulted =>
        rw [phase] at ahead
        cases ahead

end Walk

section Outside

variable {dscr : Descriptor} {typeOfDscr : DscrType} {virt phys : BitVec 64}
  {noOfBytes : BitVec 32} (set : TablesSet dscr typeOfDscr virt phys noOfBytes)

include set

theorem TablesSet.busSlots_subset {i : ℕ} (hi : i < dscr.count) :
    dscr.busSlots i ⊆ block (phys.setWidth 49) noOfBytes.toNat := by
  have fits := set.fits
  have bytes := noOfBytes.isLt
  have slot := slot_le dscr.size hi
  have whole := block_offset_zero (phys.setWidth 49) noOfBytes.toNat
  rw [Descriptor.busSlots, Descriptor.slotKey, set.physSrcSlot_eq, set.physDstSlot_eq,
    busAddress_add, busAddress_add, ← whole]
  apply Set.union_subset
  · exact block_offset_subset _ (by omega) (by omega) (by omega)
  · exact block_offset_subset _ (by omega) (by omega) (by omega)

/-- Elements that are not moved into the tables leave all descriptors alone. -/
theorem TablesSet.spared_of_outside {data : ℕ → Transfer} {n : ℕ} (fits : n ≤ dscr.count)
    (outside : ∀ i < n,
      Disjoint (data i).move.target (block (phys.setWidth 49) noOfBytes.toNat)) :
    dscr.Spared data n := by
  intro i j before hj
  exact (outside i (by omega)).mono_right (set.busSlots_subset (by omega))

end Outside

section Linked

variable {dscr : Descriptor} {virt phys : BitVec 64} {noOfBytes : BitVec 32}
  (set : TablesSet dscr .linkedList virt phys noOfBytes) {data : ℕ → Transfer} {n : ℕ}
  {s t : System} (written : ListWritten dscr data n s t) (positive : 0 < n)
  (fits : n ≤ dscr.count)

include set written positive fits

/-- The list that the channel runs in the linked-list format when it can follow the links and the
    last element does not pause. -/
theorem TablesSet.listWalk_linked (stops : (data (n - 1)).pause ≠ TRUE)
    (followable : virt.setWidth 49 = phys.setWidth 49 ∨ n = 1) :
    (t.setStart dscr).listWalk linkedFormat ⟨virt, phys, noOfBytes.toNat⟩ n =
      some ((List.range n).map fun i => (dscr.slotKey i, linkedPair dscr data n i)) := by
  apply set.listWalk_slots linkedFormat set.size_eq.symm (setStart_listStart t dscr) positive fits
  · exact fun i hi => written.linkedPair_read set hi
  · exact fun i more => (set.linked_iff more).mpr (followable.resolve_right (by omega))
  · intro i hi
    rw [decide_eq_decide, linkedFormat.command_src rfl, elementCommand_stop, decide_eq_true_eq]
    constructor
    · exact fun stop => stop.2
    · rintro rfl
      exact ⟨stops, rfl⟩

end Linked

theorem elementCommand_pause {data : Transfer} {isLast : Bool} :
    elementCommand data isLast = .pause ↔ data.pause = TRUE := by
  unfold elementCommand
  by_cases pause : data.pause = TRUE
  · simp only [pause, ite_true]
  · cases isLast <;> simp [pause]

def pausingPair (i : ℕ) : Transfer := ⟨0x70300000, 0x70400000, 64, 0, 0, if i = 0 then 1 else 0⟩

theorem pausingPair_spared :
    (bdTables .linear 0x7F0000200000 0x70100000 4096).Spared pausingPair 2 := by
  have set := tablesSet_bdTables .linear 0x7F0000200000 0x70100000 4096 (by decide) (by decide)
  apply set.spared_of_outside (by decide)
  intro i _
  show Disjoint (block (0x70400000 : BitVec 49) 64) (block (0x70100000 : BitVec 49) 4096)
  exact block_disjoint (by decide) (by decide) (by decide)

section Start

variable (env : Env) (s : System) (typeOfDscr : DscrType) (virt phys : BitVec 64)
  (noOfBytes : BitVec 32) (data : ℕ → Transfer) (num : BitVec 32)
  (set : TablesSet s.dma.descriptor typeOfDscr virt phys noOfBytes)
  (room : virt.toNat + noOfBytes.toNat ≤ 2 ^ 64) (sg : s.dma.isSgDma = TRUE)
  (admitted : ¬ Refused s num) (nonempty : 1 ≤ num) (fits : num ≤ s.dma.descriptor.dscrCount)
  (addresses : ∀ i < num.toNat, (data i).srcAddr ≠ 0 ∧ (data i).dstAddr ≠ 0)
  (stops : (data (num.toNat - 1)).pause ≠ TRUE)
  (followable : typeOfDscr = .linkedList → virt.setWidth 49 = phys.setWidth 49 ∨ num = 1)
  (spared : s.dma.descriptor.Spared data num.toNat)

include set room sg admitted nonempty fits addresses stops followable spared

/-- The channel moves what the caller asked for, in either format: each element once, in order,
    and nothing else. -/
theorem start_carries : ∃ s', start env data num s = .ok xstSuccess s' ∧
    ∀ bus, BusBuffer.Shows ⟨virt, phys, noOfBytes.toNat⟩ s'.machine.mem bus →
      typeOfDscr.Carries s' bus data num.toNat := by
  have positive : 0 < num.toNat := by bv_omega
  have nonempty : num ≠ 0 := by bv_omega
  obtain ⟨t, started, written⟩ := set.start_written env room sg admitted nonempty fits addresses
  refine ⟨_, started, ?_⟩
  intro bus shows
  cases typeOfDscr with
  | linear =>
    have walk := set.listWalk_linear written positive fits stops
    exact set.carries set.size_eq.symm walk (fun i _ => Format.move_eq rfl rfl) spared shows
  | linkedList =>
    have one : num = 1 → num.toNat = 1 := by bv_omega
    have walk := set.listWalk_linked written positive fits stops
      ((followable rfl).imp_right one)
    exact set.carries set.size_eq.symm walk (fun i _ => Format.move_eq rfl rfl) spared shows

omit set room sg admitted nonempty fits addresses stops followable spared in
theorem start_carries_pair :
    ∃ s', start (.ideal .waiting) pausingPair 2
        (.scatterGather .idle (bdTables .linear 0x7F0000200000 0x70100000 4096)) =
          .ok xstSuccess s' ∧
      ∀ bus, BusBuffer.Shows ⟨0x7F0000200000, 0x70100000, (4096 : BitVec 32).toNat⟩
          s'.machine.mem bus →
        DscrType.linear.Carries s' bus pausingPair (2 : BitVec 32).toNat :=
  start_carries (.ideal .waiting)
    (.scatterGather .idle (bdTables .linear 0x7F0000200000 0x70100000 4096)) .linear 0x7F0000200000
    0x70100000 4096 pausingPair 2
    (tablesSet_bdTables .linear 0x7F0000200000 0x70100000 4096 (by decide) (by decide)) (by decide)
    rfl (by decide) (by decide) (by decide) (by decide) (by decide) (by decide) pausingPair_spared

/-- A channel that the caller resumes at some of the pauses has moved the elements up to the
    next one, and those alone. -/
theorem start_carriesLegs : ∃ s', start env data num s = .ok xstSuccess s' ∧
    ∀ bus, BusBuffer.Shows ⟨virt, phys, noOfBytes.toNat⟩ s'.machine.mem bus →
      typeOfDscr.CarriesLegs s' bus data num.toNat := by
  have positive : 0 < num.toNat := by bv_omega
  have nonempty : num ≠ 0 := by bv_omega
  obtain ⟨t, started, written⟩ := set.start_written env room sg admitted nonempty fits addresses
  refine ⟨_, started, ?_⟩
  intro bus shows
  cases typeOfDscr with
  | linear =>
    have walk := set.listWalk_linear written positive fits stops
    apply set.carriesLegs set.size_eq.symm walk (fun i _ => Format.move_eq rfl rfl) spared shows
    intro i _
    rw [linearFormat.command_src rfl, elementCommand_pause]
  | linkedList =>
    have one : num = 1 → num.toNat = 1 := by bv_omega
    have walk := set.listWalk_linked written positive fits stops
      ((followable rfl).imp_right one)
    apply set.carriesLegs set.size_eq.symm walk (fun i _ => Format.move_eq rfl rfl) spared shows
    intro i _
    rw [linkedFormat.command_src rfl, elementCommand_pause]

omit set room sg admitted nonempty fits addresses stops followable spared in
theorem start_carriesLegs_pair :
    ∃ s', start (.ideal .waiting) pausingPair 2
        (.scatterGather .idle (bdTables .linear 0x7F0000200000 0x70100000 4096)) =
          .ok xstSuccess s' ∧
      ∀ bus, BusBuffer.Shows ⟨0x7F0000200000, 0x70100000, (4096 : BitVec 32).toNat⟩
          s'.machine.mem bus →
        DscrType.linear.CarriesLegs s' bus pausingPair (2 : BitVec 32).toNat :=
  start_carriesLegs (.ideal .waiting)
    (.scatterGather .idle (bdTables .linear 0x7F0000200000 0x70100000 4096)) .linear 0x7F0000200000
    0x70100000 4096 pausingPair 2
    (tablesSet_bdTables .linear 0x7F0000200000 0x70100000 4096 (by decide) (by decide)) (by decide)
    rfl (by decide) (by decide) (by decide) (by decide) (by decide) (by decide) pausingPair_spared

end Start

end ZynqmpDma.XZDma
