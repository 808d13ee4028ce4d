import ZynqmpDma.Base.Copy
import ZynqmpDma.Base.Mover
import ZynqmpDma.XZDma.BusWalk

namespace ZynqmpDma

open Base XZDma

namespace XZDma

abbrev BusMemory := BitVec 49 → BitVec 8

def BusBuffer.Shows (b : BusBuffer) (mem : BitVec 64 → BitVec 8) (bus : BusMemory) : Prop :=
  ∀ k < b.length, window bus (b.phys.setWidth 49) k = window mem b.virt k

/-- The bytes that an element asks for: as many as its size field holds, between addresses on
    the bus. -/
def Transfer.move (data : Transfer) : Move 49 where
  src := data.srcAddr.setWidth 49
  dst := data.dstAddr.setWidth 49
  length := data.size.toNat % 2 ^ 30

namespace Format

variable {δ : Type} (format : Format δ) (b : BusBuffer) (bus : BusMemory)

def busFetch (key : BusKey) : Option (δ × δ) :=
  some (format.layout.read (window bus key.1) 0, format.layout.read (window bus key.2) 0)

def place (key : BusKey) : Set (BitVec 49) :=
  block key.1 format.layout.size ∪ block key.2 format.layout.size

def move (pair : δ × δ) : Move 49 where
  src := (format.linear pair.1).address.setWidth 49
  dst := (format.linear pair.2).address.setWidth 49
  length := ((format.linear pair.1).size &&& word2SizeMask).toNat

def carryOut (pair : δ × δ) : BusMemory → BusMemory := (format.move pair).apply

variable {format b bus}

theorem fetch_bus {mem : BitVec 64 → BitVec 8} (shows : b.Shows mem bus)
    {a : BitVec 49} {d : δ} (fetched : format.fetch b mem a = some d) :
    format.layout.read (window bus a) 0 = d := by
  unfold fetch at fetched
  split at fetched
  · rename_i inside
    have place : a = b.phys.setWidth 49 + BitVec.ofNat 49 (b.offset a) := by
      rw [BusBuffer.offset, BitVec.ofNat_toNat, BitVec.setWidth_eq, BitVec.add_comm,
        BitVec.sub_add_cancel]
    rw [place, format.layout.read_window_add, ← Option.some.inj fetched]
    apply format.layout.read_congr
    intro k low high
    exact shows k (by omega)
  · cases fetched

theorem fetchPair_bus {mem : BitVec 64 → BitVec 8} (shows : b.Shows mem bus)
    {key : BusKey} {pair : δ × δ}
    (fetched : format.fetchPair b mem key = some pair) : format.busFetch bus key = some pair := by
  obtain ⟨src, first, rest⟩ := Option.bind_eq_some_iff.mp fetched
  obtain ⟨dst, second, rfl⟩ := Option.map_eq_some_iff.mp rest
  rw [busFetch, fetch_bus shows first, fetch_bus shows second]

theorem read_move {v : Move 49} {a : BitVec 49} (room : format.layout.size ≤ 2 ^ 49)
    (apart : Disjoint v.target (block a format.layout.size)) (bus : BusMemory) :
    format.layout.read (window (v.apply bus) a) 0 = format.layout.read (window bus a) 0 := by
  apply format.layout.read_eqOn room
  intro x inside
  exact Move.apply_of_not_mem (Set.disjoint_right.mp apart inside)

/-- A transfer that does not write into the descriptors at a key does not change what the channel
    fetches there. -/
theorem keeps_of_disjoint {entry entry' : BusKey × (δ × δ)}
    (room : format.layout.size ≤ 2 ^ 49)
    (apart : Disjoint (format.move entry.2).target (format.place entry'.1)) :
    Mover.Keeps format.busFetch format.carryOut entry entry' := by
  intro bus
  obtain ⟨first, second⟩ := Set.disjoint_union_right.mp apart
  rw [busFetch, carryOut, read_move room first, read_move room second]
  rfl

theorem effects_eq (visited : List (BusKey × (δ × δ))) (bus : BusMemory) :
    Mover.effects format.carryOut visited bus =
      moveAll (visited.map fun entry => format.move entry.2) bus := by
  rw [Mover.effects, moveAll, List.foldl_map]
  rfl

theorem move_eq {pair : δ × δ} {data : Transfer} {isLast : Bool}
    (src : format.linear pair.1 = srcLiDscr data isLast)
    (dst : format.linear pair.2 = dstLiDscr data) : format.move pair = data.move := by
  rw [move, src, dst]
  simp only [srcLiDscr, dstLiDscr, Transfer.move, BitVec.and_assoc, BitVec.and_self,
    word2Size_toNat]

end Format

end XZDma

namespace System

variable (s : System) {δ : Type} (format : Format δ) (bus : BusMemory)

/-- The channel at work on its list, with its descriptors and its data in the same memory. -/
def channelMover (actions : List Action) : Mover BusKey (δ × δ) BusMemory :=
  (Mover.start s.listStart bus).run format.busFetch format.command format.nextPair
    format.carryOut actions

variable {s format bus} {b : BusBuffer} {fuel : ℕ} {visited : List (BusKey × (δ × δ))}

theorem listWalk_bus (shows : b.Shows s.machine.mem bus)
    (walk : s.listWalk format b fuel = some visited) :
    follow (format.busFetch bus) (fun pair => format.command pair = .stop) format.nextPair fuel
      s.listStart = some visited := by
  apply follow_congr walk
  intro entry member
  have fetched := follow_fetched walk entry member
  rw [fetched]
  exact Format.fetchPair_bus shows fetched

/-- What the channel fetches in the buffer it finds on the bus, unless its own transfers
    overwrite it first. -/
theorem channelMover_run (shows : b.Shows s.machine.mem bus)
    (room : format.layout.size ≤ 2 ^ 49) (walk : s.listWalk format b fuel = some visited)
    (apart : visited.Pairwise fun entry entry' =>
      Disjoint (format.move entry.2).target (format.place entry'.1)) (actions : List Action) :
    (s.channelMover format bus actions).engine =
        (Engine.start s.listStart).run (format.busFetch bus) format.command format.nextPair
          actions ∧
      (s.channelMover format bus actions).mem = moveAll
        ((s.channelMover format bus actions).engine.visited.map fun entry => format.move entry.2)
        bus := by
  have keeps := apart.imp fun disjoint => Format.keeps_of_disjoint room disjoint
  have run := Mover.run_start (listWalk_bus shows walk) keeps actions
  rw [channelMover, run]
  exact ⟨rfl, Format.effects_eq _ bus⟩

end System

end ZynqmpDma
