import ZynqmpDma.Base.Records
import ZynqmpDma.XZDma.Geometry

namespace ZynqmpDma

open Base

namespace System

variable (s : System) (ptr : BitVec 64)

def putFields (fields : List Field) : System :=
  fields.foldl (fun s f => s.store (ptr + BitVec.ofNat 64 f.offset) f.width f.value) s

def fieldEvents (fields : List Field) : List Event :=
  fields.map fun f => .store (ptr + BitVec.ofNat 64 f.offset) f.width

variable {ptr} in
theorem mem_fieldEvents {fields : List Field} {e : Event} :
    e ∈ fieldEvents ptr fields ↔
      ∃ f ∈ fields, e = .store (ptr + BitVec.ofNat 64 f.offset) f.width := by
  simp only [fieldEvents, List.mem_map, eq_comm]

variable (fields : List Field)

@[simp] theorem putFields_dma : (s.putFields ptr fields).dma = s.dma := by
  induction fields generalizing s with
  | nil => rfl
  | cons f fields ih => exact ih _

@[simp] theorem putFields_process : (s.putFields ptr fields).process = s.process := by
  induction fields generalizing s with
  | nil => rfl
  | cons f fields ih => exact ih _

@[simp] theorem putFields_io : (s.putFields ptr fields).machine.io = s.machine.io := by
  induction fields generalizing s with
  | nil => rfl
  | cons f fields ih => exact ih _

@[simp] theorem putFields_clock :
    (s.putFields ptr fields).machine.fpdDmaRefCtrl = s.machine.fpdDmaRefCtrl := by
  induction fields generalizing s with
  | nil => rfl
  | cons f fields ih => exact ih _

@[simp] theorem putFields_mem :
    (s.putFields ptr fields).machine.mem = writeFields s.machine.mem ptr fields := by
  induction fields generalizing s with
  | nil => rfl
  | cons f fields ih => exact ih _

theorem putFields_log : (s.putFields ptr fields).machine.log =
    (fieldEvents ptr fields).reverse ++ s.machine.log := by
  induction fields generalizing s with
  | nil => rfl
  | cons f fields ih =>
    simp only [fieldEvents, List.map_cons, List.reverse_cons, List.append_assoc] at ih ⊢
    exact ih _

end System

namespace XZDma

/-- The states the descriptor loop goes through when `put i` is its `i`-th iteration. -/
def fill (put : ℕ → System → System) : ℕ → System → System
  | 0, s => s
  | n + 1, s => put n (fill put n s)

theorem fill_keeps {β : Type} (part : System → β) {put : ℕ → System → System}
    (kept : ∀ j s, part (put j s) = part s) (n : ℕ) (s : System) :
    part (fill put n s) = part s := by
  induction n with
  | zero => rfl
  | succ n ih => rw [fill, kept, ih]

/-- The loop runs its body for every count below `num` and raises `Last` on the final one. -/
theorem dscrLoop_run (mode : Transfer → BitVec 64 → BitVec 64 → Bool → Prog Unit)
    (stride : BitVec 64) (data : ℕ → Transfer) (num : BitVec 32) (put : ℕ → System → System)
    (src dst : BitVec 64) (s : System)
    (body : ∀ j < num.toNat, ∀ s, mode (data j) (src + BitVec.ofNat 64 j * stride)
      (dst + BitVec.ofNat 64 j * stride) (decide (j + 1 = num.toNat)) s = .ok () (put j s))
    (i fuel : ℕ) (more : i < num.toNat) (enough : num.toNat < i + fuel) :
    dscrLoop mode stride data num fuel (BitVec.ofNat 32 i) false i
        (src + BitVec.ofNat 64 i * stride) (dst + BitVec.ofNat 64 i * stride) (fill put i s) =
      .ok () (fill put num.toNat s) := by
  have wide := num.isLt
  induction fuel generalizing i with
  | zero => omega
  | succ fuel ih =>
    have last : (if BitVec.ofNat 32 i = num - 1 then true else false) =
        decide (i + 1 = num.toNat) := by
      have flag : BitVec.ofNat 32 i = num - 1 ↔ i + 1 = num.toNat := by bv_omega
      simp only [flag, Bool.if_false_right, Bool.and_true]
    have next : BitVec.ofNat 32 i + 1 < num ↔ i + 1 < num.toNat := by bv_omega
    simp only [dscrLoop, last]
    rw [bind_ok _ (body i more (fill put i s))]
    by_cases again : i + 1 < num.toNat
    · have count : BitVec.ofNat 32 i + 1 = BitVec.ofNat 32 (i + 1) := by bv_omega
      have step (p : BitVec 64) : p + BitVec.ofNat 64 i * stride + stride =
          p + BitVec.ofNat 64 (i + 1) * stride := by
        rw [BitVec.ofNat_add, BitVec.add_mul, ← BitVec.add_assoc]
        simp
      rw [if_pos (next.mpr again), count, step, step, decide_eq_false (by omega)]
      exact ih (i + 1) again (by omega)
    · have done : num.toNat = i + 1 := by omega
      rw [if_neg (mt next.mp again), done]
      rfl

theorem dscrLoop_returned {mode : Transfer → BitVec 64 → BitVec 64 → Bool → Prog Unit}
    {stride : BitVec 64} {data : ℕ → Transfer} {num : BitVec 32} {fuel i : ℕ} {last : Bool}
    {src dst : BitVec 64} {s s' : System} (bound : i < num.toNat)
    (run : dscrLoop mode stride data num fuel (BitVec.ofNat 32 i) last i src dst s = .ok () s') :
    ∀ j, i ≤ j → j < num.toNat → ∃ p q l t t', mode (data j) p q l t = .ok () t' := by
  have wide := num.isLt
  induction fuel generalizing i last src dst s with
  | zero => cases run
  | succ fuel ih =>
    simp only [dscrLoop] at run
    obtain ⟨_, t, body, rest⟩ := bind_ok_inv run
    intro j low high
    by_cases now : j = i
    · subst now
      exact ⟨_, _, _, s, t, body⟩
    · have next : BitVec.ofNat 32 i + 1 < num := by bv_omega
      have count : BitVec.ofNat 32 i + 1 = BitVec.ofNat 32 (i + 1) := by bv_omega
      rw [if_pos next, count] at rest
      exact ih (by omega) rest j (by omega) high

section Tables

variable {δ : Type} (layout : Layout δ) (base : BitVec 64) (dstOffset : ℕ) (src dst : ℕ → δ)

def putRecords (j : ℕ) (s : System) : System :=
  (s.putFields (base + BitVec.ofNat 64 (layout.size * j)) (layout.fields (src j))).putFields
    (base + BitVec.ofNat 64 (dstOffset + layout.size * j)) (layout.fields (dst j))

def slotStores (n : ℕ) : List Event :=
  (List.range n).flatMap fun j =>
    System.fieldEvents (base + BitVec.ofNat 64 (layout.size * j)) (layout.fields (src j)) ++
      System.fieldEvents (base + BitVec.ofNat 64 (dstOffset + layout.size * j))
        (layout.fields (dst j))

structure Filled (s s' : System) (n : ℕ) : Prop where
  dma : s'.dma = s.dma
  process : s'.process = s.process
  io : s'.machine.io = s.machine.io
  clock : s'.machine.fpdDmaRefCtrl = s.machine.fpdDmaRefCtrl
  holds : layout.Holds base dstOffset src dst s.machine.mem s'.machine.mem n
  log : s'.machine.log = (slotStores layout base dstOffset src dst n).reverse ++ s.machine.log

variable {layout base dstOffset src dst}

theorem mem_slotStores {n : ℕ} {e : Event} :
    e ∈ slotStores layout base dstOffset src dst n ↔ ∃ j < n,
      (∃ f ∈ layout.fields (src j),
        e = .store (base + BitVec.ofNat 64 (layout.size * j + f.offset)) f.width) ∨
      ∃ f ∈ layout.fields (dst j),
        e = .store (base + BitVec.ofNat 64 (dstOffset + layout.size * j + f.offset)) f.width := by
  simp only [slotStores, List.mem_flatMap, List.mem_range, List.mem_append,
    System.mem_fieldEvents, offset_add]

theorem fill_putRecords_mem (n : ℕ) (s : System) :
    (fill (putRecords layout base dstOffset src dst) n s).machine.mem =
      layout.writePairs base dstOffset src dst n s.machine.mem := by
  induction n with
  | zero => rfl
  | succ n ih =>
    rw [fill, putRecords, System.putFields_mem, System.putFields_mem, ih]
    rfl

theorem fill_putRecords_log (n : ℕ) (s : System) :
    (fill (putRecords layout base dstOffset src dst) n s).machine.log =
      (slotStores layout base dstOffset src dst n).reverse ++ s.machine.log := by
  induction n with
  | zero => rfl
  | succ n ih =>
    rw [fill, putRecords, System.putFields_log, System.putFields_log, ih, slotStores, slotStores,
      List.range_succ, List.flatMap_append, List.flatMap_singleton, List.reverse_append,
      List.reverse_append, List.append_assoc, List.append_assoc]

theorem filled_fill (n : ℕ) (s : System) (apart : layout.size * n ≤ dstOffset)
    (room : dstOffset + layout.size * n ≤ 2 ^ 64) :
    Filled layout base dstOffset src dst s (fill (putRecords layout base dstOffset src dst) n s)
      n where
  dma := fill_keeps System.dma (by simp [putRecords]) n s
  process := fill_keeps System.process (by simp [putRecords]) n s
  io := fill_keeps (fun s => s.machine.io) (by simp [putRecords]) n s
  clock := fill_keeps (fun s => s.machine.fpdDmaRefCtrl) (by simp [putRecords]) n s
  holds := by
    rw [fill_putRecords_mem]
    exact layout.holds_writePairs _ apart room
  log := fill_putRecords_log n s

end Tables

/-- The descriptor loop fills two tables when each iteration writes a slot of both. -/
theorem dscrLoop_fills {δ : Type} {layout : Layout δ} {src dst : ℕ → δ}
    {mode : Transfer → BitVec 64 → BitVec 64 → Bool → Prog Unit} {stride base : BitVec 64}
    {dstOffset : ℕ} {data : ℕ → Transfer} {num : BitVec 32} (s : System)
    (step : stride = BitVec.ofNat 64 layout.size) (nonempty : num ≠ 0)
    (apart : layout.size * num.toNat ≤ dstOffset)
    (room : dstOffset + layout.size * num.toNat ≤ 2 ^ 64)
    (body : ∀ j < num.toNat, ∀ s, mode (data j)
      (base + BitVec.ofNat 64 (layout.size * j))
      (base + BitVec.ofNat 64 (dstOffset + layout.size * j)) (decide (j + 1 = num.toNat)) s =
        .ok () (putRecords layout base dstOffset src dst j s)) :
    ∃ s', dscrLoop mode stride data num (num.toNat + 1) 0 false 0 base
        (base + BitVec.ofNat 64 dstOffset) s = .ok () s' ∧
      Filled layout base dstOffset src dst s s' num.toNat := by
  have positive : 0 < num.toNat := by bv_omega
  have slot (p : BitVec 64) (j : ℕ) :
      p + BitVec.ofNat 64 j * stride = p + BitVec.ofNat 64 (layout.size * j) := by
    rw [step, Nat.mul_comm, BitVec.ofNat_mul]
  have loop := dscrLoop_run mode stride data num (putRecords layout base dstOffset src dst) base
    (base + BitVec.ofNat 64 dstOffset) s
    (by
      intro j hj s
      rw [slot, slot, offset_add]
      exact body j hj s)
    0 (num.toNat + 1) positive (by omega)
  exact ⟨_, by simpa [fill] using loop, filled_fill num.toNat s apart room⟩

end XZDma

end ZynqmpDma
