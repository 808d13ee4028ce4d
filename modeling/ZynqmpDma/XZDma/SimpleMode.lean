import ZynqmpDma.XZDma.Setup

namespace ZynqmpDma.XZDma

open Base

def writeOver (dst : BitVec 49) (length count : ℕ) (words : ℕ → BitVec 32) (bus : BusMemory) :
    BusMemory := fun x =>
  let k := (x - dst).toNat
  if k < length then byteOf (words (k / 4 % count)).toNat (k % 4) else bus x

def wrOnlyCount (dmaType : BitVec 8) : ℕ := if dmaType = 0 then 4 else 2

def SimpleTransfer.move (v : SimpleTransfer) : Move 49 where
  src := v.src
  dst := v.dst
  length := v.dstSize.toNat

def Setup.word (w : Setup) (j : ℕ) : BitVec 32 :=
  if inside : j < 4 then w.words ⟨j, inside⟩ else 0

/-- What a channel that is enabled does to the memory on its bus, unless it is to fetch a list or
    has both of the one-way modes. -/
def Setup.perform (w : Setup) (dmaType : BitVec 8) (bus : BusMemory) : Option BusMemory :=
  if w.pointType ≠ 0 then none
  else if w.mode = Mode.normalMode.code then some (w.transfer.move.apply bus)
  else if w.mode = Mode.wronlyMode.code then
    some (writeOver w.transfer.dst w.transfer.dstSize.toNat (wrOnlyCount dmaType) w.word bus)
  else if w.mode = Mode.rdonlyMode.code then some bus
  else none

/-- What a caller knows of the transfer it asked for, from the answers alone. -/
structure Plan where
  isSgDma : Bool
  mode : Mode
  transfer : Option Transfer
  words : Option (ℕ → BitVec 32)

namespace Plan

def initial : Plan where
  isSgDma := false
  mode := .normalMode
  transfer := none
  words := none

variable (p : Plan)

def told (status : ℤ) : DeviceCall → Plan
  | .operation (.setMode _ isSgDma mode) =>
    if status = xstSuccess then { p with isSgDma := isSgDma = TRUE, mode := mode } else p
  | .operation (.start _ data _) =>
    if status = xstSuccess ∧ p.isSgDma = false then { p with transfer := some (data 0) } else p
  | .woData buffer => { p with words := some buffer }
  | _ => p

def next (visit : DeviceVisit) : Plan :=
  match visit.outcome with
  | .ok status _ => p.told status visit.call
  | .error _ _ => p

def after (past : List DeviceVisit) : Plan := past.foldl next initial

def effect (dmaType : BitVec 8) (bus : BusMemory) : Option BusMemory :=
  if p.isSgDma then none
  else p.transfer.bind fun data =>
    match p.mode with
    | .normalMode => some (data.move.apply bus)
    | .wronlyMode => p.words.map fun words =>
        writeOver data.move.dst data.move.length (wrOnlyCount dmaType) words bus
    | .rdonlyMode => some bus

end Plan

/-- Its assertions do not return a success for what they have kept from being done. -/
def DeviceCall.Checked : DeviceCall → Prop
  | operation (.setMode env _ _) | operation (.start env _ _) => env.asserts ≠ .returning
  | _ => True

def DeviceCall.KeepsMode (c : Channel) : DeviceCall → Prop
  | operation op => c.KeepsMode op
  | _ => True

structure Realizes (base : BitVec 64) (dmaType : BitVec 8) (p : Plan) (s : System) : Prop where
  base : s.dma.config.baseAddress = base
  kind : s.dma.config.dmaType = dmaType
  agrees : s.channel.ModeAgrees
  isSgDma : s.dma.isSgDma = if p.isSgDma then TRUE else FALSE
  mode : s.dma.mode = p.mode
  transfer : ∀ data ∈ p.transfer, s.setup.transfer.move = data.move
  words : ∀ words ∈ p.words, ∀ j < wrOnlyCount dmaType, s.setup.word j = words j

section Effects

variable {base : BitVec 64} {dmaType : BitVec 8} {p : Plan} {s : System} {bus bus' : BusMemory}

theorem wrOnlyCount_pos (dmaType : BitVec 8) : 0 < wrOnlyCount dmaType := by
  unfold wrOnlyCount
  split <;> decide

theorem writeOver_congr {dst : BitVec 49} {length count : ℕ} {words words' : ℕ → BitVec 32}
    (positive : 0 < count) (same : ∀ j < count, words j = words' j) :
    writeOver dst length count words bus = writeOver dst length count words' bus := by
  funext x
  simp only [writeOver, same _ (Nat.mod_lt _ positive)]

theorem SimpleTransfer.move_of (data : Transfer) : (SimpleTransfer.of data).move = data.move := by
  simp only [SimpleTransfer.move, SimpleTransfer.of, Transfer.move, word2Size_toNat]

theorem Realizes.perform (realizes : Realizes base dmaType p s)
    (planned : p.effect dmaType bus = some bus') : s.setup.perform dmaType bus = some bus' := by
  have simple : p.isSgDma = false := by
    by_contra sg
    rw [Bool.not_eq_false] at sg
    rw [Plan.effect, if_pos sg] at planned
    cases planned
  have noList : s.setup.pointType = 0 := by
    have field : s.setup.pointType = s.dma.isSgDma.setWidth 32 := realizes.agrees.pointType
    rw [field, realizes.isSgDma, simple]
    rfl
  have field : s.setup.mode = p.mode.code := by
    rw [← realizes.mode]
    exact realizes.agrees.mode
  rw [Plan.effect, simple, if_neg Bool.false_ne_true] at planned
  obtain ⟨data, known, done⟩ := Option.bind_eq_some_iff.mp planned
  have move := realizes.transfer data known
  rw [Setup.perform, if_neg (not_not.mpr noList), field]
  cases mode : p.mode with
  | normalMode =>
    rw [mode] at done
    rw [if_pos rfl, move]
    exact done
  | wronlyMode =>
    rw [mode] at done
    obtain ⟨words, given, filled⟩ := Option.map_eq_some_iff.mp done
    have dst : s.setup.transfer.dst = data.move.dst := congrArg Move.dst move
    have length : s.setup.transfer.dstSize.toNat = data.move.length := congrArg Move.length move
    rw [if_neg (by decide), if_pos rfl, dst, length,
      writeOver_congr (wrOnlyCount_pos dmaType) (realizes.words words given), filled]
  | rdonlyMode =>
    rw [mode] at done
    rw [if_neg (by decide), if_neg (by decide), if_pos rfl]
    exact done

end Effects

section Steps

variable {base : BitVec 64} {dmaType : BitVec 8} {p : Plan} {s t : System} {a : ℤ}

theorem xilAssert_checked {α : Type} {env : Env} {expression : Prop} [Decidable expression]
    {dflt a : α} {rest : Prog α} (checked : env.asserts ≠ .returning)
    (run : xilAssert env expression dflt rest s = .ok a t) :
    Passes env expression ∧ rest s = .ok a t := by
  by_cases passes : Passes env expression
  · rw [xilAssert_passes dflt rest passes] at run
    exact ⟨passes, run⟩
  · obtain ⟨fails, compiled⟩ := not_or.mp passes
    rw [xilAssert, if_neg fails] at run
    cases mode : env.asserts with
    | compiledOut => exact absurd mode compiled
    | returning => exact absurd mode checked
    | waiting =>
      simp only [mode] at run
      cases run

/-- A mode is set where `XZDma_SetMode` says so, and nowhere else. -/
theorem setMode_answers {env : Env} {isSgDma : BitVec 8} {mode : Mode}
    (checked : env.asserts ≠ .returning) (run : setMode env isSgDma mode s = .ok a t) :
    (a = xstSuccess ∧ t.dma.isSgDma = (if isSgDma = TRUE then TRUE else FALSE) ∧
        t.dma.mode = mode) ∨
      (a ≠ xstSuccess ∧ t.dma = s.dma) := by
  obtain ⟨flag, _⟩ := xilAssert_checked checked run
  by_cases idle : s.dma.channelState = .idle
  · rw [setMode_run env mode s flag idle] at run
    by_cases simple : isSgDma ≠ TRUE
    · rw [if_pos simple] at run
      cases run
      exact .inl ⟨rfl, (if_neg simple).symm, rfl⟩
    · rw [if_neg simple] at run
      by_cases normal : mode ≠ .normalMode
      · rw [if_pos normal] at run
        cases run
        exact .inr ⟨by decide, rfl⟩
      · rw [if_neg normal] at run
        cases run
        exact .inl ⟨rfl, (if_pos (not_not.mp simple)).symm, rfl⟩
  · rw [setMode_refused env mode flag idle] at run
    cases run
    exact .inr ⟨by decide, rfl⟩

theorem start_answers {env : Env} {data : ℕ → Transfer} {num : BitVec 32}
    (checked : env.asserts ≠ .returning) (run : start env data num s = .ok a t) :
    (a = xstSuccess ∧ (Operation.start env data num).Effective s.dma) ∨
      (a ≠ xstSuccess ∧ ¬ (Operation.start env data num).Effective s.dma) := by
  obtain ⟨passes, body⟩ := xilAssert_checked checked run
  rw [bind_ok _ (getInstance_run s)] at body
  by_cases refused : s.dma.channelState = .busy ∧ num ≥ s.dma.descriptor.dscrCount
  · rw [if_pos refused] at body
    cases body
    exact .inr ⟨by decide, fun both => both.2 refused⟩
  · rw [if_neg refused] at body
    left
    refine ⟨?_, passes, refused⟩
    split at body
    · obtain ⟨_, u, _, done⟩ := bind_ok_inv body
      cases done
      rfl
    · obtain ⟨_, u, _, done⟩ := bind_ok_inv body
      cases done
      rfl

theorem Channel.next_believed {c : Channel} {op : Operation}
    (other : ∀ env isSgDma mode, op ≠ .setMode env isSgDma mode) :
    (c.next op).isSgDma = c.isSgDma ∧ (c.next op).mode = c.mode := by
  cases op with
  | setMode env isSgDma mode => exact absurd rfl (other env isSgDma mode)
  | setChDataConfig | resume | reset | hardware =>
    rw [Channel.next]
    split <;> exact ⟨rfl, rfl⟩
  | setChDscrConfig | createBDList | start | enable | channelState | selfTest => exact ⟨rfl, rfl⟩

theorem Setup.next_move {w : Setup} {i : XZDma} {op : Operation}
    (other : ∀ env data num, op ≠ .start env data num) :
    (w.next i (.operation op)).transfer.move = w.transfer.move := by
  apply Setup.next_kept fun w => w.transfer.move
  cases op with
  | setMode env isSgDma mode =>
    rw [loaded, (withMode_rest isSgDma mode).1]
  | reset env =>
    simp only [loaded, afterReset]
    split <;> rfl
  | start env data num => exact absurd rfl (other env data num)
  | setChDataConfig | setChDscrConfig | createBDList | enable | resume | channelState | selfTest
  | hardware => rfl

theorem Setup.next_word {w : Setup} {i : XZDma} (op : Operation) :
    (w.next i (.operation op)).word = w.word := by
  apply Setup.next_kept Setup.word
  funext j
  rw [word, word, loaded_words]

theorem Setup.withWords_word {w : Setup} {i : XZDma} {buffer : ℕ → BitVec 32} {j : ℕ}
    (kind : i.config.dmaType = dmaType) (within : j < wrOnlyCount dmaType) :
    (w.withWords i buffer).word j = buffer j := by
  subst kind
  unfold wrOnlyCount at within
  have inside : j < 4 := by
    split at within <;> omega
  have written : i.config.dmaType = 0 ∨ j < 2 := by
    split at within
    · exact .inl ‹_›
    · exact .inr within
  rw [word, dif_pos inside]
  exact if_pos written

theorem Realizes.place (realizes : Realizes base dmaType p s)
    (config : t.dma.config = s.dma.config) :
    t.dma.config.baseAddress = base ∧ t.dma.config.dmaType = dmaType := by
  rw [config]
  exact ⟨realizes.base, realizes.kind⟩

theorem Realizes.kept (realizes : Realizes base dmaType p s)
    (config : t.dma.config = s.dma.config) (agrees : t.channel.ModeAgrees)
    (believed : t.dma.isSgDma = s.dma.isSgDma ∧ t.dma.mode = s.dma.mode)
    (move : t.setup.transfer.move = s.setup.transfer.move)
    (words : t.setup.word = s.setup.word) : Realizes base dmaType p t where
  base := (realizes.place config).1
  kind := (realizes.place config).2
  agrees := agrees
  isSgDma := believed.1.trans realizes.isSgDma
  mode := believed.2.trans realizes.mode
  transfer := by
    rw [move]
    exact realizes.transfer
  words := by
    rw [words]
    exact realizes.words

theorem Realizes.operation {op : Operation} (realizes : Realizes base dmaType p s)
    (reads : op.ReadsBack base) (keeps : s.channel.KeepsMode op)
    (checked : (DeviceCall.operation op).Checked) (run : op.step s = .ok a t) :
    Realizes base dmaType (p.told a (.operation op)) t := by
  have step : (DeviceCall.operation op).step s = .ok a t := run
  have config : t.dma.config = s.dma.config := DeviceCall.step_config step
  have place := realizes.place config
  have agrees := (step_modeAgrees ⟨realizes.base, realizes.agrees⟩ reads keeps run).2
  have setup : t.setup = s.setup.next s.dma (.operation op) := by
    apply DeviceCall.step_setup (.operation op) step
    rw [realizes.base]
    exact reads
  have words : t.setup.word = s.setup.word := by rw [setup, Setup.next_word]
  have move (other : ∀ env data num, op ≠ .start env data num) :
      t.setup.transfer.move = s.setup.transfer.move := by rw [setup, Setup.next_move other]
  have believed (other : ∀ env isSgDma mode, op ≠ .setMode env isSgDma mode) :
      t.dma.isSgDma = s.dma.isSgDma ∧ t.dma.mode = s.dma.mode := by
    have channel := step_channel op run
    obtain ⟨isSgDma, mode⟩ := s.channel.next_believed other
    exact ⟨(congrArg Channel.isSgDma channel).trans isSgDma,
      (congrArg Channel.mode channel).trans mode⟩
  cases op with
  | setMode env isSgDma mode =>
    have kept := move fun _ _ _ => Operation.noConfusion
    rcases setMode_answers checked run with ⟨success, sg, set⟩ | ⟨failure, same⟩
    · rw [Plan.told, if_pos success]
      refine ⟨place.1, place.2, agrees, ?_, set, ?_, ?_⟩
      · rw [sg]
        simp only [decide_eq_true_eq]
      · rw [kept]
        exact realizes.transfer
      · rw [words]
        exact realizes.words
    · rw [Plan.told, if_neg failure]
      have unset : t.dma.isSgDma = s.dma.isSgDma ∧ t.dma.mode = s.dma.mode := by
        rw [same]
        exact ⟨rfl, rfl⟩
      exact realizes.kept config agrees unset kept words
  | start env data num =>
    have unset := believed fun _ _ _ => Operation.noConfusion
    rcases start_answers checked run with ⟨success, effective⟩ | ⟨failure, ineffective⟩
    · have effective : (Operation.start env data num).Effective s.dma := effective
      rw [Setup.next, if_pos effective, Setup.loaded] at setup
      by_cases sg : p.isSgDma = true
      · have list : ¬ s.dma.isSgDma ≠ TRUE := by
          rw [realizes.isSgDma, if_pos sg]
          exact not_not.mpr rfl
        have unplanned : ¬ (a = xstSuccess ∧ p.isSgDma = false) := by
          rw [sg]
          exact fun both => Bool.noConfusion both.2
        rw [if_neg list] at setup
        rw [Plan.told, if_neg unplanned]
        exact realizes.kept config agrees unset (congrArg (fun w => w.transfer.move) setup) words
      · have simple : s.dma.isSgDma ≠ TRUE := by
          rw [realizes.isSgDma, if_neg sg]
          decide
        have planned : a = xstSuccess ∧ p.isSgDma = false := ⟨success, Bool.eq_false_iff.mpr sg⟩
        rw [if_pos simple] at setup
        rw [Plan.told, if_pos planned]
        refine ⟨place.1, place.2, agrees, unset.1.trans realizes.isSgDma,
          unset.2.trans realizes.mode, ?_, ?_⟩
        · intro data' known
          cases known
          rw [setup]
          exact SimpleTransfer.move_of (data 0)
        · rw [words]
          exact realizes.words
    · have ineffective : ¬ (Operation.start env data num).Effective s.dma := ineffective
      rw [Setup.next, if_neg ineffective] at setup
      rw [Plan.told, if_neg fun both => failure both.1]
      exact realizes.kept config agrees unset (congrArg (fun w => w.transfer.move) setup) words
  | setChDataConfig | setChDscrConfig | createBDList | enable | resume | reset | channelState
  | selfTest | hardware =>
    exact realizes.kept config agrees (believed fun _ _ _ => Operation.noConfusion)
      (move fun _ _ _ => Operation.noConfusion) words

theorem Realizes.step {call : DeviceCall} (realizes : Realizes base dmaType p s)
    (reads : call.ReadsBack base) (keeps : call.KeepsMode s.channel) (checked : call.Checked)
    (run : call.step s = .ok a t) : Realizes base dmaType (p.told a call) t := by
  have config : t.dma.config = s.dma.config := DeviceCall.step_config run
  have place := realizes.place config
  have setup : t.setup = s.setup.next s.dma call := by
    apply call.step_setup run
    rw [realizes.base]
    exact reads
  have channel (pointType : t.setup.pointType = s.setup.pointType)
      (mode : t.setup.mode = s.setup.mode)
      (believed : t.dma.isSgDma = s.dma.isSgDma ∧ t.dma.mode = s.dma.mode) :
      t.channel.ModeAgrees :=
    realizes.agrees.of_same pointType mode believed.1 believed.2
  cases call with
  | operation op => exact realizes.operation reads keeps checked run
  | woData buffer =>
    obtain ⟨_, u, set, done⟩ := bind_ok_inv run
    cases done
    have same := woData_dma set
    have believed : t.dma.isSgDma = s.dma.isSgDma ∧ t.dma.mode = s.dma.mode := by
      rw [same]
      exact ⟨rfl, rfl⟩
    have agrees := channel (by rw [setup]; rfl) (by rw [setup]; rfl) believed
    refine ⟨place.1, place.2, agrees, believed.1.trans realizes.isSgDma,
      believed.2.trans realizes.mode, ?_, ?_⟩
    · rw [setup]
      exact realizes.transfer
    · intro words given j within
      cases given
      rw [setup]
      exact Setup.withWords_word realizes.kind within
  | enableIntr | disableIntr | intrClear =>
    have believed : t.dma.isSgDma = s.dma.isSgDma ∧ t.dma.mode = s.dma.mode := by
      cases run
      exact ⟨rfl, rfl⟩
    have agrees := channel (by rw [setup]; rfl) (by rw [setup]; rfl) believed
    have move : t.setup.transfer.move = s.setup.transfer.move := by rw [setup]; rfl
    have words : t.setup.word = s.setup.word := by rw [setup]; rfl
    exact realizes.kept config agrees believed move words

end Steps

section Runs

theorem initialized_realizes (env : Env) (cfg : Config) (effectiveAddr : BitVec 64) (s : System)
    (mapped : Passes env (effectiveAddr ≠ 0)) :
    Realizes effectiveAddr cfg.dmaType .initial
      (finalState (cfgInitialize env cfg effectiveAddr s)) := by
  obtain ⟨base, agrees⟩ := initialized_modeAgrees env cfg s mapped
  obtain ⟨t, run, dma, _⟩ := reset_run env (pointed cfg effectiveAddr s) (.inl rfl)
  have believed : (finalState (cfgInitialize env cfg effectiveAddr s)).dma =
      { t.dma with
        dataConfig := resetDataConfig
        dscrConfig := { axCoherent := 0, axCache := 0, axQos := 0 } } := by
    rw [cfgInitialize_of_reset mapped run, finalState_ok]
    rfl
  refine ⟨base, ?_, agrees, ?_, ?_, ?_, ?_⟩
  · rw [believed, dma]
    rfl
  · rw [believed, dma]
    rfl
  · rw [believed, dma]
    rfl
  · intro data known
    cases known
  · intro words known
    cases known

/-- A channel that is used in simple mode does to the memory on its bus what the calls before
    asked for and said that they have done, whatever else happened and failed in between. -/
theorem run_simpleMode (env : Env) (cfg : Config) (effectiveAddr : BitVec 64) (s : System)
    (calls : List DeviceCall) (mapped : Passes env (effectiveAddr ≠ 0))
    (reads : ∀ call ∈ calls, call.ReadsBack effectiveAddr) (checked : ∀ call ∈ calls, call.Checked)
    (keeps : ∀ visit ∈ visits DeviceCall.step (finalState (cfgInitialize env cfg effectiveAddr s))
      calls, visit.call.KeepsMode visit.before.channel)
    (past after : List DeviceVisit) (visit : DeviceVisit)
    (split : visits DeviceCall.step (finalState (cfgInitialize env cfg effectiveAddr s)) calls =
      past ++ visit :: after) (bus bus' : BusMemory)
    (planned : (Plan.after past).effect cfg.dmaType bus = some bus') :
    visit.before.setup.perform cfg.dmaType bus = some bus' := by
  have follows (p : Plan) (t : System) (call : DeviceCall) (a : ℤ) (u : System)
      (realizes : Realizes effectiveAddr cfg.dmaType p t)
      (known : call.ReadsBack effectiveAddr ∧ call.Checked ∧ call.KeepsMode t.channel)
      (run : call.step t = .ok a u) :
      Realizes effectiveAddr cfg.dmaType (p.next ⟨t, call, .ok a u⟩) u :=
    realizes.step known.1 known.2.2 known.2.1 run
  have begins := initialized_realizes env cfg effectiveAddr s mapped
  have known (v : DeviceVisit) (member : v ∈ visits DeviceCall.step
      (finalState (cfgInitialize env cfg effectiveAddr s)) calls) :
      v.call.ReadsBack effectiveAddr ∧ v.call.Checked ∧ v.call.KeepsMode v.before.channel :=
    ⟨reads _ (visits_call member), checked _ (visits_call member), keeps v member⟩
  have realizes : Realizes effectiveAddr cfg.dmaType (Plan.after past) visit.before :=
    visits_simulates Plan.next follows begins known split
  exact realizes.perform planned

/-- A transfer in write-only mode. -/
theorem run_simpleMode_writes :
    let env := Env.ideal .waiting
    let s := finalState (cfgInitialize env ⟨0, 0, 0, 0⟩ 0xFFA80000 .blank)
    let set : DeviceCall := .operation (.setMode env FALSE .wronlyMode)
    let given : DeviceCall := .woData fun j => BitVec.ofNat 32 j
    let started : DeviceCall := .operation (.start env (fun _ => ⟨0, 0x70400000, 64, 0, 0, 0⟩) 1)
    let loaded := finalState (started.step (finalState (given.step (finalState (set.step s)))))
    loaded.setup.perform 0 (fun _ => 0) =
      some (writeOver 0x70400000 64 4 (fun j => BitVec.ofNat 32 j) fun _ => 0) :=
  run_simpleMode (.ideal .waiting) ⟨0, 0, 0, 0⟩ 0xFFA80000 .blank
    [.operation (.setMode (.ideal .waiting) FALSE .wronlyMode), .woData fun j => BitVec.ofNat 32 j,
      .operation (.start (.ideal .waiting) (fun _ => ⟨0, 0x70400000, 64, 0, 0, 0⟩) 1),
      .operation .enable]
    (.inl (by decide))
    (List.forall_mem_cons.mpr ⟨fun _ => rfl, List.forall_mem_cons.mpr ⟨trivial,
      List.forall_mem_cons.mpr ⟨trivial, List.forall_mem_singleton.mpr trivial⟩⟩⟩)
    (List.forall_mem_cons.mpr ⟨AssertMode.noConfusion, List.forall_mem_cons.mpr ⟨trivial,
      List.forall_mem_cons.mpr ⟨AssertMode.noConfusion, List.forall_mem_singleton.mpr trivial⟩⟩⟩)
    (List.forall_mem_cons.mpr ⟨fun harm => harm.2.2.2.2.1 rfl, List.forall_mem_cons.mpr ⟨trivial,
      List.forall_mem_cons.mpr ⟨trivial, List.forall_mem_singleton.mpr trivial⟩⟩⟩)
    [_, _, _] [] ⟨_, _, _⟩ rfl (fun _ => 0) _ rfl

end Runs

end ZynqmpDma.XZDma
