import Mathlib.Data.List.Nodup
import Luma.Recorder.EngineEffects

/-! The places of the capture slots.

A slot is free, being filled, queued, in the worker's hands or behind a guard
that waits for encoder buffers. Counting the places of a slot shows that it is
never in two, and in none only once a failure has ended the recording.
-/

set_option autoImplicit false

namespace Luma.Recorder.Engine

open Luma.Library Luma.Library.Transition

def queued (engine : Engine) : List Nat := engine.queue.queue.filterMap slotOf

/-- The frame that the worker has taken and not begun to push. -/
def held : Worker → List Nat
  | .holding input => [input.slot]
  | _ => []

/-- Slots whose guards have not returned them. -/
def awaited (releases : List BufferRelease) : List Nat := (releases.filter fun release => !release.returned).map (·.slot)

def free (engine : Engine) : List Nat := engine.availableSlots ++ engine.released

/-- Every place where a slot can be. -/
def places (engine : Engine) : List Nat :=
  engine.free ++ filling engine.main ++ engine.queued ++ held engine.worker ++ awaited engine.releases

/-- The loop runs and the worker has met no error. -/
def Running (engine : Engine) : Prop :=
  (∀ result, engine.main ≠ .returned result) ∧ ∀ text, engine.worker ≠ .ended (.error text)

structure Conserved (history : List Observation) (engine : Engine) : Prop where
  /-- While the recording runs, each slot is in exactly one place. -/
  placed : Running engine → (places engine).Perm (List.range captureBufferPoolSize)
  /-- Whatever happens, no slot is in two places. -/
  once : (places engine).Nodup
  /-- No buffer refers to a slot that is free or being filled. -/
  unreferenced : ∀ slot ∈ engine.free ++ filling engine.main, ∀ release ∈ engine.releases, release.slot = slot →
    release.inFlight = 0
  /-- A slot is handed out and returned in turns: it is free after the return. -/
  returned : ∀ slot < captureBufferPoolSize,
    history.count (.handed slot) + engine.free.count slot = history.count (.slotReturned slot) + 1
  /-- A guard that still has its slot waits for a buffer, or is about to return it. -/
  awaiting : ∀ release ∈ engine.releases, release.retired = true → release.returned = false →
    0 < release.inFlight ∨ 0 < release.checks
  /-- Only the guard of the push under way is not retired, unless a push failed. -/
  retired : (∀ text, engine.worker ≠ .ended (.error text)) → ∀ release ∈ engine.releases, release.retired = false →
    ∃ input plan index, engine.worker = .pushing input plan index ∧ engine.releases.head? = some release

/-! ## Counting places -/

def references (slot : Nat) (release : BufferRelease) : Bool := !release.returned && release.slot == slot

theorem count_awaited (slot : Nat) (releases : List BufferRelease) :
    (awaited releases).count slot = releases.countP (references slot) := by
  unfold awaited
  rw [List.count_eq_countP, List.countP_map, List.countP_filter]
  apply List.countP_congr
  intro release _
  simp [references, and_comm]

theorem count_places (engine : Engine) (slot : Nat) :
    (places engine).count slot =
      engine.free.count slot + (filling engine.main).count slot + engine.queued.count slot +
        (held engine.worker).count slot + engine.releases.countP (references slot) := by
  simp only [places, List.count_append, count_awaited]

theorem countP_replaced {α : Type} (counts : α → Bool) {list : List α} {place : Nat} {old : α}
    (found : list[place]? = some old) (new : α) :
    (list.set place new).countP counts + (counts old).toNat = list.countP counts + (counts new).toNat := by
  induction list generalizing place with
  | nil => cases found
  | cons first rest ih =>
    cases place with
    | zero =>
      obtain rfl : first = old := by simpa using found
      rw [List.set_cons_zero, List.countP_cons, List.countP_cons]
      cases counts first <;> cases counts new <;> simp
    | succ place =>
      have tail := ih (by simpa using found)
      rw [List.set_cons_succ, List.countP_cons, List.countP_cons]
      omega

theorem countP_modifyHead (counts : BufferRelease → Bool) {change : BufferRelease → BufferRelease}
    (same : ∀ release, counts (change release) = counts release) (releases : List BufferRelease) :
    (modifyHead change releases).countP counts = releases.countP counts := by
  cases releases with
  | nil => rfl
  | cons release rest => simp only [modifyHead, List.countP_cons, same]

variable {before after : Engine} {seen : List Observation}

/-- A turn keeps every slot in as many places as before, unless the loop returns
or the worker fails. Then slots are lost, and none is doubled. -/
theorem Effect.places (effect : Effect before after seen)
    (drained : before.worker = .stopping → before.queue.queue = []) :
    (∀ slot, (places after).count slot = (places before).count slot) ∨
      (¬Running after ∧ ∀ slot, (places after).count slot ≤ (places before).count slot) := by
  simp only [count_places]
  cases effect with
  | idle => exact .inl fun slot => rfl
  | moved main paused same =>
    simp only [same]
    exact .inl fun slot => rfl
  | exited result =>
    refine .inr ⟨fun running => running.1 result rfl, fun slot => ?_⟩
    simp only [filling, List.count_nil, free, queued]
    omega
  | announced command main plain same =>
    simp only [queued, List.filterMap_append, List.filterMap_cons, plain, same, List.filterMap_nil, List.append_nil]
    exact .inl fun slot => rfl
  | handed taken rest phase order =>
    have gone : before.free = taken :: rest := order
    left
    intro slot
    rw [gone, phase]
    simp only [filling, free, queued, List.append_nil, List.count_cons, List.count_nil]
    omega
  | committed input main phase same =>
    left
    intro slot
    simp only [queued, List.filterMap_append, List.filterMap_cons, slotOf, same, phase, List.filterMap_nil,
      List.count_append, List.count_nil, free]
    simp only [filling]
    omega
  | taken input rest phase waiting =>
    left
    intro slot
    simp only [queued, waiting, phase, held, slotOf, List.filterMap_cons, List.count_cons, List.count_nil, free]
    omega
  | paused paused rest encoder phase waiting =>
    left
    intro slot
    simp only [queued, waiting, slotOf, List.filterMap_cons, free]
  | closing rest phase waiting =>
    left
    intro slot
    rcases waiting with waiting | ⟨_, waiting⟩
    · simp only [queued, waiting, phase, held, slotOf, List.filterMap_cons, free]
    · simp only [queued, waiting, phase, held, free]
  | began input plan phase =>
    left
    intro slot
    simp only [phase, held, List.countP_cons, references, List.count_cons, List.count_nil, free, queued,
      Bool.not_false, Bool.true_and]
    omega
  | skipped input phase =>
    left
    intro slot
    simp only [phase, held, free, List.count_append, List.count_cons, List.count_nil, queued]
    omega
  | wrote input plan index phase =>
    left
    intro slot
    simp only [phase, held, free, queued]
    rw [countP_modifyHead]
    intro release
    rfl
  | retired input plan index phase =>
    left
    intro slot
    simp only [endPush, phase, held, free, queued]
    rw [countP_modifyHead]
    intro release
    rfl
  | failed text =>
    refine .inr ⟨fun running => running.2 text rfl, fun slot => ?_⟩
    simp only [endWorker, SyncChannel.dropReceiver, queued, held, free, List.filterMap_nil, List.count_nil]
    omega
  | rejected text =>
    refine .inr ⟨fun running => running.2 text rfl, fun slot => ?_⟩
    simp only [endWorker, SyncChannel.dropReceiver, queued, held, free, List.filterMap_nil, List.count_nil]
    rw [countP_modifyHead]
    · omega
    · intro release
      rfl
  | completed phase =>
    left
    intro slot
    simp only [endWorker, SyncChannel.dropReceiver, queued, held, free, phase, drained phase]
  | finalized place release found live =>
    left
    intro slot
    have counted := countP_replaced (references slot) found
      { release with inFlight := release.inFlight - 1, checks := release.checks + 1 }
    simp only [references] at counted ⊢
    simp only [free, queued]
    omega
  | slotReturned place release found called retired unused pending =>
    left
    intro slot
    have counted := countP_replaced (references slot) found
      { release with checks := release.checks - 1, returned := true }
    simp only [references, pending, Bool.not_false, Bool.not_true, Bool.true_and, Bool.false_and,
      Bool.toNat_false] at counted
    simp only [free, List.count_append, List.count_cons, List.count_nil, queued]
    cases same : release.slot == slot with
    | false =>
      simp only [same, Bool.toNat_false, Bool.false_eq_true, ↓reduceIte] at counted ⊢
      omega
    | true =>
      simp only [same, Bool.toNat_true, ↓reduceIte] at counted ⊢
      omega
  | checked place release found =>
    left
    intro slot
    have counted := countP_replaced (references slot) found { release with checks := release.checks - 1 }
    simp only [references] at counted ⊢
    simp only [free, queued]
    omega

/-! ## The end of the queue -/

/-- The command to finish is the last one, and the worker stops on it only. -/
structure Finishing (engine : Engine) : Prop where
  sending : engine.queue.sending = true
  early : leaving engine.main = false → .finish ∉ engine.queue.queue ∧ engine.worker ≠ .stopping
  last : ∀ front rest, engine.queue.queue = front ++ .finish :: rest → rest = []
  drained : engine.worker = .stopping → engine.queue.queue = []

theorem Finishing.of_same (finishing : Finishing before) (queue : after.queue = before.queue)
    (main : leaving after.main = false → leaving before.main = false) (worker : after.worker = .stopping →
      before.worker = .stopping) : Finishing after where
  sending := queue ▸ finishing.sending
  early stays := ⟨queue ▸ (finishing.early (main stays)).1, fun stopping => (finishing.early (main stays)).2 (worker stopping)⟩
  last front rest split := finishing.last front rest (queue ▸ split)
  drained stopping := queue ▸ finishing.drained (worker stopping)

/-- The worker takes a command and goes on. -/
theorem Finishing.took (finishing : Finishing before) {command : EncoderCommand} {rest : List EncoderCommand}
    (waiting : before.queue.queue = command :: rest)
    (queue : after.queue = { before.queue with queue := rest }) (main : after.main = before.main)
    (worker : after.worker ≠ .stopping) : Finishing after where
  sending := by
    rw [queue]
    exact finishing.sending
  early stays := by
    have absent := (finishing.early (main ▸ stays)).1
    rw [waiting] at absent
    rw [queue]
    exact ⟨fun member => absent (List.mem_cons_of_mem _ member), worker⟩
  last front others split := by
    rw [queue] at split
    dsimp only at split
    apply finishing.last (command :: front)
    rw [waiting, split]
    rfl
  drained stopping := absurd stopping worker

/-- The loop sends a command behind the others. -/
theorem Finishing.sent (finishing : Finishing before) (command : EncoderCommand)
    (stays : leaving before.main = false) (ends : leaving after.main = true ↔ command = .finish)
    (queue : after.queue = { before.queue with queue := before.queue.queue ++ [command] })
    (worker : after.worker = before.worker) : Finishing after := by
  obtain ⟨absent, running⟩ := finishing.early stays
  constructor
  · rw [queue]
    exact finishing.sending
  · intro goes
    have plain : command ≠ .finish := fun same => by
      rw [ends.mpr same] at goes
      cases goes
    rw [queue, worker]
    refine ⟨fun member => ?_, running⟩
    rcases List.mem_append.mp member with old | new
    · exact absent old
    · exact plain (List.mem_singleton.mp new).symm
  · intro front rest split
    rw [queue] at split
    dsimp only at split
    -- A command behind the first one to finish would have been sent after it.
    rcases List.eq_nil_or_concat rest with rfl | ⟨others, last, rfl⟩
    · rfl
    · have moved : before.queue.queue ++ [command] = (front ++ .finish :: others) ++ [last] := by
        rw [split]
        simp
      have same := (List.append_inj' moved rfl).1
      exact absurd (by rw [same]; simp) absent
  · intro stopping
    exact absurd (worker ▸ stopping) running

theorem Finishing.ended (finishing : Finishing before) {result : Except String EncoderStats}
    (releases : List BufferRelease) : Finishing ({ before with releases }.endWorker result) where
  sending := finishing.sending
  early _ := ⟨nofun, nofun⟩
  last front rest split := by simp [endWorker, SyncChannel.dropReceiver] at split
  drained stopping := nomatch stopping

theorem Finishing.step (finishing : Finishing before) (effect : Effect before after seen) : Finishing after := by
  cases effect with
  | idle => exact finishing
  | moved main paused _ same => exact finishing.of_same rfl (fun stays => same ▸ stays) id
  | exited result => exact finishing.of_same rfl nofun id
  | announced command main plain _ stays ends => exact finishing.sent command stays ends rfl rfl
  | handed slot rest phase => exact finishing.of_same rfl (fun _ => phase ▸ rfl) id
  | committed input main phase _ stays =>
    refine finishing.sent (.frame input) (phase ▸ rfl) ?_ rfl rfl
    simp [stays]
  | taken input rest phase waiting => exact finishing.took waiting rfl rfl nofun
  | paused paused rest encoder phase waiting =>
    refine finishing.took waiting rfl rfl ?_
    rw [phase]
    nofun
  | closing rest phase waiting =>
    rcases waiting with waiting | ⟨gone, _⟩
    · obtain rfl := finishing.last [] rest waiting
      constructor
      · exact finishing.sending
      · intro stays
        exact absurd (by rw [waiting]; simp) (finishing.early stays).1
      · intro front rest split
        simp at split
      · intro _
        rfl
    · rw [finishing.sending] at gone
      cases gone
  | began | skipped | wrote | retired => exact finishing.of_same rfl id nofun
  | failed text => exact finishing.ended before.releases
  | rejected text => exact finishing.ended _
  | completed phase => exact finishing.ended before.releases
  | finalized | slotReturned | checked => exact finishing.of_same rfl id id

/-! ## Guards -/

/-- What holds of each guard by itself. -/
structure Sound (release : BufferRelease) : Prop where
  unused : release.returned = true → release.retired = true ∧ release.inFlight = 0
  awaiting : release.retired = true → release.returned = false → 0 < release.inFlight ∨ 0 < release.checks

structure Guarded (engine : Engine) : Prop where
  sound : ∀ release ∈ engine.releases, Sound release
  /-- The guard of a push under way is the newest, and the only one not retired. -/
  current : ∀ input plan index, engine.worker = .pushing input plan index →
    ∃ current others, engine.releases = current :: others ∧ current.retired = false ∧
      ∀ release ∈ others, release.retired = true
  settled : (∀ input plan index, engine.worker ≠ .pushing input plan index) →
    (∀ text, engine.worker ≠ .ended (.error text)) → ∀ release ∈ engine.releases, release.retired = true

theorem Guarded.of_same (guarded : Guarded before) (releases : after.releases = before.releases)
    (worker : after.worker = before.worker) : Guarded after where
  sound := releases ▸ guarded.sound
  current := releases ▸ worker ▸ guarded.current
  settled := releases ▸ worker ▸ guarded.settled

/-- The worker goes on outside of a push. -/
theorem Guarded.moved (guarded : Guarded before) (releases : after.releases = before.releases)
    (idle : ∀ input plan index, before.worker ≠ .pushing input plan index)
    (alive : ∀ text, before.worker ≠ .ended (.error text))
    (next : ∀ input plan index, after.worker ≠ .pushing input plan index) : Guarded after where
  sound := releases ▸ guarded.sound
  current input plan index phase := absurd phase (next input plan index)
  settled _ _ := releases ▸ guarded.settled idle alive

theorem retired_set {list : List BufferRelease} {place : Nat} {old new : BufferRelease}
    (found : list[place]? = some old) (same : new.retired = old.retired)
    (all : ∀ release ∈ list, release.retired = true) : ∀ release ∈ list.set place new, release.retired = true := by
  intro release member
  rcases List.mem_or_eq_of_mem_set member with kept | rfl
  · exact all release kept
  · rw [same]
    exact all old (List.mem_of_getElem? found)

theorem Guarded.replaced (guarded : Guarded before) {place : Nat} {old new : BufferRelease}
    (found : before.releases[place]? = some old) (releases : after.releases = before.releases.set place new)
    (worker : after.worker = before.worker) (same : new.retired = old.retired) (sound : Sound new) :
    Guarded after where
  sound release member := by
    rw [releases] at member
    rcases List.mem_or_eq_of_mem_set member with kept | rfl
    · exact guarded.sound release kept
    · exact sound
  current input plan index phase := by
    obtain ⟨current, others, order, active, rest⟩ := guarded.current input plan index (worker ▸ phase)
    rw [order] at found
    rw [releases, order]
    cases place with
    | zero =>
      obtain rfl : current = old := by simpa using found
      exact ⟨new, others, rfl, same.trans active, rest⟩
    | succ place =>
      exact ⟨current, others.set place new, rfl, active, retired_set (by simpa using found) same rest⟩
  settled idle alive := by
    rw [releases]
    rw [worker] at idle alive
    exact retired_set found same (guarded.settled idle alive)

/-- The guard of the push under way changes, and may be retired with its end. -/
theorem Guarded.changed (guarded : Guarded before) {input : EncodeFrame} {plan : Plan} {index : Nat}
    (phase : before.worker = .pushing input plan index) {change : BufferRelease → BufferRelease}
    (releases : after.releases = modifyHead change before.releases)
    (sound : ∀ release, release.retired = false → release.returned = false → Sound (change release))
    (goes : (∃ input plan index, after.worker = .pushing input plan index) →
      ∀ release, (change release).retired = release.retired)
    (ends : (∀ input plan index, after.worker ≠ .pushing input plan index) →
      (∀ text, after.worker ≠ .ended (.error text)) → ∀ release, (change release).retired = true) :
    Guarded after := by
  obtain ⟨current, others, order, active, rest⟩ := guarded.current input plan index phase
  rw [order] at releases
  have unreturned : current.returned = false := by
    cases returned : current.returned with
    | false => rfl
    | true =>
      have retired := (guarded.sound current (order ▸ List.mem_cons_self)).unused returned |>.1
      rw [active] at retired
      cases retired
  constructor
  · rw [releases]
    intro release member
    rcases List.mem_cons.mp member with rfl | old
    · exact sound current active unreturned
    · exact guarded.sound release (order ▸ List.mem_cons_of_mem _ old)
  · intro input plan index next
    exact ⟨change current, others, releases, (goes ⟨input, plan, index, next⟩ current).trans active, rest⟩
  · intro idle alive release member
    rw [releases] at member
    rcases List.mem_cons.mp member with rfl | old
    · exact ends idle alive current
    · exact rest release old

theorem Guarded.failed (guarded : Guarded before) (text : String) : Guarded (before.endWorker (.error text)) where
  sound := guarded.sound
  current _ _ _ phase := nomatch phase
  settled _ alive := absurd rfl (alive text)

theorem Guarded.step (guarded : Guarded before) (effect : Effect before after seen) : Guarded after := by
  cases effect with
  | idle => exact guarded
  | moved | exited | announced | handed | committed | paused => exact guarded.of_same rfl rfl
  | taken input rest phase | closing rest phase | completed phase =>
    refine guarded.moved rfl ?_ ?_ nofun
    · rw [phase]
      nofun
    · rw [phase]
      nofun
  | skipped input phase =>
    refine guarded.moved rfl ?_ ?_ nofun
    · rw [phase]
      nofun
    · rw [phase]
      nofun
  | began input plan phase =>
    have all : ∀ release ∈ before.releases, release.retired = true := by
      apply guarded.settled
      · rw [phase]
        nofun
      · rw [phase]
        nofun
    constructor
    · intro release member
      rcases List.mem_cons.mp member with rfl | old
      · exact ⟨nofun, nofun⟩
      · exact guarded.sound release old
    · intro _ _ _ _
      exact ⟨_, _, rfl, rfl, all⟩
    · intro idle
      exact absurd rfl (idle input plan plan.firstIndex)
  | wrote input plan index phase within =>
    refine guarded.changed phase rfl ?_ (fun _ _ => rfl) ?_
    · intro release active unreturned
      exact ⟨fun returned => by simp [unreturned] at returned, fun retired => by simp [active] at retired⟩
    · intro idle
      exact absurd rfl (idle input plan (index + 1))
  | retired input plan index phase beyond =>
    refine guarded.changed phase rfl ?_ ?_ (fun _ _ _ => rfl)
    · intro release active unreturned
      exact ⟨fun returned => by simp [unreturned] at returned, fun _ _ => .inr (Nat.succ_pos _)⟩
    · rintro ⟨_, _, _, no⟩
      cases no
  | failed text => exact guarded.failed text
  | rejected text input plan index phase =>
    refine guarded.changed phase rfl ?_ ?_ ?_
    · intro release active unreturned
      exact ⟨fun returned => by simp [unreturned] at returned, fun retired => by simp [active] at retired⟩
    · rintro ⟨_, _, _, no⟩
      cases no
    · intro _ alive
      exact absurd rfl (alive text)
  | finalized place release found live =>
    refine guarded.replaced found rfl rfl rfl ⟨fun returned => ?_, fun _ _ => .inr (Nat.succ_pos _)⟩
    have unused := (guarded.sound release (List.mem_of_getElem? found)).unused returned
    exact absurd unused.2 live
  | slotReturned place release found called retired unused pending =>
    exact guarded.replaced found rfl rfl rfl ⟨fun _ => ⟨retired, unused⟩, nofun⟩
  | checked place release found called undue =>
    have sound := guarded.sound release (List.mem_of_getElem? found)
    refine guarded.replaced found rfl rfl rfl ⟨sound.unused, fun retired unreturned => .inl ?_⟩
    -- A retired guard that keeps its slot at a check has buffers left.
    by_contra none
    exact undue ⟨retired, Nat.eq_zero_of_not_pos none, unreturned⟩

/-! ## The invariant -/

variable {history : List Observation}

structure Pooled (history : List Observation) (engine : Engine) : Prop where
  finishing : Finishing engine
  guarded : Guarded engine
  once : ∀ slot, (places engine).count slot ≤ (List.range captureBufferPoolSize).count slot
  complete : Running engine → ∀ slot, (places engine).count slot = (List.range captureBufferPoolSize).count slot
  counted : ∀ slot, history.count (.handed slot) + engine.free.count slot =
    history.count (.slotReturned slot) + (List.range captureBufferPoolSize).count slot

/-- Slots leave and enter the free ones in sight of the history. -/
theorem Effect.counted (effect : Effect before after seen) (slot : Nat) :
    seen.count (.handed slot) + after.free.count slot = seen.count (.slotReturned slot) + before.free.count slot := by
  cases effect with
  | handed taken rest _ order =>
    have gone : before.free = taken :: rest := order
    rw [gone]
    simp only [free, List.append_nil, List.count_cons, List.count_nil]
    by_cases same : taken = slot
    · simp [same]
      omega
    · simp [same]
  | skipped input =>
    simp only [free, List.count_append, List.count_cons, List.count_nil]
    by_cases same : input.slot = slot
    · simp [same]
      omega
    · simp [same]
  | slotReturned place release =>
    simp only [free, List.count_append, List.count_cons, List.count_nil]
    by_cases same : release.slot = slot
    · simp [same]
      omega
    · simp [same]
  | wrote => simp [free]
  | idle | moved | exited | announced | committed | taken | paused | closing | began | retired | failed | rejected
  | completed | finalized | checked => rfl

/-- A worker that has failed stays failed. -/
theorem Effect.alive (effect : Effect before after seen) (alive : ∀ text, after.worker ≠ .ended (.error text)) :
    ∀ text, before.worker ≠ .ended (.error text) := by
  intro text failed
  cases effect with
  | idle | moved | exited | announced | handed | committed | finalized | slotReturned | checked =>
    exact alive text failed
  | taken _ _ phase | paused _ _ _ phase | closing _ phase | began _ _ phase | skipped _ phase | wrote _ _ _ phase
  | retired _ _ _ phase | rejected _ _ _ _ phase | completed phase =>
    rw [phase] at failed
    cases failed
  | failed _ working => exact working _ failed

theorem Pooled.step (pooled : Pooled history before) (turn : Turn) :
    Pooled ((step before turn).2 ++ history) (Engine.step before turn).1 := by
  by_cases gone : ∃ result, before.main = .returned result
  · obtain ⟨result, returned⟩ := gone
    have still : Engine.step before turn = (before, []) := by
      unfold Engine.step
      rw [returned]
    rw [still]
    exact pooled
  · have effect := step_effect before turn
    generalize (Engine.step before turn).2 = seen at effect ⊢
    generalize (Engine.step before turn).1 = after at effect ⊢
    have moved := effect.places pooled.finishing.drained
    constructor
    · exact pooled.finishing.step effect
    · exact pooled.guarded.step effect
    · intro slot
      rcases moved with same | ⟨_, fewer⟩
      · rw [same slot]
        exact pooled.once slot
      · exact Nat.le_trans (fewer slot) (pooled.once slot)
    · intro running slot
      rcases moved with same | ⟨stopped, _⟩
      · rw [same slot]
        exact pooled.complete ⟨fun result returned => gone ⟨result, returned⟩, effect.alive running.2⟩ slot
      · exact absurd running stopped
    · intro slot
      have counted := pooled.counted slot
      have change := effect.counted slot
      rw [List.count_append, List.count_append]
      omega

theorem initial_pooled (fps : Nat) (commitPaced : Bool) : Pooled [] (initial fps commitPaced) where
  finishing := ⟨rfl, fun _ => ⟨nofun, nofun⟩, fun front rest split => by simp [initial] at split, nofun⟩
  guarded := ⟨nofun, nofun, fun _ _ => nofun⟩
  once slot := by simp [places, free, initial, filling, queued, held, awaited]
  complete _ slot := by simp [places, free, initial, filling, queued, held, awaited]
  counted slot := by simp [free, initial]

theorem count_range_le_one (size slot : Nat) : (List.range size).count slot ≤ 1 :=
  List.nodup_iff_count_le_one.mp List.nodup_range slot

/-- A slot that is free or being filled is behind no guard. -/
theorem Pooled.unreferenced (pooled : Pooled history before) {slot : Nat}
    (taken : slot ∈ before.free ++ filling before.main) {release : BufferRelease} (made : release ∈ before.releases)
    (same : release.slot = slot) : release.inFlight = 0 := by
  have present : 0 < (before.free ++ filling before.main).count slot := List.count_pos_iff.mpr taken
  have once := Nat.le_trans (pooled.once slot) (count_range_le_one _ slot)
  rw [count_places] at once
  rw [List.count_append] at present
  have absent : before.releases.countP (references slot) = 0 := by omega
  have unreferring := List.countP_eq_zero.mp absent release made
  have returned : release.returned = true := by simpa [references, same] using unreferring
  exact ((pooled.guarded.sound release made).unused returned).2

/-- For recordings of either kind, whatever the threads, the compositor and the
pipeline do: while neither the loop has returned nor the worker failed, each of
the slots is in exactly one place, and at no time in two; buffers refer to no
slot that is free or being filled, and a slot is returned once for each time it
is handed out. -/
theorem slots_conserved (fps : Nat) (commitPaced : Bool) {engine : Engine}
    (run : Run Engine.step unrestricted (· = initial fps commitPaced) history engine) : Conserved history engine := by
  have pooled : Pooled history engine := by
    refine Transition.Run.invariant ?_ ?_ run
    · intro engine begun
      rw [begun]
      exact initial_pooled fps commitPaced
    · intro history engine turn _ _ pooled
      exact pooled.step turn
  constructor
  · intro running
    exact List.perm_iff_count.mpr (pooled.complete running)
  · apply List.nodup_iff_count_le_one.mpr
    intro slot
    exact Nat.le_trans (pooled.once slot) (count_range_le_one _ slot)
  · intro slot taken release made same
    exact pooled.unreferenced taken made same
  · intro slot within
    have counted := pooled.counted slot
    rw [List.count_eq_one_of_mem List.nodup_range (List.mem_range.mpr within)] at counted
    exact counted
  · intro release made
    exact (pooled.guarded.sound release made).awaiting
  · intro alive release made active
    by_contra finished
    push Not at finished
    by_cases pushing : ∃ input plan index, engine.worker = .pushing input plan index
    · obtain ⟨input, plan, index, phase⟩ := pushing
      obtain ⟨current, others, order, _, rest⟩ := pooled.guarded.current input plan index phase
      have other := finished input plan index phase
      rw [order] at made other
      rcases List.mem_cons.mp made with rfl | old
      · exact other rfl
      · rw [rest release old] at active
        cases active
    · push Not at pushing
      rw [pooled.guarded.settled pushing alive release made] at active
      cases active

def captureOf (presentationNs : Nat) : List Turn :=
  [.main {}, .main {}, .main { event := .ready (some presentationNs) }, .main {}]

/-- The pipeline rejects the first of two frames. -/
def rejectedTurns : List Turn :=
  captureOf 1000 ++ captureOf 100001000 ++
    [.worker {}, .worker {}, .worker { push := .error "encoder rejected frame: Flushing" }]

def rejected : Engine × List Observation := execute step (initial 30 false) rejectedTurns

/-- After a failed push the loop goes on, while the slot of the frame behind it is nowhere. -/
theorem rejected_frame_loses_slot :
    Run step unrestricted (· = initial 30 false) rejected.2 rejected.1 ∧ rejected.1.main = .deciding ∧
      1 ∉ places rejected.1 := by
  have begun : Run step unrestricted (· = initial 30 false) [] (initial 30 false) := .start rfl
  have run := begun.execute rejectedTurns (permits_unrestricted _ _ _ _)
  rw [List.append_nil] at run
  exact ⟨run, by decide +kernel, by decide +kernel⟩

/-- Two slots through the whole engine and back. -/
theorem slots_conserved_two_frames :
    let final := execute step (initial 30 false)
      (captureOf 1000 ++ captureOf 100001000 ++ List.replicate 9 (.worker {}) ++
        [.checked 1, .finalized 1, .checked 1])
    Conserved final.2 final.1 ∧ final.1.released = [0] ∧ awaited final.1.releases = [1] := by
  intro final
  have begun : Run step unrestricted (· = initial 30 false) [] (initial 30 false) := .start rfl
  have run := begun.execute (captureOf 1000 ++ captureOf 100001000 ++ List.replicate 9 (.worker {}) ++
    [.checked 1, .finalized 1, .checked 1]) (permits_unrestricted _ _ _ _)
  rw [List.append_nil] at run
  exact ⟨slots_conserved 30 false run, by decide +kernel, by decide +kernel⟩

end Luma.Recorder.Engine
