import Luma.Encoder.Pipeline

/-! The pipeline through the turns of the submitting thread. -/

set_option autoImplicit false

namespace Luma.Encoder.Direct

open Luma.Library Luma.Library.Transition

variable {harvests encodes : Nat} {history : List DirectEvent} {self : Direct}

namespace Pipelined

theorem submit_kept (pipelined : Pipelined harvests encodes history self) (idle : self.submitter = .idle) (present : Present)
    {checks : List Check} (looks : .disabled ∈ checks) :
    Pipelined harvests encodes (.presented present.ptsNs :: history)
      { self with submitter := .gating present checks } := by
  refine pipelined.moves (presented_quiet present.ptsNs) (Alike.refl _) (by rw [idle]; rfl) rfl rfl
    (fun resting => ?_) fun filled => ?_
  · rw [idle] at resting
    exact ⟨⟨resting, looks⟩, fun _ => .inr ⟨present, checks, rfl⟩⟩
  · rw [idle] at filled
    exact .inr (filled.plainly rfl rfl rfl)

theorem gate_kept (pipelined : Pipelined harvests encodes history self) {present : Present} {checks : List Check}
    (phase : self.submitter = .gating present checks) :
    ∃ harvests encodes, Pipelined harvests encodes ((self.gate present checks).2 ++ history) (self.gate present checks).1 := by
  refine ⟨harvests, encodes, ?_⟩
  cases checks with
  | cons check checks =>
    rw [gate]
    by_cases passes : self.passes check = true
    · rw [if_pos passes]
      refine pipelined.moves nothing_quiet (Alike.refl _) (by rw [phase]; rfl) rfl rfl (fun resting => ?_) fun filled => ?_
      · rw [phase] at resting
        obtain ⟨disabled, looks⟩ := resting
        refine ⟨⟨disabled, ?_⟩, fun _ => .inr ⟨present, checks, rfl⟩⟩
        rcases List.mem_cons.mp looks with rfl | later
        · simp [Direct.passes, disabled] at passes
        · exact later
      · rw [phase] at filled
        exact .inr (filled.plainly rfl rfl rfl)
    · rw [if_neg passes]
      refine pipelined.moves (returned_quiet false) (Alike.refl _) (by rw [phase]; rfl) rfl rfl (fun resting => ?_) fun filled => ?_
      · rw [phase] at resting
        exact ⟨resting.1, fun _ => .inl rfl⟩
      · rw [phase] at filled
        exact .inr (filled.plainly rfl rfl rfl)
  | nil =>
    rw [gate]
    split
    · refine pipelined.moves (disabled_quiet false _) (Alike.refl _) (by rw [phase]; rfl) rfl rfl (fun resting => ?_) fun _ => .inl rfl
      rw [phase] at resting
      cases resting.2
    · have awake : ¬Submitter.Rests self.disabled (.gating present []) := fun resting => nomatch resting.2
      split
      · rename_i mode
        exact pipelined.toPlain nothing_quiet phase awake rfl rfl rfl rfl rfl (by rw [mode]; rfl)
      · rename_i mode
        exact pipelined.toPlain nothing_quiet phase awake rfl rfl rfl rfl rfl (by rw [mode]; rfl)
      · rename_i mode
        split
        · exact pipelined.toPlain (returned_quiet false) phase awake rfl rfl rfl rfl rfl rfl
        · refine pipelined.calls mode (fun released => ?_) (.inl ⟨present, rfl⟩) (fun resting => ?_) (by rw [phase]; rfl)
            (by rw [phase]; rfl)
          · unfold Released at released
            simp only [mode] at released
            exact awake (phase ▸ released.2.2.2.2.1)
          · exact absurd (phase ▸ resting) awake

/-- In a phase that is not one of rest, what the thread relies on holds. -/
theorem filled (pipelined : Pipelined harvests encodes history self) {submitter : Submitter}
    (phase : self.submitter = submitter) (awake : ¬submitter.Rests self.disabled) : Filled encodes history self submitter := by
  subst phase
  exact pipelined.settled.resolve_left awake

theorem asynchronous (pipelined : Pipelined harvests encodes history self) {submitter : Submitter}
    (phase : self.submitter = submitter) (own : ∀ mode, submitter.suits mode = decide (mode = .harvestWorker)) :
    self.mode = .harvestWorker := by
  have suits := pipelined.suits
  rw [phase, own] at suits
  exact of_decide_eq_true suits

/-- On the asynchronous path the slot to be encoded is the one behind the submitted pictures. -/
theorem encodeNext_eq (pipelined : Pipelined harvests encodes history self) (mode : self.mode = .harvestWorker) :
    self.encodeNext = slotOf encodes := by
  have place := pipelined.place
  rw [encodeSlot, mode] at place
  exact place

theorem ready_kept (pipelined : Pipelined harvests encodes history self) {present : Present}
    (phase : self.submitter = .readying present) :
    Pipelined harvests encodes ((self.ready present).2 ++ history) (self.ready present).1 := by
  have mode := pipelined.asynchronous phase fun _ => rfl
  have filled := pipelined.filled phase nofun
  have skips : Pipelined harvests encodes history (self.submitterAt (.rechecking present false)).1 :=
    pipelined.toPlain nothing_quiet phase nofun rfl rfl rfl rfl rfl (by rw [mode]; rfl)
  unfold ready
  split
  · exact skips
  · rename_i pending
    rw [Bool.not_eq_true', Bool.not_eq_false, pipelined.encodeNext_eq mode] at pending
    split
    · exact skips
    · split
      · exact skips
      · rename_i space
        refine pipelined.moves nothing_quiet (Alike.refl _) (by rw [phase]; rfl) rfl rfl (by rw [phase]; exact nofun) fun _ => .inr ?_
        refine filled.advance rfl rfl rfl (fun _ _ _ _ => ?_) nofun ?_ nofun
        · have waits : Pending encodes (copied history) self.slots self.copyNext := filled.pending mode
          obtain ⟨n, after, before, same⟩ := waits.only _ pending
          have near := Nat.lt_of_lt_of_le before waits.bounded
          rwa [slotOf_inj after near same.symm]
        · rintro _ inFlight (reads | reads) <;> cases reads
          exact ⟨fun _ => Nat.le_refl _, fun _ => Nat.lt_of_not_ge space⟩

theorem admission_kept (pipelined : Pipelined harvests encodes history self) {present : Present} {inFlight : Nat}
    (phase : self.submitter = .admitting present inFlight) :
    Pipelined harvests encodes ((self.admission present inFlight).2 ++ history) (self.admission present inFlight).1 := by
  have filled := pipelined.filled phase nofun
  obtain ⟨read, limited⟩ := filled.read present inFlight (.inl rfl)
  -- The ring only empties between the look at its count and this turn.
  have room : ∀ later : Submitter, later.admitted = true → inFlight < kSlots → self.initialized = true →
      self.submitted.count < kSlots := fun _ _ few live => Nat.lt_of_le_of_lt (read live) few
  unfold admission
  generalize self.transport.canAdmit inFlight = admitted
  dsimp only
  split
  · rename_i mode
    cases admitted with
    | false => exact pipelined.toPlain nothing_quiet phase nofun rfl rfl rfl rfl rfl (by rw [mode]; rfl)
    | true =>
      refine pipelined.moves nothing_quiet (Alike.refl _) (by rw [phase]; rfl) rfl (by rw [mode]; rfl)
        (by rw [phase]; exact nofun) fun _ => .inr ?_
      refine filled.advance rfl rfl rfl (fun asynchronous _ _ _ => filled.offered asynchronous present inFlight (.inl rfl))
        (fun admitted => room _ admitted (limited (by rw [mode]; decide))) ?_ nofun
      rintro _ _ (reads | reads) <;> cases reads
  · rename_i mode
    cases admitted with
    | false => exact pipelined.toPlain nothing_quiet phase nofun rfl rfl rfl rfl rfl (by rw [mode]; rfl)
    | true =>
      refine pipelined.moves nothing_quiet (Alike.refl _) (by rw [phase]; rfl) rfl (by rw [mode]; rfl)
        (by rw [phase]; exact nofun) fun _ => .inr ?_
      refine filled.advance rfl rfl rfl (fun asynchronous => absurd (mode.symm.trans asynchronous) (by decide))
        (fun admitted => room _ admitted (limited (by rw [mode]; decide))) ?_ nofun
      rintro _ _ (reads | reads) <;> cases reads
  · rename_i mode
    split
    · exact pipelined.toPlain (returned_quiet false) phase nofun rfl rfl rfl rfl rfl rfl
    · rename_i admitted
      simp only [Bool.or_eq_true, decide_eq_true_eq, not_or] at admitted
      refine pipelined.moves nothing_quiet (Alike.refl _) (by rw [phase]; rfl) rfl (by rw [mode]; rfl)
        (by rw [phase]; exact nofun) fun _ => .inr ?_
      refine filled.advance rfl rfl rfl (fun asynchronous => absurd (mode.symm.trans asynchronous) (by decide))
        (fun admits => room _ admits (Nat.lt_of_not_ge admitted.2)) ?_ nofun
      rintro _ _ (reads | reads) <;> cases reads

/-- A phase in which a released encoder of `submit_framebuffer` cannot be. -/
theorem awake_of_released (pipelined : Pipelined harvests encodes history self) {submitter : Submitter}
    (phase : self.submitter = submitter) (awake : ¬submitter.Rests self.disabled) (dead : ¬self.initialized = true) :
    self.mode = .harvestWorker := by
  have released := pipelined.alive.resolve_left dead
  unfold Released at released
  cases mode : self.mode with
  | harvestWorker => rfl
  | synchronous | outputWorker =>
    simp only [mode] at released
    exact absurd (phase ▸ released.2.2.2.2.1) awake

theorem alive_moved (pipelined : Pipelined harvests encodes history self) {submitter : Submitter}
    (phase : self.submitter = submitter) (awake : ¬submitter.Rests self.disabled) {after : Direct}
    (mode : after.mode = self.mode) (collector : after.collector = self.collector)
    (initialized : after.initialized = self.initialized) (transport : after.transport = self.transport) :
    after.initialized = true ∨ Released after := by
  by_cases alive : self.initialized = true
  · exact .inl (initialized.trans alive)
  · have which := pipelined.awake_of_released phase awake alive
    have released := pipelined.alive.resolve_left alive
    unfold Released at released ⊢
    rw [mode, collector, initialized, transport]
    simp only [which] at released ⊢
    exact .inr released

theorem torn_moved (pipelined : Pipelined harvests encodes history self) {after : Direct}
    (collector : after.collector = self.collector) (transport : after.transport = self.transport)
    (apart : after.submitter.joined = false) (tears : TearsDown after) : Worker.gone after.transport.worker = true := by
  rw [transport]
  rcases tears with ⟨index, releasing⟩ | releasing
  · rw [releasing] at apart
    cases apart
  · rw [collector] at releasing
    exact pipelined.torn (.inr releasing)

/-- Nobody harvests once the encoder is gone. -/
theorem live (pipelined : Pipelined harvests encodes history self) {draining : Bool} {call : Harvest}
    (harvesting : self.collector = .harvesting draining call) : self.initialized = true := by
  refine pipelined.alive.resolve_right fun released => ?_
  have threads := pipelined.threads
  unfold Released at released
  unfold Threads at threads
  cases mode : self.mode with
  | harvestWorker =>
    simp only [mode, harvesting] at released
    obtain closed | closed := released.2.2 <;> cases closed
  | outputWorker =>
    simp only [mode, harvesting] at released
    cases released.2.2.1 trivial
  | synchronous =>
    simp only [mode, harvesting] at released threads
    obtain phase | ⟨present, checks, phase⟩ := released.2.2.2.2.2 <;>
      · simp only [phase] at threads
        cases threads

/-- A submission that fails ends all submissions. -/
theorem settles (pipelined : Pipelined harvests encodes history self) (seen : List DirectEvent)
    {submitter later : Submitter} {slots : Fin kSlots → Slot} (phase : self.submitter = submitter)
    (awake : ¬submitter.Rests self.disabled) (apart : submitter.joined = false) (laterApart : later.joined = false)
    (suits : later.suits self.mode = true) (rests : later.Rests true)
    (sameCopies : copied (seen ++ history) = copied history) (sameHanded : handed (seen ++ history) = handed history)
    (taken : accepted (seen ++ history) = (copied history).take encodes ∨
      accepted (seen ++ history) = (copied history).take (encodes + 1))
    (tried : attempted (seen ++ history) = (copied history).take encodes ∨
      attempted (seen ++ history) = (copied history).take (encodes + 1))
    (pictures : self.initialized = true → ∀ n, harvests ≤ n → n < encodes →
      (slots (slotOf n)).bitstream = (self.slots (slotOf n)).bitstream) :
    Pipelined harvests encodes (seen ++ history) { self with submitter := later, disabled := true, slots } := by
  have whole : ∀ n, Whole n history self →
      Whole n (seen ++ history) { self with submitter := later, disabled := true, slots } := by
    intro n whole
    unfold Whole at *
    rw [sameHanded]
    exact whole.imp (fun skipped => absurd (phase ▸ skipped.2) awake) id
  constructor
  case numbered => rw [sameCopies]; exact pipelined.numbered
  case place => exact pipelined.place
  case suits => exact suits
  case threads => exact pipelined.threads.moved rfl rfl (phase ▸ apart) laterApart
  case alive => exact pipelined.alive_moved phase awake rfl rfl rfl rfl
  case torn => exact pipelined.torn_moved rfl rfl laterApart
  case order => rw [sameCopies]; exact pipelined.order
  case ring =>
    intro alive
    obtain ⟨contents, counted, bounded, pairs⟩ := pipelined.ring alive
    refine ⟨contents, counted, bounded, fun n after before => ?_⟩
    rw [sameCopies, pictures alive n after before]
    exact pairs n after before
  case atHead =>
    intro draining call harvesting
    have alive := pipelined.live harvesting
    have counted := (pipelined.ring alive).counted
    exact (pipelined.atHead draining call harvesting).same sameCopies sameHanded rfl rfl
      (fun some => pictures alive harvests (Nat.le_refl _) (by omega)) whole
  case taken => rw [sameCopies]; exact taken
  case tried => rw [sameCopies]; exact tried
  case output => rw [sameCopies, sameHanded]; exact pipelined.output
  case whole => exact whole _ pipelined.whole
  case settled => exact .inl rests

/-- The same, with the end that the path has for it. -/
theorem submissionFailed_kept (pipelined : Pipelined harvests encodes history self) (seen : List DirectEvent)
    {submitter : Submitter} {slots : Fin kSlots → Slot} (phase : self.submitter = submitter)
    (awake : ¬submitter.Rests self.disabled) (apart : submitter.joined = false)
    (sameCopies : copied (seen ++ history) = copied history) (sameHanded : handed (seen ++ history) = handed history)
    (taken : accepted (seen ++ history) = (copied history).take encodes ∨
      accepted (seen ++ history) = (copied history).take (encodes + 1))
    (tried : attempted (seen ++ history) = (copied history).take encodes ∨
      attempted (seen ++ history) = (copied history).take (encodes + 1))
    (pictures : self.initialized = true → ∀ n, harvests ≤ n → n < encodes →
      (slots (slotOf n)).bitstream = (self.slots (slotOf n)).bitstream) (present : Present) :
    Pipelined harvests encodes
      ((submissionFailed present ({ self with disabled := true, slots }, seen)).2 ++ history)
      (submissionFailed present ({ self with disabled := true, slots }, seen)).1 := by
  have silent := returned_quiet false
  unfold submissionFailed
  dsimp only
  split
  · rename_i mode
    exact pipelined.settles seen phase awake apart rfl (by rw [mode]; rfl) rfl sameCopies sameHanded taken tried pictures
  all_goals
    refine pipelined.settles (.returned false :: seen) phase awake apart rfl rfl rfl ((copied_quiet silent).trans sameCopies)
      ((handed_quiet silent).trans sameHanded) ?_ ?_ pictures
    · exact taken.imp (accepted_quiet silent).trans (accepted_quiet silent).trans
    · exact tried.imp (attempted_quiet silent).trans (attempted_quiet silent).trans

theorem setSlot_bitstream {index other : Fin kSlots} {slot : Slot} (same : slot.bitstream = (self.slots index).bitstream) :
    ((self.setSlot index slot).slots other).bitstream = (self.slots other).bitstream := by
  unfold setSlot
  by_cases here : other = index
  · subst here
    simp [same]
  · simp [here]

theorem setSlot_alike {index : Fin kSlots} {slot : Slot} (pending : slot.copyPending = (self.slots index).copyPending)
    (texture : slot.texture = (self.slots index).texture) (stamp : slot.copyPtsNs = (self.slots index).copyPtsNs)
    (picture : slot.bitstream = (self.slots index).bitstream) : Alike (self.setSlot index slot).slots self.slots := by
  intro other
  unfold setSlot
  by_cases here : other = index
  · subst here
    simp [pending, texture, stamp, picture]
  · simp [here]

theorem probe_kept (pipelined : Pipelined harvests encodes history self) {present : Present} (answer : WaitResult)
    (phase : self.submitter = .probing present) :
    Pipelined harvests encodes ((self.probe present answer).2 ++ history) (self.probe present answer).1 := by
  have mode := pipelined.asynchronous phase fun _ => rfl
  have filled := pipelined.filled phase nofun
  have waits : Pending encodes (copied history) self.slots self.copyNext := filled.pending mode
  have before := filled.offered mode present 0 (.inr rfl)
  have goes : Pipelined harvests encodes history
      ((self.setSlot self.encodeNext { self.slots self.encodeNext with copyFence := false }).submitterAt
        (.mapping present)).1 := by
    refine pipelined.moves nothing_quiet (setSlot_alike rfl rfl rfl rfl) (by rw [phase]; rfl) rfl rfl
      (by rw [phase]; exact nofun) fun _ => .inr ?_
    obtain ⟨-, texture, copyAt⟩ := waits.waiting encodes (Nat.le_refl _) before
    refine ⟨filled.accepted, filled.attempted, filled.pending, fun other => absurd mode other, nofun, ?_, nofun,
      fun _ => filled.room rfl, nofun, nofun⟩
    rintro _ (mapping | mapping) <;> cases mapping
    refine ⟨texture, ?_⟩
    rw [copyAt, inputTimeStamp, mode, pipelined.encodeNext_eq mode]
  unfold probe
  cases answer with
  | timeoutExpired => exact pipelined.toPlain nothing_quiet phase nofun rfl rfl rfl rfl rfl (by rw [mode]; rfl)
  | alreadySignaled | conditionSatisfied => exact goes
  | waitFailed =>
    have silent : ∀ event ∈ [DirectEvent.disabled "OpenGL copy fence wait"], quiet event = true := one_quiet rfl
    refine pipelined.submissionFailed_kept _ phase nofun rfl (copied_quiet silent) (handed_quiet silent) ?_ ?_
      (fun _ _ _ _ => rfl) present
    · exact pipelined.taken.imp (accepted_quiet silent).trans (accepted_quiet silent).trans
    · exact pipelined.tried.imp (attempted_quiet silent).trans (attempted_quiet silent).trans

theorem map_kept (pipelined : Pipelined harvests encodes history self) {present : Present} (succeeds : Bool)
    (phase : self.submitter = .mapping present) :
    Pipelined harvests encodes ((self.map present succeeds).2 ++ history) (self.map present succeeds).1 := by
  have filled := pipelined.filled phase nofun
  unfold map
  cases succeeds with
  | true =>
    have silent : ∀ event ∈ [DirectEvent.mapped self.encodeSlot], quiet event = true := one_quiet rfl
    refine pipelined.moves silent (setSlot_alike rfl rfl rfl rfl) (by rw [phase]; rfl) rfl rfl
      (by rw [phase]; exact nofun) fun _ => .inr ?_
    obtain ⟨accepted, attempted, pending, single, -, stamped, -, room, -, -⟩ := filled
    refine ⟨accepted, attempted, pending, single, ?_, ?_, nofun, room, ?_, nofun⟩
    · rintro _ _ _ (reads | reads) <;> cases reads
    · rintro _ (mapping | mapping) <;> cases mapping
      exact stamped present (.inl rfl)
    · rintro _ _ (reads | reads) <;> cases reads
  | false =>
    have silent : ∀ event ∈ [DirectEvent.disabled "NvEncMapInputResource"], quiet event = true := one_quiet rfl
    refine pipelined.submissionFailed_kept _ phase nofun rfl (copied_quiet silent) (handed_quiet silent) ?_ ?_
      (fun _ _ _ _ => by exact setSlot_bitstream rfl) present
    · exact pipelined.taken.imp (accepted_quiet silent).trans (accepted_quiet silent).trans
    · exact pipelined.tried.imp (attempted_quiet silent).trans (attempted_quiet silent).trans

/-- With room left in the ring, its slots are not the next to be encoded. -/
theorem apart_of_room (pipelined : Pipelined harvests encodes history self) (live : self.initialized = true)
    (room : self.submitted.count < kSlots) {n : Nat} (after : harvests ≤ n) (before : n < encodes) :
    slotOf n ≠ self.encodeSlot := by
  have counted := (pipelined.ring live).counted
  rw [pipelined.place]
  intro same
  have equal := slotOf_inj (Nat.le_of_lt before) (by omega) same
  omega

theorem take_next {α : Type} {list : List α} {n : Nat} {value : α} (there : list[n]? = some value) :
    list.take (n + 1) = list.take n ++ [value] := by
  rw [List.take_add_one, there]
  rfl

theorem encode_kept (pipelined : Pipelined harvests encodes history self) {present : Present} (answer : Answer)
    (phase : self.submitter = .encoding present) :
    Pipelined harvests encodes ((self.encode present answer).2 ++ history) (self.encode present answer).1 := by
  have filled := pipelined.filled phase nofun
  obtain ⟨texture, stamp⟩ := filled.stamped present (.inr rfl)
  rw [← pipelined.place] at texture
  have picture : (copied history)[encodes]? =
      some ((self.slots self.encodeSlot).texture, self.inputTimeStamp present) := by rw [stamp, texture]
  have accepted_before : accepted history = (copied history).take encodes := filled.accepted
  have attempted_before : attempted history = (copied history).take encodes := filled.attempted
  have pictures : ∀ slot : Slot, self.initialized = true → ∀ n, harvests ≤ n → n < encodes →
      ((self.setSlot self.encodeSlot slot).slots (slotOf n)).bitstream = (self.slots (slotOf n)).bitstream := by
    intro slot live n after before
    have apart := pipelined.apart_of_room live (filled.room rfl live) after before
    simp [setSlot, apart]
  unfold encode
  dsimp only
  split
  · rename_i result
    have room := filled.room rfl
    have before : encodes < (copied history).length := (List.getElem?_eq_some_iff.mp stamp).1
    have sameCopies : copied ([DirectEvent.encoded self.encodeSlot (self.slots self.encodeSlot).texture
        (self.inputTimeStamp present) self.firstFrame answer.encode] ++ history) = copied history := by simp [copied]
    have sameHanded : handed ([DirectEvent.encoded self.encodeSlot (self.slots self.encodeSlot).texture
        (self.inputTimeStamp present) self.firstFrame answer.encode] ++ history) = handed history := by simp [handed]
    have moreAccepted : accepted ([DirectEvent.encoded self.encodeSlot (self.slots self.encodeSlot).texture
        (self.inputTimeStamp present) self.firstFrame answer.encode] ++ history) =
          (copied history).take (encodes + 1) := by
      rw [take_next picture, ← accepted_before]
      simp [accepted, result]
    have moreAttempted : attempted ([DirectEvent.encoded self.encodeSlot (self.slots self.encodeSlot).texture
        (self.inputTimeStamp present) self.firstFrame answer.encode] ++ history) =
          (copied history).take (encodes + 1) := by
      rw [take_next picture, ← attempted_before]
      simp [attempted]
    constructor
    case numbered => rw [sameCopies]; exact pipelined.numbered
    case place => exact pipelined.place
    case suits => rfl
    case threads => exact pipelined.threads.moved rfl rfl (by rw [phase]; rfl) rfl
    case alive => exact pipelined.alive_moved phase nofun rfl rfl rfl rfl
    case torn => exact pipelined.torn_moved rfl rfl rfl
    case order => rw [sameCopies]; exact pipelined.order
    case ring =>
      intro live
      obtain ⟨contents, counted, bounded, pairs⟩ := pipelined.ring live
      refine ⟨contents, counted, bounded, fun n after before => ?_⟩
      rw [sameCopies]
      exact (pairs n after before).trans (congrArg some (pictures _ live n after before).symm)
    case atHead =>
      intro draining call harvesting
      have live := pipelined.live harvesting
      have counted := (pipelined.ring live).counted
      exact (pipelined.atHead draining call harvesting).same sameCopies sameHanded rfl rfl
        (fun some => pictures _ live harvests (Nat.le_refl _) (by omega)) fun n whole => by
          unfold Whole at *
          rw [sameHanded]
          exact whole.imp (fun skipped => nomatch phase ▸ skipped.2) id
    case taken => rw [sameCopies]; exact .inr moreAccepted
    case tried => rw [sameCopies]; exact .inr moreAttempted
    case output => rw [sameCopies, sameHanded]; exact pipelined.output
    case whole =>
      have whole := pipelined.whole
      unfold Whole at *
      rw [sameHanded]
      exact whole.imp (fun skipped => nomatch phase ▸ skipped.2) id
    case settled =>
      refine .inr ⟨by rw [sameCopies]; exact moreAccepted, by rw [sameCopies]; exact moreAttempted, ?_, ?_, ?_, nofun, ?_,
        fun _ => room, ?_, nofun⟩
      · intro mode
        rw [sameCopies]
        have waits : Pending encodes (copied history) self.slots self.copyNext := filled.pending mode
        exact pipelined.place ▸ waits.encoded before rfl
      · rw [sameCopies]
        exact filled.single
      · rintro _ _ _ (reads | reads) <;> cases reads
      · intro _
        rw [sameCopies, ← pipelined.place]
        simpa [setSlot] using picture
      · rintro _ _ (reads | reads) <;> cases reads
  · rename_i result
    refine pipelined.submissionFailed_kept _ phase nofun rfl ?_ ?_ (.inr ?_) (.inr ?_) (pictures _) present
    · simp [copied, disable]
    · simp [handed, disable]
    · rw [take_next picture, ← accepted_before]
      simp [accepted, disable, result]
    · rw [take_next picture, ← attempted_before]
      simp [attempted, disable]
  · rename_i result
    refine pipelined.submissionFailed_kept _ phase nofun rfl ?_ ?_ (.inl ?_) (.inr ?_) (pictures _) present
    · simp [copied, disable]
    · simp [handed, disable]
    · rw [← accepted_before]
      simp [accepted, disable, result]
    · rw [take_next picture, ← attempted_before]
      simp [attempted, disable]

/-- A flag of the slot is set before the picture goes into the ring. -/
theorem marked (pipelined : Pipelined harvests encodes history self) {present : Present} {marks later : List Mark}
    {slot : Slot} (phase : self.submitter = .marking present marks)
    (pending : slot.copyPending = (self.slots self.encodeSlot).copyPending)
    (texture : slot.texture = (self.slots self.encodeSlot).texture)
    (stamp : slot.copyPtsNs = (self.slots self.encodeSlot).copyPtsNs)
    (picture : slot.bitstream = (self.slots self.encodeSlot).bitstream) :
    Pipelined harvests encodes history ((self.setSlot self.encodeSlot slot).submitterAt (.marking present later)).1 := by
  have filled := pipelined.filled phase nofun
  obtain ⟨accepted, attempted, pends, single, -, -, encoding, room, -, -⟩ := filled
  refine pipelined.moves nothing_quiet (setSlot_alike pending texture stamp picture) (by rw [phase]; rfl) rfl rfl
    (by rw [phase]; exact nofun) fun _ => .inr ⟨accepted, attempted, pends, single, ?_, ?_, encoding, room, ?_, nofun⟩
  · rintro _ _ _ (reads | reads) <;> cases reads
  · rintro _ (mapping | mapping) <;> cases mapping
  · rintro _ _ (reads | reads) <;> cases reads

/-- The picture in hand goes into the ring. -/
theorem appended (pipelined : Pipelined harvests encodes history self) {present : Present} {marks : List Mark}
    (phase : self.submitter = .marking present marks) {seen : List DirectEvent}
    (still : ∀ event ∈ seen, quiet event = true) {later : Submitter} {next encodeNext : Fin kSlots} {firstFrame : Bool}
    (plain : later.plain = true) (laterApart : later.joined = false) (suits : later.suits self.mode = true)
    (place : Direct.encodeSlot { self with next, encodeNext } = slotOf (encodes + 1)) :
    Pipelined harvests (encodes + 1) (seen ++ history)
      { self with
        submitted := self.submitted.push self.encodeSlot, firstFrame, next, encodeNext, submitter := later } := by
  have filled := pipelined.filled phase nofun
  have picture := filled.encoding rfl
  have before : encodes < (copied history).length := (List.getElem?_eq_some_iff.mp picture).1
  have whole : ∀ n, Whole n history self → Whole n (seen ++ history)
      { self with
        submitted := self.submitted.push self.encodeSlot, firstFrame, next, encodeNext, submitter := later } :=
    fun n whole => whole.same still rfl fun resting => nomatch phase ▸ resting
  constructor
  case numbered => rw [copied_quiet still]; exact pipelined.numbered
  case place => exact place
  case suits => exact suits
  case threads => exact pipelined.threads.moved rfl rfl (by rw [phase]; rfl) laterApart
  case alive => exact pipelined.alive_moved phase nofun rfl rfl rfl rfl
  case torn => exact pipelined.torn_moved rfl rfl laterApart
  case order =>
    rw [copied_quiet still]
    exact ⟨Nat.le_succ_of_le pipelined.order.1, before⟩
  case ring =>
    intro live
    obtain ⟨contents, counted, bounded, pairs⟩ := pipelined.ring live
    have space := filled.room rfl live
    have pushed := RingQueue.contents_push self.encodeSlot space
    refine ⟨?_, ?_, space, fun n after last => ?_⟩
    · change (self.submitted.push self.encodeSlot).contents =
        (List.range' harvests (self.submitted.count + 1)).map slotOf
      rw [pushed, contents, pipelined.place, List.range'_concat, List.map_append, ← counted, Nat.one_mul]
      rfl
    · change harvests + (self.submitted.count + 1) = encodes + 1
      omega
    · rw [copied_quiet still]
      rcases Nat.lt_succ_iff_lt_or_eq.mp last with earlier | rfl
      · exact pairs n after earlier
      · exact picture
  case atHead =>
    intro draining call harvesting
    have atHead := pipelined.atHead draining call harvesting
    unfold AtHead at *
    have some : 0 < (self.submitted.push self.encodeSlot).count := Nat.succ_pos _
    cases call with
    | testing | freeing => trivial
    | verifying | locking => exact ⟨atHead.1, some⟩
    | entering limit slot unit | pushing limit slot unit =>
      rw [copied_quiet still, handed_quiet still]
      exact ⟨atHead.1, some, atHead.2.2⟩
    | unlocking | unmapping => exact ⟨atHead.1, some, fun enqueued => whole _ (atHead.2.2 enqueued)⟩
    | marking | advancing => exact ⟨atHead.1, some, whole _ atHead.2.2⟩
  case taken => rw [copied_quiet still, accepted_quiet still]; exact .inl filled.accepted
  case tried => rw [copied_quiet still, attempted_quiet still]; exact .inl filled.attempted
  case output =>
    rw [copied_quiet still, handed_quiet still]
    exact pipelined.output.imp id fun head => ⟨Nat.lt_succ_of_lt head.1, head.2⟩
  case whole => exact whole _ pipelined.whole
  case settled =>
    have unmarked : later.isMarking = false := by cases later <;> first | rfl | cases plain
    have empty : later.holds = false := by cases later <;> first | rfl | cases plain
    refine .inr ?_
    constructor
    case accepted =>
      rw [copied_quiet still, accepted_quiet still, unmarked]
      exact filled.accepted
    case attempted =>
      rw [copied_quiet still, attempted_quiet still, unmarked]
      exact filled.attempted
    case pending =>
      rw [copied_quiet still, unmarked]
      exact filled.pending
    case single =>
      rw [copied_quiet still, empty]
      exact filled.single
    all_goals cases later <;> simp_all [Submitter.plain, Submitter.isMarking, Submitter.admitted, Submitter.claims]

theorem mark_kept (pipelined : Pipelined harvests encodes history self) {present : Present} {marks : List Mark}
    (phase : self.submitter = .marking present marks) :
    ∃ encodes, Pipelined harvests encodes ((self.mark present marks).2 ++ history) (self.mark present marks).1 := by
  cases marks with
  | cons first marks =>
    refine ⟨encodes, ?_⟩
    cases first with
    | busy => exact pipelined.marked phase rfl rfl rfl rfl
    | unharvested => exact pipelined.marked phase rfl rfl rfl rfl
  | nil =>
    refine ⟨encodes + 1, ?_⟩
    have place := pipelined.place
    unfold mark
    dsimp only
    split
    · rename_i mode
      refine pipelined.appended phase nothing_quiet rfl rfl (by rw [mode]; rfl) ?_
      rw [encodeSlot, mode] at place ⊢
      dsimp only at place ⊢
      rw [place, slotOf_succ]
    all_goals
      rename_i mode
      refine pipelined.appended phase (returned_quiet true) rfl rfl rfl ?_
      rw [encodeSlot, mode] at place ⊢
      dsimp only at place ⊢
      rw [place, slotOf_succ]

/-- The end of a call that has nothing in hand, of a thread that may be at rest. -/
theorem returns_kept (pipelined : Pipelined harvests encodes history self) {submitter : Submitter} {pacing : Pacing}
    (phase : self.submitter = submitter) (unmarked : submitter.isMarking = false) (empty : submitter.holds = false)
    (apart : submitter.joined = false) (rests : submitter.Rests self.disabled → self.disabled = true) (value : Bool) :
    Pipelined harvests encodes ((returns value ({ self with pacing }, [])).2 ++ history)
      (returns value ({ self with pacing }, [])).1 := by
  refine pipelined.moves (returned_quiet value) (Alike.refl _) (phase ▸ apart) rfl rfl (fun resting => ?_) fun filled => ?_
  · exact ⟨rests (phase ▸ resting), fun _ => .inl rfl⟩
  · exact .inr (filled.plainly (phase ▸ unmarked) (phase ▸ empty) rfl)

theorem recheck_kept (pipelined : Pipelined harvests encodes history self) {present : Present} {encoded : Bool}
    (phase : self.submitter = .rechecking present encoded) :
    Pipelined harvests encodes ((self.recheck present encoded).2 ++ history) (self.recheck present encoded).1 := by
  have mode := pipelined.asynchronous phase fun _ => rfl
  unfold recheck
  split
  · exact pipelined.returns_kept phase rfl rfl rfl id false
  · rename_i enabled
    split
    · exact pipelined.returns_kept phase rfl rfl rfl id encoded
    · split
      · exact pipelined.returns_kept phase rfl rfl rfl id encoded
      · rename_i free
        refine pipelined.moves nothing_quiet (Alike.refl _) (by rw [phase]; rfl) rfl (by rw [mode]; rfl)
          (fun resting => absurd (by rw [phase] at resting; exact resting) enabled) fun filled => .inr ?_
        rw [phase] at filled
        refine filled.advance rfl rfl rfl ?_ nofun ?_ fun _ => ?_
        · rintro _ _ _ (reads | reads) <;> cases reads
        · rintro _ _ (reads | reads) <;> cases reads
        · have waits : Pending encodes (copied history) self.slots self.copyNext := filled.pending mode
          refine Nat.lt_of_le_of_ne waits.bounded fun full => free ?_
          -- With all slots pending, the next one would be the first of them.
          have wraps : slotOf (copied history).length = slotOf encodes := by
            rw [full]
            exact Fin.ext (Nat.add_mod_right encodes kSlots)
          rw [waits.next, wraps]
          exact (waits.waiting encodes (Nat.le_refl _) (by omega)).1

theorem claims_apart {submitter : Submitter} (claims : submitter.claims = true) :
    submitter.isMarking = false ∧ submitter.holds = false ∧ submitter.admitted = false ∧ submitter.joined = false ∧
      ∀ disabled, ¬submitter.Rests disabled := by
  cases submitter <;> simp [Submitter.claims] at claims <;> exact ⟨rfl, rfl, rfl, rfl, fun _ => (by rintro ⟨⟩)⟩

/-- From one phase of the claim of a slot to the next. -/
theorem claims_kept (pipelined : Pipelined harvests encodes history self) {submitter later : Submitter}
    {slots : Fin kSlots → Slot} {seen : List DirectEvent} (still : ∀ event ∈ seen, quiet event = true)
    (alike : Alike slots self.slots) (phase : self.submitter = submitter) (claims : submitter.claims = true)
    (laterClaims : later.claims = true) (suits : later.suits self.mode = true) :
    Pipelined harvests encodes (seen ++ history) { self with submitter := later, slots } := by
  obtain ⟨unmarked, empty, -, apart, awake⟩ := claims_apart claims
  obtain ⟨-, laterEmpty, unadmitted, laterApart, -⟩ := claims_apart laterClaims
  refine pipelined.moves still alike (phase ▸ apart) laterApart suits (fun resting => ?_) fun filled => .inr ?_
  · exact absurd (phase ▸ resting) (awake _)
  · rw [phase] at filled
    refine filled.advance unmarked empty laterEmpty ?_ (fun admitted => nomatch unadmitted.symm.trans admitted) ?_
      fun _ => filled.free claims
    · rintro _ _ _ (rfl | rfl) <;> cases laterClaims
    · rintro _ _ (rfl | rfl) <;> cases laterClaims

theorem claiming_kept (pipelined : Pipelined harvests encodes history self) {present : Present} {encoded : Bool}
    (phase : self.submitter = .claiming present encoded) (busy : Bool) :
    Pipelined harvests encodes history
      (self.submitterAt (if busy then .reclaiming present encoded else .copying present encoded)).1 := by
  have mode := pipelined.asynchronous phase fun _ => rfl
  cases busy with
  | true => exact pipelined.claims_kept nothing_quiet (Alike.refl _) phase rfl rfl (by rw [mode]; rfl)
  | false => exact pipelined.claims_kept nothing_quiet (Alike.refl _) phase rfl rfl (by rw [mode]; rfl)

theorem reclaim_kept (pipelined : Pipelined harvests encodes history self) {present : Present} {encoded : Bool}
    (phase : self.submitter = .reclaiming present encoded) :
    Pipelined harvests encodes ((self.reclaim present encoded).2 ++ history) (self.reclaim present encoded).1 := by
  have mode := pipelined.asynchronous phase fun _ => rfl
  unfold reclaim
  split
  · exact pipelined.returns_kept phase rfl rfl rfl nofun encoded
  · exact pipelined.claims_kept nothing_quiet (Alike.refl _) phase rfl rfl (by rw [mode]; rfl)

theorem unmapReclaimed_kept (pipelined : Pipelined harvests encodes history self) {present : Present} {encoded : Bool}
    (phase : self.submitter = .unmapping present encoded) (succeeds : Bool) :
    Pipelined harvests encodes ((self.unmapReclaimed present encoded succeeds).2 ++ history)
      (self.unmapReclaimed present encoded succeeds).1 := by
  have mode := pipelined.asynchronous phase fun _ => rfl
  unfold unmapReclaimed
  dsimp only
  split
  · exact pipelined.claims_kept nothing_quiet (Alike.refl _) phase rfl rfl (by rw [mode]; rfl)
  · split
    · have silent : ∀ event ∈ [DirectEvent.unmapped self.copyNext], quiet event = true := one_quiet rfl
      exact pipelined.claims_kept silent (setSlot_alike rfl rfl rfl rfl) phase rfl rfl (by rw [mode]; rfl)
    · refine pipelined.moves ?_ (setSlot_alike rfl rfl rfl rfl) (by rw [phase]; rfl) rfl rfl
        (by rw [phase]; exact nofun) fun _ => .inl rfl
      simp [returns, disable, quiet]

theorem freeing_kept (pipelined : Pipelined harvests encodes history self) {present : Present} {encoded : Bool}
    (phase : self.submitter = .freeing present encoded) :
    Pipelined harvests encodes history ((self.setSlot self.copyNext
      { self.slots self.copyNext with busy := false }).submitterAt (.copying present encoded)).1 := by
  have mode := pipelined.asynchronous phase fun _ => rfl
  exact pipelined.claims_kept nothing_quiet (setSlot_alike rfl rfl rfl rfl) phase rfl rfl (by rw [mode]; rfl)

theorem copies_length (pipelined : Pipelined harvests encodes history self) : (copied history).length = self.copies := by
  have lengths := congrArg List.length pipelined.numbered
  rwa [List.length_map, List.length_range] at lengths

/-- A copy is made by a thread that has no picture in hand. -/
theorem grows (pipelined : Pipelined harvests encodes history self) {submitter later : Submitter}
    {slots : Fin kSlots → Slot} {copyNext : Fin kSlots} {pacing : Pacing} {disabled : Bool} {ptsNs : UInt64}
    (seen : List DirectEvent) (phase : self.submitter = submitter) (awake : ¬submitter.Rests self.disabled)
    (unmarked : submitter.isMarking = false) (apart : submitter.joined = false)
    (grown : copied (seen ++ history) = copied history ++ [(self.copies, ptsNs)])
    (sameAccepted : accepted (seen ++ history) = accepted history)
    (sameAttempted : attempted (seen ++ history) = attempted history)
    (sameHanded : handed (seen ++ history) = handed history)
    (pictures : ∀ index, (slots index).bitstream = (self.slots index).bitstream) (laterApart : later.joined = false)
    (suits : later.suits self.mode = true)
    (settled : later.Rests disabled ∨ Filled encodes (seen ++ history) { self with slots, copyNext } later) :
    Pipelined harvests encodes (seen ++ history)
      { self with copies := self.copies + 1, submitter := later, slots, copyNext, pacing, disabled } := by
  have filled := pipelined.filled phase awake
  obtain ⟨first, last⟩ := pipelined.order
  have front : ∀ n, n ≤ encodes → (copied history ++ [(self.copies, ptsNs)]).take n = (copied history).take n :=
    fun n near => List.take_append_of_le_length (Nat.le_trans near last)
  have whole : ∀ n, Whole n history self → Whole n (seen ++ history)
      { self with copies := self.copies + 1, submitter := later, slots, copyNext, pacing, disabled } := by
    intro n whole
    unfold Whole at *
    rw [sameHanded]
    exact whole.imp (fun skipped => absurd (phase ▸ skipped.2) awake) id
  have acceptedBefore : accepted history = (copied history).take encodes := by
    have known := filled.accepted
    rwa [unmarked] at known
  have attemptedBefore : attempted history = (copied history).take encodes := by
    have known := filled.attempted
    rwa [unmarked] at known
  constructor
  case numbered =>
    rw [grown, List.map_append, pipelined.numbered]
    exact (List.range_succ).symm
  case place => exact pipelined.place
  case suits => exact suits
  case threads => exact pipelined.threads.moved rfl rfl (phase ▸ apart) laterApart
  case alive => exact pipelined.alive_moved phase awake rfl rfl rfl rfl
  case torn => exact pipelined.torn_moved rfl rfl laterApart
  case order =>
    rw [grown, List.length_append]
    exact ⟨first, Nat.le_add_right_of_le last⟩
  case ring =>
    intro live
    obtain ⟨contents, counted, bounded, pairs⟩ := pipelined.ring live
    refine ⟨contents, counted, bounded, fun n after before => ?_⟩
    rw [grown, List.getElem?_append_left (by omega), pairs n after before, pictures]
  case atHead =>
    intro draining call harvesting
    have atHead := pipelined.atHead draining call harvesting
    unfold AtHead at *
    cases call with
    | testing | freeing => trivial
    | verifying | locking => exact atHead
    | entering limit slot unit | pushing limit slot unit =>
      simp only [grown, front harvests first, sameHanded, pictures]
      exact atHead
    | unlocking | unmapping => exact ⟨atHead.1, atHead.2.1, fun enqueued => whole _ (atHead.2.2 enqueued)⟩
    | marking | advancing => exact ⟨atHead.1, atHead.2.1, whole _ atHead.2.2⟩
  case taken => rw [grown, sameAccepted, acceptedBefore, front encodes (Nat.le_refl _)]; exact .inl rfl
  case tried => rw [grown, sameAttempted, attemptedBefore, front encodes (Nat.le_refl _)]; exact .inl rfl
  case output =>
    rw [grown, sameHanded, front harvests first]
    refine pipelined.output.imp id fun head => ?_
    rw [front (harvests + 1) head.1]
    exact head
  case whole => exact whole _ pipelined.whole
  case settled =>
    refine settled.imp id fun filled => ?_
    obtain ⟨accepted, attempted, pending, single, offered, stamped, encoding, room, read, free⟩ := filled
    exact ⟨accepted, attempted, pending, single, offered, stamped, encoding, room, read, free⟩

theorem copy_kept (pipelined : Pipelined harvests encodes history self) {present : Present} {encoded : Bool}
    (phase : self.submitter = .copying present encoded) (succeeds : Bool) :
    Pipelined harvests encodes ((self.copy present encoded succeeds).2 ++ history)
      (self.copy present encoded succeeds).1 := by
  have mode := pipelined.asynchronous phase fun _ => rfl
  have filled := pipelined.filled phase nofun
  have numbers := pipelined.copies_length
  have waits : Pending encodes (copied history) self.slots self.copyNext := filled.pending mode
  unfold copy
  cases succeeds with
  | false =>
    have grown : copied ([.returned false, .disabled "create OpenGL copy fence",
        .copied self.copyNext self.copies present.ptsNs] ++ history) =
          copied history ++ [(self.copies, present.ptsNs)] := by simp [copied]
    refine pipelined.grows [.returned false, .disabled "create OpenGL copy fence",
      .copied self.copyNext self.copies present.ptsNs] phase nofun rfl rfl grown ?_ ?_ ?_ ?_ rfl rfl (.inl rfl)
    · simp [accepted]
    · simp [attempted]
    · simp [handed]
    · intro index
      exact setSlot_bitstream rfl
  | true =>
    have grown : copied ([.returned encoded, .copied self.copyNext self.copies present.ptsNs] ++ history) =
        copied history ++ [(self.copies, present.ptsNs)] := by simp [copied]
    have sameAccepted : accepted ([.returned encoded, .copied self.copyNext self.copies present.ptsNs] ++ history) =
        accepted history := by simp [accepted]
    have sameAttempted : attempted ([.returned encoded, .copied self.copyNext self.copies present.ptsNs] ++ history) =
        attempted history := by simp [attempted]
    refine pipelined.grows [.returned encoded, .copied self.copyNext self.copies present.ptsNs] phase nofun rfl rfl
      grown sameAccepted sameAttempted ?_ ?_ rfl rfl (.inr ?_)
    · simp [handed]
    · intro index
      exact setSlot_bitstream rfl
    · have front : (copied history ++ [(self.copies, present.ptsNs)]).take encodes = (copied history).take encodes :=
        List.take_append_of_le_length waits.ordered
      constructor
      case accepted => rw [grown, sameAccepted]; exact filled.accepted.trans front.symm
      case attempted => rw [grown, sameAttempted]; exact filled.attempted.trans front.symm
      case pending =>
        intro _
        rw [grown]
        rw [← numbers]
        exact waits.copied (filled.free rfl) rfl rfl rfl
      case single => exact fun other => absurd mode other
      all_goals simp [Submitter.isMarking, Submitter.admitted, Submitter.claims]

theorem blit_kept (pipelined : Pipelined harvests encodes history self) {present : Present}
    (phase : self.submitter = .blitting present) :
    Pipelined harvests encodes ((self.blit present).2 ++ history) (self.blit present).1 := by
  have filled := pipelined.filled phase nofun
  have numbers := pipelined.copies_length
  have mode : self.mode ≠ .harvestWorker := by
    have suits := pipelined.suits
    rw [phase] at suits
    exact of_decide_eq_true suits
  have here : self.next = slotOf encodes := by
    have place := pipelined.place
    unfold encodeSlot at place
    cases which : self.mode with
    | harvestWorker => exact absurd which mode
    | synchronous | outputWorker => simpa [which] using place
  have length : (copied history).length = encodes := filled.single mode
  have grown : copied ([.copied self.next self.copies present.ptsNs] ++ history) =
      copied history ++ [(self.copies, present.ptsNs)] := by simp [copied]
  have sameAccepted : accepted ([.copied self.next self.copies present.ptsNs] ++ history) = accepted history := by
    simp [accepted]
  have sameAttempted : attempted ([.copied self.next self.copies present.ptsNs] ++ history) = attempted history := by
    simp [attempted]
  unfold blit
  refine pipelined.grows [.copied self.next self.copies present.ptsNs] phase nofun rfl rfl grown sameAccepted
    sameAttempted ?_ ?_ rfl rfl (.inr ?_)
  · simp [handed]
  · intro index
    exact setSlot_bitstream rfl
  · have front : (copied history ++ [(self.copies, present.ptsNs)]).take encodes = (copied history).take encodes :=
      List.take_append_of_le_length (Nat.le_of_eq length.symm)
    constructor
    case accepted => rw [grown, sameAccepted]; exact filled.accepted.trans front.symm
    case attempted => rw [grown, sameAttempted]; exact filled.attempted.trans front.symm
    case pending => exact fun other => absurd other mode
    case single =>
      intro _
      rw [grown, List.length_append, length]
      rfl
    case offered => exact fun other => absurd other mode
    case stamped =>
      rintro _ (mapping | mapping) <;> cases mapping
      refine ⟨?_, ?_⟩
      · simp [setSlot, here, ← numbers, length]
      · rw [grown, ← length, List.getElem?_concat_length, numbers, inputTimeStamp]
        cases which : self.mode with
        | harvestWorker => exact absurd which mode
        | synchronous | outputWorker => rfl
    case room => exact fun _ => filled.room rfl
    all_goals simp [Submitter.isMarking, Submitter.claims]

theorem wait_kept (pipelined : Pipelined harvests encodes history self) {present : Present} {checks : List Check}
    (phase : self.submitter = .waiting present checks) :
    Pipelined harvests encodes ((self.wait present checks).2 ++ history) (self.wait present checks).1 := by
  have filled := pipelined.filled phase nofun
  have suits := pipelined.suits
  rw [phase] at suits
  unfold wait
  split
  · split
    · exact pipelined.toPlain nothing_quiet phase nofun rfl rfl rfl rfl rfl suits
    · exact pipelined.toPlain (returned_quiet false) phase nofun rfl rfl rfl rfl rfl rfl
  · split
    · rename_i few
      refine pipelined.moves nothing_quiet (Alike.refl _) (by rw [phase]; rfl) rfl suits
        (by rw [phase]; exact nofun) fun _ => .inr ?_
      refine filled.advance rfl rfl rfl ?_ nofun ?_ nofun
      · rintro _ _ _ (reads | reads) <;> cases reads
      · rintro _ _ (reads | reads) <;> cases reads
        exact ⟨fun _ => Nat.le_refl _, fun _ => few⟩
    · exact pipelined.toPlain nothing_quiet phase nofun rfl rfl rfl rfl rfl suits

theorem counting_kept (pipelined : Pipelined harvests encodes history self) {present : Present}
    (phase : self.submitter = .counting present) :
    Pipelined harvests encodes history (self.submitterAt (.admitting present self.submitted.count)).1 := by
  have filled := pipelined.filled phase nofun
  have suits := pipelined.suits
  rw [phase] at suits
  have mode : self.mode = .synchronous := of_decide_eq_true suits
  refine pipelined.moves nothing_quiet (Alike.refl _) (by rw [phase]; rfl) rfl rfl (by rw [phase]; exact nofun)
    fun _ => .inr ?_
  refine filled.advance rfl rfl rfl (fun other => nomatch mode.symm.trans other) nofun ?_ nofun
  rintro _ _ (reads | reads) <;> cases reads
  exact ⟨fun _ => Nat.le_refl _, fun other => absurd mode other⟩

theorem testing_kept (pipelined : Pipelined harvests encodes history self) {present : Present} {inFlight : Nat}
    (phase : self.submitter = .testing present inFlight) (busy : Bool) :
    Pipelined harvests encodes history
      (self.submitterAt (if busy then .waiting present waitGates else .admitting present inFlight)).1 := by
  have filled := pipelined.filled phase nofun
  have suits := pipelined.suits
  rw [phase] at suits
  have mode : self.mode = .outputWorker := of_decide_eq_true suits
  cases busy with
  | true => exact pipelined.toPlain nothing_quiet phase nofun rfl rfl rfl rfl rfl suits
  | false =>
    refine pipelined.moves nothing_quiet (Alike.refl _) (by rw [phase]; rfl) rfl rfl (by rw [phase]; exact nofun)
      fun _ => .inr ?_
    refine filled.advance rfl rfl rfl (fun other => nomatch mode.symm.trans other) nofun ?_ nofun
    rintro _ _ (reads | reads) <;> cases reads
    exact filled.read present inFlight (.inr rfl)

end Pipelined

end Luma.Encoder.Direct
