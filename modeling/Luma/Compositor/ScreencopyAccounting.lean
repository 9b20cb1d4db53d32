import Luma.Compositor.ScreencopyBooks

/-! What becomes of the copies in every order of requests, repaints and other events, and
that the queue never holds more than it may.
-/

set_option autoImplicit false

namespace Luma.Compositor

open Luma.Library Luma.Core

namespace AnvilState

/-- The queue is worked off by the next repaint. -/
def Answered (self : AnvilState) (frame buffer : Nat) : Prop :=
  ∀ host, self.panicked = false → self.desktop.redraw = true → self.desktop.active = true →
    let seen := (copyStep self (.event (.repaint host))).2
    .released frame buffer ∈ seen ∧ (.ready frame ∈ seen ∨ .failed frame ∈ seen ∨ .rejected frame ∈ seen)

structure CopyAccounts (history : List CopyObservation) (state : AnvilState) : Prop where
  copied : ∀ frame, history.count (.copied frame) ≤ 1
  answered : ∀ frame, history.countP (·.answers frame) ≤ 1
  /-- Every buffer was given back once, or still waits. -/
  released : ∀ frame buffer, history.count (.released frame buffer) + heldBuffer (state.findScreencopy frame) buffer =
    history.count (.handed frame buffer)
  afresh : Transition.Throughout Afresh history
  queue : state.screencopy.pending.length ≤ 32
  next : ∀ frame buffer, heldBuffer (state.findScreencopy frame) buffer = 1 → state.Answered frame buffer

def grantsCopies (self : AnvilState) : Event → Bool
  | .copy host frame _ withDamage => (self.findScreencopy frame).all (self.copies host · withDamage)
  | .repaint host => !self.desktop.redraw || !self.desktop.active ||
      self.screencopy.pending.all fun frame => (self.findScreencopy frame).all fun data =>
        data.pending.isNone || !refused data || !self.concludes host data
  | _ => true

def CopiesGranted : Transition.Condition AnvilState CopyInput CopyObservation := fun _ self input =>
  self.panicked = false →
    match input with
    | .event event => self.grantsCopies event = true
    | .bufferDestroyed _ => True

instance : ∀ history (self : AnvilState) input, Decidable (CopiesGranted history self input)
  | _, self, .event event => inferInstanceAs (Decidable (self.panicked = false → self.grantsCopies event = true))
  | _, _, .bufferDestroyed _ => .isTrue fun _ => trivial

variable {self : AnvilState} {host : Host} {history : List CopyObservation} {frame buffer : Nat}

/-! ## The queue -/

structure CopyQueue (state : AnvilState) : Prop where
  bounded : state.screencopy.pending.length ≤ 32
  held : ∀ frame data, state.findScreencopy frame = some data → data.pending.isSome = true →
    frame ∈ state.screencopy.pending

theorem CopyQueue.congr {after : AnvilState} (queue : CopyQueue self) (same : after.screencopy = self.screencopy) : CopyQueue after where
  bounded := same ▸ queue.bounded
  held frame data found waits := by
    rw [findScreencopy_congr same] at found
    rw [same]
    exact queue.held frame data found waits

theorem createFrame_queue (ledger : CopyLedger history self) (queue : CopyQueue self) (manager output : Nat)
    (region : Option Rect) : CopyQueue (self.createFrame manager output region).1 := by
  obtain ⟨data, named, idle, made, -⟩ := createFrame_cases self manager output region
  rw [made]
  refine ⟨queue.bounded, fun frame found there waits => ?_⟩
  rw [appendFrame_find ledger named] at there
  by_cases same : frame = self.screencopy.nextFrame
  · rw [if_pos same] at there
    rw [← Option.some.inj there, idle] at waits
    cases waits
  · rw [if_neg same] at there
    exact queue.held frame found there waits

theorem destroyScreencopy_queue (queue : CopyQueue self) (frame : Nat) : CopyQueue (self.destroyScreencopy frame).1 := by
  refine ⟨queue.bounded, fun other found there waits => ?_⟩
  rw [destroyScreencopy_find] at there
  by_cases same : other = frame
  · rw [if_pos same] at there
    cases there
  · rw [if_neg same] at there
    exact queue.held other found there waits

/-- The queue is made room in before a request is put into it. -/
theorem queueCopy_queue {data : ScreencopyFrame} (queue : CopyQueue self) (found : self.findScreencopy frame = some data)
    (idle : data.pending = none) (buffer : Nat) : CopyQueue (self.queueCopy frame buffer) := by
  have shorter : self.alivePending.length ≤ 32 :=
    Nat.le_trans (List.length_filter_le _ _) queue.bounded
  have kept : ∀ other data, self.findScreencopy other = some data → data.pending.isSome = true →
      other ∈ self.alivePending := by
    intro other data there waits
    apply List.mem_filter.mpr
    refine ⟨queue.held other data there waits, ?_⟩
    unfold isScreencopyAlive
    rw [there]
    rfl
  constructor
  · rw [queueCopy_pending]
    cases full : self.queueFull with
    | true => exact shorter
    | false =>
      have room : ¬32 ≤ self.alivePending.length := by simpa [queueFull] using full
      rw [if_neg Bool.false_ne_true, List.length_append, List.length_singleton]
      omega
  · intro other after there waits
    rw [queueCopy_find] at there
    rw [queueCopy_pending]
    rcases before : self.findScreencopy other with - | earlier
    · rw [before] at there
      cases there
    · rw [before, Option.map_some] at there
      by_cases same : other = frame
      · subst same
        rw [before] at found
        rw [if_pos rfl] at there
        cases full : self.queueFull with
        | true =>
          rw [full, if_pos rfl] at there
          rw [← Option.some.inj there] at waits
          unfold markUsed at waits
          rw [Option.some.inj found, idle] at waits
          cases waits
        | false => simp
      · rw [if_neg same] at there
        rw [← Option.some.inj there] at waits
        have member := kept other earlier before waits
        split
        · exact member
        · exact List.mem_append_left _ member

theorem requestCopy_queue (ledger : CopyLedger history self) (queue : CopyQueue self) (withDamage : Bool) :
    CopyQueue (self.requestCopy host frame buffer withDamage).1 := by
  rcases found : self.findScreencopy frame with - | data
  · unfold requestCopy
    rw [found]
    exact queue
  · cases fresh : data.used with
    | true =>
      unfold requestCopy
      rw [found]
      dsimp only
      rw [fresh]
      exact queue
    | false =>
      have kept := ledger.books frame
      rw [found] at kept
      have idle := kept.idle data rfl fresh
      rw [requestCopy_state found fresh]
      split
      · exact queueCopy_queue queue found idle buffer
      · refine ⟨queue.bounded, fun other after there waits => ?_⟩
        rw [findScreencopy_change self frame other markUsed fun _ => rfl] at there
        rcases before : self.findScreencopy other with - | earlier
        · rw [before] at there
          cases there
        · rw [before, Option.map_some] at there
          have same : after.pending = earlier.pending := by
            rw [← Option.some.inj there]
            split
            · rfl
            · rfl
          rw [same] at waits
          exact queue.held other earlier before waits

/-- All that waited was in the queue, so nothing waits any more. -/
theorem processPending_queue (host : Host) (queue : CopyQueue self) : CopyQueue (self.processPending host).1 := by
  constructor
  · unfold processPending
    rw [serve_pending]
    exact Nat.zero_le _
  · intro frame after there waits
    unfold processPending at there
    rw [serve_find] at there
    change (self.findScreencopy frame).map _ = _ at there
    rcases before : self.findScreencopy frame with - | data
    · rw [before] at there
      cases there
    · rw [before, Option.map_some] at there
      by_cases queued : frame ∈ self.screencopy.pending
      · rw [if_pos queued] at there
        rw [← Option.some.inj there] at waits
        cases waits
      · rw [if_neg queued] at there
        rw [← Option.some.inj there] at waits
        exact absurd (queue.held frame data before waits) queued

theorem repaint_queue (queue : CopyQueue self) : CopyQueue (self.repaint host).1 := by
  by_cases idle : (!self.desktop.redraw || !self.desktop.active) = true
  · rw [repaint_idle idle]
    exact queue
  · obtain ⟨redraws, active⟩ := paints_of_not_idle idle
    have started : CopyQueue (self.setDesktop { self.desktop with redraw := false }) := queue.congr rfl
    have served := processPending_queue host started
    have same := repaint_screencopy host redraws active
    exact CopyQueue.congr served same

theorem heldBuffer_pending {data : Option ScreencopyFrame} (held : heldBuffer data buffer = 1) :
    ∃ found, data = some found ∧ found.pending = some buffer := by
  unfold heldBuffer at held
  split at held
  · rename_i waits
    exact Option.bind_eq_some_iff.mp waits
  · cases held

/-- A buffer that waits is in the queue, which the next repaint works off. -/
theorem CopyQueue.answered (queue : CopyQueue self) (held : heldBuffer (self.findScreencopy frame) buffer = 1) :
    self.Answered frame buffer := by
  intro host going redraws active seen
  obtain ⟨data, found, waits⟩ := heldBuffer_pending held
  have queued := queue.held frame data found (by rw [waits]; rfl)
  have served : ((self.setDesktop { self.desktop with redraw := false }).performCopyEffects host data buffer).Sublist
      ((self.setDesktop { self.desktop with redraw := false }).processPending host).2 :=
    processPending_effects queued found waits
  have all : seen = ((self.setDesktop { self.desktop with redraw := false }).processPending host).2 := by
    show (copyStep self (.event (.repaint host))).2 = _
    unfold copyStep copyEffects
    dsimp only
    rw [going, redraws, active]
    rfl
  rw [← all] at served
  have service := performCopyEffects_service (self.setDesktop { self.desktop with redraw := false }) host data buffer
  rw [findScreencopy_some found] at service
  obtain ⟨released, ends⟩ := service.ends
  exact ⟨served.subset released, ends.imp (served.subset ·) (Or.imp (served.subset ·) (served.subset ·))⟩

/-! ## Every order of inputs -/

theorem repaint_ledger (ledger : CopyLedger history self) (granted : self.grantsCopies (.repaint host) = true) :
    CopyLedger (self.copyEffects (.repaint host) ++ history) (self.repaint host).1 := by
  unfold copyEffects
  dsimp only
  by_cases idle : (!self.desktop.redraw || !self.desktop.active) = true
  · rw [if_pos idle, repaint_idle idle]
    exact ledger
  · obtain ⟨redraws, active⟩ := paints_of_not_idle idle
    have started : CopyLedger history (self.setDesktop { self.desktop with redraw := false }) := ledger.congr rfl
    have errs : ∀ frame ∈ self.screencopy.pending, ∀ data, self.findScreencopy frame = some data →
        data.pending.isSome = true → refused data = true → self.concludes host data = false := by
      intro frame queued data found waits refuses
      unfold grantsCopies at granted
      simp only [redraws, active, Bool.not_true, Bool.false_or, List.all_eq_true] at granted
      have permitted := granted frame queued
      rw [found, Option.all_some, refuses, Bool.not_true, Bool.or_false, Option.isNone_eq_false_iff.mpr waits,
        Bool.false_or, Bool.not_eq_true'] at permitted
      exact permitted
    have served := processPending_ledger host started errs
    have same := repaint_screencopy host redraws active
    rw [if_neg idle]
    exact CopyLedger.congr served same

theorem copyStep_ledger (ledger : CopyLedger history self) (input : CopyInput)
    (granted : CopiesGranted history self input) :
    CopyLedger ((copyStep self input).2 ++ history) (copyStep self input).1 := by
  cases input with
  | bufferDestroyed => exact ledger
  | event event =>
    unfold copyStep step
    dsimp only
    cases going : self.panicked with
    | true => exact ledger
    | false =>
      have permitted : self.grantsCopies event = true := granted going
      rw [if_neg Bool.false_ne_true, if_neg Bool.false_ne_true]
      cases event with
      | captureOutput manager output region => exact createFrame_ledger ledger manager output region
      | screencopyDestroyed frame => exact destroyScreencopy_ledger ledger frame
      | repaint host => exact repaint_ledger ledger permitted
      | copy host frame buffer withDamage =>
        apply requestCopy_ledger ledger withDamage
        intro data found
        unfold grantsCopies at permitted
        dsimp only at permitted
        rw [found] at permitted
        exact permitted
      | _ =>
        rw [copyEffects_silent rfl]
        exact ledger.congr (handle_screencopy rfl)

theorem copyStep_queue (ledger : CopyLedger history self) (queue : CopyQueue self) (input : CopyInput) :
    CopyQueue (copyStep self input).1 := by
  cases input with
  | bufferDestroyed => exact queue
  | event event =>
    unfold copyStep step
    dsimp only
    cases self.panicked with
    | true => exact queue
    | false =>
      rw [if_neg Bool.false_ne_true]
      cases event with
      | captureOutput manager output region => exact createFrame_queue ledger queue manager output region
      | screencopyDestroyed frame => exact destroyScreencopy_queue queue frame
      | repaint host => exact repaint_queue queue
      | copy host frame buffer withDamage => exact requestCopy_queue ledger queue withDamage
      | _ => exact queue.congr (handle_screencopy rfl)

theorem CopyLedger.accounts (ledger : CopyLedger history self) (queue : CopyQueue self) : CopyAccounts history self where
  copied frame := (ledger.books frame).copied
  answered frame := (ledger.books frame).answered
  released frame := (ledger.books frame).released
  afresh := ledger.afresh
  queue := queue.bounded
  next _ _ held := queue.answered held

/-! ## What is not granted -/

/-- A refused frame that has not been served was answered once already. -/
theorem answeredTwice {data : ScreencopyFrame} {seen : List CopyObservation} (ledger : CopyLedger history self)
    (found : self.findScreencopy frame = some data) (waits : unserved data = true) (refuses : refused data = true)
    (again : 1 ≤ seen.countP (·.answers frame)) : ¬(seen ++ history).countP (·.answers frame) ≤ 1 := by
  have kept := ledger.books frame
  rw [found] at kept
  obtain ⟨_, _, once⟩ := kept.unserved data rfl waits
  rw [refuses] at once
  rw [List.countP_append, once, Bool.toNat_true]
  omega

theorem requestCopy_unaccounted {data : ScreencopyFrame} (ledger : CopyLedger history self)
    (found : self.findScreencopy frame = some data) (withDamage : Bool)
    (denied : self.copies host data withDamage = false) :
    ¬CopyAccounts (self.requestCopyEffects host frame buffer withDamage ++ history)
      (self.requestCopy host frame buffer withDamage).1 := by
  intro accounts
  have permitted := @copies_iff self host data withDamage
  cases fresh : data.used with
  | true =>
    -- The buffer that comes with the second request is never given back.
    have before := (ledger.books frame).released buffer
    have after := accounts.released frame buffer
    unfold requestCopyEffects requestCopy at after
    rw [found] at before after
    dsimp only at after
    rw [fresh] at after
    simp only [if_true, found, List.cons_append, List.nil_append, List.count_cons, beq_iff_eq, reduceCtorEq, if_false,
      Nat.add_zero] at after
    omega
  | false =>
    rw [denied, fresh] at permitted
    have ends : refused data = true ∧
        (if withDamage && !data.initial then self.queueFull else self.concludes host data) = true := by
      generalize (if withDamage && !data.initial then self.queueFull else self.concludes host data) = concluded at permitted ⊢
      revert permitted
      cases refused data <;> cases concluded <;> decide
    have unserved : AnvilState.unserved data = true := by simp [AnvilState.unserved, fresh]
    apply answeredTwice ledger found unserved ends.1 ?_ (accounts.answered frame)
    unfold requestCopyEffects
    rw [found]
    dsimp only
    rw [fresh, if_neg Bool.false_ne_true]
    have concluded := ends.2
    cases waits : withDamage && !data.initial with
    | true =>
      rw [waits, if_pos rfl] at concluded
      rw [if_pos rfl, if_pos concluded]
      simp [CopyObservation.answers]
    | false =>
      rw [waits, if_neg Bool.false_ne_true] at concluded
      have service := performCopyEffects_service self host data buffer
      rw [findScreencopy_some found, concluded] at service
      rw [if_neg Bool.false_ne_true, List.countP_append, service.answered, Bool.toNat_true]
      omega

theorem repaint_unaccounted (ledger : CopyLedger history self) (denied : self.grantsCopies (.repaint host) = false) :
    ¬CopyAccounts (self.copyEffects (.repaint host) ++ history) (self.repaint host).1 := by
  intro accounts
  unfold grantsCopies at denied
  simp only [Bool.or_eq_false_iff, List.all_eq_false] at denied
  obtain ⟨⟨redraws, active⟩, frame, queued, denied⟩ := denied
  rcases found : self.findScreencopy frame with - | data
  · rw [found] at denied
    exact denied rfl
  · rw [found, Option.all_some] at denied
    rcases waits : data.pending with - | buffer
    · rw [waits] at denied
      exact denied rfl
    · simp only [waits, Option.isNone_some, Bool.false_or, Bool.or_eq_true, Bool.not_eq_true', not_or,
        Bool.not_eq_false] at denied
      obtain ⟨refuses, concluded⟩ := denied
      have unserved : AnvilState.unserved data = true := by simp [AnvilState.unserved, waits]
      have served : ((self.setDesktop { self.desktop with redraw := false }).performCopyEffects host data buffer).Sublist
          ((self.setDesktop { self.desktop with redraw := false }).processPending host).2 :=
        processPending_effects queued found waits
      have service := performCopyEffects_service (self.setDesktop { self.desktop with redraw := false }) host data buffer
      have concludes : (self.setDesktop { self.desktop with redraw := false }).concludes host data = true := concluded
      rw [findScreencopy_some found, concludes] at service
      apply answeredTwice ledger found unserved refuses ?_ (accounts.answered frame)
      unfold copyEffects
      dsimp only
      rw [redraws, active, if_neg (by decide)]
      have counted := List.Sublist.countP_le (p := CopyObservation.answers frame) served
      rw [service.answered] at counted
      exact counted

theorem copyStep_unaccounted (ledger : CopyLedger history self) (input : CopyInput)
    (denied : ¬CopiesGranted history self input) :
    ¬CopyAccounts ((copyStep self input).2 ++ history) (copyStep self input).1 := by
  cases input with
  | bufferDestroyed => exact absurd (fun _ => trivial) denied
  | event event =>
    have ⟨going, refused⟩ := Classical.not_imp.mp denied
    rw [copyStep_event going]
    cases event with
    | repaint host => exact repaint_unaccounted ledger (by simpa using refused)
    | copy host frame buffer withDamage =>
      unfold grantsCopies at refused
      dsimp only at refused
      rcases found : self.findScreencopy frame with - | data
      · rw [found] at refused
        exact absurd rfl refused
      · rw [found, Option.all_some, Bool.not_eq_true] at refused
        exact requestCopy_unaccounted ledger found withDamage refused
    | _ => exact absurd rfl refused

/-! ## Every run -/

abbrev CopyExecution (allowed : Transition.Condition AnvilState CopyInput CopyObservation) :
    List CopyObservation → AnvilState → Prop := Transition.Run copyStep allowed Started

theorem Started.ledger (started : Started self) : CopyLedger [] self ∧ CopyQueue self := by
  obtain ⟨loaded, rfl⟩ := started
  have absent : ∀ frame, (initial loaded).findScreencopy frame = none := fun _ => rfl
  have none : ∀ frame, FrameBooks [] frame none :=
    fun _ => ⟨Nat.zero_le _, Nat.zero_le _, fun _ => rfl, fun _ there => absurd there (Option.not_mem_none _),
      fun _ => List.not_mem_nil, fun _ there => absurd there (Option.not_mem_none _)⟩
  constructor
  · refine ⟨fun frame => ?_, trivial, fun _ seen => absurd seen List.not_mem_nil,
      fun _ there => absurd there List.not_mem_nil⟩
    rw [absent]
    exact none frame
  · refine ⟨Nat.zero_le _, fun frame data found _ => ?_⟩
    rw [absent] at found
    cases found

/-- As long as no frame is copied a second time, and no frame that was refused is answered
again, the copies are accounted for. The first input against that upsets the accounts. -/
theorem screencopies_accounted {history : List CopyObservation} {self : AnvilState}
    (run : CopyExecution CopiesGranted history self) :
    CopyAccounts history self ∧ ∀ input, ¬CopiesGranted history self input →
      ¬CopyAccounts ((copyStep self input).2 ++ history) (copyStep self input).1 := by
  have kept : CopyLedger history self ∧ CopyQueue self := by
    apply @Transition.Run.invariant _ _ _ _ _ _ _ _ (fun history self => CopyLedger history self ∧ CopyQueue self) ?_ ?_ run
    · exact fun _ started => started.ledger
    · rintro history self input _ granted ⟨ledger, queue⟩
      exact ⟨copyStep_ledger ledger input granted, copyStep_queue ledger queue input⟩
  exact ⟨kept.1.accounts kept.2, copyStep_unaccounted kept.1⟩

def capturedScreen : Event := .connectOutput "DP-1" (some (4, 3)) (some ⟨0, 0, 4, 3⟩)

/-- The screen is gone before it is captured; its frame fails, and fails again when it is copied. -/
theorem refused_copy_unaccounted :
    ¬∀ history self, CopyExecution Transition.unrestricted history self → CopyAccounts history self := by
  intro always
  have begun : CopyExecution Transition.unrestricted [] (initial (.ok {})) := .start ⟨_, rfl⟩
  have run := begun.execute [.event capturedScreen, .event (.disconnectOutput "DP-1"), .event (.captureOutput 1 0 none),
    .event (.copy {} 0 5 false)] (Transition.permits_unrestricted _ _ _ _)
  rw [List.append_nil] at run
  have seen : (Transition.execute copyStep (initial (.ok {})) [.event capturedScreen, .event (.disconnectOutput "DP-1"),
      .event (.captureOutput 1 0 none), .event (.copy {} 0 5 false)]).2 =
      [.failed 0, .released 0 5, .handed 0 5, .failed 0] := by
    decide +kernel
  rw [seen] at run
  exact absurd ((always _ _ run).answered 0) (by decide)

/-- A copy at once, one that waits for damage and is served, and one that is dropped while it waits. -/
def threeCopies : List CopyInput :=
  [.event capturedScreen, .event (.captureOutput 1 0 none), .event (.copy {} 0 5 false),
    .event (.captureOutput 1 0 (some ⟨1, 1, 2, 2⟩)), .event (.copy {} 1 6 true), .event (.repaint {}),
    .event (.captureOutput 1 0 none), .event (.copy {} 2 7 true), .bufferDestroyed 7, .event (.screencopyDestroyed 2),
    .event .requestRedraw, .event (.repaint {})]

theorem screencopies_accounted_threeCopies :
    let final := Transition.execute copyStep (initial (.ok {})) threeCopies
    CopyAccounts final.2 final.1 ∧ ∀ input, ¬CopiesGranted final.2 final.1 input →
      ¬CopyAccounts ((copyStep final.1 input).2 ++ final.2) (copyStep final.1 input).1 := by
  intro final
  have begun : CopyExecution CopiesGranted [] (initial (.ok {})) := .start ⟨_, rfl⟩
  have run := begun.execute threeCopies (by decide +kernel)
  rw [List.append_nil] at run
  exact screencopies_accounted run

end AnvilState

end Luma.Compositor
