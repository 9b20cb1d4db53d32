import Luma.Compositor.Locality

/-! Capture on a locked or inactive session.

Both capture protocols look at the lock where they copy, so a success is an answer
of an unlocked, active session. What waits when the lock begins is not lost: it
goes on waiting, fails, or its client takes it back.
-/

set_option autoImplicit false

namespace Luma.Compositor

open Luma.Library Luma.Core

namespace AnvilState

variable {self before after : AnvilState} {host : Host}

/-- A success of either capture protocol. -/
def isReady : Observation → Bool
  | .captureReady .. | .screencopyReady .. => true
  | _ => false

/-- Pixels may be copied. -/
def Open (self : AnvilState) : Prop := self.lock.locked = false ∧ self.desktop.active = true

/-! ## Success needs an open session -/

theorem open_of_constraints {output : Nat} (capturable : self.captureConstraints output = true) : Open self := by
  simp only [captureConstraints, Bool.and_eq_true, Bool.not_eq_true'] at capturable
  exact capturable.1

theorem Answer.open {requests : List PendingCaptureFrame} {observation : Observation}
    (answer : Answer self requests observation) (ready : isReady observation = true) : Open self := by
  cases answer with
  | ready _ _ _ shows => exact open_of_constraints (captureConstraints_of_content shows)
  | failed => cases ready

theorem Served.open {requests : List PendingCaptureFrame} {result : AnvilState × List Observation}
    (served : Served requests self result) :
    ∀ observation ∈ result.2, isReady observation = true → Open self :=
  fun observation seen ready => (served.answers observation seen).open ready

theorem performCopy_open (frame : ScreencopyFrame) :
    ∀ observation ∈ self.performCopy host frame, isReady observation = true → Open self := by
  rcases performCopy_cases self host frame with failed | withdrawn | ⟨-, open_⟩
  · simp [failed, isReady]
  · simp [withdrawn, isReady]
  · exact fun _ _ _ => open_

/-- Copies made in a state with this lock and this activity. -/
theorem performCopy_open_of_same (lock : after.lock = self.lock) (desktop : after.desktop.active = self.desktop.active)
    (frame : ScreencopyFrame) :
    ∀ observation ∈ after.performCopy host frame, isReady observation = true → Open self := by
  intro observation seen ready
  have there := performCopy_open frame observation seen ready
  rw [Open, lock, desktop] at there
  exact there

theorem repaint_open : ∀ observation ∈ (self.repaint host).2, isReady observation = true → Open self := by
  rcases repaint_cases self host with idle | ⟨-, active, served, drained, painted⟩
  · rw [idle]
    exact nofun
  · rw [painted]
    intro observation seen ready
    rcases List.mem_append.mp seen with answered | copied
    · have there := drained.served.open observation answered ready
      rw [painted_rest] at there
      exact there
    · have holds : ∀ observation ∈
          ((self.setDesktop { self.desktop with redraw := false }).processScreencopies host).2,
          isReady observation = true → Open self :=
        processScreencopies_forall fun state lock desktop =>
          performCopy_open_of_same lock (congrArg Desktop.active desktop :)
      exact holds observation copied ready

theorem desktopCommand_unready (self : AnvilState) (host : Host) (command : String) :
    ∀ observation ∈ (self.desktopCommand host command).observations, isReady observation = false := by
  have effect := desktopCommand_effect self host command
  generalize self.desktopCommand host command = outcome at effect
  cases effect with
  | refused => exact nofun
  | attempted =>
    rw [(settleRecording_rest self _).2]
    intro observation seen
    obtain ⟨source, rfl⟩ := attempt_observations _ _ _ _ _ observation seen
    rfl
  | stopped =>
    rw [(settleRecording_rest self _).2]
    exact nofun
  | paused =>
    rw [(settleRecording_rest self _).2]
    exact nofun
  | beside => exact nofun
  | maintained =>
    intro observation seen
    obtain ⟨_, _, rfl⟩ := List.mem_map.mp seen
    rfl

theorem runIdle_unready : ∀ observation ∈ self.runIdle.2, isReady observation = false := by
  rcases runIdle_cases self with ⟨-, nothing⟩ | ⟨frame, idles, -, ⟨-, taken⟩ | ⟨generation, -, presented⟩⟩
  · rw [nothing]
    exact nofun
  · rw [taken]
    exact nofun
  · rw [presented]
    rcases lockPresented_cases (self.setPresentation { self.presentation with idles }) frame generation with
      nothing | ⟨-, -, counts | ⟨-, confirms⟩⟩
    · rw [nothing]
      exact nofun
    · rw [counts]
      exact nofun
    · rw [confirms]
      simp [isReady]

/-- Whatever the event, a success was copied from an open session. -/
theorem handle_open (event : Event) :
    ∀ observation ∈ (self.handle event).2, isReady observation = true → Open self := by
  have refute : ∀ {observations : List Observation}, (∀ observation ∈ observations, isReady observation = false) →
      ∀ observation ∈ observations, isReady observation = true → Open self := by
    intro observations unready observation seen ready
    rw [unready observation seen] at ready
    cases ready
  cases event with
  | repaint host => exact repaint_open
  | boostTick host => exact (captureBoostTick_drained self host).served.open
  | windowCommit host handle =>
    exact (processCommitDrivenCapture_drained self.advanceGeneration host handle).served.open
  | frame host session dmabuf valid =>
    show ∀ observation ∈ (self.frame host session dmabuf valid).2, _
    rcases frame_cases self host session dmabuf valid with idle | ⟨found, member, -, failed | queued | answered⟩
    · rw [idle]
      exact List.forall_mem_nil _
    · rw [failed]
      exact refute (by simp [isReady])
    · rw [queued]
      exact List.forall_mem_nil _
    · rw [answered]
      exact (completeCaptureFrame_served { self with nextCapture := self.nextCapture + 1 } host
        ⟨found.id, { id := self.nextCapture, dmabuf, valid }⟩ member rfl).open
  | copy host frame buffer withDamage =>
    exact requestCopy_forall buffer withDamage Bool.noConfusion Bool.noConfusion fun state lock desktop =>
      performCopy_open_of_same lock (congrArg Desktop.active desktop)
  | command host command => exact refute (desktopCommand_unready self host command)
  | maintain host =>
    refine refute fun observation seen => ?_
    obtain ⟨_, _, rfl⟩ := List.mem_map.mp seen
    rfl
  | sessionDestroyed session =>
    refine refute fun observation seen => ?_
    obtain ⟨_, _, rfl⟩ := List.mem_map.mp seen
    rfl
  | frameAborted frame =>
    refine refute fun observation seen => ?_
    obtain ⟨_, _, rfl⟩ := List.mem_map.mp seen
    rfl
  | idle => exact refute runIdle_unready
  | lock locker =>
    refine refute ?_
    show ∀ observation ∈ (self.requestLock locker).2, _
    unfold requestLock
    split <;> simp [isReady]
  | unlock => exact refute (by simp [handle, unlock, isReady])
  | queueFrame output =>
    refine refute ?_
    show ∀ observation ∈ (self.queueFrame output).2, _
    unfold queueFrame
    split <;> simp [isReady]
  | frameFinish frame =>
    refine refute ?_
    show ∀ observation ∈ (self.frameFinish frame).2, _
    unfold frameFinish
    split
    · exact List.forall_mem_nil _
    · split <;> simp [isReady]
  | newSession client output =>
    refine refute ?_
    show ∀ observation ∈ (self.newSession client output).2, _
    unfold newSession
    split
    · exact List.forall_mem_nil _
    · dsimp only
      split <;> exact List.forall_mem_nil _
  | captureOutput manager output region =>
    refine refute ?_
    show ∀ observation ∈ (self.createFrame manager output region).2, _
    unfold createFrame
    dsimp only
    split <;> simp [isReady]
  | screencopyDestroyed frame => exact refute (by simp [handle, destroyScreencopy, isReady])
  | _ => exact List.forall_mem_nil _

/-! ## Requests that wait -/

/-- A request has been answered or taken back. -/
def Taken (observations : List Observation) (frame : Nat) : Prop :=
  .captureFailed frame ∈ observations ∨ .captureWithdrawn frame ∈ observations ∨
    ∃ client content, .captureReady frame client content ∈ observations

/-- A request still waits or has been taken. -/
def Accounted (result : AnvilState × List Observation) (request : PendingCaptureFrame) : Prop :=
  request ∈ result.1.capture.pending ∨ Taken result.2 request.frame.id

theorem Settled.accounted {result : AnvilState × List Observation} {request : PendingCaptureFrame}
    (settled : Settled result request) : Accounted result request := by
  rcases settled with waits | failed | ready
  · exact .inl waits
  · exact .inr (.inl failed)
  · exact .inr (.inr (.inr ready))

/-- A frame whose copy waits for a repaint. -/
structure Waits (state : AnvilState) (frame : Nat) : Prop where
  queued : frame ∈ state.screencopy.pending
  armed : ∃ data, state.findScreencopy frame = some data ∧ data.pending.isSome = true ∧ data.used = true

def CopyTaken (observations : List Observation) (frame : Nat) : Prop :=
  .screencopyFailed frame ∈ observations ∨ .screencopyWithdrawn frame ∈ observations ∨
    .screencopyReady frame ∈ observations

def CopyAccounted (result : AnvilState × List Observation) (frame : Nat) : Prop :=
  Waits result.1 frame ∨ CopyTaken result.2 frame

/-- Events that touch the requests of one of the two protocols. -/
def queueEvent : Event → Bool
  | .command .. | .maintain .. | .windowCommit .. | .lock .. | .newSession .. | .sessionDestroyed .. | .frame ..
  | .frameAborted .. | .repaint .. | .boostTick .. | .captureOutput .. | .copy .. | .screencopyDestroyed .. => true
  | _ => false

theorem runIdle_queues : self.runIdle.1.capture = self.capture ∧ self.runIdle.1.screencopy = self.screencopy := by
  rcases runIdle_cases self with ⟨-, nothing⟩ | ⟨frame, idles, -, ⟨-, taken⟩ | ⟨generation, -, presented⟩⟩
  · rw [nothing]
    exact ⟨rfl, rfl⟩
  · rw [taken]
    exact ⟨rfl, rfl⟩
  · rw [presented]
    set taken := self.setPresentation { self.presentation with idles }
    have counted := (countPresented_rest taken frame generation).1
    rcases lockPresented_cases taken frame generation with nothing | ⟨-, -, counts | ⟨-, confirms⟩⟩
    · rw [nothing]
      exact ⟨rfl, rfl⟩
    · rw [counts, counted]
      exact ⟨rfl, rfl⟩
    · rw [confirms, counted]
      exact ⟨rfl, rfl⟩

theorem handle_queues {event : Event} (other : queueEvent event = false) :
    (self.handle event).1.capture = self.capture ∧ (self.handle event).1.screencopy = self.screencopy := by
  cases event with
  | command | maintain | windowCommit | lock | newSession | sessionDestroyed | frame | frameAborted | repaint
  | boostTick | captureOutput | copy | screencopyDestroyed => cases other
  | seat | requestRedraw | windowChanged | windowUnmapped | windowDied | refreshSpace | disconnectOutput
  | changeOutput | pauseSession | activateSession | unlock | dropFrame => exact ⟨rfl, rfl⟩
  | windowCreated element =>
    show (self.windowCreated element).capture = _ ∧ (self.windowCreated element).screencopy = _
    unfold windowCreated
    split <;> exact ⟨rfl, rfl⟩
  | windowMapped handle =>
    show (self.windowMapped handle).capture = _ ∧ (self.windowMapped handle).screencopy = _
    unfold windowMapped
    split <;> exact ⟨rfl, rfl⟩
  | connectOutput name mode geometry =>
    show (self.connectOutput name mode geometry).capture = _ ∧ (self.connectOutput name mode geometry).screencopy = _
    unfold connectOutput
    split <;> exact ⟨rfl, rfl⟩
  | lockSurface output =>
    show (self.newLockSurface output).capture = _ ∧ (self.newLockSurface output).screencopy = _
    unfold newLockSurface
    split <;> exact ⟨rfl, rfl⟩
  | queueFrame output =>
    show (self.queueFrame output).1.capture = _ ∧ (self.queueFrame output).1.screencopy = _
    unfold queueFrame
    split <;> exact ⟨rfl, rfl⟩
  | frameFinish frame =>
    show (self.frameFinish frame).1.capture = _ ∧ (self.frameFinish frame).1.screencopy = _
    unfold frameFinish
    split
    · exact ⟨rfl, rfl⟩
    · split <;> exact ⟨rfl, rfl⟩
  | idle => exact runIdle_queues

theorem maintainDesktop_accounted {request : PendingCaptureFrame} (waits : request ∈ self.capture.pending) :
    Accounted (self.maintainDesktop host) request := by
  have capture : (self.prepare host).capture = self.capture := by rw [(prepare_prepared self host).rest]
  rw [maintainDesktop_eq]
  exact (refreshCaptureSessions_drained (self.prepare host) request (capture ▸ waits)).accounted

theorem desktopCommand_accounted {command : String} {request : PendingCaptureFrame}
    (waits : request ∈ self.capture.pending) :
    Accounted ((self.desktopCommand host command).state, (self.desktopCommand host command).observations) request := by
  have effect := desktopCommand_effect self host command
  generalize self.desktopCommand host command = outcome at effect
  cases effect with
  | refused => exact .inl waits
  | attempted | stopped | paused =>
    left
    rw [(settleRecording_rest self _).1]
    exact waits
  | beside _ kept =>
    left
    rw [kept.rest]
    exact waits
  | @maintained reply desktop after _ _ _ kept =>
    have accounted : Accounted ((self.setDesktop desktop).maintainDesktop host) request :=
      maintainDesktop_accounted waits
    rcases accounted with still | taken
    · left
      rw [kept.rest]
      exact still
    · exact .inr taken

theorem Drained.accounted {result : AnvilState × List Observation} (drained : Drained self result)
    {request : PendingCaptureFrame} (waits : request ∈ self.capture.pending) : Accounted result request :=
  (drained.settled request waits).accounted

theorem repaint_accounted {request : PendingCaptureFrame} (waits : request ∈ self.capture.pending) :
    Accounted (self.repaint host) request := by
  rcases repaint_cases self host with idle | ⟨-, -, served, drained, painted⟩
  · rw [idle]
    exact .inl waits
  · have there : request ∈ (self.painted host).capture.pending := by
      rw [painted_rest]
      exact waits
    rw [painted]
    rcases drained.accounted there with still | failed | withdrawn | ⟨client, content, ready⟩
    · exact .inl still
    · exact .inr (.inl (List.mem_append_left _ failed))
    · exact .inr (.inr (.inl (List.mem_append_left _ withdrawn)))
    · exact .inr (.inr (.inr ⟨client, content, List.mem_append_left _ ready⟩))

theorem frame_accounted {session : Nat} {dmabuf valid : Bool} {request : PendingCaptureFrame}
    (waits : request ∈ self.capture.pending) : Accounted (self.frame host session dmabuf valid) request := by
  left
  rcases frame_cases self host session dmabuf valid with idle | ⟨found, -, -, failed | queued | answered⟩
  · rw [idle]
    exact waits
  · rw [failed]
    exact waits
  · rw [queued]
    exact List.mem_append_left _ waits
  · rw [answered, completeCaptureFrame_pending]
    exact waits

/-- No event loses a request. -/
theorem handle_accounted (event : Event) {request : PendingCaptureFrame} (waits : request ∈ self.capture.pending) :
    Accounted (self.handle event) request := by
  cases event with
  | command host command => exact desktopCommand_accounted waits
  | maintain host => exact maintainDesktop_accounted waits
  | windowCommit host handle => exact (processCommitDrivenCapture_drained self.advanceGeneration host handle).accounted waits
  | boostTick host => exact (captureBoostTick_drained self host).accounted waits
  | repaint host => exact repaint_accounted waits
  | frame host session dmabuf valid => exact frame_accounted waits
  | lock locker =>
    left
    show request ∈ (self.requestLock locker).1.capture.pending
    unfold requestLock
    split <;> exact waits
  | newSession client output =>
    left
    show request ∈ (self.newSession client output).1.capture.pending
    unfold newSession
    split
    · exact waits
    · dsimp only
      split <;> exact waits
  | sessionDestroyed session =>
    by_cases ends : request.session = session
    · right
      right
      left
      exact List.mem_map.mpr ⟨request, List.mem_filter.mpr ⟨waits, by simpa using ends⟩, rfl⟩
    · left
      exact List.mem_filter.mpr ⟨waits, by simpa using ends⟩
  | frameAborted frame =>
    by_cases ends : request.frame.id = frame
    · right
      right
      left
      exact List.mem_map.mpr ⟨request, List.mem_filter.mpr ⟨waits, by simpa using ends⟩, rfl⟩
    · left
      exact List.mem_filter.mpr ⟨waits, by simpa using ends⟩
  | captureOutput manager output region =>
    left
    show request ∈ (self.createFrame manager output region).1.capture.pending
    unfold createFrame
    dsimp only
    split <;> exact waits
  | copy host frame buffer withDamage =>
    left
    show request ∈ (self.requestCopy host frame buffer withDamage).1.capture.pending
    rw [requestCopy_rest]
    exact waits
  | screencopyDestroyed frame => exact .inl waits
  | _ =>
    left
    rw [(handle_queues rfl).1]
    exact waits

/-! ## Copies that wait -/

theorem findScreencopy_some {frame : Nat} {data : ScreencopyFrame} (found : self.findScreencopy frame = some data) :
    data.id = frame := by
  have named := List.find?_some found
  simpa using named

theorem findScreencopy_change (self : AnvilState) (frame other : Nat) (change : ScreencopyFrame → ScreencopyFrame)
    (kept : ∀ data, (change data).id = data.id) :
    (self.updateScreencopy frame change).findScreencopy other =
      (self.findScreencopy other).map fun data => if other = frame then change data else data := by
  show (self.screencopy.frames.map _).find? _ = _
  rw [List.find?_map]
  have same : ((fun data : ScreencopyFrame => data.id == other) ∘
      fun data => if data.id == frame then change data else data) = fun data => data.id == other := by
    funext data
    simp only [Function.comp]
    split
    · rw [kept]
    · rfl
  rw [same]
  show Option.map _ (self.findScreencopy other) = _
  rcases found : self.findScreencopy other with - | data
  · rfl
  · have named : data.id = other := findScreencopy_some found
    simp [named]

/-- A change of one frame is not seen at another. -/
theorem findScreencopy_update (self : AnvilState) {frame other : Nat} (change : ScreencopyFrame → ScreencopyFrame)
    (kept : ∀ data, (change data).id = data.id) (differs : other ≠ frame) :
    (self.updateScreencopy frame change).findScreencopy other = self.findScreencopy other := by
  rw [findScreencopy_change self frame other change kept]
  simp [differs]

theorem waits_of_findScreencopy {frame : Nat} (waits : Waits self frame) (queued : frame ∈ after.screencopy.pending)
    (same : after.findScreencopy frame = self.findScreencopy frame) : Waits after frame :=
  ⟨queued, same ▸ waits.armed⟩

theorem createFrame_waits {manager output frame : Nat} {region : Option Rect} (waits : Waits self frame) :
    Waits (self.createFrame manager output region).1 frame := by
  have kept : ∀ (data : ScreencopyFrame) (captured : List Nat) (next : Nat),
      Waits (self.setScreencopy { self.screencopy with
        captured, frames := self.screencopy.frames ++ [data], nextFrame := next }) frame := by
    intro data captured next
    obtain ⟨found, there, armed⟩ := waits.armed
    refine ⟨waits.queued, found, ?_, armed⟩
    show (self.screencopy.frames ++ [data]).find? _ = _
    rw [List.find?_append]
    unfold findScreencopy at there
    rw [there]
    rfl
  unfold createFrame
  dsimp only
  split <;> exact kept _ _ _

theorem destroyScreencopy_accounted {frame other : Nat} (waits : Waits self other) :
    CopyAccounted (self.destroyScreencopy frame) other := by
  by_cases ends : other = frame
  · subst ends
    exact .inr (.inr (.inl (List.mem_singleton_self _)))
  · left
    refine waits_of_findScreencopy waits waits.queued ?_
    show (self.screencopy.frames.filter _).find? _ = _
    rw [List.find?_filter]
    unfold findScreencopy
    congr 1
    funext data
    by_cases named : data.id = other
    · simp [named, ends]
    · simp [named]

theorem performCopy_taken (frame : ScreencopyFrame) : CopyTaken (self.performCopy host frame) frame.id := by
  rcases performCopy_cases self host frame with failed | withdrawn | ⟨ready, -⟩
  · exact .inl (by simp [failed])
  · exact .inr (.inl (by simp [withdrawn]))
  · exact .inr (.inr (by simp [ready]))

theorem CopyTaken.mono {observations more : List Observation} {frame : Nat} (taken : CopyTaken observations frame)
    (subset : ∀ observation ∈ observations, observation ∈ more) : CopyTaken more frame :=
  taken.imp (subset _) (Or.imp (subset _) (subset _))

/-- A request for another frame keeps the queue of the living. -/
theorem requestCopy_accounted {frame buffer other : Nat} {withDamage : Bool} (waits : Waits self other) :
    CopyAccounted (self.requestCopy host frame buffer withDamage) other := by
  obtain ⟨data, there, armed, used⟩ := waits.armed
  unfold requestCopy
  rcases asked : self.findScreencopy frame with - | found
  · exact .inl waits
  · by_cases same : other = frame
    · -- A frame that waits is used, and asking for it again ends its client.
      subst same
      cases there.symm.trans asked
      dsimp only
      rw [if_pos used]
      exact .inr (.inr (.inl (List.mem_singleton_self _)))
    · dsimp only
      split
      · exact .inl waits
      · left
        set marked := self.updateScreencopy frame fun data => { data with used := true }
        have unchanged : marked.findScreencopy other = self.findScreencopy other :=
          findScreencopy_update self (fun data => { data with used := true }) (fun _ => rfl) same
        set remaining := marked.screencopy.pending.filter marked.isScreencopyAlive
        have living : other ∈ remaining := by
          refine List.mem_filter.mpr ⟨waits.queued, ?_⟩
          unfold isScreencopyAlive
          rw [unchanged, there]
          rfl
        set cleared := marked.setScreencopy { marked.screencopy with pending := remaining }
        have armed_there : (cleared.updateScreencopy frame fun data => { data with pending := some buffer }).findScreencopy
            other = self.findScreencopy other :=
          (findScreencopy_update cleared (fun data => { data with pending := some buffer }) (fun _ => rfl) same).trans
            unchanged
        split
        · split
          · exact waits_of_findScreencopy waits living unchanged
          · exact waits_of_findScreencopy waits (List.mem_append_left _ living) armed_there
        · exact waits_of_findScreencopy waits waits.queued unchanged

/-- One turn of the repaint's loop answers its frame and leaves the others. -/
theorem processScreencopy_taken (frame : Nat) {current : AnvilState × List Observation} {other : Nat} {data : ScreencopyFrame}
    (there : current.1.findScreencopy other = some data) (armed : data.pending.isSome = true) :
    CopyTaken (processScreencopy host current frame).2 other ∨
      frame ≠ other ∧ (processScreencopy host current frame).1.findScreencopy other = some data := by
  unfold processScreencopy
  by_cases same : frame = other
  · subst same
    left
    rw [there]
    dsimp only
    rw [if_neg (by simp [Option.isNone_iff_eq_none, Option.isSome_iff_ne_none.mp armed])]
    have named : data.id = frame := findScreencopy_some there
    rw [← named]
    exact (performCopy_taken data).mono fun _ seen => List.mem_append_left _ seen
  · right
    refine ⟨same, ?_⟩
    split
    · exact there
    · split
      · exact there
      · exact (findScreencopy_update current.1 (fun data => { data with pending := none }) (fun _ => rfl)
          (Ne.symm same)).trans there

theorem processScreencopy_mono {current : AnvilState × List Observation} {frame : Nat} :
    ∀ observation ∈ current.2, observation ∈ (processScreencopy host current frame).2 := by
  unfold processScreencopy
  split
  · exact fun _ seen => seen
  · split
    · exact fun _ seen => seen
    · exact fun _ seen => List.mem_append_right _ seen

theorem processScreencopies_taken {frame : Nat} (waits : Waits self frame) :
    CopyTaken (self.processScreencopies host).2 frame := by
  have general : ∀ (frames : List Nat) (current : AnvilState × List Observation),
      CopyTaken current.2 frame ∨ frame ∈ frames ∧
        (∃ data, current.1.findScreencopy frame = some data ∧ data.pending.isSome = true) →
      CopyTaken (frames.foldl (processScreencopy host) current).2 frame := by
    intro frames
    induction frames with
    | nil =>
      rintro current (taken | ⟨absent, -⟩)
      · exact taken
      · cases absent
    | cons first frames ih =>
      rintro current (taken | ⟨queued, data, there, armed⟩)
      · exact ih _ (.inl (taken.mono processScreencopy_mono))
      · apply ih
        rcases processScreencopy_taken first there armed with taken | ⟨differs, still⟩
        · exact .inl taken
        · refine .inr ⟨?_, data, still, armed⟩
          rcases List.mem_cons.mp queued with same | later
          · exact absurd same.symm differs
          · exact later
  obtain ⟨data, there, armed, -⟩ := waits.armed
  exact general _ _ (.inr ⟨waits.queued, data, there, armed⟩)

theorem repaint_copyAccounted {frame : Nat} (waits : Waits self frame) : CopyAccounted (self.repaint host) frame := by
  rcases repaint_cases self host with idle | ⟨-, -, served, -, painted⟩
  · rw [idle]
    exact .inl waits
  · rw [painted]
    have started : Waits (self.setDesktop { self.desktop with redraw := false }) frame := ⟨waits.queued, waits.armed⟩
    exact .inr ((processScreencopies_taken started).mono fun _ seen => List.mem_append_right _ seen)

theorem waits_of_screencopy {frame : Nat} (waits : Waits self frame) (same : after.screencopy = self.screencopy) :
    Waits after frame := by
  refine waits_of_findScreencopy waits (same ▸ waits.queued) ?_
  unfold findScreencopy
  rw [same]

theorem desktopCommand_screencopy (self : AnvilState) (host : Host) (command : String) :
    (self.desktopCommand host command).state.screencopy = self.screencopy := by
  have effect := desktopCommand_effect self host command
  generalize self.desktopCommand host command = outcome at effect
  cases effect with
  | refused => rfl
  | attempted | stopped | paused => rw [(settleRecording_rest self _).1]
  | beside _ kept => rw [kept.rest]
  | @maintained reply desktop after _ _ _ kept =>
    have prepared := prepare_prepared (self.setDesktop desktop) host
    have screencopy : ((self.setDesktop desktop).prepare host).screencopy = self.screencopy := by
      rw [prepared.rest]
      rfl
    rw [kept.rest]
    dsimp only
    exact screencopy

/-- Events that touch the frames of screencopy. -/
def screencopyEvent : Event → Bool
  | .repaint .. | .captureOutput .. | .copy .. | .screencopyDestroyed .. => true
  | _ => false

theorem handle_screencopy {event : Event} (other : screencopyEvent event = false) :
    (self.handle event).1.screencopy = self.screencopy := by
  cases event with
  | repaint | captureOutput | copy | screencopyDestroyed => cases other
  | command host command => exact desktopCommand_screencopy self host command
  | maintain host =>
    show (self.prepare host).screencopy = _
    rw [(prepare_prepared self host).rest]
  | windowCommit host handle =>
    show (self.advanceGeneration.processCommitDrivenCapture host handle).1.screencopy = _
    rw [(processCommitDrivenCapture_drained self.advanceGeneration host handle).served.rest]
    rfl
  | boostTick host =>
    show (self.captureBoostTick host).1.screencopy = _
    rw [(captureBoostTick_drained self host).served.rest]
  | frame host session dmabuf valid =>
    show (self.frame host session dmabuf valid).1.screencopy = _
    rcases frame_cases self host session dmabuf valid with idle | ⟨found, member, -, failed | queued | answered⟩
    · rw [idle]
    · rw [failed]
    · rw [queued]
      rfl
    · rw [answered, (completeCaptureFrame_served { self with nextCapture := self.nextCapture + 1 } host
        ⟨found.id, { id := self.nextCapture, dmabuf, valid }⟩ member rfl).rest]
  | lock locker =>
    show (self.requestLock locker).1.screencopy = _
    unfold requestLock
    split <;> rfl
  | newSession client output =>
    show (self.newSession client output).1.screencopy = _
    unfold newSession
    split
    · rfl
    · dsimp only
      split <;> rfl
  | sessionDestroyed | frameAborted => rfl
  | _ => exact (handle_queues rfl).2

/-- No event loses a copy that waits. -/
theorem handle_copyAccounted (event : Event) {frame : Nat} (waits : Waits self frame) :
    CopyAccounted (self.handle event) frame := by
  cases event with
  | repaint host => exact repaint_copyAccounted waits
  | captureOutput manager output region => exact .inl (createFrame_waits waits)
  | copy host frame buffer withDamage => exact requestCopy_accounted waits
  | screencopyDestroyed frame => exact destroyScreencopy_accounted waits
  | _ => exact .inl (waits_of_screencopy waits (handle_screencopy rfl))

/-! ## The lock lasts -/

theorem handle_locked {event : Event} (locked : self.lock.locked = true) (stays : event ≠ .unlock) :
    (self.handle event).1.lock.locked = true := by
  cases event with
  | unlock => exact absurd rfl stays
  | lock locker =>
    show (self.requestLock locker).1.lock.locked = true
    unfold requestLock
    rw [locked]
    exact locked
  | idle =>
    show self.runIdle.1.lock.locked = true
    rcases runIdle_cases self with ⟨-, nothing⟩ | ⟨frame, idles, -, ⟨-, taken⟩ | ⟨generation, -, presented⟩⟩
    · rw [nothing]
      exact locked
    · rw [taken]
      exact locked
    · rw [presented]
      set taken := self.setPresentation { self.presentation with idles }
      have counted := (countPresented_rest taken frame generation).1
      rcases lockPresented_cases taken frame generation with nothing | ⟨-, -, counts | ⟨-, confirms⟩⟩
      · rw [nothing]
        exact locked
      · rw [counts, counted]
        exact locked
      · rw [confirms]
        exact locked
  | connectOutput name mode geometry =>
    show (self.connectOutput name mode geometry).lock.locked = true
    unfold connectOutput
    split <;> exact locked
  | lockSurface output =>
    show (self.newLockSurface output).lock.locked = true
    unfold newLockSurface
    split <;> exact locked
  | queueFrame output =>
    show (self.queueFrame output).1.lock.locked = true
    unfold queueFrame
    split <;> exact locked
  | frameFinish frame =>
    show (self.frameFinish frame).1.lock.locked = true
    unfold frameFinish
    split
    · exact locked
    · split <;> exact locked
  | dropFrame | disconnectOutput | changeOutput => exact locked
  | _ =>
    rw [(handle_apart rfl).lock]
    exact locked

/-- What a lock has done to a request that waited when it began. -/
structure Withheld (history : List Observation) (before final : AnvilState) : Prop where
  silent : ∀ observation ∈ history, isReady observation = false
  requests : ∀ request ∈ before.capture.pending, request ∈ final.capture.pending ∨
    .captureFailed request.frame.id ∈ history ∨ .captureWithdrawn request.frame.id ∈ history
  copies : ∀ frame, Waits before frame → Waits final frame ∨
    .screencopyFailed frame ∈ history ∨ .screencopyWithdrawn frame ∈ history

theorem Withheld.handle {history : List Observation} {event : Event} (withheld : Withheld history before self)
    (locked : self.lock.locked = true) : Withheld ((self.handle event).2 ++ history) before (self.handle event).1 where
  silent := by
    intro observation seen
    rcases List.mem_append.mp seen with new | old
    · by_contra ready
      rw [Bool.not_eq_false] at ready
      have unlocked := (handle_open event observation new ready).1
      rw [locked] at unlocked
      cases unlocked
    · exact withheld.silent observation old
  requests := by
    intro request there
    rcases withheld.requests request there with waits | failed | withdrawn
    · rcases handle_accounted event waits with still | failed | withdrawn | ⟨client, content, ready⟩
      · exact .inl still
      · exact .inr (.inl (List.mem_append_left _ failed))
      · exact .inr (.inr (List.mem_append_left _ withdrawn))
      · have unlocked := (handle_open event _ ready rfl).1
        rw [locked] at unlocked
        cases unlocked
    · exact .inr (.inl (List.mem_append_right _ failed))
    · exact .inr (.inr (List.mem_append_right _ withdrawn))
  copies := by
    intro frame there
    rcases withheld.copies frame there with waits | failed | withdrawn
    · rcases handle_copyAccounted event waits with still | failed | withdrawn | ready
      · exact .inl still
      · exact .inr (.inl (List.mem_append_left _ failed))
      · exact .inr (.inr (List.mem_append_left _ withdrawn))
      · have unlocked := (handle_open event _ ready rfl).1
        rw [locked] at unlocked
        cases unlocked
    · exact .inr (.inl (List.mem_append_right _ failed))
    · exact .inr (.inr (List.mem_append_right _ withdrawn))

theorem requestLock_accepted (locker : Nat) (open_ : Open self) :
    (self.requestLock locker).2 = [.lockAccepted] ∧ (self.requestLock locker).1.lock.locked = true ∧
      (self.requestLock locker).1.capture.pending = self.capture.pending ∧
      (self.requestLock locker).1.screencopy = self.screencopy := by
  unfold requestLock
  rw [open_.1, open_.2]
  exact ⟨rfl, rfl, rfl, rfl⟩

/-- Every success of either protocol, at any step of any run, is copied while the session
is unlocked and active. From an accepted lock on, until an unlock, nothing succeeds
and what waited goes on waiting, fails or is taken back by its client. -/
theorem no_capture_while_locked :
    (∀ {self}, Reachable self → ∀ event, ∀ observation ∈ (step self event).2, isReady observation = true →
      self.lock.locked = false ∧ self.desktop.active = true) ∧
    ∀ {self}, Reachable self → ∀ locker, .lockAccepted ∈ (step self (.lock locker)).2 → ∀ {history final},
      Transition.Run step (fun _ _ event => event ≠ .unlock) (· = (step self (.lock locker)).1) history final →
      Withheld history self final := by
  refine ⟨?_, ?_⟩
  · intro self _ event observation seen ready
    rcases step_cases self event with nothing | handled
    · rw [nothing] at seen
      cases seen
    · rw [handled] at seen
      exact handle_open event observation seen ready
  · intro self _ locker accepted history final run
    have handled : step self (.lock locker) = self.requestLock locker := by
      rcases step_cases self (.lock locker) with nothing | handled
      · rw [nothing] at accepted
        cases accepted
      · exact handled
    have open_ : Open self := by
      rw [handled] at accepted
      unfold requestLock at accepted
      split at accepted
      · cases accepted
      · rename_i opens
        simpa [Open] using opens
    obtain ⟨-, locks, pending, screencopy⟩ := requestLock_accepted locker open_
    have both : final.lock.locked = true ∧ Withheld history self final := by
      induction run with
      | start begun =>
        rw [begun, handled]
        refine ⟨locks, nofun, fun request there => .inl (pending ▸ there), fun frame there => .inl ?_⟩
        exact waits_of_screencopy there screencopy
      | @step history state event _ stays ih =>
        obtain ⟨locked, withheld⟩ := ih
        rcases step_cases state event with nothing | handled
        · rw [nothing]
          exact ⟨locked, withheld⟩
        · rw [handled]
          exact ⟨handle_locked locked stays, withheld.handle locked⟩
    exact both.2

/-- A client's second request waits, the session is locked and a repaint comes. -/
def waitingCapture : List Event := [
  .connectOutput "DP-1" (some (1920, 1080)) (some ⟨0, 0, 1920, 1080⟩),
  .newSession (.other 3) 0,
  .frame {} 0 true true,
  .frame {} 0 true true]

def waitingState : AnvilState :=
  (Transition.execute step (initial (.error "no configuration")) waitingCapture).1

theorem no_capture_while_locked_waiting :
    waitingState.capture.pending.map (·.frame.id) = [1] ∧
      Withheld ((step (step waitingState (.lock 1)).1 (.repaint {})).2 ++ []) waitingState
        (step (step waitingState (.lock 1)).1 (.repaint {})).1 := by
  have reachable : Reachable waitingState :=
    ⟨_, Transition.Run.execute waitingCapture (.start ⟨_, rfl⟩) (Transition.permits_unrestricted _ _ _ _)⟩
  have accepted : .lockAccepted ∈ (step waitingState (.lock 1)).2 := by decide
  have permitted : Event.repaint {} ≠ .unlock := nofun
  exact ⟨by decide, no_capture_while_locked.2 reachable 1 accepted
    (Transition.Run.step (Event.repaint {}) (.start rfl) permitted)⟩

end AnvilState

end Luma.Compositor
