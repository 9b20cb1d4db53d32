import Luma.Shell.VideoWallpaper

/-! Which decoders and frames there are.

The decoders have different generations, and none is ahead of the current one. Between two callbacks
the decoder of the current generation decodes the configured path. Frames carry no generation, so
what is displayed is of the configured path only if nothing older was on its way when the
configuration changed.
-/

set_option autoImplicit false

namespace Luma.Shell

open Luma.Library

namespace WallpaperApp

variable {self : WallpaperApp}

/-- The wallpaper that the decoders have is the configured one. -/
def Settled (app : WallpaperApp) : Prop := app.applying ≠ some true

/-- Everything on its way to the screen is of the configured path. -/
structure Drained (app : WallpaperApp) : Prop where
  queued : ∀ frame ∈ app.channel.queue, frame.path = app.wallpaper.path
  sending : ∀ decoder ∈ app.decoders, decoder.stage = .sending → decoder.path = app.wallpaper.path

structure Consistent (app : WallpaperApp) : Prop where
  bounded : ∀ decoder ∈ app.decoders, decoder.expectedGeneration ≤ app.videoGeneration
  distinct : (app.decoders.map Decoder.expectedGeneration).Nodup
  going : ∀ decoder ∈ app.decoders, decoder.expectedGeneration = app.videoGeneration → decoder.stage ≠ .superseded
  current : app.Settled → ∀ decoder ∈ app.decoders, decoder.expectedGeneration = app.videoGeneration →
    app.wallpaper.kind = "video" ∧ app.videoSuspended = false ∧ decoder.path = app.wallpaper.path
  playing : app.Settled → app.wallpaper.kind = "video" → app.videoSuspended = false → app.wallpaper.path ≠ "" →
    app.videoGeneration ∈ app.decoders.map Decoder.expectedGeneration
  drained : app.Settled → app.wallpaper.kind = "video" → app.Drained
  shown : app.Settled → app.wallpaper.kind = "video" → ∀ frame, app.videoFrame = some frame →
    frame.path = app.wallpaper.path

/-! ## New generations -/

/-- In a new generation nothing is decoded yet. -/
theorem idle_consistent (older : ∀ decoder ∈ self.decoders, decoder.expectedGeneration < self.videoGeneration)
    (distinct : (self.decoders.map Decoder.expectedGeneration).Nodup)
    (idle : self.Settled → ¬(self.wallpaper.kind = "video" ∧ self.videoSuspended = false))
    (drained : self.Settled → self.wallpaper.kind = "video" → self.Drained)
    (shown : self.Settled → self.wallpaper.kind = "video" → ∀ frame, self.videoFrame = some frame →
      frame.path = self.wallpaper.path) : Consistent self where
  bounded := by
    intro decoder there
    exact Nat.le_of_lt (older decoder there)
  distinct := distinct
  going := by
    intro decoder there same
    exact absurd same (Nat.ne_of_lt (older decoder there))
  current := by
    intro _ decoder there same
    exact absurd same (Nat.ne_of_lt (older decoder there))
  playing := by
    intro settled video playing _
    exact absurd ⟨video, playing⟩ (idle settled)
  drained := drained
  shown := shown

theorem spawn_consistent (older : ∀ decoder ∈ self.decoders, decoder.expectedGeneration < self.videoGeneration)
    (distinct : (self.decoders.map Decoder.expectedGeneration).Nodup) (video : self.wallpaper.kind = "video")
    (playing : self.videoSuspended = false) (drained : self.Settled → self.wallpaper.kind = "video" → self.Drained)
    (shown : self.Settled → self.wallpaper.kind = "video" → ∀ frame, self.videoFrame = some frame →
      frame.path = self.wallpaper.path) : Consistent self.spawn := by
  unfold spawn
  split
  · rename_i unnamed
    exact {
      bounded := by
        intro decoder there
        exact Nat.le_of_lt (older decoder there)
      distinct := distinct
      going := by
        intro decoder there same
        exact absurd same (Nat.ne_of_lt (older decoder there))
      current := by
        intro _ decoder there same
        exact absurd same (Nat.ne_of_lt (older decoder there))
      playing := fun _ _ _ named => absurd unnamed named
      drained := drained
      shown := shown }
  · -- The new decoder is the only one of its generation.
    have fresh : ∀ decoder ∈ self.decoders ++
        [⟨self.wallpaper.path, max 1 (min self.wallpaper.fps 60), self.videoGeneration, .probing⟩],
        decoder.expectedGeneration = self.videoGeneration →
        decoder = ⟨self.wallpaper.path, max 1 (min self.wallpaper.fps 60), self.videoGeneration, .probing⟩ := by
      intro decoder there same
      rcases List.mem_append.mp there with old | new
      · exact absurd same (Nat.ne_of_lt (older decoder old))
      · exact List.mem_singleton.mp new
    exact {
      bounded := by
        intro decoder there
        rcases List.mem_append.mp there with old | new
        · exact Nat.le_of_lt (older decoder old)
        · cases List.mem_singleton.mp new
          exact Nat.le_refl _
      distinct := by
        have unused : self.videoGeneration ∉ self.decoders.map Decoder.expectedGeneration := by
          intro there
          obtain ⟨decoder, old, same⟩ := List.mem_map.mp there
          exact absurd same (Nat.ne_of_lt (older decoder old))
        rw [List.map_append]
        exact List.nodup_append.mpr ⟨distinct, by simp, by
          intro first old second new
          cases List.mem_singleton.mp new
          intro same
          subst same
          exact unused old⟩
      going := by
        intro decoder there same
        cases fresh decoder there same
        simp
      current := by
        intro _ decoder there same
        cases fresh decoder there same
        exact ⟨video, playing, rfl⟩
      playing := by
        intro _ _ _ _
        simp
      drained := by
        intro settled kind
        have before := drained settled kind
        refine ⟨before.queued, ?_⟩
        intro decoder there sending
        rcases List.mem_append.mp there with old | new
        · exact before.sending decoder old sending
        · cases List.mem_singleton.mp new
          cases sending
      shown := shown }

theorem updatePlayback_consistent (consistent : Consistent self) : Consistent self.updatePlayback := by
  have older : ∀ decoder ∈ self.decoders, decoder.expectedGeneration < self.videoGeneration + 1 := by
    intro decoder there
    exact Nat.lt_succ_of_le (consistent.bounded decoder there)
  have drained : self.Settled → self.wallpaper.kind = "video" →
      Drained { self with videoSuspended := self.suspends, videoGeneration := self.videoGeneration + 1 } := by
    intro settled video
    exact ⟨(consistent.drained settled video).queued, (consistent.drained settled video).sending⟩
  unfold updatePlayback
  split
  · exact consistent
  · rename_i video
    rw [not_not] at video
    split
    · exact consistent
    · dsimp only
      split
      · rename_i suspends
        refine idle_consistent older consistent.distinct ?_ drained consistent.shown
        rintro - ⟨-, playing⟩
        exact absurd (suspends.symm.trans playing) (by decide)
      · rename_i plays
        exact spawn_consistent older consistent.distinct video (by simpa using plays) drained consistent.shown

/-! ## Steps -/

/-- What the suspension is computed from does not matter here. -/
theorem inputs_consistent (consistent : Consistent self) (fullscreen : List Bool) (onBattery : Bool) :
    Consistent { self with fullscreen, onBattery } where
  bounded := consistent.bounded
  distinct := consistent.distinct
  going := consistent.going
  current := consistent.current
  playing := consistent.playing
  drained := by
    intro settled video
    exact ⟨(consistent.drained settled video).queued, (consistent.drained settled video).sending⟩
  shown := consistent.shown

theorem applyConfig_consistent (consistent : Consistent self) (ready : self.applying = none) (wallpaper : Wallpaper) :
    Consistent (self.applyConfig wallpaper) := by
  have settled : self.Settled := by
    unfold Settled
    rw [ready]
    simp
  unfold applyConfig
  apply updatePlayback_consistent
  -- A configuration that changes nothing leaves the kind and the path alone.
  have same : Settled { self with
      wallpaper
      applying := some (self.wallpaper.path != wallpaper.path || self.wallpaper.kind != wallpaper.kind ||
        self.wallpaper.outputs != wallpaper.outputs) } →
      wallpaper.kind = self.wallpaper.kind ∧ wallpaper.path = self.wallpaper.path := by
    intro unchanged
    simp only [Settled, ne_eq, Option.some.injEq, Bool.or_eq_true, bne_iff_ne, not_or, not_not] at unchanged
    exact ⟨unchanged.1.2.symm, unchanged.1.1.symm⟩
  exact {
    bounded := consistent.bounded
    distinct := consistent.distinct
    going := consistent.going
    current := by
      intro unchanged decoder there expected
      obtain ⟨kind, path⟩ := same unchanged
      rw [kind, path]
      exact consistent.current settled decoder there expected
    playing := by
      intro unchanged video playing named
      obtain ⟨kind, path⟩ := same unchanged
      rw [kind] at video
      rw [path] at named
      exact consistent.playing settled video playing named
    drained := by
      intro unchanged video
      obtain ⟨kind, path⟩ := same unchanged
      rw [kind] at video
      have before := consistent.drained settled video
      constructor
      · simpa only [path] using before.queued
      · simpa only [path] using before.sending
    shown := by
      intro unchanged video
      obtain ⟨kind, path⟩ := same unchanged
      rw [kind] at video
      simpa only [path] using consistent.shown settled video }

theorem finishConfig_consistent (consistent : Consistent self) {changed : Bool} (applying : self.applying = some changed)
    (drained : changed = true → self.wallpaper.kind = "video" → self.Drained) :
    Consistent (self.finishConfig changed) := by
  unfold finishConfig
  split
  · rename_i unchanged
    have settled : self.Settled := by
      unfold Settled
      rw [applying]
      simpa using unchanged
    exact {
      bounded := consistent.bounded
      distinct := consistent.distinct
      going := consistent.going
      current := fun _ => consistent.current settled
      playing := fun _ => consistent.playing settled
      drained := by
        intro _ video
        exact ⟨(consistent.drained settled video).queued, (consistent.drained settled video).sending⟩
      shown := fun _ => consistent.shown settled }
  · rename_i changes
    have older : ∀ decoder ∈ self.decoders, decoder.expectedGeneration < self.videoGeneration + 1 := by
      intro decoder there
      exact Nat.lt_succ_of_le (consistent.bounded decoder there)
    have clear : self.wallpaper.kind = "video" → Drained { self with
        applying := none, videoFrame := none, videoGeneration := self.videoGeneration + 1 } := by
      intro video
      have before := drained (by simpa using changes) video
      exact ⟨before.queued, before.sending⟩
    dsimp only
    split
    · rename_i plays
      exact spawn_consistent older consistent.distinct plays.1 plays.2 (fun _ => clear) (by simp)
    · rename_i idle
      exact idle_consistent older consistent.distinct (fun _ => idle) (fun _ => clear) (by simp)

theorem deliver_consistent (consistent : Consistent self) : Consistent self.deliver := by
  unfold deliver
  split
  · rename_i frame channel received
    obtain ⟨value, rest, taken, queue, after⟩ | ⟨taken, -⟩ := SyncChannel.recv_cases received
    · cases taken
      subst after
      exact {
        bounded := consistent.bounded
        distinct := consistent.distinct
        going := consistent.going
        current := consistent.current
        playing := consistent.playing
        drained := by
          intro settled video
          have before := consistent.drained settled video
          refine ⟨?_, before.sending⟩
          intro other there
          exact before.queued other (by rw [queue]; exact List.mem_cons_of_mem _ there)
        shown := by
          intro settled video other same
          cases same
          exact (consistent.drained settled video).queued _ (by rw [queue]; exact List.mem_cons_self) }
    · cases taken
  · exact consistent

/-- A decoder moves to a stage at which the current one is not superseded. -/
theorem stage_consistent (consistent : Consistent self) {index : Nat} {decoder : Decoder}
    (there : self.decoders[index]? = some decoder) {stage : DecoderStage} {channel : SyncChannel Frame}
    (going : decoder.expectedGeneration = self.videoGeneration → stage ≠ .superseded)
    (queued : self.Settled → self.wallpaper.kind = "video" → ∀ frame ∈ channel.queue, frame.path = self.wallpaper.path)
    (sending : self.Settled → self.wallpaper.kind = "video" → stage = .sending → decoder.path = self.wallpaper.path) :
    Consistent { self with channel, decoders := self.decoders.set index { decoder with stage } } := by
  have member : decoder ∈ self.decoders := List.mem_of_getElem? there
  have same : (self.decoders.set index { decoder with stage }).map Decoder.expectedGeneration =
      self.decoders.map Decoder.expectedGeneration := by
    rw [List.map_set]
    apply List.ext_getElem?
    intro place
    rw [List.getElem?_set]
    split
    · rename_i here
      subst here
      split
      · simp [there]
      · rename_i beyond
        rw [List.getElem?_eq_none (by omega)]
    · rfl
  exact {
    bounded := by
      intro other found
      rcases List.mem_or_eq_of_mem_set found with old | rfl
      · exact consistent.bounded other old
      · exact consistent.bounded decoder member
    distinct := by
      rw [same]
      exact consistent.distinct
    going := by
      intro other found expected
      rcases List.mem_or_eq_of_mem_set found with old | rfl
      · exact consistent.going other old expected
      · exact going expected
    current := by
      intro settled other found expected
      rcases List.mem_or_eq_of_mem_set found with old | rfl
      · exact consistent.current settled other old expected
      · exact consistent.current settled decoder member expected
    playing := by
      rw [same]
      exact consistent.playing
    drained := by
      intro settled video
      refine ⟨queued settled video, ?_⟩
      intro other found sends
      rcases List.mem_or_eq_of_mem_set found with old | rfl
      · exact (consistent.drained settled video).sending other old sends
      · exact sending settled video sends
    shown := consistent.shown }

theorem decode_consistent (consistent : Consistent self) (index : Nat) (probe : Option String) (succeeds : Bool) :
    Consistent (self.decode index probe succeeds) := by
  unfold decode
  split
  · exact consistent
  · rename_i decoder there
    have member : decoder ∈ self.decoders := List.mem_of_getElem? there
    split
    · rename_i sends
      split
      · exact consistent
      · rename_i sent channel pushed
        apply stage_consistent consistent there
        · intro _
          split <;> simp
        · intro settled video frame queued
          have before := consistent.drained settled video
          obtain ⟨-, -, -, rfl⟩ | ⟨-, -, rfl⟩ := SyncChannel.send_cases pushed
          · rcases List.mem_append.mp queued with old | new
            · exact before.queued frame old
            · cases List.mem_singleton.mp new
              exact before.sending decoder member sends
          · exact before.queued frame queued
        · intro _ _ stage
          split at stage <;> cases stage
    · rename_i works
      apply stage_consistent consistent there
      · intro expected
        unfold Decoder.advance
        split
        · split <;> simp
        · simp [expected]
        · split <;> simp
        · simp [expected]
        · exact consistent.going decoder member expected
      · intro settled video
        exact (consistent.drained settled video).queued
      · -- Only a decoder that has found its generation comes to send.
        intro settled video sends
        unfold Decoder.advance at sends
        split at sends
        · split at sends <;> cases sends
        · split at sends <;> cases sends
        · split at sends <;> cases sends
        · split at sends
          · cases sends
          · rename_i expected
            rw [not_not] at expected
            exact (consistent.current settled decoder member expected.symm).2.2
        · exact absurd sends works

/-! ## Runs -/

/-- When a changed wallpaper is applied, no frame of another path is on its way to the screen. -/
def AppliedDrained : Transition.Condition WallpaperApp WallpaperEvent WallpaperObservation := fun _ self event =>
  match event with
  | .configApplied => self.applying = some true → self.wallpaper.kind = "video" → self.Drained
  | _ => True

abbrev Execution (allowed : Transition.Condition WallpaperApp WallpaperEvent WallpaperObservation) :
    List WallpaperObservation → WallpaperApp → Prop := Transition.Run step allowed Starts

theorem step_consistent {history : List WallpaperObservation} (consistent : Consistent self) {event : WallpaperEvent}
    (drained : AppliedDrained history self event) : Consistent (self.step event).1 := by
  cases event with
  | snapshot fullscreen differs =>
    unfold step
    dsimp only
    split
    · exact consistent
    · exact updatePlayback_consistent (inputs_consistent consistent fullscreen self.onBattery)
  | battery onBattery =>
    unfold step
    dsimp only
    split
    · exact consistent
    · exact updatePlayback_consistent (inputs_consistent consistent self.fullscreen onBattery)
  | config wallpaper =>
    unfold step
    dsimp only
    split
    · exact consistent
    · rename_i ready
      exact applyConfig_consistent consistent (by simpa using ready) wallpaper
  | configApplied =>
    unfold step
    dsimp only
    split
    · rename_i changed applying
      apply finishConfig_consistent consistent applying
      intro changes
      subst changes
      exact drained applying
    · exact consistent
  | deliver =>
    unfold step
    dsimp only
    split
    · exact consistent
    · exact deliver_consistent consistent
  | decoder index probe succeeds => exact decode_consistent consistent index probe succeeds

theorem start_consistent (starts : Starts self) : Consistent self := by
  obtain ⟨wallpaper, onBattery, rfl⟩ := starts
  have empty : Drained { wallpaper, onBattery } := ⟨by simp, by simp⟩
  split
  · rename_i video
    -- The first decoder has generation 0, as if it followed no other.
    unfold spawn
    split
    · rename_i unnamed
      exact {
        bounded := by simp
        distinct := by simp
        going := by simp
        current := by simp
        playing := fun _ _ _ named => absurd unnamed named
        drained := fun _ _ => empty
        shown := by simp }
    · exact {
        bounded := by simp
        distinct := by simp
        going := by simp
        current := by simp [video]
        playing := by simp
        drained := fun _ _ => ⟨by simp, by simp⟩
        shown := by simp }
  · rename_i still
    exact {
      bounded := by simp
      distinct := by simp
      going := by simp
      current := by simp
      playing := fun _ video => absurd video still
      drained := fun _ _ => empty
      shown := by simp }

theorem Execution.consistent {history : List WallpaperObservation} (run : Execution AppliedDrained history self) :
    Consistent self := by
  induction run with
  | start begun => exact start_consistent begun
  | step event _ drained ih => exact step_consistent ih drained

/-! ## The suspension -/

/-- The flag says whether playback is to be suspended. -/
def Informed (app : WallpaperApp) : Prop := app.wallpaper.kind = "video" → app.videoSuspended = app.suspends

theorem spawn_rest (self : WallpaperApp) : self.spawn.wallpaper = self.wallpaper ∧
    self.spawn.videoSuspended = self.videoSuspended ∧ self.spawn.suspends = self.suspends := by
  unfold spawn
  split <;> exact ⟨rfl, rfl, rfl⟩

theorem updatePlayback_informed (self : WallpaperApp) : Informed self.updatePlayback := by
  unfold updatePlayback
  split
  · rename_i still
    intro video
    exact absurd video still
  · split
    · rename_i same
      intro _
      exact same
    · dsimp only
      split
      · intro _
        rfl
      · intro _
        obtain ⟨-, flag, suspends⟩ := spawn_rest
          { self with videoSuspended := self.suspends, videoGeneration := self.videoGeneration + 1 }
        rw [flag, suspends]
        rfl

theorem finishConfig_informed (informed : Informed self) (changed : Bool) : Informed (self.finishConfig changed) := by
  unfold finishConfig
  split
  · exact informed
  · dsimp only
    split
    · intro video
      obtain ⟨wallpaper, flag, suspends⟩ := spawn_rest
        { self with applying := none, videoFrame := none, videoGeneration := self.videoGeneration + 1 }
      rw [wallpaper] at video
      rw [flag, suspends]
      exact informed video
    · exact informed

theorem deliver_informed (informed : Informed self) : Informed self.deliver := by
  unfold deliver
  split <;> exact informed

theorem decode_informed (informed : Informed self) (index : Nat) (probe : Option String) (succeeds : Bool) :
    Informed (self.decode index probe succeeds) := by
  unfold decode
  split
  · exact informed
  · split
    · split <;> exact informed
    · exact informed

theorem step_informed {history : List WallpaperObservation} (informed : .looked ∈ history → Informed self)
    (event : WallpaperEvent) (looked : .looked ∈ (self.step event).2 ++ history) : Informed (self.step event).1 := by
  cases event with
  | snapshot fullscreen differs =>
    unfold step at looked ⊢
    dsimp only at looked ⊢
    split
    · rename_i same
      rw [if_pos same] at looked
      exact informed looked
    · exact updatePlayback_informed _
  | battery onBattery =>
    unfold step at looked ⊢
    dsimp only at looked ⊢
    split
    · rename_i same
      rw [if_pos same] at looked
      exact informed looked
    · exact updatePlayback_informed _
  | config wallpaper =>
    unfold step at looked ⊢
    dsimp only at looked ⊢
    split
    · rename_i busy
      rw [if_pos busy] at looked
      exact informed looked
    · exact updatePlayback_informed _
  | configApplied =>
    unfold step at looked ⊢
    dsimp only at looked ⊢
    cases applying : self.applying with
    | none =>
      rw [applying] at looked
      exact informed looked
    | some changed =>
      rw [applying] at looked
      exact finishConfig_informed (informed looked) changed
  | deliver =>
    unfold step
    dsimp only
    split
    · exact informed looked
    · exact deliver_informed (informed looked)
  | decoder index probe succeeds => exact decode_informed (informed looked) index probe succeeds

theorem Execution.informed {allowed : Transition.Condition WallpaperApp WallpaperEvent WallpaperObservation}
    {history : List WallpaperObservation} (run : Execution allowed history self) (looked : .looked ∈ history) :
    Informed self := by
  induction run with
  | start begun => cases looked
  | step event _ _ ih => exact step_informed ih event looked

end WallpaperApp

/-! ## The wallpaper -/

/-- What holds of the wallpaper however callbacks and decoders interleave. -/
structure WallpaperSound (history : List WallpaperObservation) (app : WallpaperApp) : Prop where
  /-- At most one decoder has the current generation. -/
  single : ∀ (first second : Nat) (one other : Decoder), app.decoders[first]? = some one →
    app.decoders[second]? = some other → one.expectedGeneration = app.videoGeneration →
    other.expectedGeneration = app.videoGeneration → first = second
  /-- It has not ended unless it failed. -/
  going : ∀ decoder ∈ app.decoders, decoder.expectedGeneration = app.videoGeneration → decoder.stage ≠ .superseded
  /-- There is none while no video plays. -/
  idle : app.applying = none → ∀ decoder ∈ app.decoders, decoder.expectedGeneration = app.videoGeneration →
    app.wallpaper.kind = "video" ∧ app.videoSuspended = false ∧ decoder.path = app.wallpaper.path
  /-- There is one while a video plays, if there is a path to start it with. -/
  playing : app.applying = none → app.wallpaper.kind = "video" → app.videoSuspended = false → app.wallpaper.path ≠ "" →
    ∃ decoder ∈ app.decoders, decoder.expectedGeneration = app.videoGeneration
  /-- Since the first event the flag says whether playback is to be suspended. -/
  suspended : .looked ∈ history → app.wallpaper.kind = "video" → app.videoSuspended = app.suspends
  displayed : app.applying = none → ∀ frame, app.displayed = some frame → frame.path = app.wallpaper.path

namespace WallpaperApp

theorem wallpaper_sound {history : List WallpaperObservation} {app : WallpaperApp}
    (run : Execution AppliedDrained history app) : WallpaperSound history app := by
  have consistent := Execution.consistent run
  have settled (ready : app.applying = none) : app.Settled := by
    unfold Settled
    rw [ready]
    simp
  exact {
    single := by
      intro first second one other left right current same
      have within : first < (app.decoders.map Decoder.expectedGeneration).length := by
        obtain ⟨within, -⟩ := List.getElem?_eq_some_iff.mp left
        rwa [List.length_map]
      apply (List.getElem?_inj within consistent.distinct).mp
      rw [List.getElem?_map, List.getElem?_map, left, right, Option.map_some, Option.map_some, current, same]
    going := consistent.going
    idle := fun ready => consistent.current (settled ready)
    playing := by
      intro ready video plays named
      exact List.mem_map.mp (consistent.playing (settled ready) video plays named)
    suspended := fun looked => Execution.informed run looked
    displayed := by
      intro ready frame drawn
      unfold WallpaperApp.displayed at drawn
      split at drawn
      · rename_i video
        exact consistent.shown (settled ready) video frame drawn
      · cases drawn }

end WallpaperApp

def ocean : Wallpaper := { kind := "video", path := "/ocean.mp4", outputs := [], fps := 30, pauseOnBattery := false }

def forest : Wallpaper := { ocean with path := "/forest.mp4" }

/-- A frame is decoded. -/
def oneFrame : List WallpaperEvent := [
  .decoder 0 (some "640x360\n") true,
  .decoder 0 none true,
  .decoder 0 none true,
  .decoder 0 none true,
  .decoder 0 none true]

/-- The frame is shown, and then the wallpaper changes. -/
def changesAfterFrame : List WallpaperEvent := oneFrame ++ [.deliver, .config forest, .configApplied]

theorem wallpaper_sound_changed : WallpaperSound
    (Transition.execute WallpaperApp.step (WallpaperApp.spawn { wallpaper := ocean, onBattery := false })
      changesAfterFrame).2
    (Transition.execute WallpaperApp.step (WallpaperApp.spawn { wallpaper := ocean, onBattery := false })
      changesAfterFrame).1 := by
  have drained : Transition.Permits WallpaperApp.step WallpaperApp.AppliedDrained []
      (WallpaperApp.spawn { wallpaper := ocean, onBattery := false }) changesAfterFrame := by
    refine ⟨trivial, trivial, trivial, trivial, trivial, trivial, trivial, ?_, trivial⟩
    intro _ _
    constructor
    · intro frame there
      cases there
    · intro decoder there sends
      cases List.mem_singleton.mp there
      cases sends
  have run : WallpaperApp.Execution WallpaperApp.AppliedDrained _ _ :=
    Transition.Run.execute changesAfterFrame (.start ⟨ocean, false, rfl⟩) drained
  rw [List.append_nil] at run
  exact WallpaperApp.wallpaper_sound run

/-- The wallpaper changes while the frame is in the channel. -/
def changesBeforeFrame : List WallpaperEvent := oneFrame ++ [.config forest, .configApplied, .deliver]

/-- The frame is shown after the change. -/
theorem wallpaper_shows_old_frame : ¬∀ history app, WallpaperApp.Execution Transition.unrestricted history app →
    WallpaperSound history app := by
  intro sound
  have run : WallpaperApp.Execution Transition.unrestricted _ _ := Transition.Run.execute changesBeforeFrame
    (.start ⟨ocean, false, rfl⟩) (Transition.permits_unrestricted _ _ _ _)
  have displayed := (sound _ _ run).displayed rfl ⟨"/ocean.mp4", 0⟩ rfl
  exact absurd displayed (by decide)

end Luma.Shell
