import Mathlib.Algebra.Group.Nat.Defs
import Luma.Library.SyncChannel
import Luma.Library.Text
import Luma.Library.Transition

/-! The video wallpaper and its decoder threads.

A decoder decodes the video of one path for one generation. It compares its generation with the
current one before and after it reads a frame, then sends the frame, which waits while the channel
is full. The application's callbacks run one at a time, and between their steps the decoders run.
-/

set_option autoImplicit false

namespace Luma.Shell

open Luma.Library

/-- The `wallpaper` table of a configuration. -/
structure Wallpaper where
  kind : String
  path : String
  /-- The paths by output. -/
  outputs : List (String × String)
  fps : Nat
  pauseOnBattery : Bool
  deriving DecidableEq, Repr

/-- The picture, with the path it was decoded from and the generation of its decoder. Nothing in the
source's picture tells these. -/
structure Frame where
  path : String
  generation : Nat
  deriving DecidableEq, Repr

inductive DecoderStage where
  | probing | checking | reading
  /-- A frame is read, and the generation is looked at again. -/
  | rechecking
  | sending
  /-- Another generation was found. -/
  | superseded
  /-- The probe, the start of the decoder program or a read failed. -/
  | failed
  deriving DecidableEq, Repr

structure Decoder where
  path : String
  fps : Nat
  expectedGeneration : Nat
  stage : DecoderStage := .probing
  deriving DecidableEq, Repr

/-- The size of a frame in bytes, from the width and height that the probe prints, unless it is too large. -/
def frameSize (probe : String) : Option Nat := do
  let (width, height) ← Text.splitOnce (Text.trim probe) 'x'
  let width ← Text.parseUnsigned (2 ^ 32 - 1) width
  let height ← Text.parseUnsigned (2 ^ 32 - 1) height
  if width * height * 4 ≤ 64 * 1024 * 1024 then some (width * height * 4) else none

/-- The stage after one that does not send, with the output of the probe, and whether the decoder program
starts or gives a frame. -/
def Decoder.advance (decoder : Decoder) (generation : Nat) (probe : Option String) (succeeds : Bool) : DecoderStage :=
  match decoder.stage with
  | .probing => if (probe.bind frameSize).isSome && succeeds then .checking else .failed
  | .checking => if generation ≠ decoder.expectedGeneration then .superseded else .reading
  | .reading => if succeeds then .rechecking else .failed
  | .rechecking => if generation ≠ decoder.expectedGeneration then .superseded else .sending
  | stage => stage

inductive WallpaperObservation where
  /-- The application looked whether playback is to be suspended. -/
  | looked
  deriving DecidableEq, Repr

/-- The application in its wallpaper mode. -/
structure WallpaperApp where
  wallpaper : Wallpaper
  onBattery : Bool
  /-- Which windows of the last snapshot are fullscreen. -/
  fullscreen : List Bool := []
  /-- The source's 64-bit counter does not wrap in any real run. -/
  videoGeneration : Nat := 0
  videoSuspended : Bool := false
  videoFrame : Option Frame := none
  channel : SyncChannel Frame := { capacity := 1 }
  decoders : List Decoder := []
  /-- A configuration is being applied; whether it changes the wallpaper. -/
  applying : Option Bool := none

/-- `video_wallpaper_is_suspended`. -/
def isSuspended (fullscreen : List Bool) (pauseOnBattery onBattery : Bool) : Bool :=
  fullscreen.any id || (pauseOnBattery && onBattery)

namespace WallpaperApp

/-- Whether playback is to be suspended now. -/
def suspends (self : WallpaperApp) : Bool :=
  isSuspended self.fullscreen self.wallpaper.pauseOnBattery self.onBattery

/-- `spawn_video_wallpaper` for the current generation. -/
def spawn (self : WallpaperApp) : WallpaperApp :=
  if self.wallpaper.path = "" then self
  else { self with
    decoders := self.decoders ++ [⟨self.wallpaper.path, max 1 (min self.wallpaper.fps 60), self.videoGeneration, .probing⟩] }

/-- `update_video_wallpaper_playback`. -/
def updatePlayback (self : WallpaperApp) : WallpaperApp :=
  if self.wallpaper.kind ≠ "video" then self
  else if self.videoSuspended = self.suspends then self
  else
    let next := { self with videoSuspended := self.suspends, videoGeneration := self.videoGeneration + 1 }
    if self.suspends then next else next.spawn

/-- The first half of `apply_config`. -/
def applyConfig (self : WallpaperApp) (wallpaper : Wallpaper) : WallpaperApp :=
  let changed := self.wallpaper.path != wallpaper.path || self.wallpaper.kind != wallpaper.kind ||
    self.wallpaper.outputs != wallpaper.outputs
  { self with wallpaper, applying := some changed }.updatePlayback

/-- The second half of `apply_config`. -/
def finishConfig (self : WallpaperApp) (changed : Bool) : WallpaperApp :=
  if !changed then { self with applying := none }
  else
    let next := { self with applying := none, videoFrame := none, videoGeneration := self.videoGeneration + 1 }
    if next.wallpaper.kind = "video" ∧ next.videoSuspended = false then next.spawn else next

/-- A step of a decoder. -/
def decode (self : WallpaperApp) (index : Nat) (probe : Option String) (succeeds : Bool) : WallpaperApp :=
  match self.decoders[index]? with
  | none => self
  | some decoder =>
    if decoder.stage = .sending then
      match self.channel.send ⟨decoder.path, decoder.expectedGeneration⟩ with
      | none => self
      | some (sent, channel) => { self with
          channel
          decoders := self.decoders.set index { decoder with stage := if sent then .checking else .failed } }
    else { self with
      decoders := self.decoders.set index
        { decoder with stage := decoder.advance self.videoGeneration probe succeeds } }

/-- The callback of the frame channel. -/
def deliver (self : WallpaperApp) : WallpaperApp :=
  match self.channel.recv with
  | some (some frame, channel) => { self with channel, videoFrame := some frame }
  | _ => self

/-- What is drawn if the wallpaper is a video. -/
def displayed (self : WallpaperApp) : Option Frame := if self.wallpaper.kind = "video" then self.videoFrame else none

end WallpaperApp

inductive WallpaperEvent where
  /-- A snapshot, which may differ from the last in what the wallpaper does not look at. -/
  | snapshot (fullscreen : List Bool) (differs : Bool)
  /-- The timer's look at the battery. -/
  | battery (onBattery : Bool)
  | config (wallpaper : Wallpaper)
  /-- The rest of the callback that applies a configuration. -/
  | configApplied
  | deliver
  | decoder (index : Nat) (probe : Option String) (succeeds : Bool)

namespace WallpaperApp

/-- No callback begins before the one that applies a configuration has ended. -/
def step (self : WallpaperApp) : WallpaperEvent → WallpaperApp × List WallpaperObservation
  | .snapshot fullscreen differs =>
    if self.applying.isSome || (self.fullscreen = fullscreen && !differs) then (self, [])
    else ({ self with fullscreen }.updatePlayback, [.looked])
  | .battery onBattery =>
    if self.applying.isSome || self.onBattery = onBattery then (self, [])
    else ({ self with onBattery }.updatePlayback, [.looked])
  | .config wallpaper => if self.applying.isSome then (self, []) else (self.applyConfig wallpaper, [.looked])
  | .configApplied =>
    match self.applying with
    | some changed => (self.finishConfig changed, [])
    | none => (self, [])
  | .deliver => (if self.applying.isSome then self else self.deliver, [])
  | .decoder index probe succeeds => (self.decode index probe succeeds, [])

/-- The start of the application. -/
def Starts (app : WallpaperApp) : Prop := ∃ (wallpaper : Wallpaper) (onBattery : Bool), app =
  if wallpaper.kind = "video" then ({ wallpaper, onBattery } : WallpaperApp).spawn else { wallpaper, onBattery }

end WallpaperApp

end Luma.Shell
