import Luma.Library.Text
import Luma.Library.Transition

/-! The audio controls of one menu.

Commands are futures on the main context, which polls them in any order. `parse` reads a number from 0 to 10.
-/

set_option autoImplicit false

namespace Luma.Shell

open Luma.Library

/-- How a command that was to be run ends. -/
inductive CommandOutcome where
  | notSpawned (error : String)
  | timedOut
  | failed (error : String)
  | exited (successful : Bool) (out err : Option String)
  deriving DecidableEq, Repr

def CommandOutcome.run : CommandOutcome → Except String String
  | .notSpawned error => .error error
  | .timedOut => .error "Audio command timed out"
  | .failed error => .error error
  | .exited true out _ => .ok (out.getD "")
  | .exited false _ err =>
      .error (((err.filter fun text => Text.trim text ≠ "").map fun text =>
        String.ofList (text.toList.take 256)).getD "Audio command failed")

/-- A future that was scheduled, and whether its command was started. -/
structure WriteFuture where
  args : List String
  started : Bool
  deriving DecidableEq, Repr

structure Audio (Value : Type) where
  input : Bool
  visible : Bool := false
  data : Option (Value × Bool) := none
  lastError : String := ""
  reading : Bool := false
  again : Bool := false
  writing : Bool := false
  pendingVolume : Option (List String) := none
  available : Bool := false
  debounce : Bool := false
  devicesReading : Bool := false
  devicesAgain : Bool := false
  devicesDirty : Bool := false
  writes : List WriteFuture := []
  reads : List Bool := []
  deviceReads : Nat := 0

inductive AudioObservation where
  | requested (args : List String) (accepted : Bool)
  | writeStarted (args : List String)
  | writeFinished (args : List String) (result : Except String String)
  | readStarted
  | readFinished (result : Except String String)
  deriving DecidableEq

inductive AudioInput where
  | changeVolume (value : String)
  | toggleMute
  | selectDevice (name : String)
  | startWrite (index : Nat)
  | finishWrite (index : Nat) (outcome : CommandOutcome)
  | startRead (index : Nat)
  | finishRead (index : Nat) (outcome : CommandOutcome)
  | finishDevices
  | line (text : String)
  | debounced
  | mapped
  | reconnected
  | visibility (visible : Bool)

namespace Audio

variable {Value : Type} (parse : String → Option Value) (state : Audio Value)

def target : String := if state.input then "@DEFAULT_AUDIO_SOURCE@" else "@DEFAULT_AUDIO_SINK@"

def relevantEvent (text : String) : Bool :=
  Text.contains text " on sink #" || Text.contains text " on server #" || Text.contains text " on card #"

def refreshDevices : Audio Value :=
  if !state.visible then state
  else if state.devicesReading then { state with devicesAgain := true }
  else { state with devicesReading := true, deviceReads := state.deviceReads + 1 }

def refresh : Audio Value :=
  if state.reading then { state with again := true }
  else { state with reading := true, reads := state.reads ++ [false] }

def isVolume (args : List String) : Bool := args[1]? == some "set-volume"

/-- While a command is written only the last volume is kept. -/
def change (args : List String) : Audio Value :=
  if state.writing then
    if isVolume args then { state with pendingVolume := some args } else state
  else { state with writing := true, lastError := "", writes := state.writes ++ [⟨args, false⟩] }

def accepts (args : List String) : Bool := !state.writing || isVolume args

def setVolume (value : String) : List String := ["wpctl", "set-volume", state.target, value]

def setMute : List String := ["wpctl", "set-mute", state.target, "toggle"]

def setDevice (name : String) : List String :=
  ["pactl", if state.input then "set-default-source" else "set-default-sink", name]

def request (args : List String) : Audio Value × List AudioObservation :=
  (state.change args, [.requested args (state.accepts args)])

def startWrite (index : Nat) : Audio Value × List AudioObservation :=
  match state.writes[index]? with
  | some ⟨args, false⟩ => ({ state with writes := state.writes.set index ⟨args, true⟩ }, [.writeStarted args])
  | _ => (state, [])

/-- What follows the end of a write. -/
def written (args : List String) (result : Except String String) : Audio Value :=
  let state := { state with writing := false }
  let state :=
    match result with
    | .ok _ => state
    | .error error => { state with lastError := error }
  let state := if args.head? = some "pactl" then state.refreshDevices else state
  match state.pendingVolume with
  | some pending => { state with pendingVolume := none }.change pending
  | none => state.refresh

def finishWrite (index : Nat) (outcome : CommandOutcome) : Audio Value × List AudioObservation :=
  match state.writes[index]? with
  | some ⟨args, true⟩ =>
      ({ state with writes := state.writes.eraseIdx index }.written args outcome.run,
        [.writeFinished args outcome.run])
  | _ => (state, [])

def startRead (index : Nat) : Audio Value × List AudioObservation :=
  match state.reads[index]? with
  | some false => ({ state with reads := state.reads.set index true }, [.readStarted])
  | _ => (state, [])

/-- The volume, and whether it is muted. -/
def volume (text : String) : Option (Value × Bool) :=
  match Text.words text with
  | "Volume:" :: value :: words => (parse value).map fun value => (value, words.contains "[MUTED]")
  | _ => none

/-- The volume that an answer to `wpctl get-volume` shows. -/
def answer (result : Except String String) : Except String (Value × Bool) := do
  let text ← result
  match volume parse text with
  | some value => .ok value
  | none => .error "Audio state unavailable"

/-- What follows the end of a read. -/
def read (result : Except String String) : Audio Value :=
  let state := { state with reading := false }
  let state :=
    match answer parse result with
    | .ok value =>
        { state with
          available := true
          lastError := if state.available then state.lastError else ""
          data := some value }
    | .error error => { state with available := false, lastError := error }
  if state.again then { state with again := false }.refresh else state

def finishRead (index : Nat) (outcome : CommandOutcome) : Audio Value × List AudioObservation :=
  match state.reads[index]? with
  | some true =>
      ({ state with reads := state.reads.eraseIdx index }.read parse outcome.run, [.readFinished outcome.run])
  | _ => (state, [])

def finishDevices : Audio Value :=
  match state.deviceReads with
  | 0 => state
  | running + 1 =>
      let state := { state with deviceReads := running, devicesReading := false }
      if state.devicesAgain then { state with devicesAgain := false }.refreshDevices else state

def changed : Audio Value := { state with debounce := true }

/-- The microphone's line counts only while its menu is open. -/
def line (text : String) : Audio Value :=
  if state.input then
    if state.visible && (Text.contains text " on source #" || Text.contains text " on server #" ||
        Text.contains text " on card #") then
      { state with devicesDirty := !Text.contains text "Event 'change' on source #" || state.devicesDirty }.changed
    else state
  else if relevantEvent text then
    { state with devicesDirty := Text.contains text " on server #" || Text.contains text " on card #" ||
        Text.contains text "Event 'new' on sink #" || Text.contains text "Event 'remove' on sink #" ||
        state.devicesDirty }.changed
  else state

def debounced : Audio Value :=
  if state.debounce then
    let state := { state with debounce := false }.refresh
    if state.devicesDirty then { state with devicesDirty := false }.refreshDevices else state
  else state

def mapped : Audio Value := state.refresh.refreshDevices

def reconnected : Audio Value := if state.input && !state.visible then state else state.refresh.refreshDevices

def step : Audio Value → AudioInput → Audio Value × List AudioObservation
  | state, .changeVolume value => state.request (state.setVolume value)
  | state, .toggleMute => state.request state.setMute
  | state, .selectDevice name => state.request (state.setDevice name)
  | state, .startWrite index => state.startWrite index
  | state, .finishWrite index outcome => state.finishWrite index outcome
  | state, .startRead index => state.startRead index
  | state, .finishRead index outcome => state.finishRead parse index outcome
  | state, .finishDevices => (state.finishDevices, [])
  | state, .line text => (state.line text, [])
  | state, .debounced => (state.debounced, [])
  | state, .mapped => (state.mapped, [])
  | state, .reconnected => (state.reconnected, [])
  | state, .visibility visible => ({ state with visible }, [])

abbrev Run (history : List AudioObservation) (state : Audio Value) : Prop :=
  Transition.Run (step parse) Transition.unrestricted (fun first => ∃ input, first = { input }) history state

end Audio

end Luma.Shell
