import Luma.Compositor.RecorderRuns
import Luma.Library.Text

/-! The files of the recordings that a controller starts.

A file is named after the second of the wall clock. A recording that was asked to finish is still written while the next
one starts.
-/

set_option autoImplicit false

namespace Luma.Compositor.RecorderController

open Luma.Library Luma.Core

/-! ## What is spawned -/

/-- What follows `--output`. -/
def outputArgument : List String → Option String
  | flag :: value :: rest => if flag = "--output" then some value else outputArgument rest
  | _ => none

/-- An engine or a launcher that was spawned, for the directory and in the second that name its file. -/
structure Recording where
  game : Bool
  directory : String
  second : Nat
  path : Option String
  deriving DecidableEq

/-- The pipes of a process are taken when it is already there. -/
def withPipes (host : SpawnHost) : SpawnHost := { host with stderrPipe := true, stdinPipe := true }

def recording (game : Bool) (host : SpawnHost) (directory : Except String String)
    (result : Except String (Nat × RecorderController × Launch)) : List Recording :=
  match directory, host.epoch, result with
  | .ok directory, .ok second, .ok (_, _, launch) =>
      [{ game, directory, second, path := outputArgument launch.arguments }]
  | _, _, _ => []

def recordings (self : RecorderController) : Operation → List Recording
  | .start host process config replay captureOutput commitPaced =>
      recording false host (recorderDirectory host config)
        (self.start (withPipes host) process config replay captureOutput commitPaced)
  | .startGame host process config profile =>
      recording true host (gameDirectory host config) (self.startGame (withPipes host) process config profile)
  | .startGameAttach host process config pid =>
      recording true host (gameDirectory host config) (self.startGameAttach (withPipes host) process config pid)
  | .startGameXwayland host process config captureOutput window =>
      recording false host (recorderDirectory host config)
        (self.startGameXwayland (withPipes host) process config captureOutput window)
  | .togglePause _ | .saveReplay _ | .stop _ | .poll _ | .noteSourceFrame _ | .abort _ => []

/-- The operations, with the processes that they spawn. -/
def record : Transition.Step RecorderController Operation Recording := fun self operation =>
  ((self.step operation).1, self.recordings operation)

def OwnPath (recording : Recording) (earlier : List Recording) : Prop :=
  ∀ other ∈ earlier, other.path ≠ recording.path

/-- A directory with the separator behind it. -/
def folder (directory : String) : List Char :=
  if directory.toList.getLast?.all (· = '/') then directory.toList else directory.toList ++ ['/']

/-- No recording of the same kind was spawned for the same directory in the same second. -/
def OwnSecond (recording : Recording) (earlier : List Recording) : Prop :=
  ∀ other ∈ earlier, other.game = recording.game → other.second = recording.second →
    folder other.directory ≠ folder recording.directory

/-! ## Names -/

def fileName (game : Bool) (second : Nat) : String :=
  if game then s!"luma-game-{second}.mp4" else s!"luma-{second}.mp4"

def stem (game : Bool) : List Char := if game then "luma-game-".toList else "luma-".toList

theorem toList_fileName (game : Bool) (second : Nat) :
    (fileName game second).toList = stem game ++ Nat.toDigits 10 second ++ ".mp4".toList := by
  cases game with
  | false => simp [fileName, stem, toString, Nat.toList_repr]
  | true => simp [fileName, stem, toString, Nat.toList_repr]

theorem slash_notMem_fileName (game : Bool) (second : Nat) : '/' ∉ (fileName game second).toList := by
  rw [toList_fileName]
  have digits : '/' ∉ Nat.toDigits 10 second := FileNames.not_mem_toDigits (by decide) second
  cases game with
  | false => simp [stem, digits]
  | true => simp [stem, digits]

/-- A native recording's name goes on with a digit, a game's with a letter. -/
theorem native_ne_game (first second : Nat) :
    stem false ++ Nat.toDigits 10 first ≠ stem true ++ Nat.toDigits 10 second := by
  intro whole
  have parts : "luma-".toList ++ Nat.toDigits 10 first = "luma-".toList ++ ("game-".toList ++ Nat.toDigits 10 second) :=
    whole
  have same := List.append_cancel_left parts
  cases digits : Nat.toDigits 10 first with
  | nil => exact Nat.toDigits_ne_nil digits
  | cons digit others =>
    rw [digits] at same
    have head : digit = 'g' := (List.cons.inj same).1
    have letter : 'g' ∉ Nat.toDigits 10 first := FileNames.not_mem_toDigits (by decide) first
    rw [digits, ← head] at letter
    exact letter List.mem_cons_self

theorem fileName_inj {game game' : Bool} {second second' : Nat}
    (same : (fileName game second).toList = (fileName game' second').toList) : game = game' ∧ second = second' := by
  rw [toList_fileName, toList_fileName] at same
  have numbers := List.append_cancel_right same
  cases game <;> cases game'
  · exact ⟨rfl, FileNames.toDigits_inj (List.append_cancel_left numbers)⟩
  · exact absurd numbers (native_ne_game _ _)
  · exact absurd numbers.symm (native_ne_game _ _)
  · exact ⟨rfl, FileNames.toDigits_inj (List.append_cancel_left numbers)⟩

theorem toList_joinPath (directory : String) (game : Bool) (second : Nat) :
    (joinPath directory (fileName game second)).toList = folder directory ++ (fileName game second).toList := by
  have relative : (fileName game second).toList.head? ≠ some '/' := by
    rw [toList_fileName]
    cases game <;> simp [stem]
  unfold joinPath folder
  rw [if_neg relative]
  split
  · exact String.toList_append
  · simp

theorem folder_ends (directory : String) : ∀ last ∈ (folder directory).getLast?, last = '/' := by
  unfold folder
  intro last final
  split at final
  · rename_i ends
    rw [Option.mem_def.mp final] at ends
    simpa using ends
  · simpa using final.symm

/-- A path tells the directory, the kind and the second apart. -/
theorem path_inj {directory directory' : String} {game game' : Bool} {second second' : Nat} :
    joinPath directory (fileName game second) = joinPath directory' (fileName game' second') ↔
      folder directory = folder directory' ∧ game = game' ∧ second = second' := by
  constructor
  · intro same
    have parts := congrArg String.toList same
    rw [toList_joinPath, toList_joinPath] at parts
    obtain ⟨folders, names⟩ := FileNames.folder_name_inj (folder_ends _) (folder_ends _)
      (slash_notMem_fileName _ _) (slash_notMem_fileName _ _) parts
    exact ⟨folders, fileName_inj names⟩
  · rintro ⟨folders, rfl, rfl⟩
    rw [← String.toList_inj, toList_joinPath, toList_joinPath, folders]

/-! ## Paths -/

variable {self after : RecorderController} {host : SpawnHost} {process fps : Nat} {config : Recorder} {launch : Launch}

/-- The path that a launch is given for a directory and a second. -/
def Named (game : Bool) (host : SpawnHost) (directory : Except String String) (launch : Launch) : Prop :=
  ∃ folder second, directory = .ok folder ∧ host.epoch = .ok second ∧
    outputArgument launch.arguments = some (joinPath folder (fileName game second))

open Fallible

theorem start_named {replay commitPaced : Bool} {captureOutput : String}
    (started : self.start host process config replay captureOutput commitPaced = .ok (fps, after, launch)) :
    Named false host (recorderDirectory host config) launch := by
  simp only [start, bind_ok, refuse_ok, pure_ok] at started
  obtain ⟨_, _, _, _, _, _, directory, found, _, _, second, clock, _, _, _, _, _, _, _, _, _, _, same⟩ := started
  cases same
  exact ⟨directory, second, found, clock, rfl⟩

theorem startGame_named {profile : GameCaptureProfile}
    (started : self.startGame host process config profile = .ok (fps, after, launch)) :
    Named true host (gameDirectory host config) launch := by
  simp only [startGame, bind_ok, refuse_ok, pure_ok] at started
  obtain ⟨_, _, _, _, _, _, directory, found, _, _, second, clock, _, _, _, _, _, _, _, _, same⟩ := started
  cases same
  exact ⟨directory, second, found, clock, rfl⟩

theorem startGameAttach_named {pid : Nat}
    (started : self.startGameAttach host process config pid = .ok (fps, after, launch)) :
    Named true host (gameDirectory host config) launch := by
  simp only [startGameAttach, bind_ok, refuse_ok, pure_ok] at started
  obtain ⟨_, _, _, _, _, _, directory, found, _, _, second, clock, _, _, _, _, _, _, same⟩ := started
  cases same
  exact ⟨directory, second, found, clock, rfl⟩

theorem startGameXwayland_named {captureOutput : String} {window : Nat}
    (started : self.startGameXwayland host process config captureOutput window = .ok (fps, after, launch)) :
    Named false host (recorderDirectory host config) launch := by
  simp only [startGameXwayland, bind_ok, refuse_ok, pure_ok] at started
  obtain ⟨_, _, ⟨_, middle, _⟩, inner, same⟩ := started
  cases same
  have named := start_named inner
  have unchanged : recorderDirectory host { config with screenFps := config.fps } = recorderDirectory host config := rfl
  rw [unchanged] at named
  exact named

/-- The path of a recording is that of its directory, kind and second. -/
def WellNamed (recording : Recording) : Prop :=
  recording.path = some (joinPath recording.directory (fileName recording.game recording.second))

theorem recording_named {game : Bool} {directory : Except String String}
    {result : Except String (Nat × RecorderController × Launch)}
    (named : ∀ {fps after launch}, result = .ok (fps, after, launch) → Named game host directory launch) :
    ∀ made ∈ recording game host directory result, WellNamed made := by
  intro made there
  unfold recording at there
  split at there
  · rename_i folder second _ _ launch found clock
    obtain ⟨folder', second', same, same', argument⟩ := named rfl
    cases same
    cases clock.symm.trans same'
    cases List.mem_singleton.mp there
    exact argument
  · cases there

theorem recordings_named (self : RecorderController) (operation : Operation) :
    ∀ made ∈ self.recordings operation, WellNamed made := by
  cases operation with
  | start host process config replay captureOutput commitPaced => exact recording_named start_named
  | startGame host process config profile => exact recording_named startGame_named
  | startGameAttach host process config pid => exact recording_named startGameAttach_named
  | startGameXwayland host process config captureOutput window => exact recording_named startGameXwayland_named
  | togglePause | saveReplay | stop | poll | noteSourceFrame | abort =>
    intro made there
    cases there

/-! ## Runs -/

variable {history : List Recording}

abbrev RecordRun : List Recording → RecorderController → Prop :=
  Transition.Run record Transition.unrestricted (· = {})

theorem wellNamed_of_run (run : RecordRun history self) : ∀ made ∈ history, WellNamed made := by
  induction run with
  | start =>
    intro made there
    cases there
  | @step earlier before operation _ _ ih =>
    intro made there
    rcases List.mem_append.mp there with new | old
    · exact recordings_named before operation made new
    · exact ih made old

theorem ownPath_iff {recording : Recording} {earlier : List Recording} (named : WellNamed recording)
    (others : ∀ other ∈ earlier, WellNamed other) : OwnPath recording earlier ↔ OwnSecond recording earlier := by
  have each : ∀ other ∈ earlier, other.path = recording.path ↔
      folder other.directory = folder recording.directory ∧ other.game = recording.game ∧
        other.second = recording.second := by
    intro other there
    rw [others other there, named, Option.some.injEq]
    exact path_inj
  constructor
  · intro own other there game second folders
    exact own other there ((each other there).mpr ⟨folders, game, second⟩)
  · intro own other there same
    obtain ⟨folders, game, second⟩ := (each other there).mp same
    exact own other there game second folders

/-- The recordings of a run have their own paths if and only if no two of one kind were spawned for one directory in one
second. -/
theorem own_paths_iff (run : RecordRun history self) :
    Transition.Throughout OwnPath history ↔ Transition.Throughout OwnSecond history := by
  have named := wellNamed_of_run run
  clear run
  induction history with
  | nil => exact Iff.rfl
  | cons recording earlier ih =>
    have before : ∀ other ∈ earlier, WellNamed other := fun other there => named other (List.mem_cons_of_mem _ there)
    exact and_congr (ownPath_iff (named recording List.mem_cons_self) before) (ih before)

/-- A recording that starts in the second, and one that starts after it was stopped. -/
def recordedTwice (first second : Nat) : List Operation :=
  [.start { exampleHost with epoch := .ok first } 1 {} false "DP-1" false, .stop {},
    .start { exampleHost with epoch := .ok second } 2 {} false "DP-1" false]

def recordedAt (second : Nat) : Recording where
  game := false
  directory := "/home/u/Videos/Luma"
  second := second
  path := some s!"/home/u/Videos/Luma/luma-{second}.mp4"

theorem own_paths_iff_later :
    Transition.Throughout OwnPath (Transition.execute record {} (recordedTwice 100 101)).2 := by
  have run : RecordRun _ _ :=
    Transition.Run.execute (recordedTwice 100 101) (.start rfl) (Transition.permits_unrestricted _ _ _ _)
  rw [List.append_nil] at run
  refine (own_paths_iff run).mpr ?_
  have made : (Transition.execute record {} (recordedTwice 100 101)).2 = [recordedAt 101, recordedAt 100] := by
    decide +kernel
  rw [made]
  refine ⟨?_, ?_, trivial⟩
  · intro other there _ second
    cases List.mem_singleton.mp there
    cases second
  · intro other there
    cases there

/-- The next recording starts in the second of the one that is being finished. -/
theorem same_second_same_path :
    ¬Transition.Throughout OwnPath (Transition.execute record {} (recordedTwice 100 100)).2 := by
  have made : (Transition.execute record {} (recordedTwice 100 100)).2 = [recordedAt 100, recordedAt 100] := by
    decide +kernel
  rw [made]
  intro own
  exact own.1 (recordedAt 100) List.mem_cons_self rfl

end Luma.Compositor.RecorderController
