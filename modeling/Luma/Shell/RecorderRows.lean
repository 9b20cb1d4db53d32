import Luma.Core.RecorderUpdate
import Luma.Shell.RecorderPanel

/-! Left and right on a row of the recorder settings send what the compositor accepts. -/

set_option autoImplicit false

namespace Luma.Shell

open Luma.Library Luma.Core

/-- The setting that a row shows. -/
def rowSetting : RecorderSettingsTab → Nat → Option Core.RecorderKey
  | .output, 0 => some .codec
  | .output, 1 => some .quality
  | .output, 2 => some .hdr
  | .output, 3 => some .cursor
  | .capture, 0 => some .captureMode
  | .video, 0 => some .screenFps
  | .video, 1 => some .fps
  | .video, 2 => some .outputWidth
  | .video, 3 => some .outputHeight
  | .audio, 0 => some .desktopAudio
  | .audio, 1 => some .microphone
  | .replay, 0 => some .replaySeconds
  | .replay, 1 => some .replayMaxMib
  | _, _ => none

/-- A numeric setting with its range. -/
structure NumericSetting where
  number : Recorder → Nat
  put : Recorder → Nat → Recorder
  low : Nat
  high : Nat

def numericSetting : Core.RecorderKey → Option NumericSetting
  | .quality => some ⟨Recorder.quality, fun settings quality => { settings with quality }, 1, 51⟩
  | .screenFps => some ⟨Recorder.screenFps, fun settings screenFps => { settings with screenFps }, 30, 480⟩
  | .fps => some ⟨Recorder.fps, fun settings fps => { settings with fps }, 30, 480⟩
  | .outputWidth => some ⟨Recorder.outputWidth, fun settings outputWidth => { settings with outputWidth }, 2, 16384⟩
  | .outputHeight => some ⟨Recorder.outputHeight, fun settings outputHeight => { settings with outputHeight }, 2, 16384⟩
  | .replaySeconds =>
      some ⟨Recorder.replaySeconds, fun settings replaySeconds => { settings with replaySeconds }, 2, 3600⟩
  | .replayMaxMib =>
      some ⟨Recorder.replayMaxMib, fun settings replayMaxMib => { settings with replayMaxMib }, 64, 8192⟩
  | _ => none

/-- The rows that are edited or activated by the enter key, the container, and switching HDR on with H.264. -/
def Refused (settings : Recorder) (tab : RecorderSettingsTab) (row : Nat) : Prop :=
  (recorderSettingsRows tab)[row]? ∈ [some .path, some .identity, some .action] ∨ (tab = .output ∧ row = 4) ∨
    tab = .output ∧ row = 2 ∧ settings.hdr = false ∧ settings.codec = "h264"

/-- The commands are accepted one after another, and change the setting of the row. -/
structure Adjusts (settings : Recorder) (tab : RecorderSettingsTab) (row : Nat) (direction : Int)
    (commands : List (String × String)) (after : Recorder) : Prop where
  accepted : commands.foldlM (fun settings command => settings.apply command.1 command.2) settings = .ok after
  only : ∀ field, after.get field ≠ settings.get field → rowSetting tab row = some field ∨
    rowSetting tab row = some .codec ∧ settings.codec = "hevc" ∧ field = .hdr ∧ after.hdr = false
  range : ∀ key numeric, rowSetting tab row = some key → numericSetting key = some numeric →
    numeric.low ≤ numeric.number after ∧ numeric.number after ≤ numeric.high
  forward : ∀ key numeric, rowSetting tab row = some key → numericSetting key = some numeric → 0 < direction →
    numeric.number settings < numeric.number after ∨
      numeric.number after = numeric.number settings ∧ numeric.number settings = numeric.high
  backward : ∀ key numeric, rowSetting tab row = some key → numericSetting key = some numeric → direction < 0 →
    numeric.number after < numeric.number settings ∨
      numeric.number after = numeric.number settings ∧ numeric.number settings = numeric.low

variable {settings : Recorder} {tab : RecorderSettingsTab} {row : Nat} {direction : Int}

theorem apply_ok {key value stored : String} {candidate : Recorder}
    (assigned : settings.assign key value = .ok (candidate, stored)) (limits : candidate.limitsValid = true)
    (profiles : Recorder.profilesValid [] candidate.gameProfiles = true) :
    settings.apply key value = .ok candidate := by
  have checked : candidate.validateRecorder = .ok () := by
    rw [Recorder.validateRecorder, limits, profiles]
    rfl
  simp only [Recorder.apply, assigned, bind, Except.bind, checked]
  rfl

/-- The number that a step sends. -/
def stepNumber (forward : Bool) (current low high amount : Nat) : Nat :=
  if forward then min (current + amount) high else max (current - amount) low

theorem stepNumber_within {current low high : Nat} (within : low ≤ current ∧ current ≤ high) (forward : Bool)
    (amount : Nat) : low ≤ stepNumber forward current low high amount ∧
      stepNumber forward current low high amount ≤ high := by
  cases forward with
  | true =>
    simp only [stepNumber, if_true]
    omega
  | false =>
    simp only [stepNumber, Bool.false_eq_true, if_false]
    omega

theorem stepNumber_even {current : Nat} (even : current % 2 = 0) (forward : Bool) :
    stepNumber forward current 2 16384 2 % 2 = 0 := by
  cases forward with
  | true =>
    simp only [stepNumber, if_true]
    omega
  | false =>
    simp only [stepNumber, Bool.false_eq_true, if_false]
    omega

theorem stepValue_eq (forward : Bool) (current low high amount : Nat) :
    stepValue forward current low high amount = toString (stepNumber forward current low high amount) := by
  cases forward <;> rfl

theorem parseIn_toString {name : String} {number low high : Nat} (from_ : low ≤ number) (upTo : number ≤ high)
    (small : high ≤ 2 ^ 64 - 1) : Recorder.parseIn (toString number) name low high = .ok number := by
  rw [Recorder.parseIn, Text.parseUnsigned_toString (Nat.le_trans upTo small)]
  exact if_pos ⟨from_, upTo⟩

/-! ## Rows of numbers -/

section
variable {key : Core.RecorderKey} {numeric : NumericSetting} {amount : Nat}

theorem numeric_assign (listed : numericSetting key = some numeric) (settings : Recorder) (text : String) :
    settings.assign key.label text = (Recorder.parseIn text key.label numeric.low numeric.high >>= fun found =>
      pure (numeric.put settings found, Text.trim text)) := by
  cases key <;> cases listed <;> rfl

theorem numeric_frame (listed : numericSetting key = some numeric) (settings : Recorder) (found : Nat) :
    numeric.number (numeric.put settings found) = found ∧
      ∀ field, field ≠ key → (numeric.put settings found).get field = settings.get field := by
  cases key <;> cases listed <;> refine ⟨rfl, fun field other => ?_⟩ <;> cases field <;>
    first | rfl | exact absurd rfl other

theorem numeric_within (listed : numericSetting key = some numeric) (limits : settings.limitsValid = true) :
    numeric.low ≤ numeric.number settings ∧ numeric.number settings ≤ numeric.high ∧ numeric.high ≤ 2 ^ 64 - 1 := by
  simp only [Recorder.limitsValid, Bool.and_eq_true, decide_eq_true_eq, bne_iff_ne, beq_iff_eq] at limits
  cases key <;> cases listed <;> (dsimp only; omega)

/-- A size that is a number of pixels is even. -/
def Even (key : Core.RecorderKey) (found : Nat) : Prop :=
  key = .outputWidth ∨ key = .outputHeight → found % 2 = 0

theorem numeric_limits (listed : numericSetting key = some numeric) (limits : settings.limitsValid = true) {found : Nat}
    (within : numeric.low ≤ found ∧ found ≤ numeric.high) (even : Even key found) :
    (numeric.put settings found).limitsValid = true := by
  simp only [Recorder.limitsValid, Bool.and_eq_true, decide_eq_true_eq, bne_iff_ne, beq_iff_eq] at limits ⊢
  cases key <;> cases listed <;> simp_all [Even] <;> omega

theorem numeric_adjusts (tab : RecorderSettingsTab) (row : Nat) (shows : rowSetting tab row = some key)
    (listed : numericSetting key = some numeric)
    (valid : settings.validateRecorder = .ok ()) (moves : 0 < amount)
    (even : ∀ forward, Even key (stepNumber forward (numeric.number settings) numeric.low numeric.high amount)) :
    ∃ after, Adjusts settings tab row direction [(key.label,
      stepValue (decide (0 < direction)) (numeric.number settings) numeric.low numeric.high amount)] after := by
  obtain ⟨limits, profiles⟩ := Recorder.validateRecorder_ok valid
  obtain ⟨from_, upTo, small⟩ := numeric_within listed limits
  have within := stepNumber_within ⟨from_, upTo⟩ (decide (0 < direction)) amount
  have even := even (decide (0 < direction))
  rw [stepValue_eq]
  obtain ⟨found, same⟩ : ∃ found, found = stepNumber (decide (0 < direction)) (numeric.number settings)
      numeric.low numeric.high amount := ⟨_, rfl⟩
  rw [← same] at within even ⊢
  obtain ⟨puts, frame⟩ := numeric_frame listed settings found
  have kept : (numeric.put settings found).gameProfiles = settings.gameProfiles := by
    have other : Core.RecorderKey.gameProfiles ≠ key := by
      rintro rfl
      cases listed
    exact frame .gameProfiles other
  refine ⟨numeric.put settings found, ?_, ?_, ?_, ?_, ?_⟩
  · have assigned := numeric_assign listed settings (toString found)
    rw [parseIn_toString within.1 within.2 small] at assigned
    have applied := apply_ok assigned (numeric_limits listed limits within even) (kept.symm ▸ profiles)
    simp only [List.foldlM_cons, List.foldlM_nil, applied]
    rfl
  · intro field changed
    by_cases own : field = key
    · rw [own]
      exact .inl shows
    · exact absurd (frame field own) changed
  all_goals
    intro key' numeric' shows' listed'
    rw [shows] at shows'
    cases shows'
    rw [listed] at listed'
    cases listed'
    rw [puts]
  · exact within
  · intro ahead
    rw [same, decide_eq_true ahead]
    simp only [stepNumber, if_true]
    omega
  · intro behind
    have back : ¬0 < direction := by omega
    rw [same, decide_eq_false back]
    simp only [stepNumber, Bool.false_eq_true, if_false]
    omega

end

/-! ## Other rows -/

/-- A row that shows no number changes only its setting. -/
theorem other_adjusts {commands : List (String × String)} {after : Recorder}
    (accepted : commands.foldlM (fun settings command => settings.apply command.1 command.2) settings = .ok after)
    (only : ∀ field, after.get field ≠ settings.get field → rowSetting tab row = some field ∨
      rowSetting tab row = some .codec ∧ settings.codec = "hevc" ∧ field = .hdr ∧ after.hdr = false)
    (other : ∀ key, rowSetting tab row = some key → numericSetting key = none) :
    Adjusts settings tab row direction commands after := by
  refine ⟨accepted, only, ?_, ?_, ?_⟩
  all_goals
    intro key numeric shows listed
    rw [other key shows] at listed
    cases listed

/-- Without a direction, nothing is sent. -/
theorem still_adjusts (valid : settings.validateRecorder = .ok ()) : Adjusts settings tab row 0 [] settings := by
  refine ⟨rfl, fun field changed => absurd rfl changed, ?_, ?_, ?_⟩
  · intro key numeric _ listed
    obtain ⟨from_, upTo, -⟩ := numeric_within listed (Recorder.validateRecorder_ok valid).1
    exact ⟨from_, upTo⟩
  · intro _ _ _ _ ahead
    cases ahead
  · intro _ _ _ _ behind
    cases behind

theorem one_adjusts {key value stored : String} {after : Recorder} {own : Core.RecorderKey}
    (shows : rowSetting tab row = some own) (other : numericSetting own = none)
    (assigned : settings.assign key value = .ok (after, stored)) (limits : after.limitsValid = true)
    (profiles : Recorder.profilesValid [] after.gameProfiles = true)
    (frame : ∀ field, field ≠ own → after.get field = settings.get field) :
    Adjusts settings tab row direction [(key, value)] after := by
  apply other_adjusts
  · simp only [List.foldlM_cons, List.foldlM_nil, apply_ok assigned limits profiles]
    rfl
  · intro field changed
    by_cases same : field = own
    · rw [same]
      exact .inl shows
    · exact absurd (frame field same) changed
  · intro key shows'
    rw [shows] at shows'
    cases shows'
    exact other

section
variable {commands : List (String × String)}

theorem limits_codec (limits : settings.limitsValid = true) : settings.codec = "hevc" ∨ settings.codec = "h264" := by
  simp only [Recorder.limitsValid, Bool.and_eq_true, List.contains_eq_mem, List.mem_cons, List.not_mem_nil, or_false,
    decide_eq_true_eq] at limits
  tauto

theorem codec_adjusts (limits : settings.limitsValid = true)
    (profiles : Recorder.profilesValid [] settings.gameProfiles = true)
    (sends : adjustCommands settings (decide (0 < direction)) .output 0 = .ok commands) :
    ∃ after, Adjusts settings .output 0 direction commands after := by
  have frame : ∀ (codec : String) field, field ≠ .codec →
      ({ settings with codec } : Recorder).get field = settings.get field := by
    intro codec field other
    cases field <;> first | rfl | exact absurd rfl other
  by_cases h264 : settings.codec = "h264"
  · have checked : ({ settings with codec := "hevc" } : Recorder).limitsValid = true := by
      simp_all [Recorder.limitsValid]
    obtain rfl : [("codec", "hevc")] = commands := by
      simpa [adjustCommands, h264] using sends
    exact ⟨_, one_adjusts rfl rfl rfl checked profiles (frame "hevc")⟩
  · have hevc := (limits_codec limits).resolve_right h264
    by_cases bright : settings.hdr = true
    · -- HDR is switched off before the codec can be changed.
      have dark : ({ settings with hdr := false } : Recorder).limitsValid = true := by
        simp_all [Recorder.limitsValid]
      have checked : ({ settings with hdr := false, codec := "h264" } : Recorder).limitsValid = true := by
        simp_all [Recorder.limitsValid]
      have first : settings.apply "hdr" "false" = .ok { settings with hdr := false } := apply_ok rfl dark profiles
      have second : ({ settings with hdr := false } : Recorder).apply "codec" "h264" =
          .ok { settings with hdr := false, codec := "h264" } := apply_ok rfl checked profiles
      obtain rfl : [("hdr", "false"), ("codec", "h264")] = commands := by
        simpa [adjustCommands, hevc, bright] using sends
      refine ⟨{ settings with hdr := false, codec := "h264" }, other_adjusts ?_ ?_ ?_⟩
      · simp only [List.foldlM_cons, List.foldlM_nil, first, second, bind, Except.bind]
        rfl
      · intro field changed
        cases field <;> first | exact .inl rfl | exact .inr ⟨rfl, hevc, rfl, rfl⟩ | exact absurd rfl changed
      · rintro _ ⟨⟩
        rfl
    · have checked : ({ settings with codec := "h264" } : Recorder).limitsValid = true := by
        simp_all [Recorder.limitsValid]
      obtain rfl : [("codec", "h264")] = commands := by
        simpa [adjustCommands, hevc, bright] using sends
      exact ⟨_, one_adjusts rfl rfl rfl checked profiles (frame "h264")⟩

end

/-- What a row sends is accepted, and so it is sent. -/
theorem applyAll_of_accepted {commands : List (String × String)} {after : Recorder}
    (accepted : commands.foldlM (fun settings command => settings.apply command.1 command.2) settings = .ok after) :
    applyAll settings commands = .ok after := by
  induction commands generalizing settings with
  | nil => exact accepted
  | cons command rest ih =>
    obtain ⟨key, value⟩ := command
    rw [List.foldlM_cons] at accepted
    cases applied : settings.apply key value with
    | error error =>
      simp only [applied] at accepted
      cases accepted
    | ok next =>
      simp only [applied] at accepted
      rw [applyAll, applied]
      exact ih accepted

theorem adjust_eq {kind : RecorderRowKind} {commands : List (String × String)} {after : Recorder}
    (shown : (recorderSettingsRows tab)[row]? = some kind) (turned : direction ≠ 0)
    (sends : adjustCommands settings (decide (0 < direction)) tab row = .ok commands)
    (adjusts : Adjusts settings tab row direction commands after) :
    adjustRecorderSetting settings tab row direction = .ok commands := by
  unfold adjustRecorderSetting
  rw [if_neg turned, shown, sends]
  simp only [Option.isNone_some, Bool.false_eq_true, if_false, bind, Except.bind, applyAll_of_accepted adjusts.accepted]
  rfl

theorem hdr_adjusts (limits : settings.limitsValid = true)
    (profiles : Recorder.profilesValid [] settings.gameProfiles = true)
    (bright : settings.hdr = true ∨ settings.codec = "hevc") :
    ∃ after, Adjusts settings .output 2 direction [("hdr", toString (!settings.hdr))] after := by
  have checked : ({ settings with hdr := !settings.hdr } : Recorder).limitsValid = true := by
    rcases bright with on | hevc
    · simp_all [Recorder.limitsValid]
    · simp_all [Recorder.limitsValid]
  have assigned : settings.assign "hdr" (toString (!settings.hdr)) =
      .ok ({ settings with hdr := !settings.hdr }, Text.trim (toString (!settings.hdr))) := by
    cases settings.hdr <;> rfl
  refine ⟨_, one_adjusts rfl rfl assigned checked profiles fun field other => ?_⟩
  cases field <;> first | rfl | exact absurd rfl other

theorem cursor_adjusts (limits : settings.limitsValid = true)
    (profiles : Recorder.profilesValid [] settings.gameProfiles = true) :
    ∃ after, Adjusts settings .output 3 direction [("cursor", toString (!settings.cursor))] after := by
  have assigned : settings.assign "cursor" (toString (!settings.cursor)) =
      .ok ({ settings with cursor := !settings.cursor }, Text.trim (toString (!settings.cursor))) := by
    cases settings.cursor <;> rfl
  refine ⟨_, one_adjusts rfl rfl assigned limits profiles fun field other => ?_⟩
  cases field <;> first | rfl | exact absurd rfl other

theorem sends_captureMode (settings : Recorder) (forward : Bool) : ∃ mode ∈ Recorder.captureModes,
    adjustCommands settings forward .capture 0 = .ok [("capture_mode", mode)] := by
  have listed : ∀ index, (Recorder.captureModes[index % 5]?).getD "" ∈ Recorder.captureModes := by
    intro index
    have small : ∀ place < 5, (Recorder.captureModes[place]?).getD "" ∈ Recorder.captureModes := by decide
    exact small _ (Nat.mod_lt _ (by decide))
  cases forward with
  | true => exact ⟨_, listed _, rfl⟩
  | false => exact ⟨_, listed _, rfl⟩

theorem captureMode_adjusts (limits : settings.limitsValid = true)
    (profiles : Recorder.profilesValid [] settings.gameProfiles = true) {mode : String}
    (listed : mode ∈ Recorder.captureModes) :
    ∃ after, Adjusts settings .capture 0 direction [("capture_mode", mode)] after := by
  have checked : ({ settings with captureMode := mode } : Recorder).limitsValid = true := by
    simp_all [Recorder.limitsValid]
  have assigned : settings.assign "capture_mode" mode = .ok ({ settings with captureMode := mode }, Text.trim mode) :=
    if_pos listed
  refine ⟨_, one_adjusts rfl rfl assigned checked profiles fun field other => ?_⟩
  cases field <;> first | rfl | exact absurd rfl other

theorem audio_adjusts (limits : settings.limitsValid = true)
    (profiles : Recorder.profilesValid [] settings.gameProfiles = true) (off : Prop) [Decidable off] :
    (∃ after, Adjusts settings .audio 0 direction
      [("desktop_audio", if off then "disabled" else "default_output")] after) ∧
    ∃ after, Adjusts settings .audio 1 direction
      [("microphone", if off then "disabled" else "default_input")] after := by
  have assigned : settings.assign "desktop_audio" (if off then "disabled" else "default_output") =
      .ok ({ settings with desktopAudio := if off then "disabled" else "default_output" },
        if off then "disabled" else "default_output") := by
    split <;> rfl
  have assigned' : settings.assign "microphone" (if off then "disabled" else "default_input") =
      .ok ({ settings with microphone := if off then "disabled" else "default_input" },
        if off then "disabled" else "default_input") := by
    split <;> rfl
  constructor
  · refine ⟨_, one_adjusts rfl rfl assigned limits profiles fun field other => ?_⟩
    cases field <;> first | rfl | exact absurd rfl other
  · refine ⟨_, one_adjusts rfl rfl assigned' limits profiles fun field other => ?_⟩
    cases field <;> first | rfl | exact absurd rfl other

theorem silent_adjusts (shows : rowSetting tab row = none) : Adjusts settings tab row direction [] settings := by
  refine other_adjusts rfl (fun field changed => absurd rfl changed) fun key shows' => ?_
  rw [shows] at shows'
  cases shows'

/-- A number that is not a size. -/
theorem count_adjusts (tab : RecorderSettingsTab) (row amount : Nat) {key : Core.RecorderKey}
    {numeric : NumericSetting} (shows : rowSetting tab row = some key) (listed : numericSetting key = some numeric)
    (valid : settings.validateRecorder = .ok ()) (moves : 0 < amount) (width : key ≠ .outputWidth)
    (height : key ≠ .outputHeight) : ∃ after, Adjusts settings tab row direction [(key.label,
      stepValue (decide (0 < direction)) (numeric.number settings) numeric.low numeric.high amount)] after :=
  numeric_adjusts tab row shows listed valid moves fun _ size => (size.elim width height).elim

section
variable (valid : settings.validateRecorder = .ok ())
include valid

theorem output_adjusts (short : row < 6) (sent : ¬Refused settings .output row) :
    ∃ commands after, adjustCommands settings (decide (0 < direction)) .output row = .ok commands ∧
      Adjusts settings .output row direction commands after := by
  obtain ⟨limits, profiles⟩ := Recorder.validateRecorder_ok valid
  rcases row with _ | _ | _ | _ | _ | _ | row
  · obtain ⟨after, adjusts⟩ := codec_adjusts limits profiles rfl
    exact ⟨_, after, rfl, adjusts⟩
  · obtain ⟨after, adjusts⟩ := count_adjusts .output 1 1 rfl rfl valid Nat.one_pos (by decide) (by decide)
    exact ⟨_, after, rfl, adjusts⟩
  · have bright : settings.hdr = true ∨ settings.codec = "hevc" := by
      by_contra both
      rw [not_or, Bool.not_eq_true] at both
      exact sent (.inr (.inr ⟨rfl, rfl, both.1, (limits_codec limits).resolve_left both.2⟩))
    obtain ⟨after, adjusts⟩ := hdr_adjusts limits profiles bright
    exact ⟨_, after, rfl, adjusts⟩
  · obtain ⟨after, adjusts⟩ := cursor_adjusts limits profiles
    exact ⟨_, after, rfl, adjusts⟩
  · exact absurd (.inr (.inl ⟨rfl, rfl⟩)) sent
  · exact absurd (.inl (by decide)) sent
  · omega

theorem capture_adjusts (short : row < 4) (sent : ¬Refused settings .capture row) :
    ∃ commands after, adjustCommands settings (decide (0 < direction)) .capture row = .ok commands ∧
      Adjusts settings .capture row direction commands after := by
  obtain ⟨limits, profiles⟩ := Recorder.validateRecorder_ok valid
  rcases row with _ | _ | _ | _ | row
  · obtain ⟨mode, listed, sends⟩ := sends_captureMode settings (decide (0 < direction))
    obtain ⟨after, adjusts⟩ := captureMode_adjusts limits profiles listed
    exact ⟨_, after, sends, adjusts⟩
  · exact absurd (.inl (by decide)) sent
  · exact absurd (.inl (by decide)) sent
  · exact ⟨[], settings, rfl, silent_adjusts rfl⟩
  · omega

theorem video_adjusts (short : row < 5) :
    ∃ commands after, adjustCommands settings (decide (0 < direction)) .video row = .ok commands ∧
      Adjusts settings .video row direction commands after := by
  obtain ⟨limits, -⟩ := Recorder.validateRecorder_ok valid
  have sizes : settings.outputWidth % 2 = 0 ∧ settings.outputHeight % 2 = 0 := by
    simp only [Recorder.limitsValid, Bool.and_eq_true, beq_iff_eq] at limits
    tauto
  rcases row with _ | _ | _ | _ | _ | row
  · obtain ⟨after, adjusts⟩ := count_adjusts .video 0 30 rfl rfl valid (by decide) (by decide) (by decide)
    exact ⟨_, after, rfl, adjusts⟩
  · obtain ⟨after, adjusts⟩ := count_adjusts .video 1 30 rfl rfl valid (by decide) (by decide) (by decide)
    exact ⟨_, after, rfl, adjusts⟩
  · obtain ⟨after, adjusts⟩ := numeric_adjusts .video 2 rfl rfl valid Nat.two_pos
      fun _ _ => stepNumber_even sizes.1 _
    exact ⟨_, after, rfl, adjusts⟩
  · obtain ⟨after, adjusts⟩ := numeric_adjusts .video 3 rfl rfl valid Nat.two_pos
      fun _ _ => stepNumber_even sizes.2 _
    exact ⟨_, after, rfl, adjusts⟩
  · exact ⟨[], settings, rfl, silent_adjusts rfl⟩
  · omega

theorem sound_adjusts (short : row < 3) :
    ∃ commands after, adjustCommands settings (decide (0 < direction)) .audio row = .ok commands ∧
      Adjusts settings .audio row direction commands after := by
  obtain ⟨limits, profiles⟩ := Recorder.validateRecorder_ok valid
  rcases row with _ | _ | _ | row
  · obtain ⟨after, adjusts⟩ := (audio_adjusts limits profiles (settings.desktopAudio = "default_output")).1
    exact ⟨_, after, rfl, adjusts⟩
  · obtain ⟨after, adjusts⟩ := (audio_adjusts limits profiles (settings.microphone = "default_input")).2
    exact ⟨_, after, rfl, adjusts⟩
  · exact ⟨[], settings, rfl, silent_adjusts rfl⟩
  · omega

theorem replay_adjusts (short : row < 3) :
    ∃ commands after, adjustCommands settings (decide (0 < direction)) .replay row = .ok commands ∧
      Adjusts settings .replay row direction commands after := by
  rcases row with _ | _ | _ | row
  · obtain ⟨after, adjusts⟩ := count_adjusts .replay 0 5 rfl rfl valid (by decide) (by decide) (by decide)
    exact ⟨_, after, rfl, adjusts⟩
  · obtain ⟨after, adjusts⟩ := count_adjusts .replay 1 64 rfl rfl valid (by decide) (by decide) (by decide)
    exact ⟨_, after, rfl, adjusts⟩
  · exact ⟨[], settings, rfl, silent_adjusts rfl⟩
  · omega

/-- Every row that is not refused sends what is accepted. -/
theorem exists_adjusts {kind : RecorderRowKind} (shown : (recorderSettingsRows tab)[row]? = some kind)
    (sent : ¬Refused settings tab row) :
    ∃ commands after, adjustCommands settings (decide (0 < direction)) tab row = .ok commands ∧
      Adjusts settings tab row direction commands after := by
  have short : row < (recorderSettingsRows tab).length := (List.getElem?_eq_some_iff.mp shown).1
  cases tab with
  | output => exact output_adjusts valid short sent
  | capture => exact capture_adjusts valid short sent
  | video => exact video_adjusts valid short
  | audio => exact sound_adjusts valid short
  | replay => exact replay_adjusts valid short

end

theorem adjust_error {kind : RecorderRowKind} {error : String} (shown : (recorderSettingsRows tab)[row]? = some kind)
    (turned : direction ≠ 0) (sends : adjustCommands settings (decide (0 < direction)) tab row = .error error) :
    adjustRecorderSetting settings tab row direction = .error error := by
  unfold adjustRecorderSetting
  rw [if_neg turned, shown, sends]
  rfl

/-- The rows of these kinds send nothing. -/
theorem sends_kind (settings : Recorder) (forward : Bool)
    (kind : (recorderSettingsRows tab)[row]? ∈ [some .path, some .identity, some .action]) :
    ∃ error, adjustCommands settings forward tab row = .error error := by
  cases tab with
  | output =>
    match row with
    | 0 | 1 | 2 | 3 | 4 => exact absurd kind (by decide)
    | 5 => exact ⟨_, rfl⟩
    | _ + 6 => exact ⟨_, rfl⟩
  | capture =>
    match row with
    | 0 | 3 => exact absurd kind (by decide)
    | 1 | 2 => exact ⟨_, rfl⟩
    | _ + 4 => exact ⟨_, rfl⟩
  | video =>
    match row with
    | 0 | 1 | 2 | 3 | 4 => exact absurd kind (by decide)
    | row + 5 => exact absurd kind (by simp [recorderSettingsRows])
  | audio =>
    match row with
    | 0 | 1 | 2 => exact absurd kind (by decide)
    | row + 3 => exact absurd kind (by simp [recorderSettingsRows])
  | replay =>
    match row with
    | 0 | 1 | 2 => exact absurd kind (by decide)
    | row + 3 => exact absurd kind (by simp [recorderSettingsRows])

/-- HDR is not accepted with H.264. -/
theorem apply_hdr_h264 (codec : settings.codec = "h264") : ∃ error, settings.apply "hdr" "true" = .error error := by
  have checked : ∃ error, ({ settings with hdr := true } : Recorder).validateRecorder = .error error := by
    refine ⟨_, if_pos ?_⟩
    simp [Recorder.limitsValid, codec]
  obtain ⟨error, checked⟩ := checked
  have assigned : settings.assign "hdr" "true" = .ok ({ settings with hdr := true }, Text.trim "true") := rfl
  simp only [Recorder.apply, assigned, bind, Except.bind, checked]
  exact ⟨_, rfl⟩

theorem refused_error {kind : RecorderRowKind} (shown : (recorderSettingsRows tab)[row]? = some kind)
    (turned : direction ≠ 0) (refused : Refused settings tab row) :
    ∃ error, adjustRecorderSetting settings tab row direction = .error error := by
  rcases refused with kind | ⟨rfl, rfl⟩ | ⟨rfl, rfl, dark, codec⟩
  · obtain ⟨error, sends⟩ := sends_kind settings (decide (0 < direction)) kind
    exact ⟨error, adjust_error shown turned sends⟩
  · exact ⟨_, adjust_error shown turned rfl⟩
  · obtain ⟨error, rejected⟩ := apply_hdr_h264 codec
    refine ⟨"hdr" ++ ": " ++ error, ?_⟩
    unfold adjustRecorderSetting
    rw [if_neg turned, shown]
    simp only [adjustCommands, dark, Bool.not_false, Option.isNone_some, Bool.false_eq_true, if_false, bind,
      Except.bind]
    have text : toString true = "true" := rfl
    rw [text, applyAll, rejected]

/-- Commands are sent for each row but those that are refused. They are accepted one after another, change the
setting of the row only, and move a number in the direction that was asked for, up to the end of its range. -/
theorem adjustRecorderSetting_agrees {kind : RecorderRowKind} (valid : settings.validateRecorder = .ok ())
    (shown : (recorderSettingsRows tab)[row]? = some kind) (direction : Int) :
    match adjustRecorderSetting settings tab row direction with
    | .ok commands => (direction = 0 ∨ ¬Refused settings tab row) ∧
        ∃ after, Adjusts settings tab row direction commands after
    | .error _ => direction ≠ 0 ∧ Refused settings tab row := by
  by_cases still : direction = 0
  · subst still
    exact ⟨.inl rfl, settings, still_adjusts valid⟩
  · by_cases refused : Refused settings tab row
    · obtain ⟨error, same⟩ := refused_error shown still refused
      rw [same]
      exact ⟨still, refused⟩
    · obtain ⟨commands, after, sends, adjusts⟩ := exists_adjusts valid shown refused
      rw [adjust_eq shown still sends adjusts]
      exact ⟨.inr refused, after, adjusts⟩

theorem adjustRecorderSetting_height :
    ∃ after, Adjusts {} .video 3 1 [("output_height", "1442")] after ∧ after.outputHeight ≤ 16384 := by
  have valid : ({} : Recorder).validateRecorder = .ok () := by decide +kernel
  have sent : adjustRecorderSetting {} .video 3 1 = .ok [("output_height", "1442")] := by decide +kernel
  have shown : (recorderSettingsRows .video)[3]? = some .step := rfl
  have agrees := adjustRecorderSetting_agrees valid shown 1
  rw [sent] at agrees
  obtain ⟨-, after, adjusts⟩ := agrees
  exact ⟨after, adjusts, (adjusts.range _ _ rfl rfl).2⟩

/-- The row that remembers the current source is neither text nor fixed. -/
theorem action_refused : ¬∀ (settings : Recorder) (tab : RecorderSettingsTab) (row : Nat) (kind : RecorderRowKind)
    (direction : Int) (error : String), settings.validateRecorder = .ok () →
    (recorderSettingsRows tab)[row]? = some kind → adjustRecorderSetting settings tab row direction = .error error →
    kind ∈ [.path, .identity, .info] ∨ tab = .output ∧ row = 2 ∧ settings.hdr = false ∧ settings.codec = "h264" := by
  intro only
  have valid : ({} : Recorder).validateRecorder = .ok () := by decide +kernel
  have refused : adjustRecorderSetting {} .capture 2 1 = .error "press Enter to remember the current selection" := rfl
  have kinds := only {} .capture 2 .action 1 _ valid rfl refused
  revert kinds
  decide

end Luma.Shell
