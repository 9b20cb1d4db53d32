import Luma.Shell.Audio

/-! Audio controls settle on the last request.

The writes that ran, the one that is scheduled and the pending one are accepted requests in order, and
end with the last volume. A write that ends while a read runs makes another read follow.
-/

set_option autoImplicit false

namespace Luma.Shell.Audio

open Luma.Library
open Transition (chronicle execute)

variable {Value : Type} {parse : String → Option Value} {state : Audio Value} {history : List AudioObservation}

/-! ## Histories -/

def acceptedArgs : AudioObservation → Option (List String)
  | .requested args true => some args
  | _ => none

def requestedVolume : AudioObservation → Option (List String)
  | .requested args _ => if isVolume args then some args else none
  | _ => none

def writtenArgs : AudioObservation → Option (List String)
  | .writeStarted args => some args
  | _ => none

/-- A read began, or a read or a write ended. -/
def marks : AudioObservation → Bool
  | .readStarted | .readFinished _ | .writeFinished _ _ => true
  | _ => false

/-- The volume that is displayed is the answer, which may have failed. -/
def Shows (parse : String → Option Value) (state : Audio Value) (result : Except String String) : Prop :=
  match answer parse result with
  | .ok value => state.data = some value ∧ state.available = true
  | .error _ => state.available = false

/-- The last read began after the last write ended, and its answer is displayed. -/
def ReadLast (parse : String → Option Value) (history : List AudioObservation) (state : Audio Value) : Prop :=
  ∃ result earlier, history.filter marks = .readFinished result :: .readStarted :: earlier ∧ Shows parse state result

/-- The writes that were started, are scheduled or pending. -/
def issued (history : List AudioObservation) (state : Audio Value) : List (List String) :=
  chronicle writtenArgs history ++ (state.writes.filter fun call => !call.started).map WriteFuture.args ++
    state.pendingVolume.toList

structure Writes (history : List AudioObservation) (state : Audio Value) : Prop where
  writing : state.writing = true ∧ (∃ call, state.writes = [call]) ∨
    state.writing = false ∧ state.writes = [] ∧ state.pendingVolume = none
  ordered : (issued history state).Sublist (chronicle acceptedArgs history)
  last : ((issued history state).filter isVolume).getLast? = (chronicle requestedVolume history).getLast?

/-- Only writes ended since the read that runs began. -/
def Began (marked : List AudioObservation) (settled : List AudioObservation → Prop) : Prop :=
  ∃ later earlier, marked = later ++ .readStarted :: earlier ∧
    (∀ mark ∈ later, ∃ args result, mark = .writeFinished args result) ∧ settled later

structure Reads (parse : String → Option Value) (history : List AudioObservation) (state : Audio Value) : Prop where
  reading : state.reading = true ∧ (∃ started, state.reads = [started]) ∨
    state.reading = false ∧ state.reads = [] ∧ state.again = false
  running : state.reads = [true] → Began (history.filter marks) fun later =>
    later ≠ [] → state.again = true ∨ state.writing = true
  idle : state.reads = [] → state.writing = false → history.filter marks = [] ∨ ReadLast parse history state

structure Settling (parse : String → Option Value) (history : List AudioObservation) (state : Audio Value) :
    Prop where
  writes : Writes history state
  reads : Reads parse history state

/-! ## Parts of a state -/

section
variable {other : Audio Value} {observation : AudioObservation}

theorem Writes.congr (writes : Writes history state) (writing : other.writing = state.writing)
    (futures : other.writes = state.writes) (pending : other.pendingVolume = state.pendingVolume) :
    Writes history other := by
  have same : issued history other = issued history state := by rw [issued, issued, futures, pending]
  constructor
  · rw [writing, futures, pending]
    exact writes.writing
  · rw [same]
    exact writes.ordered
  · rw [same]
    exact writes.last

theorem Reads.congr (reads : Reads parse history state) (reading : other.reading = state.reading)
    (futures : other.reads = state.reads) (again : other.again = state.again) (writing : other.writing = state.writing)
    (data : other.data = state.data) (available : other.available = state.available) :
    Reads parse history other := by
  constructor
  · rw [reading, futures, again]
    exact reads.reading
  · rw [futures, again, writing]
    exact reads.running
  · unfold ReadLast Shows
    rw [futures, writing, data, available]
    exact reads.idle

theorem Writes.cons (writes : Writes history state) (unrequested : acceptedArgs observation = none)
    (unasked : requestedVolume observation = none) (unwritten : writtenArgs observation = none) :
    Writes (observation :: history) state := by
  have same : issued (observation :: history) state = issued history state := by
    simp [issued, unwritten]
  refine ⟨writes.writing, ?_, ?_⟩
  · rw [same, Transition.chronicle_cons, unrequested, Option.toList_none, List.append_nil]
    exact writes.ordered
  · rw [same, Transition.chronicle_cons, unasked, Option.toList_none, List.append_nil]
    exact writes.last

theorem Reads.cons (reads : Reads parse history state) (unmarked : marks observation = false) :
    Reads parse (observation :: history) state := by
  have same : (observation :: history).filter marks = history.filter marks :=
    List.filter_cons_of_neg (Bool.eq_false_iff.mp unmarked)
  refine ⟨reads.reading, ?_, ?_⟩
  · rw [same]
    exact reads.running
  · unfold ReadLast
    rw [same]
    exact reads.idle

end

/-! ## Refreshing -/

theorem refreshDevices_eq (state : Audio Value) : ∃ devicesReading devicesAgain deviceReads,
    state.refreshDevices = { state with devicesReading, devicesAgain, deviceReads } := by
  unfold refreshDevices
  split
  · exact ⟨_, _, _, rfl⟩
  · split
    · exact ⟨_, _, _, rfl⟩
    · exact ⟨_, _, _, rfl⟩

theorem Settling.refreshDevices (settling : Settling parse history state) :
    Settling parse history state.refreshDevices := by
  obtain ⟨devicesReading, devicesAgain, deviceReads, same⟩ := refreshDevices_eq state
  rw [same]
  exact ⟨settling.writes.congr rfl rfl rfl, settling.reads.congr rfl rfl rfl rfl rfl rfl⟩

theorem Writes.refresh (writes : Writes history state) : Writes history state.refresh := by
  unfold Audio.refresh
  split
  · exact writes.congr rfl rfl rfl
  · exact writes.congr rfl rfl rfl

/-- Whatever ended before, a read follows. -/
theorem Reads.refresh (reading : state.reading = true ∧ (∃ started, state.reads = [started]) ∨
      state.reading = false ∧ state.reads = [] ∧ state.again = false)
    (running : state.reads = [true] → Began (history.filter marks) fun _ => True) :
    Reads parse history state.refresh := by
  unfold Audio.refresh
  rcases reading with ⟨busy, started, one⟩ | ⟨idle, none_, -⟩
  · rw [if_pos busy]
    refine ⟨.inl ⟨busy, started, one⟩, ?_, ?_⟩
    · intro now
      obtain ⟨later, earlier, whole, ends, -⟩ := running now
      exact ⟨later, earlier, whole, ends, fun _ => .inl rfl⟩
    · intro empty
      rw [one] at empty
      cases empty
  · have scheduled : state.reads ++ [false] = [false] := by rw [none_, List.nil_append]
    rw [if_neg (by rw [idle]; decide)]
    refine ⟨.inl ⟨rfl, false, scheduled⟩, ?_, ?_⟩
    · intro now
      rw [scheduled] at now
      cases now
    · intro empty
      rw [scheduled] at empty
      cases empty

theorem Settling.refresh (settling : Settling parse history state) : Settling parse history state.refresh := by
  refine ⟨settling.writes.refresh, Reads.refresh settling.reads.reading fun now => ?_⟩
  obtain ⟨later, earlier, whole, ends, -⟩ := settling.reads.running now
  exact ⟨later, earlier, whole, ends, trivial⟩

/-! ## Writes -/

section
variable {args : List String}

theorem change_idle (idle : state.writing = false) (args : List String) : state.change args =
    { state with writing := true, lastError := "", writes := state.writes ++ [⟨args, false⟩] } := by
  rw [change, if_neg (by rw [idle]; decide)]

theorem Writes.request (writes : Writes history state) (args : List String) :
    Writes (.requested args (state.accepts args) :: history) (state.change args) := by
  have written : chronicle writtenArgs (.requested args (state.accepts args) :: history) =
      chronicle writtenArgs history := by
    rw [Transition.chronicle_cons]
    exact List.append_nil _
  rcases writes.writing with ⟨busy, call, one⟩ | ⟨idle, none_, nothing⟩
  · -- A volume takes the place of the pending one.
    have accepts : state.accepts args = isVolume args := by rw [accepts, busy]; rfl
    rw [accepts] at written ⊢
    unfold change
    rw [if_pos busy]
    cases kind : isVolume args with
    | true =>
      have front := writes.ordered
      rw [kind] at written
      rw [if_pos rfl]
      refine ⟨.inl ⟨busy, call, one⟩, ?_, ?_⟩
      · rw [issued, written, Transition.chronicle_cons]
        exact ((List.sublist_append_left _ _).trans front).append (List.Sublist.refl _)
      · rw [issued, written, Transition.chronicle_cons]
        simp [requestedVolume, kind]
    | false =>
      rw [if_neg (by decide)]
      exact writes.cons rfl (by simp [requestedVolume, kind]) rfl
  · have accepts : state.accepts args = true := by rw [accepts, idle]; rfl
    have before : issued history state = chronicle writtenArgs history := by simp [issued, none_, nothing]
    have after : issued (.requested args true :: history) (state.change args) =
        chronicle writtenArgs history ++ [args] := by
      rw [accepts] at written
      rw [change_idle idle, issued, written]
      simp [none_, nothing]
    rw [accepts]
    refine ⟨.inl ⟨?_, ⟨args, false⟩, ?_⟩, ?_, ?_⟩
    · rw [change_idle idle]
    · rw [change_idle idle, none_]
      rfl
    · have front := writes.ordered
      rw [before] at front
      rw [after, Transition.chronicle_cons]
      exact front.append (List.Sublist.refl _)
    · have end_ := writes.last
      rw [before] at end_
      rw [after, Transition.chronicle_cons, List.filter_append]
      cases kind : isVolume args with
      | true => simp [requestedVolume, kind]
      | false => simpa [requestedVolume, kind] using end_

theorem Reads.change (reads : Reads parse history state) (args : List String) :
    Reads parse history (state.change args) := by
  unfold Audio.change
  split
  · split
    · exact reads.congr rfl rfl rfl rfl rfl rfl
    · exact reads
  · refine ⟨reads.reading, ?_, ?_⟩
    · intro now
      obtain ⟨later, earlier, whole, ends, -⟩ := reads.running now
      exact ⟨later, earlier, whole, ends, fun _ => .inr rfl⟩
    · intro _ idle
      cases idle

theorem Settling.request (settling : Settling parse history state) (args : List String) :
    Settling parse ((state.request args).2 ++ history) (state.request args).1 :=
  ⟨settling.writes.request args, (settling.reads.change args).cons rfl⟩

theorem Settling.startWrite (settling : Settling parse history state) (index : Nat) :
    Settling parse ((state.startWrite index).2 ++ history) (state.startWrite index).1 := by
  unfold Audio.startWrite
  split
  · rename_i args found
    obtain ⟨busy, call, one⟩ | ⟨-, none_, -⟩ := settling.writes.writing
    · rw [one] at found ⊢
      obtain ⟨rfl, rfl⟩ : index = 0 ∧ call = ⟨args, false⟩ := by
        cases index with
        | zero => exact ⟨rfl, Option.some.inj found⟩
        | succ _ => cases found
      have same : issued (.writeStarted args :: history) { state with writes := [⟨args, true⟩] } =
          issued history state := by
        simp [issued, one, writtenArgs]
      have writes : Writes (.writeStarted args :: history) { state with writes := [⟨args, true⟩] } := by
        refine ⟨.inl ⟨busy, _, rfl⟩, ?_, ?_⟩
        · rw [same, Transition.chronicle_cons]
          exact settling.writes.ordered.trans (List.sublist_append_left _ _)
        · rw [same, Transition.chronicle_cons]
          simpa [requestedVolume] using settling.writes.last
      have reads : Reads parse history { state with writes := [⟨args, true⟩] } :=
        settling.reads.congr rfl rfl rfl rfl rfl rfl
      exact ⟨writes, reads.cons rfl⟩
    · rw [none_] at found
      cases found
  · exact settling

theorem written_eq (state : Audio Value) (args : List String) (result : Except String String) :
    ∃ lastError devicesReading devicesAgain deviceReads, state.written args result =
      let ended : Audio Value := { state with writing := false, lastError, devicesReading, devicesAgain, deviceReads }
      match state.pendingVolume with
      | some pending => { ended with pendingVolume := none }.change pending
      | none => ended.refresh := by
  have listed : ∀ lastError, ∃ devicesReading devicesAgain deviceReads,
      (if args.head? = some "pactl" then ({ state with writing := false, lastError } : Audio Value).refreshDevices
        else { state with writing := false, lastError }) =
        { state with writing := false, lastError, devicesReading, devicesAgain, deviceReads } := by
    intro lastError
    split
    · exact refreshDevices_eq _
    · exact ⟨_, _, _, rfl⟩
  cases result with
  | ok out =>
    obtain ⟨devicesReading, devicesAgain, deviceReads, same⟩ := listed state.lastError
    refine ⟨state.lastError, devicesReading, devicesAgain, deviceReads, ?_⟩
    exact congrArg (fun ended : Audio Value =>
      match ended.pendingVolume with
      | some pending => { ended with pendingVolume := none }.change pending
      | none => ended.refresh) same
  | error error =>
    obtain ⟨devicesReading, devicesAgain, deviceReads, same⟩ := listed error
    refine ⟨error, devicesReading, devicesAgain, deviceReads, ?_⟩
    exact congrArg (fun ended : Audio Value =>
      match ended.pendingVolume with
      | some pending => { ended with pendingVolume := none }.change pending
      | none => ended.refresh) same

/-- The pending volume is written next, or a read follows. -/
theorem Settling.written {result : Except String String} (none_ : state.writes = [])
    (ordered : (issued history state).Sublist (chronicle acceptedArgs history))
    (last : ((issued history state).filter isVolume).getLast? = (chronicle requestedVolume history).getLast?)
    (reading : state.reading = true ∧ (∃ started, state.reads = [started]) ∨
      state.reading = false ∧ state.reads = [] ∧ state.again = false)
    (running : state.reads = [true] → Began (history.filter marks) fun _ => True) :
    Settling parse history (state.written args result) := by
  obtain ⟨lastError, devicesReading, devicesAgain, deviceReads, same⟩ := written_eq state args result
  rw [same]
  cases waiting : state.pendingVolume with
  | none =>
    have same : issued history { state with
        writing := false, pendingVolume := none, lastError, devicesReading, devicesAgain, deviceReads } =
        issued history state := by
      simp [issued, waiting]
    refine ⟨Writes.refresh ⟨.inr ⟨rfl, none_, rfl⟩, ?_, ?_⟩, Reads.refresh reading running⟩
    · rw [same]
      exact ordered
    · rw [same]
      exact last
  | some next =>
    dsimp only
    rw [change_idle rfl]
    have moved : issued history { state with
        writing := true, pendingVolume := none, lastError := "", devicesReading, devicesAgain, deviceReads
        writes := state.writes ++ [⟨next, false⟩] } = issued history state := by
      simp [issued, none_, waiting]
    refine ⟨⟨.inl ⟨rfl, ⟨next, false⟩, ?_⟩, ?_, ?_⟩, reading, ?_, ?_⟩
    · rw [none_]
      rfl
    · rw [moved]
      exact ordered
    · rw [moved]
      exact last
    · intro now
      obtain ⟨later, earlier, whole, ends, -⟩ := running now
      exact ⟨later, earlier, whole, ends, fun _ => .inr rfl⟩
    · intro _ idle
      cases idle

theorem Settling.finishWrite (settling : Settling parse history state) (index : Nat) (outcome : CommandOutcome) :
    Settling parse ((state.finishWrite index outcome).2 ++ history) (state.finishWrite index outcome).1 := by
  unfold Audio.finishWrite
  split
  · rename_i args found
    obtain ⟨-, call, one⟩ | ⟨-, none_, -⟩ := settling.writes.writing
    · rw [one] at found ⊢
      obtain ⟨rfl, rfl⟩ : index = 0 ∧ call = ⟨args, true⟩ := by
        cases index with
        | zero => exact ⟨rfl, Option.some.inj found⟩
        | succ _ => cases found
      have same : issued (.writeFinished args outcome.run :: history) { state with writes := [] } =
          issued history state := by
        simp [issued, one, writtenArgs]
      have ordered : (issued (.writeFinished args outcome.run :: history) { state with writes := [] }).Sublist
          (chronicle acceptedArgs (.writeFinished args outcome.run :: history)) := by
        rw [same, Transition.chronicle_cons]
        exact settling.writes.ordered.trans (List.sublist_append_left _ _)
      have last : ((issued (.writeFinished args outcome.run :: history) { state with writes := [] }).filter
          isVolume).getLast? = (chronicle requestedVolume (.writeFinished args outcome.run :: history)).getLast? := by
        rw [same, Transition.chronicle_cons]
        simpa [requestedVolume] using settling.writes.last
      apply Settling.written
      · rfl
      · exact ordered
      · exact last
      · exact settling.reads.reading
      · intro now
        obtain ⟨later, earlier, whole, ends, -⟩ := settling.reads.running now
        refine ⟨.writeFinished args outcome.run :: later, earlier, ?_, ?_, trivial⟩
        · show (AudioObservation.writeFinished args outcome.run :: history).filter marks = _
          rw [List.filter_cons_of_pos rfl, whole]
          rfl
        · intro mark there
          rcases List.mem_cons.mp there with rfl | before
          · exact ⟨_, _, rfl⟩
          · exact ends mark before
    · rw [none_] at found
      cases found
  · exact settling

end

/-! ## Reads -/

theorem Settling.startRead (settling : Settling parse history state) (index : Nat) :
    Settling parse ((state.startRead index).2 ++ history) (state.startRead index).1 := by
  unfold Audio.startRead
  split
  · rename_i found
    obtain ⟨busy, started, one⟩ | ⟨-, none_, -⟩ := settling.reads.reading
    · rw [one] at found ⊢
      obtain rfl : index = 0 := by
        cases index with
        | zero => rfl
        | succ _ => cases found
      have writes : Writes history { state with reads := [true] } := settling.writes.congr rfl rfl rfl
      refine ⟨writes.cons rfl rfl rfl, .inl ⟨busy, true, rfl⟩, ?_, ?_⟩
      · intro _
        refine ⟨[], history.filter marks, rfl, ?_, ?_⟩
        · intro _ none_
          cases none_
        · intro some
          exact absurd rfl some
      · intro empty
        cases empty
    · rw [none_] at found
      cases found
  · exact settling

theorem read_eq (parse : String → Option Value) (state : Audio Value) (result : Except String String) :
    ∃ available lastError data,
      (∀ other : Audio Value, other.available = available → other.data = data → Shows parse other result) ∧
      state.read parse result =
        if state.again then
          ({ state with reading := false, again := false, available, lastError, data } : Audio Value).refresh
        else { state with reading := false, available, lastError, data } := by
  unfold Audio.read Shows
  cases answer parse result with
  | ok value => exact ⟨true, _, some value, fun _ available data => ⟨data, available⟩, rfl⟩
  | error error => exact ⟨false, _, state.data, fun _ available _ => available, rfl⟩

theorem Settling.finishRead (settling : Settling parse history state) (index : Nat) (outcome : CommandOutcome) :
    Settling parse ((state.finishRead parse index outcome).2 ++ history)
      (state.finishRead parse index outcome).1 := by
  unfold Audio.finishRead
  split
  · rename_i found
    obtain ⟨-, started, one⟩ | ⟨-, none_, -⟩ := settling.reads.reading
    · rw [one] at found ⊢
      obtain ⟨rfl, rfl⟩ : index = 0 ∧ started = true := by
        cases index with
        | zero => exact ⟨rfl, Option.some.inj found⟩
        | succ _ => cases found
      obtain ⟨later, earlier, whole, -, due⟩ := settling.reads.running one
      obtain ⟨available, lastError, data, shows, same⟩ :=
        read_eq parse { state with reads := [true].eraseIdx 0 } outcome.run
      have marked : (AudioObservation.readFinished outcome.run :: history).filter marks =
          .readFinished outcome.run :: (later ++ .readStarted :: earlier) := by
        rw [List.filter_cons_of_pos rfl, whole]
      dsimp only
      rw [same]
      split
      · refine ⟨Writes.refresh ((settling.writes.cons rfl rfl rfl).congr rfl rfl rfl), ?_⟩
        refine Reads.refresh (.inr ⟨rfl, rfl, rfl⟩) fun now => ?_
        cases now
      · rename_i once
        refine ⟨(settling.writes.cons rfl rfl rfl).congr rfl rfl rfl, .inr ⟨rfl, rfl, ?_⟩, ?_, ?_⟩
        · exact Bool.eq_false_iff.mpr once
        · intro now
          cases now
        · intro _ idle
          have none_ : later = [] := by
            by_contra some
            rcases due some with again | writing
            · exact once again
            · rw [idle] at writing
              cases writing
          subst none_
          exact .inr ⟨outcome.run, earlier, marked, shows _ rfl rfl⟩
    · rw [none_] at found
      cases found
  · exact settling

/-! ## Runs -/

theorem Settling.finishDevices (settling : Settling parse history state) :
    Settling parse history state.finishDevices := by
  unfold Audio.finishDevices
  split
  · exact settling
  · rename_i running _
    have ended : ∀ devicesAgain, Settling parse history
        { state with deviceReads := running, devicesReading := false, devicesAgain } := fun _ =>
      ⟨settling.writes.congr rfl rfl rfl, settling.reads.congr rfl rfl rfl rfl rfl rfl⟩
    dsimp only
    split
    · exact (ended false).refreshDevices
    · exact ended state.devicesAgain

theorem Settling.line (settling : Settling parse history state) (text : String) :
    Settling parse history (state.line text) := by
  have noticed : ∀ devicesDirty, Settling parse history ({ state with devicesDirty } : Audio Value).changed :=
    fun _ => ⟨settling.writes.congr rfl rfl rfl, settling.reads.congr rfl rfl rfl rfl rfl rfl⟩
  unfold Audio.line
  split
  · split
    · exact noticed _
    · exact settling
  · split
    · exact noticed _
    · exact settling

theorem Settling.debounced (settling : Settling parse history state) : Settling parse history state.debounced := by
  unfold Audio.debounced
  split
  · have expired : Settling parse history { state with debounce := false } :=
      ⟨settling.writes.congr rfl rfl rfl, settling.reads.congr rfl rfl rfl rfl rfl rfl⟩
    have refreshed := expired.refresh
    dsimp only
    split
    · apply Settling.refreshDevices
      exact ⟨refreshed.writes.congr rfl rfl rfl, refreshed.reads.congr rfl rfl rfl rfl rfl rfl⟩
    · exact refreshed
  · exact settling

theorem Settling.reconnected (settling : Settling parse history state) :
    Settling parse history state.reconnected := by
  unfold Audio.reconnected
  split
  · exact settling
  · exact settling.refresh.refreshDevices

theorem Settling.step (settling : Settling parse history state) (input : AudioInput) :
    Settling parse ((step parse state input).2 ++ history) (step parse state input).1 := by
  cases input with
  | changeVolume value => exact settling.request _
  | toggleMute => exact settling.request _
  | selectDevice name => exact settling.request _
  | startWrite index => exact settling.startWrite index
  | finishWrite index outcome => exact settling.finishWrite index outcome
  | startRead index => exact settling.startRead index
  | finishRead index outcome => exact settling.finishRead index outcome
  | finishDevices => exact settling.finishDevices
  | line text => exact settling.line text
  | debounced => exact settling.debounced
  | mapped => exact settling.refresh.refreshDevices
  | reconnected => exact settling.reconnected
  | visibility visible => exact ⟨settling.writes.congr rfl rfl rfl, settling.reads.congr rfl rfl rfl rfl rfl rfl⟩

theorem Settling.start (input : Bool) : Settling parse [] ({ input } : Audio Value) := by
  refine ⟨⟨.inr ⟨rfl, rfl, rfl⟩, List.Sublist.refl _, rfl⟩, .inr ⟨rfl, rfl, rfl⟩, ?_, ?_⟩
  · intro running
    cases running
  · intro _ _
    exact .inl rfl

theorem Run.settling (run : Run parse history state) : Settling parse history state := by
  induction run with
  | start begun =>
    obtain ⟨input, rfl⟩ := begun
    exact .start input
  | step input _ _ ih => exact ih.step input

/-- At most one write and one read run. Writes run in the order of the accepted requests; when there are no
more, the last volume written is the last one requested, and with no read running either it was read since. -/
theorem run_settles (run : Run parse history state) :
    (state.writes.filter (·.started)).length ≤ 1 ∧ (state.reads.filter (·)).length ≤ 1 ∧
      (chronicle writtenArgs history).Sublist (chronicle acceptedArgs history) ∧
      (state.writes = [] → state.pendingVolume = none ∧
        ((chronicle writtenArgs history).filter isVolume).getLast? = (chronicle requestedVolume history).getLast?) ∧
      (state.writes = [] → state.reads = [] →
        (∃ args result, .writeFinished args result ∈ history) → ReadLast parse history state) := by
  have settling := run.settling
  have quiet : state.writes = [] → state.writing = false ∧ state.pendingVolume = none := by
    intro none_
    rcases settling.writes.writing with ⟨-, call, one⟩ | ⟨idle, -, nothing⟩
    · rw [one] at none_
      cases none_
    · exact ⟨idle, nothing⟩
  refine ⟨?_, ?_, ?_, ?_, ?_⟩
  · refine Nat.le_trans (List.length_filter_le _ _) ?_
    rcases settling.writes.writing with ⟨-, call, one⟩ | ⟨-, none_, -⟩
    · rw [one]
      exact Nat.le_refl _
    · rw [none_]
      exact Nat.zero_le _
  · refine Nat.le_trans (List.length_filter_le _ _) ?_
    rcases settling.reads.reading with ⟨-, started, one⟩ | ⟨-, none_, -⟩
    · rw [one]
      exact Nat.le_refl _
    · rw [none_]
      exact Nat.zero_le _
  · have ordered := settling.writes.ordered
    rw [issued, List.append_assoc] at ordered
    exact (List.sublist_append_left _ _).trans ordered
  · intro none_
    obtain ⟨-, nothing⟩ := quiet none_
    have last := settling.writes.last
    rw [issued, none_, nothing] at last
    simp only [List.filter_nil, List.map_nil, Option.toList_none, List.append_nil] at last
    exact ⟨nothing, last⟩
  · rintro none_ unread ⟨args, result, ended⟩
    rcases settling.reads.idle unread (quiet none_).1 with unmarked | readLast
    · have unmarked := List.filter_eq_nil_iff.mp unmarked _ ended
      exact absurd rfl unmarked
    · exact readLast

/-- The scale is dragged while the first volume is written. -/
def dragged : List AudioInput :=
  [.mapped, .changeVolume "0.4300", .startRead 0, .startWrite 0, .changeVolume "0.4400", .changeVolume "0.4500",
    .finishWrite 0 (.exited true none none), .startWrite 0, .finishWrite 0 (.exited true none none),
    .finishRead 0 (.exited true (some "Volume: 0.43\n") none), .startRead 0,
    .finishRead 0 (.exited true (some "Volume: 0.45\n") none)]

def percent (text : String) : Option Nat :=
  if text = "0.43" then some 43 else if text = "0.45" then some 45 else none

theorem dragged_settles :
    (execute (step percent) ({ input := false } : Audio Nat) dragged).1.data = some (45, false) ∧
      ReadLast percent (execute (step percent) ({ input := false } : Audio Nat) dragged).2
        (execute (step percent) ({ input := false } : Audio Nat) dragged).1 := by
  have run : Run percent ((execute (step percent) ({ input := false } : Audio Nat) dragged).2 ++ [])
      (execute (step percent) ({ input := false } : Audio Nat) dragged).1 :=
    Transition.Run.execute dragged (.start ⟨false, rfl⟩) (Transition.permits_unrestricted _ _ _ _)
  rw [List.append_nil] at run
  have ended : .writeFinished ["wpctl", "set-volume", "@DEFAULT_AUDIO_SINK@", "0.4500"] (.ok "") ∈
      (execute (step percent) ({ input := false } : Audio Nat) dragged).2 := by decide +kernel
  obtain ⟨-, -, -, -, read⟩ := run_settles run
  exact ⟨by decide +kernel, read (by decide +kernel) (by decide +kernel) ⟨_, _, ended⟩⟩

end Luma.Shell.Audio
