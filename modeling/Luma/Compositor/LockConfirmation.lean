import Luma.Compositor.Locality

/-! When the locker is told that the session is locked.

Each output counts the frames that were queued under the current generation and
presented. A generation begins with the lock request that is accepted, so whatever
was queued before it carries an older one, and what is counted twice would have to
be in flight twice.
-/

set_option autoImplicit false

namespace Luma.Compositor

open Luma.Library Luma.Core

namespace AnvilState

/-- What was observed since the last accepted lock request. -/
def since (history : List Observation) : List Observation := history.takeWhile (· != .lockAccepted)

theorem since_append {observations history : List Observation} (quiet : .lockAccepted ∉ observations) :
    since (observations ++ history) = observations ++ since history := by
  apply List.takeWhile_append_of_pos
  intro observation seen
  simp only [bne_iff_ne]
  rintro rfl
  exact quiet seen

theorem since_lockAccepted (history : List Observation) : since (.lockAccepted :: history) = [] := by
  simp [since]

/-- A frame was queued for the output and presented there, both since the lock request. -/
def ShownSince (history : List Observation) (output frame : Nat) : Prop :=
  .frameQueued frame output ∈ since history ∧ .framePresented frame output ∈ since history

/-- As many frames as the output has counted were shown, and none of them is still to come. -/
def Shows (history : List Observation) (presentation : Presentation) (output count : Nat) : Prop :=
  ∃ frames : List Nat, frames.Nodup ∧ count ≤ frames.length ∧ ∀ frame ∈ frames, ShownSince history output frame ∧
    ∀ coming ∈ presentation.inFlight ++ presentation.idles, coming.id ≠ frame

structure Counted (history : List Observation) (state : AnvilState) : Prop where
  queued : ∀ frame output, .frameQueued frame output ∈ history → frame < state.presentation.nextFrame
  numbered : ∀ frame ∈ state.presentation.inFlight ++ state.presentation.idles,
    frame.id < state.presentation.nextFrame
  distinct : ((state.presentation.inFlight ++ state.presentation.idles).map (·.id)).Nodup
  locked : state.lock.locked = true → .lockAccepted ∈ history ∧ .unlocked ∉ since history
  coming : ∀ frame ∈ state.presentation.inFlight ++ state.presentation.idles, ∀ generation,
    frame.lockGeneration = some generation → generation ≤ state.lock.generation ∧
      (generation = state.lock.generation → .frameQueued frame.id frame.output ∈ since history)
  presented : ∀ frame ∈ state.presentation.idles, frame.lockGeneration = some state.lock.generation →
    .framePresented frame.id frame.output ∈ since history
  outputs : ∀ output ∈ state.space.outputs, ∀ data, output.lock = some data →
    data.generation ≤ state.lock.generation ∧ Shows history state.presentation output.serial data.presentations

variable {self after : AnvilState} {history observations : List Observation}

/-! ## Histories that grow -/

theorem Shows.mono {presentation later : Presentation} {output count : Nat} (shows : Shows history presentation output count)
    (quiet : .lockAccepted ∉ observations)
    (coming : ∀ frame ∈ later.inFlight ++ later.idles,
      frame ∈ presentation.inFlight ++ presentation.idles ∨ presentation.nextFrame ≤ frame.id)
    (known : ∀ frame output, .frameQueued frame output ∈ history → frame < presentation.nextFrame) :
    Shows (observations ++ history) later output count := by
  obtain ⟨frames, nodup, enough, shown⟩ := shows
  refine ⟨frames, nodup, enough, fun frame member => ?_⟩
  obtain ⟨⟨queued, presented⟩, fresh⟩ := shown frame member
  refine ⟨⟨?_, ?_⟩, fun next there => ?_⟩
  · rw [since_append quiet]
    exact List.mem_append_right _ queued
  · rw [since_append quiet]
    exact List.mem_append_right _ presented
  · rcases coming next there with old | new
    · exact fresh next old
    · have below := known frame output ((List.takeWhile_prefix _).subset queued)
      omega

theorem shows_zero (history : List Observation) (presentation : Presentation) (output : Nat) :
    Shows history presentation output 0 := ⟨[], .nil, Nat.le_refl _, nofun⟩

/-- A step that leaves the display alone and gives no output a presentation. -/
theorem Counted.quiet (counted : Counted history self) (lock : after.lock = self.lock)
    (presentation : after.presentation = self.presentation)
    (outputs : ∀ output ∈ after.space.outputs, ∀ data, output.lock = some data →
      data.generation ≤ self.lock.generation ∧ (data.presentations = 0 ∨
        ∃ earlier ∈ self.space.outputs, earlier.serial = output.serial ∧
          ∃ before, earlier.lock = some before ∧ before.presentations = data.presentations))
    (quiet : ∀ observation ∈ observations, lockObservation observation = false) :
    Counted (observations ++ history) after := by
  have unaccepted : .lockAccepted ∉ observations := fun seen => by cases quiet _ seen
  have grows : ∀ observation ∈ since history, observation ∈ since (observations ++ history) := by
    intro observation seen
    rw [since_append unaccepted]
    exact List.mem_append_right _ seen
  refine ⟨?_, ?_, ?_, ?_, ?_, ?_, ?_⟩
  · intro frame output seen
    rw [presentation]
    rcases List.mem_append.mp seen with new | old
    · cases quiet _ new
    · exact counted.queued frame output old
  · rw [presentation]
    exact counted.numbered
  · rw [presentation]
    exact counted.distinct
  · intro locked
    rw [lock] at locked
    obtain ⟨accepted, lasting⟩ := counted.locked locked
    refine ⟨List.mem_append_right _ accepted, ?_⟩
    rw [since_append unaccepted]
    intro seen
    rcases List.mem_append.mp seen with new | old
    · cases quiet _ new
    · exact lasting old
  · rw [presentation, lock]
    intro frame there generation under
    obtain ⟨bounded, queued⟩ := counted.coming frame there generation under
    exact ⟨bounded, fun same => grows _ (queued same)⟩
  · rw [presentation, lock]
    exact fun frame there under => grows _ (counted.presented frame there under)
  · intro output there data named
    rw [lock, presentation]
    obtain ⟨bounded, none | ⟨earlier, member, serial, before, known, same⟩⟩ := outputs output there data named
    · rw [none]
      exact ⟨bounded, shows_zero _ _ _⟩
    · refine ⟨bounded, ?_⟩
      rw [← serial, ← same]
      exact (counted.outputs earlier member before known).2.mono unaccepted (fun _ coming => .inl coming) counted.queued

theorem Apart.counted {result : AnvilState × List Observation} (counted : Counted history self)
    (apart : Apart self result) : Counted (result.2 ++ history) result.1 := by
  refine counted.quiet apart.lock apart.presentation ?_ apart.quiet
  rcases apart.outputs with same | locked
  · rw [same]
    intro output there data named
    exact ⟨(counted.outputs output there data named).1, .inr ⟨output, there, rfl, data, named, rfl⟩⟩
  · rw [locked]
    intro output there data named
    obtain ⟨earlier, member, rfl⟩ := List.mem_map.mp there
    unfold withLock at named ⊢
    split at named
    · rename_i isLocked
      rw [if_pos isLocked]
      rcases known : earlier.lock with - | before
      · rw [known] at named
        cases named
        exact ⟨Nat.le_refl _, .inl rfl⟩
      · rw [known] at named
        cases named
        exact ⟨(counted.outputs earlier member before known).1, .inr ⟨earlier, member, rfl, before, known, rfl⟩⟩
    · rename_i unlocked
      rw [if_neg unlocked]
      exact ⟨(counted.outputs earlier member data named).1, .inr ⟨earlier, member, rfl, data, named, rfl⟩⟩

/-! ## Locking and unlocking -/

theorem requestLock_counted (counted : Counted history self) (locker : Nat) :
    Counted ((self.requestLock locker).2 ++ history) (self.requestLock locker).1 := by
  unfold requestLock
  split
  · exact counted
  · refine ⟨?_, counted.numbered, counted.distinct, ?_, ?_, ?_, ?_⟩
    · intro frame output seen
      rcases List.mem_append.mp seen with new | old
      · cases List.mem_singleton.mp new
      · exact counted.queued frame output old
    · intro _
      refine ⟨List.mem_append_left _ (List.mem_singleton_self _), ?_⟩
      show .unlocked ∉ since (.lockAccepted :: history)
      rw [since_lockAccepted]
      exact List.not_mem_nil
    · -- What is in flight carries an older generation.
      intro frame there generation under
      have bounded := (counted.coming frame there generation under).1
      refine ⟨Nat.le_succ_of_le bounded, fun same => ?_⟩
      subst same
      exact absurd bounded (Nat.not_succ_le_self _)
    · intro frame there under
      have bounded := (counted.coming frame (List.mem_append_right _ there) _ under).1
      exact absurd bounded (Nat.not_succ_le_self _)
    · intro output there data named
      obtain ⟨earlier, _, rfl⟩ := List.mem_map.mp there
      cases named
      exact ⟨Nat.le_refl _, shows_zero _ _ _⟩

theorem unlock_counted (counted : Counted history self) : Counted (self.unlock.2 ++ history) self.unlock.1 := by
  have unaccepted : Observation.lockAccepted ∉ [Observation.unlocked] := by decide
  have grows : ∀ observation ∈ since history, observation ∈ since ([.unlocked] ++ history) := by
    intro observation seen
    rw [since_append unaccepted]
    exact List.mem_append_right _ seen
  refine ⟨?_, counted.numbered, counted.distinct, nofun, ?_, ?_, ?_⟩
  · intro frame output seen
    rcases List.mem_append.mp seen with new | old
    · cases List.mem_singleton.mp new
    · exact counted.queued frame output old
  · intro frame there generation under
    obtain ⟨bounded, queued⟩ := counted.coming frame there generation under
    exact ⟨bounded, fun same => grows _ (queued same)⟩
  · exact fun frame there under => grows _ (counted.presented frame there under)
  · intro output there data named
    obtain ⟨earlier, _, rfl⟩ := List.mem_map.mp there
    obtain ⟨_, _, rfl⟩ := Option.map_eq_some_iff.mp named
    exact ⟨Nat.zero_le _, shows_zero _ _ _⟩

theorem newLockSurface_counted (counted : Counted history self) (serial : Nat) :
    Counted history (self.newLockSurface serial) := by
  unfold newLockSurface
  split
  · exact counted
  · rw [← List.nil_append history]
    refine counted.quiet rfl rfl ?_ nofun
    intro output there data named
    obtain ⟨earlier, member, rfl⟩ := List.mem_map.mp there
    split at named
    · rename_i chosen
      rw [if_pos chosen]
      cases named
      refine ⟨Nat.le_refl _, ?_⟩
      rcases known : earlier.lock with - | before
      · exact .inl rfl
      · exact .inr ⟨earlier, member, rfl, before, known, rfl⟩
    · rename_i other
      rw [if_neg other]
      exact ⟨(counted.outputs earlier member data named).1, .inr ⟨earlier, member, rfl, data, named, rfl⟩⟩

/-! ## Frames -/

theorem queueFrame_counted (counted : Counted history self) (serial : Nat) :
    Counted ((self.queueFrame serial).2 ++ history) (self.queueFrame serial).1 := by
  unfold queueFrame
  rcases found : self.findOutput serial with - | output
  · exact counted
  · dsimp only
    set frame : PresentedFrame := {
      id := self.presentation.nextFrame, output := serial,
      lockGeneration := (output.lock.filter (·.locked)).map (·.generation) } with framed
    have unaccepted : Observation.lockAccepted ∉ [Observation.frameQueued frame.id serial] := by simp
    have grows : ∀ observation ∈ since history, observation ∈ since ([.frameQueued frame.id serial] ++ history) := by
      intro observation seen
      rw [since_append unaccepted]
      exact List.mem_append_right _ seen
    have split : ∀ {next}, next ∈ self.presentation.inFlight ++ [frame] ++ self.presentation.idles →
        next ∈ self.presentation.inFlight ++ self.presentation.idles ∨ next = frame := by
      intro next there
      simp only [List.mem_append, List.mem_singleton] at there ⊢
      tauto
    refine ⟨?_, ?_, ?_, ?_, ?_, ?_, ?_⟩
    · intro next target seen
      rcases List.mem_append.mp seen with new | old
      · obtain ⟨rfl, -⟩ := Observation.frameQueued.inj (List.mem_singleton.mp new)
        exact Nat.lt_succ_self _
      · exact Nat.lt_succ_of_lt (counted.queued next target old)
    · intro next there
      rcases split there with old | rfl
      · exact Nat.lt_succ_of_lt (counted.numbered next old)
      · exact Nat.lt_succ_self _
    · have perm : (self.presentation.inFlight ++ [frame] ++ self.presentation.idles).Perm
          (frame :: (self.presentation.inFlight ++ self.presentation.idles)) := by
        rw [List.append_assoc]
        exact List.perm_middle
      refine (perm.map (·.id)).nodup_iff.mpr (List.nodup_cons.mpr ⟨?_, counted.distinct⟩)
      intro known
      obtain ⟨next, there, same⟩ := List.mem_map.mp known
      exact absurd (counted.numbered next there) (by rw [same]; exact Nat.lt_irrefl _)
    · intro locked
      obtain ⟨accepted, lasting⟩ := counted.locked locked
      refine ⟨List.mem_append_right _ accepted, ?_⟩
      rw [since_append unaccepted]
      simpa using lasting
    · intro next there generation under
      rcases split there with old | rfl
      · obtain ⟨bounded, queued⟩ := counted.coming next old generation under
        exact ⟨bounded, fun same => grows _ (queued same)⟩
      · refine ⟨?_, fun _ => ?_⟩
        · obtain ⟨data, filtered, rfl⟩ := Option.map_eq_some_iff.mp under
          have known := Option.eq_some_of_filter_eq_some filtered
          exact (counted.outputs output (List.mem_of_find?_eq_some found) data known).1
        · rw [since_append unaccepted]
          exact List.mem_append_left _ (List.mem_singleton_self _)
    · exact fun next there under => grows _ (counted.presented next there under)
    · intro target there data named
      obtain ⟨bounded, shows⟩ := counted.outputs target there data named
      refine ⟨bounded, shows.mono unaccepted ?_ counted.queued⟩
      intro next coming
      rcases split coming with old | rfl
      · exact .inl old
      · exact .inr (Nat.le_refl _)

/-- Frames leave the display, and one may begin to wait for its idle call. -/
theorem Counted.leave (counted : Counted history self) {presentation : Presentation}
    (observed : .lockAccepted ∉ observations) (unqueued : ∀ frame output, .frameQueued frame output ∉ observations)
    (lasting : .unlocked ∉ observations)
    (next : presentation.nextFrame = self.presentation.nextFrame)
    (fewer : ∀ frame ∈ presentation.inFlight ++ presentation.idles,
      frame ∈ self.presentation.inFlight ++ self.presentation.idles)
    (distinct : ((presentation.inFlight ++ presentation.idles).map (·.id)).Nodup)
    (idles : ∀ frame ∈ presentation.idles, frame ∈ self.presentation.idles ∨
      .framePresented frame.id frame.output ∈ observations) :
    Counted (observations ++ history) (self.setPresentation presentation) := by
  have grows : ∀ observation ∈ since history, observation ∈ since (observations ++ history) := by
    intro observation seen
    rw [since_append observed]
    exact List.mem_append_right _ seen
  refine ⟨?_, ?_, ?_, ?_, ?_, ?_, ?_⟩
  · intro frame output seen
    show frame < presentation.nextFrame
    rw [next]
    rcases List.mem_append.mp seen with new | old
    · exact absurd new (unqueued frame output)
    · exact counted.queued frame output old
  · intro frame there
    show frame.id < presentation.nextFrame
    rw [next]
    exact counted.numbered frame (fewer frame there)
  · exact distinct
  · intro locked
    obtain ⟨accepted, last⟩ := counted.locked locked
    refine ⟨List.mem_append_right _ accepted, ?_⟩
    rw [since_append observed]
    intro seen
    rcases List.mem_append.mp seen with new | old
    · exact lasting new
    · exact last old
  · intro frame there generation under
    obtain ⟨bounded, queued⟩ := counted.coming frame (fewer frame there) generation under
    exact ⟨bounded, fun same => grows _ (queued same)⟩
  · intro frame there under
    rcases idles frame there with old | new
    · exact grows _ (counted.presented frame old under)
    · rw [since_append observed]
      exact List.mem_append_left _ new
  · intro output there data named
    obtain ⟨bounded, shows⟩ := counted.outputs output there data named
    exact ⟨bounded, shows.mono observed (fun frame coming => .inl (fewer frame coming)) counted.queued⟩

theorem dropFrame_counted (counted : Counted history self) (frame : Nat) : Counted history (self.dropFrame frame) := by
  have kept : (self.presentation.inFlight.filter (·.id != frame) ++ self.presentation.idles).Sublist
      (self.presentation.inFlight ++ self.presentation.idles) := List.filter_sublist.append_right _
  rw [← List.nil_append history]
  exact counted.leave List.not_mem_nil (fun _ _ => List.not_mem_nil) List.not_mem_nil rfl
    (fun _ there => kept.subset there) (counted.distinct.sublist (kept.map _)) fun _ there => .inl there

/-- A frame that is reported moves from the display to the idle calls, or is gone. -/
theorem frameFinish_counted (counted : Counted history self) (frame : Nat) :
    Counted ((self.frameFinish frame).2 ++ history) (self.frameFinish frame).1 := by
  unfold frameFinish
  split
  · exact counted
  · rename_i shown found
    split
    · exact counted
    · have named : shown.id = frame := by simpa using List.find?_some found
      have member : shown ∈ self.presentation.inFlight := List.mem_of_find?_eq_some found
      have subset : ∀ other ∈ self.presentation.inFlight.filter (·.id != frame) ++ self.presentation.idles,
          other ∈ self.presentation.inFlight ++ self.presentation.idles :=
        fun _ there => (List.filter_sublist.append_right _).subset there
      have nodup : ((self.presentation.inFlight.filter (·.id != frame) ++ self.presentation.idles).map (·.id)).Nodup :=
        counted.distinct.sublist ((List.filter_sublist.append_right _).map _)
      have fresh : ∀ other ∈ self.presentation.inFlight.filter (·.id != frame) ++ self.presentation.idles,
          other.id ≠ shown.id := by
        intro other there
        rcases List.mem_append.mp there with flying | idle
        · rw [named]
          simpa using (List.mem_filter.mp flying).2
        · have apart := counted.distinct
          rw [List.map_append, List.nodup_append] at apart
          exact (apart.2.2 _ (List.mem_map_of_mem member) _ (List.mem_map_of_mem idle)).symm
      dsimp only
      split
      · refine counted.leave (by simp) (by simp) (by simp) rfl ?_ ?_ ?_
        · intro other there
          rw [← List.append_assoc] at there
          rcases List.mem_append.mp there with old | new
          · exact subset other old
          · exact List.mem_append_left _ (List.mem_singleton.mp new ▸ member)
        · show ((_ ++ (_ ++ [shown])).map _).Nodup
          rw [← List.append_assoc, List.map_append, List.nodup_append]
          refine ⟨nodup, by simp, ?_⟩
          intro id known other same
          obtain ⟨earlier, there, rfl⟩ := List.mem_map.mp known
          rw [List.map_singleton, List.mem_singleton] at same
          rw [same]
          exact fresh earlier there
        · intro other there
          rcases List.mem_append.mp there with old | new
          · exact .inl old
          · rw [List.mem_singleton.mp new]
            exact .inr (List.mem_singleton_self _)
      · exact counted.leave (by simp) (by simp) (by simp) rfl subset nodup fun _ there => .inl there

/-! ## Idle calls -/

/-- One more frame was shown on the outputs that count it. -/
theorem countPresented_counted (counted : Counted history self) {frame : PresentedFrame} {idles : List PresentedFrame}
    (waits : self.presentation.idles = frame :: idles)
    (under : frame.lockGeneration = some self.lock.generation) :
    Counted history ((self.setPresentation { self.presentation with idles }).countPresented frame self.lock.generation) := by
  have here : frame ∈ self.presentation.inFlight ++ self.presentation.idles := by simp [waits]
  have shown : ShownSince history frame.output frame.id :=
    ⟨(counted.coming frame here _ under).2 rfl, counted.presented frame (by simp [waits]) under⟩
  set taken := self.setPresentation { self.presentation with idles }
  have left : Counted history taken := by
    rw [← List.nil_append history]
    have kept : (self.presentation.inFlight ++ idles).Sublist
        (self.presentation.inFlight ++ self.presentation.idles) := by
      rw [waits]
      exact (List.sublist_cons_self _ _).append_left _
    exact counted.leave List.not_mem_nil (fun _ _ => List.not_mem_nil) List.not_mem_nil rfl
      (fun _ there => kept.subset there) (counted.distinct.sublist (kept.map _))
      fun _ there => .inl (waits ▸ List.mem_cons_of_mem _ there)
  have fresh : ∀ other ∈ self.presentation.inFlight ++ idles, other.id ≠ frame.id := by
    have distinct := counted.distinct
    rw [waits] at distinct
    have front : (self.presentation.inFlight ++ frame :: idles).Perm (frame :: (self.presentation.inFlight ++ idles)) :=
      List.perm_middle
    have apart := (front.map (·.id)).nodup_iff.mp distinct
    intro other there same
    exact (List.nodup_cons.mp apart).1 (List.mem_map.mpr ⟨other, there, same⟩)
  rw [(countPresented_rest taken frame self.lock.generation).1]
  refine ⟨left.queued, left.numbered, left.distinct, left.locked, left.coming, left.presented, ?_⟩
  intro output there data named
  obtain ⟨earlier, member, rfl⟩ := List.mem_map.mp there
  split at named
  · rename_i chosen
    rw [if_pos chosen]
    obtain ⟨before, known, rfl⟩ := Option.map_eq_some_iff.mp named
    unfold LockOutput.recordPresented
    split
    · exact left.outputs earlier member before known
    · obtain ⟨bounded, frames, nodup, enough, each⟩ := counted.outputs earlier member before known
      refine ⟨bounded, frame.id :: frames, ?_, ?_, ?_⟩
      · -- The frame was still waiting, none of the counted ones was.
        exact List.nodup_cons.mpr ⟨fun again => (each frame.id again).2 frame here rfl, nodup⟩
      · simp only [List.length_cons]
        omega
      · intro other member
        rcases List.mem_cons.mp member with rfl | older
        · have serial : earlier.serial = frame.output := by simpa using chosen
          exact ⟨serial ▸ shown, fresh⟩
        · obtain ⟨showed, gone⟩ := each other older
          refine ⟨showed, fun coming there => gone coming ?_⟩
          rw [waits]
          exact ((List.sublist_cons_self _ _).append_left _).subset there
  · rename_i other
    rw [if_neg other]
    exact left.outputs earlier member data named

theorem taken_counted (counted : Counted history self) {frame : PresentedFrame} {idles : List PresentedFrame}
    (waits : self.presentation.idles = frame :: idles) :
    Counted history (self.setPresentation { self.presentation with idles }) := by
  have kept : (self.presentation.inFlight ++ idles).Sublist (self.presentation.inFlight ++ self.presentation.idles) := by
    rw [waits]
    exact (List.sublist_cons_self _ _).append_left _
  rw [← List.nil_append history]
  exact counted.leave List.not_mem_nil (fun _ _ => List.not_mem_nil) List.not_mem_nil rfl
    (fun _ there => kept.subset there) (counted.distinct.sublist (kept.map _))
    fun _ there => .inl (waits ▸ List.mem_cons_of_mem _ there)

/-- The confirmation itself changes nothing that is counted. -/
theorem confirmed_counted (counted : Counted history self) (confirmation : Option Nat) :
    Counted (.locked :: history) (self.setLock { self.lock with confirmation }) := by
  have same : Counted ([.locked] ++ history) (self.setPresentation self.presentation) :=
    counted.leave (by simp) (by simp) (by simp) rfl (fun _ there => there) counted.distinct fun _ there => .inl there
  exact ⟨same.queued, same.numbered, same.distinct, same.locked, same.coming, same.presented, same.outputs⟩

theorem runIdle_counted (counted : Counted history self) : Counted (self.runIdle.2 ++ history) self.runIdle.1 := by
  rcases runIdle_cases self with ⟨-, nothing⟩ | ⟨frame, idles, waits, ⟨-, taken⟩ | ⟨generation, under, presented⟩⟩
  · rw [nothing]
    exact counted
  · rw [taken]
    exact taken_counted counted waits
  · rw [presented]
    rcases lockPresented_cases (self.setPresentation { self.presentation with idles }) frame generation with
      nothing | ⟨-, rfl, counts | ⟨-, confirms⟩⟩
    · rw [nothing]
      exact taken_counted counted waits
    · rw [counts]
      exact countPresented_counted counted waits under
    · have more := countPresented_counted counted waits under
      have rest := (countPresented_rest (self.setPresentation { self.presentation with idles }) frame
        self.lock.generation).1
      have lock : ((self.setPresentation { self.presentation with idles }).countPresented frame
          self.lock.generation).lock = self.lock := by
        rw [rest]
        rfl
      rw [confirms]
      have confirmed := confirmed_counted more none
      rw [lock] at confirmed
      exact confirmed

/-! ## Runs -/

theorem outputs_counted (counted : Counted history self) {outputs : List Output}
    (known : ∀ output ∈ outputs, ∀ data, output.lock = some data → data.generation ≤ self.lock.generation ∧
      (data.presentations = 0 ∨ ∃ earlier ∈ self.space.outputs, earlier.serial = output.serial ∧
        ∃ before, earlier.lock = some before ∧ before.presentations = data.presentations)) :
    Counted history (self.setOutputs outputs) := by
  rw [← List.nil_append history]
  exact counted.quiet rfl rfl known nofun

theorem connectOutput_counted (counted : Counted history self) (name : String) (mode : Option (Int × Int))
    (geometry : Option Rect) : Counted history (self.connectOutput name mode geometry) := by
  unfold connectOutput
  split
  · exact counted
  · have more : Counted history (self.setOutputs (self.space.outputs ++
        [{ serial := self.nextSerial, name, mode, geometry, lock := self.connectedLock }])) := by
      apply outputs_counted counted
      intro output there data named
      rcases List.mem_append.mp there with old | new
      · exact ⟨(counted.outputs output old data named).1, .inr ⟨output, old, rfl, data, named, rfl⟩⟩
      · rw [List.mem_singleton.mp new] at named
        change self.connectedLock = some data at named
        unfold connectedLock at named
        split at named
        · cases named
          exact ⟨Nat.le_refl _, .inl rfl⟩
        · cases named
    exact ⟨more.queued, more.numbered, more.distinct, more.locked, more.coming, more.presented, more.outputs⟩

theorem handle_counted (event : Event) (counted : Counted history self) :
    Counted ((self.handle event).2 ++ history) (self.handle event).1 := by
  cases event with
  | lock locker => exact requestLock_counted counted locker
  | unlock => exact unlock_counted counted
  | lockSurface output => exact newLockSurface_counted counted output
  | queueFrame output => exact queueFrame_counted counted output
  | dropFrame frame => exact dropFrame_counted counted frame
  | frameFinish frame => exact frameFinish_counted counted frame
  | idle => exact runIdle_counted counted
  | connectOutput name mode geometry => exact connectOutput_counted counted name mode geometry
  | disconnectOutput name =>
    apply outputs_counted counted
    intro output there data named
    have member := List.mem_of_mem_filter there
    exact ⟨(counted.outputs output member data named).1, .inr ⟨output, member, rfl, data, named, rfl⟩⟩
  | changeOutput name mode geometry =>
    apply outputs_counted counted
    intro output there data named
    obtain ⟨earlier, member, rfl⟩ := List.mem_map.mp there
    have lock : earlier.lock = some data := by
      rw [← named]
      split <;> rfl
    have serial : earlier.serial = (if earlier.name == name then { earlier with mode, geometry } else earlier).serial := by
      split <;> rfl
    exact ⟨(counted.outputs earlier member data lock).1, .inr ⟨earlier, member, serial, data, lock, rfl⟩⟩
  | _ => exact (handle_apart rfl).counted counted

theorem initial_counted (loaded : Except String Config) : Counted [] (initial loaded) where
  queued := nofun
  numbered _ there := absurd there List.not_mem_nil
  distinct := .nil
  locked := nofun
  coming _ there := absurd there List.not_mem_nil
  presented _ there := absurd there List.not_mem_nil
  outputs _ there := absurd there List.not_mem_nil

theorem Execution.counted {allowed : Transition.Condition AnvilState Event Observation}
    (run : Execution allowed history self) : Counted history self :=
  Execution.invariant Counted initial_counted (fun _ _ event _ _ counted => handle_counted event counted) run

/-- The locker is answered by an idle call that finds every output ready. -/
theorem locked_observed {event : Event} (seen : .locked ∈ (self.handle event).2) :
    ∃ frame idles, self.presentation.idles = frame :: idles ∧
      frame.lockGeneration = some self.lock.generation ∧ self.lock.locked = true ∧
      ((self.setPresentation { self.presentation with idles }).countPresented frame
        self.lock.generation).allReady self.lock.generation = true := by
  cases event with
  | idle =>
    change Observation.locked ∈ self.runIdle.2 at seen
    rcases runIdle_cases self with ⟨-, nothing⟩ | ⟨frame, idles, waits, ⟨-, taken⟩ | ⟨generation, under, presented⟩⟩
    · rw [nothing] at seen
      cases seen
    · rw [taken] at seen
      cases seen
    · rw [presented] at seen
      rcases lockPresented_cases (self.setPresentation { self.presentation with idles }) frame generation with
        nothing | ⟨locked, rfl, counts | ⟨ready, -⟩⟩
      · rw [nothing] at seen
        cases seen
      · rw [counts] at seen
        cases seen
      · exact ⟨frame, idles, waits, under, locked, ready⟩
  | lock locker =>
    change Observation.locked ∈ (self.requestLock locker).2 at seen
    unfold requestLock at seen
    split at seen <;> simp at seen
  | unlock => simp [handle, unlock] at seen
  | queueFrame output =>
    change Observation.locked ∈ (self.queueFrame output).2 at seen
    unfold queueFrame at seen
    split at seen <;> simp at seen
  | frameFinish frame =>
    change Observation.locked ∈ (self.frameFinish frame).2 at seen
    unfold frameFinish at seen
    split at seen
    · cases seen
    · split at seen <;> simp at seen
  | lockSurface | dropFrame | connectOutput | disconnectOutput | changeOutput => cases seen
  | _ => cases (handle_apart rfl).quiet _ seen

theorem mem_countPresented (frame : PresentedFrame) (generation : Nat) {output : Output}
    (there : output ∈ self.space.outputs) :
    ∃ later ∈ (self.countPresented frame generation).space.outputs, later.serial = output.serial := by
  rw [(countPresented_rest self frame generation).1]
  refine ⟨_, List.mem_map_of_mem there, ?_⟩
  split <;> rfl

/-- In every run: when `locked` is sent, the lock request was accepted and not undone, and
every output has presented two frames that were queued since then. -/
theorem locked_confirmed (run : Execution Transition.unrestricted history self) {event : Event}
    (seen : .locked ∈ (step self event).2) :
    .lockAccepted ∈ history ∧ .unlocked ∉ since history ∧ ∀ output ∈ self.space.outputs,
      ∃ first second, first ≠ second ∧ ShownSince history output.serial first ∧
        ShownSince history output.serial second := by
  have counted := run.counted
  have handled : .locked ∈ (self.handle event).2 := by
    rcases step_cases self event with nothing | handled
    · rw [nothing] at seen
      cases seen
    · rw [handled] at seen
      exact seen
  obtain ⟨frame, idles, waits, under, locked, ready⟩ := locked_observed handled
  refine ⟨(counted.locked locked).1, (counted.locked locked).2, fun output there => ?_⟩
  have more := countPresented_counted counted waits under
  have still : output ∈ (self.setPresentation { self.presentation with idles }).space.outputs := there
  obtain ⟨later, member, serial⟩ := mem_countPresented frame self.lock.generation still
  obtain ⟨data, known, enough⟩ := (Option.any_eq_true _ _).mp (List.all_eq_true.mp ready later member)
  simp only [LockOutput.ready, Bool.and_eq_true, decide_eq_true_eq] at enough
  obtain ⟨-, frames, nodup, length, each⟩ := more.outputs later member data known
  rw [serial] at each
  match frames, nodup, length, each with
  | [], _, length, _ | [_], _, length, _ =>
    have few := Nat.le_trans enough.2 length
    simp at few
  | first :: second :: rest, nodup, _, each =>
    refine ⟨first, second, ?_, (each first (by simp)).1, (each second (by simp)).1⟩
    rintro rfl
    simp at nodup

/-- A session is locked and its one output presents two frames. -/
def presentedTwice : List Event := [
  .connectOutput "DP-1" (some (1920, 1080)) (some ⟨0, 0, 1920, 1080⟩),
  .lock 1,
  .queueFrame 0,
  .frameFinish 0,
  .idle,
  .queueFrame 0,
  .frameFinish 1]

def confirmingRun : AnvilState × List Observation :=
  Transition.execute step (initial (.error "no configuration")) presentedTwice

theorem confirmingRun_reached : Execution Transition.unrestricted (confirmingRun.2 ++ []) confirmingRun.1 :=
  Transition.Run.execute presentedTwice (.start ⟨_, rfl⟩) (Transition.permits_unrestricted _ _ _ _)

theorem locked_confirmed_presentedTwice :
    .locked ∈ (step confirmingRun.1 .idle).2 ∧ .lockAccepted ∈ confirmingRun.2 ++ [] := by
  have seen : .locked ∈ (step confirmingRun.1 .idle).2 := by decide
  exact ⟨seen, (locked_confirmed confirmingRun_reached seen).1⟩

end AnvilState

end Luma.Compositor
