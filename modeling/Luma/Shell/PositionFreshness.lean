import Luma.Shell.MediaPosition

/-! What a media position shows.

A read in flight is current as long as the revision is the one it was requested under. The current
read adopts its answer, any other does not. While the widget is mapped and the name has an owner,
a read is in flight or to follow unless the last anchor will do.
-/

set_option autoImplicit false

namespace Luma.Shell

open Luma.Library

/-! ## Histories -/

/-- The read was requested, and none of these was observed since. -/
def Since (unwanted : PositionObservation → Prop) (number : Nat) : List PositionObservation → Prop
  | [] => False
  | observation :: earlier => observation = .readRequested number ∨ ¬unwanted observation ∧ Since unwanted number earlier

/-- A position that was asked for before may be another one now. -/
def Disturbs : PositionObservation → Prop
  | .propertiesChanged | .ownerChanged | .unmapped | .seekRequested _ _ | .anchored (.seeked _) => True
  | _ => False

/-- A position is to be read after it. -/
def Outdates : PositionObservation → Prop
  | .propertiesChanged | .seekAnswered => True
  | _ => False

def lastAnchor : List PositionObservation → Option Anchor
  | [] => none
  | .anchored anchor :: _ => some anchor
  | _ :: earlier => lastAnchor earlier

/-- The last anchor comes from a `Seeked` signal. -/
def Told (history : List PositionObservation) : Prop := ∃ position, lastAnchor history = some (.seeked position)

/-- The last anchor is the player's word, or the read that was due has failed. -/
def Fresh (history : List PositionObservation) : Prop :=
  Told history ∨ ∃ number, Since Outdates number history ∧
    (.readAnswered number none ∈ history ∨ ∃ position, lastAnchor history = some (.read number position))

/-- Reads have different numbers, and only an undisturbed one is adopted. -/
def Proper : PositionObservation → List PositionObservation → Prop
  | .anchored (.read number position), earlier =>
    .readAnswered number (some position) ∈ earlier ∧ Since Disturbs number earlier
  | .readRequested number, earlier => .readRequested number ∉ earlier
  | _, _ => True

/-! ## Reads in flight -/

namespace Position

variable {self : Position} {history observed : List PositionObservation}

structure Orderly (history : List PositionObservation) (position : Position) : Prop where
  proper : Transition.Throughout Proper history
  reading : position.reading = true ∧ (∃ call, position.reads = [call]) ∨ position.reading = false ∧ position.reads = []
  seeking : position.pending = true ∧ (∃ asked, position.seeks = [asked]) ∨ position.pending = false ∧ position.seeks = []
  numbered : ∀ number, .readRequested number ∈ history → number < position.nextRead
  issued : ∀ call ∈ position.reads, call.revision ≤ position.revision
  current : ∀ call ∈ position.reads, call.revision = position.revision → position.mapped = true ∧
    position.owner.isSome = true ∧ position.owner = call.owner ∧ Since Disturbs call.number history

/-- Once its answer is there the position is the one to show, or there is more to come. -/
def Due (history : List PositionObservation) (position : Position) (call : ReadCall) : Prop :=
  position.reread = true ∨ position.pending = true ∨
  call.revision = position.revision ∧ Since Outdates call.number history ∨
  call.revision < position.revision ∧ Told history

structure Wanted (history : List PositionObservation) (position : Position) : Prop where
  due : position.mapped = true → position.owner.isSome = true → ∀ call ∈ position.reads, Due history position call
  fresh : position.mapped = true → position.owner.isSome = true → position.reads = [] →
    position.pending = true ∨ Fresh history

namespace Orderly

/-- What a change under which no read is current leaves. -/
theorem move (orderly : Orderly history self) {properties : Properties} {owner : Option String} {mapped timer : Bool}
    {sensitive : Bool} {tooltip : String} {track : Option (String × Int)} {base : Anchor} {revision : Nat}
    {pending : Bool} {seeks : List (Option String)} (proper : ∀ observation ∈ observed, ∀ before, Proper observation before)
    (unnumbered : ∀ number, .readRequested number ∉ observed) (later : self.revision ≤ revision)
    (stale : ∀ call ∈ self.reads, call.revision ≠ revision)
    (seeking : pending = true ∧ (∃ asked, seeks = [asked]) ∨ pending = false ∧ seeks = []) :
    Orderly (observed ++ history) { self with
      properties, owner, mapped, timer, sensitive, tooltip, track, base, revision, pending, seeks } where
  proper := orderly.proper.append proper
  reading := orderly.reading
  seeking := seeking
  numbered := by
    intro number there
    rcases List.mem_append.mp there with new | old
    · exact absurd new (unnumbered number)
    · exact orderly.numbered number old
  issued := by
    intro call there
    exact Nat.le_trans (orderly.issued call there) later
  current := by
    intro call there same
    exact absurd same (stale call there)

theorem outrun (orderly : Orderly history self) : ∀ call ∈ self.reads, call.revision ≠ self.revision + 1 := by
  intro call there
  have issued := orderly.issued call there
  omega

theorem away (orderly : Orderly history self) (unmapped : self.mapped = false) :
    ∀ call ∈ self.reads, call.revision ≠ self.revision := by
  intro call there same
  obtain ⟨mapped, -⟩ := orderly.current call there same
  exact absurd (unmapped.symm.trans mapped) (by decide)

theorem read (orderly : Orderly history self) : Orderly (self.read.2 ++ history) self.read.1 := by
  unfold Position.read
  split
  · exact orderly
  · rename_i here
    simp only [Bool.or_eq_true, Bool.not_eq_true', not_or, Bool.not_eq_false, Option.isNone_iff_eq_none] at here
    split
    · exact { orderly with
        proper := orderly.proper
        reading := orderly.reading
        seeking := orderly.seeking
        numbered := orderly.numbered
        issued := orderly.issued
        current := orderly.current }
    · rename_i idle
      have none : self.reads = [] := by
        rcases orderly.reading with ⟨reading, -⟩ | ⟨-, none⟩
        · exact absurd reading idle
        · exact none
      have unused : .readRequested self.nextRead ∉ history := by
        intro there
        exact absurd (orderly.numbered _ there) (Nat.lt_irrefl _)
      exact {
        proper := ⟨unused, orderly.proper⟩
        reading := .inl ⟨rfl, _, by rw [none]; rfl⟩
        seeking := orderly.seeking
        numbered := by
          intro number there
          rcases List.mem_cons.mp there with new | old
          · cases new
            exact Nat.lt_succ_self _
          · exact Nat.lt_succ_of_lt (orderly.numbered number old)
        issued := by simp [none]
        current := by
          intro call there same
          have only : call = ⟨self.nextRead, self.revision, self.owner⟩ := by simpa [none] using there
          subst only
          exact ⟨here.1, Option.isSome_iff_ne_none.mpr here.2, rfl, .inl rfl⟩ }

end Orderly

/-- After `read` nothing is missing. -/
theorem read_wanted (orderly : Orderly history self) : Wanted (self.read.2 ++ history) self.read.1 := by
  unfold Position.read
  split
  · rename_i away
    simp only [Bool.or_eq_true, Bool.not_eq_true', Option.isNone_iff_eq_none] at away
    constructor
    · intro mapped owned
      rcases away with unmapped | unowned
      · exact absurd (unmapped.symm.trans mapped) (by decide)
      · rw [unowned] at owned
        cases owned
    · intro mapped owned
      rcases away with unmapped | unowned
      · exact absurd (unmapped.symm.trans mapped) (by decide)
      · rw [unowned] at owned
        cases owned
  · split
    · rename_i reading
      constructor
      · intro _ _ _ _
        exact .inl rfl
      · intro _ _ none
        rcases orderly.reading with ⟨-, call, some⟩ | ⟨idle, -⟩
        · exact absurd (some.symm.trans none) (by simp)
        · exact absurd (idle.symm.trans reading) (by decide)
    · rename_i idle
      have none : self.reads = [] := by
        rcases orderly.reading with ⟨reading, -⟩ | ⟨-, none⟩
        · exact absurd reading idle
        · exact none
      constructor
      · intro _ _
        simp only [none, List.nil_append, List.mem_singleton, forall_eq]
        exact .inr (.inr (.inl ⟨rfl, .inl rfl⟩))
      · intro _ _ requested
        simp [none] at requested

structure Consistent (history : List PositionObservation) (position : Position) : Prop where
  orderly : Orderly history position
  wanted : Wanted history position

/-- The look of the scale does not matter. -/
theorem render_consistent (consistent : Consistent history self) : Consistent history self.render where
  orderly := { consistent.orderly with
    proper := consistent.orderly.proper
    reading := consistent.orderly.reading
    seeking := consistent.orderly.seeking
    numbered := consistent.orderly.numbered
    issued := consistent.orderly.issued
    current := consistent.orderly.current }
  wanted := ⟨consistent.wanted.due, consistent.wanted.fresh⟩

theorem timer_consistent (consistent : Consistent history self) (timer : Bool) :
    Consistent history { self with timer } where
  orderly := { consistent.orderly with
    proper := consistent.orderly.proper
    reading := consistent.orderly.reading
    seeking := consistent.orderly.seeking
    numbered := consistent.orderly.numbered
    issued := consistent.orderly.issued
    current := consistent.orderly.current }
  wanted := ⟨consistent.wanted.due, consistent.wanted.fresh⟩

/-- Whatever was read before, a read follows. -/
theorem read_consistent (orderly : Orderly history self) : Consistent (self.read.2 ++ history) self.read.1 :=
  ⟨orderly.read, read_wanted orderly⟩

/-- A widget that shows nobody's position wants nothing. -/
theorem away_wanted (away : self.mapped = true → self.owner.isSome = true → False) : Wanted history self := by
  constructor
  · intro mapped owned
    exact (away mapped owned).elim
  · intro mapped owned
    exact (away mapped owned).elim

/-! ## Steps -/

theorem propertiesChanged_consistent (orderly : Orderly history self) (owner : Option String)
    (seen : List PositionObservation) (proper : ∀ observation ∈ seen, ∀ before, Proper observation before)
    (unnumbered : ∀ number, .readRequested number ∉ seen) (properties : Properties) :
    Consistent ((({ self with owner } : Position).propertiesChanged properties).2 ++ seen ++ history)
      (({ self with owner } : Position).propertiesChanged properties).1 := by
  have moved : Orderly (([.anchored (.refreshed (self.track != properties.track)), .propertiesChanged] ++ seen) ++ history)
      (({ self with owner, properties } : Position).refresh).1 := by
    apply orderly.move
    · simpa [Proper] using proper
    · simpa using unnumbered
    · exact Nat.le_succ _
    · exact orderly.outrun
    · exact orderly.seeking
  have read := read_consistent moved
  simpa [Position.propertiesChanged, Position.refresh, Position.anchor] using read

theorem seeked_consistent (orderly : Orderly history self) (position : Int) :
    Consistent (.anchored (.seeked position) :: history) (self.anchor (.seeked position)).1.render := by
  have moved : Orderly ([.anchored (.seeked position)] ++ history) (self.anchor (.seeked position)).1 := by
    apply orderly.move
    · simp [Proper]
    · simp
    · exact Nat.le_succ _
    · exact orderly.outrun
    · exact orderly.seeking
  have told : Told (.anchored (.seeked position) :: history) := ⟨position, rfl⟩
  apply render_consistent
  refine ⟨moved, ?_, ?_⟩
  · intro _ _ call there
    exact .inr (.inr (.inr ⟨Nat.lt_succ_of_le (orderly.issued call there), told⟩))
  · intro _ _ _
    exact .inr (.inl told)

theorem map_consistent (orderly : Orderly history self) (unmapped : self.mapped = false) :
    Consistent (({ self with mapped := true } : Position).read.2 ++ history)
      { ({ self with mapped := true } : Position).read.1 with timer := true } := by
  have moved : Orderly ([] ++ history) { self with mapped := true } := by
    apply orderly.move
    · simp
    · simp
    · exact Nat.le_refl _
    · exact orderly.away unmapped
    · exact orderly.seeking
  exact timer_consistent (read_consistent moved) true

theorem unmap_consistent (orderly : Orderly history self) :
    Consistent (.unmapped :: history) { self with mapped := false, timer := false, revision := self.revision + 1 } := by
  have moved : Orderly ([.unmapped] ++ history)
      { self with mapped := false, timer := false, revision := self.revision + 1 } := by
    apply orderly.move
    · simp [Proper]
    · simp
    · exact Nat.le_succ _
    · exact orderly.outrun
    · exact orderly.seeking
  exact ⟨moved, away_wanted (by simp)⟩

theorem seek_consistent (consistent : Consistent history self) (value : Option Int) :
    Consistent ((self.seek value).2 ++ history) (self.seek value).1 := by
  have orderly := consistent.orderly
  unfold Position.seek
  split
  · rename_i value track length _
    split
    · exact consistent
    · rename_i idle
      simp only [Bool.or_eq_true, Bool.not_eq_true', not_or, Bool.not_eq_true] at idle
      have none : self.seeks = [] := by
        rcases orderly.seeking with ⟨pending, -⟩ | ⟨-, none⟩
        · exact absurd (idle.2.symm.trans pending) (by decide)
        · exact none
      have moved : Orderly ([.seekRequested track (max 0 (min value length))] ++ history) { self with
          pending := true
          revision := self.revision + 1
          tooltip := "Track position"
          seeks := self.seeks ++ [self.owner] } := by
        apply orderly.move
        · simp [Proper]
        · simp
        · exact Nat.le_succ _
        · exact orderly.outrun
        · exact .inl ⟨rfl, self.owner, by rw [none]; rfl⟩
      apply render_consistent
      refine ⟨moved, ?_, ?_⟩
      · intro _ _ _ _
        exact .inr (.inl rfl)
      · intro _ _ _
        exact .inl rfl
  · exact consistent

theorem since_cons {unwanted : PositionObservation → Prop} {number : Nat} {observation : PositionObservation}
    (harmless : ¬unwanted observation) (since : Since unwanted number history) :
    Since unwanted number (observation :: history) := .inr ⟨harmless, since⟩

/-- A seek is answered while the player that it went to has the name, if the position is shown. -/
theorem seekAnswered_consistent (orderly : Orderly history self) {asked : Option String} (there : asked ∈ self.seeks)
    (kept : self.mapped = true → self.owner.isSome = true → self.owner = asked) (error : Option String) :
    Consistent ((self.seekAnswered asked error).2 ++ history) (self.seekAnswered asked error).1 := by
  have only : self.seeks = [asked] := by
    rcases orderly.seeking with ⟨-, other, only⟩ | ⟨-, none⟩
    · rw [only] at there ⊢
      rw [List.mem_singleton.mp there]
    · rw [none] at there
      cases there
  have answered (tooltip : String) : Orderly (.seekAnswered :: history)
      { self with pending := false, seeks := self.seeks.erase asked, tooltip } := by
    exact {
      proper := ⟨trivial, orderly.proper⟩
      reading := orderly.reading
      seeking := .inr ⟨rfl, by simp [only]⟩
      numbered := by
        intro number there
        rcases List.mem_cons.mp there with new | old
        · cases new
        · exact orderly.numbered number old
      issued := orderly.issued
      current := by
        intro call there same
        obtain ⟨mapped, owned, owner, since⟩ := orderly.current call there same
        exact ⟨mapped, owned, owner, since_cons id since⟩ }
  unfold Position.seekAnswered
  dsimp only
  split
  · have read := read_consistent (answered ((error.map fun error => s!"Seeking failed: {error}").getD self.tooltip))
    simpa using render_consistent read
  · rename_i other
    apply render_consistent
    refine ⟨answered self.tooltip, away_wanted ?_⟩
    intro mapped owned
    exact other (kept mapped owned)

/-- The read in flight is answered, and none is in flight until another is requested. -/
theorem answered_orderly (orderly : Orderly history self) (call : ReadCall) (result : Option Int) :
    Orderly (.readAnswered call.number result :: history) { self with reading := false, reads := [] } where
  proper := ⟨trivial, orderly.proper⟩
  reading := .inr ⟨rfl, rfl⟩
  seeking := orderly.seeking
  numbered := by
    intro number there
    rcases List.mem_cons.mp there with new | old
    · cases new
    · exact orderly.numbered number old
  issued := by simp
  current := by simp

theorem adopted_orderly (orderly : Orderly history self) (none : self.reads = []) {number : Nat} {value : Int}
    (answered : .readAnswered number (some value) ∈ history) (since : Since Disturbs number history) :
    Orderly (.anchored (.read number value) :: history) (self.anchor (.read number value)).1 where
  proper := ⟨⟨answered, since⟩, orderly.proper⟩
  reading := orderly.reading
  seeking := orderly.seeking
  numbered := by
    intro number there
    rcases List.mem_cons.mp there with new | old
    · cases new
    · exact orderly.numbered number old
  issued := by
    intro call there
    change call ∈ self.reads at there
    rw [none] at there
    cases there
  current := by
    intro call there
    change call ∈ self.reads at there
    rw [none] at there
    cases there

/-- A read follows if one was asked for meanwhile; else what is there must do. -/
theorem reread_consistent (orderly : Orderly history self) (none : self.reads = [])
    (done : self.reread = false → self.mapped = true → self.owner.isSome = true → self.pending = true ∨ Fresh history) :
    Consistent ((if self.reread then { self with reread := false }.read else (self, [])).2 ++ history)
      (if self.reread then { self with reread := false }.read else (self, [])).1 := by
  split
  · have quiet : Orderly history { self with reread := false } := { orderly with
      proper := orderly.proper
      reading := orderly.reading
      seeking := orderly.seeking
      numbered := orderly.numbered
      issued := orderly.issued
      current := orderly.current }
    exact read_consistent quiet
  · rename_i last
    refine ⟨orderly, ?_, ?_⟩
    · intro _ _ call there
      rw [none] at there
      cases there
    · intro mapped owned _
      exact done (by simpa using last) mapped owned

theorem readAnswered_consistent (consistent : Consistent history self) {call : ReadCall} (there : call ∈ self.reads)
    (result : Option Int) :
    Consistent ((self.readAnswered call result).2 ++ history) (self.readAnswered call result).1 := by
  have orderly := consistent.orderly
  have only : self.reads.erase call = [] := by
    rcases orderly.reading with ⟨-, other, only⟩ | ⟨-, none⟩
    · rw [only] at there ⊢
      rw [List.mem_singleton.mp there]
      simp
    · rw [none]
      rfl
  have answered := answered_orderly orderly call result
  -- Without an anchor the answer is no news, or the last anchor was the player's word.
  have unread (failed : result = none ∨ ¬(self.revision = call.revision ∧ self.owner = call.owner))
      (last : self.reread = false) (mapped : self.mapped = true) (owned : self.owner.isSome = true) :
      self.pending = true ∨ Fresh (.readAnswered call.number result :: history) := by
    rcases consistent.wanted.due mapped owned call there with reread | pending | ⟨same, since⟩ | ⟨-, told⟩
    · exact absurd (last.symm.trans reread) (by decide)
    · exact .inl pending
    · obtain ⟨-, -, owner, -⟩ := orderly.current call there same
      have none : result = none := by
        rcases failed with none | outdated
        · exact none
        · exact absurd ⟨same.symm, owner⟩ outdated
      subst none
      exact .inr (.inr ⟨call.number, since_cons id since, .inl List.mem_cons_self⟩)
    · exact .inr (.inl told)
  unfold Position.readAnswered
  rw [only]
  dsimp only
  cases result with
  | none =>
    have next := reread_consistent answered rfl (unread (.inl rfl))
    simpa using next
  | some value =>
    dsimp only
    split
    · rename_i same
      obtain ⟨-, -, -, undisturbed⟩ := orderly.current call there same.1.symm
      have adopted := adopted_orderly answered rfl List.mem_cons_self (since_cons id undisturbed)
      have rendered : Orderly _ (({ self with reading := false, reads := [] } : Position).anchor
          (.read call.number value)).1.render := { adopted with
        proper := adopted.proper
        reading := adopted.reading
        seeking := adopted.seeking
        numbered := adopted.numbered
        issued := adopted.issued
        current := adopted.current }
      have next := reread_consistent rendered rfl (by
        intro last mapped owned
        rcases consistent.wanted.due mapped owned call there with reread | pending | ⟨-, since⟩ | ⟨older, -⟩
        · exact absurd (last.symm.trans reread) (by decide)
        · exact .inl pending
        · exact .inr (.inr ⟨call.number, since_cons id (since_cons id since), .inr ⟨value, rfl⟩⟩)
        · exact absurd same.1.symm (Nat.ne_of_lt older))
      simpa [Position.anchor] using next
    · rename_i outdated
      have next := reread_consistent answered rfl (unread (.inr outdated))
      simpa using next

/-! ## Runs -/

/-- While the position is shown, a change of the owner comes with a change of properties, and a seek is
answered before one. -/
def Followed : Transition.Condition Position PositionEvent PositionObservation := fun _ self event =>
  match event with
  | .ownerChanged _ announced => self.mapped = true → announced.isSome = true
  | .seekAnswered index _ => self.mapped = true → self.owner.isSome = true → ∀ asked,
      self.seeks[index]? = some asked → self.owner = asked
  | _ => True

abbrev Execution (allowed : Transition.Condition Position PositionEvent PositionObservation) :
    List PositionObservation → Position → Prop := Transition.Run step allowed Starts

theorem step_consistent (consistent : Consistent history self) {event : PositionEvent}
    (followed : Followed history self event) : Consistent ((self.step event).2 ++ history) (self.step event).1 := by
  have orderly := consistent.orderly
  cases event with
  | propertiesChanged properties =>
    have changed := propertiesChanged_consistent orderly self.owner [] (by simp) (by simp) properties
    simpa [step] using changed
  | seeked position => exact seeked_consistent orderly position
  | ownerChanged owner announced =>
    cases announced with
    | some properties =>
      exact propertiesChanged_consistent orderly owner [.ownerChanged] (by simp [Proper]) (by simp) properties
    | none =>
      have unmapped : self.mapped = false := by
        rw [← Bool.not_eq_true]
        intro mapped
        exact absurd (followed mapped) (by decide)
      have moved : Orderly ([.ownerChanged] ++ history) { self with owner, properties := {} } := by
        apply orderly.move
        · simp [Proper]
        · simp
        · exact Nat.le_refl _
        · exact orderly.away unmapped
        · exact orderly.seeking
      refine ⟨moved, away_wanted ?_⟩
      intro mapped _
      exact absurd (unmapped.symm.trans mapped) (by decide)
  | map =>
    unfold step
    dsimp only
    split
    · exact consistent
    · rename_i unmapped
      exact map_consistent orderly (by simpa using unmapped)
  | unmap =>
    unfold step
    dsimp only
    split
    · exact consistent
    · exact unmap_consistent orderly
  | seek value => exact seek_consistent consistent value
  | readAnswered index result =>
    unfold step
    dsimp only
    split
    · rename_i call there
      exact readAnswered_consistent consistent (List.mem_of_getElem? there) result
    · exact consistent
  | seekAnswered index error =>
    unfold step
    dsimp only
    split
    · rename_i asked there
      apply seekAnswered_consistent orderly (List.mem_of_getElem? there)
      intro mapped owned
      exact followed mapped owned asked there
    · exact consistent
  | tick =>
    unfold step
    dsimp only
    split
    · exact render_consistent consistent
    · exact consistent

theorem start_consistent (starts : Starts self) : Consistent [] self := by
  obtain ⟨properties, owner, rfl⟩ := starts
  have orderly : Orderly [] (({ properties, owner } : Position).refresh).1 := {
    proper := trivial
    reading := .inr ⟨rfl, rfl⟩
    seeking := .inr ⟨rfl, rfl⟩
    numbered := by simp
    issued := by
      intro call there
      cases there
    current := by
      intro call there
      cases there }
  refine ⟨orderly, away_wanted ?_⟩
  intro mapped _
  cases mapped

theorem Execution.consistent (run : Execution Followed history self) : Consistent history self := by
  induction run with
  | start begun => exact start_consistent begun
  | step event _ followed ih => exact step_consistent ih followed

end Position

/-- What holds of a position in whatever order signals, answers, seeks and mappings come. -/
structure PositionSound (history : List PositionObservation) (position : Position) : Prop where
  reads : position.reads.length ≤ 1
  seeks : position.seeks.length ≤ 1
  /-- No two reads have one number. -/
  numbered : ∀ later earlier number, history = later ++ .readRequested number :: earlier →
    .readRequested number ∉ earlier
  /-- Nothing that disturbs happened between the request and the answer that is adopted. -/
  adopted : ∀ later earlier number value, history = later ++ .anchored (.read number value) :: earlier →
    .readAnswered number (some value) ∈ earlier ∧ Since Disturbs number earlier
  settled : position.mapped = true → position.owner.isSome = true → position.reads = [] → position.seeks = [] →
    Fresh history

theorem Position.position_sound {history : List PositionObservation} {position : Position}
    (run : Execution Followed history position) : PositionSound history position := by
  have consistent := Execution.consistent run
  exact {
    reads := by
      rcases consistent.orderly.reading with ⟨-, call, only⟩ | ⟨-, none⟩
      · simp [only]
      · simp [none]
    seeks := by
      rcases consistent.orderly.seeking with ⟨-, asked, only⟩ | ⟨-, none⟩
      · simp [only]
      · simp [none]
    numbered := by
      rintro later earlier number rfl
      exact consistent.orderly.proper.split
    adopted := by
      rintro later earlier number value rfl
      exact consistent.orderly.proper.split
    settled := by
      intro mapped owned unread none
      rcases consistent.wanted.fresh mapped owned unread with pending | fresh
      · rcases consistent.orderly.seeking with ⟨-, asked, only⟩ | ⟨idle, -⟩
        · exact absurd (only.symm.trans none) (by simp)
        · exact absurd (idle.symm.trans pending) (by decide)
      · exact fresh }

/-- A player that can seek, with a track of one minute. -/
def playing : Properties := { trackId := some "/track", length := some 60000000, canControl := true, canSeek := true }

def beforePlaying : Position := ({ properties := playing, owner := some ":1.1" } : Position).refresh.1

/-- The user seeks while the position is read. -/
def seeksOnce : List PositionEvent := [.map, .seek (some 5000000), .readAnswered 0 (some 7), .seekAnswered 0 none]

theorem position_sound_seek : PositionSound (Transition.execute Position.step beforePlaying seeksOnce).2
    (Transition.execute Position.step beforePlaying seeksOnce).1 := by
  have followed : Transition.Permits Position.step Position.Followed [] beforePlaying seeksOnce := by
    refine ⟨trivial, trivial, trivial, ?_, trivial⟩
    intro _ _ asked there
    cases there
    rfl
  have run : Position.Execution Position.Followed _ _ :=
    Transition.Run.execute seeksOnce (.start ⟨playing, some ":1.1", rfl⟩) followed
  rw [List.append_nil] at run
  exact Position.position_sound run

/-- The name changes hands while the position is read, and nothing is known of the new owner. -/
def changesHands : List PositionEvent := [.map, .ownerChanged (some ":1.2") none, .readAnswered 0 (some 7)]

/-- The answer of the old owner is not adopted, and the new owner is never asked. -/
theorem position_stays_unread : ¬∀ history position, Position.Execution Transition.unrestricted history position →
    PositionSound history position := by
  intro sound
  have run : Position.Execution Transition.unrestricted _ _ := Transition.Run.execute changesHands
    (.start ⟨playing, some ":1.1", rfl⟩) (Transition.permits_unrestricted _ _ beforePlaying _)
  rw [List.append_nil] at run
  obtain told | ⟨number, -, failed | ⟨position, anchored⟩⟩ := (sound _ _ run).settled rfl rfl rfl rfl
  · obtain ⟨position, anchored⟩ := told
    cases anchored
  · rcases List.mem_cons.mp failed with new | old
    · cases new
    · simp [Position.step, Position.read, Position.refresh, Position.anchor, Position.render] at old
  · cases anchored

end Luma.Shell
