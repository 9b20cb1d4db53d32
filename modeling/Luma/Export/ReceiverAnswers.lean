import Luma.Export.CaptureReceiver
import Mathlib.Data.List.Perm.Basic

/-! The acknowledgements of the capture receiver: what the recorded game has sent is in the
socket, waits for a fence or is acknowledged.
-/

set_option autoImplicit false

namespace Luma.Export.CaptureReceiver

open Luma.Library Luma.Library.Transition

/-- The frames of the recorded game among them, as they are to be acknowledged. -/
def owed (game : Nat) (frames : List Datagram) : List VkAckMessage :=
  (frames.filter (·.sender == game)).map Datagram.ack

/-- The exports of the game that came into the socket. -/
def arrived (history : List ReceiverSighting) : List Datagram :=
  chronicle (fun | .arrived datagram => some datagram | _ => none) history

/-- The frames whose acknowledgement reached its peer. -/
def answered (history : List ReceiverSighting) : List Datagram :=
  chronicle (fun | .acknowledged frame true => some frame | _ => none) history

/-- The game's exports are taken when they are read, their acknowledgements get through,
and none is left in the socket at the end. -/
def Attended (game : Nat) : Condition CaptureReceiver ReceiverInput ReceiverSighting := fun _ self input =>
  match input with
  | .turn host =>
      (∀ frame ∈ self.pending ++ self.inbox, frame.sender = game → host.delivered frame = true) ∧
        if self.stopping || !self.healthy then ∀ frame ∈ self.inbox, frame.sender ≠ game
        else host.readable = true → ∀ frame ∈ self.inbox.head?, frame.sender = game →
          self.options.accepts host.processes (self.readPid host) frame = true
  | _ => True

instance (game : Nat) : ∀ history self input, Decidable (Attended game history self input)
  | _, self, .turn host => inferInstanceAs (Decidable
      ((∀ frame ∈ self.pending ++ self.inbox, frame.sender = game → host.delivered frame = true) ∧
        if self.stopping || !self.healthy then ∀ frame ∈ self.inbox, frame.sender ≠ game
        else host.readable = true → ∀ frame ∈ self.inbox.head?, frame.sender = game →
          self.options.accepts host.processes (self.readPid host) frame = true))
  | _, _, .send _ | _, _, .endStream _ _ | _, _, .encoderFails | _, _, .stop => .isTrue trivial

/-- Every export of the game is acknowledged once with its slot and generation, or will be:
at the end all are. -/
structure Answered (game : Nat) (history : List ReceiverSighting) (receiver : CaptureReceiver) : Prop where
  account : (owed game (arrived history)).Perm (owed game (answered history) ++ owed game (receiver.pending ++ receiver.inbox))
  closed : receiver.ended = true → (owed game (arrived history)).Perm (owed game (answered history))

theorem owed_append (game : Nat) (first second : List Datagram) :
    owed game (first ++ second) = owed game first ++ owed game second := by
  simp [owed]

theorem owed_perm {game : Nat} {first second : List Datagram} (same : first.Perm second) :
    (owed game first).Perm (owed game second) :=
  (same.filter _).map _

theorem owed_nil {game : Nat} {frames : List Datagram} (foreign : ∀ frame ∈ frames, frame.sender ≠ game) :
    owed game frames = [] := by
  have nothing : frames.filter (·.sender == game) = [] :=
    List.filter_eq_nil_iff.mpr fun frame member => by simpa using foreign frame member
  rw [owed, nothing, List.map_nil]

theorem arrived_append (seen history : List ReceiverSighting) : arrived (seen ++ history) = arrived history ++ arrived seen := by
  simp [arrived, chronicle]

theorem answered_append (seen history : List ReceiverSighting) :
    answered (seen ++ history) = answered history ++ answered seen := by
  simp [answered, chronicle]

/-! ## One frame -/

variable {game : Nat} {history : List ReceiverSighting} {self : CaptureReceiver} {host : TurnHost}

/-- A frame that is handled is acknowledged, or its acknowledgement waits. -/
def Settles (before : CaptureReceiver) (frame : Datagram) (host : TurnHost) (after : CaptureReceiver)
    (seen : List ReceiverSighting) : Prop :=
  after.inbox = before.inbox ∧ after.ended = before.ended ∧ arrived seen = [] ∧
    ((after.pending = before.pending ∧ answered seen = answered [acknowledge host frame]) ∨
      (after.pending = before.pending ++ [frame] ∧ answered seen = []))

/-- Starting the encoder and copying to it leave the acknowledgements alone. -/
theorem copied_unanswered (self : CaptureReceiver) (host : TurnHost) (frame : Datagram) (source : CachedImport) :
    let copied := (self.startEncoder host frame).copy host frame source
    copied.1.inbox = self.inbox ∧ copied.1.ended = self.ended ∧ copied.1.pending = self.pending ∧
      arrived copied.2 = [] ∧ answered copied.2 = [] := by
  unfold startEncoder copy
  dsimp only
  repeat' split
  all_goals exact ⟨rfl, rfl, rfl, rfl, rfl⟩

theorem handle_settles (frame : Datagram) (source : CachedImport) (new : Bool) :
    Settles self frame host (self.handle host frame source new).1 (self.handle host frame source new).2 := by
  unfold handle
  split
  · exact ⟨rfl, rfl, rfl, .inl ⟨rfl, rfl⟩⟩
  · obtain ⟨inbox, ended, pending, none, nothing⟩ := copied_unanswered self host frame source
    unfold scheduleAck
    dsimp only
    split
    · refine ⟨inbox, ended, none, .inr ⟨?_, nothing⟩⟩
      rw [pending]
    · refine ⟨inbox, ended, ?_, .inl ⟨pending, ?_⟩⟩
      · rw [arrived_append, none]
        rfl
      · rw [answered_append, nothing]
        rfl

theorem importImage_kept (self : CaptureReceiver) (host : TurnHost) (frame : Datagram) :
    (self.importImage host frame).1.inbox = self.inbox ∧ (self.importImage host frame).1.ended = self.ended ∧
      (self.importImage host frame).1.pending = self.pending := by
  unfold importImage
  dsimp only
  repeat' split
  all_goals exact ⟨rfl, rfl, rfl⟩

theorem receive_settles (self : CaptureReceiver) (host : TurnHost) (frame : Datagram) :
    Settles self frame host (self.receive host frame).1 (self.receive host frame).2 := by
  unfold receive
  split
  · exact handle_settles frame _ false
  · split
    · exact ⟨rfl, rfl, rfl, .inl ⟨rfl, rfl⟩⟩
    · obtain ⟨inbox, ended, pending⟩ := importImage_kept self host frame
      dsimp only
      split
      · exact ⟨inbox, ended, rfl, .inl ⟨pending, rfl⟩⟩
      · rename_i source _
        obtain ⟨inbox', ended', nothing, settled⟩ :=
          handle_settles frame source true
        rw [pending] at settled
        exact ⟨inbox'.trans inbox, ended'.trans ended, nothing, settled⟩

/-! ## Turns -/

theorem answered_one {frame : Datagram} (delivered : frame.sender = game → host.delivered frame = true) :
    owed game (answered [acknowledge host frame]) = owed game [frame] := by
  by_cases own : frame.sender = game
  · simp [acknowledge, delivered own, answered, chronicle]
  · have foreign : owed game [frame] = [] := owed_nil (by simpa using own)
    rw [foreign]
    cases reached : host.delivered frame with
    | false => simp [acknowledge, reached, answered, chronicle, owed]
    | true => simpa [acknowledge, reached, answered, chronicle] using foreign

theorem answered_each {frames : List Datagram}
    (delivered : ∀ frame ∈ frames, frame.sender = game → host.delivered frame = true) :
    owed game (answered ((frames.map (acknowledge host)).reverse)) = owed game frames := by
  induction frames with
  | nil => rfl
  | cons frame frames ih =>
    have rest := ih fun other member => delivered other (List.mem_cons_of_mem _ member)
    rw [List.map_cons, List.reverse_cons, answered_append, owed_append, rest,
      answered_one (delivered frame List.mem_cons_self)]
    exact (owed_append game [frame] frames).symm

theorem arrived_acknowledged (frames : List Datagram) : arrived ((frames.map (acknowledge host)).reverse) = [] := by
  simp [arrived, chronicle, acknowledge, List.filterMap_eq_nil_iff]

/-- What `retire` acknowledges and what it leaves are the frames that waited. -/
theorem retire_perm (self : CaptureReceiver) (host : TurnHost) : (((self.pending.zipIdx.filter fun item => host.completed item.2).map Prod.fst) ++
    (self.retire host).1.pending).Perm self.pending := by
  have split := (List.filter_append_perm (fun item => host.completed item.2) self.pending.zipIdx).map Prod.fst
  rw [List.map_append, List.zipIdx_map_fst] at split
  exact split

namespace Answered

/-- A turn in which what is acknowledged was owed before. -/
theorem goes {seen : List ReceiverSighting} {after : CaptureReceiver} (answers : Answered game history self)
    (quiet : arrived seen = [])
    (balance : (owed game (answered seen) ++ owed game (after.pending ++ after.inbox)).Perm
      (owed game (self.pending ++ self.inbox)))
    (closed : after.ended = true → owed game (after.pending ++ after.inbox) = []) :
    Answered game (seen ++ history) after := by
  have account : (owed game (arrived (seen ++ history))).Perm
      (owed game (answered (seen ++ history)) ++ owed game (after.pending ++ after.inbox)) := by
    rw [arrived_append, quiet, List.append_nil, answered_append, owed_append, List.append_assoc]
    exact answers.account.trans (balance.symm.append_left _)
  refine ⟨account, fun ended => ?_⟩
  have settled := account
  rwa [closed ended, List.append_nil] at settled

end Answered

theorem retire_acknowledges (self : CaptureReceiver) (host : TurnHost) : (self.retire host).2 =
    (((self.pending.zipIdx.filter fun item => host.completed item.2).map Prod.fst).map (acknowledge host)).reverse := by
  rw [List.map_map]
  rfl

theorem retire_arrived (self : CaptureReceiver) (host : TurnHost) : arrived (self.retire host).2 = [] := by
  rw [retire_acknowledges]
  exact arrived_acknowledged _

/-- A turn's own acknowledgements of the frames that wait. -/
theorem retire_balance (host : TurnHost) (delivered : ∀ frame ∈ self.pending, frame.sender = game → host.delivered frame = true) :
    (owed game (answered (self.retire host).2) ++ owed game (self.retire host).1.pending).Perm (owed game self.pending) := by
  rw [retire_acknowledges, answered_each, ← owed_append]
  · exact owed_perm (retire_perm self host)
  · intro frame member
    refine delivered frame ?_
    obtain ⟨item, kept, rfl⟩ := List.mem_map.mp member
    exact List.fst_mem_of_mem_zipIdx (List.mem_filter.mp kept).1

namespace Answered

theorem finish_kept (answers : Answered game history self)
    (delivered : ∀ frame ∈ self.pending, frame.sender = game → host.delivered frame = true)
    (foreign : ∀ frame ∈ self.inbox, frame.sender ≠ game) :
    Answered game ((self.finish host).2 ++ history) (self.finish host).1 := by
  have empty := owed_nil foreign
  refine answers.goes (arrived_acknowledged self.pending) ?_ fun _ => empty
  unfold finish
  rw [answered_each delivered, List.nil_append, ← owed_append]

theorem retire_kept (answers : Answered game history self) (lasts : self.ended = false)
    (delivered : ∀ frame ∈ self.pending, frame.sender = game → host.delivered frame = true) :
    Answered game ((self.retire host).2 ++ history) (self.retire host).1 := by
  refine answers.goes (retire_arrived self host) ?_ fun ended => nomatch lasts.symm.trans ended
  · rw [owed_append, owed_append, ← List.append_assoc]
    exact (retire_balance host delivered).append_right _

theorem settled (answers : Answered game history self) (ended : self.ended = true) :
    owed game (self.pending ++ self.inbox) = [] := by
  have same := ((answers.closed ended).symm.trans answers.account).length_eq
  rw [List.length_append] at same
  exact List.eq_nil_of_length_eq_zero (by omega)

/-- A datagram is read in a turn: it is handled, or it is none of the game's. -/
theorem read_kept {datagram : Datagram} {rest : List Datagram} {after : CaptureReceiver} {seen : List ReceiverSighting}
    (answers : Answered game history self) (inbox : self.inbox = datagram :: rest) (lasts : after.ended = false)
    (delivered : ∀ frame ∈ self.pending ++ self.inbox, frame.sender = game → host.delivered frame = true)
    (left : after.inbox = rest) (quiet : arrived seen = [])
    (settled : (after.pending = (self.retire host).1.pending ∧ answered seen = answered [acknowledge host datagram]) ∨
      (after.pending = (self.retire host).1.pending ++ [datagram] ∧ answered seen = []) ∨
      (after.pending = (self.retire host).1.pending ∧ answered seen = [] ∧ datagram.sender ≠ game)) :
    Answered game (seen ++ (self.retire host).2 ++ history) after := by
  have retired := retire_balance host fun frame member => delivered frame (List.mem_append_left _ member)
  have own : datagram.sender = game → host.delivered datagram = true :=
    delivered datagram (by rw [inbox]; exact List.mem_append_right _ List.mem_cons_self)
  refine answers.goes ?_ ?_ fun ended => nomatch lasts.symm.trans ended
  · rw [arrived_append, quiet, List.append_nil]
    exact retire_arrived self host
  · rw [answered_append, owed_append, owed_append, owed_append, left, inbox, ← List.singleton_append (l := rest),
      owed_append]
    have balance := retired.append_right (owed game [datagram] ++ owed game rest)
    refine List.Perm.trans ?_ balance
    rw [List.append_assoc, List.append_assoc]
    refine List.Perm.append_left _ ?_
    rcases settled with ⟨pending, now⟩ | ⟨pending, later⟩ | ⟨pending, nothing, foreign⟩
    · rw [pending, now, answered_one own, ← List.append_assoc, ← List.append_assoc]
      exact List.perm_append_comm.append_right _
    · rw [pending, later, owed_append, List.append_assoc]
      exact .refl _
    · have none : owed game [datagram] = [] := owed_nil (by simpa using foreign)
      rw [pending, nothing, none]
      exact .refl _

theorem turn_kept (answers : Answered game history self) (attended : Attended game history self (.turn host)) :
    Answered game ((self.turn host).2 ++ history) (self.turn host).1 := by
  obtain ⟨delivered, reads⟩ := attended
  have waiting : ∀ frame ∈ self.pending, frame.sender = game → host.delivered frame = true :=
    fun frame member => delivered frame (List.mem_append_left _ member)
  unfold turn
  split
  · exact answers
  · rename_i lasts
    simp only [Bool.not_eq_true] at lasts
    split
    · rename_i stopping
      rw [stopping, Bool.true_or, if_pos rfl] at reads
      exact answers.finish_kept waiting reads
    · rename_i going
      simp only [Bool.not_eq_true] at going
      have retired := answers.retire_kept lasts waiting
      dsimp only
      split
      · rename_i failed
        rw [failed, Bool.or_true, if_pos rfl] at reads
        rw [List.append_assoc]
        refine retired.finish_kept (fun frame member => waiting frame ?_) reads
        exact (retire_perm self host).subset (List.mem_append_right _ member)
      · rename_i healthy
        simp only [Bool.not_eq_true', Bool.not_eq_false] at healthy
        rw [going, healthy, if_neg (by decide)] at reads
        split
        · exact retired
        · rename_i readable
          simp only [Bool.not_eq_true', Bool.not_eq_false] at readable
          split
          · exact retired
          · rename_i datagram rest inbox
            have accepts := reads readable datagram (by rw [inbox]; rfl)
            split
            · obtain ⟨left, ended, quiet, settled⟩ := receive_settles
                { (self.retire host).1 with inbox := rest, expectedPid := self.readPid host } host datagram
              refine answers.read_kept inbox (ended.trans lasts) delivered left quiet ?_
              exact settled.imp id .inl
            · rename_i refused
              have foreign : datagram.sender ≠ game := fun own => refused (accepts own)
              change Answered game ([] ++ (self.retire host).2 ++ history)
                { (self.retire host).1 with inbox := rest, expectedPid := self.readPid host }
              exact answers.read_kept inbox lasts delivered rfl rfl (.inr (.inr ⟨rfl, rfl, foreign⟩))

theorem step_kept {input : ReceiverInput} (answers : Answered game history self)
    (attended : Attended game history self input) : Answered game ((step self input).2 ++ history) (step self input).1 := by
  cases input with
  | send datagram =>
    unfold step
    dsimp only
    split
    · exact answers
    · rename_i lasts
      have came : arrived ([.arrived datagram] ++ history) = arrived history ++ [datagram] := arrived_append _ _
      have same : answered ([.arrived datagram] ++ history) = answered history := by
        rw [answered_append]
        exact List.append_nil _
      have grown : owed game (self.pending ++ (self.inbox ++ [datagram])) =
          owed game (self.pending ++ self.inbox) ++ owed game [datagram] := by
        rw [← List.append_assoc, owed_append]
      refine ⟨?_, fun ended => absurd ended lasts⟩
      rw [came, same, grown, owed_append, ← List.append_assoc]
      exact answers.account.append_right (owed game [datagram])
  | endStream | encoderFails | stop => exact answers.goes rfl (.refl _) answers.settled
  | turn host => exact answers.turn_kept attended

theorem of_run (run : Run step (Attended game) Started history self) : Answered game history self := by
  induction run with
  | start begun =>
    obtain ⟨options, expectedPid, rfl⟩ := begun
    exact ⟨.refl _, nofun⟩
  | step input _ attended ih => exact ih.step_kept attended

end Answered

/-! ## Turns with nothing new -/

/-- The turn reads what there is, and finds every fence signaled. -/
def TurnHost.Prompt (host : TurnHost) : Prop := host.readable = true ∧ ∀ index, host.completed index = true

theorem turn_progress (prompt : TurnHost.Prompt host) : (self.turn host).1.ended = true ∨
    ((self.turn host).1.inbox = self.inbox.tail ∧ (self.inbox = [] → (self.turn host).1.pending = [])) := by
  obtain ⟨readable, completed⟩ := prompt
  have retired : (self.retire host).1.pending = [] := by
    simp [retire, completed]
  unfold turn
  split
  · rename_i ended
    exact .inl ended
  · split
    · exact .inl rfl
    · dsimp only
      split
      · exact .inl rfl
      · rw [readable]
        split
        · contradiction
        · split
          · rename_i empty
            refine .inr ⟨?_, fun _ => retired⟩
            rw [empty]
            exact empty
          · rename_i datagram rest inbox
            refine .inr ⟨?_, fun empty => nomatch inbox.symm.trans empty⟩
            rw [inbox]
            split
            · exact (receive_settles _ host datagram).1
            · rfl

theorem turn_ended (ended : self.ended = true) : self.turn host = (self, []) := by
  unfold turn
  rw [if_pos ended]

/-- Turns as many as there are datagrams in the socket, and one more, answer all. -/
theorem Answered.drains {hosts : List TurnHost} (answers : Answered game history self)
    (prompt : ∀ host ∈ hosts, TurnHost.Prompt host)
    (enough : self.inbox.length < hosts.length ∨ self.pending ++ self.inbox = [] ∨ self.ended = true)
    (permits : Permits step (Attended game) history self (hosts.map .turn)) :
    owed game ((execute step self (hosts.map .turn)).1.pending ++ (execute step self (hosts.map .turn)).1.inbox) = [] := by
  induction hosts generalizing history self with
  | nil =>
    rcases enough with enough | empty | ended
    · exact absurd enough (Nat.not_lt_zero _)
    · exact congrArg (owed game) empty
    · exact answers.settled ended
  | cons host hosts ih =>
    obtain ⟨attended, permits⟩ := permits
    refine ih (answers.turn_kept attended) (fun other member => prompt other (List.mem_cons_of_mem _ member)) ?_ permits
    rcases turn_progress (prompt host List.mem_cons_self) with ended | ⟨inbox, pending⟩
    · exact .inr (.inr ended)
    · cases left : self.inbox with
      | nil =>
        refine .inr (.inl ?_)
        change (self.turn host).1.pending ++ (self.turn host).1.inbox = []
        rw [pending left, inbox, left]
        rfl
      | cons datagram rest =>
        rcases enough with enough | empty | ended
        · refine .inl ?_
          change (self.turn host).1.inbox.length < hosts.length
          rw [inbox, left]
          rw [left] at enough
          exact Nat.lt_of_succ_lt_succ enough
        · rw [left] at empty
          exact absurd empty (List.append_ne_nil_of_right_ne_nil _ (List.cons_ne_nil _ _))
        · refine .inr (.inr ?_)
          change (self.turn host).1.ended = true
          rw [turn_ended ended]
          exact ended

/-- While the game's exports are taken and their acknowledgements get through, each is
acknowledged once: it waits for that in the socket or at a fence, and once the fences are
signaled the turns of the loop leave nothing unanswered. -/
theorem exports_answered (game : Nat) {history : List ReceiverSighting} {self : CaptureReceiver}
    (run : Run step (Attended game) Started history self) :
    Answered game history self ∧ ∀ hosts : List TurnHost, (∀ host ∈ hosts, TurnHost.Prompt host) →
      self.inbox.length < hosts.length → Permits step (Attended game) history self (hosts.map .turn) →
      owed game ((execute step self (hosts.map .turn)).1.pending ++ (execute step self (hosts.map .turn)).1.inbox) = [] :=
  ⟨.of_run run, fun _ prompt enough permits => (Answered.of_run run).drains prompt (.inl enough) permits⟩

/-- A receiver of one process whose pid comes from a file. -/
def watching : CaptureReceiver :=
  { options := { expectedPidFile := true, expectedProcessName := none, euid := 1000 }, expectedPid := -1 }

/-- The export of a frame in opaque memory by process 50. -/
def exporting (generation : UInt64) (slot : UInt32) : Datagram :=
  { sender := 7, peer := 3, credentials := some (50, 1000), descriptors := [20, 21]
    message := {
      generation, ptsNs := 10 * generation, streamId := 1, slot, width := 640, height := 480
      reserved := lumaExportCopyComplete ||| lumaExportOpaqueMemory, allocationSize := 1228800 } }

def noProcesses : ProcessTable := { comm := fun _ => none, parent := fun _ => none }

/-- Two frames are read, and the receiver is stopped while one waits. -/
def attending : List ReceiverInput :=
  [.send (exporting 1 0), .send (exporting 2 1), .turn { pidFile := some (some 50), processes := noProcesses },
    .turn { processes := noProcesses, completed := fun _ => false }, .stop, .turn { processes := noProcesses }]

theorem exports_answered_stopped :
    Answered 7 (execute step watching attending).2 (execute step watching attending).1 := by
  have run := Run.execute attending (.start ⟨_, _, rfl⟩ : Run step (Attended 7) Started [] watching) (by decide +kernel)
  rw [List.append_nil] at run
  exact (exports_answered 7 run).1

/-- The frame is read before the pid is in its file. -/
def early : List ReceiverInput := [.send (exporting 1 0), .turn { processes := noProcesses }]

/-- An export that is not accepted is never acknowledged. -/
theorem early_export_unanswered : ¬∀ game history self, Run step unrestricted Started history self →
    Answered game history self := by
  intro answered
  have run := Run.execute early (.start ⟨_, _, rfl⟩ : Run step unrestricted Started [] watching)
    (permits_unrestricted _ _ _ _)
  rw [List.append_nil] at run
  exact absurd (answered 7 _ _ run).account.length_eq (by decide +kernel)

end Luma.Export.CaptureReceiver
