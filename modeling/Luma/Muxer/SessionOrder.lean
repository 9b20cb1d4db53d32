import Luma.Muxer.SessionProgress

/-! The order in which a muxing session takes its messages. -/

set_option autoImplicit false

namespace Luma.Muxer.Session

open Luma.Library Luma.Protocol Transition

variable {options : Options} {sessionId : UInt64} {stream : ByteStream}
variable {history : List Observation} {session : Session}

/-- The first three observations of a session that spawns FFmpeg. -/
def opening (config : VideoConfig) (pid capabilities : UInt32) : List Observation :=
  [.spawned config, .received (.start config), .authenticated pid capabilities]

/-- Messages of the opening and messages that only a server sends. -/
def OutOfOrder : Message → Prop
  | .clientHello .. | .serverHello _ | .start _ => True
  | _ => False

theorem Runs.opened (run : Runs options sessionId stream history session) {observation : Observation}
    (member : observation ∈ history) (beyond : ¬Preliminary observation) :
    ∃ config pid capabilities later, Opens options (Channel.new stream) config pid capabilities ∧
      history = later ++ opening config pid capabilities := by
  cases run.stage with
  | authenticating => cases member
  | starting pid capabilities =>
    rw [List.mem_singleton.mp member] at beyond
    exact absurd trivial beyond
  | spawning config pid capabilities =>
    rcases List.mem_cons.mp member with same | rest
    · rw [same] at beyond
      exact absurd trivial beyond
    · rw [List.mem_singleton.mp rest] at beyond
      exact absurd trivial beyond
  | refused error phase absent preliminary => exact absurd (preliminary observation member) beyond
  | opened config pid capabilities later opens => exact ⟨config, pid, capabilities, later, opens, rfl⟩

/-- A session whose stream does not open as required never spawns FFmpeg. -/
theorem Runs.unopened (run : Runs options sessionId stream history session)
    (wrong : ∀ config pid capabilities, ¬Opens options (Channel.new stream) config pid capabilities) :
    (∀ observation ∈ history, Preliminary observation) ∧
      (0 < session.openingLeft ∨ ∃ error, session.main = .returned (.error error)) := by
  constructor
  · intro observation member
    by_contra beyond
    obtain ⟨config, pid, capabilities, _, opens, _⟩ := run.opened member beyond
    exact wrong config pid capabilities opens
  · cases run.stage with
    | authenticating phase => simp [openingLeft, phase]
    | starting pid capabilities phase => simp [openingLeft, phase]
    | spawning config pid capabilities _ _ opens => exact absurd opens (wrong config pid capabilities)
    | refused error phase => exact .inr ⟨error, phase⟩
    | opened config pid capabilities later opens => exact absurd opens (wrong config pid capabilities)

/-- The part of a history behind the opening, with its invariants. -/
theorem Runs.behind (run : Runs options sessionId stream history session) {config : VideoConfig}
    {pid capabilities : UInt32} {later : List Observation}
    (opened : history = later ++ opening config pid capabilities) :
    Opens options (Channel.new stream) config pid capabilities ∧
      Loop (Channel.new stream).recv.2.recv.2 later session ∧ Flow later session := by
  have member : .spawned config ∈ history := by
    rw [opened]
    simp [opening]
  cases run.stage with
  | authenticating => cases member
  | starting => simp at member
  | spawning => simp at member
  | refused error phase absent preliminary => exact absurd (preliminary _ member) (fun holds => holds)
  | opened config' pid' capabilities' later' opens loop flow =>
    obtain ⟨rfl, same⟩ := List.append_inj' opened rfl
    cases same
    exact ⟨opens, loop, flow⟩

/-- What a session has come to that read a message out of order. -/
theorem Runs.disordered (run : Runs options sessionId stream history session) {config : VideoConfig}
    {pid capabilities : UInt32} {later : List Observation} {message : Message}
    (opened : history = later ++ opening config pid capabilities) (heard : .received message ∈ later)
    (bad : OutOfOrder message) :
    Closing session ∧ ∀ result, session.main = .returned result →
      (∃ error, result = .error error) ∧ .removed ∈ history := by
  obtain ⟨_, loop, _⟩ := run.behind opened
  have read : message ∈ chronicle heardOf later := (mem_chronicle heardOf).mpr ⟨_, heard, rfl⟩
  have unfit : ¬Continues message := by
    cases message <;> simp_all [OutOfOrder, Continues]
  -- Neither a loop that goes on nor one that ended well has read the message.
  have not_ended : ¬Ended (Channel.new stream).recv.2.recv.2 (chronicle heardOf later) := by
    rintro (⟨before, same, continues⟩ | ⟨continues, _⟩)
    · rw [same] at read
      rcases List.mem_append.mp read with earlier | last
      · exact unfit (continues message earlier)
      · rw [List.mem_singleton.mp last] at bad
        exact bad
    · exact unfit (continues message read)
  obtain ⟨closing, ends⟩ := loop.failed (fun noted looping => unfit (looping.continues message read))
    (fun complete => not_ended complete.ended)
  refine ⟨closing, fun result returned => ?_⟩
  obtain ⟨failed, removed⟩ := ends result returned
  rw [opened]
  exact ⟨failed, List.mem_append_left _ removed⟩

/-- FFmpeg is spawned, and access units reach it, only behind a hello with the
expected token and a valid Start. Any other opening ends in an error with
nothing written; a further opening message, or one that only a server sends,
ends the session with an error and the output removed. -/
theorem session_order (run : Runs options sessionId stream history session) :
    (∀ observation ∈ history, ¬Preliminary observation →
      ∃ config pid capabilities later, Opens options (Channel.new stream) config pid capabilities ∧
        history = later ++ opening config pid capabilities) ∧
    ((∀ config pid capabilities, ¬Opens options (Channel.new stream) config pid capabilities) →
      (∀ observation ∈ history, Preliminary observation) ∧
      (∀ result, session.main = .returned result → ∃ error, result = .error error) ∧
      ∀ turns : List Turn, 2 ≤ turns.countP Turn.isMain →
        ∃ error, (execute step session turns).1.main = .returned (.error error)) ∧
    (∀ config pid capabilities later message, history = later ++ opening config pid capabilities →
      .received message ∈ later → OutOfOrder message →
      (∀ result, session.main = .returned result → (∃ error, result = .error error) ∧ .removed ∈ history) ∧
      ∀ first middle last : List Turn, 1 ≤ first.countP Turn.isMain →
        maxQueuedAccessUnits + 2 ≤ middle.countP Turn.isWriter → 2 ≤ last.countP Turn.isMain →
        let final := execute step session (first ++ (middle ++ last))
        (∃ error, final.1.main = .returned (.error error)) ∧ .removed ∈ final.2 ++ history) := by
  refine ⟨fun observation member beyond => run.opened member beyond, ?_, ?_⟩
  · intro wrong
    obtain ⟨preliminary, stuck⟩ := run.unopened wrong
    refine ⟨preliminary, ?_, ?_⟩
    · intro result returned
      rcases stuck with left | ⟨error, same⟩
      · simp [openingLeft, returned] at left
      · rw [returned] at same
        cases same
        exact ⟨error, rfl⟩
    · intro turns enough
      have continued : Runs options sessionId stream _ _ := run.execute turns (permits_unrestricted _ _ _ _)
      obtain ⟨_, fallen⟩ := execute_countdown step (fun _ => True) openingLeft Turn.isMain (fun _ _ _ => trivial)
        (fun state turn _ => openingLeft_falls state turn) turns session trivial
      have most : session.openingLeft ≤ 2 := by
        unfold openingLeft
        split <;> omega
      rcases (continued.unopened wrong).2 with left | returned
      · omega
      · exact returned
  · intro config pid capabilities later message opened heard bad
    obtain ⟨closing, ends⟩ := run.disordered opened heard bad
    refine ⟨ends, ?_⟩
    intro first middle last drops writes joins
    obtain ⟨result, returned⟩ := closing.returns run.orderly first middle last drops writes joins
    have continued : Runs options sessionId stream _ _ :=
      run.execute (first ++ (middle ++ last)) (permits_unrestricted _ _ _ _)
    have opened' : (execute step session (first ++ (middle ++ last))).2 ++ history =
        ((execute step session (first ++ (middle ++ last))).2 ++ later) ++ opening config pid capabilities := by
      rw [opened, List.append_assoc]
    obtain ⟨⟨error, same⟩, removed⟩ :=
      (continued.disordered opened' (List.mem_append_right _ heard) bad).2 result returned
    exact ⟨⟨error, by rw [returned, same]⟩, removed⟩

section

def zeroToken : SessionToken := ⟨List.replicate tokenLen 0, rfl⟩

def smallConfig : VideoConfig := ⟨.h264, 2, 2, 60, 1⟩

/-- A client that greets twice. -/
def twoHellos : ByteStream where
  inbound := Channel.packets 0 [.clientHello zeroToken 1 0, .start smallConfig, .clientHello zeroToken 1 0]

def afterTwoHellos : Session × List Observation :=
  execute step (initial ⟨zeroToken, 60⟩ 0 twoHellos) (List.replicate 4 (.main {}))

theorem afterTwoHellos_runs : Runs ⟨zeroToken, 60⟩ 0 twoHellos afterTwoHellos.2 afterTwoHellos.1 := by
  have begun : Runs ⟨zeroToken, 60⟩ 0 twoHellos [] (initial ⟨zeroToken, 60⟩ 0 twoHellos) := .start rfl
  have run := begun.execute (List.replicate 4 (.main {})) (permits_unrestricted _ _ _ _)
  rw [List.append_nil] at run
  exact run

theorem afterTwoHellos_history : afterTwoHellos.2 =
    [.received (.clientHello zeroToken 1 0)] ++ opening smallConfig 1 0 := by
  decide +kernel

theorem session_order_two_hellos :
    let final := execute step afterTwoHellos.1
      (List.replicate 1 (.main {}) ++ (List.replicate 6 (.writer {}) ++ List.replicate 2 (.main {})))
    (∃ error, final.1.main = .returned (.error error)) ∧ .removed ∈ final.2 ++ afterTwoHellos.2 :=
  ((session_order afterTwoHellos_runs).2.2 smallConfig 1 0 _ (.clientHello zeroToken 1 0)
    afterTwoHellos_history (List.mem_singleton.mpr rfl) trivial).2 _ _ _ (by decide) (by decide) (by decide)

end

end Luma.Muxer.Session
