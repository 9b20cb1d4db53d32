import Luma.Shell.BluetoothPairing
import Mathlib.Data.List.Basic

/-! What a pairing answers, and what it does after its end.

The history of a pairing is lawful: each observation is permitted after those before it. A
request that waits for the user is the one that was prompted last, and nothing waits once the
pairing has ended.
-/

set_option autoImplicit false

namespace Luma.Shell

open Luma.Library

/-! ## Values -/

theorem digit_le {character : Char} {value : Nat} (digit : Text.digit character = some value) : value ≤ 9 := by
  unfold Text.digit at digit
  split at digit
  · rename_i range
    cases digit
    have above : character.toNat ≤ '9'.toNat := range.2
    have nine : '9'.toNat = 57 := rfl
    have zero : '0'.toNat = 48 := rfl
    omega
  · cases digit

/-- A number is below the power of ten of its digits. -/
theorem decimal_lt {characters : List Char} {value : Nat} (number : Text.decimal characters = some value) :
    value < 10 ^ characters.length := by
  have general (total : Option Nat) (bound : Nat) (below : ∀ value, total = some value → value < bound) :
      ∀ value, characters.foldl (fun total character => do return (← total) * 10 + (← Text.digit character)) total =
        some value → value < bound * 10 ^ characters.length := by
    clear number
    induction characters generalizing total bound with
    | nil => simpa using below
    | cons character characters ih =>
      have next := ih (do return (← total) * 10 + (← Text.digit character)) (bound * 10) (by
        intro value read
        cases total with
        | none => cases read
        | some total =>
          cases digit : Text.digit character with
          | none => simp [digit] at read
          | some last =>
            have small := digit_le digit
            have before := below total rfl
            simp only [digit, Option.bind_eq_bind, Option.bind_some, pure, Option.some.injEq] at read
            omega)
      rw [List.length_cons, Nat.pow_succ', ← Nat.mul_assoc]
      exact next
  cases characters with
  | nil => cases number
  | cons character characters =>
    have bound := general (some 0) 1 (by simp) value number
    rwa [Nat.one_mul] at bound

theorem length_le_byteLength (text : String) : text.toList.length ≤ byteLength text := by
  unfold byteLength
  induction text.toList with
  | nil => exact Nat.le_refl 0
  | cons character characters ih =>
    have positive := Char.utf8Size_pos character
    rw [List.map_cons, List.sum_cons, List.length_cons]
    omega

/-- A passkey has at most six digits. -/
def Value.Bounded : Value → Prop
  | .passkey number => number ≤ 999999
  | _ => True

theorem answer_bounded {kind : Answer} {text : String} {value : Value} (answers : answer kind text = some value) :
    value.Bounded := by
  cases kind with
  | pin =>
    rw [answer, Option.ite_none_right_eq_some] at answers
    obtain ⟨-, answered⟩ := answers
    cases answered
    trivial
  | passkey =>
    rw [answer, Option.ite_none_right_eq_some, Option.map_eq_some_iff] at answers
    obtain ⟨⟨-, short⟩, number, read, rfl⟩ := answers
    have below := decimal_lt read
    have length := length_le_byteLength text
    have power : 10 ^ text.toList.length ≤ 10 ^ 6 := Nat.pow_le_pow_right (by decide) (by omega)
    show number ≤ 999999
    omega
  | confirm =>
    cases answers
    trivial

/-! ## Histories -/

/-- The invocation is answered. -/
def answersTo (invocation : Nat) : PairingObservation → Bool
  | .granted other _ | .acknowledged other | .refused other _ _ => other == invocation
  | _ => false

structure Prompt where
  invocation : Nat
  sender : String
  device : String
  kind : Answer
  deriving DecidableEq, Repr

/-- What the user was shown last, if that was a prompt. -/
def lastPrompt : List PairingObservation → Option Prompt
  | [] => none
  | .prompted invocation sender device kind :: _ => some ⟨invocation, sender, device, kind⟩
  | .displayed _ :: _ => none
  | _ :: earlier => lastPrompt earlier

/-- The pairing has ended. -/
def Over (history : List PairingObservation) : Prop := ∃ cause, .ended cause ∈ history

/-- What may be observed after the earlier observations. -/
def Permitted (owner device : String) : PairingObservation → List PairingObservation → Prop
  | .granted invocation value, earlier => ¬Over earlier ∧ ∃ before kind text, earlier = .acted :: before ∧
      lastPrompt before = some ⟨invocation, owner, device, kind⟩ ∧ before.countP (answersTo invocation) = 0 ∧
      answer kind text = some value
  | .prompted _ _ _ _, earlier | .displayed _, earlier | .acknowledged _, earlier | .ended _, earlier => ¬Over earlier
  | .cancelPairing, earlier => .cancelPairing ∉ earlier ∧
      ∃ cause, .ended cause ∈ earlier ∧ cause ≠ .paired ∧ cause ≠ .released
  | .closed, earlier => .closed ∉ earlier
  | _, _ => True

abbrev Lawful (owner device : String) : List PairingObservation → Prop := Transition.Throughout (Permitted owner device)

theorem over_cons {history : List PairingObservation} {observation : PairingObservation}
    (other : ∀ cause, observation ≠ .ended cause) : Over (observation :: history) ↔ Over history := by
  constructor
  · rintro ⟨cause, there⟩
    rcases List.mem_cons.mp there with same | old
    · exact absurd same.symm (other cause)
    · exact ⟨cause, old⟩
  · rintro ⟨cause, there⟩
    exact ⟨cause, List.mem_cons_of_mem _ there⟩

/-- The life of the connection so far. -/
def LinkFits (history : List PairingObservation) : Link → Prop
  | .none => .opened ∉ history ∧ .closed ∉ history ∧ .cancelPairing ∉ history
  | .open => .opened ∈ history ∧ .closed ∉ history ∧ .cancelPairing ∉ history
  | .canceling => .opened ∈ history ∧ .closed ∉ history
  | .closed => .opened ∈ history ∧ .closed ∈ history

/-- An observation that is not about the connection. -/
def Unlinked : PairingObservation → Prop
  | .opened | .closed | .cancelPairing => False
  | _ => True

theorem linkFits_cons {history : List PairingObservation} {observation : PairingObservation} {link : Link}
    (unlinked : Unlinked observation) (fits : LinkFits history link) : LinkFits (observation :: history) link := by
  have opened : observation ≠ .opened := by rintro rfl; exact unlinked
  have closed : observation ≠ .closed := by rintro rfl; exact unlinked
  have cancel : observation ≠ .cancelPairing := by rintro rfl; exact unlinked
  cases link <;> simp only [LinkFits, List.mem_cons, opened.symm, closed.symm, cancel.symm, false_or] at fits ⊢ <;>
    exact fits

/-! ## Answers -/

/-- An observation that is no invocation and answers none. -/
def Quiet : PairingObservation → Prop
  | .received _ | .granted _ _ | .acknowledged _ | .refused _ _ _ => False
  | _ => True

/-- Every invocation so far is answered, waits for the user or is in hand. -/
structure Ledger (hand waiting : Option Nat) (next : Nat) (history : List PairingObservation) : Prop where
  accounted : ∀ invocation, history.countP (answersTo invocation) + (if waiting = some invocation then 1 else 0) +
    (if hand = some invocation then 1 else 0) = history.count (.received invocation)
  numbered : ∀ invocation, .received invocation ∈ history → invocation < next
  single : ∀ invocation, history.count (.received invocation) ≤ 1

namespace Ledger

variable {hand waiting : Option Nat} {next : Nat} {history : List PairingObservation}
variable {observation : PairingObservation}

theorem quiet (ledger : Ledger hand waiting next history) (quiet : Quiet observation) :
    Ledger hand waiting next (observation :: history) := by
  have unreceived (invocation : Nat) : observation ≠ .received invocation := by
    rintro rfl
    exact quiet
  have unanswered (invocation : Nat) : ¬answersTo invocation observation = true := by
    cases observation <;> first | exact Bool.false_ne_true | exact quiet.elim
  refine ⟨fun invocation => ?_, fun invocation there => ?_, fun invocation => ?_⟩
  · rw [List.countP_cons_of_neg (unanswered invocation), List.count_cons_of_ne (unreceived invocation)]
    exact ledger.accounted invocation
  · rcases List.mem_cons.mp there with new | old
    · exact absurd new.symm (unreceived invocation)
    · exact ledger.numbered invocation old
  · rw [List.count_cons_of_ne (unreceived invocation)]
    exact ledger.single invocation

theorem quiets {observed : List PairingObservation} (ledger : Ledger hand waiting next history)
    (quiet : ∀ observation ∈ observed, Quiet observation) : Ledger hand waiting next (observed ++ history) := by
  induction observed with
  | nil => exact ledger
  | cons observation observed ih =>
    have rest := ih (fun other there => quiet other (List.mem_cons_of_mem _ there))
    exact rest.quiet (quiet observation List.mem_cons_self)

/-- What an answer changes: one more is answered. -/
theorem answered (ledger : Ledger hand waiting next history) (invocation : Nat) {later held : Option Nat}
    (answers : ∀ other, answersTo other observation = decide (invocation = other))
    (moves : ∀ other, (if later = some other then 1 else 0) + (if held = some other then 1 else 0) +
      (if invocation = other then 1 else 0) =
      (if waiting = some other then 1 else 0) + (if hand = some other then 1 else 0)) :
    Ledger held later next (observation :: history) := by
  have unreceived (other : Nat) : observation ≠ .received other := by
    rintro rfl
    have none := answers invocation
    simp [answersTo] at none
  refine ⟨fun other => ?_, fun other there => ?_, fun other => ?_⟩
  · have known := ledger.accounted other
    have moved := moves other
    rw [List.countP_cons, List.count_cons_of_ne (unreceived other), ← known, answers other]
    simp only [decide_eq_true_eq]
    omega
  · rcases List.mem_cons.mp there with new | old
    · exact absurd new.symm (unreceived other)
    · exact ledger.numbered other old
  · rw [List.count_cons_of_ne (unreceived other)]
    exact ledger.single other

/-- The invocation in hand is put aside for the user. -/
theorem hold {invocation : Nat} (ledger : Ledger (some invocation) none next history) :
    Ledger none (some invocation) next history := by
  refine ⟨fun other => ?_, ledger.numbered, ledger.single⟩
  have known := ledger.accounted other
  simpa using known

theorem receive (ledger : Ledger none waiting next history) :
    Ledger (some next) waiting (next + 1) (.received next :: history) := by
  have fresh : history.count (.received next) = 0 := by
    rw [List.count_eq_zero]
    intro there
    exact absurd (ledger.numbered _ there) (Nat.lt_irrefl _)
  refine ⟨fun invocation => ?_, fun invocation there => ?_, fun invocation => ?_⟩
  · have known := ledger.accounted invocation
    rw [List.countP_cons_of_neg (by simp [answersTo]), List.count_cons, ← known]
    simp only [beq_iff_eq, PairingObservation.received.injEq, Option.some.injEq, reduceCtorEq, if_false]
    omega
  · rcases List.mem_cons.mp there with new | old
    · cases new
      exact Nat.lt_succ_self _
    · exact Nat.lt_succ_of_lt (ledger.numbered invocation old)
  · rw [List.count_cons]
    split
    · rename_i same
      cases beq_iff_eq.mp same
      omega
    · exact ledger.single invocation

end Ledger

/-! ## One observation at a time -/

namespace Pairing

variable {self : Pairing} {history : List PairingObservation} {hand : Option Nat} {invocation : Nat}

/-- The history fits the pairing; an invocation in hand is still to be answered. -/
structure Consistent (hand : Option Nat) (history : List PairingObservation) (pairing : Pairing) : Prop where
  lawful : Lawful pairing.owner pairing.device history
  live : pairing.pending.isSome = true → pairing.alive = true ∧ pairing.active = true
  ledger : Ledger hand (pairing.pending.map Prod.fst) pairing.nextInvocation history
  shown : ∀ invocation kind, pairing.pending = some (invocation, kind) →
    lastPrompt history = some ⟨invocation, pairing.owner, pairing.device, kind⟩
  going : pairing.alive = true → pairing.active = true → ¬Over history
  links : LinkFits history pairing.link
  held : pairing.connection = true ↔ pairing.link = .open
  opens : pairing.link = .open → pairing.alive = true ∧ pairing.active = true
  connecting : pairing.task = .connecting → pairing.link = .none

theorem withdraw_fields (self : Pairing) (message : String) :
    (self.withdraw message).1 = { self with pending := none } := by
  unfold Pairing.withdraw
  cases waiting : self.pending with
  | none =>
    show self = _
    rw [← waiting]
  | some request => rfl

theorem withdraw_observed (self : Pairing) (message : String) {alive active : Bool} :
    (({ self with alive, active } : Pairing).withdraw message).2 = (self.withdraw message).2 := by
  unfold Pairing.withdraw
  cases self.pending <;> rfl

namespace Consistent

theorem acted (consistent : Consistent hand history self) : Consistent hand (.acted :: history) self :=
  { consistent with
    lawful := ⟨trivial, consistent.lawful⟩
    ledger := consistent.ledger.quiet trivial
    going := by
      intro alive active
      rw [over_cons (by simp)]
      exact consistent.going alive active
    links := linkFits_cons trivial consistent.links }

/-- The invocation in hand is refused or acknowledged. -/
theorem settle (consistent : Consistent (some invocation) history self) {observation : PairingObservation}
    (settles : (∃ name message, observation = .refused invocation name message) ∨
      observation = .acknowledged invocation ∧ ¬Over history) : Consistent none (observation :: history) self := by
  have ledger : Ledger none (self.pending.map Prod.fst) self.nextInvocation (observation :: history) := by
    apply consistent.ledger.answered invocation
    · intro other
      rcases settles with ⟨name, message, rfl⟩ | ⟨rfl, -⟩ <;> simp [answersTo, beq_eq_decide]
    · intro other
      simp
  have lawful : Lawful self.owner self.device (observation :: history) := by
    rcases settles with ⟨name, message, rfl⟩ | ⟨rfl, going⟩
    · exact ⟨trivial, consistent.lawful⟩
    · exact ⟨going, consistent.lawful⟩
  rcases settles with ⟨name, message, rfl⟩ | ⟨rfl, -⟩
  all_goals exact { consistent with
    lawful := lawful
    ledger := ledger
    shown := consistent.shown
    going := by
      intro alive active
      rw [over_cons (by simp)]
      exact consistent.going alive active
    links := linkFits_cons trivial consistent.links }

/-- A new invocation comes in. -/
theorem receive (consistent : Consistent none history self) :
    Consistent (some self.nextInvocation) (.received self.nextInvocation :: history)
      { self with nextInvocation := self.nextInvocation + 1 } :=
  { consistent with
    lawful := ⟨trivial, consistent.lawful⟩
    live := consistent.live
    ledger := consistent.ledger.receive
    shown := consistent.shown
    going := by
      intro alive active
      rw [over_cons (by simp)]
      exact consistent.going alive active
    links := linkFits_cons trivial consistent.links
    held := consistent.held
    opens := consistent.opens
    connecting := consistent.connecting }

/-- The pending request is refused and waits no more. -/
theorem withdraw (consistent : Consistent hand history self) (message : String) :
    Consistent hand ((self.withdraw message).2 ++ history) (self.withdraw message).1 := by
  unfold Pairing.withdraw
  cases waiting : self.pending with
  | none => exact consistent
  | some request =>
    obtain ⟨invocation, kind⟩ := request
    have ledger := consistent.ledger
    rw [waiting] at ledger
    exact { consistent with
      lawful := ⟨trivial, consistent.lawful⟩
      live := fun nothing => by cases nothing
      ledger := by
        apply ledger.answered invocation
        · intro other
          simp [Pairing.canceled, answersTo, beq_eq_decide]
        · intro other
          simp
          omega
      shown := fun other kind nothing => by cases nothing
      going := by
        intro alive active
        show ¬Over (.refused invocation _ _ :: history)
        rw [over_cons (by simp)]
        exact consistent.going alive active
      links := linkFits_cons trivial consistent.links
      held := consistent.held
      opens := consistent.opens
      connecting := consistent.connecting }

/-- What is on the screen does not matter. -/
theorem redraw (consistent : Consistent hand history self) {after : Pairing}
    (same : after = { self with
      message := after.message, text := after.text, entryVisible := after.entryVisible
      acceptVisible := after.acceptVisible, panelVisible := after.panelVisible, error := after.error }) :
    Consistent hand history after := by
  rw [same]
  exact { consistent with
    lawful := consistent.lawful
    live := consistent.live
    ledger := consistent.ledger
    shown := consistent.shown
    going := consistent.going
    links := consistent.links
    held := consistent.held
    opens := consistent.opens
    connecting := consistent.connecting }

theorem leave (consistent : Consistent hand history self) (task : Task) (other : task ≠ .connecting) :
    Consistent hand history { self with task } :=
  { consistent with
    lawful := consistent.lawful
    live := consistent.live
    ledger := consistent.ledger
    shown := consistent.shown
    going := consistent.going
    links := consistent.links
    held := consistent.held
    opens := consistent.opens
    connecting := fun same => absurd same other }

/-- A pairing that waits for nobody is over once this is observed. -/
theorem halt (consistent : Consistent hand history self) (idle : self.pending = none)
    {alive active connection registration : Bool} {link : Link} {observed : List PairingObservation}
    (ended : ¬(alive = true ∧ active = true)) (quiet : ∀ observation ∈ observed, Quiet observation)
    (lawful : Lawful self.owner self.device (observed ++ history)) (fits : LinkFits (observed ++ history) link)
    (off : connection = false) (given : link ≠ .open) (connecting : self.task = .connecting → link = .none) :
    Consistent hand (observed ++ history) { self with alive, active, connection, registration, link } where
  lawful := lawful
  live := by
    intro waiting
    change self.pending.isSome = true at waiting
    rw [idle] at waiting
    cases waiting
  ledger := consistent.ledger.quiets quiet
  shown := by
    intro invocation kind waiting
    change self.pending = _ at waiting
    rw [idle] at waiting
    cases waiting
  going := fun alive active => absurd ⟨alive, active⟩ ended
  links := fits
  held := by
    constructor
    · intro connected
      exact absurd (off.symm.trans connected) (by decide)
    · intro opened
      exact absurd opened given
  opens := fun opened => absurd opened given
  connecting := connecting

/-- The end is observed, then the connection is given up. -/
theorem closing (consistent : Consistent hand history self) (idle : self.pending = none)
    (going : self.alive = true ∧ self.active = true) {alive active cancel : Bool} {cause : Cause}
    (ended : ¬(alive = true ∧ active = true)) (unlucky : cancel = true → cause ≠ .paired ∧ cause ≠ .released) :
    Consistent hand ((({ self with alive, active } : Pairing).close cancel).2 ++ .ended cause :: history)
      (({ self with alive, active } : Pairing).close cancel).1 := by
  have marked : Lawful self.owner self.device (.ended cause :: history) :=
    ⟨consistent.going going.1 going.2, consistent.lawful⟩
  unfold Pairing.close
  cases connected : self.connection with
  | false =>
    have given : self.link ≠ .open := by
      intro opened
      exact absurd (connected.symm.trans (consistent.held.mpr opened)) (by decide)
    have halted : Consistent hand ([.ended cause] ++ history) { self with alive, active } :=
      consistent.halt idle ended (by simp [Quiet]) marked (linkFits_cons trivial consistent.links) connected given
        consistent.connecting
    simpa [connected] using halted
  | true =>
    have opened := consistent.held.mp connected
    have fits := consistent.links
    rw [opened] at fits
    obtain ⟨opening, unclosed, uncanceled⟩ := fits
    have late : self.task ≠ .connecting := by
      intro connecting
      exact absurd (opened.symm.trans (consistent.connecting connecting)) (by simp)
    cases cancel with
    | true =>
      have halted : Consistent hand ([.cancelPairing, .ended cause] ++ history)
          { self with alive, active, connection := false, registration := false, link := .canceling } :=
        consistent.halt idle ended (by simp [Quiet])
          ⟨⟨by simpa using uncanceled, cause, List.mem_cons_self, unlucky rfl⟩, marked⟩
          ⟨by simpa using opening, by simpa using unclosed⟩ rfl (by simp) (fun connecting => absurd connecting late)
      simpa [connected] using halted
    | false =>
      have halted : Consistent hand ([.closed, .ended cause] ++ history)
          { self with alive, active, connection := false, registration := false, link := .closed } :=
        consistent.halt idle ended (by simp [Quiet]) ⟨by simpa [Permitted] using unclosed, marked⟩
          ⟨by simpa using opening, List.mem_cons_self⟩ rfl (by simp) (fun connecting => absurd connecting late)
      simpa [connected] using halted

/-! ## The operations -/

theorem finish (consistent : Consistent hand history self) (alive : self.alive = true) (error : Option String)
    (cancel : Bool) (cause : Cause) (unlucky : cancel = true → cause ≠ .paired ∧ cause ≠ .released) :
    Consistent hand ((self.finish error cancel cause).2 ++ history) (self.finish error cancel cause).1 := by
  unfold Pairing.finish
  cases active : self.active with
  | false => exact consistent
  | true =>
    have withdrawn := consistent.withdraw "Pairing ended"
    rw [withdraw_fields] at withdrawn
    let hidden : Pairing := { self with
      pending := none, text := "", panelVisible := false
      error := error.getD "Paired. Select Connect to use the device." }
    have unseen : Consistent hand _ hidden := withdrawn.redraw rfl
    have closed : Consistent hand ((({ hidden with active := false } : Pairing).close cancel).2 ++ _) _ :=
      unseen.closing rfl ⟨alive, active⟩ (by simp) unlucky
    simpa [hidden, withdraw_fields, withdraw_observed] using closed

theorem drop (consistent : Consistent hand history self) (alive : self.alive = true) :
    Consistent hand (self.drop.2 ++ history) self.drop.1 := by
  have withdrawn := consistent.withdraw "Pairing closed"
  rw [withdraw_fields] at withdrawn
  unfold Pairing.drop
  cases active : self.active with
  | true =>
    have closed : Consistent hand ((({ self with pending := none, alive := false } : Pairing).close true).2 ++
        .ended .dropped :: _) _ := withdrawn.closing rfl ⟨alive, active⟩ (by simp) (by simp)
    simpa [active, withdraw_fields, withdraw_observed] using closed
  | false =>
    have given : self.link ≠ .open := by
      intro opened
      exact absurd (active.symm.trans (consistent.opens opened).2) (by decide)
    have unlinked : self.connection = false := by
      rw [← Bool.not_eq_true, consistent.held]
      exact given
    have halted : Consistent hand ([] ++ _) { self with pending := none, alive := false } :=
      withdrawn.halt rfl (by simp) (by simp) withdrawn.lawful withdrawn.links unlinked given consistent.connecting
    simp only [withdraw_fields, withdraw_observed]
    simpa [active, Pairing.close, unlinked] using halted

theorem respond (consistent : Consistent none history self) (text : String) :
    Consistent none ((self.respond text).2 ++ history) (self.respond text).1 := by
  unfold Pairing.respond
  split
  · exact consistent.acted
  · rename_i invocation kind waiting
    split
    · exact consistent.acted.redraw rfl
    · rename_i value answered
      obtain ⟨alive, active⟩ := consistent.live (by rw [waiting]; rfl)
      have ledger := consistent.ledger
      rw [waiting] at ledger
      have unanswered : history.countP (answersTo invocation) = 0 := by
        have known := ledger.accounted invocation
        have once := ledger.single invocation
        simp only [Option.map_some, if_true] at known
        omega
      exact { consistent with
        lawful := ⟨⟨consistent.acted.going alive active, history, kind, text, rfl,
          consistent.shown invocation kind waiting, unanswered, answered⟩, trivial, consistent.lawful⟩
        live := by
          intro nothing
          cases nothing
        ledger := by
          have acted : Ledger none (some invocation) self.nextInvocation (.acted :: history) := ledger.quiet trivial
          apply acted.answered invocation
          · intro other
            simp [answersTo, beq_eq_decide]
          · intro other
            simp
        shown := by
          intro other kind nothing
          cases nothing
        going := by
          intro alive active
          show ¬Over (.granted invocation value :: .acted :: history)
          rw [over_cons (by simp)]
          exact consistent.acted.going alive active
        links := linkFits_cons trivial consistent.acted.links
        held := consistent.held
        opens := consistent.opens
        connecting := consistent.connecting }

/-- Something to type is shown while nothing waits. -/
theorem display (consistent : Consistent hand history self) (idle : self.pending = none)
    (alive : self.alive = true) (active : self.active = true) :
    Consistent hand (.displayed invocation :: history) self :=
  { consistent with
    lawful := ⟨consistent.going alive active, consistent.lawful⟩
    ledger := consistent.ledger.quiet trivial
    shown := by
      intro other kind waiting
      rw [idle] at waiting
      cases waiting
    going := by
      intro alive active
      rw [over_cons (by simp)]
      exact consistent.going alive active
    links := linkFits_cons trivial consistent.links }

theorem ask (consistent : Consistent (some invocation) history self)
    (alive : self.alive = true) (active : self.active = true) (method : AgentMethod) :
    Consistent none ((self.ask invocation self.owner method).2 ++ history) (self.ask invocation self.owner method).1 := by
  unfold Pairing.ask
  split
  · exact consistent.settle (.inl ⟨_, _, rfl⟩)
  · rename_i expected
    rw [not_or] at expected
    obtain ⟨-, idle⟩ := expected
    replace idle : self.pending = none := by simpa using idle
    split
    · exact consistent.settle (.inl ⟨_, _, rfl⟩)
    · rename_i message kind asked
      cases kind with
      | none =>
        have displayed : Consistent (some invocation) (.displayed invocation :: history) self :=
          consistent.display idle alive active
        have acknowledged := displayed.settle (.inr ⟨rfl, displayed.going alive active⟩)
        exact acknowledged.redraw rfl
      | some kind =>
        have ledger := consistent.ledger
        rw [idle] at ledger
        exact {
          lawful := ⟨consistent.going alive active, consistent.lawful⟩
          live := by
            intro waiting
            exact ⟨alive, active⟩
          ledger := by
            have prompted : Ledger (some invocation) none _ (.prompted invocation self.owner self.device kind :: history) :=
              ledger.quiet trivial
            exact prompted.hold
          shown := by
            intro other asked same
            cases same
            rfl
          going := by
            intro alive active
            show ¬Over (.prompted invocation self.owner self.device kind :: history)
            rw [over_cons (by simp)]
            exact consistent.going alive active
          links := linkFits_cons trivial consistent.links
          held := consistent.held
          opens := consistent.opens
          connecting := consistent.connecting }

theorem request (consistent : Consistent (some invocation) history self) (alive : self.alive = true)
    (sender : Option String) (method : AgentMethod) :
    Consistent none ((self.request invocation sender method).2 ++ history) (self.request invocation sender method).1 := by
  unfold Pairing.request
  split
  · exact consistent.settle (.inl ⟨_, _, rfl⟩)
  · rename_i known
    rw [not_or, not_not] at known
    obtain ⟨named, active⟩ := known
    replace active : self.active = true := by simpa using active
    split
    · have withdrawn := consistent.withdraw "Agent request canceled"
      have going : ¬Over ((self.withdraw "Agent request canceled").2 ++ history) := by
        rw [withdraw_fields] at withdrawn
        exact withdrawn.going alive active
      have acknowledged := withdrawn.settle (.inr ⟨rfl, going⟩)
      exact acknowledged.redraw rfl
    · have acknowledged : Consistent none (.acknowledged invocation :: history) self := 
        consistent.settle (.inr ⟨rfl, consistent.going alive active⟩)
      have finished := acknowledged.finish alive (some "Pairing ended by Bluetooth service") false .released (by simp)
      simpa using finished
    · rw [named]
      exact consistent.ask alive active method

theorem methodCall (consistent : Consistent none history self) (sender : Option String) (method : AgentMethod) :
    Consistent none ((self.methodCall sender method).2 ++ history) (self.methodCall sender method).1 := by
  have received := consistent.receive
  unfold Pairing.methodCall
  cases alive : self.alive with
  | true =>
    have answered := received.request alive sender method
    simpa [alive] using answered
  | false =>
    have refused := received.settle (.inl ⟨"org.bluez.Error.Canceled", "Pairing closed", rfl⟩)
    simpa [alive, Pairing.canceled] using refused

/-- The connection comes too late and is closed at once. -/
theorem wasted (consistent : Consistent hand history self) (given : self.link = .none) :
    Consistent hand (.closed :: .opened :: history) { self with task := .done, link := .closed } := by
  have fits := consistent.links
  rw [given] at fits
  have unlinked : self.connection = false := by
    rw [← Bool.not_eq_true, consistent.held, given]
    simp
  exact { consistent with
    lawful := ⟨by simpa [Permitted] using fits.2.1, trivial, consistent.lawful⟩
    live := consistent.live
    ledger := by
      have opened : Ledger hand _ _ (.opened :: history) := consistent.ledger.quiet trivial
      exact opened.quiet trivial
    shown := consistent.shown
    going := by
      intro alive active
      rw [over_cons (by simp), over_cons (by simp)]
      exact consistent.going alive active
    links := by simp [LinkFits]
    held := by simp [unlinked]
    opens := by simp
    connecting := by simp }

/-- The connection is opened in time. -/
theorem joined (consistent : Consistent hand history self) (given : self.link = .none)
    (alive : self.alive = true) (active : self.active = true) :
    Consistent hand (.opened :: history)
      { self with task := .registering, registration := true, connection := true, link := .open } := by
  have fits := consistent.links
  rw [given] at fits
  exact { consistent with
    lawful := ⟨trivial, consistent.lawful⟩
    live := consistent.live
    ledger := consistent.ledger.quiet trivial
    shown := consistent.shown
    going := by
      intro alive active
      rw [over_cons (by simp)]
      exact consistent.going alive active
    links := by simpa [LinkFits] using fits.2
    held := by simp
    opens := by simp [alive, active]
    connecting := by simp }

theorem connected (consistent : Consistent hand history self) (result registration : Except String Unit) :
    Consistent hand ((self.connected result registration).2 ++ history) (self.connected result registration).1 := by
  unfold Pairing.connected
  split
  · exact consistent
  · rename_i connecting
    rw [not_not] at connecting
    have given := consistent.connecting connecting
    cases result with
    | error error =>
      dsimp only
      split
      · rename_i alive
        exact (consistent.leave .done (by simp)).finish alive (some error) false .connectionFailed (by simp)
      · exact consistent.leave .done (by simp)
    | ok =>
      dsimp only
      split
      · exact consistent.wasted given
      · rename_i going
        simp only [Bool.or_eq_true, Bool.not_eq_true', not_or, Bool.not_eq_false] at going
        cases registration with
        | error error =>
          have finished := (consistent.wasted given).finish going.1 (some error) false .registrationFailed (by simp)
          simpa using finished
        | ok => exact consistent.joined given going.1 going.2

theorem registered (consistent : Consistent hand history self) (result : Except String Unit) :
    Consistent hand ((self.registered result).2 ++ history) (self.registered result).1 := by
  unfold Pairing.registered
  split
  · exact consistent
  · split
    · exact consistent.leave .done (by simp)
    · rename_i going
      simp only [Bool.or_eq_true, Bool.not_eq_true', not_or, Bool.not_eq_false] at going
      cases result with
      | error error => exact (consistent.leave .done (by simp)).finish going.1 (some error) false .agentFailed (by simp)
      | ok => exact consistent.leave .pairing (by simp)

theorem paired (consistent : Consistent hand history self) (result : Except String Unit) :
    Consistent hand ((self.paired result).2 ++ history) (self.paired result).1 := by
  unfold Pairing.paired
  split
  · exact consistent
  · split
    · exact consistent.leave .done (by simp)
    · rename_i alive
      replace alive : self.alive = true := by simpa using alive
      cases result with
      | error error =>
        exact (consistent.leave .done (by simp)).finish alive (some s!"Pairing failed: {error}") true .pairFailed (by simp)
      | ok => exact (consistent.leave .done (by simp)).finish alive none false .paired (by simp)

/-- `CancelPairing` was answered, so the connection is closed. -/
theorem cancelAnswered (consistent : Consistent hand history self) (canceling : self.link = .canceling) :
    Consistent hand (.closed :: history) { self with link := .closed } := by
  have fits := consistent.links
  have unlinked : self.connection = false := by
    rw [← Bool.not_eq_true, consistent.held, canceling]
    simp
  rw [canceling] at fits
  exact { consistent with
    lawful := ⟨fits.2, consistent.lawful⟩
    live := consistent.live
    ledger := consistent.ledger.quiet trivial
    shown := consistent.shown
    going := by
      intro alive active
      rw [over_cons (by simp)]
      exact consistent.going alive active
    links := by simpa [LinkFits] using fits.1
    held := by simp [unlinked]
    opens := by simp
    connecting := by
      intro connecting
      exact absurd (canceling.symm.trans (consistent.connecting connecting)) (by simp) }

theorem step (consistent : Consistent none history self) (event : PairingEvent) :
    Consistent none ((self.step event).2 ++ history) (self.step event).1 := by
  cases event with
  | methodCall sender method => exact consistent.methodCall sender method
  | connected result registration => exact consistent.connected result registration
  | registered result => exact consistent.registered result
  | paired result => exact consistent.paired result
  | respond text =>
    unfold Pairing.step
    dsimp only
    split
    · exact consistent.respond text
    · exact consistent
  | cancel =>
    unfold Pairing.step
    dsimp only
    split
    · rename_i alive
      exact consistent.finish alive (some "Pairing canceled") true .canceled (by simp)
    · exact consistent
  | deviceRemoved =>
    unfold Pairing.step
    dsimp only
    split
    · rename_i alive
      exact consistent.finish alive (some "Pairing canceled: Bluetooth device disappeared") true .deviceRemoved (by simp)
    · exact consistent
  | cancelAnswered =>
    unfold Pairing.step
    dsimp only
    split
    · rename_i canceling
      exact consistent.cancelAnswered canceling
    · exact consistent
  | drop =>
    unfold Pairing.step
    dsimp only
    split
    · rename_i alive
      exact consistent.drop alive
    · exact consistent

theorem start (starts : Starts self) : Consistent none [] self := by
  obtain ⟨owner, device, title, rfl⟩ := starts
  exact {
    lawful := trivial
    live := by simp
    ledger := ⟨by simp, by simp, by simp⟩
    shown := by simp
    going := by simp [Over]
    links := by simp [LinkFits]
    held := by simp
    opens := by simp
    connecting := by simp }

end Consistent

theorem Execution.consistent (run : Execution history self) : Consistent none history self := by
  induction run with
  | start begun => exact .start begun
  | step event _ _ ih => exact ih.step event

end Pairing

/-! ## The pairing -/

/-- An observation that a pairing makes after its end. -/
def Posthumous : PairingObservation → Prop
  | .prompted _ _ _ _ | .displayed _ | .acknowledged _ | .granted _ _ | .ended _ => False
  | _ => True

theorem posthumous {owner device : String} {later earlier : List PairingObservation} {cause : Cause}
    (lawful : Lawful owner device (later ++ .ended cause :: earlier)) : ∀ observation ∈ later, Posthumous observation := by
  induction later with
  | nil => simp
  | cons newest later ih =>
    obtain ⟨permitted, lawful⟩ := lawful
    have past : Over (later ++ .ended cause :: earlier) := ⟨cause, by simp⟩
    have now : Posthumous newest := by
      cases newest
      case granted => exact permitted.1 past
      all_goals first | exact permitted past | trivial
    intro observation there
    rcases List.mem_cons.mp there with rfl | old
    · exact now
    · exact ih lawful observation old

theorem closed_once {owner device : String} {history : List PairingObservation} (lawful : Lawful owner device history) :
    history.count .closed ≤ 1 := by
  induction history with
  | nil => simp
  | cons observation history ih =>
    have before := ih lawful.2
    by_cases closes : observation = .closed
    · subst closes
      have first : history.count .closed = 0 := List.count_eq_zero.mpr lawful.1
      rw [List.count_cons_self]
      omega
    · rw [List.count_cons_of_ne closes]
      exact before

/-- What holds of a pairing in whatever order requests, actions of the user and answers come. -/
structure PairingSound (history : List PairingObservation) (pairing : Pairing) : Prop where
  /-- A call is answered once, or it is the one that waits for the user. -/
  answered : ∀ invocation, .received invocation ∈ history → history.countP (answersTo invocation) +
    (if pairing.pending.map Prod.fst = some invocation then 1 else 0) = 1
  unasked : ∀ invocation, .received invocation ∉ history → history.countP (answersTo invocation) = 0
  /-- Only a going pairing waits for the user. -/
  waiting : pairing.pending.isSome = true → ¬Over history
  /-- A value goes to the unanswered request of the owner for the device that the user was shown last, when the
  user acts. -/
  granted : ∀ later earlier invocation value, history = later ++ .granted invocation value :: earlier →
    ∃ before kind text, earlier = .acted :: before ∧
      lastPrompt before = some ⟨invocation, pairing.owner, pairing.device, kind⟩ ∧
      before.countP (answersTo invocation) = 0 ∧ answer kind text = some value
  passkey : ∀ invocation number, .granted invocation (.passkey number) ∈ history → number ≤ 999999
  /-- After the end nothing is shown or accepted, and there is no other end. -/
  ended : ∀ later earlier cause, history = later ++ .ended cause :: earlier →
    ¬Over earlier ∧ ∀ observation ∈ later, Posthumous observation
  closed : history.count .closed ≤ 1
  /-- After the end the connection is closed, or will be when `CancelPairing` is answered. -/
  released : Over history → .opened ∈ history → .closed ∈ history ∨ pairing.link = .canceling
  canceled : ∀ later earlier, history = later ++ .cancelPairing :: earlier → .cancelPairing ∉ earlier ∧
    ∃ cause, .ended cause ∈ earlier ∧ cause ≠ .paired ∧ cause ≠ .released

theorem Pairing.pairing_sound {history : List PairingObservation} {pairing : Pairing}
    (run : Execution history pairing) : PairingSound history pairing := by
  have consistent := run.consistent
  have granted : ∀ later earlier invocation value, history = later ++ .granted invocation value :: earlier →
      Permitted pairing.owner pairing.device (.granted invocation value) earlier := by
    rintro later earlier invocation value rfl
    exact consistent.lawful.split
  exact {
    answered := by
      intro invocation there
      have known := consistent.ledger.accounted invocation
      have once := consistent.ledger.single invocation
      have received : 0 < history.count (.received invocation) := List.count_pos_iff.mpr there
      simp only [reduceCtorEq, if_false] at known
      omega
    unasked := by
      intro invocation absent
      have known := consistent.ledger.accounted invocation
      rw [List.count_eq_zero.mpr absent] at known
      omega
    waiting := by
      intro waits
      obtain ⟨alive, active⟩ := consistent.live waits
      exact consistent.going alive active
    granted := by
      intro later earlier invocation value split
      exact (granted later earlier invocation value split).2
    passkey := by
      intro invocation number there
      obtain ⟨later, earlier, split⟩ := List.append_of_mem there
      obtain ⟨-, before, kind, text, -, -, -, answered⟩ := granted later earlier invocation _ split
      exact answer_bounded answered
    ended := by
      rintro later earlier cause rfl
      exact ⟨consistent.lawful.split, posthumous consistent.lawful⟩
    closed := closed_once consistent.lawful
    released := by
      intro past opened
      have fits := consistent.links
      cases link : pairing.link with
      | none =>
        rw [link] at fits
        exact absurd opened fits.1
      | «open» =>
        obtain ⟨alive, active⟩ := consistent.opens link
        exact absurd past (consistent.going alive active)
      | canceling => exact .inr rfl
      | closed =>
        rw [link] at fits
        exact .inl fits.2
    canceled := by
      rintro later earlier rfl
      exact consistent.lawful.split }

/-- The device's number is confirmed and the pairing succeeds. -/
def confirmed : List PairingEvent := [
  .connected (.ok ()) (.ok ()),
  .registered (.ok ()),
  .methodCall (some ":1.5") (.requestConfirmation "/org/bluez/hci0/dev" 1387),
  .respond "",
  .paired (.ok ())]

def headphones : Pairing :=
  { owner := ":1.5", device := "/org/bluez/hci0/dev", title := "Headphones", message := "Pairing with Headphones…" }

theorem pairing_sound_confirmed : PairingSound (Transition.execute Pairing.step headphones confirmed).2
    (Transition.execute Pairing.step headphones confirmed).1 := by
  have starts : headphones.Starts := ⟨":1.5", "/org/bluez/hci0/dev", "Headphones", rfl⟩
  have run : Pairing.Execution _ _ :=
    Transition.Run.execute confirmed (.start starts) (Transition.permits_unrestricted _ _ _ _)
  rw [List.append_nil] at run
  exact Pairing.pairing_sound run

end Luma.Shell
