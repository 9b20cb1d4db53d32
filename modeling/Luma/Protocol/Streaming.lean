import Mathlib.Data.List.Induction
import Luma.Protocol.Channel

/-! A connection's packets taken together.

What a list of sends writes, what a list of receives makes of it, and what the
sequence numbers notice when whole packets arrive in another order.
-/

set_option autoImplicit false

namespace Luma.Protocol.Channel

open Luma.Library

/-- Send every message in turn, also after one was refused. -/
def sendEach (self : Channel) : List Message → List (Except ProtocolError Unit) × Channel
  | [] => ([], self)
  | message :: rest =>
      let sent := self.send message
      let others := sendEach sent.2 rest
      (sent.1 :: others.1, others.2)

def recvEach (self : Channel) : Nat → List (Except ProtocolError Message) × Channel
  | 0 => ([], self)
  | count + 1 =>
      let received := self.recv
      let others := recvEach received.2 count
      (received.1 :: others.1, others.2)

/-- The messages whose send succeeded. -/
def accepted : List Message → List (Except ProtocolError Unit) → List Message
  | message :: messages, .ok () :: outcomes => message :: accepted messages outcomes
  | _ :: messages, .error _ :: outcomes => accepted messages outcomes
  | _, _ => []

theorem accepted_subset (messages : List Message) (outcomes : List (Except ProtocolError Unit)) :
    accepted messages outcomes ⊆ messages := by
  induction messages generalizing outcomes with
  | nil => cases outcomes <;> simp [accepted]
  | cons message messages ih =>
    rcases outcomes with _ | ⟨failure | ⟨⟩, outcomes⟩
    · simp [accepted]
    · intro other member
      exact List.mem_cons_of_mem _ (ih outcomes member)
    · intro other member
      rcases List.mem_cons.mp member with same | rest
      · exact same ▸ List.mem_cons_self
      · exact List.mem_cons_of_mem _ (ih outcomes rest)

/-- The octets of one message in a packet of its own. -/
def packet (sequence : UInt32) (message : Message) : List UInt8 :=
  header message.kind (UInt32.ofNat message.payload.length) sequence ++ message.payload

def packets : UInt32 → List Message → List (List UInt8)
  | _, [] => []
  | sequence, message :: rest => packet sequence message :: packets (sequence + 1) rest

theorem number_succ (sequence : UInt32) (place : Nat) :
    sequence + 1 + UInt32.ofNat place = sequence + UInt32.ofNat (place + 1) := by
  rw [UInt32.ofNat_add, UInt32.add_assoc, UInt32.add_comm 1]
  rfl

def Framable (message : Message) : Prop := message.payload.length ≤ maximumFor message.kind

instance : DecidablePred Framable := fun message =>
  inferInstanceAs (Decidable (message.payload.length ≤ maximumFor message.kind))

/-! ## Sending -/

/-- A failed send is a refusal that writes nothing, or a broken stream. -/
theorem send_failed {self after : Channel} {message : Message} {failure : ProtocolError}
    (failed : self.send message = (.error failure, after)) :
    (after = self ∧ ∃ what length maximum, failure = .oversized what length maximum) ∨
      failure = .io "Broken pipe" := by
  unfold send at failed
  rcases encodeMessage_eq message with encoded | ⟨_, _, _, _, encoded⟩
  · rw [encoded] at failed
    dsimp only at failed
    by_cases oversized : message.payload.length > maximumFor message.kind
    · rw [if_pos oversized] at failed
      cases failed
      exact .inl ⟨rfl, _, _, _, rfl⟩
    · rw [if_neg oversized] at failed
      have broken {start : Channel} {bytes : List UInt8} {reason : ProtocolError} {stopped : Channel}
          (wrote : start.writeAll bytes = (.error reason, stopped)) : reason = .io "Broken pipe" := by
        unfold writeAll at wrote
        split at wrote
        · cases wrote
        · cases wrote
          rfl
      split at failed
      · rename_i first
        cases failed
        exact .inr (broken first)
      · split at failed
        · rename_i second
          cases failed
          exact .inr (broken second)
        · cases failed
  · rw [encoded] at failed
    cases failed
    exact .inl ⟨rfl, _, _, _, rfl⟩

theorem send_oversized {self after : Channel} {message : Message} {what : String} {length maximum : Nat}
    (refused : self.send message = (.error (.oversized what length maximum), after)) : after = self := by
  rcases send_failed refused with ⟨same, _⟩ | broken
  · exact same
  · cases broken

/-- On a stream that does not break, the accepted messages go out as consecutive packets. -/
theorem sendEach_written (self : Channel) (messages : List Message)
    (intact : ∀ outcome ∈ (self.sendEach messages).1, ∀ error, outcome ≠ .error (.io error)) :
    let sent := accepted messages (self.sendEach messages).1
    (∀ message ∈ sent, Framable message) ∧
      (self.sendEach messages).2.stream.outbound =
        self.stream.outbound ++ (packets self.nextSend sent).flatten ∧
      (self.sendEach messages).2.nextSend = self.nextSend + UInt32.ofNat sent.length := by
  induction messages generalizing self with
  | nil => simp [sendEach, accepted, packets]
  | cons message messages ih =>
    rcases result : self.send message with ⟨failure | ⟨⟩, after⟩
    · have others := ih after (by
        intro outcome later
        apply intact
        simp only [sendEach, result]
        exact List.mem_cons_of_mem _ later)
      have refused : after = self := by
        rcases send_failed result with ⟨same, _⟩ | broken
        · exact same
        · exact absurd (congrArg Except.error broken) (intact _ (by simp [sendEach, result]) _)
      rw [refused] at others
      simpa only [sendEach, result, accepted, refused] using others
    · obtain ⟨fits, wrote, numbered⟩ := ih after (by
        intro outcome later
        apply intact
        simp only [sendEach, result]
        exact List.mem_cons_of_mem _ later)
      obtain ⟨bounded, advanced, written⟩ := send_ok result
      simp only [sendEach, result, accepted]
      refine ⟨?_, ?_, ?_⟩
      · intro other member
        rcases List.mem_cons.mp member with same | rest
        · rw [same]
          exact bounded
        · exact fits other rest
      · rw [wrote, written, advanced, packets, List.flatten_cons, packet, List.append_assoc]
      · rw [numbered, advanced, number_succ, List.length_cons]

/-! ## Receiving -/

theorem recv_packet {self : Channel} {message : Message} {later : List UInt8} (fits : Framable message)
    (receivable : message.Receivable)
    (arrived : self.stream.inbound.flatten = packet self.nextReceive message ++ later) :
    ∃ after : Channel, self.recv = (.ok message, after) ∧ after.stream.inbound.flatten = later ∧
      after.nextReceive = self.nextReceive + 1 := by
  rw [packet, List.append_assoc] at arrived
  obtain ⟨after, received, left, next⟩ := recv_of_packet fits arrived
  have decoded := decodeMessage_complete (Nat.lt_of_le_of_lt fits
    (Nat.lt_of_lt_of_le (maximumFor_lt _) (by decide))) ⟨rfl, receivable, rfl⟩
  exact ⟨after, received.trans (by rw [decoded]), left, next⟩

/-- Consecutive packets are received as the messages they carry, one by one. -/
theorem recvEach_packets (self : Channel) (messages : List Message) (later : List UInt8)
    (fits : ∀ message ∈ messages, Framable message) (receivable : ∀ message ∈ messages, message.Receivable)
    (arrived : self.stream.inbound.flatten = (packets self.nextReceive messages).flatten ++ later) :
    (self.recvEach messages.length).1 = messages.map .ok ∧
      (self.recvEach messages.length).2.stream.inbound.flatten = later ∧
      (self.recvEach messages.length).2.nextReceive = self.nextReceive + UInt32.ofNat messages.length := by
  induction messages generalizing self with
  | nil => simpa [recvEach, packets] using arrived
  | cons message messages ih =>
    rw [packets, List.flatten_cons, List.append_assoc] at arrived
    obtain ⟨after, received, left, next⟩ :=
      recv_packet (fits _ List.mem_cons_self) (receivable _ List.mem_cons_self) arrived
    rw [← next] at left
    obtain ⟨results, unread, advanced⟩ := ih after
      (fun other member => fits other (List.mem_cons_of_mem _ member))
      (fun other member => receivable other (List.mem_cons_of_mem _ member)) left
    simp only [List.length_cons, recvEach, received, List.map_cons]
    refine ⟨by rw [results], unread, ?_⟩
    rw [advanced, next, number_succ]

theorem recvEach_add (self : Channel) (first second : Nat) :
    (self.recvEach (first + second)).1 =
      (self.recvEach first).1 ++ ((self.recvEach first).2.recvEach second).1 := by
  induction first generalizing self with
  | zero => simp [recvEach]
  | succ first ih =>
    rw [Nat.add_right_comm]
    simp only [recvEach, List.cons_append]
    rw [ih]

/-- The end of the stream, met between packets. -/
theorem recv_ended {self : Channel} (ended : self.stream.inbound.flatten = []) :
    self.recv = (.error (.io "failed to fill whole buffer"),
      { self with stream := { self.stream with inbound := [] } }) := by
  have short : self.stream.inbound.flatten.length < headerLen := by
    rw [ended]
    decide
  simp only [recv, readExact, ByteStream.readExact_of_short short]

theorem recvEach_ended (self : Channel) (ended : self.stream.inbound.flatten = []) (count : Nat) :
    (self.recvEach count).1 = List.replicate count (.error (.io "failed to fill whole buffer")) := by
  induction count generalizing self with
  | zero => rfl
  | succ count ih =>
    simp only [recvEach, recv_ended ended, List.replicate_succ]
    rw [ih]
    simp

/-- A packet out of its place is refused by its number, before its payload is read. -/
theorem recv_displaced {self : Channel} {sequence : UInt32} {message : Message} {later : List UInt8}
    (arrived : self.stream.inbound.flatten = packet sequence message ++ later)
    (displaced : sequence ≠ self.nextReceive) :
    self.recv.1 = .error (.sequence self.nextReceive sequence) := by
  rw [packet, List.append_assoc] at arrived
  obtain ⟨after, read, _, kept⟩ := readExact_of_arrived arrived
  obtain ⟨magic_read, version_read, kind_read, length_read, sequence_read⟩ :=
    header_fields message.kind (UInt32.ofNat message.payload.length) sequence
  rw [header_length] at read
  simp only [recv, read, magic_read, version_read, sequence_read, kept, ne_eq, not_true_eq_false, displaced,
    not_false_eq_true, ↓reduceIte]

/-! ## A stream that is cut -/

theorem recvEach_length (self : Channel) (count : Nat) : (self.recvEach count).1.length = count := by
  induction count generalizing self with
  | zero => rfl
  | succ count ih => simp [recvEach, ih]

theorem recvEach_entry (self : Channel) {place count : Nat} (within : place < count) :
    (self.recvEach count).1[place]? = some (self.recvEach place).2.recv.1 := by
  obtain ⟨more, same⟩ : ∃ more, count = place + (more + 1) := ⟨count - place - 1, by omega⟩
  rw [same, recvEach_add, List.getElem?_append_right (Nat.le_of_eq (recvEach_length _ _)), recvEach_length]
  simp [recvEach]

/-- A packet cut short, in its header or in its payload, is the end of the stream. -/
theorem recv_truncated {self : Channel} {message : Message} {cut : Nat} (fits : Framable message)
    (short : cut < (packet self.nextReceive message).length)
    (arrived : self.stream.inbound.flatten = (packet self.nextReceive message).take cut) :
    self.recv.1 = .error (.io "failed to fill whole buffer") := by
  have size := header_length message.kind (UInt32.ofNat message.payload.length) self.nextReceive
  by_cases inside : cut < headerLen
  · have missing : self.stream.inbound.flatten.length < headerLen := by
      rw [arrived, List.length_take]
      omega
    simp only [recv, readExact, ByteStream.readExact_of_short missing]
  · -- The header is whole; the payload is not.
    have split : (packet self.nextReceive message).take cut =
        header message.kind (UInt32.ofNat message.payload.length) self.nextReceive ++
          message.payload.take (cut - headerLen) := by
      rw [packet, List.take_append, size, List.take_of_length_le (by omega)]
    obtain ⟨middle, read, left, kept⟩ := readExact_of_arrived (arrived.trans split)
    obtain ⟨magic_read, version_read, kind_read, length_read, sequence_read⟩ :=
      header_fields message.kind (UInt32.ofNat message.payload.length) self.nextReceive
    have width : (UInt32.ofNat message.payload.length).toNat = message.payload.length :=
      UInt32.toNat_ofNat_of_lt' (Nat.lt_of_le_of_lt fits (maximumFor_lt _))
    have missing : middle.stream.inbound.flatten.length < message.payload.length := by
      rw [packet, List.length_append, size] at short
      rw [left, List.length_take]
      omega
    rw [size] at read
    simp only [recv, read, magic_read, version_read, kind_read, length_read, sequence_read, kept, width, ne_eq,
      not_true_eq_false, ↓reduceIte, gt_iff_lt, Nat.not_lt.mpr fits]
    simp only [readExact, ByteStream.readExact_of_short missing]

/-- How many of the packets lie wholly within the first `cut` octets. -/
def wholePackets : Nat → List (List UInt8) → Nat
  | _, [] => 0
  | cut, bytes :: rest => if bytes.length ≤ cut then wholePackets (cut - bytes.length) rest + 1 else 0

/-- A cut stream delivers the packets before the cut and then ends. -/
theorem recvEach_cut (self : Channel) (messages : List Message) (cut : Nat)
    (fits : ∀ message ∈ messages, Framable message) (receivable : ∀ message ∈ messages, message.Receivable)
    (arrived : self.stream.inbound.flatten = (packets self.nextReceive messages).flatten.take cut) :
    let whole := wholePackets cut (packets self.nextReceive messages)
    (self.recvEach whole).1 = (messages.take whole).map .ok ∧
      (self.recvEach whole).2.recv.1 = .error (.io "failed to fill whole buffer") := by
  induction messages generalizing self cut with
  | nil =>
    have ended : self.stream.inbound.flatten = [] := by simpa [packets] using arrived
    exact ⟨rfl, by simp [packets, wholePackets, recvEach, recv_ended ended]⟩
  | cons message messages ih =>
    rw [packets, List.flatten_cons, List.take_append] at arrived
    rw [packets, wholePackets]
    by_cases within : (packet self.nextReceive message).length ≤ cut
    · rw [List.take_of_length_le within] at arrived
      obtain ⟨after, received, left, next⟩ :=
        recv_packet (fits _ List.mem_cons_self) (receivable _ List.mem_cons_self) arrived
      rw [← next] at left
      have others := ih after (cut - (packet self.nextReceive message).length)
        (fun other member => fits other (List.mem_cons_of_mem _ member))
        (fun other member => receivable other (List.mem_cons_of_mem _ member)) left
      rw [next] at others
      simp only [if_pos within, recvEach, received, List.take_succ_cons, List.map_cons]
      exact ⟨congrArg (Except.ok message :: ·) others.1, others.2⟩
    · have beyond : cut - (packet self.nextReceive message).length = 0 := by omega
      rw [beyond, List.take_zero, List.append_nil] at arrived
      simp only [if_neg within]
      exact ⟨rfl, recv_truncated (fits _ List.mem_cons_self) (Nat.lt_of_not_le within) arrived⟩

/-- What was received without an error is an initial part of the whole packets. -/
theorem received_of_cut {self : Channel} {messages received : List Message} {whole : Nat}
    (results : (self.recvEach whole).1 = (messages.take whole).map .ok)
    (ended : (self.recvEach whole).2.recv.1 = .error (.io "failed to fill whole buffer"))
    (reads : (self.recvEach received.length).1 = received.map .ok) :
    received.length ≤ whole ∧ received = (messages.take whole).take received.length := by
  have within : received.length ≤ whole := by
    by_contra beyond
    -- One more receive than there are packets is an error.
    have entry := recvEach_entry self (Nat.lt_of_not_le beyond)
    rw [ended] at entry
    rw [reads, List.getElem?_map] at entry
    cases found : received[whole]? with
    | none => rw [found] at entry; cases entry
    | some message => rw [found] at entry; cases entry
  refine ⟨within, ?_⟩
  obtain ⟨more, same⟩ : ∃ more, whole = received.length + more := ⟨whole - received.length, by omega⟩
  have front : ((self.recvEach whole).1).take received.length = received.map .ok := by
    rw [same, recvEach_add, List.take_left' (recvEach_length _ _), reads]
  rw [results, ← List.map_take] at front
  exact (List.map_injective_iff.mpr (fun _ _ equal => Except.ok.inj equal) front).symm

/-! ## Packets in another order -/

/-- The octets of the packets with the given places in the stream, in that order. -/
def reordered (sequence : UInt32) (messages : List Message) (order : List (Fin messages.length)) : List UInt8 :=
  (order.map fun place => packet (sequence + UInt32.ofNat place.val) (messages.get place)).flatten

theorem packets_get (sequence : UInt32) (messages : List Message) {place : Nat}
    (within : place < messages.length) :
    (packets sequence messages)[place]? = some (packet (sequence + UInt32.ofNat place) (messages.get ⟨place, within⟩)) := by
  induction messages generalizing sequence place with
  | nil => exact absurd within (Nat.not_lt_zero _)
  | cons message messages ih =>
    cases place with
    | zero => simp [packets]
    | succ place =>
      have shorter : place < messages.length := Nat.lt_of_succ_lt_succ within
      rw [packets, List.getElem?_cons_succ, ih _ shorter, number_succ]
      rfl

theorem packets_length (sequence : UInt32) (messages : List Message) :
    (packets sequence messages).length = messages.length := by
  induction messages generalizing sequence with
  | nil => rfl
  | cons message messages ih => simp [packets, ih]

theorem packets_take (sequence : UInt32) (messages : List Message) (count : Nat) :
    (packets sequence messages).take count = packets sequence (messages.take count) := by
  induction messages generalizing sequence count with
  | nil => simp [packets]
  | cons message messages ih =>
    cases count with
    | zero => rfl
    | succ count => simp [packets, ih]

/-- A list of places either counts up from zero or does so up to a first displaced one. -/
theorem counts_up_or_displaced {bound : Nat} (order : List (Fin bound)) :
    order.map Fin.val = List.range order.length ∨
      ∃ first displaced rest, order = first ++ displaced :: rest ∧
        first.map Fin.val = List.range first.length ∧ displaced.val ≠ first.length := by
  induction order using List.reverseRecOn with
  | nil => exact .inl rfl
  | append_singleton order place ih =>
    rcases ih with counted | ⟨first, displaced, rest, split, counted, wrong⟩
    · by_cases right : place.val = order.length
      · left
        rw [List.map_append, counted, List.map_singleton, right, List.length_append, List.length_singleton,
          List.range_succ]
      · exact .inr ⟨order, place, [], rfl, counted, right⟩
    · exact .inr ⟨first, displaced, rest ++ [place], by rw [split]; simp, counted, wrong⟩

theorem places_within {bound : Nat} {order : List (Fin bound)}
    (counted : order.map Fin.val = List.range order.length) : order.length ≤ bound := by
  by_contra beyond
  have member : bound ∈ order.map Fin.val := by
    rw [counted]
    exact List.mem_range.mpr (Nat.lt_of_not_le beyond)
  obtain ⟨place, _, same⟩ := List.mem_map.mp member
  exact absurd place.isLt (by omega)

/-- Places that count up from zero spell an initial part of the stream. -/
theorem reordered_counted (sequence : UInt32) (messages : List Message) (order : List (Fin messages.length))
    (counted : order.map Fin.val = List.range order.length) :
    reordered sequence messages order = (packets sequence (messages.take order.length)).flatten := by
  have within := places_within counted
  unfold reordered
  rw [← packets_take]
  congr 1
  apply List.ext_getElem?
  intro place
  by_cases early : place < order.length
  · have here : (order[place]).val = place := by
      have same := congrArg (fun places => places[place]?) counted
      simpa [early] using same
    have shorter : place < messages.length := Nat.lt_of_lt_of_le early within
    have named : order[place] = ⟨place, shorter⟩ := Fin.ext here
    rw [List.getElem?_map, List.getElem?_eq_getElem early, Option.map_some, List.getElem?_take_of_lt early,
      packets_get sequence messages shorter, named]
  · rw [List.getElem?_eq_none (by simpa using early), List.getElem?_eq_none]
    rw [List.length_take, packets_length]
    omega

theorem number_injective {sequence : UInt32} {left right : Nat} (left_small : left < 2 ^ 32)
    (right_small : right < 2 ^ 32) (same : sequence + UInt32.ofNat left = sequence + UInt32.ofNat right) :
    left = right := by
  have numbers := congrArg UInt32.toNat (UInt32.add_right_inj sequence |>.mp same)
  rwa [UInt32.toNat_ofNat_of_lt' left_small, UInt32.toNat_ofNat_of_lt' right_small] at numbers

/-- Of packets that arrive at the places `order`, either one is displaced, and
the first such is reported by its number after everything before it was
received, or they are an initial part of the stream, and the receiver comes to
its end. -/
def ReportsDisplacement (self : Channel) (messages : List Message) (order : List (Fin messages.length)) : Prop :=
  (∃ (first rest : List (Fin messages.length)) (displaced : Fin messages.length),
    order = first ++ displaced :: rest ∧ first.map Fin.val = List.range first.length ∧
    displaced.val ≠ first.length ∧
    (self.recvEach (first.length + 1)).1 = (messages.take first.length).map .ok ++
      [.error (.sequence (self.nextReceive + UInt32.ofNat first.length)
        (self.nextReceive + UInt32.ofNat displaced.val))]) ∨
  (order.map Fin.val = List.range order.length ∧
    (self.recvEach (order.length + 1)).1 = (messages.take order.length).map .ok ++
      [.error (.io "failed to fill whole buffer")])

/-- Whole packets of a stream, in any order and any number of times. -/
theorem recvEach_reordered (self : Channel) (messages : List Message) (order : List (Fin messages.length))
    (few : messages.length < 2 ^ 32) (fits : ∀ message ∈ messages, Framable message)
    (receivable : ∀ message ∈ messages, message.Receivable)
    (arrived : self.stream.inbound.flatten = reordered self.nextReceive messages order) :
    self.ReportsDisplacement messages order := by
  -- Receiving places that count up from zero, with `later` behind them.
  have received (counted : List (Fin messages.length)) (later : List UInt8)
      (counts : counted.map Fin.val = List.range counted.length)
      (found : self.stream.inbound.flatten = reordered self.nextReceive messages counted ++ later) :
      (self.recvEach counted.length).1 = (messages.take counted.length).map .ok ∧
        (self.recvEach counted.length).2.stream.inbound.flatten = later ∧
        (self.recvEach counted.length).2.nextReceive = self.nextReceive + UInt32.ofNat counted.length := by
    rw [reordered_counted _ _ _ counts] at found
    have count : (messages.take counted.length).length = counted.length := by
      rw [List.length_take, Nat.min_eq_left (places_within counts)]
    have results := recvEach_packets self (messages.take counted.length) later
      (fun message member => fits message (List.mem_of_mem_take member))
      (fun message member => receivable message (List.mem_of_mem_take member)) found
    rwa [count] at results
  rcases counts_up_or_displaced order with counted | ⟨first, displaced, rest, split, counted, wrong⟩
  · right
    obtain ⟨results, ended, _⟩ := received order [] counted (by rw [arrived, List.append_nil])
    refine ⟨counted, ?_⟩
    rw [recvEach_add, results, recvEach_ended _ ended]
    rfl
  · left
    have behind : reordered self.nextReceive messages order =
        reordered self.nextReceive messages first ++
          (packet (self.nextReceive + UInt32.ofNat displaced.val) (messages.get displaced) ++
            reordered self.nextReceive messages rest) := by
      rw [split]
      simp [reordered]
    obtain ⟨results, left, number⟩ := received first _ counted (arrived.trans behind)
    have differs : self.nextReceive + UInt32.ofNat displaced.val ≠ (self.recvEach first.length).2.nextReceive := by
      rw [number]
      intro same
      have small := Nat.lt_of_le_of_lt (places_within counted) few
      exact wrong (number_injective (Nat.lt_trans displaced.isLt few) small same)
    refine ⟨first, rest, displaced, split, counted, wrong, ?_⟩
    have refused := recv_displaced left differs
    rw [recvEach_add, results, ← number, ← refused]
    rfl

/-- One connection. Accepted messages arrive in order through any chunks, a
refused one leaves the sender as it was, an undecodable payload costs only its
own packet, and of displaced packets the first is reported. -/
theorem framed_stream (sender receiver : Channel) (aligned : receiver.nextReceive = sender.nextSend) :
    (∀ messages : List Message, (∀ message ∈ messages, message.Receivable) →
      (∀ outcome ∈ (sender.sendEach messages).1, ∀ error, outcome ≠ .error (.io error)) →
      let sent := accepted messages (sender.sendEach messages).1
      ∃ wrote, (sender.sendEach messages).2.stream.outbound = sender.stream.outbound ++ wrote ∧
        ∀ later, receiver.stream.inbound.flatten = wrote ++ later →
          (receiver.recvEach sent.length).1 = sent.map .ok ∧
            (receiver.recvEach sent.length).2.stream.inbound.flatten = later ∧
            (receiver.recvEach sent.length).2.nextReceive = (sender.sendEach messages).2.nextSend) ∧
    (∀ (message : Message) (what : String) (length maximum : Nat) (after : Channel),
      sender.send message = (.error (.oversized what length maximum), after) → after = sender) ∧
    (∀ (kind : UInt16) (payload later : List UInt8) (failure : ProtocolError),
      payload.length ≤ maximumFor kind → decodeMessage kind payload = .error failure →
      receiver.stream.inbound.flatten =
        header kind (UInt32.ofNat payload.length) receiver.nextReceive ++ (payload ++ later) →
      receiver.recv.1 = .error failure ∧ receiver.recv.2.stream.inbound.flatten = later ∧
        receiver.recv.2.nextReceive = receiver.nextReceive + 1) ∧
    (∀ (messages : List Message) (order : List (Fin messages.length)), messages.length < 2 ^ 32 →
      (∀ message ∈ messages, Framable message) → (∀ message ∈ messages, message.Receivable) →
      receiver.stream.inbound.flatten = reordered receiver.nextReceive messages order →
      receiver.ReportsDisplacement messages order) := by
  refine ⟨?_, ?_, ?_, ?_⟩
  · intro messages receivable intact sent
    obtain ⟨fits, wrote, numbered⟩ := sendEach_written sender messages intact
    refine ⟨_, wrote, ?_⟩
    intro later arrived
    have members : ∀ message ∈ sent, message.Receivable :=
      fun message member => receivable message (accepted_subset messages _ member)
    rw [← aligned] at arrived
    obtain ⟨results, left, next⟩ := recvEach_packets receiver sent later fits members arrived
    exact ⟨results, left, by rw [next, numbered, aligned]⟩
  · intro message what length maximum after refused
    exact send_oversized refused
  · intro kind payload later failure bounded undecodable arrived
    obtain ⟨after, received, left, next⟩ := recv_of_packet bounded arrived
    rw [received]
    exact ⟨undecodable, left, next⟩
  · intro messages order few fits receivable arrived
    exact recvEach_reordered receiver messages order few fits receivable arrived

/-- Three packets numbered across the wrap, the last two swapped on the way. -/
theorem framed_stream_swapped :
    let messages := [Message.stop, .stop, .stop]
    let receiver : Channel := ⟨{ inbound := [reordered 0xffffffff messages [0, 2, 1]] }, 0, 0xffffffff⟩
    receiver.ReportsDisplacement messages [0, 2, 1] :=
  (framed_stream ⟨{}, 0xffffffff, 0⟩
    ⟨{ inbound := [reordered 0xffffffff [.stop, .stop, .stop] [0, 2, 1]] }, 0, 0xffffffff⟩ rfl).2.2.2
    [.stop, .stop, .stop] [0, 2, 1] (by decide) (by decide) (by decide) (List.append_nil _)

/-- Of two packets the last is dropped: nothing is displaced, and no receive
reports a sequence error. -/
theorem dropped_tail_unreported :
    let sent := (new {}).sendEach [.stop, .stop]
    let receiver := new { inbound := (packets 0 [.stop, .stop]).dropLast }
    sent.1 = [.ok (), .ok ()] ∧ sent.2.stream.outbound = (packets 0 [.stop, .stop]).flatten ∧
      ∀ count expected actual, .error (.sequence expected actual) ∉ (receiver.recvEach count).1 := by
  refine ⟨rfl, rfl, ?_⟩
  intro count expected actual
  cases count with
  | zero => exact List.not_mem_nil
  | succ count =>
    have ended : (new { inbound := (packets 0 [.stop, .stop]).dropLast }).recv.2.stream.inbound.flatten = [] := rfl
    simp only [recvEach, recvEach_ended _ ended, List.mem_cons, List.mem_replicate, not_or]
    constructor
    · intro same
      cases same
    · rintro ⟨_, same⟩
      cases same

end Luma.Protocol.Channel
