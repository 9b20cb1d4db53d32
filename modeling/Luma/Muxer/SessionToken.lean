import Luma.Library.ByteOffsets
import Luma.Protocol.Message

/-! The session token among the muxer's arguments: 64 hexadecimal digits.

The text is sliced at byte offsets, and every two bytes are parsed as an integer of their own.
-/

set_option autoImplicit false

namespace Luma.Muxer

open Luma.Library Luma.Protocol

/-- `char::to_digit` for the radix 16. -/
def hexDigit (character : Char) : Option Nat :=
  if '0' ≤ character ∧ character ≤ '9' then some (character.toNat - '0'.toNat)
  else if 'a' ≤ character ∧ character ≤ 'f' then some (character.toNat - 'a'.toNat + 10)
  else if 'A' ≤ character ∧ character ≤ 'F' then some (character.toNat - 'A'.toNat + 10)
  else none

/-- One more digit, unless the value leaves a byte. -/
def pushHexDigit (total : Nat) (character : Char) : Option Nat := do
  let digit ← hexDigit character
  if total * 16 + digit ≤ 255 then some (total * 16 + digit) else none

/-- `u8::from_str_radix` for the radix 16, which takes a plus sign. -/
def fromStrRadix16 (text : List Char) : Option UInt8 :=
  let digits := match text with
    | '+' :: rest => rest
    | _ => text
  if digits = [] then none else (digits.foldlM pushHexDigit 0).map UInt8.ofNat

/-- The loop over the bytes of the token. A slice inside a character panics. -/
def parseTokenBytes (hex : List Char) : List Nat → Option (Except String (List UInt8))
  | [] => some (.ok [])
  | index :: indices =>
      match ByteOffsets.slice hex (index * 2) (index * 2 + 2) with
      | none => none
      | some pair =>
          match fromStrRadix16 pair with
          | none => some (.error "--token must contain only hexadecimal characters")
          | some byte => (parseTokenBytes hex indices).map fun result => result.map (byte :: ·)

/-- `parse_token`, where it does not panic. -/
def parseToken (hex : String) : Option (Except String (List UInt8)) :=
  if ByteOffsets.size hex.toList ≠ tokenLen * 2 then
    some (.error "--token must be exactly 64 hexadecimal characters")
  else parseTokenBytes hex.toList (List.range tokenLen)

/-! ## What a token is -/

/-- Two digits for each byte. -/
inductive Denotes : List Char → List UInt8 → Prop where
  | nil : Denotes [] []
  | pair {high low : Char} {first second : Nat} {text : List Char} {bytes : List UInt8} :
      hexDigit high = some first → hexDigit low = some second → Denotes text bytes →
      Denotes (high :: low :: text) (UInt8.ofNat (first * 16 + second) :: bytes)

/-- The text is parsed exactly if it consists of 64 digits, to the bytes they denote, and else refused. -/
def TokenExact (hex : String) : Prop :=
  ∃ result, parseToken hex = some result ∧
    ∀ bytes, result = .ok bytes ↔ bytes.length = tokenLen ∧ Denotes hex.toList bytes

/-- A digit, or a plus sign before it, and a digit. -/
inductive AcceptedPairs : List Char → Prop where
  | nil : AcceptedPairs []
  | pair {high low : Char} {text : List Char} : (hexDigit high).isSome ∨ high = '+' → (hexDigit low).isSome →
      AcceptedPairs text → AcceptedPairs (high :: low :: text)

/-- Two bytes that are whole characters but no pair to be accepted come, after pairs that are. -/
def Rejected (text : List Char) : Prop :=
  ∃ front pair rest, text = front ++ (pair ++ rest) ∧ AcceptedPairs front ∧ ByteOffsets.size pair = 2 ∧
    ¬AcceptedPairs pair

/-! ## One pair -/

theorem hexDigit_lt {character : Char} {digit : Nat} (found : hexDigit character = some digit) : digit < 16 := by
  unfold hexDigit at found
  split at found
  · rename_i range
    have high : character.toNat ≤ '9'.toNat := range.2
    cases found
    have nine : '9'.toNat = 57 := rfl
    have zero : '0'.toNat = 48 := rfl
    omega
  · split at found
    · rename_i range
      have high : character.toNat ≤ 'f'.toNat := range.2
      cases found
      have last : 'f'.toNat = 102 := rfl
      have first : 'a'.toNat = 97 := rfl
      omega
    · split at found
      · rename_i range
        have high : character.toNat ≤ 'F'.toNat := range.2
        cases found
        have last : 'F'.toNat = 70 := rfl
        have first : 'A'.toNat = 65 := rfl
        omega
      · cases found

theorem utf8Size_of_lt {character : Char} (ascii : character.toNat < 128) : character.utf8Size = 1 := by
  unfold Char.utf8Size
  rw [if_pos]
  exact Nat.le_of_lt_succ ascii

/-- Digits are characters of one byte. -/
theorem utf8Size_of_hexDigit {character : Char} (digit : (hexDigit character).isSome) : character.utf8Size = 1 := by
  apply utf8Size_of_lt
  unfold hexDigit at digit
  split at digit
  · rename_i range
    exact Nat.lt_of_le_of_lt range.2 (by decide)
  · split at digit
    · rename_i range
      exact Nat.lt_of_le_of_lt range.2 (by decide)
    · split at digit
      · rename_i range
        exact Nat.lt_of_le_of_lt range.2 (by decide)
      · cases digit

/-- The digits of a pair make one byte. -/
theorem fromStrRadix16_digits {high low : Char} {first second : Nat} (left : hexDigit high = some first)
    (right : hexDigit low = some second) :
    fromStrRadix16 [high, low] = some (UInt8.ofNat (first * 16 + second)) := by
  have plus : high ≠ '+' := by
    rintro rfl
    cases left
  have top := hexDigit_lt left
  have bottom := hexDigit_lt right
  have pushed : pushHexDigit 0 high = some first := by
    simp only [pushHexDigit, left, Option.bind_eq_bind, Option.bind_some]
    rw [if_pos (by omega), Nat.zero_mul, Nat.zero_add]
  have both : pushHexDigit first low = some (first * 16 + second) := by
    simp only [pushHexDigit, right, Option.bind_eq_bind, Option.bind_some]
    rw [if_pos (by omega)]
  unfold fromStrRadix16
  split
  · rename_i rest same
    cases same
    exact absurd rfl plus
  · simp [pushed, both]

theorem fromStrRadix16_plus {low : Char} {digit : Nat} (right : hexDigit low = some digit) :
    fromStrRadix16 ['+', low] = some (UInt8.ofNat digit) := by
  have bottom := hexDigit_lt right
  have pushed : pushHexDigit 0 low = some digit := by
    simp only [pushHexDigit, right, Option.bind_eq_bind, Option.bind_some]
    rw [if_pos (by omega), Nat.zero_mul, Nat.zero_add]
  simp [fromStrRadix16, pushed]

theorem acceptedPairs_pair {high low : Char} :
    AcceptedPairs [high, low] ↔ ((hexDigit high).isSome ∨ high = '+') ∧ (hexDigit low).isSome := by
  constructor
  · intro accepted
    cases accepted with
    | pair left right => exact ⟨left, right⟩
  · rintro ⟨left, right⟩
    exact .pair left right .nil

/-- Two bytes are one character or two. -/
theorem pair_cases {pair : List Char} (two : ByteOffsets.size pair = 2) :
    (∃ character, pair = [character]) ∨ ∃ high low, pair = [high, low] := by
  match pair with
  | [] => cases two
  | [character] => exact .inl ⟨character, rfl⟩
  | [high, low] => exact .inr ⟨high, low, rfl⟩
  | first :: second :: third :: rest =>
    have one := Char.utf8Size_pos first
    have another := Char.utf8Size_pos second
    have more := ByteOffsets.size_pos third rest
    rw [ByteOffsets.size_cons, ByteOffsets.size_cons] at two
    omega

theorem pushHexDigit_none {total : Nat} {character : Char} (digit : ¬(hexDigit character).isSome) :
    pushHexDigit total character = none := by
  have missing : hexDigit character = none := by simpa using digit
  simp [pushHexDigit, missing]

theorem fromStrRadix16_single {character : Char} (two : ByteOffsets.size [character] = 2) :
    fromStrRadix16 [character] = none := by
  have digit : ¬(hexDigit character).isSome := by
    intro digit
    have one := utf8Size_of_hexDigit digit
    simp [one] at two
  have plus : character ≠ '+' := by
    rintro rfl
    cases two
  unfold fromStrRadix16
  split
  · rename_i rest same
    cases same
    exact absurd rfl plus
  · simp [pushHexDigit_none digit]

/-- A pair that is not accepted is no number. -/
theorem fromStrRadix16_none {pair : List Char} (two : ByteOffsets.size pair = 2) (refused : ¬AcceptedPairs pair) :
    fromStrRadix16 pair = none := by
  rcases pair_cases two with ⟨character, rfl⟩ | ⟨high, low, rfl⟩
  · exact fromStrRadix16_single two
  · rw [acceptedPairs_pair, not_and_or, not_or] at refused
    unfold fromStrRadix16
    split
    · rename_i rest same
      cases same
      have digit := refused.resolve_left (by simp)
      simp [pushHexDigit_none digit]
    · rename_i plain
      have plus : high ≠ '+' := by
        rintro rfl
        exact plain _ rfl
      have digits : ¬(hexDigit high).isSome ∨ ¬(hexDigit low).isSome := refused.imp_left And.left
      rcases digits with left | right
      · simp [pushHexDigit_none left]
      · cases first : pushHexDigit 0 high with
        | none => simp [first]
        | some value => simp [first, pushHexDigit_none right]

/-! ## All pairs -/

theorem size_accepted {high low : Char} (accepted : AcceptedPairs [high, low]) : ByteOffsets.size [high, low] = 2 := by
  obtain ⟨left, right⟩ := acceptedPairs_pair.mp accepted
  have first : high.utf8Size = 1 := by
    rcases left with digit | rfl
    · exact utf8Size_of_hexDigit digit
    · rfl
  simp [first, utf8Size_of_hexDigit right]

theorem accepted_cons {high low : Char} {text : List Char} (accepted : AcceptedPairs [high, low]) :
    AcceptedPairs (high :: low :: text) ↔ AcceptedPairs text := by
  obtain ⟨left, right⟩ := acceptedPairs_pair.mp accepted
  constructor
  · intro all
    cases all with
    | pair _ _ rest => exact rest
  · exact .pair left right

/-- A pair that is accepted refuses nothing. -/
theorem rejected_cons {high low : Char} {text : List Char} (accepted : AcceptedPairs [high, low]) :
    Rejected (high :: low :: text) ↔ Rejected text := by
  constructor
  · rintro ⟨front, pair, rest, same, begins, two, refused⟩
    cases begins with
    | nil =>
      have first := ByteOffsets.take_append pair rest
      have again := ByteOffsets.take_append [high, low] text
      rw [two] at first
      rw [size_accepted accepted] at again
      rw [List.nil_append] at same
      rw [← same] at first
      cases first.symm.trans again
      exact absurd accepted refused
    | pair left right later =>
      simp only [List.cons_append, List.cons.injEq] at same
      exact ⟨_, pair, rest, same.2.2, later, two, refused⟩
  · rintro ⟨front, pair, rest, rfl, begins, two, refused⟩
    exact ⟨high :: low :: front, pair, rest, rfl, (accepted_cons accepted).mpr begins, two, refused⟩

theorem not_rejected {text : List Char} (accepted : AcceptedPairs text) : ¬Rejected text := by
  induction accepted with
  | nil =>
    rintro ⟨front, pair, rest, same, -, two, -⟩
    obtain ⟨-, empty⟩ := List.append_eq_nil_iff.mp same.symm
    obtain ⟨rfl, -⟩ := List.append_eq_nil_iff.mp empty
    cases two
  | pair left right _ ih => rwa [rejected_cons (acceptedPairs_pair.mpr ⟨left, right⟩)]

/-- What the text is that is accepted, refused or sliced inside a character. -/
inductive Parsed (text : List Char) (count : Nat) : Option (Except String (List UInt8)) → Prop where
  | accepted {bytes : List UInt8} : AcceptedPairs text → bytes.length = count →
      (∀ other, Denotes text other → other = bytes) → Parsed text count (some (.ok bytes))
  | refused {error : String} : Rejected text → Parsed text count (some (.error error))
  | panicked : ¬AcceptedPairs text → ¬Rejected text → Parsed text count none

/-- The first slice fails. -/
theorem parsed_none {text : List Char} {count : Nat} (length : ByteOffsets.size text = (count + 1) * 2)
    (split : ByteOffsets.take text 2 = none) : Parsed text (count + 1) none := by
  have begins : ∀ pair rest, text = pair ++ rest → ByteOffsets.size pair ≠ 2 := by
    rintro pair rest rfl two
    have taken := ByteOffsets.take_append pair rest
    rw [two, split] at taken
    cases taken
  refine .panicked ?_ ?_
  · intro accepted
    cases accepted with
    | nil => rw [ByteOffsets.size_nil] at length; omega
    | @pair high low rest left right =>
      exact begins [high, low] rest rfl (size_accepted (acceptedPairs_pair.mpr ⟨left, right⟩))
  · rintro ⟨front, pair, rest, same, accepted, two, -⟩
    cases accepted with
    | nil => exact begins pair rest same two
    | @pair high low more left right =>
      exact begins [high, low] (more ++ (pair ++ rest)) same (size_accepted (acceptedPairs_pair.mpr ⟨left, right⟩))

/-- A pair that is accepted, and the text behind it. -/
theorem Parsed.pair {high low : Char} {byte : UInt8} {text : List Char} {count : Nat}
    {result : Option (Except String (List UInt8))} (parsed : Parsed text count result)
    (accepted : AcceptedPairs [high, low]) (read : fromStrRadix16 [high, low] = some byte) :
    Parsed (high :: low :: text) (count + 1) (result.map fun result => result.map (byte :: ·)) := by
  cases parsed with
  | accepted all length denotes =>
    refine .accepted ((accepted_cons accepted).mpr all) (congrArg Nat.succ length) ?_
    intro other denoted
    cases denoted with
    | pair left right later =>
      rw [fromStrRadix16_digits left right] at read
      rw [denotes _ later, Option.some.inj read]
  | refused rejected => exact .refused ((rejected_cons accepted).mpr rejected)
  | panicked unaccepted unrejected =>
    exact .panicked (mt (accepted_cons accepted).mp unaccepted) (mt (rejected_cons accepted).mp unrejected)

theorem exists_byte {high low : Char} (accepted : AcceptedPairs [high, low]) :
    ∃ byte, fromStrRadix16 [high, low] = some byte := by
  obtain ⟨left, right⟩ := acceptedPairs_pair.mp accepted
  obtain ⟨second, bottom⟩ := Option.isSome_iff_exists.mp right
  rcases left with digit | rfl
  · obtain ⟨first, top⟩ := Option.isSome_iff_exists.mp digit
    exact ⟨_, fromStrRadix16_digits top bottom⟩
  · exact ⟨_, fromStrRadix16_plus bottom⟩

theorem parseTokenBytes_parsed {front text : List Char} {start count : Nat}
    (before : ByteOffsets.size front = start * 2) (length : ByteOffsets.size text = count * 2) :
    Parsed text count (parseTokenBytes (front ++ text) (List.range' start count)) := by
  induction count generalizing front text start with
  | zero =>
    cases text with
    | nil => exact .accepted .nil rfl fun other denoted => by cases denoted; rfl
    | cons character text =>
      have positive := ByteOffsets.size_pos character text
      omega
  | succ count ih =>
    have sliced : ByteOffsets.slice (front ++ text) (start * 2) (start * 2 + 2) = ByteOffsets.take text 2 := by
      rw [← before]
      exact ByteOffsets.slice_append front text 2
    rw [List.range'_succ, parseTokenBytes, sliced]
    cases split : ByteOffsets.take text 2 with
    | none => exact parsed_none length split
    | some pair =>
      obtain ⟨rest, rfl, two⟩ := ByteOffsets.take_eq_some.mp split
      by_cases accepted : AcceptedPairs pair
      · rcases pair_cases two with ⟨character, rfl⟩ | ⟨high, low, rfl⟩
        · cases accepted
        obtain ⟨byte, read⟩ := exists_byte accepted
        rw [ByteOffsets.size_append, two] at length
        have later : Parsed rest count
            (parseTokenBytes ((front ++ [high, low]) ++ rest) (List.range' (start + 1) count)) :=
          ih (by rw [ByteOffsets.size_append, two, before]; omega) (by omega)
        rw [List.append_assoc] at later
        simp only [read]
        exact later.pair accepted read
      · simp only [fromStrRadix16_none two accepted]
        exact .refused ⟨[], pair, rest, rfl, .nil, two, accepted⟩

theorem not_denotes_plus {text : List Char} {bytes : List UInt8} : ¬Denotes ('+' :: text) bytes := by
  intro denotes
  cases denotes with
  | pair left => cases left

theorem Denotes.accepted {text : List Char} {bytes : List UInt8} (denotes : Denotes text bytes) :
    AcceptedPairs text := by
  induction denotes with
  | nil => exact .nil
  | pair left right _ ih => exact .pair (.inl (by simp [left])) (by simp [right]) ih

theorem Denotes.size {text : List Char} {bytes : List UInt8} (denotes : Denotes text bytes) :
    ByteOffsets.size text = bytes.length * 2 := by
  induction denotes with
  | nil => rfl
  | pair left right _ ih =>
    rw [ByteOffsets.size_cons, ByteOffsets.size_cons, utf8Size_of_hexDigit (by simp [left]),
      utf8Size_of_hexDigit (by simp [right]), ih, List.length_cons]
    omega

/-- A text of the right length is parsed exactly unless it has a plus sign where a digit belongs, and nothing after
that is refused, or is sliced inside a character before anything is refused. -/
theorem token_exact_iff (hex : String) :
    TokenExact hex ↔ ByteOffsets.size hex.toList ≠ 64 ∨
      (∃ bytes, bytes.length = tokenLen ∧ Denotes hex.toList bytes) ∨ Rejected hex.toList := by
  by_cases long : ByteOffsets.size hex.toList = 64
  · have parsed : Parsed hex.toList tokenLen (parseTokenBytes ([] ++ hex.toList) (List.range' 0 tokenLen)) :=
      parseTokenBytes_parsed rfl long
    rw [List.nil_append, ← List.range_eq_range'] at parsed
    have outcome : parseToken hex = parseTokenBytes hex.toList (List.range tokenLen) := if_neg (not_not.mpr long)
    unfold TokenExact
    rw [outcome]
    generalize parseTokenBytes hex.toList (List.range tokenLen) = result at parsed
    cases parsed with
    | @accepted bytes accepted length unique =>
      have kept := not_rejected accepted
      constructor
      · rintro ⟨result, same, exact_bytes⟩
        cases same
        exact .inr (.inl ⟨bytes, (exact_bytes bytes).mp rfl⟩)
      · rintro (short | ⟨other, -, denotes⟩ | rejected)
        · exact absurd long short
        · cases unique other denotes
          refine ⟨_, rfl, fun found => ⟨?_, ?_⟩⟩
          · intro same
            cases same
            exact ⟨length, denotes⟩
          · rintro ⟨-, denoted⟩
            rw [unique found denoted]
        · exact absurd rejected kept
    | refused rejected =>
      refine iff_of_true ⟨_, rfl, fun bytes => iff_of_false (by simp) ?_⟩ (.inr (.inr rejected))
      rintro ⟨-, denotes⟩
      exact not_rejected denotes.accepted rejected
    | panicked unaccepted unrejected =>
      refine iff_of_false ?_ ?_
      · rintro ⟨result, same, -⟩
        cases same
      · rintro (short | ⟨bytes, -, denotes⟩ | rejected)
        · exact short long
        · exact unaccepted denotes.accepted
        · exact unrejected rejected
  · refine iff_of_true ⟨_, if_pos long, fun bytes => iff_of_false (by simp) ?_⟩ (.inl long)
    rintro ⟨length, denotes⟩
    exact long (by rw [denotes.size, length]; rfl)

/-- A plus sign before every second digit. -/
def signedToken : String := String.ofList (List.replicate 32 ['+', 'a']).flatten

theorem signed_token_parsed : ¬TokenExact signedToken := by
  rintro ⟨result, parsed, exact_bytes⟩
  have accepted : parseToken signedToken = some (.ok (List.replicate 32 10)) := by decide +kernel
  cases parsed.symm.trans accepted
  obtain ⟨-, denotes⟩ := (exact_bytes _).mp rfl
  have text : signedToken.toList = '+' :: 'a' :: (List.replicate 31 ['+', 'a']).flatten := by decide +kernel
  rw [text] at denotes
  exact not_denotes_plus denotes

end Luma.Muxer
