import Mathlib.Algebra.Group.Nat.Defs
import Mathlib.Data.List.TakeWhile

/-! Strings of the C library: the bytes before the first zero, and what `strtok_r` and
`strtoul` read from them. -/

set_option autoImplicit false

namespace Luma.Library.CString

/-- The bytes of a text in ASCII. -/
def ascii (text : String) : List UInt8 := text.toList.map fun character => UInt8.ofNat character.toNat

/-- What a C function sees of a buffer. -/
def cstring (bytes : List UInt8) : List UInt8 := bytes.takeWhile (· ≠ 0)

theorem cstring_eq_self {bytes : List UInt8} (closed : 0 ∉ bytes) : cstring bytes = bytes := by
  unfold cstring
  rw [List.takeWhile_eq_self_iff]
  intro byte there
  have other : byte ≠ 0 := by
    rintro rfl
    exact closed there
  simpa using other

theorem zero_notMem_cstring (bytes : List UInt8) : 0 ∉ cstring bytes := by
  intro there
  simpa using List.mem_takeWhile_imp there

/-! ## Pieces of a string -/

/-- `strchr`: the string before the byte and the one after it. -/
def strchr (byte : UInt8) : List UInt8 → Option (List UInt8 × List UInt8)
  | [] => none
  | first :: rest =>
    if first = byte then some ([], rest)
    else (strchr byte rest).map fun parts => (first :: parts.1, parts.2)

theorem strchr_eq_some {byte : UInt8} {text before after : List UInt8} :
    strchr byte text = some (before, after) ↔ text = before ++ byte :: after ∧ byte ∉ before := by
  induction text generalizing before with
  | nil => simp [strchr]
  | cons first rest ih =>
    unfold strchr
    split
    · rename_i found
      subst found
      cases before with
      | nil => simp [eq_comm]
      | cons head tail => simp +contextual [eq_comm]
    · rename_i other
      simp only [Option.map_eq_some_iff, Prod.mk.injEq, Prod.exists]
      constructor
      · rintro ⟨front, back, found, rfl, rfl⟩
        obtain ⟨rfl, absent⟩ := ih.mp found
        exact ⟨rfl, by simp [absent, Ne.symm other]⟩
      · rintro ⟨whole, absent⟩
        cases before with
        | nil =>
          injection whole with same
          exact absurd same other
        | cons head tail =>
          injection whole with same later
          subst same
          exact ⟨tail, after, ih.mpr ⟨later, fun there => absent (List.mem_cons_of_mem _ there)⟩, rfl, rfl⟩

/-- The rest of the run of `strtok_r` with the token read so far, last byte first. -/
def tokensFrom (separator : UInt8) : List UInt8 → List UInt8 → List (List UInt8)
  | [], token => if token = [] then [] else [token.reverse]
  | byte :: text, token =>
    if byte = separator then
      if token = [] then tokensFrom separator text [] else token.reverse :: tokensFrom separator text []
    else tokensFrom separator text (byte :: token)

/-- What `strtok_r` returns until it returns no token. -/
def tokens (separator : UInt8) (text : List UInt8) : List (List UInt8) := tokensFrom separator text []

theorem tokens_eq_splitOn (separator : UInt8) (text : List UInt8) :
    tokens separator text = (text.splitOn separator).filter (· ≠ []) := by
  have general (token : List UInt8) :
      tokensFrom separator text token = (text.splitOnPPrepend (· == separator) token).filter (· ≠ []) := by
    induction text generalizing token with
    | nil =>
      by_cases empty : token = []
      · simp [tokensFrom, empty]
      · simp [tokensFrom, empty]
    | cons byte text ih =>
      rw [List.splitOnPPrepend_cons_eq_if, tokensFrom]
      by_cases ends : byte = separator
      · by_cases empty : token = []
        · simp [ends, empty, ih]
        · simp [ends, empty, ih]
      · simp [ends, ih]
  exact general []

/-- A byte other than the separator is in a piece exactly if it is in the text. -/
theorem mem_splitOn_iff {separator byte : UInt8} (other : byte ≠ separator) (text : List UInt8) :
    (∃ piece ∈ text.splitOn separator, byte ∈ piece) ↔ byte ∈ text := by
  have general (token : List UInt8) :
      (∃ piece ∈ text.splitOnPPrepend (· == separator) token, byte ∈ piece) ↔ byte ∈ token ∨ byte ∈ text := by
    induction text generalizing token with
    | nil => simp
    | cons first text ih =>
      rw [List.splitOnPPrepend_cons_eq_if]
      by_cases ends : first = separator
      · subst ends
        simp only [beq_self_eq_true, if_true, List.mem_cons, exists_eq_or_imp, List.mem_reverse]
        rw [← List.splitOnPPrepend_nil_right, ih]
        simp [other]
      · simp only [beq_iff_eq, ends, if_false, ih, List.mem_cons]
        rw [or_assoc, or_left_comm]
  rw [List.splitOn_eq_splitOnP, ← List.splitOnPPrepend_nil_right, general]
  simp

/-! ## Numbers -/

def isSpace (byte : UInt8) : Bool := (9 ≤ byte && byte ≤ 13) || byte == 32

def isDigit (byte : UInt8) : Bool := 48 ≤ byte && byte ≤ 57

def plus : UInt8 := 43

def minus : UInt8 := 45

/-- The number that digits write. -/
def decimal (digits : List UInt8) : Nat := digits.foldl (fun value digit => value * 10 + (digit.toNat - 48)) 0

/-- The result of `strtoul` with the string at its end pointer. -/
structure Conversion where
  value : Nat
  rest : List UInt8
  outOfRange : Bool := false
  deriving DecidableEq, Repr

/-- A sign says whether the number after it is negated. -/
def splitSign (text : List UInt8) : Bool × List UInt8 :=
  match text with
  | [] => (false, [])
  | byte :: rest => if byte = minus then (true, rest) else if byte = plus then (false, rest) else (false, text)

/-- `strtoul` in base ten; a negative number wraps around. -/
def strtoul (text : List UInt8) : Conversion :=
  let (negative, text') := splitSign (text.dropWhile isSpace)
  let digits := text'.takeWhile isDigit
  let rest := text'.dropWhile isDigit
  if digits = [] then { value := 0, rest := text }
  else if 2 ^ 64 ≤ decimal digits then { value := 2 ^ 64 - 1, rest, outOfRange := true }
  else { value := if negative then (2 ^ 64 - decimal digits) % 2 ^ 64 else decimal digits, rest }

/-- A string that `strtoul` reads to its end. -/
structure Number (text : List UInt8) (value : Nat) : Prop where
  reads : ∃ blanks sign digits, text = blanks ++ (sign ++ digits) ∧ (∀ byte ∈ blanks, isSpace byte = true) ∧
    (sign = [] ∨ sign = [plus] ∨ sign = [minus]) ∧ digits ≠ [] ∧ (∀ byte ∈ digits, isDigit byte = true) ∧
    decimal digits < 2 ^ 64 ∧
    value = if sign = [minus] then (2 ^ 64 - decimal digits) % 2 ^ 64 else decimal digits

theorem splitSign_digits {digits : List UInt8} (only : ∀ byte ∈ digits, isDigit byte = true) :
    splitSign digits = (false, digits) := by
  cases digits with
  | nil => rfl
  | cons byte rest =>
    have digit := only byte List.mem_cons_self
    have unsigned : byte ≠ minus ∧ byte ≠ plus := by
      constructor <;> rintro rfl <;> cases digit
    simp [splitSign, unsigned]

theorem splitSign_spec (text : List UInt8) : ∃ sign, text = sign ++ (splitSign text).2 ∧
    (sign = [] ∨ sign = [plus] ∨ sign = [minus]) ∧ ((splitSign text).1 = true ↔ sign = [minus]) := by
  cases text with
  | nil => exact ⟨[], rfl, .inl rfl, by simp [splitSign]⟩
  | cons byte rest =>
    unfold splitSign
    by_cases negative : byte = minus
    · exact ⟨[minus], by simp [negative], .inr (.inr rfl), by simp [negative]⟩
    · by_cases positive : byte = plus
      · exact ⟨[plus], by simp [positive, plus, minus], .inr (.inl rfl), by simp [positive, plus, minus]⟩
      · exact ⟨[], by simp [negative, positive], .inl rfl, by simp [negative, positive]⟩

theorem strtoul_reads {text : List UInt8} {value : Nat} (number : Number text value) :
    strtoul text = { value, rest := [] } := by
  obtain ⟨blanks, sign, digits, rfl, spaces, signed, written, only, below, rfl⟩ := number.reads
  obtain ⟨digit, later, rfl⟩ := List.exists_cons_of_ne_nil written
  have first := only digit List.mem_cons_self
  have begins : (blanks ++ (sign ++ digit :: later)).dropWhile isSpace = sign ++ digit :: later := by
    rw [List.dropWhile_append_of_pos spaces]
    rcases signed with rfl | rfl | rfl
    · rw [List.nil_append, List.dropWhile_cons_of_neg]
      simp only [isDigit, Bool.and_eq_true, decide_eq_true_eq] at first
      simp only [isSpace, Bool.or_eq_true, Bool.and_eq_true, decide_eq_true_eq, beq_iff_eq]
      have low := UInt8.le_iff_toNat_le.mp first.1
      rintro (⟨-, small⟩ | rfl)
      · have high := UInt8.le_iff_toNat_le.mp small
        simp at low high
        omega
      · simp at low
    · rfl
    · rfl
  have signs : splitSign (sign ++ digit :: later) = (decide (sign = [minus]), digit :: later) := by
    rcases signed with rfl | rfl | rfl
    · rw [List.nil_append, splitSign_digits only]
      rfl
    · rfl
    · rfl
  have all : (digit :: later).takeWhile isDigit = digit :: later := List.takeWhile_eq_self_iff.mpr only
  have none : (digit :: later).dropWhile isDigit = [] := List.dropWhile_eq_nil_iff.mpr only
  unfold strtoul
  simp only [begins, signs, all, none]
  rw [if_neg (List.cons_ne_nil _ _), if_neg (by omega)]
  simp

theorem number_of_strtoul {text : List UInt8} (inRange : (strtoul text).outOfRange = false)
    (moved : (strtoul text).rest ≠ text) (ended : (strtoul text).rest = []) :
    Number text (strtoul text).value := by
  obtain ⟨sign, whole, signed, negative⟩ := splitSign_spec (text.dropWhile isSpace)
  unfold strtoul at inRange moved ended ⊢
  dsimp only at inRange moved ended ⊢
  set digits := (splitSign (text.dropWhile isSpace)).2 with rests
  split at inRange
  · rename_i nothing
    rw [if_pos nothing] at moved
    exact absurd rfl moved
  · rename_i written
    rw [if_neg written] at ended moved ⊢
    split at inRange
    · cases inRange
    · rename_i below
      rw [if_neg below] at ended moved ⊢
      have only := List.dropWhile_eq_nil_iff.mp ended
      have all : digits.takeWhile isDigit = digits := List.takeWhile_eq_self_iff.mpr only
      rw [all] at written below ⊢
      refine ⟨text.takeWhile isSpace, sign, digits, ?_, ?_, signed, written, only, by omega, ?_⟩
      · rw [← whole, List.takeWhile_append_dropWhile]
      · intro byte there
        exact List.mem_takeWhile_imp there
      · by_cases negates : sign = [minus]
        · rw [if_pos negates, if_pos (negative.mpr negates)]
        · rw [if_neg negates, if_neg fun wraps => negates (negative.mp wraps)]

end Luma.Library.CString
