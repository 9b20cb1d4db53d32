import Mathlib.Data.List.Basic

/-! Text operations of the Rust standard library, by structural recursion on
characters so that they evaluate. -/

set_option autoImplicit false

namespace Luma.Library.Text

/-- The Unicode property `White_Space`. -/
def isWhitespace (character : Char) : Bool :=
  let code := character.toNat
  (9 ≤ code && code ≤ 13) || code == 0x20 || code == 0x85 || code == 0xa0 || code == 0x1680 ||
    (0x2000 ≤ code && code ≤ 0x200a) || code == 0x2028 || code == 0x2029 || code == 0x202f ||
    code == 0x205f || code == 0x3000

def trim (text : String) : String :=
  let front := text.toList.dropWhile isWhitespace
  String.ofList (front.reverse.dropWhile isWhitespace).reverse

def trimStart (text : String) : String := String.ofList (text.toList.dropWhile isWhitespace)

/-- `str::strip_prefix` of one character. -/
def stripPrefix (first : Char) (text : String) : Option String :=
  match text.toList with
  | [] => none
  | character :: rest => if character = first then some (String.ofList rest) else none

/-- `str::lines`: a line feed ends a line, with the carriage return before it. -/
def lines (text : String) : List String :=
  let pieces := text.toList.splitOn '\n'
  let ended := pieces.dropLast.map fun line => if line.getLast? = some '\r' then line.dropLast else line
  let last := pieces.getLast?.toList.filter fun line => !line.isEmpty
  (ended ++ last).map String.ofList

/-- The maximal runs of characters other than white space. -/
def wordsFrom : List Char → List Char → List (List Char)
  | [], current => if current.isEmpty then [] else [current.reverse]
  | character :: rest, current =>
      if isWhitespace character then
        if current.isEmpty then wordsFrom rest [] else current.reverse :: wordsFrom rest []
      else wordsFrom rest (character :: current)

/-- `str::split_whitespace`. -/
def words (text : String) : List String := (wordsFrom text.toList []).map String.ofList

def splitAtFirst (separator : Char) : List Char → Option (List Char × List Char)
  | [] => none
  | character :: rest =>
      if character = separator then some ([], rest)
      else (splitAtFirst separator rest).map fun parts => (character :: parts.1, parts.2)

/-- `str::split_once`. -/
def splitOnce (text : String) (separator : Char) : Option (String × String) :=
  (splitAtFirst separator text.toList).map fun parts => (String.ofList parts.1, String.ofList parts.2)

def digit (character : Char) : Option Nat :=
  if '0' ≤ character ∧ character ≤ '9' then some (character.toNat - '0'.toNat) else none

def decimal : List Char → Option Nat
  | [] => none
  | characters => characters.foldl
      (fun total character => do return (← total) * 10 + (← digit character)) (some 0)

/-- `from_str` of an unsigned type: decimal digits after an optional plus sign. -/
def parseUnsigned (maximum : Nat) (text : String) : Option Nat := do
  let value ← match text.toList with
    | '+' :: digits => decimal digits
    | digits => decimal digits
  if value ≤ maximum then some value else none

/-- `from_str` of a signed type. -/
def parseSigned (minimum maximum : Int) (text : String) : Option Int := do
  let value : Int ← match text.toList with
    | '+' :: digits => (decimal digits).map Int.ofNat
    | '-' :: digits => (decimal digits).map fun value => -Int.ofNat value
    | digits => (decimal digits).map Int.ofNat
  if minimum ≤ value ∧ value ≤ maximum then some value else none

def startsWith : List Char → List Char → Bool
  | _, [] => true
  | [], _ :: _ => false
  | character :: text, expected :: pattern => character == expected && startsWith text pattern

def containsFrom (pattern : List Char) : List Char → Bool
  | [] => pattern.isEmpty
  | character :: rest => startsWith (character :: rest) pattern || containsFrom pattern rest

/-- `str::contains` with a string pattern. -/
def contains (text pattern : String) : Bool := containsFrom pattern.toList text.toList

/-! ## Numbers -/

theorem digit_of_isDigit {character : Char} (digits : character.isDigit = true) :
    digit character = some (character.toNat - '0'.toNat) := by
  have bounds : '0' ≤ character ∧ character ≤ '9' := by
    rw [Char.isDigit, Bool.and_eq_true, decide_eq_true_eq, decide_eq_true_eq] at digits
    exact digits
  rw [digit, if_pos bounds]

theorem decimal_ofDigitChars {characters : List Char} (some_ : characters ≠ [])
    (digits : ∀ character ∈ characters, character.isDigit = true) :
    decimal characters = some (Nat.ofDigitChars 10 characters 0) := by
  have folds : ∀ total, characters.foldl
      (fun total character => do return (← total) * 10 + (← digit character)) (some total) =
        some (Nat.ofDigitChars 10 characters total) := by
    clear some_
    induction characters with
    | nil => exact fun _ => rfl
    | cons first rest ih =>
      intro total
      have read := digit_of_isDigit (digits first List.mem_cons_self)
      have later := ih (fun character there => digits character (List.mem_cons_of_mem _ there))
        (total * 10 + (first.toNat - '0'.toNat))
      rw [List.foldl_cons, Nat.ofDigitChars_cons, Nat.mul_comm]
      simpa [read] using later
  cases characters with
  | nil => exact absurd rfl some_
  | cons first rest => exact folds 0

/-- A number is read as it is written. -/
theorem parseUnsigned_toString {maximum number : Nat} (fits : number ≤ maximum) :
    parseUnsigned maximum (toString number) = some number := by
  have digits : decimal (Nat.toDigits 10 number) = some number := by
    rw [decimal_ofDigitChars Nat.toDigits_ne_nil fun _ there => Nat.isDigit_of_mem_toDigits (by decide) (by decide) there,
      Nat.ofDigitChars_ten_toDigits]
  have text : (toString number).toList = Nat.toDigits 10 number := Nat.toList_repr
  unfold parseUnsigned
  rw [text]
  split
  · rename_i rest signed
    have plus : '+' ∈ Nat.toDigits 10 number := signed ▸ List.mem_cons_self
    exact absurd (Nat.isDigit_of_mem_toDigits (by decide) (by decide) plus) (by decide)
  · rw [digits]
    exact if_pos fits

end Luma.Library.Text

/-! Names behind a separator, and numbers in names. -/

namespace Luma.Library.FileNames

variable {Symbol : Type}

/-- One part of a name reaches beyond the other only over the separator. -/
theorem folder_prefix {separator : Symbol} {folder middle name : List Symbol}
    (ends : ∀ last ∈ (folder ++ middle).getLast?, last = separator) (plain : separator ∉ middle ++ name) :
    middle = [] := by
  rcases List.eq_nil_or_concat middle with empty | ⟨front, last, rfl⟩
  · exact empty
  · have behind : last = separator := ends last (by simp)
    exact absurd (List.mem_append_left _ (by simp [behind])) plain

/-- A path is one folder, up to the last separator, and one name. -/
theorem folder_name_inj {separator : Symbol} {folder folder' name name' : List Symbol}
    (ends : ∀ last ∈ folder.getLast?, last = separator) (ends' : ∀ last ∈ folder'.getLast?, last = separator)
    (plain : separator ∉ name) (plain' : separator ∉ name') (same : folder ++ name = folder' ++ name') :
    folder = folder' ∧ name = name' := by
  rcases List.append_eq_append_iff.mp same with ⟨middle, rfl, rfl⟩ | ⟨middle, rfl, rfl⟩
  · obtain rfl := folder_prefix ends' plain
    simp
  · obtain rfl := folder_prefix ends plain'
    simp

/-- Decimal digits are read back. -/
theorem toDigits_inj {first second : Nat} (same : Nat.toDigits 10 first = Nat.toDigits 10 second) : first = second := by
  have read : Nat.ofDigitChars 10 (Nat.toDigits 10 first) 0 = Nat.ofDigitChars 10 (Nat.toDigits 10 second) 0 :=
    congrArg (Nat.ofDigitChars 10 · 0) same
  rwa [Nat.ofDigitChars_ten_toDigits, Nat.ofDigitChars_ten_toDigits] at read

theorem not_mem_toDigits {symbol : Char} (other : symbol.isDigit = false) (number : Nat) :
    symbol ∉ Nat.toDigits 10 number := by
  intro there
  have digit := Nat.isDigit_of_mem_toDigits (by decide) (by decide) there
  rw [other] at digit
  cases digit

end Luma.Library.FileNames
