import Luma.Library.Fallible
import Luma.Library.Radix
import Luma.Library.Rounding
import Mathlib.Tactic.Ring

/-! The colors of a theme: how their texts are read, and which texts the configuration accepts. -/

set_option autoImplicit false

namespace Luma.Core

open Luma.Library Radix Rounding

/-- Floats between 0 and 1. -/
structure Color where
  red : ℚ
  green : ℚ
  blue : ℚ
  alpha : ℚ
  deriving DecidableEq

namespace Color

/-- The bytes of a text. -/
def utf8 (characters : List Char) : List UInt8 := characters.flatMap String.utf8EncodeChar

/-- The quotient of a byte and 255 in single precision. -/
def component (byte : Nat) : ℚ := nearestSingle (byte / 255)

def ofWord (word : Nat) : Color :=
  { red := component (word >>> 16 &&& 255)
    green := component (word >>> 8 &&& 255)
    blue := component (word &&& 255)
    alpha := 1 }

end Color

open Color

def color (text : String) : Except Panic (Option Color) :=
  match text.toList with
  | [] => .ok none
  | first :: rest =>
      if first ≠ '#' then .ok none
      else if (utf8 rest).length ≠ 6 then .ok none
      else (fromStrRadix (utf8 rest) 16).map fun read => read.map ofWord

/-- What the configuration checks of a theme. Floats that are infinite or no numbers are none, as no range has them. -/
structure Theme where
  background : String := "#1b1b14"
  foreground : String := "#fff3d1"
  accent : String := "#e7bd58"
  muted : String := "#aeb286"
  fontSize : Nat := 14
  gap : Int := 8
  border : Int := 1
  shadowSize : Int := 10
  shadowOpacity : Option ℚ := some (3 / 10)
  radius : Option ℚ := some 14
  opacity : Option ℚ := some (94 / 100)
  blurPasses : Nat := 2
  animationMs : Nat := 140

namespace Theme

def colors (self : Theme) : List String := [self.background, self.foreground, self.accent, self.muted]

def limitsValid (self : Theme) : Bool :=
  (0 ≤ self.gap && self.gap ≤ 100) && (0 ≤ self.border && self.border ≤ 20) &&
    (0 ≤ self.shadowSize && self.shadowSize ≤ 80) &&
    self.shadowOpacity.any (fun value => 0 ≤ value && value ≤ 1) &&
    self.radius.any (fun value => 0 ≤ value && value ≤ 100) &&
    self.opacity.any (fun value => 0 ≤ value && value ≤ 1) &&
    self.blurPasses ≤ 8 && self.animationMs ≤ 2000 && (6 ≤ self.fontSize && self.fontSize ≤ 72)

def checkColors : List String → Except Panic (Except String Unit)
  | [] => .ok (.ok ())
  | text :: rest =>
      match color text with
      | .error panic => .error panic
      | .ok none => .ok (.error ("invalid RGB color: " ++ text))
      | .ok (some _) => checkColors rest

/-- The part of the configuration's `validate` that looks at the theme. -/
def validate (self : Theme) : Except Panic (Except String Unit) :=
  if !self.limitsValid then .ok (.error "invalid theme dimensions/effect limits")
  else checkColors self.colors

end Theme

/-! ## The texts -/

namespace Color

def hexValue (character : Char) : Option Nat :=
  if '0' ≤ character ∧ character ≤ '9' then some (character.toNat - '0'.toNat)
  else if 'a' ≤ character ∧ character ≤ 'f' then some (character.toNat - 'a'.toNat + 10)
  else if 'A' ≤ character ∧ character ≤ 'F' then some (character.toNat - 'A'.toNat + 10)
  else none

/-- A number sign and the six hexadecimal digits of three bytes. -/
def Denotes (text : String) (red green blue : Nat) : Prop :=
  ∃ a b c d e f characters, text.toList = '#' :: characters ∧ characters.mapM hexValue = some [a, b, c, d, e, f] ∧
    red = 16 * a + b ∧ green = 16 * c + d ∧ blue = 16 * e + f

def WellFormed (text : String) : Prop := ∃ red green blue, Denotes text red green blue

/-- A number sign, a plus sign and five hexadecimal digits. -/
def Signed (text : String) : Prop :=
  ∃ a b c d e characters, text.toList = '#' :: '+' :: characters ∧ characters.mapM hexValue = some [a, b, c, d, e]

/-- The text is read as what it denotes, and as nothing where it denotes nothing. -/
def ReadRight (text : String) : Prop :=
  ∃ found, color text = .ok found ∧ (found.isSome = true ↔ WellFormed text) ∧
    ∀ red green blue, Denotes text red green blue →
      found = some ⟨component red, component green, component blue, 1⟩

/-! ## Bytes and characters -/

variable {text : String} {characters : List Char} {character : Char}

/-- The ranges of a character that is a digit. -/
theorem hexValue_eq (character : Char) : hexValue character =
    if 48 ≤ character.toNat ∧ character.toNat ≤ 57 then some (character.toNat - 48)
    else if 97 ≤ character.toNat ∧ character.toNat ≤ 102 then some (character.toNat - 87)
    else if 65 ≤ character.toNat ∧ character.toNat ≤ 70 then some (character.toNat - 55)
    else none := by
  have compare : ∀ first second : Char, first ≤ second ↔ first.toNat ≤ second.toNat := fun first second => by
    rw [Char.le_def, UInt32.le_iff_toNat_le]
    rfl
  unfold hexValue
  simp only [compare]
  have codes : '0'.toNat = 48 ∧ '9'.toNat = 57 ∧ 'a'.toNat = 97 ∧ 'f'.toNat = 102 ∧ 'A'.toNat = 65 ∧
      'F'.toNat = 70 := by
    decide
  obtain ⟨zero, nine, a, f, A, F⟩ := codes
  simp only [zero, nine, a, f, A, F]
  split_ifs with digit lower upper
  · rfl
  · congr 1
    omega
  · congr 1
    omega
  · rfl

theorem hexValue_lt {value : Nat} (read : hexValue character = some value) : value < 16 := by
  rw [hexValue_eq] at read
  split_ifs at read <;> cases read <;> omega

/-- A byte of a longer character is not a digit. -/
theorem toDigit_high {byte : UInt8} (high : 128 ≤ byte.toNat) : toDigit 16 byte = none := by
  unfold toDigit
  simp only
  rw [if_neg (by omega), if_neg (by omega), if_neg (by omega)]
  rfl

theorem toDigit_low {byte : UInt8} (same : byte.toNat = character.toNat) : toDigit 16 byte = hexValue character := by
  rw [hexValue_eq]
  unfold toDigit
  simp only [same]
  split_ifs with digit lower small upper capital <;> simp [Option.filter] <;> omega

/-- Only the character of a digit has the bytes of digits. -/
theorem utf8_digit (character : Char) :
    (String.utf8EncodeChar character).mapM (toDigit 16) = (hexValue character).map fun value => [value] := by
  -- A longer encoding starts with a byte that is no digit of any radix.
  have high : ∀ (byte : UInt8) rest, 128 ≤ byte.toNat → 127 < character.toNat →
      (byte :: rest).mapM (toDigit 16) = (hexValue character).map fun value => [value] := by
    intro byte rest above long
    rw [List.mapM_cons, toDigit_high above, hexValue_eq, if_neg (by omega), if_neg (by omega), if_neg (by omega)]
    rfl
  have code : character.val.toNat = character.toNat := rfl
  unfold String.utf8EncodeChar
  simp only [code]
  split_ifs with ascii two three
  · have same : (UInt8.ofNat character.toNat).toNat = character.toNat := by
      rw [UInt8.toNat_ofNat']
      omega
    rw [List.mapM_cons, toDigit_low same]
    cases hexValue character <;> rfl
  all_goals
    refine high _ _ ?_ (by omega)
    rw [UInt8.toNat_ofNat']
    omega

theorem utf8_digits (characters : List Char) : (utf8 characters).mapM (toDigit 16) = characters.mapM hexValue := by
  induction characters with
  | nil => rfl
  | cons first rest ih =>
    have front : utf8 (first :: rest) = String.utf8EncodeChar first ++ utf8 rest := List.flatMap_cons
    rw [front, List.mapM_append, utf8_digit, ih, List.mapM_cons]
    cases hexValue first <;> rfl

/-- Each element of a list that is read gives its result. -/
theorem map_of_mapM {α β : Type} {read : α → Option β} {elements : List α} {results : List β}
    (done : elements.mapM read = some results) : elements.map read = results.map some := by
  induction elements generalizing results with
  | nil =>
    cases done
    rfl
  | cons first rest ih =>
    obtain ⟨value, found, later⟩ := Option.bind_eq_some_iff.mp (List.mapM_cons.symm.trans done)
    obtain ⟨values, others, same⟩ := Option.bind_eq_some_iff.mp later
    cases same
    rw [List.map_cons, List.map_cons, found, ih others]

theorem utf8_length {digits : List Nat} (read : characters.mapM hexValue = some digits) :
    (utf8 characters).length = digits.length := by
  have same := congrArg List.length (map_of_mapM ((utf8_digits characters).trans read))
  rw [List.length_map, List.length_map] at same
  exact same

theorem digits_lt {digits : List Nat} (read : characters.mapM hexValue = some digits) :
    ∀ digit ∈ digits, digit < 16 := by
  intro digit there
  have listed : some digit ∈ characters.map hexValue := map_of_mapM read ▸ List.mem_map_of_mem there
  obtain ⟨character, -, found⟩ := List.mem_map.mp listed
  exact hexValue_lt found

/-- What follows a plus sign. -/
def unsigned : List Char → List Char
  | [] => []
  | first :: rest => if first = '+' then rest else first :: rest

theorem utf8_plus (rest : List Char) : utf8 ('+' :: rest) = 43 :: utf8 rest := rfl

/-- Only the plus sign has its byte at the front. -/
theorem dropPlus_utf8 (characters : List Char) : dropPlus (utf8 characters) = utf8 (unsigned characters) := by
  cases characters with
  | nil => rfl
  | cons first rest =>
    have front : utf8 (first :: rest) = String.utf8EncodeChar first ++ utf8 rest := List.flatMap_cons
    by_cases plus : first = '+'
    · rw [plus, utf8_plus, dropPlus, if_pos rfl, unsigned, if_pos rfl]
    · rw [unsigned, if_neg plus, front]
      -- The first byte of another character is not that of the plus sign.
      have other : first.toNat ≠ 43 := fun same => plus (Char.toNat_inj.mp same)
      have keep : ∀ (code : Nat) more, code % 256 ≠ 43 →
          dropPlus (UInt8.ofNat code :: more) = UInt8.ofNat code :: more := by
        intro code more apart
        refine if_neg ?_
        intro same
        exact apart (UInt8.toNat_ofNat'.symm.trans (congrArg UInt8.toNat same))
      have code : first.val.toNat = first.toNat := rfl
      unfold String.utf8EncodeChar
      simp only [code]
      split_ifs
      all_goals exact keep _ _ (by omega)

/-- How the characters after the number sign are read. -/
theorem color_eq (begins : text.toList = '#' :: characters) : color text = .ok (
    if (utf8 characters).length ≠ 6 then none
    else ((unsigned characters).mapM hexValue).map fun digits => ofWord (value 16 digits)) := by
  unfold color
  simp only [begins]
  rw [if_neg (by decide)]
  by_cases long : (utf8 characters).length ≠ 6
  · rw [if_pos long, if_pos long]
  · rw [if_neg long, if_neg long, fromStrRadix_short (by omega), if_neg, dropPlus_utf8, utf8_digits]
    · exact congrArg Except.ok (Option.map_map _ _ _)
    · intro empty
      have enough := le_dropPlus_length (utf8 characters)
      rw [empty, List.length_nil] at enough
      omega

theorem ofWord_value {a b c d e f : Nat} (small : ∀ digit ∈ [a, b, c, d, e, f], digit < 16) :
    ofWord (value 16 [a, b, c, d, e, f]) =
      ⟨component (16 * a + b), component (16 * c + d), component (16 * e + f), 1⟩ := by
  simp only [List.mem_cons, List.not_mem_nil, or_false, forall_eq_or_imp, forall_eq] at small
  obtain ⟨_, _, _, _, _, _⟩ := small
  have mask : ∀ word, word &&& 255 = word % 256 := fun word => Nat.and_two_pow_sub_one_eq_mod word 8
  unfold ofWord
  simp only [mask, Nat.shiftRight_eq_div_pow, value, List.foldl_cons, List.foldl_nil]
  congr 2 <;> omega

/-- A text that denotes bytes is read as them. -/
theorem color_denotes {red green blue : Nat} (denotes : Denotes text red green blue) :
    color text = .ok (some ⟨component red, component green, component blue, 1⟩) := by
  obtain ⟨a, b, c, d, e, f, characters, begins, read, rfl, rfl, rfl⟩ := denotes
  have first : unsigned characters = characters := by
    cases characters with
    | nil => rfl
    | cons first rest =>
      refine if_neg ?_
      rintro rfl
      cases read
  have six : (utf8 characters).length = 6 := utf8_length read
  rw [color_eq begins, if_neg (not_not.mpr six), first, read]
  exact congrArg (fun found => Except.ok (some found)) (ofWord_value (digits_lt read))

theorem denotes_of_read {digits : List Nat} (begins : text.toList = '#' :: characters)
    (read : characters.mapM hexValue = some digits) (six : digits.length = 6) : WellFormed text := by
  match digits, six with
  | [a, b, c, d, e, f], _ =>
    exact ⟨_, _, _, a, b, c, d, e, f, characters, begins, read, rfl, rfl, rfl⟩

theorem signed_of_read {digits : List Nat} (begins : text.toList = '#' :: '+' :: characters)
    (read : characters.mapM hexValue = some digits) (five : digits.length = 5) : Signed text := by
  match digits, five with
  | [a, b, c, d, e], _ => exact ⟨a, b, c, d, e, characters, begins, read⟩

/-- Only texts that denote bytes and those with a plus sign are read. -/
theorem of_color_some {found : Color} (read : color text = .ok (some found)) : WellFormed text ∨ Signed text := by
  cases begins : text.toList with
  | nil =>
    unfold color at read
    rw [begins] at read
    cases read
  | cons first characters =>
    by_cases sign : first = '#'
    · subst sign
      rw [color_eq begins] at read
      split at read
      · cases read
      · rename_i length
        -- Six bytes that are read are the bytes of six digits, or of five behind a plus sign.
        have six := not_not.mp length
        obtain ⟨digits, some_, -⟩ := Option.map_eq_some_iff.mp (Except.ok.inj read)
        have bytes := utf8_length some_
        cases characters with
        | nil => cases six
        | cons second rest =>
          by_cases plus : second = '+'
          · subst plus
            refine .inr (signed_of_read begins some_ ?_)
            rw [utf8_plus, List.length_cons] at six
            rw [unsigned, if_pos rfl] at bytes
            omega
          · rw [unsigned, if_neg plus] at some_ bytes
            exact .inl (denotes_of_read begins some_ (bytes.symm.trans six))
    · unfold color at read
      simp only [begins] at read
      rw [if_pos sign] at read
      cases read

theorem color_signed (signed : Signed text) : ∃ found, color text = .ok (some found) := by
  obtain ⟨a, b, c, d, e, characters, begins, read⟩ := signed
  have six : (utf8 ('+' :: characters)).length = 6 := by
    rw [utf8_plus, List.length_cons, utf8_length read]
    rfl
  refine ⟨ofWord (value 16 [a, b, c, d, e]), ?_⟩
  rw [color_eq begins, if_neg (not_not.mpr six), unsigned, if_pos rfl, read]
  rfl

/-- A plus sign is not a digit. -/
theorem Signed.not_wellFormed (signed : Signed text) : ¬WellFormed text := by
  obtain ⟨_, _, _, _, _, later, sign, -⟩ := signed
  rintro ⟨_, _, _, _, _, _, _, _, _, characters, begins, read, -, -, -⟩
  cases begins.symm.trans sign
  cases read

theorem color_total (text : String) : ∃ found, color text = .ok found := by
  cases begins : text.toList with
  | nil =>
    unfold color
    rw [begins]
    exact ⟨none, rfl⟩
  | cons first characters =>
    by_cases sign : first = '#'
    · subst sign
      exact ⟨_, color_eq begins⟩
    · unfold color
      simp only [begins]
      exact ⟨none, if_pos sign⟩

theorem color_some_iff : (∃ found, color text = .ok (some found)) ↔ WellFormed text ∨ Signed text := by
  constructor
  · rintro ⟨found, read⟩
    exact of_color_some read
  · rintro (⟨red, green, blue, denotes⟩ | signed)
    · exact ⟨_, color_denotes denotes⟩
    · exact color_signed signed

theorem readRight_iff (text : String) : ReadRight text ↔ ¬Signed text := by
  constructor
  · rintro ⟨found, read, form, -⟩ signed
    obtain ⟨rgb, there⟩ := color_signed signed
    cases read.symm.trans there
    exact signed.not_wellFormed (form.mp rfl)
  · intro unsigned
    obtain ⟨found, read⟩ := color_total text
    refine ⟨found, read, ?_, ?_⟩
    · constructor
      · intro some_
        obtain ⟨rgb, rfl⟩ := Option.isSome_iff_exists.mp some_
        exact (of_color_some read).resolve_right unsigned
      · rintro ⟨red, green, blue, denotes⟩
        cases read.symm.trans (color_denotes denotes)
        rfl
    · intro red green blue denotes
      exact Except.ok.inj (read.symm.trans (color_denotes denotes))

/-- The components of different bytes are different. -/
theorem component_inj {first second : Nat} (low : first < 256) (high : second < 256)
    (same : component first = component second) : first = second := by
  have near : ∀ byte : Nat, byte < 256 → |component byte - byte / 255| ≤ 1 / 2 ^ 24 := fun byte below => by
    have bound : (byte : ℚ) ≤ 255 := by exact_mod_cast Nat.le_of_lt_succ below
    refine nearestSingle_near (by positivity) ?_
    rw [div_le_one (by norm_num)]
    exact bound
  have one := abs_le.mp (near first low)
  have two := abs_le.mp (near second high)
  rw [same] at one
  have close : |(first : ℚ) - second| < 1 := by
    rw [abs_lt]
    constructor <;> norm_num at one two ⊢ <;> linarith
  have whole : |(first : Int) - second| < 1 := by exact_mod_cast close
  rw [abs_lt] at whole
  omega

end Color

/-! ## The theme -/

namespace Theme

variable {theme : Theme} {texts : List String}

/-- The configuration accepts the theme. -/
def Accepted (theme : Theme) : Prop := theme.validate = .ok (.ok ())

/-- Of the themes with valid dimensions the configuration accepts those whose colors are well formed, and each color
of an accepted theme is one that can be drawn. -/
def AcceptedRight (theme : Theme) : Prop :=
  (theme.Accepted ↔ theme.limitsValid = true ∧ ∀ text ∈ theme.colors, WellFormed text) ∧
    (theme.Accepted → ∀ text ∈ theme.colors, ∃ found, color text = .ok (some found))

theorem checkColors_ok : checkColors texts = .ok (.ok ()) ↔ ∀ text ∈ texts, ∃ found, color text = .ok (some found) := by
  induction texts with
  | nil => simp [checkColors]
  | cons first rest ih =>
    rw [checkColors, List.forall_mem_cons]
    obtain ⟨found, read⟩ := color_total first
    rw [read]
    cases found with
    | none => simp
    | some rgb => simpa using ih

theorem accepted_iff : theme.Accepted ↔
    theme.limitsValid = true ∧ ∀ text ∈ theme.colors, ∃ found, color text = .ok (some found) := by
  unfold Accepted validate
  cases theme.limitsValid with
  | false => simp
  | true => simpa using checkColors_ok

/-- The theme would be accepted, and one of its colors has a plus sign. -/
def SignedAccepted (theme : Theme) : Prop :=
  theme.limitsValid = true ∧ (∀ text ∈ theme.colors, WellFormed text ∨ Signed text) ∧ ∃ text ∈ theme.colors, Signed text

theorem acceptedRight_iff (theme : Theme) : theme.AcceptedRight ↔ ¬theme.SignedAccepted := by
  simp only [AcceptedRight, SignedAccepted, accepted_iff, color_some_iff]
  constructor
  · rintro ⟨same, -⟩ ⟨limits, read, text, there, signed⟩
    exact signed.not_wellFormed ((same.mp ⟨limits, read⟩).2 text there)
  · intro proper
    refine ⟨⟨?_, fun ⟨limits, formed⟩ => ⟨limits, fun text there => .inl (formed text there)⟩⟩, And.right⟩
    rintro ⟨limits, read⟩
    refine ⟨limits, fun text there => (read text there).resolve_right ?_⟩
    intro signed
    exact proper ⟨limits, read, text, there, signed⟩

end Theme

/-- A text is read right, and a theme accepted right, unless a plus sign stands for the first digit. No text makes
the reader panic, and no accepted theme has a color that is not read. -/
theorem colors_readRight (text : String) (theme : Theme) :
    (ReadRight text ↔ ¬Signed text) ∧ (theme.AcceptedRight ↔ ¬theme.SignedAccepted) ∧
      (∃ found, color text = .ok found) ∧
      (theme.Accepted → ∀ text ∈ theme.colors, ∃ found, color text = .ok (some found)) ∧
      ∀ first second : Nat, first < 256 → second < 256 → component first = component second → first = second :=
  ⟨readRight_iff text, theme.acceptedRight_iff, color_total text, fun accepted => (Theme.accepted_iff.mp accepted).2,
    fun _ _ => component_inj⟩

theorem plus_signed : Signed "#+12345" := ⟨1, 2, 3, 4, 5, ['1', '2', '3', '4', '5'], rfl, rfl⟩

/-- A theme whose accent has a plus sign. -/
def plusTheme : Theme := { accent := "#+12345" }

theorem plusTheme_accepted : plusTheme.SignedAccepted := by
  refine ⟨by norm_num [Theme.limitsValid, plusTheme], ?_, "#+12345", by decide, plus_signed⟩
  have background : WellFormed "#1b1b14" := ⟨_, _, _, 1, 11, 1, 11, 1, 4, _, rfl, rfl, rfl, rfl, rfl⟩
  have foreground : WellFormed "#fff3d1" := ⟨_, _, _, 15, 15, 15, 3, 13, 1, _, rfl, rfl, rfl, rfl, rfl⟩
  have muted : WellFormed "#aeb286" := ⟨_, _, _, 10, 14, 11, 2, 8, 6, _, rfl, rfl, rfl, rfl, rfl⟩
  intro text there
  have listed : text = "#1b1b14" ∨ text = "#fff3d1" ∨ text = "#+12345" ∨ text = "#aeb286" := by
    simpa [Theme.colors, plusTheme] using there
  rcases listed with rfl | rfl | rfl | rfl
  · exact .inl background
  · exact .inl foreground
  · exact .inr plus_signed
  · exact .inl muted

theorem plus_readWrong : ¬ReadRight "#+12345" ∧ ¬plusTheme.AcceptedRight :=
  ⟨fun right => (readRight_iff _).mp right plus_signed, fun right =>
    (Theme.acceptedRight_iff _).mp right plusTheme_accepted⟩

end Luma.Core
