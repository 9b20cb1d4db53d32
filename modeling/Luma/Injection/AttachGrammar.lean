import Luma.Injection.AttachConfig
import Mathlib.Data.List.Induction
import Mathlib.Data.List.Nodup
import Mathlib.Data.Nat.Bitwise

/-! Which configuration files are accepted.

What the parser accepts is the grammar of the file with two liberties: the numbers may be
written in any way that `strtoul` reads, and a zero byte ends the file.
-/

set_option autoImplicit false

namespace Luma.Injection

open Luma.Library.CString

/-! ## The grammar -/

/-- Digits and nothing else. -/
structure Digits (text : List UInt8) (value : Nat) : Prop where
  written : text ≠ []
  only : ∀ byte ∈ text, isDigit byte = true
  value : value = decimal text

/-- An absolute path that fits a buffer of the capacity. -/
structure AbsolutePath (capacity : Nat) (path : List UInt8) : Prop where
  absolute : path.head? = some slash
  closed : 0 ∉ path
  fits : path.length < capacity

/-- What the value of a key says about the configuration, for a way to write numbers. -/
def Tells (number : List UInt8 → Nat → Prop) (config : AttachConfig) (value : List UInt8) : Key → Prop
  | .version => value = ascii "1"
  | .pid => number value config.pid ∧ 1 ≤ config.pid ∧ config.pid ≤ int32Max
  | .streamSocket => value = config.streamSocket ∧ AbsolutePath sunPath value
  | .token => value = config.token ∧ value.length = 64 ∧ ∀ byte ∈ value, isHex byte = true
  | .fps => number value config.fps ∧ 30 ≤ config.fps ∧ config.fps ≤ 480
  | .quality => number value config.quality ∧ 1 ≤ config.quality ∧ config.quality ≤ 51
  | .debugLog => value = config.debugLog ∧ AbsolutePath pathMax value

/-- Without its empty lines the content is seven lines, one for each key in some order, that
say what the configuration is. -/
structure Written (number : List UInt8 → Nat → Prop) (pid : Nat) (content : List UInt8)
    (config : AttachConfig) : Prop where
  lines : ∃ entries : List (Key × List UInt8),
    (content.splitOn newline).filter (· ≠ []) = entries.map (fun entry => entry.1.line entry.2) ∧
    (entries.map Prod.fst).Perm Key.all ∧ ∀ entry ∈ entries, Tells number config entry.2 entry.1
  process : config.pid = pid

/-- The content has no zero byte and its numbers are digits. -/
structure Plain (content : List UInt8) : Prop where
  closed : 0 ∉ content
  digits : ∀ (key : Key) (value : List UInt8), (key = .pid ∨ key = .fps ∨ key = .quality) →
    key.line value ∈ content.splitOn newline → ∀ byte ∈ value, isDigit byte = true

/-! ## Numbers and values -/

theorem parsePositiveU32_eq_some {text : List UInt8} {minimum maximum value : Nat} :
    parsePositiveU32 text minimum maximum = some value ↔ Number text value ∧ minimum ≤ value ∧ value ≤ maximum := by
  unfold parsePositiveU32
  dsimp only
  constructor
  · intro accepted
    split at accepted
    · cases accepted
    · rename_i passes
      simp only [not_or, Bool.not_eq_true, not_not] at passes
      obtain ⟨inRange, moved, ended, above, below⟩ := passes
      cases accepted
      exact ⟨number_of_strtoul inRange moved ended, by omega, by omega⟩
  · rintro ⟨number, above, below⟩
    have moved : text ≠ [] := by
      rintro rfl
      obtain ⟨blanks, sign, digits, empty, -, -, written, -⟩ := number.reads
      simp_all
    rw [strtoul_reads number, if_neg]
    simp only [not_or, Bool.not_eq_true, not_not]
    exact ⟨trivial, moved.symm, trivial, by omega, by omega⟩

theorem number_of_digits {text : List UInt8} {value : Nat} (digits : Digits text value) (below : value < 2 ^ 64) :
    Number text value := by
  refine ⟨[], [], text, rfl, by simp, .inl rfl, digits.written, digits.only, ?_, ?_⟩
  · rw [← digits.value]
    exact below
  · rw [if_neg (by simp)]
    exact digits.value

theorem isDigit_of_isSpace {byte : UInt8} (space : isSpace byte = true) : isDigit byte = false := by
  simp only [isSpace, Bool.or_eq_true, Bool.and_eq_true, decide_eq_true_eq, beq_iff_eq, UInt8.le_iff_toNat_le] at space
  simp only [isDigit, Bool.and_eq_false_iff, decide_eq_false_iff_not, UInt8.le_iff_toNat_le]
  rcases space with ⟨-, small⟩ | rfl
  · left
    simp at small ⊢
    omega
  · left
    decide

theorem digits_of_number {text : List UInt8} {value : Nat} (number : Number text value)
    (only : ∀ byte ∈ text, isDigit byte = true) : Digits text value := by
  obtain ⟨blanks, sign, digits, rfl, spaces, signed, written, -, -, rfl⟩ := number.reads
  have none : blanks = [] := by
    cases blanks with
    | nil => rfl
    | cons byte rest =>
      have digit := only byte (by simp)
      rw [isDigit_of_isSpace (spaces byte List.mem_cons_self)] at digit
      cases digit
  have unsigned : sign = [] := by
    rcases signed with rfl | rfl | rfl
    · rfl
    · have digit := only plus (by simp)
      cases digit
    · have digit := only minus (by simp)
      cases digit
  subst none unsigned
  refine ⟨written, only, ?_⟩
  rw [if_neg (by simp)]
  rfl

namespace Key

variable {key : Key}

theorem named_eq_some {text : List UInt8} : named text = some key ↔ key.name = text := by
  constructor
  · intro found
    simpa using List.find?_some found
  · rintro rfl
    cases key <;> decide

theorem equals_notMem_name (key : Key) : equals ∉ key.name := by cases key <;> decide

theorem name_ne_nil (key : Key) : key.name ≠ [] := by cases key <;> decide

theorem zero_notMem_name (key : Key) : 0 ∉ key.name := by cases key <;> decide

theorem line_injective {other : Key} {value different : List UInt8} (same : key.line value = other.line different) :
    key = other ∧ value = different := by
  have splits (key : Key) (value : List UInt8) : strchr equals (key.line value) = some (key.name, value) :=
    strchr_eq_some.mpr ⟨rfl, key.equals_notMem_name⟩
  have one := splits key value
  rw [same, splits other different] at one
  injection one with parts
  injection parts with names values
  have found : named key.name = some key := named_eq_some.mpr rfl
  rw [← names, named_eq_some.mpr rfl] at found
  exact ⟨(Option.some.inj found).symm, values.symm⟩

/-- Two configurations have the same value for the key. -/
def Same (one other : AttachConfig) : Key → Prop
  | .version => True
  | .pid => one.pid = other.pid
  | .streamSocket => one.streamSocket = other.streamSocket
  | .token => one.token = other.token
  | .fps => one.fps = other.fps
  | .quality => one.quality = other.quality
  | .debugLog => one.debugLog = other.debugLog

theorem eq_of_same {one other : AttachConfig} (same : ∀ key, Same one other key) : one = other := by
  obtain ⟨pid, fps, quality, streamSocket, token, debugLog⟩ := one
  have pids := same .pid
  have rates := same .fps
  have qualities := same .quality
  have sockets := same .streamSocket
  have tokens := same .token
  have logs := same .debugLog
  simp only [Same] at pids rates qualities sockets tokens logs
  subst pids rates qualities sockets tokens logs
  rfl

end Key

theorem tells_same {number : List UInt8 → Nat → Prop} {one other : AttachConfig} {value : List UInt8} {key : Key}
    (same : Key.Same one other key) : Tells number one value key ↔ Tells number other value key := by
  cases key <;> simp only [Key.Same] at same <;> simp [Tells, same]

theorem copyConfigValue_eq_some {capacity : Nat} {value copied : List UInt8} (absolute : value.head? = some slash) :
    copyConfigValue capacity value = some copied ↔ value.length < capacity ∧ value = copied := by
  have written : value.length ≠ 0 := by
    intro empty
    rw [List.length_eq_zero_iff.mp empty] at absolute
    cases absolute
  simp [copyConfigValue, written]

/-- A value is accepted if it says what the new configuration is, and the rest stays. -/
theorem acceptValue_eq_some {config next : AttachConfig} {value : List UInt8} {key : Key} (closed : 0 ∉ value) :
    acceptValue config value key = some next ↔
      Tells Number next value key ∧ ∀ other, other ≠ key → Key.Same next config other := by
  constructor
  · intro accepted
    cases key with
    | version =>
      simp only [acceptValue, Option.ite_none_right_eq_some, Option.some.injEq] at accepted
      obtain ⟨one, rfl⟩ := accepted
      refine ⟨one, fun other _ => ?_⟩
      cases other <;> first | exact trivial | exact rfl
    | pid | fps | quality =>
      simp only [acceptValue, Option.map_eq_some_iff, parsePositiveU32_eq_some] at accepted
      obtain ⟨value, number, rfl⟩ := accepted
      refine ⟨number, fun other different => ?_⟩
      cases other <;> first | exact trivial | exact rfl | exact absurd rfl different
    | streamSocket | debugLog =>
      simp only [acceptValue, Option.ite_none_right_eq_some, Option.map_eq_some_iff] at accepted
      obtain ⟨absolute, copied, copies, rfl⟩ := accepted
      obtain ⟨fits, rfl⟩ := (copyConfigValue_eq_some absolute).mp copies
      refine ⟨⟨rfl, absolute, closed, fits⟩, fun other different => ?_⟩
      cases other <;> first | exact trivial | exact rfl | exact absurd rfl different
    | token =>
      simp only [acceptValue, Option.ite_none_right_eq_some, Option.map_eq_some_iff, validToken, Bool.and_eq_true,
        beq_iff_eq, List.all_eq_true] at accepted
      obtain ⟨⟨long, hex⟩, copied, copies, rfl⟩ := accepted
      simp only [copyConfigValue, long] at copies
      cases copies
      refine ⟨⟨rfl, long, hex⟩, fun other different => ?_⟩
      cases other <;> first | exact trivial | exact rfl | exact absurd rfl different
  · rintro ⟨told, kept⟩
    have whole (final : AttachConfig) (new : Key.Same final next key)
        (old : ∀ other, other ≠ key → Key.Same final config other) : final = next := by
      apply Key.eq_of_same
      intro other
      by_cases this : other = key
      · exact this ▸ new
      · have one := old other this
        have two := kept other this
        cases other <;> first | trivial | exact one.trans two.symm
    cases key with
    | version =>
      rw [acceptValue, if_pos (show value = ascii "1" from told)]
      exact congrArg some (whole config trivial fun other _ => by cases other <;> first | exact trivial | exact rfl)
    | pid | fps | quality =>
      simp only [acceptValue, Option.map_eq_some_iff, parsePositiveU32_eq_some]
      refine ⟨_, told, whole _ rfl fun other different => ?_⟩
      cases other <;> first | exact trivial | exact rfl | exact absurd rfl different
    | streamSocket | debugLog =>
      obtain ⟨same, absolute, -, fits⟩ := told
      simp only [acceptValue, if_pos absolute, Option.map_eq_some_iff]
      refine ⟨_, (copyConfigValue_eq_some absolute).mpr ⟨fits, same⟩, whole _ rfl fun other different => ?_⟩
      cases other <;> first | exact trivial | exact rfl | exact absurd rfl different
    | token =>
      obtain ⟨same, long, hex⟩ := told
      have valid : validToken value = true := by
        simp only [validToken, long, beq_self_eq_true, Bool.true_and, List.all_eq_true]
        exact hex
      simp only [acceptValue, if_pos valid, copyConfigValue, long, Option.map_eq_some_iff]
      refine ⟨value, rfl, whole _ same fun other different => ?_⟩
      cases other <;> first | exact trivial | exact rfl | exact absurd rfl different

/-! ## The bits of the keys -/

/-- The bits that are set are those of the keys. -/
def Marks (seen : Nat) (keys : List Key) : Prop :=
  ∀ place, seen.testBit place = keys.any (·.place == place)

section Marks

variable {seen : Nat} {keys : List Key}

theorem place_injective {one other : Key} (same : one.place = other.place) : one = other := by
  cases one <;> cases other <;> first | rfl | cases same

theorem marks_nil : Marks 0 [] := by
  intro place
  simp

theorem Marks.append (marks : Marks seen keys) (key : Key) : Marks (seen ||| key.bit) (keys ++ [key]) := by
  intro place
  rw [Nat.testBit_or, marks place, Key.bit, Nat.testBit_two_pow, List.any_append, List.any_cons, List.any_nil,
    Bool.or_false]
  rfl

theorem Marks.exists (keys : List Key) : ∃ seen, Marks seen keys := by
  induction keys using List.reverseRecOn with
  | nil => exact ⟨0, marks_nil⟩
  | append_singleton keys key ih =>
    obtain ⟨seen, marks⟩ := ih
    exact ⟨_, marks.append key⟩

theorem Marks.unique {other : Nat} (marks : Marks seen keys) (too : Marks other keys) : seen = other := by
  apply Nat.eq_of_testBit_eq
  intro place
  rw [marks, too]

theorem Marks.testBit (marks : Marks seen keys) (key : Key) : seen.testBit key.place = true ↔ key ∈ keys := by
  rw [marks, List.any_eq_true]
  constructor
  · rintro ⟨other, there, same⟩
    exact place_injective (beq_iff_eq.mp same) ▸ there
  · intro there
    exact ⟨key, there, beq_self_eq_true _⟩

theorem Marks.unset (marks : Marks seen keys) (key : Key) : seen &&& key.bit = 0 ↔ key ∉ keys := by
  rw [Key.bit, Nat.and_two_pow, ← marks.testBit key]
  cases seen.testBit key.place <;> simp

theorem Marks.complete (marks : Marks seen keys) : seen = 127 ↔ ∀ key, key ∈ keys := by
  constructor
  · rintro rfl key
    rw [← marks.testBit key]
    cases key <;> decide
  · intro all
    have every : Marks 127 keys := by
      intro place
      by_cases small : place < 7
      · have named : ∀ place < 7, ∃ key ∈ Key.all, key.place = place := by decide
        obtain ⟨key, -, rfl⟩ := named place small
        have found : keys.any (·.place == key.place) = true :=
          List.any_eq_true.mpr ⟨key, all key, beq_self_eq_true _⟩
        rw [found]
        cases key <;> decide
      · have above : keys.any (·.place == place) = false := by
          rw [List.any_eq_false]
          intro key _ same
          have bound : key.place < 7 := by cases key <;> decide
          rw [beq_iff_eq] at same
          omega
        rw [above]
        apply Nat.testBit_lt_two_pow
        exact lt_of_lt_of_le (by decide) (Nat.pow_le_pow_right (by omega) (not_lt.mp small))
    exact marks.unique every

end Marks

/-! ## The lines -/

theorem acceptLine_eq_some {self next : Reading} {line : List UInt8} (closed : 0 ∉ line) :
    acceptLine self line = some next ↔ ∃ key value, line = Key.line key value ∧ self.seen &&& key.bit = 0 ∧
      next.seen = self.seen ||| key.bit ∧ Tells Number next.config value key ∧
      ∀ other, other ≠ key → Key.Same next.config self.config other := by
  unfold acceptLine
  constructor
  · intro accepted
    split at accepted
    · cases accepted
    · rename_i name value found
      obtain ⟨rfl, -⟩ := strchr_eq_some.mp found
      split at accepted
      · cases accepted
      · split at accepted
        · cases accepted
        · rename_i key named
          cases Key.named_eq_some.mp named
          split at accepted
          · cases accepted
          · rename_i fresh
            obtain ⟨config, accepts, rfl⟩ := Option.map_eq_some_iff.mp accepted
            obtain ⟨tells, kept⟩ := (acceptValue_eq_some fun there => closed (by simp [there])).mp accepts
            exact ⟨key, value, rfl, not_not.mp fresh, rfl, tells, kept⟩
  · rintro ⟨key, value, rfl, fresh, seen, tells, kept⟩
    have found : strchr equals (key.line value) = some (key.name, value) :=
      strchr_eq_some.mpr ⟨rfl, key.equals_notMem_name⟩
    have accepts := (acceptValue_eq_some fun there => closed (by simp [Key.line, there])).mpr ⟨tells, kept⟩
    rw [found]
    simp only [if_neg key.name_ne_nil, Key.named_eq_some.mpr rfl, fresh, accepts, ne_eq, not_true_eq_false, if_false,
      Option.map_some, ← seen]

/-- The lines that were read say what is in the configuration so far. -/
structure Reads (lines : List (List UInt8)) (reading : Reading) : Prop where
  entries : ∃ entries : List (Key × List UInt8), lines = entries.map (fun entry => entry.1.line entry.2) ∧
    (entries.map Prod.fst).Nodup ∧ Marks reading.seen (entries.map Prod.fst) ∧
    (∀ entry ∈ entries, Tells Number reading.config entry.2 entry.1) ∧
    ∀ key, key ∉ entries.map Prod.fst → Key.Same reading.config {} key

theorem exists_without (config : AttachConfig) (key : Key) : ∃ before : AttachConfig, Key.Same before {} key ∧
    ∀ other, other ≠ key → Key.Same config before other := by
  cases key with
  | version => exact ⟨config, trivial, fun other _ => by cases other <;> first | exact trivial | exact rfl⟩
  | pid => exact ⟨{ config with pid := 0 }, rfl, fun other different => by
      cases other <;> first | exact trivial | exact rfl | exact absurd rfl different⟩
  | streamSocket => exact ⟨{ config with streamSocket := [] }, rfl, fun other different => by
      cases other <;> first | exact trivial | exact rfl | exact absurd rfl different⟩
  | token => exact ⟨{ config with token := [] }, rfl, fun other different => by
      cases other <;> first | exact trivial | exact rfl | exact absurd rfl different⟩
  | fps => exact ⟨{ config with fps := 0 }, rfl, fun other different => by
      cases other <;> first | exact trivial | exact rfl | exact absurd rfl different⟩
  | quality => exact ⟨{ config with quality := 0 }, rfl, fun other different => by
      cases other <;> first | exact trivial | exact rfl | exact absurd rfl different⟩
  | debugLog => exact ⟨{ config with debugLog := [] }, rfl, fun other different => by
      cases other <;> first | exact trivial | exact rfl | exact absurd rfl different⟩

theorem foldlM_acceptLine {lines : List (List UInt8)} (closed : ∀ line ∈ lines, 0 ∉ line) {reading : Reading} :
    lines.foldlM acceptLine {} = some reading ↔ Reads lines reading := by
  induction lines using List.reverseRecOn generalizing reading with
  | nil =>
    constructor
    · intro start
      cases start
      exact ⟨[], rfl, List.nodup_nil, marks_nil, by simp, fun key _ => by
        cases key <;> first | exact trivial | exact rfl⟩
    · rintro ⟨entries, none, -, marks, -, untouched⟩
      cases List.map_eq_nil_iff.mp none.symm
      obtain ⟨seen, config⟩ := reading
      cases marks.unique marks_nil
      cases Key.eq_of_same fun key => untouched key (by simp)
      rfl
  | append_singleton lines line ih =>
    have before (reading : Reading) : lines.foldlM acceptLine {} = some reading ↔ Reads lines reading :=
      ih fun line there => closed line (List.mem_append_left _ there)
    have clean := closed line (by simp)
    simp only [List.foldlM_append, List.foldlM_cons, List.foldlM_nil, Option.bind_eq_bind, Option.bind_eq_some_iff,
      pure, Option.some.injEq, exists_eq_right, before, acceptLine_eq_some clean]
    constructor
    · rintro ⟨middle, ⟨entries, rfl, distinct, marks, tells, untouched⟩, key, value, rfl, fresh, seen, new, kept⟩
      have absent := (marks.unset key).mp fresh
      refine ⟨entries ++ [(key, value)], by simp, ?_, ?_, ?_, ?_⟩
      · rw [List.map_append]
        exact List.Nodup.append distinct (List.nodup_singleton _) (by simpa using absent)
      · rw [List.map_append, seen]
        exact marks.append key
      · intro entry there
        rcases List.mem_append.mp there with old | last
        · apply (tells_same (kept entry.1 fun same => absent (same ▸ List.mem_map_of_mem old))).mpr
          exact tells entry old
        · cases List.mem_singleton.mp last
          exact new
      · intro other outside
        simp only [List.map_append, List.mem_append, not_or, List.map_cons, List.map_nil, List.mem_singleton] at outside
        have one := kept other outside.2
        have two := untouched other outside.1
        cases other <;> first | exact trivial | exact one.trans two
    · rintro ⟨entries, whole, distinct, marks, tells, untouched⟩
      obtain rfl | ⟨entries, ⟨key, value⟩, rfl⟩ := List.eq_nil_or_concat' entries
      · simp at whole
      · rw [List.map_append] at whole distinct marks
        obtain ⟨rfl, last⟩ := List.append_inj' whole rfl
        cases last
        have parts := List.nodup_append.mp distinct
        have absent : key ∉ entries.map Prod.fst := fun there => parts.2.2 key there key List.mem_cons_self rfl
        obtain ⟨seen, marked⟩ := Marks.exists (entries.map Prod.fst)
        obtain ⟨config, reset, kept⟩ := exists_without reading.config key
        refine ⟨⟨seen, config⟩, ⟨entries, rfl, parts.1, marked, ?_, ?_⟩, key, value, rfl,
          (marked.unset key).mpr absent, marks.unique (marked.append key), tells (key, value) (by simp), kept⟩
        · intro entry there
          apply (tells_same (kept entry.1 fun same => absent (same ▸ List.mem_map_of_mem there))).mp
          exact tells entry (List.mem_append_left _ there)
        · intro other outside
          by_cases this : other = key
          · exact this ▸ reset
          · have one := kept other this
            have two := untouched other (by
              rw [List.map_append, List.mem_append, not_or]
              exact ⟨outside, by simpa using this⟩)
            cases other <;> first | exact trivial | exact one.symm.trans two

/-! ## The file -/

theorem zero_notMem_piece {text piece : List UInt8} (closed : 0 ∉ text) (there : piece ∈ text.splitOn newline) :
    0 ∉ piece :=
  fun zero => closed ((mem_splitOn_iff (by decide) text).mp ⟨piece, there, zero⟩)

theorem perm_all {keys : List Key} : keys.Perm Key.all ↔ keys.Nodup ∧ ∀ key, key ∈ keys := by
  have complete (key : Key) : key ∈ Key.all := by cases key <;> decide
  constructor
  · intro order
    exact ⟨order.nodup_iff.mpr (by decide), fun key => order.mem_iff.mpr (complete key)⟩
  · rintro ⟨distinct, all⟩
    rw [List.perm_ext_iff_of_nodup distinct (by decide)]
    exact fun key => ⟨fun _ => complete key, fun _ => all key⟩

theorem parseAttachConfig_eq_some {pid : Nat} {bytes : List UInt8} {config : AttachConfig} :
    parseAttachConfig pid bytes = some config ↔ Written Number pid (cstring bytes) config := by
  have closed : ∀ line ∈ tokens newline (cstring bytes), 0 ∉ line := by
    intro line there
    rw [tokens_eq_splitOn] at there
    exact zero_notMem_piece (zero_notMem_cstring bytes) (List.mem_of_mem_filter there)
  have read (reading : Reading) : (tokens newline (cstring bytes)).foldlM acceptLine {} = some reading ↔
      Reads (tokens newline (cstring bytes)) reading := foldlM_acceptLine closed
  unfold parseAttachConfig
  constructor
  · intro accepted
    split at accepted
    · cases accepted
    · rename_i reading folds
      obtain ⟨entries, lines, distinct, marks, tells, -⟩ := (read reading).mp folds
      split at accepted
      · rename_i complete
        cases accepted
        refine ⟨⟨entries, ?_, perm_all.mpr ⟨distinct, marks.complete.mp complete.1⟩, tells⟩, complete.2⟩
        rw [← tokens_eq_splitOn, lines]
      · cases accepted
  · rintro ⟨⟨entries, lines, order, tells⟩, process⟩
    obtain ⟨distinct, all⟩ := perm_all.mp order
    rw [← tokens_eq_splitOn] at lines
    have marks : Marks 127 (entries.map Prod.fst) := by
      obtain ⟨seen, marks⟩ := Marks.exists (entries.map Prod.fst)
      exact marks.complete.mpr all ▸ marks
    have folds := (read ⟨127, config⟩).mpr ⟨entries, lines, distinct, marks, tells,
      fun key outside => absurd (all key) outside⟩
    rw [folds]
    exact if_pos ⟨rfl, process⟩

theorem tells_number {config : AttachConfig} {value : List UInt8} {key : Key}
    (tells : Tells Digits config value key) : Tells Number config value key := by
  cases key with
  | version | streamSocket | token | debugLog => exact tells
  | pid | fps | quality =>
    obtain ⟨digits, above, below⟩ := tells
    exact ⟨number_of_digits digits (lt_of_le_of_lt below (by decide)), above, below⟩

theorem tells_closed {config : AttachConfig} {value : List UInt8} {key : Key} (tells : Tells Digits config value key) :
    0 ∉ value := by
  intro zero
  cases key with
  | version =>
    cases (show value = ascii "1" from tells)
    revert zero
    decide
  | streamSocket | debugLog => exact tells.2.closed zero
  | token => exact absurd (tells.2.2 0 zero) (by decide)
  | pid | fps | quality => exact absurd (tells.1.only 0 zero) (by decide)

/-- The two readings of the grammar differ in zero bytes and in what is not a digit. -/
theorem written_digits {pid : Nat} {content : List UInt8} {config : AttachConfig} :
    Written Digits pid content config ↔ Written Number pid (cstring content) config ∧ Plain content := by
  constructor
  · rintro ⟨⟨entries, lines, order, tells⟩, process⟩
    have among {line : List UInt8} (there : line ∈ content.splitOn newline) (written : line ≠ []) :
        ∃ entry ∈ entries, entry.1.line entry.2 = line := by
      have kept : line ∈ (content.splitOn newline).filter (· ≠ []) := List.mem_filter.mpr ⟨there, by simpa using written⟩
      rw [lines] at kept
      exact List.mem_map.mp kept
    have closed : 0 ∉ content := by
      intro zero
      obtain ⟨line, there, inside⟩ := (mem_splitOn_iff (show (0 : UInt8) ≠ newline by decide) content).mpr zero
      obtain ⟨entry, listed, rfl⟩ := among there (List.ne_nil_of_mem inside)
      rcases List.mem_append.mp inside with name | later
      · exact entry.1.zero_notMem_name name
      · have value : 0 ∈ entry.2 := List.mem_of_ne_of_mem (show (0 : UInt8) ≠ equals by decide) later
        exact tells_closed (tells entry listed) value
    refine ⟨⟨⟨entries, ?_, order, fun entry there => tells_number (tells entry there)⟩, process⟩, closed, ?_⟩
    · rw [cstring_eq_self closed, lines]
    · intro key value number there
      obtain ⟨entry, listed, same⟩ := among there (by simp [Key.line])
      obtain ⟨rfl, rfl⟩ := Key.line_injective same
      have told := tells entry listed
      rcases number with named | named | named
      all_goals
        rw [named] at told
        exact told.1.only
  · rintro ⟨⟨⟨entries, lines, order, tells⟩, process⟩, plain⟩
    rw [cstring_eq_self plain.closed] at lines
    refine ⟨⟨entries, lines, order, fun entry listed => ?_⟩, process⟩
    have there : entry.1.line entry.2 ∈ content.splitOn newline := by
      have kept : entry.1.line entry.2 ∈ entries.map fun entry => entry.1.line entry.2 := List.mem_map_of_mem listed
      rw [← lines] at kept
      exact List.mem_of_mem_filter kept
    have digits := plain.digits entry.1 entry.2
    have told := tells entry listed
    obtain ⟨key, value⟩ := entry
    cases key with
    | version | streamSocket | token | debugLog => exact told
    | pid => exact ⟨digits_of_number told.1 (digits (.inl rfl) there), told.2⟩
    | fps => exact ⟨digits_of_number told.1 (digits (.inr (.inl rfl)) there), told.2⟩
    | quality => exact ⟨digits_of_number told.1 (digits (.inr (.inr rfl)) there), told.2⟩

/-- The path leads to a private file with the content, which `read` returns in pieces. -/
structure Offers (process : Process) (path content : List UInt8) : Prop where
  absolute : path.head? = some slash
  fits : path.length < pathMax
  file : ∃ file metadata, process.opens path = some file ∧ file.metadata = some metadata ∧
    metadata.regular = true ∧ metadata.owner = process.effectiveUser ∧ metadata.mode &&& 0o077 = 0 ∧
    metadata.size = content.length ∧
    ∃ pieces : List (List UInt8), file.reads = pieces.map some ∧ pieces.flatten = content ∧ [] ∉ pieces

theorem readBytes_pieces {pieces : List (List UInt8)} (written : [] ∉ pieces) :
    readBytes pieces.flatten.length (pieces.map some) = some pieces.flatten := by
  induction pieces with
  | nil => rfl
  | cons piece pieces ih =>
    obtain ⟨first, piece, rfl⟩ := List.exists_cons_of_ne_nil fun empty => written (empty ▸ List.mem_cons_self)
    have later := ih fun there => written (List.mem_cons_of_mem _ there)
    have left : piece.length + pieces.flatten.length - piece.length = pieces.flatten.length := by omega
    simp only [List.flatten_cons, List.cons_append, List.length_cons, List.length_append, List.map_cons, readBytes, left,
      later, Option.map_some]

theorem readAttachConfig_offers {process : Process} {path content : List UInt8} (offers : Offers process path content)
    (short : 1 ≤ content.length) (long : content.length ≤ 4096) :
    readAttachConfig process (some path) = parseAttachConfig process.pid content := by
  obtain ⟨file, metadata, opens, stat, regular, owner, mode, size, pieces, reads, rfl, written⟩ := offers.file
  have accessible : ¬(path.head? ≠ some slash ∨ path.length ≥ pathMax) := by
    simp [offers.absolute, offers.fits]
  have kept : ¬(¬metadata.regular ∨ metadata.owner ≠ process.effectiveUser ∨ metadata.mode &&& 0o077 ≠ 0 ∨
      metadata.size = 0 ∨ metadata.size > 4096) := by
    simp only [not_or, not_not]
    exact ⟨regular, owner, mode, by omega, by omega⟩
  unfold readAttachConfig
  simp only [if_neg accessible, opens, stat, if_neg kept]
  simp only [size, reads, readBytes_pieces written, Option.bind_some]

def plainLine (line : List UInt8) : Bool := (strchr equals line).all fun parts =>
  !([Key.name .pid, Key.name .fps, Key.name .quality].contains parts.1) || parts.2.all isDigit

theorem plainLine_iff {line : List UInt8} : plainLine line = true ↔ ∀ (key : Key) (value : List UInt8),
    (key = .pid ∨ key = .fps ∨ key = .quality) → key.line value = line → ∀ byte ∈ value, isDigit byte = true := by
  unfold plainLine
  simp only [Option.all_eq_true, Bool.or_eq_true, Bool.not_eq_true', List.all_eq_true, Prod.forall, strchr_eq_some]
  constructor
  · rintro plain key value number rfl
    rcases plain key.name value ⟨rfl, key.equals_notMem_name⟩ with other | digits
    · rcases number with rfl | rfl | rfl <;> exact absurd other (by decide)
    · exact digits
  · rintro plain name value ⟨rfl, -⟩
    by_cases named : [Key.name .pid, Key.name .fps, Key.name .quality].contains name = true
    · right
      simp only [List.contains_iff_mem, List.mem_cons, List.not_mem_nil, or_false] at named
      rcases named with rfl | rfl | rfl
      · exact plain .pid value (.inl rfl) rfl
      · exact plain .fps value (.inr (.inl rfl)) rfl
      · exact plain .quality value (.inr (.inr rfl)) rfl
    · left
      simpa using named

instance (content : List UInt8) : Decidable (Plain content) :=
  decidable_of_iff (0 ∉ content ∧ ∀ line ∈ content.splitOn newline, plainLine line = true) <| by
    simp only [plainLine_iff]
    constructor
    · rintro ⟨closed, lines⟩
      exact ⟨closed, fun key value number there => lines _ there key value number rfl⟩
    · rintro ⟨closed, digits⟩
      refine ⟨closed, ?_⟩
      rintro _ there key value number rfl
      exact digits key value number there

/-- The files of the grammar are the ones that are accepted, unless what stands before the
first zero byte is accepted and the file has a zero byte or a number with a blank or a sign. -/
theorem attach_config_parsed {process : Process} {path content : List UInt8} (offers : Offers process path content)
    (short : 1 ≤ content.length) (long : content.length ≤ 4096) :
    (∀ config, readAttachConfig process (some path) = some config ↔ Written Digits process.pid content config) ↔
      ((∃ config, Written Number process.pid (cstring content) config) → Plain content) := by
  rw [readAttachConfig_offers offers short long]
  simp only [parseAttachConfig_eq_some, written_digits]
  constructor
  · rintro parsed ⟨config, accepted⟩
    exact ((parsed config).mp accepted).2
  · intro plain config
    constructor
    · exact fun accepted => ⟨accepted, plain ⟨config, accepted⟩⟩
    · exact And.left

/-- A process with one file to read, which comes in one piece. -/
def readerOf (content : List UInt8) : Process where
  pid := 7
  positive := by decide
  bounded := by decide
  effectiveUser := 1000
  opens := fun _ => some { metadata := some ⟨true, 1000, 0o600, content.length⟩, reads := [some content] }

theorem readerOf_offers {content : List UInt8} (written : content ≠ []) :
    Offers (readerOf content) (ascii "/run/config") content :=
  ⟨by decide, by decide, _, _, rfl, rfl, rfl, rfl, show 0o600 &&& 0o077 = 0 by decide, rfl, [content], rfl, by simp, by simpa using written.symm⟩

/-- A file whose frame rate is written as in the argument. -/
def configFile (fps : String) : List UInt8 :=
  ascii "version=1\npid=7\nstream_socket=/s\ntoken=" ++ List.replicate 64 48 ++
    ascii ("\nfps=" ++ fps ++ "\nquality=20\ndebug_log=/d\n")

theorem attach_config_parsed_plain : ∃ config,
    readAttachConfig (readerOf (configFile "60")) (some (ascii "/run/config")) = some config ∧
      Written Digits 7 (configFile "60") config := by
  have written : configFile "60" ≠ [] := by decide +kernel
  have parsed := (attach_config_parsed (readerOf_offers written) (by decide +kernel) (by decide +kernel)).mpr
    fun _ => by decide +kernel
  obtain ⟨config, accepted⟩ := Option.isSome_iff_exists.mp
    (show (readAttachConfig (readerOf (configFile "60")) (some (ascii "/run/config"))).isSome by decide +kernel)
  exact ⟨config, accepted, (parsed config).mp accepted⟩

/-- A blank before the number is accepted. -/
theorem attach_config_accepts_blank : ∃ config,
    readAttachConfig (readerOf (configFile " 60")) (some (ascii "/run/config")) = some config ∧
      ¬Written Digits 7 (configFile " 60") config := by
  obtain ⟨config, accepted⟩ := Option.isSome_iff_exists.mp
    (show (readAttachConfig (readerOf (configFile " 60")) (some (ascii "/run/config"))).isSome by decide +kernel)
  refine ⟨config, accepted, fun written => ?_⟩
  exact absurd (written_digits.mp written).2 (by decide +kernel)

end Luma.Injection
