import Luma.Library.Replacement
import Luma.Library.Text

/-! Desktop entries, and the arguments that a program is started with. -/

set_option autoImplicit false

namespace Luma.Shell

open Luma.Library

structure DesktopEntry where
  name : String
  exec : List String
  deriving DecidableEq, Repr

namespace DesktopEntry

def startsWith (text : String) (first : Char) : Bool := text.toList.head? = some first

/-- The keys and values of the section, in the order of the lines. -/
def values : Bool → List String → List (String × String)
  | _, [] => []
  | inEntry, line :: rest =>
      let line := Text.trim line
      if startsWith line '[' then values (line == "[Desktop Entry]") rest
      else if !inEntry || startsWith line '#' then values inEntry rest
      else
        match Text.splitOnce line '=' with
        | some pair => pair :: values inEntry rest
        | none => values inEntry rest

/-- The first line of a key counts. -/
def get (text key : String) : Option String :=
  ((values false (Text.lines text)).find? fun pair => pair.1 = key).map (·.2)

/-- The arguments that stay, with their escapes replaced. -/
def keptArguments (arguments : List String) : List String :=
  (arguments.filter fun argument => argument = "%%" || !startsWith argument '%').map fun argument =>
    Text.replace argument "%%" "%"

/-- `shlexSplit` is `shlex::split`. -/
def parseDesktopEntryText (shlexSplit : String → Option (List String)) (text : String) : Option DesktopEntry :=
  if get text "Type" ≠ some "Application" ∨ get text "NoDisplay" = some "true" ∨ get text "Hidden" = some "true" then
    none
  else do
    let name := Text.trim (← get text "Name")
    let exec := keptArguments (← shlexSplit (Text.trim (← get text "Exec")))
    if name ≠ "" ∧ exec ≠ [] then return { name, exec } else none

/-! ## The statement -/

/-- The arguments of the `Exec` line. -/
def execArguments (shlexSplit : String → Option (List String)) (text : String) : Option (List String) :=
  (get text "Exec").bind fun value => shlexSplit (Text.trim value)

def isLetter (character : Char) : Bool :=
  ('a' ≤ character && character ≤ 'z') || ('A' ≤ character && character ≤ 'Z')

/-- A percent sign and a letter. -/
def isFieldCode (argument : String) : Bool :=
  match argument.toList with
  | [first, second] => first = '%' && isLetter second
  | _ => false

/-- A field code in a text whose escapes are read from the front. -/
def containsFieldCode : List Char → Bool
  | first :: second :: rest =>
      if first ≠ '%' then containsFieldCode (second :: rest)
      else if second = '%' then containsFieldCode rest
      else isLetter second || containsFieldCode (second :: rest)
  | _ => false

/-- What the arguments should be: without the field codes, and with escapes replaced. -/
def withoutFieldCodes (arguments : List String) : List String :=
  (arguments.filter fun argument => !isFieldCode argument).map fun argument => Text.replace argument "%%" "%"

/-- A field code, an escape, or a text that neither begins with a percent sign nor contains a field code. -/
def Ordinary (argument : String) : Prop :=
  isFieldCode argument = true ∨ argument = "%%" ∨
    startsWith argument '%' = false ∧ containsFieldCode argument.toList = false

instance (argument : String) : Decidable (Ordinary argument) := by
  unfold Ordinary
  infer_instance

/-! ## Arguments -/

theorem parse_exec {shlexSplit : String → Option (List String)} {text : String} {entry : DesktopEntry}
    (parsed : parseDesktopEntryText shlexSplit text = some entry) :
    ∃ arguments, execArguments shlexSplit text = some arguments ∧ entry.exec = keptArguments arguments := by
  unfold parseDesktopEntryText at parsed
  split at parsed
  · cases parsed
  · simp only [Option.bind_eq_bind, Option.bind_eq_some_iff] at parsed
    obtain ⟨name, -, value, found, arguments, split, ending⟩ := parsed
    refine ⟨arguments, ?_, ?_⟩
    · rw [execArguments, found, Option.bind_some, split]
    · split at ending
      · cases ending
        rfl
      · cases ending

/-- Two selections of which one is within the other are as long only if they select the same. -/
theorem filter_length_eq {α : Type} {keeps expected : α → Bool}
    (within : ∀ entry, keeps entry = true → expected entry = true) {entries : List α}
    (long : (entries.filter keeps).length = (entries.filter expected).length) :
    ∀ entry ∈ entries, expected entry = true → keeps entry = true := by
  have nested : (entries.filter expected).filter keeps = entries.filter keeps := by
    rw [List.filter_filter]
    refine List.filter_congr fun entry _ => ?_
    cases kept : keeps entry with
    | false => rfl
    | true => rw [within entry kept]; rfl
  have same : entries.filter keeps = entries.filter expected := by
    have sub : (entries.filter keeps).Sublist (entries.filter expected) := nested ▸ List.filter_sublist
    exact sub.eq_of_length long
  intro entry there wanted
  have selected : entry ∈ entries.filter keeps := same ▸ List.mem_filter.mpr ⟨there, wanted⟩
  exact (List.mem_filter.mp selected).2

theorem not_fieldCode_of_kept {argument : String} (kept : (argument = "%%" || !startsWith argument '%') = true) :
    isFieldCode argument = false := by
  rw [Bool.or_eq_true, decide_eq_true_eq, Bool.not_eq_true'] at kept
  rcases kept with rfl | other
  · decide
  · unfold isFieldCode
    split
    · rename_i first second letters
      rw [startsWith, letters, List.head?_cons, decide_eq_false_iff_not, Option.some_inj] at other
      rw [decide_eq_false other, Bool.false_and]
    · rfl

/-- The field codes are removed and nothing else is, and none is left, exactly if every argument is ordinary. -/
theorem parse_fieldCodes (shlexSplit : String → Option (List String)) (text : String) (entry : DesktopEntry)
    (parsed : parseDesktopEntryText shlexSplit text = some entry) :
    ∃ arguments, execArguments shlexSplit text = some arguments ∧
      ((entry.exec = withoutFieldCodes arguments ∧
          ∀ argument ∈ arguments, isFieldCode argument = false → containsFieldCode argument.toList = false) ↔
        ∀ argument ∈ arguments, Ordinary argument) := by
  obtain ⟨arguments, split, exec⟩ := parse_exec parsed
  refine ⟨arguments, split, ?_⟩
  rw [exec]
  constructor
  · rintro ⟨same, clean⟩ argument there
    have long := congrArg List.length same
    rw [keptArguments, withoutFieldCodes, List.length_map, List.length_map] at long
    cases code : isFieldCode argument with
    | true => exact .inl code
    | false =>
      have kept := filter_length_eq (fun argument kept => by rw [not_fieldCode_of_kept kept]; rfl) long argument there
        (by rw [code]; rfl)
      rw [Bool.or_eq_true, decide_eq_true_eq, Bool.not_eq_true'] at kept
      rcases kept with escape | other
      · exact .inr (.inl escape)
      · exact .inr (.inr ⟨other, clean argument there code⟩)
  · intro ordinary
    constructor
    · unfold keptArguments withoutFieldCodes
      refine congrArg _ (List.filter_congr fun argument there => ?_)
      rcases ordinary argument there with code | rfl | ⟨other, -⟩
      · have removed : (argument = "%%" || !startsWith argument '%') = false :=
          Bool.eq_false_iff.mpr fun kept => absurd (code.symm.trans (not_fieldCode_of_kept kept)) (by decide)
        rw [removed, code]
        rfl
      · decide
      · have kept : (argument = "%%" || !startsWith argument '%') = true := by rw [other, Bool.not_false, Bool.or_true]
        rw [kept, not_fieldCode_of_kept kept]
        rfl
    · intro argument there code
      rcases ordinary argument there with code' | rfl | ⟨-, clean⟩
      · exact absurd (code'.symm.trans code) (by decide)
      · decide
      · exact clean

def openFiles : String := "[Desktop Entry]\nType=Application\nName=Run\nExec=run --new %U %%\n"

theorem parse_fieldCodes_open :
    ∃ arguments, execArguments (fun value => some (Text.words value)) openFiles = some arguments ∧
      ["run", "--new", "%"] = withoutFieldCodes arguments := by
  have parsed : parseDesktopEntryText (fun value => some (Text.words value)) openFiles =
      some { name := "Run", exec := ["run", "--new", "%"] } := by decide +kernel
  obtain ⟨arguments, split, exactly⟩ := parse_fieldCodes _ openFiles _ parsed
  have same : arguments = ["run", "--new", "%U", "%%"] :=
    Option.some_inj.mp (split.symm.trans (by decide +kernel))
  exact ⟨arguments, split, (exactly.mpr (by rw [same]; decide +kernel)).1⟩

def escapedFiles : String := "[Desktop Entry]\nType=Application\nName=Run\nExec=run %%done --file=%f\n"

/-- An argument behind an escape is dropped, and a field code within an argument stays. -/
theorem parse_drops_escaped :
    parseDesktopEntryText (fun value => some (Text.words value)) escapedFiles =
        some { name := "Run", exec := ["run", "--file=%f"] } ∧
      execArguments (fun value => some (Text.words value)) escapedFiles = some ["run", "%%done", "--file=%f"] ∧
      withoutFieldCodes ["run", "%%done", "--file=%f"] = ["run", "%done", "--file=%f"] ∧
      containsFieldCode "--file=%f".toList = true := by
  decide +kernel

end DesktopEntry

end Luma.Shell
