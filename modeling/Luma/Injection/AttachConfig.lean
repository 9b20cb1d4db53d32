import Luma.Library.CString

/-! The configuration file that an attacher leaves for the injected library.

The file is read into a buffer and taken apart in place, line by line, with the functions of
the C library.
-/

set_option autoImplicit false

namespace Luma.Injection

open Luma.Library.CString

def newline : UInt8 := 10

def equals : UInt8 := 61

def slash : UInt8 := 47

def pathMax : Nat := 4096

/-- The room for the path of a socket. -/
def sunPath : Nat := 108

def int32Max : Nat := 2 ^ 31 - 1

structure AttachConfig where
  pid : Nat := 0
  fps : Nat := 0
  quality : Nat := 0
  streamSocket : List UInt8 := []
  token : List UInt8 := []
  debugLog : List UInt8 := []
  deriving DecidableEq, Repr

def parsePositiveU32 (text : List UInt8) (minimum maximum : Nat) : Option Nat :=
  let conversion := strtoul text
  if conversion.outOfRange ∨ conversion.rest = text ∨ conversion.rest ≠ [] ∨
      conversion.value < minimum ∨ conversion.value > maximum then none
  else some conversion.value

def isHex (byte : UInt8) : Bool :=
  (48 ≤ byte && byte ≤ 57) || (97 ≤ byte && byte ≤ 102) || (65 ≤ byte && byte ≤ 70)

def validToken (token : List UInt8) : Bool := token.length == 64 && token.all isHex

def copyConfigValue (capacity : Nat) (value : List UInt8) : Option (List UInt8) :=
  if value.length = 0 ∨ value.length ≥ capacity then none else some value

/-! ## The lines -/

inductive Key where
  | version | pid | streamSocket | token | fps | quality | debugLog
  deriving DecidableEq, Repr

namespace Key

def all : List Key := [.version, .pid, .streamSocket, .token, .fps, .quality, .debugLog]

def name : Key → List UInt8
  | .version => ascii "version"
  | .pid => ascii "pid"
  | .streamSocket => ascii "stream_socket"
  | .token => ascii "token"
  | .fps => ascii "fps"
  | .quality => ascii "quality"
  | .debugLog => ascii "debug_log"

/-- The place of the key's bit in `seen`. -/
def place : Key → Nat
  | .version => 0
  | .pid => 1
  | .streamSocket => 2
  | .token => 3
  | .fps => 4
  | .quality => 5
  | .debugLog => 6

def bit (key : Key) : Nat := 2 ^ key.place

/-- The comparisons with the names, one after the other. -/
def named (text : List UInt8) : Option Key := all.find? (·.name == text)

def line (key : Key) (value : List UInt8) : List UInt8 := key.name ++ equals :: value

end Key

/-- The value for a key is checked and put into the configuration. -/
def acceptValue (config : AttachConfig) (value : List UInt8) : Key → Option AttachConfig
  | .version => if value = ascii "1" then some config else none
  | .pid => (parsePositiveU32 value 1 int32Max).map fun pid => { config with pid }
  | .streamSocket =>
    if value.head? = some slash then
      (copyConfigValue sunPath value).map fun streamSocket => { config with streamSocket }
    else none
  | .token =>
    if validToken value then (copyConfigValue 65 value).map fun token => { config with token } else none
  | .fps => (parsePositiveU32 value 30 480).map fun fps => { config with fps }
  | .quality => (parsePositiveU32 value 1 51).map fun quality => { config with quality }
  | .debugLog =>
    if value.head? = some slash then
      (copyConfigValue pathMax value).map fun debugLog => { config with debugLog }
    else none

structure Reading where
  seen : Nat := 0
  config : AttachConfig := {}
  deriving DecidableEq, Repr

/-- One round of the loop over the lines. -/
def acceptLine (self : Reading) (line : List UInt8) : Option Reading :=
  match strchr equals line with
  | none => none
  | some (name, value) =>
    if name = [] then none
    else
      match Key.named name with
      | none => none
      | some key =>
        if self.seen &&& key.bit ≠ 0 then none
        else (acceptValue self.config value key).map fun config => { seen := self.seen ||| key.bit, config }

/-- The buffer as it was read, taken apart. -/
def parseAttachConfig (pid : Nat) (bytes : List UInt8) : Option AttachConfig :=
  match (tokens newline (cstring bytes)).foldlM acceptLine {} with
  | none => none
  | some reading => if reading.seen = 127 ∧ reading.config.pid = pid then some reading.config else none

/-! ## The file -/

structure Metadata where
  regular : Bool
  owner : Nat
  mode : Nat
  size : Nat

/-- What `fstat` and the calls of `read` answer. -/
structure OpenedFile where
  metadata : Option Metadata
  reads : List (Option (List UInt8))

/-- The process that reads its configuration. -/
structure Process where
  pid : Nat
  positive : 1 ≤ pid
  bounded : pid ≤ int32Max
  effectiveUser : Nat
  /-- `open` of a path that names no symbolic link. -/
  opens : List UInt8 → Option OpenedFile

/-- Reads until the size is reached; an empty or failed read gives up. -/
def readBytes : Nat → List (Option (List UInt8)) → Option (List UInt8)
  | 0, _ => some []
  | _ + 1, [] | _ + 1, none :: _ | _ + 1, some [] :: _ => none
  | size + 1, some (byte :: chunk) :: reads =>
    (readBytes (size - chunk.length) reads).map (byte :: chunk ++ ·)

def readAttachConfig (self : Process) (path : Option (List UInt8)) : Option AttachConfig :=
  match path with
  | none => none
  | some path =>
    if path.head? ≠ some slash ∨ path.length ≥ pathMax then none
    else
      match self.opens path with
      | none => none
      | some file =>
        match file.metadata with
        | none => none
        | some metadata =>
          if ¬metadata.regular ∨ metadata.owner ≠ self.effectiveUser ∨ metadata.mode &&& 0o077 ≠ 0 ∨
              metadata.size = 0 ∨ metadata.size > 4096 then none
          else (readBytes metadata.size file.reads).bind (parseAttachConfig self.pid)

end Luma.Injection
