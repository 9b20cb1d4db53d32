import Luma.Library.Transition

/-! The position of a player's track, which is read when something happened and else extrapolated.

The widget follows a proxy of the player: its cached properties, its signals and the owner of its
name. Calls of the player are answered, or time out, in any order. Positions and lengths are in
microseconds. The reads are numbered as they are requested.
-/

set_option autoImplicit false

namespace Luma.Shell

open Luma.Library

/-- What the widget uses of the proxy's cached properties. -/
structure Properties where
  /-- `mpris:trackid` and `mpris:length` of the metadata, if they have their types. -/
  trackId : Option String := none
  length : Option Int := none
  canControl : Bool := false
  canSeek : Bool := false
  deriving DecidableEq, Repr

/-- What `base` was set to last. -/
inductive Anchor where
  /-- Zero for another track, else the position that was extrapolated. -/
  | refreshed (changed : Bool)
  | seeked (position : Int)
  | read (number : Nat) (position : Int)
  deriving DecidableEq, Repr

inductive PositionObservation where
  | propertiesChanged
  | ownerChanged
  | unmapped
  | anchored (anchor : Anchor)
  | readRequested (number : Nat)
  /-- The position, or none if the read failed or gave no position. -/
  | readAnswered (number : Nat) (position : Option Int)
  | seekRequested (track : String) (position : Int)
  | seekAnswered
  deriving DecidableEq, Repr

/-- A read in flight, with the revision and the owner it was requested under. -/
structure ReadCall where
  number : Nat
  revision : Nat
  owner : Option String
  deriving DecidableEq, Repr

structure Position where
  properties : Properties
  owner : Option String
  mapped : Bool := false
  timer : Bool := false
  sensitive : Bool := false
  tooltip : String := "Track position"
  track : Option (String × Int) := none
  base : Anchor := .refreshed true
  /-- Counts anchors, seeks and unmaps; the source's 64-bit counter does not wrap in any real run. -/
  revision : Nat := 0
  pending : Bool := false
  reading : Bool := false
  reread : Bool := false
  reads : List ReadCall := []
  /-- The owners that the seeks in flight went to. -/
  seeks : List (Option String) := []
  nextRead : Nat := 0
  deriving DecidableEq, Repr

def noTrack : String := "/org/mpris/MediaPlayer2/TrackList/NoTrack"

def Properties.track (properties : Properties) : Option (String × Int) :=
  match properties.trackId.filter (· != noTrack), properties.length.filter (0 < ·) with
  | some id, some length => some (id, length)
  | _, _ => none

namespace Position

def anchor (self : Position) (anchor : Anchor) : Position × List PositionObservation :=
  ({ self with base := anchor, revision := self.revision + 1 }, [.anchored anchor])

/-- The scale's sensitivity; the rest of it and the label follow the clock. -/
def render (self : Position) : Position :=
  { self with sensitive := self.track.isSome && !self.pending && self.owner.isSome &&
      self.properties.canControl && self.properties.canSeek }

def refresh (self : Position) : Position × List PositionObservation :=
  let track := self.properties.track
  let (anchored, observations) := { self with track }.anchor (.refreshed (self.track != track))
  (anchored.render, observations)

def read (self : Position) : Position × List PositionObservation :=
  if !self.mapped || self.owner.isNone then (self, [])
  else if self.reading then ({ self with reread := true }, [])
  else
    ({ self with
      reading := true
      reads := self.reads ++ [⟨self.nextRead, self.revision, self.owner⟩]
      nextRead := self.nextRead + 1 }, [.readRequested self.nextRead])

/-- The callback of a read. -/
def readAnswered (self : Position) (call : ReadCall) (result : Option Int) : Position × List PositionObservation :=
  let position := { self with reading := false, reads := self.reads.erase call }
  let (adopted, anchored) :=
    match result with
    | some value =>
      if position.revision = call.revision ∧ position.owner = call.owner then
        let (anchored, observations) := position.anchor (.read call.number value)
        (anchored.render, observations)
      else (position, [])
    | none => (position, [])
  let (next, requested) := if adopted.reread then { adopted with reread := false }.read else (adopted, [])
  (next, requested ++ anchored ++ [.readAnswered call.number result])

/-- A new value of the scale, or none if that is not finite. -/
def seek (self : Position) (value : Option Int) : Position × List PositionObservation :=
  match value, self.track with
  | some value, some (track, length) =>
    if !self.sensitive || self.pending then (self, [])
    else
      ({ self with
        pending := true
        revision := self.revision + 1
        tooltip := "Track position"
        seeks := self.seeks ++ [self.owner] }.render, [.seekRequested track (max 0 (min value length))])
  | _, _ => (self, [])

/-- The callback of a seek. -/
def seekAnswered (self : Position) (asked : Option String) (error : Option String) :
    Position × List PositionObservation :=
  let position := { self with pending := false, seeks := self.seeks.erase asked }
  if position.owner = asked then
    let tooltip := (error.map fun error => s!"Seeking failed: {error}").getD position.tooltip
    let (next, requested) := { position with tooltip }.read
    (next.render, requested ++ [.seekAnswered])
  else (position.render, [.seekAnswered])

/-- The handler of changed properties. -/
def propertiesChanged (self : Position) (properties : Properties) : Position × List PositionObservation :=
  let (refreshed, anchored) := { self with properties }.refresh
  let (next, requested) := refreshed.read
  (next, requested ++ anchored ++ [.propertiesChanged])

end Position

inductive PositionEvent where
  | propertiesChanged (properties : Properties)
  | seeked (position : Int)
  /-- The proxy's name has a new owner or none, and its cached properties are those of the new owner. The proxy
  announces that by a change of properties unless it got none. -/
  | ownerChanged (owner : Option String) (announced : Option Properties)
  | map
  | unmap
  | seek (value : Option Int)
  | readAnswered (index : Nat) (result : Option Int)
  | seekAnswered (index : Nat) (error : Option String)
  | tick

namespace Position

def step (self : Position) : PositionEvent → Position × List PositionObservation
  | .propertiesChanged properties => self.propertiesChanged properties
  | .seeked position =>
    let (anchored, observations) := self.anchor (.seeked position)
    (anchored.render, observations)
  | .ownerChanged owner (some properties) =>
    let (next, observations) := { self with owner }.propertiesChanged properties
    (next, observations ++ [.ownerChanged])
  | .ownerChanged owner none => ({ self with owner, properties := {} }, [.ownerChanged])
  | .map =>
    if self.mapped then (self, [])
    else
      let (next, requested) := { self with mapped := true }.read
      ({ next with timer := true }, requested)
  | .unmap =>
    if !self.mapped then (self, [])
    else ({ self with mapped := false, timer := false, revision := self.revision + 1 }, [.unmapped])
  | .seek value => self.seek value
  | .readAnswered index result =>
    match self.reads[index]? with
    | some call => self.readAnswered call result
    | none => (self, [])
  | .seekAnswered index error =>
    match self.seeks[index]? with
    | some asked => self.seekAnswered asked error
    | none => (self, [])
  | .tick => (if self.timer then self.render else self, [])

/-- A new widget for the proxy. -/
def Starts (position : Position) : Prop :=
  ∃ (properties : Properties) (owner : Option String), position = ({ properties, owner } : Position).refresh.1

end Position

end Luma.Shell
