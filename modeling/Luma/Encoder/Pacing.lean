import Mathlib.Data.UInt

/-! The pacing of the direct capture: when a frame is due, and how admission backs off
while submissions are slow or the queue is saturated.
-/

set_option autoImplicit false

namespace Luma.Encoder

def kSlowSubmitNs : UInt64 := 750000

def kMaxBackoffNs : UInt64 := 1000000000 / 30

structure Pacing where
  frameIntervalNs : UInt64
  adaptiveIntervalNs : UInt64
  nextDueNs : UInt64 := 0
  nextEncodeNs : UInt64 := 0
  fastEncodeStreak : UInt32 := 0
  admissionAttempts : UInt32 := 0
  admissionDrops : UInt32 := 0
  deriving DecidableEq, Repr

namespace Pacing

def initial (fps : UInt32) : Pacing :=
  let frameIntervalNs := 1000000000 / fps.toUInt64
  { frameIntervalNs, adaptiveIntervalNs := frameIntervalNs }

/-- The pacing after a picture was submitted in `mapEncodeNs`. -/
def submitted (self : Pacing) (presentNs mapEncodeNs : UInt64) : Pacing :=
  let paced :=
    if mapEncodeNs > kSlowSubmitNs then
      let safeInterval := min kMaxBackoffNs (max self.frameIntervalNs (mapEncodeNs * 2))
      { self with
        adaptiveIntervalNs := if safeInterval > self.adaptiveIntervalNs then safeInterval else self.adaptiveIntervalNs
        fastEncodeStreak := 0 }
    else if self.adaptiveIntervalNs > self.frameIntervalNs then
      if self.fastEncodeStreak + 1 ≥ 256 then
        { self with
          adaptiveIntervalNs := max self.frameIntervalNs (self.adaptiveIntervalNs * 9 / 10)
          fastEncodeStreak := 0 }
      else { self with fastEncodeStreak := self.fastEncodeStreak + 1 }
    else self
  { paced with nextEncodeNs := presentNs + paced.adaptiveIntervalNs }

def recordAdmission (self : Pacing) (dropped : Bool) : Pacing :=
  let counted := { self with
    admissionAttempts := self.admissionAttempts + 1
    admissionDrops := self.admissionDrops + if dropped then 1 else 0 }
  if counted.admissionAttempts < 64 then counted
  else
    let limited := min kMaxBackoffNs (self.adaptiveIntervalNs + max 250000 (self.adaptiveIntervalNs / 4))
    if counted.admissionDrops ≥ 8 && limited > self.adaptiveIntervalNs then
      { counted with
        adaptiveIntervalNs := limited, fastEncodeStreak := 0, admissionAttempts := 0, admissionDrops := 0 }
    else { counted with admissionAttempts := 0, admissionDrops := 0 }

/-- A present on the asynchronous path is due. The next one is after the adaptive interval. -/
def due (self : Pacing) (ptsNs : UInt64) : Option Pacing :=
  if self.nextDueNs ≠ 0 ∧ ptsNs < self.nextDueNs then none
  else some { self with nextDueNs := ptsNs + self.adaptiveIntervalNs }

/-- A frame on the synchronous path is due. A late one does not shift the phase of the clock
by less than an interval. -/
def dueInPhase (self : Pacing) (ptsNs : UInt64) : Option Pacing :=
  if self.nextDueNs ≠ 0 ∧ ptsNs < self.nextDueNs then none
  else if self.nextDueNs = 0 ∨ ptsNs - self.nextDueNs ≥ self.frameIntervalNs then
    some { self with nextDueNs := ptsNs + self.frameIntervalNs }
  else some { self with nextDueNs := self.nextDueNs + self.frameIntervalNs }

/-! ## The interval -/

theorem toNat_max (first second : UInt64) : (max first second).toNat = max first.toNat second.toNat := by
  change (if first ≤ second then second else first).toNat = _
  by_cases order : first ≤ second
  · have below := UInt64.le_iff_toNat_le.mp order
    rw [if_pos order]
    omega
  · have above := mt UInt64.le_iff_toNat_le.mpr order
    rw [if_neg order]
    omega

theorem toNat_min (first second : UInt64) : (min first second).toNat = min first.toNat second.toNat := by
  change (if first ≤ second then first else second).toNat = _
  by_cases order : first ≤ second
  · have below := UInt64.le_iff_toNat_le.mp order
    rw [if_pos order]
    omega
  · have above := mt UInt64.le_iff_toNat_le.mpr order
    rw [if_neg order]
    omega

/-- The interval of admission is at least a frame's, and at most that or the largest back-off. -/
structure Bounded (pacing : Pacing) : Prop where
  lower : pacing.frameIntervalNs.toNat ≤ pacing.adaptiveIntervalNs.toNat
  upper : pacing.adaptiveIntervalNs.toNat ≤ max pacing.frameIntervalNs.toNat kMaxBackoffNs.toNat

namespace Bounded

theorem initial (fps : UInt32) : Bounded (Pacing.initial fps) := ⟨Nat.le_refl _, Nat.le_max_left _ _⟩

variable {pacing : Pacing}

theorem submitted (bounded : Bounded pacing) (presentNs mapEncodeNs : UInt64) :
    Bounded (pacing.submitted presentNs mapEncodeNs) := by
  obtain ⟨lower, upper⟩ := bounded
  unfold Pacing.submitted
  split
  · by_cases longer : min kMaxBackoffNs (max pacing.frameIntervalNs (mapEncodeNs * 2)) > pacing.adaptiveIntervalNs
    · have above := UInt64.lt_iff_toNat_lt.mp longer
      rw [toNat_min] at above
      constructor <;> simp only [longer, ↓reduceIte, toNat_min] <;> omega
    · constructor <;> simp only [longer, ↓reduceIte] <;> assumption
  · split
    · split
      · have reduced : (pacing.adaptiveIntervalNs * 9 / 10).toNat ≤ pacing.adaptiveIntervalNs.toNat := by
          have wrapped := Nat.mod_le (pacing.adaptiveIntervalNs.toNat * 9) (2 ^ 64)
          rw [UInt64.toNat_div, UInt64.toNat_mul]
          change pacing.adaptiveIntervalNs.toNat * 9 % 2 ^ 64 / 10 ≤ _
          generalize pacing.adaptiveIntervalNs.toNat * 9 % 2 ^ 64 = product at wrapped
          omega
        constructor <;> simp only [toNat_max] <;> omega
      · exact ⟨lower, upper⟩
    · exact ⟨lower, upper⟩

theorem recordAdmission (bounded : Bounded pacing) (dropped : Bool) : Bounded (pacing.recordAdmission dropped) := by
  obtain ⟨lower, upper⟩ := bounded
  simp only [Pacing.recordAdmission]
  generalize (if dropped = true then (1 : UInt32) else 0) = drops
  split
  · exact ⟨lower, upper⟩
  · split
    · rename_i backsOff
      have longer := (Bool.and_eq_true_iff.mp backsOff).2
      rw [decide_eq_true_eq, gt_iff_lt, UInt64.lt_iff_toNat_lt, toNat_min] at longer
      constructor <;> simp only [toNat_min] <;> omega
    · exact ⟨lower, upper⟩

theorem due (bounded : Bounded pacing) {ptsNs : UInt64} {after : Pacing} (due : pacing.due ptsNs = some after) :
    Bounded after := by
  unfold Pacing.due at due
  split at due
  · cases due
  · cases due
    exact ⟨bounded.lower, bounded.upper⟩

end Bounded

end Pacing

end Luma.Encoder
