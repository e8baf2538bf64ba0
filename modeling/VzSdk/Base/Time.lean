/-!
# The 32-bit millisecond clock

`Time()` wraps every 49.7 days. `timeDiff` is the signed distance of two
readings, and `timeIsLater` the order it induces; `timeDiff_eq_sub` says that
on any window of less than `half` milliseconds this is the order of the
unwrapped readings.
-/

namespace VzSdk.Base

/-- `HALF`. -/
def half : Nat := 0x80000000

/-- A `uint32` stored in an `int32`. -/
def intOfUInt32 (value : UInt32) : Int := value.toBitVec.toInt

/-- A difference of two readings. -/
def timeDiff (later earlier : UInt32) : Int := intOfUInt32 (later - earlier)

/-- `TimeIsLater`: the difference as a signed number is positive. -/
def timeIsLater (earlier later : UInt32) : Bool :=
  let diff := timeDiff later earlier
  decide (diff > 0) && decide (diff.toNat < half)

/-- The reading `elapsed` milliseconds after `now`. -/
def timeAfter (now : UInt32) (elapsed : Int) : UInt32 := now + ⟨BitVec.ofInt 32 elapsed⟩

/-- Milliseconds from `now` until `later`. -/
def timeUntil (now later : UInt32) : Int := timeDiff later now

/-- Readings that lie less than `half` behind one base. -/
def InWindow (base reading : UInt32) : Prop := (reading - base).toNat < half

/-- A difference is less than half of what the clock can show. -/
theorem timeDiff_lt (later earlier : UInt32) : timeDiff later earlier < half := by
  have upper := BitVec.toInt_lt (x := (later - earlier).toBitVec)
  simp only [half]
  unfold timeDiff intOfUInt32
  omega

/-- A later time has a positive difference. -/
theorem timeIsLater_iff (earlier later : UInt32) :
    timeIsLater earlier later = true ↔ 0 < timeDiff later earlier := by
  have upper := timeDiff_lt later earlier
  simp only [timeIsLater, Bool.and_eq_true, decide_eq_true_eq]
  omega

/-- A later time is another one. -/
theorem ne_of_timeIsLater {earlier later : UInt32} (isLater : timeIsLater earlier later = true) :
    earlier ≠ later := by
  rintro rfl
  rw [timeIsLater_iff] at isLater
  simp [timeDiff, intOfUInt32] at isLater

/-- Inside a window the signed distance is the difference of the unwrapped readings. -/
theorem timeDiff_eq_sub {base earlier later : UInt32} (windowEarlier : InWindow base earlier)
    (windowLater : InWindow base later) :
    timeDiff later earlier = ((later - base).toNat : Int) - ((earlier - base).toNat : Int) := by
  unfold InWindow half at windowEarlier windowLater
  have shifted : later - earlier = (later - base) - (earlier - base) := by
    apply UInt32.toBitVec_inj.mp
    simp only [UInt32.toBitVec_sub]
    bv_omega
  unfold timeDiff intOfUInt32
  rw [shifted, BitVec.toInt_eq_toNat_bmod, UInt32.toNat_toBitVec, UInt32.toNat_sub]
  generalize (later - base).toNat = l at windowLater ⊢
  generalize (earlier - base).toNat = e at windowEarlier ⊢
  rw [Int.bmod_def]
  split <;> omega

/-- In a window the later time is the one farther from its base. -/
theorem timeIsLater_iff_lt {base earlier later : UInt32} (windowEarlier : InWindow base earlier)
    (windowLater : InWindow base later) :
    timeIsLater earlier later = true ↔ (earlier - base).toNat < (later - base).toNat := by
  rw [timeIsLater_iff, timeDiff_eq_sub windowEarlier windowLater]
  omega

end VzSdk.Base
