import ConnectedHome.Speaker.Zone
import Mathlib
/-!
# VolumeScale — steps and percent of a zone's volume

A zone's volume is set in steps from 0 to its maximum `m`, and shown in percent of `m`; both
conversions round down (`volumeToPercent`, `percentToVolume`).  For a positive maximum each maps
its range into the other's and keeps order.  Rounding down twice in opposite directions loses
something on the way: a percentage set and read back falls short by at most `⌈100 / m⌉` points,
so by at most one point once the maximum is 100 steps or more
(`volumeToPercent_percentToVolume_ge`), and never comes out higher; a volume read in percent and
set again never comes out higher either.  A zone whose maximum is not positive shows 0 %.

Both conversions are floor divisions by a positive number, so every bound is read off the two
facts `q * d ≤ n < (q + 1) * d` of the quotient `q = n / d` (`Int.ediv_mul_le`,
`Int.lt_ediv_add_one_mul_self`).
-/
namespace ConnectedHome.Speaker

theorem percentToVolume_eq_ediv (p m : Int) : percentToVolume p m = m * p / 100 :=
  Int.fdiv_eq_ediv_of_nonneg _ (by decide)

theorem volumeToPercent_eq_ediv (v : Int) {m : Int} (hm : 0 < m) : volumeToPercent v m = v * 100 / m := by
  rw [volumeToPercent, if_neg (Int.not_le.mpr hm), Int.fdiv_eq_ediv_of_nonneg _ hm.le]

example : volumeToPercent 80 160 = 50 := by decide

theorem volumeToPercent_of_nonpos (v : Int) {m : Int} (hm : m ≤ 0) : volumeToPercent v m = 0 := by
  rw [volumeToPercent, if_pos hm]

section Positive

variable {m : Int}

theorem percentToVolume_mono (hm : 0 < m) : Monotone (fun p => percentToVolume p m) := by
  intro p p' hp
  simp only [percentToVolume_eq_ediv]
  exact Int.ediv_le_ediv (by decide) (Int.mul_le_mul_of_nonneg_left hp hm.le)

theorem volumeToPercent_mono (hm : 0 < m) : Monotone (fun v => volumeToPercent v m) := by
  intro v v' hv
  simp only [volumeToPercent_eq_ediv _ hm]
  exact Int.ediv_le_ediv hm (Int.mul_le_mul_of_nonneg_right hv (by decide))

theorem percentToVolume_mem (hm : 0 < m) {p : Int} (hp0 : 0 ≤ p) (hp : p ≤ 100) :
    0 ≤ percentToVolume p m ∧ percentToVolume p m ≤ m := by
  have hlo : percentToVolume 0 m = 0 := by simp [percentToVolume_eq_ediv]
  have hhi : percentToVolume 100 m = m := by simp [percentToVolume_eq_ediv]
  constructor
  · calc 0 = percentToVolume 0 m := hlo.symm
      _ ≤ percentToVolume p m := percentToVolume_mono hm hp0
  · calc percentToVolume p m ≤ percentToVolume 100 m := percentToVolume_mono hm hp
      _ = m := hhi

theorem volumeToPercent_mem (hm : 0 < m) {v : Int} (hv0 : 0 ≤ v) (hv : v ≤ m) :
    0 ≤ volumeToPercent v m ∧ volumeToPercent v m ≤ 100 := by
  have hlo : volumeToPercent 0 m = 0 := by simp [volumeToPercent_eq_ediv _ hm]
  have hhi : volumeToPercent m m = 100 := by
    rw [volumeToPercent_eq_ediv _ hm, Int.mul_comm, Int.mul_ediv_cancel _ hm.ne']
  constructor
  · calc 0 = volumeToPercent 0 m := hlo.symm
      _ ≤ volumeToPercent v m := volumeToPercent_mono hm hv0
  · calc volumeToPercent v m ≤ volumeToPercent m m := volumeToPercent_mono hm hv
      _ = 100 := hhi

theorem volumeToPercent_percentToVolume_le (hm : 0 < m) (p : Int) :
    volumeToPercent (percentToVolume p m) m ≤ p := by
  rw [volumeToPercent_eq_ediv _ hm, percentToVolume_eq_ediv]
  have hv := Int.ediv_mul_le (m * p) (show (100 : Int) ≠ 0 by decide)
  -- the percentage read back, times `m`, is at most the volume's hundredfold, so at most `m * p`
  have hq := Int.ediv_mul_le (m * p / 100 * 100) hm.ne'
  have : m * p / 100 * 100 / m * m ≤ p * m := by rw [Int.mul_comm p m]; omega
  exact Int.le_of_mul_le_mul_right this hm

/-- **A percentage set and read back loses at most `⌈100 / m⌉` points.**  Each rounding loses less
than one unit of what it divides: the volume less than one hundredth of `m * p`, the percentage
less than one `m`-th of the volume's hundredfold, so `m` times the loss is less than `100 + m`. -/
theorem volumeToPercent_percentToVolume_ge (hm : 0 < m) (p : Int) :
    p - ⌈(100 : ℚ) / m⌉ ≤ volumeToPercent (percentToVolume p m) m := by
  rw [volumeToPercent_eq_ediv _ hm, percentToVolume_eq_ediv]
  set V := m * p / 100 with hV
  set q := V * 100 / m with hq
  have hV1 : m * p < (V + 1) * 100 := Int.lt_ediv_add_one_mul_self _ (by decide)
  have hq1 : V * 100 < (q + 1) * m := Int.lt_ediv_add_one_mul_self _ hm
  have hloss : (p - q - 1) * m < 100 := by
    have : (p - q - 1) * m = m * p - (q + 1) * m := by ring
    omega
  have hmq : (0 : ℚ) < m := by exact_mod_cast hm
  have hceil : p - q ≤ ⌈(100 : ℚ) / m⌉ := by
    rw [Int.le_ceil_iff, lt_div_iff₀ hmq]
    exact_mod_cast hloss
  omega

theorem volumeToPercent_percentToVolume_ge_of_fine (hm : 100 ≤ m) (p : Int) :
    p - 1 ≤ volumeToPercent (percentToVolume p m) m := by
  have hpos : 0 < m := by omega
  have hone : ⌈(100 : ℚ) / m⌉ ≤ 1 := by
    rw [Int.ceil_le, Int.cast_one, div_le_one (by exact_mod_cast hpos)]
    exact_mod_cast hm
  have := volumeToPercent_percentToVolume_ge hpos p
  omega

theorem percentToVolume_volumeToPercent_le (hm : 0 < m) (v : Int) :
    percentToVolume (volumeToPercent v m) m ≤ v := by
  rw [volumeToPercent_eq_ediv _ hm, percentToVolume_eq_ediv]
  have hP := Int.ediv_mul_le (v * 100) hm.ne'
  have hR := Int.ediv_mul_le (m * (v * 100 / m)) (show (100 : Int) ≠ 0 by decide)
  have : m * (v * 100 / m) / 100 * 100 ≤ v * 100 := by rw [Int.mul_comm m]; omega
  exact Int.le_of_mul_le_mul_right this (by decide)

end Positive

/-- **The volume scale of a zone.**  For a maximum `m` of at least one step, a percentage `p`
between 0 and 100 and a volume `v` between 0 and `m`: the percentage is a volume of the zone's
range and the volume a percentage; both conversions keep order; a percentage set and read back
loses at most `⌈100 / m⌉` points and never gains, so at most one point once `m` is 100 or more; a
volume read in percent and set again never gains; and a zone whose maximum is not positive shows
0 %. -/
theorem volumeScale_law (m p v : Int) (hm : 1 ≤ m) (hp : 0 ≤ p ∧ p ≤ 100) (hv : 0 ≤ v ∧ v ≤ m) :
    (0 ≤ percentToVolume p m ∧ percentToVolume p m ≤ m) ∧
    (0 ≤ volumeToPercent v m ∧ volumeToPercent v m ≤ 100) ∧
    Monotone (fun p' => percentToVolume p' m) ∧ Monotone (fun v' => volumeToPercent v' m) ∧
    (p - ⌈(100 : ℚ) / m⌉ ≤ volumeToPercent (percentToVolume p m) m ∧
      volumeToPercent (percentToVolume p m) m ≤ p) ∧
    (100 ≤ m → p - 1 ≤ volumeToPercent (percentToVolume p m) m) ∧
    percentToVolume (volumeToPercent v m) m ≤ v ∧
    ∀ v' m', m' ≤ 0 → volumeToPercent v' m' = 0 := by
  have hpos : 0 < m := hm
  exact ⟨percentToVolume_mem hpos hp.1 hp.2, volumeToPercent_mem hpos hv.1 hv.2,
    percentToVolume_mono hpos, volumeToPercent_mono hpos,
    ⟨volumeToPercent_percentToVolume_ge hpos p, volumeToPercent_percentToVolume_le hpos p⟩,
    fun h => volumeToPercent_percentToVolume_ge_of_fine h p, percentToVolume_volumeToPercent_le hpos v,
    fun v' _ h => volumeToPercent_of_nonpos v' h⟩

/-- The law at a maximum of three steps, where a percentage of 99 comes back as 66. -/
theorem volumeScale_law_threeSteps :
    (1 ≤ (3 : Int) ∧ (0 ≤ (99 : Int) ∧ (99 : Int) ≤ 100) ∧ (0 ≤ (2 : Int) ∧ (2 : Int) ≤ 3)) ∧
    (0 ≤ percentToVolume 99 3 ∧ percentToVolume 99 3 ≤ 3) ∧
    (0 ≤ volumeToPercent 2 3 ∧ volumeToPercent 2 3 ≤ 100) ∧
    Monotone (fun p' => percentToVolume p' 3) ∧ Monotone (fun v' => volumeToPercent v' 3) ∧
    (99 - ⌈(100 : ℚ) / (3 : Int)⌉ ≤ volumeToPercent (percentToVolume 99 3) 3 ∧
      volumeToPercent (percentToVolume 99 3) 3 ≤ 99) ∧
    (100 ≤ (3 : Int) → 99 - 1 ≤ volumeToPercent (percentToVolume 99 3) 3) ∧
    percentToVolume (volumeToPercent 2 3) 3 ≤ 2 ∧
    ∀ v' m', m' ≤ 0 → volumeToPercent v' m' = 0 :=
  ⟨by decide, volumeScale_law 3 99 2 (by decide) (by decide) (by decide)⟩

example : volumeToPercent (percentToVolume 99 3) 3 = 66 := by decide

end ConnectedHome.Speaker
