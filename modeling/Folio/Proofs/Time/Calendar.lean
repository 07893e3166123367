import Folio.Time.Instant
import Mathlib

namespace Folio.Time

/-- Within an era of 146097 days, the year of the era and the day of the year (counted from
March) that `civilFromDays` reads off the day of the era are in range. -/
theorem yearOfEra_bounds (doe : Int) (h₀ : 0 ≤ doe) (h₁ : doe < 146097) :
    let yoe := (doe - doe / 1460 + doe / 36524 - doe / 146096) / 365
    0 ≤ yoe ∧ yoe < 400 ∧ 0 ≤ doe - (365 * yoe + yoe / 4 - yoe / 100) ∧
      doe - (365 * yoe + yoe / 4 - yoe / 100) < 366 := by
  intro yoe
  have hy : 365 * yoe ≤ doe - doe / 1460 + doe / 36524 - doe / 146096 := by omega
  have hy' : doe - doe / 1460 + doe / 36524 - doe / 146096 < 365 * yoe + 365 := by omega
  -- four years are at least 1460 days, and a century of the era starts on a century year
  have h4 : yoe / 4 ≤ doe / 1460 := by omega
  have hc : doe / 36524 = 0 ∨ doe / 36524 = 1 ∨ doe / 36524 = 2 ∨ doe / 36524 = 3 ∨
      doe / 36524 = 4 := by omega
  have h100 : yoe / 100 = doe / 36524 - doe / 146096 := by
    rcases hc with hc | hc | hc | hc | hc <;> omega
  exact ⟨by omega, by omega, by omega, by omega⟩

theorem monthOfYear_bounds (doy : Int) (h₀ : 0 ≤ doy) (h₁ : doy < 366) :
    let mp := (5 * doy + 2) / 153
    0 ≤ mp ∧ mp < 12 ∧ 1 ≤ doy - (153 * mp + 2) / 5 + 1 ∧ doy - (153 * mp + 2) / 5 + 1 ≤ 31 := by
  intro mp
  omega

theorem daysFromCivil_era (era yoe mp : Int) (d : Nat) (hy₀ : 0 ≤ yoe) (hy₁ : yoe < 400)
    (hm₀ : 0 ≤ mp) (hm₁ : mp < 12) :
    daysFromCivil (yoe + era * 400 + if (if mp < 10 then mp + 3 else mp - 9) ≤ 2 then 1 else 0)
        (if mp < 10 then mp + 3 else mp - 9).toNat d =
      era * 146097 + (365 * yoe + yoe / 4 - yoe / 100) + ((153 * mp + 2) / 5 + d - 1) - 719468 := by
  simp only [daysFromCivil]
  split_ifs <;> omega

/-- The date of a day number has the day number back. -/
theorem daysFromCivil_civilFromDays (z : Int) :
    daysFromCivil (civilFromDays z).year (civilFromDays z).month (civilFromDays z).day = z := by
  obtain ⟨hy₀, hy₁, hd₀, hd₁⟩ := yearOfEra_bounds (z + 719468 - (z + 719468) / 146097 * 146097)
    (by omega) (by omega)
  obtain ⟨hm₀, hm₁, hday, -⟩ := monthOfYear_bounds _ hd₀ hd₁
  simp only [civilFromDays]
  rw [daysFromCivil_era _ _ _ _ hy₀ hy₁ hm₀ hm₁]
  omega

example : civilFromDays 0 = ⟨1970, 1, 1⟩ ∧ daysFromCivil 1970 1 1 = 0 := by decide

theorem civilFromDays_month_day (z : Int) :
    1 ≤ (civilFromDays z).month ∧ (civilFromDays z).month ≤ 12 ∧
      1 ≤ (civilFromDays z).day ∧ (civilFromDays z).day ≤ 31 := by
  obtain ⟨-, -, hd₀, hd₁⟩ := yearOfEra_bounds (z + 719468 - (z + 719468) / 146097 * 146097)
    (by omega) (by omega)
  obtain ⟨hm₀, hm₁, hday₀, hday₁⟩ := monthOfYear_bounds _ hd₀ hd₁
  simp only [civilFromDays]
  split_ifs <;> omega

/-- An instant is the instant of its date and time of day, the nanoseconds of a second
included. -/
theorem Instant.ofCivil_parts (t : Instant) (h : t.nanos < 1000000000) :
    Instant.ofCivil t.parts.1.year t.parts.1.month t.parts.1.day t.parts.2.1 t.parts.2.2.1
      t.parts.2.2.2.1 t.parts.2.2.2.2 = t := by
  obtain ⟨s, n⟩ := t
  simp only [Instant.parts, Instant.ofCivil, daysFromCivil_civilFromDays] at h ⊢
  congr 1 <;> omega

end Folio.Time
