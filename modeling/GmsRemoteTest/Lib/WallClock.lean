import Mathlib.Data.Int.LeastGreatest

/-! Wall clocks: a zone shows at each instant a local time. Where a clock is put forward a gap of local times is skipped, where
it is put back a fold of them is shown twice. Instants and local times are in the same unit, of which a day has `day`. -/
namespace WallClock

def day : Int := 86400000000

structure Zone where
  /-- the local time at an instant -/
  wall : Int → Int
  /-- the instant of a local time; the fold says which of two -/
  resolve : Int → Bool → Int
  near : ∀ t, t - day < wall t ∧ wall t < t + day
  /-- Gaps and folds are apart: a local time that was skipped is not shown later. -/
  isolated : ∀ t, (∀ s < t, wall s ≠ wall t) → ∀ s < t, wall s < wall t
  /-- Without the fold it is the first of them. -/
  first : ∀ t, (∀ s < t, wall s ≠ wall t) → resolve (wall t) false = t

variable {zone : Zone} {s t : Int}

def Zone.First (zone : Zone) (t : Int) : Prop := ∀ s < t, zone.wall s ≠ zone.wall t

theorem Zone.exists_first (zone : Zone) (t : Int) : ∃ s, zone.wall s = zone.wall t ∧ zone.First s := by
  have near := zone.near t
  obtain ⟨s,shown,least⟩ := @Int.exists_least_of_bdd (fun s => zone.wall s = zone.wall t)
    ⟨zone.wall t - day,fun s shown => by have := (zone.near s).2; omega⟩ ⟨t,rfl⟩
  refine ⟨s,shown,fun other before same => ?_⟩
  have := least other (same.trans shown)
  omega

theorem Zone.resolve_first {local_ : Int} (shown : zone.wall (zone.resolve local_ false) = local_) :
    zone.First (zone.resolve local_ false) := by
  obtain ⟨s,same,first⟩ := zone.exists_first (zone.resolve local_ false)
  have resolved := zone.first s first
  rw [same,shown] at resolved
  rw [resolved]
  exact first

theorem Zone.First.lt (later : zone.First t) (earlier : zone.First s) (before : zone.wall s < zone.wall t) : s < t := by
  rcases lt_trichotomy s t with less | rfl | more
  · exact less
  · exact absurd before (lt_irrefl _)
  · exact absurd (zone.isolated s earlier t more) (not_lt.mpr before.le)

theorem Zone.First.inj (first : zone.First t) (other : zone.First s) (same : zone.wall s = zone.wall t) : s = t := by
  rcases lt_trichotomy s t with less | equal | more
  · exact absurd same (first s less)
  · exact equal
  · exact absurd same.symm (other t more)

def fixed (offset : Int) (near : -day < offset ∧ offset < day) : Zone where
  wall t := t + offset
  resolve local_ _ := local_ - offset
  near t := by omega
  isolated t _ s before := by omega
  first t _ := by omega

def once (at_ before after : Int) (near : (-day < before ∧ before < day) ∧ -day < after ∧ after < day) : Zone where
  wall t := if t < at_ then t + before else t + after
  resolve local_ fold :=
    if local_ < at_ + (if fold then min before after else max before after) then local_ - before else local_ - after
  near t := by split_ifs <;> omega
  isolated t first s earlier := by
    have shown := first (t + after - before)
    split_ifs at shown ⊢ <;> omega
  first t shown := by
    have again := shown (t + after - before)
    simp only [Bool.false_eq_true,if_false]
    split_ifs at again ⊢ <;> omega

end WallClock
