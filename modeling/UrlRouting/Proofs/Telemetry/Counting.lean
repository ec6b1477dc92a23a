import Mathlib.Algebra.GroupWithZero.Nat
import Mathlib.Data.List.Induction
import UrlRouting.Telemetry.Metrics

/-!
# What a registry has counted

A registry takes measurements one at a time, and each measurement touches a part of it only. So each
part is a fold over the measurements that concern it (`Registry.requests_recordTimed` and its like),
and what such a fold has counted is how often something occurs among them
(`Family.count_foldl_increment`, `Family.AllHold.foldl_observe`, `Histogram.Holds`).
-/

namespace UrlRouting

/-! ### Distributions -/

namespace Histogram

/-- A distribution of `n` values: so many are counted, and each stands in one bucket. -/
structure Holds (h : Histogram) (n : Nat) : Prop where
  /-- There is a bucket below each bound and one above. -/
  buckets : h.counts.length = h.bounds.length + 1
  /-- The buckets hold all values. -/
  sum : h.counts.sum = n
  /-- All values are counted. -/
  count : h.count = n

theorem sum_modify_succ {counts : List Nat} {k : Nat} (hk : k < counts.length) :
    (counts.modify k (· + 1)).sum = counts.sum + 1 := by
  induction counts generalizing k with
  | nil => cases hk
  | cons n counts ih =>
    cases k with
    | zero =>
      rw [List.modify_zero_cons, List.sum_cons, List.sum_cons]
      omega
    | succ k =>
      rw [List.modify_succ_cons, List.sum_cons, List.sum_cons, ih (Nat.lt_of_succ_lt_succ hk),
        Nat.add_assoc]

variable {h : Histogram} {n : Nat}

theorem holds_withBounds (bounds : List Float) : (withBounds bounds).Holds 0 where
  buckets := List.length_replicate
  sum := by simp [withBounds]
  count := rfl

theorem Holds.observe (hh : h.Holds n) (value : Float) : (h.observe value).Holds (n + 1) where
  buckets := by rw [Histogram.observe, List.length_modify, hh.buckets]
  sum := by
    have hbucket : h.bucketOf value < h.counts.length := by
      rw [hh.buckets]
      exact Nat.lt_succ_of_le (List.takeWhile_sublist _).length_le
    rw [Histogram.observe, sum_modify_succ hbucket, hh.sum]
  count := by rw [Histogram.observe, hh.count]

theorem Holds.foldl_observe (hh : h.Holds n) (values : List Float) :
    (values.foldl Histogram.observe h).Holds (n + values.length) := by
  induction values generalizing h n with
  | nil => exact hh
  | cons value values ih =>
    rw [List.length_cons, Nat.add_comm values.length, ← Nat.add_assoc]
    exact ih (hh.observe value)

end Histogram

/-! ### Families -/

namespace Family

variable {α : Type}

/-- The series of some labels. -/
def get? (f : Family α) (labels : Labels) : Option α := f.series.lookup labels

/-- What has been counted under some labels. -/
def count (f : Family Nat) (labels : Labels) : Nat := (f.get? labels).getD 0

/-- What all series hold together. -/
def total (f : Family α) (size : α → Nat) : Nat := (f.series.map fun s => size s.2).sum

variable {f : Family α} {labels : Labels} {initial : α} {change : α → α}

theorem lookup_cons_eq (ls : Labels) (a : α) (rest : List (Labels × α)) (labels : Labels) :
    ((ls, a) :: rest).lookup labels = if labels = ls then some a else rest.lookup labels := by
  by_cases hl : labels = ls
  · simp [hl]
  · simp [hl, List.lookup_cons, beq_false_of_ne hl]

/-- A change of one series leaves the others as they are. -/
theorem get?_update (labels' : Labels) : (f.update labels initial change).get? labels' =
    if labels' = labels then some (change ((f.get? labels).getD initial)) else f.get? labels' := by
  rw [update, get?, get?, get?]
  dsimp only
  induction f.series with
  | nil => exact lookup_cons_eq ..
  | cons s rest ih =>
    obtain ⟨ls, a⟩ := s
    rw [updateSeries]
    split
    next hs =>
      subst hs
      rw [lookup_cons_eq, lookup_cons_eq, lookup_cons_eq, if_pos rfl, Option.getD_some]
      split
      · rfl
      · rfl
    next hs =>
      rw [lookup_cons_eq, ih, lookup_cons_eq, lookup_cons_eq, if_neg (Ne.symm hs)]
      split
      next hl => rw [if_neg (hl ▸ hs)]
      · rfl

/-- A change that adds one to a series adds one to all series together. -/
theorem total_update {size : α → Nat} (hinitial : size initial = 0)
    (hchange : ∀ a, size (change a) = size a + 1) :
    (f.update labels initial change).total size = f.total size + 1 := by
  rw [update, total, total]
  dsimp only
  induction f.series with
  | nil => rw [updateSeries, List.map_singleton, List.sum_singleton, hchange, hinitial]; rfl
  | cons s rest ih =>
    obtain ⟨ls, a⟩ := s
    rw [updateSeries]
    split
    · rw [List.map_cons, List.map_cons, List.sum_cons, List.sum_cons, hchange, Nat.add_right_comm]
    · rw [List.map_cons, List.map_cons, List.sum_cons, List.sum_cons, ih, Nat.add_assoc]

theorem count_increment (f : Family Nat) (labels labels' : Labels) :
    (f.increment labels).count labels' = f.count labels' + if labels = labels' then 1 else 0 := by
  rw [count, increment, get?_update, count]
  by_cases hl : labels' = labels
  · simp [hl]
  · simp [hl, Ne.symm hl]

/-- A counter has counted how often its labels occur. -/
theorem count_foldl_increment (f : Family Nat) (occurring : List Labels) (labels : Labels) :
    (occurring.foldl increment f).count labels = f.count labels + occurring.count labels := by
  induction occurring generalizing f with
  | nil => rfl
  | cons ls occurring ih =>
    rw [List.foldl_cons, ih, count_increment, List.count_cons, Nat.add_assoc,
      Nat.add_comm (List.count _ _)]
    simp only [beq_iff_eq]

/-- All counters together have counted everything. -/
theorem total_foldl_increment (f : Family Nat) (occurring : List Labels) :
    (occurring.foldl increment f).total id = f.total id + occurring.length := by
  induction occurring generalizing f with
  | nil => rfl
  | cons ls occurring ih =>
    have hstep : (f.increment ls).total id = f.total id + 1 := total_update rfl fun _ => rfl
    rw [List.foldl_cons, ih, hstep, List.length_cons]
    omega

/-- Adds a value to the distribution of some labels. -/
def observe (bounds : List Float) (f : Family Histogram) (seen : Labels × Float) :
    Family Histogram :=
  f.update seen.1 (.withBounds bounds) (·.observe seen.2)

/-- A family in which each distribution holds so many values as `n` says. -/
def AllHold (bounds : List Float) (f : Family Histogram) (n : Labels → Nat) : Prop :=
  ∀ labels, ((f.get? labels).getD (.withBounds bounds)).Holds (n labels)

theorem allHold_empty (bounds : List Float) : AllHold bounds .empty fun _ => 0 :=
  fun _ => Histogram.holds_withBounds bounds

variable {bounds : List Float} {n : Labels → Nat}

/-- A distribution holds a value for each time that its labels occur. -/
theorem AllHold.foldl_observe {f : Family Histogram} (h : f.AllHold bounds n)
    (seen : List (Labels × Float)) : (seen.foldl (observe bounds) f).AllHold bounds fun labels =>
      n labels + (seen.map Prod.fst).count labels := by
  induction seen generalizing f n with
  | nil => exact h
  | cons s seen ih =>
    have hstep : (observe bounds f s).AllHold bounds fun labels =>
        n labels + if s.1 = labels then 1 else 0 := by
      intro labels
      dsimp only
      rw [observe, get?_update]
      by_cases hl : labels = s.1
      · subst hl
        rw [if_pos rfl, if_pos rfl, Option.getD_some]
        exact (h s.1).observe s.2
      · rw [if_neg hl, if_neg (Ne.symm hl)]
        exact h labels
    intro labels
    have hall := ih hstep labels
    dsimp only at hall ⊢
    rw [List.foldl_cons, List.map_cons, List.count_cons]
    simp only [beq_iff_eq]
    rwa [Nat.add_assoc, Nat.add_comm (ite _ _ _)] at hall

/-- All distributions together hold all values. -/
theorem total_foldl_observe (f : Family Histogram) (seen : List (Labels × Float)) :
    (seen.foldl (observe bounds) f).total Histogram.count =
      f.total Histogram.count + seen.length := by
  induction seen generalizing f with
  | nil => rfl
  | cons s seen ih =>
    have hstep : (observe bounds f s).total Histogram.count = f.total Histogram.count + 1 :=
      total_update rfl fun _ => rfl
    rw [List.foldl_cons, ih, hstep, List.length_cons]
    omega

end Family

/-! ### Measurements -/

namespace Measurement

/-- The outcome of a request and how many entries were tried. -/
def routed? : Measurement → Option (String × Nat)
  | routed outcome candidates => some (outcome, candidates)
  | _ => none

/-- The constraint that was not content, and the direction. -/
def rejected? : Measurement → Option (String × String)
  | rejected constraint direction => some (constraint, direction)
  | _ => none

/-- How a link was asked for, and whether it was written. -/
def linked? : Measurement → Option (Bool × Bool)
  | linked named generated => some (named, generated)
  | _ => none

/-- The entries of a router that was built. -/
def built? : Measurement → Option Nat
  | built entries => some entries
  | _ => none

end Measurement

namespace Registry

open Measurement

/-- Takes measurements one after another; the request that is measured in the `i`-th place took
`seconds i`. -/
def recordTimed (r : Registry) (seconds : Nat → Float) (ms : List Measurement) : Registry :=
  ms.zipIdx.foldl (fun r m => r.record (seconds m.2) m.1) r

theorem recordAll_eq_recordTimed (r : Registry) (seconds : Float) (ms : List Measurement) :
    r.recordAll seconds ms = r.recordTimed (fun _ => seconds) ms := by
  rw [recordAll, recordTimed, ← List.foldl_map (f := Prod.fst)
    (g := fun r m => Registry.record r seconds m), List.zipIdx_map_fst]

variable (r : Registry) (seconds : Nat → Float) (ms : List Measurement)

theorem filterMap_zipIdx {γ : Type} (concerns? : Measurement → Option γ) :
    ms.zipIdx.filterMap (concerns? ∘ Prod.fst) = ms.filterMap concerns? := by
  rw [← List.filterMap_map, List.zipIdx_map_fst]

/-- A part of the registry that only some measurements touch is a fold over those. -/
theorem part_recordTimed {β γ : Type} (part : Registry → β)
    (concerns? : Measurement × Nat → Option γ) (step : β → γ → β)
    (hstep : ∀ (r : Registry) (m : Measurement × Nat), part (r.record (seconds m.2) m.1) =
      (concerns? m).elim (part r) (step (part r))) :
    part (r.recordTimed seconds ms) = (ms.zipIdx.filterMap concerns?).foldl step (part r) := by
  rw [recordTimed, List.foldl_filterMap]
  refine (List.foldl_hom part fun r m => ?_).symm
  rw [hstep]
  cases concerns? m with
  | some x => rfl
  | none => rfl

/-- The same, for a part that does not depend on the time taken. -/
theorem part_recordTimed_untimed {β γ : Type} (part : Registry → β)
    (concerns? : Measurement → Option γ) (step : β → γ → β)
    (hstep : ∀ (r : Registry) s m,
      part (r.record s m) = (concerns? m).elim (part r) (step (part r))) :
    part (r.recordTimed seconds ms) = (ms.filterMap concerns?).foldl step (part r) := by
  rw [← filterMap_zipIdx]
  exact r.part_recordTimed seconds ms part (concerns? ∘ Prod.fst) step fun r m => hstep r _ m.1

theorem requests_recordTimed : (r.recordTimed seconds ms).requests =
    ((ms.filterMap routed?).map fun c => outcomeLabels c.1).foldl Family.increment r.requests := by
  rw [List.foldl_map]
  exact r.part_recordTimed_untimed seconds ms requests routed?
    (fun f c => f.increment (outcomeLabels c.1)) fun r s m => by cases m <;> rfl

theorem candidates_recordTimed : (r.recordTimed seconds ms).candidates =
    ((ms.filterMap routed?).map fun c => Float.ofNat c.2).foldl Histogram.observe
      r.candidates := by
  rw [List.foldl_map]
  exact r.part_recordTimed_untimed seconds ms candidates routed?
    (fun h c => h.observe (Float.ofNat c.2)) fun r s m => by cases m <;> rfl

theorem rejections_recordTimed : (r.recordTimed seconds ms).rejections =
    ((ms.filterMap rejected?).map fun c => rejectionLabels c.1 c.2).foldl Family.increment
      r.rejections := by
  rw [List.foldl_map]
  exact r.part_recordTimed_untimed seconds ms rejections rejected?
    (fun f c => f.increment (rejectionLabels c.1 c.2)) fun r s m => by cases m <;> rfl

theorem links_recordTimed : (r.recordTimed seconds ms).links =
    ((ms.filterMap linked?).map fun c => linkLabels c.1 c.2).foldl Family.increment r.links := by
  rw [List.foldl_map]
  exact r.part_recordTimed_untimed seconds ms links linked?
    (fun f c => f.increment (linkLabels c.1 c.2)) fun r s m => by cases m <;> rfl

theorem routersBuilt_recordTimed : (r.recordTimed seconds ms).routersBuilt =
    r.routersBuilt + (ms.filterMap built?).length := by
  rw [r.part_recordTimed_untimed seconds ms routersBuilt built? (fun n _ => n + 1)
    fun r s m => by cases m <;> rfl, List.foldl_add_const, Nat.one_mul]

/-- A fold that keeps only what comes last. -/
theorem foldl_last {β γ : Type} (g : γ → β) (x : β) (l : List γ) :
    l.foldl (fun _ => g) x = (l.getLast?.map g).getD x := by
  induction l using List.reverseRecOn with
  | nil => rfl
  | append_singleton l y _ => rw [List.foldl_append, List.getLast?_concat]; rfl

/-- The gauge shows the entries of the router built last. -/
theorem routeEntries_recordTimed : (r.recordTimed seconds ms).routeEntries =
    ((ms.filterMap built?).getLast?.map signed64).getD r.routeEntries := by
  have hstep (r : Registry) (s : Float) (m : Measurement) : (r.record s m).routeEntries =
      (built? m).elim r.routeEntries signed64 := by
    cases m with
    | built entries => rw [built?, Option.elim_some, record]
    | _ => rfl
  rw [r.part_recordTimed_untimed seconds ms routeEntries built? (fun _ => signed64) hstep,
    foldl_last]

/-- The times of the requests, each with the labels of its outcome. -/
def timesOf : List (Labels × Float) :=
  ms.zipIdx.filterMap fun m => (routed? m.1).map fun c => (outcomeLabels c.1, seconds m.2)

theorem map_fst_timesOf : (timesOf seconds ms).map Prod.fst =
    (ms.filterMap routed?).map fun c => outcomeLabels c.1 := by
  rw [timesOf, List.map_filterMap, ← filterMap_zipIdx, List.map_filterMap]
  simp only [Option.map_map, Function.comp_def]

theorem durations_recordTimed : (r.recordTimed seconds ms).durations =
    (timesOf seconds ms).foldl (Family.observe durationBounds) r.durations :=
  r.part_recordTimed seconds ms durations _ _ fun r m => by
    obtain ⟨m, i⟩ := m
    cases m <;> rfl

end Registry

end UrlRouting
