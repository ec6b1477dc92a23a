import Mathlib.Data.List.Basic
import Mathlib.Data.List.Nodup
import UrlRouting.Proofs.Template.Grammar

/-!
# The parameters of a parsed template

A template that has been read from a text names no parameter twice, whatever the case, and has
a catch-all only in its last segment (`parameters_of_parse`).
-/

namespace UrlRouting

open Text

theorem Segment.eq_of_soleParameter? {s : Segment} {p : Parameter}
    (h : Segment.soleParameter? s = some p) : s = [.parameter p] := by
  unfold Segment.soleParameter? at h
  split at h
  · cases h
    rfl
  · cases h

theorem Segment.mem_parameters {s : Segment} {p : Parameter}
    (h : Segment.soleParameter? s = some p) : p ∈ Segment.parameters s := by
  rw [Segment.eq_of_soleParameter? h]
  exact List.mem_cons_self

/-- A parameter on its own is one of the parameters of a template. -/
theorem Segment.mem_flatMap_parameters {segments : List Segment} {p : Parameter}
    (hp : [.parameter p] ∈ segments) : p ∈ segments.flatMap Segment.parameters :=
  List.mem_flatMap.2 ⟨_, hp, Segment.mem_parameters rfl⟩

/-- Parameters of two portions of a template have different names. -/
theorem Segment.fold_ne_of_append {front back : List Segment}
    (hnodup : (((front ++ back).flatMap Segment.parameters).map (fold ·.name)).Nodup)
    {p q : Parameter} (hp : [.parameter p] ∈ front) (hq : [.parameter q] ∈ back) :
    fold p.name ≠ fold q.name := by
  rw [List.flatMap_append, List.map_append, List.nodup_append] at hnodup
  exact hnodup.2.2 _ (List.mem_map_of_mem (mem_flatMap_parameters hp)) _
    (List.mem_map_of_mem (mem_flatMap_parameters hq))

/-- No segment but the last one is a catch-all. -/
def CatchAllLast (segments : List Segment) : Prop :=
  ∀ s ∈ segments.dropLast, ∀ p, Segment.soleParameter? s = some p → p.isCatchAll = false

/-- What reading guarantees of the parameters of a template. -/
structure Template.Sound (t : Template) : Prop where
  /-- No name is used twice. -/
  names : (t.parameters.map (fold ·.name)).Nodup
  /-- A catch-all stands in the last segment. -/
  catchAll : CatchAllLast t.segments

theorem CatchAllLast.tail {s : Segment} {rest : List Segment} (h : CatchAllLast (s :: rest)) :
    CatchAllLast rest := by
  cases rest with
  | nil => intro s hs; cases hs
  | cons s' rest =>
    intro s'' hs
    exact h s'' (by simpa using Or.inr (by simpa using hs))

/-- A catch-all is followed by no segment. -/
theorem CatchAllLast.eq_nil {s : Segment} {rest : List Segment} (h : CatchAllLast (s :: rest))
    {p : Parameter} (hs : Segment.soleParameter? s = some p) (hp : p.isCatchAll) : rest = [] := by
  cases rest with
  | nil => rfl
  | cons s' rest =>
    have := h s (by simp) p hs
    rw [this] at hp
    cases hp

/-- The parameters of a segment are accepted after the names `seen` if they are new, pairwise
different, and no catch-all unless the segment is the last one. -/
theorem parametersError?_eq_none {isLast : Bool} {seen : List String} {ps : List Parameter}
    (h : parametersError? isLast seen ps = none) :
    (ps.map (fold ·.name)).Nodup ∧ (∀ p ∈ ps, fold p.name ∉ seen) ∧
      ∀ p ∈ ps, p.isCatchAll → isLast := by
  induction ps generalizing seen with
  | nil => simp
  | cons p ps ih =>
    simp only [parametersError?] at h
    split at h
    · cases h
    next hseen =>
      split at h
      · cases h
      next hcatch =>
        obtain ⟨hnodup, hnew, hlast⟩ := ih h
        refine ⟨?_, ?_, ?_⟩
        · rw [List.map_cons, List.nodup_cons]
          refine ⟨fun hmem => ?_, hnodup⟩
          obtain ⟨q, hq, hqp⟩ := List.mem_map.1 hmem
          exact hnew q hq (by simp [hqp])
        · rintro q (_ | ⟨_, hq⟩)
          · simpa using hseen
          · exact fun hmem => hnew q hq (List.mem_cons_of_mem _ hmem)
        · rintro q (_ | ⟨_, hq⟩)
          · intro hp
            simpa [hp] using hcatch
          · exact hlast q hq

/-- Segments are accepted after the names `seen` if their parameters are new and pairwise
different, and if only the last one is a catch-all. -/
theorem segmentsError?_eq_none {seen : List String} {segments : List Segment}
    (h : segmentsError? seen segments = none) :
    ((segments.flatMap Segment.parameters).map (fold ·.name)).Nodup ∧
      (∀ p ∈ segments.flatMap Segment.parameters, fold p.name ∉ seen) ∧
      CatchAllLast segments := by
  induction segments generalizing seen with
  | nil => simp [CatchAllLast]
  | cons s rest ih =>
    simp only [segmentsError?] at h
    split at h
    · cases h
    next hs =>
      obtain ⟨hnodup, hnew, hlast⟩ := parametersError?_eq_none hs
      obtain ⟨hnodup', hnew', hlast'⟩ := ih h
      refine ⟨?_, ?_, ?_⟩
      · rw [List.flatMap_cons, List.map_append, List.nodup_append]
        refine ⟨hnodup, hnodup', ?_⟩
        rintro _ hk k' hk' rfl
        obtain ⟨q, hq, rfl⟩ := List.mem_map.1 hk'
        exact hnew' q hq (List.mem_append_left _ hk)
      · intro p hp
        rw [List.flatMap_cons, List.mem_append] at hp
        rcases hp with hp | hp
        · exact hnew p hp
        · exact fun hmem => hnew' p hp (List.mem_append_right _ hmem)
      · cases rest with
        | nil => intro s' hs'; cases hs'
        | cons s' rest =>
          intro s'' hs'' p hp
          rw [List.dropLast_cons_cons, List.mem_cons] at hs''
          rcases hs'' with rfl | hs''
          · by_contra hcatch
            simpa using hlast p (Segment.mem_parameters hp) (by simpa using hcatch)
          · exact hlast' s'' hs'' p hp

/-- A template that has been read uses no name twice, and a catch-all stands in its last
segment. -/
theorem parameters_of_parse {text : String} {t : Template} (h : Template.parse text = .ok t) :
    t.Sound := by
  obtain ⟨hnodup, -, hlast⟩ := segmentsError?_eq_none (Template.readFrom_of_parse h).1
  exact ⟨hnodup, hlast⟩

end UrlRouting
