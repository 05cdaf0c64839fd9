import Mathlib.Logic.Function.Basic
import Mathlib.Tactic.Common

/-!
# Handles and what they stand for

A history says which handles were given out, for what, and which were given
back.  A table that keeps one resource at each index names an index by a
handle, and tracks the history when it holds exactly what is outstanding.
-/

namespace GpuNvme.Lib.Handles

variable {η ρ ι : Type*}

/-! ## Histories -/

inductive Event (η ρ : Type*) where
  | opened (handle : η) (resource : ρ)
  | closed (handle : η)
deriving DecidableEq

/-- The handle was given out for this resource and not given back since. -/
def Outstanding (history : List (Event η ρ)) (handle : η) (resource : ρ) :
    Prop :=
  ∃ earlier later,
    history = earlier ++ .opened handle resource :: later ∧
      .closed handle ∉ later

/-- The handle stands for something. -/
def Live (history : List (Event η ρ)) (handle : η) : Prop :=
  ∃ resource, Outstanding history handle resource

@[simp]
theorem not_outstanding_nil {handle : η} {resource : ρ} :
    ¬Outstanding [] handle resource := by
  rintro ⟨earlier, later, split, -⟩
  simp at split

theorem outstanding_append_opened
    {history : List (Event η ρ)} {handle other : η} {resource new : ρ} :
    Outstanding (history ++ [.opened other new]) handle resource ↔
      Outstanding history handle resource ∨
        handle = other ∧ resource = new := by
  constructor
  · rintro ⟨earlier, later, split, kept⟩
    rcases List.eq_nil_or_concat later with rfl | ⟨before, last, rfl⟩
    · obtain ⟨-, same⟩ := List.append_inj' split rfl
      simp only [List.cons.injEq, Event.opened.injEq, and_true] at same
      exact .inr ⟨same.1.symm, same.2.symm⟩
    · rw [List.concat_eq_append] at split kept
      rw [← List.cons_append, ← List.append_assoc] at split
      obtain ⟨rfl, -⟩ := List.append_inj' split rfl
      exact .inl
        ⟨earlier, before, rfl, fun closed =>
          kept (List.mem_append_left _ closed)⟩
  · rintro (⟨earlier, later, rfl, kept⟩ | ⟨rfl, rfl⟩)
    · exact
        ⟨earlier, later ++ [.opened other new], by simp,
          by simpa using kept⟩
    · exact ⟨history, [], rfl, List.not_mem_nil⟩

theorem outstanding_append_closed
    {history : List (Event η ρ)} {handle other : η} {resource : ρ} :
    Outstanding (history ++ [.closed other]) handle resource ↔
      Outstanding history handle resource ∧ handle ≠ other := by
  constructor
  · rintro ⟨earlier, later, split, kept⟩
    rcases List.eq_nil_or_concat later with rfl | ⟨before, last, rfl⟩
    · obtain ⟨-, same⟩ := List.append_inj' split rfl
      simp at same
    · rw [List.concat_eq_append] at split kept
      rw [← List.cons_append, ← List.append_assoc] at split
      obtain ⟨rfl, same⟩ := List.append_inj' split rfl
      obtain rfl : Event.closed other = last := List.singleton_inj.mp same
      constructor
      · exact
          ⟨earlier, before, rfl, fun closed =>
            kept (List.mem_append_left _ closed)⟩
      · rintro rfl
        exact kept (List.mem_append_right _ (List.mem_singleton_self _))
  · rintro ⟨⟨earlier, later, rfl, kept⟩, different⟩
    refine ⟨earlier, later ++ [.closed other], by simp, ?_⟩
    simp [kept, different]

/-! ## Tables -/

/-- The table holds what is outstanding, each resource under its handle. -/
def Tracks (name : ι → η) (table : ι → Option ρ)
    (history : List (Event η ρ)) : Prop :=
  ∀ handle resource,
    Outstanding history handle resource ↔
      ∃ index, handle = name index ∧ table index = some resource

variable {name : ι → η} {table : ι → Option ρ}
variable {history : List (Event η ρ)}

theorem tracks_empty :
    Tracks name (fun _ => none) ([] : List (Event η ρ)) := by
  intro handle resource
  simp

namespace Tracks

theorem live_iff (tracks : Tracks name table history) {handle : η} :
    Live history handle ↔
      ∃ index, handle = name index ∧ table index ≠ none := by
  constructor
  · rintro ⟨resource, outstanding⟩
    obtain ⟨index, named, held⟩ := (tracks handle resource).mp outstanding
    exact ⟨index, named, by simp [held]⟩
  · rintro ⟨index, named, held⟩
    obtain ⟨resource, found⟩ := Option.ne_none_iff_exists'.mp held
    exact ⟨resource, (tracks handle resource).mpr ⟨index, named, found⟩⟩

variable [DecidableEq ι]

/-- A resource that goes to a free index is outstanding under its handle. -/
theorem opened (tracks : Tracks name table history) {index : ι}
    (free : table index = none) (resource : ρ) :
    Tracks name (Function.update table index (some resource))
      (history ++ [.opened (name index) resource]) := by
  intro handle old
  rw [outstanding_append_opened, tracks]
  constructor
  · rintro (⟨other, named, held⟩ | ⟨rfl, rfl⟩)
    · have different : other ≠ index := by
        rintro rfl
        simp [free] at held
      exact ⟨other, named, by rwa [Function.update_of_ne different]⟩
    · exact ⟨index, rfl, Function.update_self ..⟩
  · rintro ⟨other, named, held⟩
    by_cases same : other = index
    · subst same
      rw [Function.update_self, Option.some.injEq] at held
      exact .inr ⟨named, held.symm⟩
    · rw [Function.update_of_ne same] at held
      exact .inl ⟨other, named, held⟩

/-- A handle that is given back stands for nothing, and no other changes. -/
theorem closed (injective : name.Injective)
    (tracks : Tracks name table history) (index : ι) :
    Tracks name (Function.update table index none)
      (history ++ [.closed (name index)]) := by
  intro handle resource
  rw [outstanding_append_closed, tracks]
  constructor
  · rintro ⟨⟨other, rfl, held⟩, different⟩
    have apart : other ≠ index := fun same => different (by rw [same])
    exact ⟨other, rfl, by rwa [Function.update_of_ne apart]⟩
  · rintro ⟨other, rfl, held⟩
    have apart : other ≠ index := by
      rintro rfl
      simp at held
    rw [Function.update_of_ne apart] at held
    exact ⟨⟨other, rfl, held⟩, fun same => apart (injective same)⟩

end Tracks

end GpuNvme.Lib.Handles
