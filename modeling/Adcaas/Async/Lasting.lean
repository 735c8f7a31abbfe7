import Mathlib.Data.List.Basic

/-!
# What lasts

Events make something and undo it again.  It lasts through a log of events if one of them has made
it and none since has undone it.

## Main definitions

* `Lasts` — what is made by some events and undone by others lasts through a log.

## Main results

* `lasts_concat_iff` — what lasts through one more event.
* `lasts_congr` — events that make and undo alike.
-/

namespace Async

variable {ε : Type*} {makes makes' undoes undoes' : ε → Prop} {log : List ε} {x : ε}

/-- An event of the log has made it, and none after that has undone it. -/
def Lasts (makes undoes : ε → Prop) (log : List ε) : Prop :=
  ∃ pre x post, log = pre ++ x :: post ∧ makes x ∧ ∀ y ∈ post, ¬ undoes y

@[simp] theorem not_lasts_nil : ¬ Lasts makes undoes [] := by
  rintro ⟨pre, x, post, hlog, -, -⟩
  simp at hlog

/-- **Through one more event** lasts what it makes, and what has lasted and is not undone by it. -/
theorem lasts_concat_iff :
    Lasts makes undoes (log ++ [x]) ↔ makes x ∨ Lasts makes undoes log ∧ ¬ undoes x := by
  constructor
  · rintro ⟨pre, y, post, hlog, hmakes, hundoes⟩
    rcases List.eq_nil_or_concat post with rfl | ⟨post', z, rfl⟩
    · obtain ⟨-, hlast⟩ := List.append_inj' hlog rfl
      rw [List.singleton_inj.mp hlast]
      exact .inl hmakes
    · rw [List.concat_eq_append] at hlog hundoes
      rw [← List.cons_append, ← List.append_assoc] at hlog
      obtain ⟨hinit, hlast⟩ := List.append_inj' hlog rfl
      rw [List.singleton_inj.mp hlast]
      refine .inr ⟨⟨pre, y, post', hinit, hmakes, fun w hw => ?_⟩, ?_⟩
      · exact hundoes w (List.mem_append_left _ hw)
      · exact hundoes z (List.mem_append_right _ (List.mem_singleton_self z))
  · rintro (hmakes | ⟨⟨pre, y, post, rfl, hmakes, hundoes⟩, hx⟩)
    · exact ⟨log, x, [], rfl, hmakes, fun _ h => (by cases h)⟩
    · refine ⟨pre, y, post ++ [x], by simp, hmakes, fun w hw => ?_⟩
      rcases List.mem_append.mp hw with hpost | hlast
      · exact hundoes w hpost
      · rwa [List.mem_singleton.mp hlast]

theorem Lasts.mono (h : Lasts makes undoes log) (hmakes : ∀ y ∈ log, makes y → makes' y)
    (hundoes : ∀ y ∈ log, undoes' y → undoes y) : Lasts makes' undoes' log := by
  obtain ⟨pre, x, post, rfl, hx, hpost⟩ := h
  refine ⟨pre, x, post, rfl, hmakes x (by simp) hx, fun y hy hundo => ?_⟩
  exact hpost y hy (hundoes y (by simp [hy]) hundo)

/-- **Events that make and undo alike** leave the same. -/
theorem lasts_congr (hmakes : ∀ y ∈ log, (makes y ↔ makes' y))
    (hundoes : ∀ y ∈ log, (undoes y ↔ undoes' y)) :
    Lasts makes undoes log ↔ Lasts makes' undoes' log :=
  ⟨fun h => h.mono (fun y hy => (hmakes y hy).mp) fun y hy => (hundoes y hy).mpr,
    fun h => h.mono (fun y hy => (hmakes y hy).mpr) fun y hy => (hundoes y hy).mp⟩

end Async
