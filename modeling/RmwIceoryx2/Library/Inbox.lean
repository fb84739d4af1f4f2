import RmwIceoryx2.Library.Simulation

namespace RmwIceoryx2.Library

open Execution
open scoped List

variable {α β : Type} {n : ℕ}

/-- A queue of at most `n` elements. One that is put into a full inbox displaces the oldest. -/
@[ext] structure Inbox (α : Type) (n : ℕ) where
  items : List α
  bounded : items.length ≤ n

namespace Inbox

def empty (α : Type) (n : ℕ) : Inbox α n := ⟨[], Nat.zero_le n⟩

def push (b : Inbox α n) (a : α) : Inbox α n where
  items := (b.items ++ [a]).drop (b.items.length + 1 - n)
  bounded := by
    rw [List.length_drop, List.length_append, List.length_singleton]
    omega

def pop (b : Inbox α n) : Inbox α n where
  items := b.items.tail
  bounded := by
    have hb := b.bounded
    rw [List.length_tail]
    omega

def map (f : α → β) (b : Inbox α n) : Inbox β n :=
  ⟨b.items.map f, by rw [List.length_map]; exact b.bounded⟩

@[simp] theorem items_push (b : Inbox α n) (a : α) :
    (b.push a).items = (b.items ++ [a]).drop (b.items.length + 1 - n) := rfl

@[simp] theorem items_pop (b : Inbox α n) : b.pop.items = b.items.tail := rfl

@[simp] theorem items_map (f : α → β) (b : Inbox α n) : (b.map f).items = b.items.map f := rfl

theorem map_push (f : α → β) (b : Inbox α n) (a : α) : (b.push a).map f = (b.map f).push (f a) := by
  apply Inbox.ext
  simp only [items_map, items_push, List.map_drop, List.map_append, List.map_singleton,
    List.length_map]

theorem map_pop (f : α → β) (b : Inbox α n) : b.pop.map f = (b.map f).pop := by
  apply Inbox.ext
  simp only [items_map, items_pop, List.map_tail]

theorem mem_push {b : Inbox α n} {a c : α} (h : c ∈ (b.push a).items) : c ∈ b.items ∨ c = a := by
  have hmem := List.mem_of_mem_drop h
  rcases List.mem_append.mp hmem with hb | ha
  · exact Or.inl hb
  · exact Or.inr (List.mem_singleton.mp ha)

inductive Step (α : Type)
  | push (a : α)
  | pop

def Step.map (f : α → β) : Step α → Step β
  | .push a => .push (f a)
  | .pop => .pop

def step (b : Inbox α n) : Step α → Inbox α n
  | .push a => b.push a
  | .pop => b.pop

theorem map_step (f : α → β) (b : Inbox α n) (s : Step α) :
    (b.step s).map f = (b.map f).step (s.map f) := by
  cases s with
  | push a => exact map_push f b a
  | pop => exact map_pop f b

def Step.pushed : Step α → Option α
  | .push a => some a
  | .pop => none

def popped (b : Inbox α n) : Step α → Option α
  | .push _ => none
  | .pop => b.items.head?

/-- What is no longer there after a step, taken out or displaced. -/
def gone (b : Inbox α n) : Step α → Option α
  | .push a => if b.items.length < n then none else (b.items ++ [a]).head?
  | .pop => b.items.head?

def HasRoom (b : Inbox α n) : Step α → Prop
  | .push _ => b.items.length < n
  | .pop => True

theorem gone_eq_popped {b : Inbox α n} {s : Step α} (h : b.HasRoom s) : gone b s = popped b s := by
  cases s with
  | push a => exact if_pos h
  | pop => rfl

theorem gone_of_popped {b : Inbox α n} {s : Step α} {a : α} (h : popped b s = some a) :
    gone b s = some a := by
  cases s with
  | push c => cases h
  | pop => exact h

theorem gone_step (b : Inbox α n) (s : Step α) :
    (gone b s).toList ++ (b.step s).items = b.items ++ s.pushed.toList := by
  cases s with
  | push a =>
    by_cases hroom : b.items.length < n
    · have hzero : b.items.length + 1 - n = 0 := by omega
      simp only [gone, step, Step.pushed, if_pos hroom, Option.toList_none, List.nil_append,
        Option.toList_some, items_push, hzero, List.drop_zero]
    · have hone : b.items.length + 1 - n = 1 := by
        have hb := b.bounded
        omega
      simp only [gone, step, Step.pushed, if_neg hroom, Option.toList_some, items_push, hone]
      cases b.items <;> rfl
  | pop =>
    cases hitems : b.items with
    | nil => simp [gone, step, Step.pushed, hitems]
    | cons c rest => simp [gone, step, Step.pushed, hitems]

/-- What was put in is gone or still there, in the order in which it was put in. -/
theorem gone_run (b : Inbox α n) (steps : List (Step α)) :
    trace step gone b steps ++ (run step b steps).items =
      b.items ++ steps.filterMap Step.pushed := by
  induction steps generalizing b with
  | nil => simp
  | cons s steps ih =>
    have hpushed : (s :: steps).filterMap Step.pushed =
        s.pushed.toList ++ steps.filterMap Step.pushed := by
      cases s <;> rfl
    rw [trace_cons, run_cons, List.append_assoc, ih, hpushed, ← List.append_assoc, gone_step,
      List.append_assoc]

theorem popped_sublist (b : Inbox α n) (steps : List (Step α)) :
    trace step popped b steps ++ (run step b steps).items <+
      b.items ++ steps.filterMap Step.pushed := by
  have hgone : trace step popped b steps <+ trace step gone b steps :=
    trace_sublist (fun _ _ (_ : True) (_ : True) ↦ trivial) (fun _ _ _ _ _ ↦ gone_of_popped) trivial
      (admissible_of_forall _ fun _ _ _ ↦ trivial)
  rw [← gone_run]
  exact hgone.append_right _

theorem popped_eq {b : Inbox α n} {steps : List (Step α)} (h : Admissible step HasRoom b steps) :
    trace step popped b steps ++ (run step b steps).items =
      b.items ++ steps.filterMap Step.pushed := by
  have hgone : trace step gone b steps = trace step popped b steps :=
    trace_congr (fun _ _ (_ : True) _ ↦ trivial) (fun _ _ _ ↦ gone_eq_popped) trivial h
  rw [← hgone, gone_run]

end Inbox

end RmwIceoryx2.Library
