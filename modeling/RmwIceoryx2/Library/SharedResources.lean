import Mathlib.Data.List.Basic

namespace RmwIceoryx2.Library

variable {H N R S : Type}

/-- How a request becomes the settings of a new resource, and which settings serve a request. -/
structure Terms (R S : Type) where
  make : R → S
  serves : S → R → Bool

/-- A resource serves the request it was made for. -/
def Terms.Fair (terms : Terms R S) : Prop :=
  ∀ request, terms.serves (terms.make request) request = true

structure Handle (H N S : Type) where
  holder : H
  name : N
  settings : S
  deriving DecidableEq, Repr

/-- Resources that are shared by name, each of which exists as long as there is a handle to it. The
handles to one resource agree on its settings. -/
structure Resources (H N S : Type) where
  handles : List (Handle H N S)
  agree : ∀ h ∈ handles, ∀ h' ∈ handles, h.name = h'.name → h.settings = h'.settings

namespace Resources

@[ext] theorem ext {r r' : Resources H N S} (h : r.handles = r'.handles) : r = r' := by
  cases r
  cases r'
  cases h
  rfl

inductive Step (H N R : Type)
  | openOrCreate (holder : H) (name : N) (request : R)
  | release (holder : H)
  deriving DecidableEq, Repr

def Step.holder : Step H N R → H
  | .openOrCreate holder _ _ => holder
  | .release holder => holder

def empty : Resources H N S := ⟨[], fun _ h ↦ absurd h List.not_mem_nil⟩

def Exists (r : Resources H N S) (name : N) : Prop := ∃ h ∈ r.handles, h.name = name

/-- The resources as they are if only some of the holders have handles. -/
def keep (r : Resources H N S) (p : H → Bool) : Resources H N S :=
  ⟨r.handles.filter fun h ↦ p h.holder, fun h hh h' hh' ↦
    r.agree h (List.mem_of_mem_filter hh) h' (List.mem_of_mem_filter hh')⟩

def acquire (r : Resources H N S) (holder : H) (name : N) (settings : S)
    (hs : ∀ h ∈ r.handles, h.name = name → h.settings = settings) : Resources H N S where
  handles := ⟨holder, name, settings⟩ :: r.handles
  agree h hh h' hh' hname := by
    rcases List.mem_cons.mp hh with rfl | hh
    · rcases List.mem_cons.mp hh' with rfl | hh'
      · rfl
      · exact (hs h' hh' hname.symm).symm
    · rcases List.mem_cons.mp hh' with rfl | hh'
      · exact hs h hh hname
      · exact r.agree h hh h' hh' hname

variable {r r' : Resources H N S} {terms : Terms R S} {p : H → Bool} {holder : H} {name : N}
  {request : R} {s : S}

@[simp] theorem mem_keep {h : Handle H N S} :
    h ∈ (r.keep p).handles ↔ h ∈ r.handles ∧ p h.holder = true := List.mem_filter

theorem exists_of_keep (h : (r.keep p).Exists name) : r.Exists name := by
  obtain ⟨e, he, hname⟩ := h
  exact ⟨e, (mem_keep.mp he).1, hname⟩

theorem keep_keep (q : H → Bool) : (r.keep p).keep q = r.keep fun h ↦ q h && p h :=
  ext List.filter_filter

theorem exists_acquire {hs : ∀ h ∈ r.handles, h.name = name → h.settings = s} {n : N} :
    (r.acquire holder name s hs).Exists n ↔ n = name ∨ r.Exists n := by
  simp only [Exists, acquire, List.exists_mem_cons_iff, eq_comm (a := n)]

theorem keep_acquire_of_pos {hs : ∀ h ∈ r.handles, h.name = name → h.settings = s}
    (hp : p holder = true) : (r.acquire holder name s hs).keep p =
      (r.keep p).acquire holder name s fun h hh ↦ hs h (mem_keep.mp hh).1 :=
  ext (List.filter_cons_of_pos (p := fun h : Handle H N S ↦ p h.holder) hp)

theorem keep_acquire_of_neg {hs : ∀ h ∈ r.handles, h.name = name → h.settings = s}
    (hp : ¬ p holder = true) : (r.acquire holder name s hs).keep p = r.keep p :=
  ext (List.filter_cons_of_neg (p := fun h : Handle H N S ↦ p h.holder) hp)

section

variable [DecidableEq H]

def release (r : Resources H N S) (holder : H) : Resources H N S := r.keep fun h ↦ h ≠ holder

theorem release_keep : (r.release holder).keep p = (r.keep p).release holder := by
  simp only [release, keep_keep, Bool.and_comm]

theorem keep_release_of_neg (hp : ¬ p holder = true) : (r.release holder).keep p = r.keep p := by
  rw [release, keep_keep]
  refine ext (List.filter_congr fun h _ ↦ ?_)
  by_cases hh : h.holder = holder
  · simp [hh, hp]
  · simp [hh]

end

variable [DecidableEq N]

def settings (r : Resources H N S) (name : N) : Option S :=
  (r.handles.find? fun h ↦ h.name = name).map (·.settings)

theorem settings_eq_none : r.settings name = none ↔ ¬ r.Exists name := by
  simp [settings, Exists]

theorem settings_eq_some (h : r.settings name = some s) :
    r.Exists name ∧ ∀ h ∈ r.handles, h.name = name → h.settings = s := by
  obtain ⟨e, he, rfl⟩ := Option.map_eq_some_iff.mp h
  have hname : e.name = name := by simpa using List.find?_some he
  have hmem := List.mem_of_find?_eq_some he
  exact ⟨⟨e, hmem, hname⟩, fun h hh hn ↦ r.agree h hh e hmem (hn.trans hname.symm)⟩

/-- The settings with which the resource is there for a request, unless it does not serve it. -/
def offer (terms : Terms R S) (r : Resources H N S) (name : N) (request : R) : Option S :=
  match r.settings name with
  | none => some (terms.make request)
  | some s => if terms.serves s request then some s else none

theorem offer_agrees (h : r.offer terms name request = some s) :
    ∀ h ∈ r.handles, h.name = name → h.settings = s := by
  intro e he hname
  cases hsettings : r.settings name with
  | none => exact absurd ⟨e, he, hname⟩ (settings_eq_none.mp hsettings)
  | some s' =>
    simp only [offer, hsettings, Option.ite_none_right_eq_some, Option.some_inj] at h
    rw [← h.2]
    exact (settings_eq_some hsettings).2 e he hname

def openOrCreate (terms : Terms R S) (r : Resources H N S) (holder : H) (name : N) (request : R) :
    Option (Resources H N S) :=
  (r.offer terms name request).pmap (fun s hs ↦ r.acquire holder name s hs)
    fun _ hs ↦ offer_agrees hs

theorem openOrCreate_eq_some : r.openOrCreate terms holder name request = some r' ↔
    ∃ s, ∃ hs : ∀ h ∈ r.handles, h.name = name → h.settings = s,
      r.offer terms name request = some s ∧ r' = r.acquire holder name s hs :=
  Option.pmap_eq_some_iff

theorem openOrCreate_eq_none : r.openOrCreate terms holder name request = none ↔
    ∃ s, r.settings name = some s ∧ ¬ terms.serves s request = true := by
  simp only [openOrCreate, Option.pmap_eq_none_iff, offer]
  cases r.settings name <;> simp

variable [DecidableEq H] {owner : H → Bool} {ask : N → R}

/-- A request that is not served leaves no trace. -/
def exec (terms : Terms R S) (r : Resources H N S) : Step H N R → Resources H N S
  | .openOrCreate holder name request => (r.openOrCreate terms holder name request).getD r
  | .release holder => r.release holder

theorem exists_of_exec_open {n : N}
    (h : (r.exec terms (.openOrCreate holder name request)).Exists n) : n = name ∨ r.Exists n := by
  cases hopen : r.openOrCreate terms holder name request with
  | none =>
    rw [exec, hopen, Option.getD_none] at h
    exact Or.inr h
  | some r' =>
    rw [exec, hopen, Option.getD_some] at h
    obtain ⟨s, hs, -, rfl⟩ := openOrCreate_eq_some.mp hopen
    exact exists_acquire.mp h

theorem exists_exec_open :
    (r.exec terms (.openOrCreate holder name request)).Exists name := by
  cases hopen : r.openOrCreate terms holder name request with
  | none =>
    obtain ⟨s, hs, -⟩ := openOrCreate_eq_none.mp hopen
    rw [exec, hopen]
    exact (settings_eq_some hs).1
  | some r' =>
    rw [exec, hopen]
    obtain ⟨s, hs, -, rfl⟩ := openOrCreate_eq_some.mp hopen
    exact ⟨_, List.mem_cons_self, rfl⟩

theorem open_adds_nothing_iff :
    (∀ n, (r.exec terms (.openOrCreate holder name request)).Exists n → r.Exists n) ↔
      r.Exists name := by
  constructor
  · intro h
    exact h name exists_exec_open
  · intro h n hn
    rcases exists_of_exec_open hn with rfl | hn
    · exact h
    · exact hn

/-- Nothing that a guest does is noticed among the handles of the owners. -/
theorem exec_keep_of_guest {step : Step H N R} (hguest : ¬ owner step.holder = true) :
    (r.exec terms step).keep owner = r.keep owner := by
  cases step with
  | release holder => exact keep_release_of_neg hguest
  | openOrCreate holder name request =>
    cases hopen : r.openOrCreate terms holder name request with
    | none => rw [exec, hopen, Option.getD_none]
    | some r' =>
      obtain ⟨s, hs, -, rfl⟩ := openOrCreate_eq_some.mp hopen
      rw [exec, hopen, Option.getD_some]
      exact keep_acquire_of_neg hguest

/-- Every resource is as the owners ask for it. -/
def Uniform (terms : Terms R S) (ask : N → R) (r : Resources H N S) : Prop :=
  ∀ h ∈ r.handles, h.settings = terms.make (ask h.name)

/-- Owners ask for what is theirs to ask for, and guests for what exists. -/
def Polite (ask : N → R) (owner : H → Bool) (r : Resources H N S) : Step H N R → Prop
  | .openOrCreate holder name request => if owner holder then request = ask name else r.Exists name
  | .release _ => True

omit [DecidableEq H] [DecidableEq N] in
theorem uniform_empty : Uniform terms ask (empty : Resources H N S) :=
  fun _ h ↦ absurd h List.not_mem_nil

omit [DecidableEq H] [DecidableEq N] in
theorem Uniform.keep (h : Uniform terms ask r) : Uniform terms ask (r.keep p) :=
  fun e he ↦ h e (mem_keep.mp he).1

omit [DecidableEq H] in
theorem Uniform.settings (h : Uniform terms ask r) (hs : r.settings name = some s) :
    s = terms.make (ask name) := by
  obtain ⟨⟨e, he, rfl⟩, hsame⟩ := settings_eq_some hs
  rw [← hsame e he rfl, h e he]

omit [DecidableEq H] in
theorem Uniform.offer (hfair : terms.Fair) (h : Uniform terms ask r) (name : N) :
    r.offer terms name (ask name) = some (terms.make (ask name)) := by
  cases hs : r.settings name with
  | none => simp only [Resources.offer, hs]
  | some s =>
    obtain rfl := h.settings hs
    simp only [Resources.offer, hs, hfair (ask name), if_true]

omit [DecidableEq H] in
theorem Uniform.openOrCreate (hfair : terms.Fair) (h : Uniform terms ask r) (holder : H)
    (name : N) : r.openOrCreate terms holder name (ask name) =
      some (r.acquire holder name (terms.make (ask name)) (offer_agrees (h.offer hfair name))) :=
  openOrCreate_eq_some.mpr ⟨_, _, h.offer hfair name, rfl⟩

theorem Uniform.exec (hfair : terms.Fair) (h : Uniform terms ask r) {step : Step H N R}
    (hstep : Polite ask owner r step) : Uniform terms ask (r.exec terms step) := by
  cases step with
  | release holder => exact h.keep
  | openOrCreate holder name request =>
    cases hopen : r.openOrCreate terms holder name request with
    | none =>
      rw [Resources.exec, hopen]
      exact h
    | some r' =>
      obtain ⟨s, hs, hoffer, rfl⟩ := openOrCreate_eq_some.mp hopen
      rw [Resources.exec, hopen]
      have hasked : s = terms.make (ask name) := by
        simp only [Polite] at hstep
        split at hstep
        · rw [hstep, h.offer hfair name] at hoffer
          exact (Option.some_inj.mp hoffer).symm
        · obtain ⟨e, he, rfl⟩ := hstep
          rw [← hs e he rfl, h e he]
      intro e he
      rcases List.mem_cons.mp he with rfl | he
      · exact hasked
      · exact h e he

/-- What an owner does goes the same way whether there are guests or not. -/
theorem Uniform.exec_keep_of_owner (hfair : terms.Fair) (h : Uniform terms ask r)
    {step : Step H N R} (hstep : Polite ask owner r step) (howner : owner step.holder = true) :
    (r.exec terms step).keep owner = (r.keep owner).exec terms step := by
  cases step with
  | release holder => exact release_keep
  | openOrCreate holder name request =>
    simp only [Step.holder] at howner
    obtain rfl : request = ask name := by simpa only [Polite, howner, if_true] using hstep
    rw [Resources.exec, Resources.exec, h.openOrCreate hfair, h.keep.openOrCreate hfair,
      Option.getD_some, Option.getD_some, keep_acquire_of_pos howner]

def Holds (r : Resources H N S) (holder : H) (name : N) : Prop :=
  ∃ h ∈ r.handles, h.holder = holder ∧ h.name = name

omit [DecidableEq H] [DecidableEq N] in
theorem exists_iff_holds {n : N} : r.Exists n ↔ ∃ k, r.Holds k n := by
  constructor
  · intro h
    obtain ⟨e, he, hname⟩ := h
    exact ⟨e.holder, e, he, rfl, hname⟩
  · intro h
    obtain ⟨k, e, he, -, hname⟩ := h
    exact ⟨e, he, hname⟩

omit [DecidableEq N] in
theorem holds_release {k : H} {n : N} :
    (r.release holder).Holds k n ↔ r.Holds k n ∧ holder ≠ k := by
  simp only [Holds, release, mem_keep, decide_eq_true_eq]
  constructor
  · intro h
    obtain ⟨e, ⟨he, hother⟩, rfl, hname⟩ := h
    exact ⟨⟨e, he, rfl, hname⟩, hother.symm⟩
  · intro h
    obtain ⟨⟨e, he, rfl, hname⟩, hother⟩ := h
    exact ⟨e, ⟨he, hother.symm⟩, rfl, hname⟩

omit [DecidableEq H] [DecidableEq N] in
theorem holds_acquire {hs : ∀ h ∈ r.handles, h.name = name → h.settings = s} {k : H} {n : N} :
    (r.acquire holder name s hs).Holds k n ↔ (holder = k ∧ name = n) ∨ r.Holds k n := by
  simp only [Holds, acquire, List.exists_mem_cons_iff]

theorem holds_exec {step : Step H N R} {k : H} {n : N} : (r.exec terms step).Holds k n ↔
    (∃ request, step = .openOrCreate k n request ∧
      (r.openOrCreate terms k n request).isSome = true) ∨
        (r.Holds k n ∧ step ≠ .release k) := by
  cases step with
  | release holder =>
    rw [exec, holds_release]
    simp
  | openOrCreate holder name request =>
    have hkept : Step.openOrCreate holder name request ≠ .release k := by
      intro h
      cases h
    rw [exec]
    cases hopen : r.openOrCreate terms holder name request with
    | none =>
      rw [Option.getD_none]
      constructor
      · intro h
        exact Or.inr ⟨h, hkept⟩
      · intro h
        obtain ⟨request', hstep, hserved⟩ | ⟨h, -⟩ := h
        · obtain ⟨rfl, rfl, rfl⟩ := Step.openOrCreate.inj hstep
          rw [hopen] at hserved
          cases hserved
        · exact h
    | some r' =>
      obtain ⟨s, hs, -, rfl⟩ := openOrCreate_eq_some.mp hopen
      rw [Option.getD_some, holds_acquire]
      constructor
      · intro h
        rcases h with ⟨rfl, rfl⟩ | h
        · exact Or.inl ⟨request, rfl, by rw [hopen]; rfl⟩
        · exact Or.inr ⟨h, hkept⟩
      · intro h
        obtain ⟨request', hstep, -⟩ | ⟨h, -⟩ := h
        · obtain ⟨rfl, rfl, -⟩ := Step.openOrCreate.inj hstep
          exact Or.inl ⟨rfl, rfl⟩
        · exact Or.inr h

end Resources

end RmwIceoryx2.Library
