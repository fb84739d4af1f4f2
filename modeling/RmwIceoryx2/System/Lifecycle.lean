import RmwIceoryx2.Library.Simulation
import RmwIceoryx2.Rmw.InitRetry
import RmwIceoryx2.System.Signals

namespace RmwIceoryx2.System.Lifecycle

open RmwIceoryx2.Common RmwIceoryx2.Runtime RmwIceoryx2.Rmw RmwIceoryx2.Library.Execution
open RmwIceoryx2.System.Signals

/-- The life of a context: fresh, in use, and shut down (or never properly started). -/
inductive Phase
  | zero | live | ended
  deriving DecidableEq, Repr

inductive Call
  | init (granted : Bool) | shutdown | fini
  deriving DecidableEq, Repr

/-- What a call with proper arguments returns in each phase, and the phase it leads to. -/
def answer : Phase → Call → RmwRet × Phase
  | .zero, .init granted => if granted then (.ok, .live) else (.error, .ended)
  | .zero, _ => (.invalidArgument, .zero)
  | .live, .init _ => (.invalidArgument, .live)
  | .live, .shutdown => (.ok, .ended)
  | .live, .fini => (.invalidArgument, .live)
  | .ended, .init _ => (.invalidArgument, .ended)
  | .ended, .shutdown => (.ok, .ended)
  | .ended, .fini => (.ok, .zero)

def step (p : Phase) (call : Call) : Phase := (answer p call).2

def phase (context : RmwContext) : Phase :=
  if context.impl.isSome then .live
  else if context.implementationIdentifier.isSome then .ended else .zero

/-- Options that `rmw_init` rejects make no call; otherwise it is granted if it would succeed on a
fresh context. -/
def initCall (env : InitAnswers) (options : Option RmwInitOptions) : Option Call :=
  match checkInit options (some zeroContext) with
  | .error _ => none
  | .ok _ => some (.init ((rmwInit env [] options (some zeroContext)).ret = .ok))

def call : Signals.Op → Option Call
  | .init env options _ => initCall env options
  | .shutdown _ => some .shutdown
  | .fini _ => some .fini
  | _ => none

def target : Signals.Op → Option ℕ
  | .init _ _ c | .shutdown c | .fini c => some c
  | _ => none

def callOn (c : ℕ) (op : Signals.Op) : Option Call := if target op = some c then call op else none

def outcome (w : Process) : Signals.Op → Option ContextOutcome
  | .init env options c => some (rmwInit env w.impls options (some (w.contexts c)))
  | .shutdown c => some (rmwShutdown w.impls (some (w.contexts c)))
  | .fini c => some (rmwContextFini w.impls (some (w.contexts c)))
  | _ => none

def Alive (impls : Impls) (ptr : ImplPtr) : Prop := ∃ c, deref impls ptr = .ok c

/-- The implementations that live are those of the contexts, each of one context only. -/
structure Owned (contexts : ℕ → RmwContext) (impls : Impls) : Prop where
  alive_iff : ∀ ptr, Alive impls ptr ↔ ∃ c, (contexts c).impl = some ptr
  unique : ∀ c c' ptr, (contexts c).impl = some ptr → (contexts c').impl = some ptr → c = c'

/-- A context that was never used is as it was handed over, any other one is ours. -/
def Kept (context : RmwContext) : Prop :=
  context = zeroContext ∨ context.implementationIdentifier = some rmwGetImplementationIdentifier

structure Sound (w : Process) : Prop where
  kept : ∀ c, Kept (w.contexts c)
  owned : Owned w.contexts w.impls

section Owned

variable {contexts : ℕ → RmwContext} {impls impls' : Impls} {ptr : ImplPtr} {c : ℕ}

theorem alive_iff_getElem : Alive impls ptr ↔ ∃ x, impls[ptr]? = some (some x) := by
  simp only [Alive, deref_ok]

theorem alive_append (x : Context) :
    Alive (impls ++ [some x]) ptr ↔ Alive impls ptr ∨ ptr = impls.length := by
  rw [alive_iff_getElem, alive_iff_getElem]
  rcases lt_trichotomy ptr impls.length with hlt | rfl | hgt
  · rw [List.getElem?_append_left hlt]
    simp [hlt.ne]
  · simp
  · have hlen : (impls ++ [some x]).length ≤ ptr := by
      rw [List.length_append]
      exact hgt
    rw [List.getElem?_eq_none hlen, List.getElem?_eq_none hgt.le]
    simp [hgt.ne']

theorem alive_set_none {ptr' : ImplPtr} :
    Alive (impls.set ptr none) ptr' ↔ Alive impls ptr' ∧ ptr' ≠ ptr := by
  rw [alive_iff_getElem, alive_iff_getElem]
  by_cases hsame : ptr' = ptr
  · subst hsame
    simp [List.getElem?_set]
  · rw [List.getElem?_set_ne (Ne.symm hsame)]
    simp [hsame]

theorem alive_set_some (x : Context) (halive : Alive impls ptr) {ptr' : ImplPtr} :
    Alive (impls.set ptr (some x)) ptr' ↔ Alive impls ptr' := by
  obtain ⟨y, hy⟩ := alive_iff_getElem.mp halive
  rw [alive_iff_getElem, alive_iff_getElem]
  by_cases hsame : ptr' = ptr
  · subst hsame
    have hlt : ptr' < impls.length := (List.getElem?_eq_some_iff.mp hy).1
    rw [List.getElem?_set_self hlt, hy]
    simp
  · rw [List.getElem?_set_ne (Ne.symm hsame)]

theorem Owned.congr (h : Owned contexts impls)
    (halive : ∀ ptr, Alive impls' ptr ↔ Alive impls ptr) : Owned contexts impls' :=
  ⟨fun ptr ↦ (halive ptr).trans (h.alive_iff ptr), h.unique⟩

theorem Owned.keep (h : Owned contexts impls) {context : RmwContext}
    (hsame : context.impl = (contexts c).impl) :
    Owned (Function.update contexts c context) impls := by
  have himpl : ∀ c', (Function.update contexts c context c').impl = (contexts c').impl := by
    intro c'
    by_cases hc : c' = c
    · rw [hc, Function.update_self, hsame]
    · rw [Function.update_of_ne hc]
  exact ⟨fun ptr ↦ by simp only [himpl, h.alive_iff], fun c₁ c₂ ptr h₁ h₂ ↦
    h.unique c₁ c₂ ptr ((himpl c₁).symm.trans h₁) ((himpl c₂).symm.trans h₂)⟩

theorem Owned.acquire (h : Owned contexts impls) (hfree : (contexts c).impl = none) (x : Context)
    {context : RmwContext} (himpl : context.impl = some impls.length) :
    Owned (Function.update contexts c context) (impls ++ [some x]) := by
  have hnew : ∀ c', (contexts c').impl ≠ some impls.length := by
    intro c' hc'
    obtain ⟨y, hy⟩ := alive_iff_getElem.mp ((h.alive_iff _).mpr ⟨c', hc'⟩)
    simp at hy
  have hupdate : ∀ c' ptr, (Function.update contexts c context c').impl = some ptr ↔
      (c' = c ∧ ptr = impls.length) ∨ (contexts c').impl = some ptr := by
    intro c' ptr
    by_cases hc : c' = c
    · simp [hc, himpl, hfree, eq_comm]
    · simp [hc]
  refine ⟨fun ptr ↦ ?_, fun c₁ c₂ ptr h₁ h₂ ↦ ?_⟩
  · rw [alive_append, h.alive_iff]
    simp only [hupdate]
    constructor
    · rintro (⟨c', hc'⟩ | hptr)
      · exact ⟨c', Or.inr hc'⟩
      · exact ⟨c, Or.inl ⟨rfl, hptr⟩⟩
    · rintro ⟨c', ⟨-, hptr⟩ | hc'⟩
      · exact Or.inr hptr
      · exact Or.inl ⟨c', hc'⟩
  · rcases (hupdate c₁ ptr).mp h₁ with ⟨hc₁, hptr₁⟩ | hold₁ <;>
      rcases (hupdate c₂ ptr).mp h₂ with ⟨hc₂, hptr₂⟩ | hold₂
    · exact hc₁.trans hc₂.symm
    · exact absurd (hptr₁ ▸ hold₂) (hnew c₂)
    · exact absurd (hptr₂ ▸ hold₁) (hnew c₁)
    · exact h.unique c₁ c₂ ptr hold₁ hold₂

theorem Owned.release (h : Owned contexts impls) (hheld : (contexts c).impl = some ptr)
    {context : RmwContext} (himpl : context.impl = none) :
    Owned (Function.update contexts c context) (impls.set ptr none) := by
  have hupdate : ∀ c' ptr', (Function.update contexts c context c').impl = some ptr' ↔
      c' ≠ c ∧ (contexts c').impl = some ptr' := by
    intro c' ptr'
    by_cases hc : c' = c
    · simp [hc, himpl]
    · simp [hc]
  refine ⟨fun ptr' ↦ ?_, fun c₁ c₂ ptr' h₁ h₂ ↦ ?_⟩
  · rw [alive_set_none, h.alive_iff]
    simp only [hupdate]
    constructor
    · rintro ⟨⟨c', hc'⟩, hne⟩
      refine ⟨c', fun hcc ↦ hne ?_, hc'⟩
      rw [hcc, hheld, Option.some_inj] at hc'
      exact hc'.symm
    · rintro ⟨c', hne, hc'⟩
      exact ⟨⟨c', hc'⟩, fun hptr ↦ hne (h.unique c' c ptr (hptr ▸ hc') hheld)⟩
  · exact h.unique c₁ c₂ ptr' ((hupdate c₁ ptr').mp h₁).2 ((hupdate c₂ ptr').mp h₂).2

end Owned

section Calls

variable {context : RmwContext} {impls : Impls}

theorem phase_live {ptr : ImplPtr} (h : context.impl = some ptr) : phase context = .live := by
  simp [phase, h]

theorem phase_ended (himpl : context.impl = none)
    (hid : context.implementationIdentifier = some rmwGetImplementationIdentifier) :
    phase context = .ended := by
  simp [phase, himpl, hid]

theorem rmwInit_cases (hkept : Kept context) (env : InitAnswers) (impls : Impls)
    (options : Option RmwInitOptions) :
    let out := rmwInit env impls options (some context)
    (initCall env options = none ∧ out.context = some context ∧ out.impls = impls) ∨
    (context = zeroContext ∧ initCall env options = some (.init true) ∧ out.ret = .ok ∧
      ∃ x left, out.impls = impls ++ [some x] ∧ out.context = some left ∧
        left.implementationIdentifier = some rmwGetImplementationIdentifier ∧
        left.impl = some impls.length) ∨
    (context = zeroContext ∧ initCall env options = some (.init false) ∧ out.ret = .error ∧
      out.impls = impls ∧ ∃ left, out.context = some left ∧
        left.implementationIdentifier = some rmwGetImplementationIdentifier ∧ left.impl = none) ∨
    (context.implementationIdentifier = some rmwGetImplementationIdentifier ∧
      (∃ granted, initCall env options = some (.init granted)) ∧ out.ret = .invalidArgument ∧
      out.context = some context ∧ out.impls = impls) := by
  intro out
  cases hfresh : checkInit options (some zeroContext) with
  | error f =>
    left
    have hno : ∀ checked, checkInit options (some context) ≠ .ok checked := by
      intro checked hok
      rcases hkept with rfl | hid
      · rw [hfresh] at hok
        cases hok
      · rw [(checkInit_uninitialised hok).1] at hid
        cases hid
    refine ⟨by simp only [initCall, hfresh], ?_⟩
    cases hcheck : checkInit options (some context) with
    | ok checked => exact absurd hcheck (hno checked)
    | error g => exact ⟨by simp only [out, rmwInit, hcheck], by simp only [out, rmwInit, hcheck]⟩
  | ok checked =>
    right
    obtain ⟨given, context'⟩ := checked
    obtain rfl : context' = zeroContext := checkInit_ok hfresh
    obtain ⟨rfl, hvalid⟩ := checkInit_zero_eq_ok.mp hfresh
    have hcall : initCall env (some given) =
        some (.init ((rmwInit env [] (some given) (some zeroContext)).ret = .ok)) := by
      simp only [initCall, hfresh]
    rcases hkept with rfl | hid
    · simp only [out, hcall, rmwInit, hfresh]
      cases env.allocateImpl with
      | false => exact Or.inr (Or.inl ⟨trivial, rfl, rfl, rfl, _, rfl, rfl, rfl⟩)
      | true =>
        cases Context.create env.handle given.instanceId with
        | error f => exact Or.inr (Or.inl ⟨trivial, rfl, rfl, rfl, _, rfl, rfl, rfl⟩)
        | ok x => exact Or.inl ⟨trivial, rfl, rfl, x, _, rfl, rfl, rfl, rfl⟩
    · have hsome : context.implementationIdentifier.isSome := by simp [hid]
      have hrefused := checkInit_refuses hsome hvalid
      refine Or.inr (Or.inr ⟨hid, ⟨_, hcall⟩, ?_⟩)
      simp only [out, rmwInit, hrefused, and_self]

theorem checkInitialised_ours
    (hid : context.implementationIdentifier = some rmwGetImplementationIdentifier) :
    checkInitialised (some context) = .ok context := by
  simp [checkInitialised, hid, ensureNotNull, ensureNotZeroInitialized, ensureImplementation, bind,
    Except.bind, pure, Except.pure]

theorem rmwShutdown_cases (hkept : Kept context) (impls : Impls) :
    let out := rmwShutdown impls (some context)
    (context = zeroContext ∧ out.ret = .invalidArgument ∧ out.context = some context ∧
      out.impls = impls) ∨
    (context.implementationIdentifier = some rmwGetImplementationIdentifier ∧ context.impl = none ∧
      out.ret = .ok ∧ out.context = some context ∧ out.impls = impls) ∨
    (context.implementationIdentifier = some rmwGetImplementationIdentifier ∧
      ∃ ptr, context.impl = some ptr ∧ out.ret = .ok ∧
        out.context = some { context with impl := none } ∧ out.impls = impls.set ptr none) := by
  intro out
  rcases hkept with rfl | hid
  · exact Or.inl ⟨rfl, rfl, rfl, rfl⟩
  · right
    simp only [out, rmwShutdown, checkInitialised_ours hid]
    cases himpl : context.impl with
    | none => exact Or.inl ⟨hid, rfl, rfl, rfl, rfl⟩
    | some ptr => exact Or.inr ⟨hid, ptr, rfl, rfl, rfl, rfl⟩

theorem rmwContextFini_cases (hkept : Kept context) (impls : Impls) :
    let out := rmwContextFini impls (some context)
    (context = zeroContext ∧ out.ret = .invalidArgument ∧ out.context = some context ∧
      out.impls = impls) ∨
    (context.implementationIdentifier = some rmwGetImplementationIdentifier ∧ context.impl = none ∧
      out.ret = .ok ∧ out.context = some zeroContext ∧ out.impls = impls) ∨
    (context.implementationIdentifier = some rmwGetImplementationIdentifier ∧
      (∃ ptr, context.impl = some ptr) ∧ out.ret = .invalidArgument ∧
      out.context = some context ∧ out.impls = impls) := by
  intro out
  rcases hkept with rfl | hid
  · exact Or.inl ⟨rfl, rfl, rfl, rfl⟩
  · right
    simp only [out, rmwContextFini, checkInitialised_ours hid]
    cases himpl : context.impl with
    | none => exact Or.inl ⟨hid, rfl, rfl, rfl, rfl⟩
    | some ptr => exact Or.inr ⟨hid, ⟨ptr, rfl⟩, rfl, rfl, rfl⟩

theorem rmwCreateGuardCondition_alive {env : GuardConditionEnv} {rmwContext : Option RmwContext}
    {impls' : Impls} {r : Except (Failure Unit) (ℕ × Runtime.GuardCondition)}
    (h : rmwCreateGuardCondition env impls rmwContext = .ok (impls', r)) (ptr : ImplPtr) :
    Alive impls' ptr ↔ Alive impls ptr := by
  simp only [rmwCreateGuardCondition] at h
  repeat' split at h
  all_goals first
    | (cases h; done)
    | (cases h; rfl)
    | (rename_i hderef _ _ _ _; cases h; exact alive_set_some _ ⟨_, hderef⟩)

theorem rmwCreateNode_alive {env : NodeEnv} {rmwContext : Option RmwContext}
    {name ns : Option String} {impls' : Impls} {r : Except (Failure Unit) (ℕ × Runtime.Node)}
    (h : rmwCreateNode env impls rmwContext name ns = .ok (impls', r)) (ptr : ImplPtr) :
    Alive impls' ptr ↔ Alive impls ptr := by
  simp only [rmwCreateNode] at h
  repeat' split at h
  all_goals first
    | (cases h; done)
    | (cases h; rfl)
    | (rename_i hderef _ _ _ _; cases h; exact alive_set_some _ ⟨_, hderef⟩)

end Calls

variable {w : Process} {op : Signals.Op} {c : ℕ}

theorem sound_initial : Sound Process.initial := by
  refine ⟨fun c ↦ Or.inl rfl, fun ptr ↦ ?_, fun c c' ptr h ↦ by cases h⟩
  constructor
  · intro h
    obtain ⟨x, hx⟩ := alive_iff_getElem.mp h
    cases hx
  · intro h
    obtain ⟨c, hc⟩ := h
    cases hc

/-- What a call on a context leaves behind, returns, and makes of the context's phase. -/
structure Effect (w : Process) (op : Signals.Op) (c : ℕ) (out : ContextOutcome)
    (left : RmwContext) : Prop where
  context : out.context = some left
  kept : Kept left
  owned : Owned (Function.update w.contexts c left) out.impls
  ret : ∀ made, call op = some made → out.ret = (answer (phase (w.contexts c)) made).1
  phase : phase left = run step (phase (w.contexts c)) (call op).toList

theorem outcome_effect (hw : Sound w) (htarget : target op = some c) :
    ∃ out left, outcome w op = some out ∧ Signals.exec w op = w.withContext c out ∧
      Effect w op c out left := by
  have hstays : Owned (Function.update w.contexts c (w.contexts c)) w.impls := hw.owned.keep rfl
  cases op with
  | init env options c' =>
    cases htarget
    refine ⟨rmwInit env w.impls options (some (w.contexts c)), ?_⟩
    rcases rmwInit_cases (hw.kept c) env w.impls options with
      ⟨hcall, hcontext, himpls⟩ | ⟨hzero, hcall, hret, x, left, himpls, hcontext, hid, himpl⟩ |
        ⟨hzero, hcall, hret, himpls, left, hcontext, hid, himpl⟩ |
          ⟨hid, ⟨granted, hcall⟩, hret, hcontext, himpls⟩
    · refine ⟨_, rfl, rfl, hcontext, hw.kept c, by rwa [himpls], ?_, ?_⟩
      · intro made hmade
        rw [call, hcall] at hmade
        cases hmade
      · rw [call, hcall]
        rfl
    · have hfree : (w.contexts c).impl = none := by rw [hzero]; rfl
      refine ⟨left, rfl, rfl, hcontext, Or.inr hid, himpls ▸ hw.owned.acquire hfree x himpl, ?_, ?_⟩
      · intro made hmade
        rw [call, hcall, Option.some_inj] at hmade
        rw [hret, hzero, ← hmade]
        rfl
      · rw [call, hcall, phase_live himpl, hzero]
        rfl
    · have hsame : left.impl = (w.contexts c).impl := by rw [himpl, hzero]; rfl
      have howned := hw.owned.keep hsame
      refine ⟨left, rfl, rfl, hcontext, Or.inr hid, by rwa [himpls], ?_, ?_⟩
      · intro made hmade
        rw [call, hcall, Option.some_inj] at hmade
        rw [hret, hzero, ← hmade]
        rfl
      · rw [call, hcall, phase_ended himpl hid, hzero]
        rfl
    · refine ⟨_, rfl, rfl, hcontext, hw.kept c, by rwa [himpls], ?_, ?_⟩
      · intro made hmade
        rw [call, hcall, Option.some_inj] at hmade
        rw [hret, ← hmade]
        cases himpl : (w.contexts c).impl with
        | none => rw [phase_ended himpl hid]; rfl
        | some ptr => rw [phase_live himpl]; rfl
      · rw [call, hcall]
        cases himpl : (w.contexts c).impl with
        | none => rw [phase_ended himpl hid]; rfl
        | some ptr => rw [phase_live himpl]; rfl
  | shutdown c' =>
    cases htarget
    refine ⟨rmwShutdown w.impls (some (w.contexts c)), ?_⟩
    rcases rmwShutdown_cases (hw.kept c) w.impls with
      ⟨hzero, hret, hcontext, himpls⟩ | ⟨hid, himpl, hret, hcontext, himpls⟩ |
        ⟨hid, ptr, himpl, hret, hcontext, himpls⟩
    · refine ⟨_, rfl, rfl, hcontext, hw.kept c, by rwa [himpls], ?_, ?_⟩
      · rintro made ⟨⟩
        rw [hret, hzero]
        rfl
      · rw [hzero]
        rfl
    · refine ⟨_, rfl, rfl, hcontext, hw.kept c, by rwa [himpls], ?_, ?_⟩
      · rintro made ⟨⟩
        rw [hret, phase_ended himpl hid]
        rfl
      · rw [phase_ended himpl hid]
        rfl
    · refine ⟨_, rfl, rfl, hcontext, Or.inr hid, himpls ▸ hw.owned.release himpl rfl, ?_, ?_⟩
      · rintro made ⟨⟩
        rw [hret, phase_live himpl]
        rfl
      · rw [phase_live himpl]
        exact phase_ended rfl hid
  | fini c' =>
    cases htarget
    refine ⟨rmwContextFini w.impls (some (w.contexts c)), ?_⟩
    rcases rmwContextFini_cases (hw.kept c) w.impls with
      ⟨hzero, hret, hcontext, himpls⟩ | ⟨hid, himpl, hret, hcontext, himpls⟩ |
        ⟨hid, ⟨ptr, himpl⟩, hret, hcontext, himpls⟩
    · refine ⟨_, rfl, rfl, hcontext, hw.kept c, by rwa [himpls], ?_, ?_⟩
      · rintro made ⟨⟩
        rw [hret, hzero]
        rfl
      · rw [hzero]
        rfl
    · have hsame : zeroContext.impl = (w.contexts c).impl := himpl.symm
      have howned := hw.owned.keep hsame
      refine ⟨_, rfl, rfl, hcontext, Or.inl rfl, by rwa [himpls], ?_, ?_⟩
      · rintro made ⟨⟩
        rw [hret, phase_ended himpl hid]
        rfl
      · rw [phase_ended himpl hid]
        rfl
    · refine ⟨_, rfl, rfl, hcontext, hw.kept c, by rwa [himpls], ?_, ?_⟩
      · rintro made ⟨⟩
        rw [hret, phase_live himpl]
        rfl
      · rw [phase_live himpl]
        rfl
  | createGuardCondition env c' => cases htarget
  | createNode env c' name ns => cases htarget
  | destroyGuardCondition address => cases htarget
  | destroyNode address => cases htarget

/-- The other operations leave the contexts alone, and destroy no implementation. -/
theorem exec_untargeted (w : Process) (htarget : target op = none) :
    (Signals.exec w op).contexts = w.contexts ∧
      ∀ ptr, Alive (Signals.exec w op).impls ptr ↔ Alive w.impls ptr := by
  cases op with
  | init env options c => cases htarget
  | shutdown c => cases htarget
  | fini c => cases htarget
  | createGuardCondition env c =>
    simp only [Signals.exec]
    split
    · exact ⟨rfl, fun _ ↦ Iff.rfl⟩
    · rename_i hcreate
      exact ⟨rfl, rmwCreateGuardCondition_alive hcreate⟩
    · rename_i hcreate
      exact ⟨rfl, rmwCreateGuardCondition_alive hcreate⟩
  | createNode env c name ns =>
    simp only [Signals.exec]
    split
    · exact ⟨rfl, fun _ ↦ Iff.rfl⟩
    · rename_i hcreate
      exact ⟨rfl, rmwCreateNode_alive hcreate⟩
    · rename_i hcreate
      exact ⟨rfl, rmwCreateNode_alive hcreate⟩
  | destroyGuardCondition address => exact ⟨rfl, fun _ ↦ Iff.rfl⟩
  | destroyNode address => exact ⟨rfl, fun _ ↦ Iff.rfl⟩

theorem exec_sound (w : Process) (op : Signals.Op) (hw : Sound w) : Sound (Signals.exec w op) := by
  cases htarget : target op with
  | none =>
    obtain ⟨hcontexts, halive⟩ := exec_untargeted w htarget
    exact ⟨hcontexts ▸ hw.kept, (hcontexts ▸ hw.owned).congr halive⟩
  | some c =>
    obtain ⟨out, left, -, hexec, heffect⟩ := outcome_effect hw htarget
    rw [hexec, Process.withContext, heffect.context]
    refine ⟨fun c' ↦ ?_, heffect.owned⟩
    by_cases hsame : c' = c
    · simp only [hsame, Option.getD_some, Function.update_self]
      exact heffect.kept
    · simp only [Function.update_of_ne hsame]
      exact hw.kept c'

theorem exec_phase (c : ℕ) (w : Process) (op : Signals.Op) (hw : Sound w) :
    phase ((Signals.exec w op).contexts c) =
      run step (phase (w.contexts c)) (callOn c op).toList := by
  by_cases htarget : target op = some c
  · obtain ⟨out, left, -, hexec, heffect⟩ := outcome_effect hw htarget
    rw [hexec, Process.withContext, heffect.context, callOn, if_pos htarget]
    simp only [Option.getD_some, Function.update_self]
    exact heffect.phase
  · have hkept : (Signals.exec w op).contexts c = w.contexts c := by
      cases hother : target op with
      | none => rw [(exec_untargeted w hother).1]
      | some c' =>
        obtain ⟨out, left, -, hexec, -⟩ := outcome_effect hw hother
        rw [hexec, Process.withContext]
        refine Function.update_of_ne (fun hsame ↦ htarget ?_) _ _
        rw [hother, hsame]
    rw [hkept, callOn, if_neg htarget]
    rfl

/-- Each context follows its own lifecycle, whatever happens to the others. -/
theorem refines (c : ℕ) : Refines Signals.exec step (fun _ _ ↦ True) Sound
    (fun w ↦ phase (w.contexts c)) (fun _ ↦ callOn c) where
  inv_exec w op hw _ := exec_sound w op hw
  view_exec w op hw _ := exec_phase c w op hw

/-- In every run, each context is in the phase that the calls on it lead to, calls on it return
what is due in that phase, and the implementations that live are those of the contexts in use,
one for each. -/
theorem contexts_follow_lifecycle (ops : List Signals.Op) :
    let w := run Signals.exec Process.initial ops
    (∀ c, phase (w.contexts c) = run step .zero (ops.filterMap (callOn c))) ∧
      (∀ c op made, callOn c op = some made → ∃ out, outcome w op = some out ∧
        out.ret = (answer (phase (w.contexts c)) made).1) ∧
      (∀ ptr, Alive w.impls ptr ↔ ∃ c, (w.contexts c).impl = some ptr) ∧
      ∀ c c' ptr, (w.contexts c).impl = some ptr → (w.contexts c').impl = some ptr → c = c' := by
  intro w
  have hadmissible : Admissible Signals.exec (fun _ _ ↦ True) Process.initial ops :=
    admissible_of_forall _ fun _ _ _ ↦ trivial
  have hw : Sound w := invariant (fun w op hw _ ↦ exec_sound w op hw) sound_initial hadmissible
  refine ⟨fun c ↦ ?_, fun c op made hmade ↦ ?_, hw.owned.alive_iff, hw.owned.unique⟩
  · rw [(refines c).view_run sound_initial hadmissible, trace_eq_filterMap]
    rfl
  · have htarget : target op = some c := by
      by_contra hother
      rw [callOn, if_neg hother] at hmade
      cases hmade
    rw [callOn, if_pos htarget] at hmade
    obtain ⟨out, left, hout, -, heffect⟩ := outcome_effect hw htarget
    exact ⟨out, hout, heffect.ret made hmade⟩

end RmwIceoryx2.System.Lifecycle
