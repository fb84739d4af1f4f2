import RmwIceoryx2.Runtime.Context
import RmwIceoryx2.Runtime.WaitSet

namespace RmwIceoryx2.Rmw

open RmwIceoryx2.Common RmwIceoryx2.Runtime

abbrev ImplPtr := ℕ

/-- The implementations of contexts that were constructed; `none` is left of one that was
destroyed. -/
abbrev Impls := List (Option Context)

inductive Stale
  | destroyed
  deriving DecidableEq, Repr

def deref (impls : Impls) (ptr : ImplPtr) : Except Stale Context :=
  match impls[ptr]? with
  | some (some c) => .ok c
  | _ => .error .destroyed

/-- `rmw_context_t`; a null pointer is `none`. -/
structure RmwContext where
  instanceId : ℕ
  implementationIdentifier : Option String
  impl : Option ImplPtr
  deriving DecidableEq, Repr

def zeroContext : RmwContext := ⟨0, none, none⟩

/-- `rmw_init_options_t`; `impl` only tells that the options are initialised. -/
structure RmwInitOptions where
  instanceId : ℕ
  implementationIdentifier : Option String
  enclave : Option String
  impl : Option Unit
  deriving DecidableEq, Repr

structure InitAnswers where
  allocateImpl : Bool
  handle : HandleAnswers

def InitAnswers.granting : InitAnswers := ⟨true, .granting⟩

structure ContextOutcome where
  ret : RmwRet
  chain : List String
  impls : Impls
  context : Option RmwContext
  deriving DecidableEq, Repr

def checkInit (rmwInitOptions : Option RmwInitOptions) (context : Option RmwContext) :
    Except (Failure RmwRet) (RmwInitOptions × RmwContext) := do
  let options ← ensureNotNull "rmw_init_options" .invalidArgument rmwInitOptions
  let _ ← ensureNotNull "rmw_init_options->enclave" .invalidArgument options.enclave
  ensureNotZeroInitialized "rmw_init_options" .invalidArgument options.implementationIdentifier
    options.impl
  let context ← ensureNotNull "context" .invalidArgument context
  ensureZeroInitialized "context" .invalidArgument context.implementationIdentifier context.impl
  ensureNotInitialized "context" .invalidArgument context.impl
  ensureImplementation "rmw_init_options->implementation_identifier" .incorrectRmwImplementation
    (options.implementationIdentifier.getD "")
  return (options, context)

def rmwInit (env : InitAnswers) (impls : Impls) (rmwInitOptions : Option RmwInitOptions)
    (context : Option RmwContext) : ContextOutcome :=
  match checkInit rmwInitOptions context with
  | .error f => ⟨f.error, f.chain, impls, context⟩
  | .ok (options, context) =>
    let context := { context with
      instanceId := options.instanceId
      implementationIdentifier := some rmwGetImplementationIdentifier }
    if !env.allocateImpl then
      ⟨.error, ["failed to allocate memory for rmw_context_impl_s", "failed to allocate"], impls,
        some context⟩
    else
      match Context.create env.handle context.instanceId with
      | .error f => ⟨.error, "failed to construct rmw_context_impl_s" :: f.chain, impls,
          some context⟩
      | .ok impl => ⟨.ok, [], impls ++ [some impl], some { context with impl := some impls.length }⟩

def checkInitialised (rmwContext : Option RmwContext) : Except (Failure RmwRet) RmwContext := do
  let context ← ensureNotNull "rmw_context" .invalidArgument rmwContext
  ensureNotZeroInitialized "rmw_context" .invalidArgument context.implementationIdentifier
    context.impl
  ensureImplementation "rmw_context->implementation_identifier" .incorrectRmwImplementation
    (context.implementationIdentifier.getD "")
  return context

def rmwShutdown (impls : Impls) (rmwContext : Option RmwContext) : ContextOutcome :=
  match checkInitialised rmwContext with
  | .error f => ⟨f.error, f.chain, impls, rmwContext⟩
  | .ok context =>
    match context.impl with
    | none => ⟨.ok, [], impls, rmwContext⟩
    | some impl => ⟨.ok, [], impls.set impl none, some { context with impl := none }⟩

def rmwContextFini (impls : Impls) (rmwContext : Option RmwContext) : ContextOutcome :=
  match checkInitialised rmwContext with
  | .error f => ⟨f.error, f.chain, impls, rmwContext⟩
  | .ok context =>
    match ensureNotInitialized "rmw_context" .invalidArgument context.impl with
    | .error f => ⟨f.error, f.chain, impls, rmwContext⟩
    | .ok () => ⟨.ok, [], impls, some zeroContext⟩

/-- What the surroundings answer while a guard condition is created: the address of the handle, if
there is memory for it, and whether there is memory for the rest. -/
structure GuardConditionEnv where
  allocateHandle : Option ℕ
  allocateImpl : Bool
  mw : GuardConditionAnswers

/-- The checks of `rmw_create_guard_condition`, where a failure returns the null pointer. -/
def checkCreateGuardCondition (rmwContext : Option RmwContext) : Except (Failure Unit) ImplPtr := do
  let context ← ensureNotNull "rmw_context" () rmwContext
  ensureImplementation "rmw_context->implementation_identifier" ()
    (context.implementationIdentifier.getD "")
  ensureNotNull "rmw_context->impl" () context.impl

def rmwCreateGuardCondition (env : GuardConditionEnv) (impls : Impls)
    (rmwContext : Option RmwContext) :
    Except Stale (Impls × Except (Failure Unit) (ℕ × GuardCondition)) :=
  match checkCreateGuardCondition rmwContext with
  | .error f => .ok (impls, .error f)
  | .ok impl =>
    match env.allocateHandle with
    | none => .ok (impls, .error ⟨(), ["failed to allocate memory for rmw_guard_condition_t"]⟩)
    | some handle =>
      if !env.allocateImpl then .ok (impls, .error
        ⟨(), ["failed to allocate memory for GuardCondition", "failed to allocate"]⟩)
      else
        match deref impls impl with
        | .error stale => .error stale
        | .ok context =>
          match GuardCondition.create env.mw context with
          | (context, .error f) => .ok (impls.set impl (some context),
              .error (f.wrap () "failed to construct GuardCondition"))
          | (context, .ok guardCondition) =>
            .ok (impls.set impl (some context), .ok (handle, guardCondition))

/-- The validations give no result if they fail, else the reason why the text is invalid, if it
is. -/
structure NodeEnv where
  validateNodeName : String → Option (Option String)
  validateNamespace : String → Option (Option String)
  allocateHandle : Option ℕ
  allocateName : Bool
  allocateNamespace : Bool
  allocateImpl : Bool
  handle : HandleAnswers
  mw : GuardConditionAnswers

/-- `RMW_IOX2_ENSURE_VALID_NODE_NAME` and `RMW_IOX2_ENSURE_VALID_NAMESPACE` -/
def ensureValid {ε : Type} (validate : String → Option (Option String)) (msg : String)
    (returnValue : ε) (text : String) : Except (Failure ε) Unit :=
  match validate text with
  | none => .error ⟨returnValue, []⟩
  | some none => .ok ()
  | some (some reason) => .error ⟨returnValue, [msg ++ reason]⟩

def checkCreateNode (env : NodeEnv) (rmwContext : Option RmwContext) (name ns : Option String) :
    Except (Failure Unit) (ImplPtr × String × String) := do
  let context ← ensureNotNull "rmw_context" () rmwContext
  let name ← ensureNotNull "name" () name
  ensureValid env.validateNodeName "invalid node name: " () name
  let ns ← ensureNotNull "namespace_" () ns
  ensureValid env.validateNamespace "invalid node namespace: " () ns
  let impl ← ensureInitialized "rmw_context" () context.impl
  ensureImplementation "rmw_context->implementation_identifier" ()
    (context.implementationIdentifier.getD "")
  return (impl, name, ns)

/-- The memory for the handle, the two texts and the implementation is allocated in this order. -/
def allocateNode (env : NodeEnv) : Except (Failure Unit) ℕ :=
  match env.allocateHandle with
  | none => .error ⟨(), ["failed to allocate memory for node handle"]⟩
  | some handle =>
    if !env.allocateName then
      .error ⟨(), ["failed to allocate memory for node name", "failed to allocate"]⟩
    else if !env.allocateNamespace then
      .error ⟨(), ["failed to allocate memory for node namespace", "failed to allocate"]⟩
    else if !env.allocateImpl then
      .error ⟨(), ["failed to allocate memory for Node", "failed to allocate"]⟩
    else .ok handle

def rmwCreateNode (env : NodeEnv) (impls : Impls) (rmwContext : Option RmwContext)
    (name ns : Option String) : Except Stale (Impls × Except (Failure Unit) (ℕ × Node)) :=
  match checkCreateNode env rmwContext name ns with
  | .error f => .ok (impls, .error f)
  | .ok (impl, name, ns) =>
    match allocateNode env with
    | .error f => .ok (impls, .error f)
    | .ok handle =>
      match deref impls impl with
      | .error stale => .error stale
      | .ok context =>
        match Node.create env.handle env.mw context name ns with
        | (context, .error f) => .ok (impls.set impl (some context),
            .error (f.wrap () "failed to construct Node"))
        | (context, .ok node) => .ok (impls.set impl (some context), .ok (handle, node))

def rmwDestroyGuardCondition (rmwGuardCondition : Option String) : Except (Failure RmwRet) Unit :=
  ensureHandle "rmw_guard_condition" rmwGuardCondition

structure WaitSetEnv where
  allocateHandle : Bool
  allocateImpl : Bool
  waitset : Except String Unit

def checkCreateWaitSet (rmwContext : Option RmwContext) : Except (Failure Unit) ImplPtr := do
  let context ← ensureNotNull "rmw_context" () rmwContext
  let impl ← ensureNotNull "rmw_context->impl" () context.impl
  ensureImplementation "rmw_context->implementation_identifier" ()
    (context.implementationIdentifier.getD "")
  return impl

/-- A wait set refers to the implementation of its context from its construction on. -/
def rmwCreateWaitSet (env : WaitSetEnv) (impls : Impls) (rmwContext : Option RmwContext) :
    Except Stale (Except (Failure Unit) (WaitSet × ImplPtr)) :=
  match checkCreateWaitSet rmwContext with
  | .error f => .ok (.error f)
  | .ok impl =>
    if !env.allocateHandle then
      .ok (.error ⟨(), ["failed to allocate memory for waitset handle"]⟩)
    else if !env.allocateImpl then
      .ok (.error ⟨(), ["failed to allocate memory for WaitSet", "failed to allocate"]⟩)
    else
      match deref impls impl with
      | .error stale => .error stale
      | .ok _ =>
        match env.waitset with
        | .error e => .ok (.error ⟨(), ["failed to construct WaitSet", e]⟩)
        | .ok () => .ok (.ok (.empty, impl))

variable {impls impls' : Impls} {rmwContext : Option RmwContext}

theorem deref_ok {ptr : ImplPtr} {c : Context} :
    deref impls ptr = .ok c ↔ impls[ptr]? = some (some c) := by
  simp only [deref]
  split
  · rename_i c' h
    simp [h]
  · rename_i hne
    constructor
    · intro h
      cases h
    · intro h
      exact absurd h (hne c)

def implOf (impls : Impls) (rmwContext : RmwContext) : Option Context :=
  rmwContext.impl.bind fun ptr ↦ (impls[ptr]?).join

theorem implOf_eq_some {context : RmwContext} {c : Context} :
    implOf impls context = some c ↔ ∃ ptr, context.impl = some ptr ∧ deref impls ptr = .ok c := by
  simp only [implOf, deref_ok, Option.bind_eq_some_iff, Option.join_eq_some_iff]

/-- The implementation of the context, if it has one, was not destroyed. -/
def Lives (impls : Impls) (context : RmwContext) : Prop :=
  ∀ ptr, context.impl = some ptr → ∃ c, deref impls ptr = .ok c

theorem lives_set {context : RmwContext} (h : Lives impls context) (ptr : ImplPtr) (c : Context) :
    Lives (impls.set ptr (some c)) context := by
  intro ptr' hptr'
  obtain ⟨c', hc'⟩ := h ptr' hptr'
  rw [deref_ok] at hc'
  by_cases hsame : ptr = ptr'
  · subst hsame
    have hlt : ptr < impls.length := (List.getElem?_eq_some_iff.mp hc').1
    exact ⟨c, deref_ok.mpr (List.getElem?_set_self hlt)⟩
  · exact ⟨c', deref_ok.mpr ((List.getElem?_set_ne hsame).trans hc')⟩

/-- What a call on a context leaves of it has no implementation that was destroyed. -/
def ContextOutcome.Keeps (out : ContextOutcome) : Prop :=
  ∃ context, out.context = some context ∧ Lives out.impls context

theorem checkInit_ok {options : Option RmwInitOptions} {context : RmwContext}
    {checked : RmwInitOptions × RmwContext}
    (h : checkInit options (some context) = .ok checked) : checked.2 = context := by
  simp only [checkInit, bind_eq_ok, ensureNotNull_eq_ok, Option.some_inj, pure, Except.pure,
    Except.ok.injEq] at h
  obtain ⟨_, -, _, -, _, -, _, rfl, _, -, _, -, _, -, rfl⟩ := h
  rfl

theorem checkInit_uninitialised {options : Option RmwInitOptions} {context : RmwContext}
    {checked : RmwInitOptions × RmwContext}
    (h : checkInit options (some context) = .ok checked) : context.implementationIdentifier = none ∧
      context.impl = none := by
  simp only [checkInit, bind_eq_ok, ensureNotNull_eq_ok, Option.some_inj,
    ensureZeroInitialized_eq_ok] at h
  obtain ⟨_, -, _, -, _, -, _, rfl, _, hzero, -⟩ := h
  exact hzero

theorem checkInitialised_ok {context context' : RmwContext}
    (h : checkInitialised (some context) = .ok context') : context' = context := by
  simp only [checkInitialised, bind_eq_ok, ensureNotNull_eq_ok, Option.some_inj, pure, Except.pure,
    Except.ok.injEq] at h
  obtain ⟨_, rfl, _, -, _, -, rfl⟩ := h
  rfl

theorem rmwInit_keeps {context : RmwContext} (h : Lives impls context) (env : InitAnswers)
    (options : Option RmwInitOptions) : (rmwInit env impls options (some context)).Keeps := by
  simp only [rmwInit]
  split
  · exact ⟨context, rfl, h⟩
  rename_i options' context' hcheck
  obtain rfl : context' = context := checkInit_ok hcheck
  split
  · exact ⟨_, rfl, h⟩
  split
  · exact ⟨_, rfl, h⟩
  rename_i impl _
  refine ⟨_, rfl, fun ptr hptr ↦ ?_⟩
  obtain rfl := Option.some_inj.mp hptr
  exact ⟨impl, deref_ok.mpr List.getElem?_concat_length⟩

theorem rmwShutdown_keeps {context : RmwContext} (h : Lives impls context) :
    (rmwShutdown impls (some context)).Keeps := by
  simp only [rmwShutdown]
  split
  · exact ⟨context, rfl, h⟩
  split
  · exact ⟨context, rfl, h⟩
  · exact ⟨_, rfl, fun ptr hptr ↦ by cases hptr⟩

theorem rmwContextFini_keeps {context : RmwContext} (h : Lives impls context) :
    (rmwContextFini impls (some context)).Keeps := by
  simp only [rmwContextFini]
  split
  · exact ⟨context, rfl, h⟩
  split
  · exact ⟨context, rfl, h⟩
  · exact ⟨zeroContext, rfl, fun ptr hptr ↦ by cases hptr⟩

theorem checkCreateGuardCondition_ok {context : RmwContext} {impl : ImplPtr}
    (h : checkCreateGuardCondition (some context) = .ok impl) : context.impl = some impl := by
  simp only [checkCreateGuardCondition, bind_eq_ok, ensureNotNull_eq_ok, Option.some_inj] at h
  obtain ⟨_, rfl, _, -, himpl⟩ := h
  exact himpl

theorem checkCreateNode_ok {env : NodeEnv} {context : RmwContext} {name ns : Option String}
    {checked : ImplPtr × String × String}
    (h : checkCreateNode env (some context) name ns = .ok checked) :
    context.impl = some checked.1 := by
  simp only [checkCreateNode, bind_eq_ok, ensureNotNull_eq_ok, ensureInitialized_eq_ok,
    Option.some_inj, pure, Except.pure, Except.ok.injEq] at h
  obtain ⟨_, rfl, _, -, _, -, _, -, _, -, _, himpl, _, -, rfl⟩ := h
  exact himpl

theorem checkCreateWaitSet_ok {context : RmwContext} {impl : ImplPtr}
    (h : checkCreateWaitSet (some context) = .ok impl) : context.impl = some impl := by
  simp only [checkCreateWaitSet, bind_eq_ok, ensureNotNull_eq_ok, Option.some_inj, pure,
    Except.pure, Except.ok.injEq] at h
  obtain ⟨_, rfl, _, himpl, _, -, rfl⟩ := h
  exact himpl

theorem rmwCreateGuardCondition_ok {env : GuardConditionEnv} {context : RmwContext}
    {created : ℕ × GuardCondition}
    (h : rmwCreateGuardCondition env impls (some context) = .ok (impls', .ok created)) :
    ∃ c, implOf impls context = some c ∧ created.2.serviceName =
      Names.guardCondition (c.instanceId % 2 ^ 32) (c.guardConditionCounter % 2 ^ 32) := by
  simp only [rmwCreateGuardCondition] at h
  split at h
  · cases h
  rename_i impl hcheck
  split at h
  · cases h
  split at h
  · cases h
  split at h
  · cases h
  rename_i c hderef
  split at h
  · cases h
  rename_i guardCondition hcreate
  cases h
  exact ⟨c, implOf_eq_some.mpr ⟨impl, checkCreateGuardCondition_ok hcheck, hderef⟩,
    (GuardCondition.create_ok hcreate).2⟩

theorem rmwCreateNode_ok {env : NodeEnv} {context : RmwContext} {name ns : Option String}
    {created : ℕ × Node}
    (h : rmwCreateNode env impls (some context) name ns = .ok (impls', .ok created)) :
    ∃ c, implOf impls context = some c ∧ created.2.graphGuardCondition.serviceName =
      Names.guardCondition (c.instanceId % 2 ^ 32) (c.guardConditionCounter % 2 ^ 32) := by
  simp only [rmwCreateNode] at h
  split at h
  · cases h
  rename_i impl name' ns' hcheck
  split at h
  · cases h
  split at h
  · cases h
  rename_i c hderef
  split at h
  · cases h
  rename_i node hcreate
  cases h
  exact ⟨c, implOf_eq_some.mpr ⟨impl, checkCreateNode_ok hcheck, hderef⟩,
    (Node.create_ok hcreate).2⟩

/-- The calls that create something reject a context without an implementation, and so never use
one that was destroyed. -/
theorem rmwCreateGuardCondition_lives {context : RmwContext} (h : Lives impls context)
    (env : GuardConditionEnv) : ∃ impls' r,
      rmwCreateGuardCondition env impls (some context) = .ok (impls', r) ∧ Lives impls' context := by
  simp only [rmwCreateGuardCondition]
  split
  · exact ⟨_, _, rfl, h⟩
  rename_i impl hcheck
  obtain ⟨c, hc⟩ := h impl (checkCreateGuardCondition_ok hcheck)
  simp only [hc]
  repeat' split
  all_goals first
    | exact ⟨_, _, rfl, h⟩
    | exact ⟨_, _, rfl, lives_set h _ _⟩

theorem rmwCreateNode_lives {context : RmwContext} (h : Lives impls context) (env : NodeEnv)
    (name ns : Option String) : ∃ impls' r,
      rmwCreateNode env impls (some context) name ns = .ok (impls', r) ∧ Lives impls' context := by
  simp only [rmwCreateNode]
  split
  · exact ⟨_, _, rfl, h⟩
  rename_i impl name' ns' hcheck
  obtain ⟨c, hc⟩ := h impl (checkCreateNode_ok hcheck)
  simp only [hc]
  repeat' split
  all_goals first
    | exact ⟨_, _, rfl, h⟩
    | exact ⟨_, _, rfl, lives_set h _ _⟩

theorem rmwCreateWaitSet_lives {context : RmwContext} (h : Lives impls context)
    (env : WaitSetEnv) : ∃ r, rmwCreateWaitSet env impls (some context) = .ok r := by
  simp only [rmwCreateWaitSet]
  split
  · exact ⟨_, rfl⟩
  rename_i impl hcheck
  obtain ⟨c, hc⟩ := h impl (checkCreateWaitSet_ok hcheck)
  simp only [hc]
  repeat' split
  all_goals exact ⟨_, rfl⟩

end RmwIceoryx2.Rmw
