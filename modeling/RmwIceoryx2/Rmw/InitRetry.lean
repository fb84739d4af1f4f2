import RmwIceoryx2.Rmw.Context

namespace RmwIceoryx2.Rmw

open RmwIceoryx2.Common RmwIceoryx2.Runtime

/-- `rmw_context_t` together with the one field of its options that is written. -/
structure ContextWithEnclave where
  context : RmwContext
  enclave : Option String
  deriving DecidableEq, Repr

def zeroContextWithEnclave : ContextWithEnclave := ⟨zeroContext, none⟩

structure InitOutcome where
  ret : RmwRet
  impls : Impls
  context : Option ContextWithEnclave
  deriving DecidableEq, Repr

/-- `rmw_init` with the enclave. `duplicates` tells whether `rcutils_strdup` gets memory, which
is not looked at. -/
def rmwInitWithEnclave (env : InitAnswers) (duplicates : Bool) (impls : Impls)
    (rmwInitOptions : Option RmwInitOptions) (context : Option ContextWithEnclave) : InitOutcome :=
  let out := rmwInit env impls rmwInitOptions (context.map (·.context))
  match checkInit rmwInitOptions (context.map (·.context)) with
  | .error _ => ⟨out.ret, out.impls, context⟩
  | .ok (options, _) =>
    let enclave := if duplicates then options.enclave else none
    ⟨out.ret, out.impls, out.context.map (⟨·, enclave⟩)⟩

/-- What `rmw_init_options_init` makes, with any enclave and instance id. -/
def RmwInitOptions.Valid (options : RmwInitOptions) : Prop :=
  options.implementationIdentifier = some rmwGetImplementationIdentifier ∧ options.enclave.isSome

structure InitAnswers.Grants (env : InitAnswers) (options : RmwInitOptions) : Prop where
  allocateImpl : env.allocateImpl = true
  instanceName : env.handle.instanceName (Names.context (options.instanceId % 2 ^ 32)) = .ok ()
  localNode : env.handle.localNode (Names.context (options.instanceId % 2 ^ 32)) = .ok ()
  ipcNode : env.handle.ipcNode (Names.context (options.instanceId % 2 ^ 32)) = .ok ()

def LeavesReusable (env : InitAnswers) (duplicates : Bool) (impls : Impls)
    (rmwInitOptions : Option RmwInitOptions) : Prop :=
  let first := rmwInitWithEnclave env duplicates impls rmwInitOptions (some zeroContextWithEnclave)
  first.ret ≠ .ok → first.context = some zeroContextWithEnclave ∧
    ∀ env' duplicates' impls' (options' : RmwInitOptions), options'.Valid → env'.Grants options' →
      (rmwInitWithEnclave env' duplicates' impls' (some options') first.context).ret = .ok

variable {env : InitAnswers} {impls : Impls} {options : RmwInitOptions}

theorem iceoryx2Create_eq_ok {mw : HandleAnswers} {name : String} :
    Iceoryx2.create mw name = .ok () ↔
      mw.instanceName name = .ok () ∧ mw.localNode name = .ok () ∧ mw.ipcNode name = .ok () := by
  unfold Iceoryx2.create
  cases hname : mw.instanceName name with
  | error e => simp
  | ok u =>
    cases hlocal : mw.localNode name with
    | error e => simp
    | ok u =>
      cases hipc : mw.ipcNode name with
      | error e => simp
      | ok u => simp

theorem contextCreate_eq_ok {mw : HandleAnswers} {instanceId : ℕ} {impl : Context} :
    Context.create mw instanceId = .ok impl ↔
      Iceoryx2.create mw (Names.context (instanceId % 2 ^ 32)) = .ok () ∧
        impl = ⟨instanceId, 0⟩ := by
  unfold Context.create
  cases Iceoryx2.create mw (Names.context (instanceId % 2 ^ 32)) with
  | error f => simp
  | ok u => simp [eq_comm]

theorem rmwInit_ret {context : RmwContext} {rmwInitOptions : Option RmwInitOptions}
    (hcheck : checkInit rmwInitOptions (some context) = .ok (options, context)) :
    (rmwInit env impls rmwInitOptions (some context)).ret = .ok ↔ env.Grants options := by
  simp only [rmwInit, hcheck]
  cases halloc : env.allocateImpl with
  | false =>
    constructor
    · intro h
      cases h
    · intro h
      exact absurd h.allocateImpl (by simp [halloc])
  | true =>
    cases hcreate : Context.create env.handle options.instanceId with
    | error f =>
      constructor
      · intro h
        cases h
      · intro h
        have hok := contextCreate_eq_ok.mpr
          ⟨iceoryx2Create_eq_ok.mpr ⟨h.instanceName, h.localNode, h.ipcNode⟩, rfl⟩
        rw [hcreate] at hok
        cases hok
    | ok impl =>
      obtain ⟨hname, hlocal, hipc⟩ := iceoryx2Create_eq_ok.mp (contextCreate_eq_ok.mp hcreate).1
      exact ⟨fun _ ↦ ⟨halloc, hname, hlocal, hipc⟩, fun _ ↦ rfl⟩

theorem rmwInit_identifies (env : InitAnswers) (impls : Impls) {context : RmwContext}
    {rmwInitOptions : Option RmwInitOptions}
    (hcheck : checkInit rmwInitOptions (some context) = .ok (options, context)) :
    ∃ left, (rmwInit env impls rmwInitOptions (some context)).context = some left ∧
      left.implementationIdentifier = some rmwGetImplementationIdentifier := by
  simp only [rmwInit, hcheck]
  split
  · exact ⟨_, rfl, rfl⟩
  split
  · exact ⟨_, rfl, rfl⟩
  · exact ⟨_, rfl, rfl⟩

theorem checkInit_zero_eq_ok {rmwInitOptions : Option RmwInitOptions} :
    checkInit rmwInitOptions (some zeroContext) = .ok (options, zeroContext) ↔
      rmwInitOptions = some options ∧ options.Valid := by
  simp only [checkInit, bind_eq_ok, ensureNotNull_eq_ok, ensureNotZeroInitialized_eq_ok,
    ensureZeroInitialized_eq_ok, ensureNotInitialized_eq_ok, ensureImplementation_eq_ok,
    Option.some_inj, pure, Except.pure, Except.ok.injEq, Prod.mk.injEq]
  constructor
  · intro h
    obtain ⟨given, rfl, enclave, henclave, _, hid, _, -, _, -, _, -, _, hours, rfl, -⟩ := h
    refine ⟨rfl, ?_, by simp [henclave]⟩
    cases hgiven : given.implementationIdentifier with
    | none => simp [hgiven, rmwGetImplementationIdentifier] at hours
    | some identifier => simpa [hgiven] using hours
  · intro h
    obtain ⟨rfl, hid, henclave⟩ := h
    obtain ⟨enclave, henclave⟩ := Option.isSome_iff_exists.mp henclave
    exact ⟨options, rfl, enclave, henclave, (), by simp [hid], zeroContext, rfl, (),
      by simp [zeroContext], (), rfl, (), by simp [hid], rfl, rfl⟩

theorem checkInit_refuses {left : RmwContext} (hleft : left.implementationIdentifier.isSome)
    (hvalid : options.Valid) : checkInit (some options) (some left) =
      .error ⟨.invalidArgument, ["context must be zero initialized"]⟩ := by
  obtain ⟨hid, henclave⟩ := hvalid
  obtain ⟨enclave, henclave⟩ := Option.isSome_iff_exists.mp henclave
  simp [checkInit, henclave, hid, hleft, ensureNotNull, ensureNotZeroInitialized,
    ensureZeroInitialized, bind, Except.bind]

variable {duplicates : Bool}

theorem rmwInitWithEnclave_rejected {rmwInitOptions : Option RmwInitOptions}
    (context : ContextWithEnclave) {f : Failure RmwRet}
    (h : checkInit rmwInitOptions (some context.context) = .error f) :
    rmwInitWithEnclave env duplicates impls rmwInitOptions (some context) =
      ⟨f.error, impls, some context⟩ := by
  simp [rmwInitWithEnclave, rmwInit, h]

theorem rmwInitWithEnclave_ret {context : ContextWithEnclave}
    {rmwInitOptions : Option RmwInitOptions} :
    (rmwInitWithEnclave env duplicates impls rmwInitOptions (some context)).ret =
      (rmwInit env impls rmwInitOptions (some context.context)).ret := by
  simp only [rmwInitWithEnclave, Option.map_some]
  split
  · rfl
  · rfl

theorem init_zero_ret (hvalid : options.Valid) :
    (rmwInitWithEnclave env duplicates impls (some options) (some zeroContextWithEnclave)).ret =
      .ok ↔ env.Grants options := by
  rw [rmwInitWithEnclave_ret]
  exact rmwInit_ret (checkInit_zero_eq_ok.mpr ⟨rfl, hvalid⟩)

theorem init_identifies (env : InitAnswers) (duplicates : Bool) (impls : Impls)
    {rmwInitOptions : Option RmwInitOptions}
    (hcheck : checkInit rmwInitOptions (some zeroContext) = .ok (options, zeroContext)) :
    ∃ left, (rmwInitWithEnclave env duplicates impls rmwInitOptions
        (some zeroContextWithEnclave)).context = some left ∧
      left.context.implementationIdentifier = some rmwGetImplementationIdentifier := by
  obtain ⟨left, hleft, hid⟩ := rmwInit_identifies env impls hcheck
  refine ⟨⟨left, if duplicates then options.enclave else none⟩, ?_, hid⟩
  simp only [rmwInitWithEnclave, zeroContextWithEnclave, Option.map_some, hcheck, hleft]

theorem failed_init_reusable_iff (env : InitAnswers) (duplicates : Bool) (impls : Impls)
    (rmwInitOptions : Option RmwInitOptions) :
    LeavesReusable env duplicates impls rmwInitOptions ↔
      ∀ options, rmwInitOptions = some options → options.Valid → env.Grants options := by
  constructor
  · rintro h options rfl hvalid
    by_contra hgrants
    obtain ⟨left, hleft, hid⟩ :=
      init_identifies env duplicates impls (checkInit_zero_eq_ok.mpr ⟨rfl, hvalid⟩)
    have hzero := (h (mt (init_zero_ret hvalid).mp hgrants)).1
    rw [hleft, Option.some_inj] at hzero
    subst hzero
    cases hid
  · intro h hfailed
    have hkept : (rmwInitWithEnclave env duplicates impls rmwInitOptions
        (some zeroContextWithEnclave)).context = some zeroContextWithEnclave := by
      cases hcheck : checkInit rmwInitOptions (some zeroContext) with
      | error f => rw [rmwInitWithEnclave_rejected zeroContextWithEnclave hcheck]
      | ok checked =>
        obtain ⟨options, context⟩ := checked
        obtain rfl : context = zeroContext := checkInit_ok hcheck
        obtain ⟨rfl, hvalid⟩ := checkInit_zero_eq_ok.mp hcheck
        exact absurd ((init_zero_ret hvalid).mpr (h options rfl hvalid)) hfailed
    refine ⟨hkept, fun env' duplicates' impls' options' hvalid hgrants ↦ ?_⟩
    rw [hkept]
    exact (init_zero_ret hvalid).mpr hgrants

/-- A failure behind the checks makes the context useless: whatever is tried with it, it is refused
and stays as it is. -/
theorem late_failure_is_final {given options : RmwInitOptions} (hgiven : given.Valid)
    (env env' : InitAnswers) (duplicates duplicates' : Bool) (impls impls' : Impls)
    (hvalid : options.Valid) :
    let left := (rmwInitWithEnclave env duplicates impls (some given)
      (some zeroContextWithEnclave)).context
    rmwInitWithEnclave env' duplicates' impls' (some options) left =
      ⟨.invalidArgument, impls', left⟩ := by
  intro left
  obtain ⟨found, hfound, hid⟩ :=
    init_identifies env duplicates impls (checkInit_zero_eq_ok.mpr ⟨rfl, hgiven⟩)
  have hleft : left = some found := hfound
  have hmarked : found.context.implementationIdentifier.isSome := by simp [hid]
  rw [hleft]
  exact rmwInitWithEnclave_rejected found (checkInit_refuses hmarked hvalid)

def optionsOfTest : RmwInitOptions := ⟨1, some rmwGetImplementationIdentifier, some "/", some ()⟩

def ipcFails : InitAnswers :=
  ⟨true, { HandleAnswers.granting with ipcNode := fun _ ↦ .error "InternalError" }⟩

theorem failed_init_marks_context :
    let first := rmwInitWithEnclave ipcFails true [] (some optionsOfTest)
      (some zeroContextWithEnclave)
    first.ret = .error ∧
      first.context = some ⟨⟨1, some rmwGetImplementationIdentifier, none⟩, some "/"⟩ ∧
        (rmwInitWithEnclave .granting true [] (some optionsOfTest) first.context).ret =
          .invalidArgument ∧ ¬ LeavesReusable ipcFails true [] (some optionsOfTest) := by
  intro first
  refine ⟨rfl, rfl, rfl, fun h ↦ ?_⟩
  have hgrants := (failed_init_reusable_iff ipcFails true [] (some optionsOfTest)).mp h
    optionsOfTest rfl ⟨rfl, rfl⟩
  cases hgrants.ipcNode

end RmwIceoryx2.Rmw
