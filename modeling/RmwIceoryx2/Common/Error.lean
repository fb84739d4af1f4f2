import Mathlib.Init

namespace RmwIceoryx2.Common

inductive RmwRet
  | ok | error | timeout | unsupported | badAlloc | invalidArgument | incorrectRmwImplementation
  deriving DecidableEq, Repr

inductive HandleError
  | invalidInstanceName | iceoryxHandleCreationFailure
  deriving DecidableEq, Repr

inductive ContextError
  | invariantViolation | handleCreationFailure
  deriving DecidableEq, Repr

inductive NodeError
  | invariantViolation | handleCreationFailure | graphGuardConditionCreationFailure
  deriving DecidableEq, Repr

inductive GuardConditionError
  | invariantViolation | serviceNameCreationFailure | serviceCreationFailure
  | notifierCreationFailure | notificationFailure
  deriving DecidableEq, Repr

inductive SampleRegistryError
  | invalidPayload
  deriving DecidableEq, Repr

inductive PublisherError
  | invariantViolation | serviceNameCreationFailure | serviceCreationFailure
  | publisherCreationFailure | notifierCreationFailure | loanFailure | sendFailure
  | notificationFailure | invalidPayload
  deriving DecidableEq, Repr

inductive SubscriberError
  | invariantViolation | serviceNameCreationFailure | serviceCreationFailure
  | subscriberCreationFailure | recvFailure | invalidPayload
  deriving DecidableEq, Repr

inductive WaitSetError
  | invariantViolation | waitsetCreationFailure | serviceNameCreationFailure
  | serviceCreationFailure | listenerCreationFailure | invalidWaitableType
  | invalidStorageIndex | attachmentFailure | listenerFailure | waitFailure
  deriving DecidableEq, Repr

/-- What a failing call hands to its caller: the error it returns and the messages it
chained into the error state, outermost first. -/
structure Failure (ε : Type) where
  error : ε
  chain : List String
  deriving DecidableEq, Repr

def Failure.wrap {ε ε' : Type} (error : ε') (msg : String) (f : Failure ε) : Failure ε' :=
  ⟨error, msg :: f.chain⟩

def rmwGetImplementationIdentifier : String := "rmw_iceoryx2_cxx"

section

variable {α ε : Type}

def ensureNotNull (argument : String) (returnValue : ε) (p : Option α) : Except (Failure ε) α :=
  match p with
  | none => .error ⟨returnValue, [argument ++ " argument is null"]⟩
  | some a => .ok a

/-- `RMW_IOX2_ENSURE_IMPLEMENTATION`: the checked expression goes into the message. The code
compares pointers; here `rmwGetImplementationIdentifier` stands for the pointer this library
returns, and any other text for a pointer that is not it, whatever it points to. -/
def ensureImplementation (expr : String) (returnValue : ε) (identifier : String) :
    Except (Failure ε) Unit :=
  if identifier ≠ rmwGetImplementationIdentifier then
    .error ⟨returnValue, [expr ++ " invalid for rmw_iceoryx2_cxx"]⟩
  else .ok ()

/-- The checks of a handle at the beginning of a call that destroys it. -/
def ensureHandle (argument : String) (identifier : Option String) :
    Except (Failure RmwRet) Unit := do
  let identifier ← ensureNotNull argument .invalidArgument identifier
  ensureImplementation (argument ++ "->implementation_identifier") .incorrectRmwImplementation
    identifier

/-- `RMW_IOX2_ENSURE_CAN_LOAN` fails without a message. -/
def ensureCanLoan (returnValue : ε) (canLoanMessages : Bool) : Except (Failure ε) Unit :=
  if canLoanMessages then .ok () else .error ⟨returnValue, []⟩

def ensureZeroInitialized {β : Type} (element : String) (returnValue : ε)
    (identifier : Option String) (impl : Option β) : Except (Failure ε) Unit :=
  if identifier.isSome || impl.isSome then
    .error ⟨returnValue, [element ++ " must be zero initialized"]⟩
  else .ok ()

def ensureNotZeroInitialized {β : Type} (element : String) (returnValue : ε)
    (identifier : Option String) (impl : Option β) : Except (Failure ε) Unit :=
  if identifier.isNone && impl.isNone then
    .error ⟨returnValue, [element ++ " must not be zero initialized"]⟩
  else .ok ()

def ensureInitialized (element : String) (returnValue : ε) (impl : Option α) :
    Except (Failure ε) α :=
  match impl with
  | none => .error ⟨returnValue, [element ++ " must be initialized"]⟩
  | some impl => .ok impl

def ensureNotInitialized (element : String) (returnValue : ε) (impl : Option α) :
    Except (Failure ε) Unit :=
  if impl.isSome then .error ⟨returnValue, [element ++ " must not be initialized"]⟩ else .ok ()

/-- `unsafe_cast`: only a null pointer is rejected. -/
def uncheckedCast (msg : String) (returnValue : ε) (p : Option α) : Except (Failure ε) α :=
  match p with
  | none => .error ⟨returnValue, [msg, "attempted to cast nullptr"]⟩
  | some a => .ok a

end

section Checks

variable {α β ε : Type}

theorem bind_eq_ok {x : Except ε α} {f : α → Except ε β} {b : β} :
    (x >>= f) = .ok b ↔ ∃ a, x = .ok a ∧ f a = .ok b := by
  cases x <;> simp [bind, Except.bind]

theorem bind_eq_error {x : Except ε α} {f : α → Except ε β} {e : ε} :
    (x >>= f) = .error e ↔ x = .error e ∨ ∃ a, x = .ok a ∧ f a = .error e := by
  cases x <;> simp [bind, Except.bind]

@[simp] theorem ensureNotNull_eq_ok {argument : String} {r : ε} {p : Option α} {a : α} :
    ensureNotNull argument r p = .ok a ↔ p = some a := by
  cases p <;> simp [ensureNotNull]

@[simp] theorem ensureNotNull_eq_error {argument : String} {r : ε} {p : Option α}
    {f : Failure ε} : ensureNotNull argument r p = .error f ↔
      p = none ∧ f = ⟨r, [argument ++ " argument is null"]⟩ := by
  cases p <;> simp [ensureNotNull, eq_comm]

@[simp] theorem ensureImplementation_eq_ok {expr identifier : String} {r : ε} {u : Unit} :
    ensureImplementation expr r identifier = .ok u ↔
      identifier = rmwGetImplementationIdentifier := by
  simp [ensureImplementation]

@[simp] theorem ensureImplementation_eq_error {expr identifier : String} {r : ε}
    {f : Failure ε} : ensureImplementation expr r identifier = .error f ↔
      identifier ≠ rmwGetImplementationIdentifier ∧
        f = ⟨r, [expr ++ " invalid for rmw_iceoryx2_cxx"]⟩ := by
  by_cases h : identifier = rmwGetImplementationIdentifier <;>
    simp [ensureImplementation, h, eq_comm]

@[simp] theorem ensureCanLoan_eq_ok {r : ε} {canLoanMessages : Bool} {u : Unit} :
    ensureCanLoan r canLoanMessages = .ok u ↔ canLoanMessages = true := by
  simp [ensureCanLoan]

@[simp] theorem ensureZeroInitialized_eq_ok {element : String} {r : ε} {identifier : Option String}
    {impl : Option α} {u : Unit} :
    ensureZeroInitialized element r identifier impl = .ok u ↔ identifier = none ∧ impl = none := by
  cases identifier <;> cases impl <;> simp [ensureZeroInitialized]

@[simp] theorem ensureNotZeroInitialized_eq_ok {element : String} {r : ε}
    {identifier : Option String} {impl : Option α} {u : Unit} :
    ensureNotZeroInitialized element r identifier impl = .ok u ↔
      identifier.isSome ∨ impl.isSome := by
  cases identifier <;> cases impl <;> simp [ensureNotZeroInitialized]

@[simp] theorem ensureNotInitialized_eq_ok {element : String} {r : ε} {impl : Option α} {u : Unit} :
    ensureNotInitialized element r impl = .ok u ↔ impl = none := by
  cases impl <;> simp [ensureNotInitialized]

@[simp] theorem ensureInitialized_eq_ok {element : String} {r : ε} {impl : Option α} {a : α} :
    ensureInitialized element r impl = .ok a ↔ impl = some a := by
  cases impl <;> simp [ensureInitialized]

@[simp] theorem uncheckedCast_eq_ok {msg : String} {r : ε} {p : Option α} {a : α} :
    uncheckedCast msg r p = .ok a ↔ p = some a := by
  cases p <;> simp [uncheckedCast]

@[simp] theorem uncheckedCast_eq_error {msg : String} {r : ε} {p : Option α} {f : Failure ε} :
    uncheckedCast msg r p = .error f ↔
      p = none ∧ f = ⟨r, [msg, "attempted to cast nullptr"]⟩ := by
  cases p <;> simp [uncheckedCast, eq_comm]

end Checks

end RmwIceoryx2.Common
