import RmwIceoryx2.Runtime.Mapping

namespace RmwIceoryx2.Rmw

open RmwIceoryx2.Common RmwIceoryx2.Runtime RmwIceoryx2.Runtime.WaitSet

/-- What the wait set reads of an entity: the name of its service. -/
class HasServiceName (E : Type) where
  serviceName : E → String

export HasServiceName (serviceName)

instance : HasServiceName String := ⟨id⟩

/-- `rmw_wait_set_t`; `none` stands for a null `data` pointer. -/
structure RmwWaitSet where
  implementationIdentifier : String
  data : Option WaitSet
  deriving DecidableEq, Repr

structure RmwTime where
  sec : ℕ
  nsec : ℕ
  deriving DecidableEq, Repr

/-- The in-out arrays of one call. Each may be null as a whole and hold null pointers. -/
structure WaitArrays (S G : Type) where
  subscriptions : Option (List (Option S))
  guardConditions : Option (List (Option G))
  services : Option (List (Option ℕ))
  clients : Option (List (Option ℕ))
  events : Option (List (Option ℕ))
  deriving DecidableEq, Repr

structure WaitOutcome (S G : Type) where
  ret : RmwRet
  chain : List String
  waitSet : Option RmwWaitSet
  arrays : WaitArrays S G
  drained : List FileDescriptor
  deriving DecidableEq, Repr

variable {S G : Type}

def containsNull {E : Type} (entries : Option (List (Option E))) : Bool :=
  (entries.getD []).any Option.isNone

def checkWaitArguments (rmwWaitSet : Option RmwWaitSet) (a : WaitArrays S G) :
    Except (Failure RmwRet) RmwWaitSet :=
  match ensureNotNull "rmw_wait_set" RmwRet.invalidArgument rmwWaitSet with
  | .error f => .error f
  | .ok h =>
    match ensureImplementation "rmw_wait_set->implementation_identifier"
        .incorrectRmwImplementation h.implementationIdentifier with
    | .error f => .error f
    | .ok () =>
      if containsNull a.guardConditions then
        .error ⟨.invalidArgument, ["waitset input guard condition contains nullptr"]⟩
      else if containsNull a.subscriptions then
        .error ⟨.invalidArgument, ["waitset input subscriber contains nullptr"]⟩
      else .ok h

/-- The loop that maps one array. What was mapped before a failure stays mapped. -/
def mapEntries {E : Type} [HasServiceName E]
    (map : WaitSet → RmwIndex → String → Except (Failure WaitSetError) WaitSet)
    (castMsg mapMsg : String) : RmwIndex → List (Option E) → WaitSet →
      WaitSet × Except (Failure RmwRet) Unit
  | _, [], ws => (ws, .ok ())
  | index, e :: es, ws =>
    match uncheckedCast castMsg RmwRet.error e with
    | .error f => (ws, .error f)
    | .ok e =>
      match map ws index (serviceName e) with
      | .error f => (ws, .error (f.wrap .error mapMsg))
      | .ok ws => mapEntries map castMsg mapMsg (index + 1) es ws

variable [HasServiceName S] [HasServiceName G]

def mapArrays (mw : Middleware) (a : WaitArrays S G) (ws : WaitSet) :
    WaitSet × Except (Failure RmwRet) Unit :=
  match mapEntries (fun ws i n ↦ ws.mapGuardCondition mw i n) "failed to retrieve GuardCondition"
      "failed to attach GuardCondition to WaitSet" 0 (a.guardConditions.getD []) ws with
  | (ws, .error f) => (ws, .error f)
  | (ws, .ok ()) =>
    mapEntries (fun ws i n ↦ ws.mapSubscriber mw i n) "failed to retrieve Subscriber"
      "failed to attach Subscriber to WaitSet" 0 (a.subscriptions.getD []) ws

def triggeredIndices (ty : WaitableEntity) (triggers : List TriggeredWaitable) : List RmwIndex :=
  (triggers.filter (·.waitableType = ty)).map (·.rmwIndex)

def resetUntriggered {E : Type} (triggered : List RmwIndex) (entries : List (Option E)) :
    List (Option E) := entries.mapIdx fun index e ↦ if index ∈ triggered then e else none

def resetAll (entries : Option (List (Option ℕ))) : Option (List (Option ℕ)) :=
  entries.map (·.map fun _ ↦ none)

omit [HasServiceName S] [HasServiceName G] in
/-- Entries are reset only if something was triggered; what is not supported yet always is. -/
def resetArrays (triggers : List TriggeredWaitable) (a : WaitArrays S G) : WaitArrays S G where
  subscriptions := if triggers.isEmpty then a.subscriptions else
    a.subscriptions.map (resetUntriggered (triggeredIndices .subscriber triggers))
  guardConditions := if triggers.isEmpty then a.guardConditions else
    a.guardConditions.map (resetUntriggered (triggeredIndices .guardCondition triggers))
  services := resetAll a.services
  clients := resetAll a.clients
  events := resetAll a.events

/-- The second part of `rmw_wait`: wait, drop the mapping and report. An error of the wait
returns before the mapping is dropped. -/
def waitArrays (mw : Middleware) (h : RmwWaitSet) (a : WaitArrays S G) (ws : WaitSet)
    (timeout : Option Duration) : WaitOutcome S G :=
  let r := ws.wait mw timeout
  match r.result with
  | .error f =>
    ⟨.error, "waiting on waitset failed" :: f.chain, some { h with data := some r.waitSet }, a,
      r.drained⟩
  | .ok triggers =>
    ⟨if triggers.isEmpty then .timeout else .ok, [],
      some { h with data := some r.waitSet.unmapAll }, resetArrays triggers a, r.drained⟩

def timeoutOf (waitTimeout : Option RmwTime) : Option Duration :=
  waitTimeout.map fun t ↦ t.sec * 1000000000 + t.nsec

def rmwWait (mw : Middleware) (rmwWaitSet : Option RmwWaitSet) (a : WaitArrays S G)
    (waitTimeout : Option RmwTime) : WaitOutcome S G :=
  match checkWaitArguments rmwWaitSet a with
  | .error f => ⟨f.error, f.chain, rmwWaitSet, a, []⟩
  | .ok h =>
    match uncheckedCast "failed to retrieve WaitSet" RmwRet.error h.data with
    | .error f => ⟨f.error, f.chain, rmwWaitSet, a, []⟩
    | .ok ws =>
      match mapArrays mw a ws with
      | (ws, .error f) => ⟨f.error, f.chain, some { h with data := some ws }, a, []⟩
      | (ws, .ok ()) => waitArrays mw h a ws (timeoutOf waitTimeout)

def arrayEntries {E : Type} [HasServiceName E] (ty : WaitableEntity) :
    RmwIndex → List (Option E) → List Entry
  | _, [] => []
  | start, none :: es => arrayEntries ty (start + 1) es
  | start, some e :: es => ⟨ty, start, serviceName e⟩ :: arrayEntries ty (start + 1) es

/-- The entries of a call in the order in which they are mapped. -/
def WaitArrays.entries (a : WaitArrays S G) : List Entry :=
  arrayEntries .guardCondition 0 (a.guardConditions.getD []) ++
    arrayEntries .subscriber 0 (a.subscriptions.getD [])

omit [HasServiceName S] [HasServiceName G] in
theorem mem_arrayEntries {E : Type} [HasServiceName E] {ty : WaitableEntity} {start : RmwIndex}
    {es : List (Option E)} {e : Entry} :
    e ∈ arrayEntries ty start es ↔ e.waitableType = ty ∧
      ∃ i x, es[i]? = some (some x) ∧ e.rmwIndex = start + i ∧ e.serviceName = serviceName x := by
  induction es generalizing start with
  | nil => simp [arrayEntries]
  | cons o es ih =>
    have hshift : (∃ i x, es[i]? = some (some x) ∧ e.rmwIndex = start + 1 + i ∧
          e.serviceName = serviceName x) ↔
        ∃ i x, (o :: es)[i + 1]? = some (some x) ∧ e.rmwIndex = start + (i + 1) ∧
          e.serviceName = serviceName x := by
      simp only [List.getElem?_cons_succ, Nat.add_assoc, Nat.add_comm 1]
    cases o with
    | none =>
      rw [arrayEntries, ih, hshift]
      constructor
      · intro h
        obtain ⟨hty, i, x, hx⟩ := h
        exact ⟨hty, i + 1, x, hx⟩
      · intro h
        obtain ⟨hty, i, x, hx, hi⟩ := h
        cases i with
        | zero => simp at hx
        | succ i => exact ⟨hty, i, x, hx, hi⟩
    | some y =>
      rw [arrayEntries, List.mem_cons, ih, hshift]
      constructor
      · intro h
        rcases h with rfl | ⟨hty, i, x, hx⟩
        · exact ⟨rfl, 0, y, rfl, rfl, rfl⟩
        · exact ⟨hty, i + 1, x, hx⟩
      · intro h
        obtain ⟨hty, i, x, hx, hi, hn⟩ := h
        cases i with
        | zero =>
          obtain rfl : y = x := by simpa using hx
          left
          cases e
          simp_all
        | succ i => exact Or.inr ⟨hty, i, x, hx, hi, hn⟩

omit [HasServiceName S] [HasServiceName G] in
theorem mapEntries_eq {E : Type} [HasServiceName E] {mw : Middleware} (ty : WaitableEntity)
    (castMsg mapMsg : String) (start : RmwIndex) (es : List (Option E)) (ws : WaitSet)
    (hes : ∀ e ∈ es, e.isSome) :
    mapEntries (fun ws i n ↦ ws.map mw ty i n) castMsg mapMsg start es ws =
      match mapAll mw ws (arrayEntries ty start es) with
      | (ws', none) => (ws', .ok ())
      | (ws', some f) => (ws', .error (f.wrap .error mapMsg)) := by
  induction es generalizing start ws with
  | nil => rfl
  | cons o es ih =>
    obtain ⟨e, rfl⟩ := Option.isSome_iff_exists.mp (hes o List.mem_cons_self)
    simp only [mapEntries, uncheckedCast, arrayEntries, mapAll]
    cases hmap : ws.map mw ty start (serviceName e) with
    | error f => rfl
    | ok ws' => exact ih (start + 1) ws' (fun e' he' ↦ hes e' (List.mem_cons_of_mem _ he'))

/-- The arrays hold no null pointer, so that the entry checks of `rmw_wait` accept them. -/
def WaitArrays.Valid (a : WaitArrays S G) : Prop :=
  containsNull a.guardConditions = false ∧ containsNull a.subscriptions = false

omit [HasServiceName S] [HasServiceName G] in
theorem all_isSome {E : Type} {entries : Option (List (Option E))}
    (h : containsNull entries = false) : ∀ e ∈ entries.getD [], e.isSome := by
  intro e he
  simp only [containsNull, List.any_eq_false] at h
  have hno := h e he
  cases e <;> simp_all

theorem mapArrays_eq (mw : Middleware) {a : WaitArrays S G} (ha : a.Valid) (ws : WaitSet) :
    (mapArrays mw a ws).1 = (mapAll mw ws a.entries).1 ∧
      ((mapArrays mw a ws).2 = .ok () ↔ (mapAll mw ws a.entries).2 = none) := by
  unfold mapArrays WaitArrays.entries mapGuardCondition mapSubscriber
  rw [mapEntries_eq .guardCondition _ _ _ _ _ (all_isSome ha.1), mapAll_append]
  cases hg : mapAll mw ws (arrayEntries .guardCondition 0 (a.guardConditions.getD [])) with
  | mk ws₁ r =>
    cases r with
    | some f => simp
    | none =>
      simp only
      rw [mapEntries_eq .subscriber _ _ _ _ _ (all_isSome ha.2)]
      cases mapAll mw ws₁ (arrayEntries .subscriber 0 (a.subscriptions.getD [])) with
      | mk ws₂ r' => cases r' <;> simp

omit [HasServiceName S] [HasServiceName G] in
theorem checkWaitArguments_ok {rmwWaitSet : Option RmwWaitSet} {a : WaitArrays S G}
    {h : RmwWaitSet} : checkWaitArguments rmwWaitSet a = .ok h ↔
      rmwWaitSet = some h ∧ h.implementationIdentifier = rmwGetImplementationIdentifier ∧
        a.Valid := by
  unfold checkWaitArguments ensureNotNull ensureImplementation WaitArrays.Valid
  cases rmwWaitSet with
  | none => simp
  | some h' =>
    by_cases hid : h'.implementationIdentifier = rmwGetImplementationIdentifier
    · cases hg : containsNull a.guardConditions <;> cases hs : containsNull a.subscriptions <;>
        simp [hid]
      intro heq
      exact heq ▸ hid
    · simp only [ne_eq, hid, not_false_eq_true, ↓reduceIte, reduceCtorEq, Option.some.injEq,
        false_iff, not_and]
      intro heq
      exact fun hid' ↦ absurd (heq ▸ hid') hid

end RmwIceoryx2.Rmw
