import RmwIceoryx2.Rmw.FalseReadiness

namespace RmwIceoryx2.Rmw

open RmwIceoryx2.Common RmwIceoryx2.Runtime RmwIceoryx2.Runtime.WaitSet
open RmwIceoryx2.Library.FirstOccurrence RmwIceoryx2.Library.Execution

variable {S G : Type} {mw : Middleware} {ws : WaitSet} {timeout : Option Duration} {e : Entry}

def HandedOver (mw : Middleware) (ws : WaitSet) (timeout : Option Duration) (e : Entry) : Prop :=
  ∃ fd, descriptorOf mw ws e.waitableType e.serviceName = some fd ∧
    .notification fd ∈ handed mw timeout

def Undrained (mw : Middleware) (ws : WaitSet) (timeout : Option Duration) (e : Entry) : Prop :=
  ∃ fd, descriptorOf mw ws e.waitableType e.serviceName = some fd ∧
    .notification fd ∈ handed mw timeout ∧ mw.tryWaitAll fd ≠ .ok ()

theorem handedOver_iff :
    HandedOver mw ws timeout e ↔ Consumed mw ws timeout e ∨ Undrained mw ws timeout e := by
  constructor
  · intro h
    obtain ⟨fd, hfd, hid⟩ := h
    by_cases hdrains : mw.tryWaitAll fd = .ok ()
    · exact Or.inl ⟨fd, hfd, hid, hdrains⟩
    · exact Or.inr ⟨fd, hfd, hid, hdrains⟩
  · intro h
    rcases h with ⟨fd, hfd, hid, -⟩ | ⟨fd, hfd, hid, -⟩
    · exact ⟨fd, hfd, hid⟩
    · exact ⟨fd, hfd, hid⟩

variable [HasServiceName S] [HasServiceName G] {c : WaitCall S G}

/-- The call is not rejected, and nothing it asks of the middleware fails but the draining. -/
def Completes (ws : WaitSet) (c : WaitCall S G) : Prop :=
  c.arrays.Valid ∧
  (∀ e ∈ c.arrays.entries, CanListen c.mw ws e.waitableType e.serviceName) ∧
  ((waitedOn ws c = [] ∧ timeoutOf c.waitTimeout = some 0) ∨
    (¬ (waitedOn ws c = [] ∧ timeoutOf c.waitTimeout = none) ∧
      (∀ d, timeoutOf c.waitTimeout = some d → c.mw.attachInterval d = .ok ()) ∧
      (∀ e ∈ waitedOn ws c, ∃ fd, descriptorOf c.mw ws e.waitableType e.serviceName = some fd ∧
        c.mw.attachNotification fd = .ok ()) ∧
      (c.mw.waitAndProcessOnce (timeoutOf c.waitTimeout)).2 = .ok ()))

def TimeoutIsReal (ws : WaitSet) (c : WaitCall S G) : Prop :=
  (callOutcome ws c).ret = .timeout → c.waitTimeout.isSome ∧
    ∀ e ∈ waitedOn ws c, ¬ HandedOver c.mw ws (timeoutOf c.waitTimeout) e

theorem callOutcome_returns (hk : Kept ws) :
    ((callOutcome ws c).ret = .ok ∨ (callOutcome ws c).ret = .timeout) ↔ Completes ws c := by
  unfold callOutcome Completes
  rcases rmwWait_cases c.mw ws c.arrays c.waitTimeout with ⟨hno, chain, hout⟩ |
    ⟨hvalid, hfail, chain, hout⟩ | ⟨hvalid, hmap, hout⟩
  · rw [hout]
    simp [hno]
  · have hsome : ¬ ∀ e ∈ c.arrays.entries, CanListen c.mw ws e.waitableType e.serviceName :=
      fun hall ↦ hfail (mapAll_isOk.mpr hall)
    rw [hout]
    simp only [hsome, false_and, and_false, reduceCtorEq, or_self]
  · have hs := hk.staged.append (Prod.ext rfl hmap : mapAll c.mw ws c.arrays.entries = (_, none))
    have hs' := hs.self
    rw [hs.stagedEntries_eq] at hs'
    have hlisten := mapAll_isOk.mp hmap
    rw [hout, waitArrays_returns, wait_isOk, hs'.mapping_eq_nil, hs'.attach_iff]
    simp only [descriptorOf_mapAll, hvalid, true_and]
    exact ⟨fun h ↦ ⟨hlisten, h⟩, And.right⟩

theorem callOutcome_timeout (hk : Kept ws) (hf : Fresh c.mw ws) :
    (callOutcome ws c).ret = .timeout ↔
      Completes ws c ∧ ∀ e ∈ waitedOn ws c, ¬ Consumed c.mw ws (timeoutOf c.waitTimeout) e := by
  rw [← callOutcome_returns hk]
  unfold callOutcome
  rcases rmwWait_cases c.mw ws c.arrays c.waitTimeout with ⟨-, chain, hout⟩ |
    ⟨-, -, chain, hout⟩ | ⟨-, hmap, hout⟩
  · rw [hout]
    simp
  · rw [hout]
    simp
  · have hs := hk.staged.append (Prod.ext rfl hmap : mapAll c.mw ws c.arrays.entries = (_, none))
    have hd := (mapAll_distinct c.arrays.entries hk.distinct hf).1
    rw [hout]
    constructor
    · intro hret
      refine ⟨Or.inr hret, fun e he hc ↦ ?_⟩
      obtain ⟨triggers, hres⟩ := waitArrays_returns.mp (Or.inr hret)
      obtain ⟨r, hr, hspec⟩ := waitArrays_spec (handle ws) c.arrays hs hd hres
      obtain ⟨fd, hdesc, hid⟩ := consumed_mapAll.mpr hc
      have hmem := (hr _ fd).mpr ⟨e, he, rfl, hdesc, fd, hdesc, hid⟩
      cases r with
      | nil => cases hmem
      | cons t r =>
        rw [hspec] at hret
        cases hret
    · intro h
      obtain ⟨hret, hnone⟩ := h
      obtain ⟨triggers, hres⟩ := waitArrays_returns.mp hret
      obtain ⟨r, hr, hspec⟩ := waitArrays_spec (handle ws) c.arrays hs hd hres
      cases r with
      | nil =>
        rw [hspec]
        rfl
      | cons t r =>
        obtain ⟨e, he, -, -, hc⟩ := (hr t.1 t.2).mp List.mem_cons_self
        exact absurd (consumed_mapAll.mp hc) (hnone e he)

theorem timeoutIsReal_iff (hk : Kept ws) (hf : Fresh c.mw ws) :
    TimeoutIsReal ws c ↔ (Completes ws c →
      (∃ e ∈ waitedOn ws c, Consumed c.mw ws (timeoutOf c.waitTimeout) e) ∨
        (c.waitTimeout.isSome ∧
          ∀ e ∈ waitedOn ws c, ¬ Undrained c.mw ws (timeoutOf c.waitTimeout) e)) := by
  unfold TimeoutIsReal
  rw [callOutcome_timeout hk hf]
  constructor
  · intro h hcompletes
    by_cases hsome : ∃ e ∈ waitedOn ws c, Consumed c.mw ws (timeoutOf c.waitTimeout) e
    · exact Or.inl hsome
    · push Not at hsome
      obtain ⟨htimeout, hnone⟩ := h ⟨hcompletes, hsome⟩
      exact Or.inr ⟨htimeout, fun e he hu ↦ hnone e he (handedOver_iff.mpr (Or.inr hu))⟩
  · intro h hret
    obtain ⟨hcompletes, hnone⟩ := hret
    rcases h hcompletes with ⟨e, he, hc⟩ | ⟨htimeout, hdrained⟩
    · exact absurd hc (hnone e he)
    · refine ⟨htimeout, fun e he hover ↦ ?_⟩
      rcases handedOver_iff.mp hover with hc | hu
      · exact hnone e he hc
      · exact hdrained e he hu

/-- In every reachable state. -/
theorem timeouts_real_iff (calls : List (WaitCall S G)) (c : WaitCall S G)
    (hfresh : Admissible afterCall (fun ws c ↦ Fresh c.mw ws) .empty (calls ++ [c])) :
    TimeoutIsReal (run afterCall .empty calls) c ↔
      (Completes (run afterCall .empty calls) c →
        (∃ e ∈ waitedOn (run afterCall .empty calls) c,
          Consumed c.mw (run afterCall .empty calls) (timeoutOf c.waitTimeout) e) ∨
        (c.waitTimeout.isSome ∧ ∀ e ∈ waitedOn (run afterCall .empty calls) c,
          ¬ Undrained c.mw (run afterCall .empty calls) (timeoutOf c.waitTimeout) e)) := by
  obtain ⟨hcalls, hc⟩ := (admissible_snoc _ _ _ _).mp hfresh
  exact timeoutIsReal_iff (invariant (fun _ _ ↦ Kept.afterCall) kept_empty hcalls) hc

def undrainedCall : WaitCall String String where
  mw := { Middleware.offering [((.subscriber, "ros2://topics/chatter"), 7)] [.notification 7] with
    tryWaitAll := fun _ ↦ .error "InternalFailure" }
  arrays := ⟨some [some "ros2://topics/chatter"], none, none, none, none⟩
  waitTimeout := none

theorem undrained_call_times_out :
    Admissible afterCall (fun ws (c : WaitCall String String) ↦ Fresh c.mw ws) .empty
      [undrainedCall] ∧
    (callOutcome .empty undrainedCall).ret = .timeout ∧ ¬ TimeoutIsReal .empty undrainedCall := by
  have hret : (callOutcome .empty undrainedCall).ret = .timeout := by decide
  have hoffering := fresh_offering_one (.subscriber, "ros2://topics/chatter") 7 [.notification 7]
  have hfresh : Fresh undrainedCall.mw .empty := ⟨hoffering.unused, hoffering.injective⟩
  refine ⟨⟨hfresh, trivial⟩, hret, fun h ↦ ?_⟩
  have htimeout : undrainedCall.waitTimeout.isSome := (h hret).1
  cases htimeout

theorem timeouts_real_iff_poll :
    TimeoutIsReal (run afterCall .empty ([] : List (WaitCall String String)))
      (pollChatter [.interval]) ↔
    (Completes (run afterCall .empty ([] : List (WaitCall String String)))
        (pollChatter [.interval]) →
      (∃ e ∈ waitedOn (run afterCall .empty ([] : List (WaitCall String String)))
          (pollChatter [.interval]),
        Consumed (pollChatter [.interval]).mw
          (run afterCall .empty ([] : List (WaitCall String String)))
          (timeoutOf (pollChatter [.interval]).waitTimeout) e) ∨
      ((pollChatter [.interval]).waitTimeout.isSome ∧
        ∀ e ∈ waitedOn (run afterCall .empty ([] : List (WaitCall String String)))
          (pollChatter [.interval]),
        ¬ Undrained (pollChatter [.interval]).mw
          (run afterCall .empty ([] : List (WaitCall String String)))
          (timeoutOf (pollChatter [.interval]).waitTimeout) e)) :=
  timeouts_real_iff [] (pollChatter [.interval]) ⟨fresh_offering_one _ _ _, trivial⟩

end RmwIceoryx2.Rmw
