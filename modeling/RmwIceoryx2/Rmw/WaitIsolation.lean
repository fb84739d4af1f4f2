import RmwIceoryx2.Library.Execution
import RmwIceoryx2.Rmw.WaitDelivery

namespace RmwIceoryx2.Rmw

open RmwIceoryx2.Common RmwIceoryx2.Runtime RmwIceoryx2.Runtime.WaitSet
open RmwIceoryx2.Library.FirstOccurrence RmwIceoryx2.Library.Execution

/-- One call on a given wait set, with the answers the middleware gives during it. -/
structure WaitCall (S G : Type) where
  mw : Middleware
  arrays : WaitArrays S G
  waitTimeout : Option RmwTime

variable {S G : Type} [HasServiceName S] [HasServiceName G] {ws : WaitSet} {c : WaitCall S G}

def afterCall (ws : WaitSet) (c : WaitCall S G) : WaitSet :=
  ((rmwWait c.mw (some (handle ws)) c.arrays c.waitTimeout).waitSet.bind (·.data)).getD ws

/-- Nothing is staged, and whatever is called next waits on the first of its own entries for
each service and on nothing else. -/
def Isolated (S G : Type) [HasServiceName S] [HasServiceName G] (ws : WaitSet) : Prop :=
  ws.mapping = [] ∧ ∀ c : WaitCall S G, c.arrays.Valid → (mapArrays c.mw c.arrays ws).2 = .ok () →
    stagedEntries (mapArrays c.mw c.arrays ws).1 = firsts Entry.key c.arrays.entries

/-- The calls after which nothing is staged: those that fail before anything is mapped, and
those that wait without a failure. -/
def LeavesNothingStaged (ws : WaitSet) (c : WaitCall S G) : Prop :=
  ¬ c.arrays.Valid ∨ c.arrays.entries = [] ∨
    (∃ e, c.arrays.entries.head? = some e ∧ ¬ CanListen c.mw ws e.waitableType e.serviceName) ∨
    ((∀ e ∈ c.arrays.entries, CanListen c.mw ws e.waitableType e.serviceName) ∧
      (∀ d, timeoutOf c.waitTimeout = some d → c.mw.attachInterval d = .ok ()) ∧
      (∀ e ∈ c.arrays.entries, ∃ fd, descriptorOf c.mw ws e.waitableType e.serviceName = some fd ∧
        c.mw.attachNotification fd = .ok ()) ∧
      (c.mw.waitAndProcessOnce (timeoutOf c.waitTimeout)).2 = .ok ())

theorem isolated_iff : Isolated S G ws ↔ ws.mapping = [] := by
  constructor
  · intro h
    exact h.1
  · intro h
    refine ⟨h, fun c hvalid hok ↦ ?_⟩
    obtain ⟨hws, hmap⟩ := mapArrays_eq c.mw hvalid ws
    rw [hws]
    exact (mapAll_stages h (Prod.ext rfl (hmap.mp hok))).stagedEntries_eq

omit [HasServiceName S] [HasServiceName G] in
/-- The second part of a call leaves the staged mapping as it is only if the wait fails. -/
theorem waitArrays_mapping (mw : Middleware) (ws : WaitSet) (h : RmwWaitSet)
    (a : WaitArrays S G) (timeout : Option Duration) :
    ∃ ws', (waitArrays mw h a ws timeout).waitSet = some { h with data := some ws' } ∧
      (ws'.mapping = [] ↔
        ws.mapping = [] ∨ ∃ triggers, (ws.wait mw timeout).result = .ok triggers) := by
  cases hr : (ws.wait mw timeout).result with
  | error f =>
    refine ⟨(ws.wait mw timeout).waitSet, by simp only [waitArrays, hr], ?_⟩
    simp [wait_mapping]
  | ok triggers =>
    exact ⟨(ws.wait mw timeout).waitSet.unmapAll, by simp only [waitArrays, hr], by simp [unmapAll]⟩

theorem afterCall_mapping (hws : ws.mapping = []) :
    (afterCall ws c).mapping = [] ↔ LeavesNothingStaged ws c := by
  unfold afterCall LeavesNothingStaged
  rcases rmwWait_cases c.mw ws c.arrays c.waitTimeout with ⟨hno, chain, hout⟩ |
    ⟨hvalid, hfail, chain, hout⟩ | ⟨hvalid, hmap, hout⟩
  · rw [hout]
    exact ⟨fun _ ↦ Or.inl hno, fun _ ↦ hws⟩
  · have hne : c.arrays.entries ≠ [] := by
      intro hnil
      rw [hnil] at hfail
      exact hfail rfl
    have hsome : ¬ ∀ e ∈ c.arrays.entries, CanListen c.mw ws e.waitableType e.serviceName :=
      fun hall ↦ hfail (mapAll_isOk.mpr hall)
    rw [hout]
    simp only [handle, Option.bind_some, Option.getD_some, mapAll_failed_mapping hws hfail, hvalid,
      hne, hsome, not_true_eq_false, false_or, false_and, or_false]
  · have hs : Staged (mapAll c.mw ws c.arrays.entries).1 c.arrays.entries :=
      mapAll_stages hws (Prod.ext rfl hmap)
    obtain ⟨ws', hws', hiff⟩ := waitArrays_mapping c.mw (mapAll c.mw ws c.arrays.entries).1
      (handle ws) c.arrays (timeoutOf c.waitTimeout)
    have hlisten := mapAll_isOk.mp hmap
    rw [hout, hws']
    simp only [Option.bind_some, Option.getD_some]
    rw [hiff, wait_isOk, hs.mapping_eq_nil, hs.attach_iff]
    simp only [descriptorOf_mapAll]
    by_cases hnil : c.arrays.entries = []
    · simp [hnil]
    · have hhead : ¬ ∃ e, c.arrays.entries.head? = some e ∧
          ¬ CanListen c.mw ws e.waitableType e.serviceName := by
        intro h
        obtain ⟨e, he, hno⟩ := h
        exact hno (hlisten e (List.mem_of_head? he))
      simp only [hnil, hvalid, hhead, false_or, false_and, not_false_eq_true, true_and,
        not_true_eq_false]
      exact ⟨fun h ↦ ⟨hlisten, h⟩, And.right⟩

/-- In every state of a run of calls the next call is isolated from all earlier ones exactly when
each call of the run leaves nothing staged. -/
theorem calls_isolated_iff (calls : List (WaitCall S G)) :
    (∀ pre, pre <+: calls → Isolated S G (run afterCall .empty pre)) ↔
      Admissible afterCall LeavesNothingStaged .empty calls := by
  have hok : Admissible afterCall (fun _ _ ↦ True) .empty calls :=
    admissible_of_forall _ fun _ _ _ ↦ trivial
  refine always_iff (fun s c hs _ ↦ ?_) (isolated_iff.mpr rfl) hok
  rw [isolated_iff] at hs ⊢
  exact afterCall_mapping hs

def interruptedCall : WaitCall String String where
  mw := { Middleware.offering [((.subscriber, "ros2://topics/chatter"), 7)] [] with
    waitAndProcessOnce := fun _ ↦ ([], .error "Interrupt") }
  arrays := ⟨some [some "ros2://topics/chatter"], none, none, none, none⟩
  waitTimeout := none

theorem interrupted_call_not_isolated :
    ¬ ∀ pre, pre <+: [interruptedCall] → Isolated String String (run afterCall .empty pre) := by
  intro h
  have hstaged : (run afterCall .empty [interruptedCall]).mapping = [] := (h _ (by simp)).1
  exact absurd hstaged (by decide)

end RmwIceoryx2.Rmw
