import RmwIceoryx2.Rmw.WaitIsolation
import RmwIceoryx2.Runtime.Readiness

namespace RmwIceoryx2.Rmw

open RmwIceoryx2.Common RmwIceoryx2.Runtime RmwIceoryx2.Runtime.WaitSet
open RmwIceoryx2.Library.FirstOccurrence RmwIceoryx2.Library.Execution

variable {S G : Type} {mw : Middleware} {ws : WaitSet} {timeout : Option Duration}

def place (e : Entry) : TriggeredWaitable := ⟨e.waitableType, e.rmwIndex⟩

/-- What is left in the arrays was triggered, and the return code agrees with it. -/
structure ReportsTruly [HasServiceName S] [HasServiceName G] (out : WaitOutcome S G) : Prop where
  triggered : out.ret = .ok ∨ out.ret = .timeout →
    ∀ e ∈ out.arrays.entries, ListenerDrained out e
  ok : out.ret = .ok → out.arrays.entries ≠ []
  timeout : out.ret = .timeout → out.arrays.entries = []

/-- What holds of a wait set between the calls on it. -/
structure Kept (ws : WaitSet) : Prop where
  staged : Staged ws (stagedEntries ws)
  distinct : DistinctDescriptors ws

theorem kept_empty : Kept .empty where
  staged := ⟨rfl, fun _ he ↦ (List.not_mem_nil he).elim⟩
  distinct := distinctDescriptors_empty

theorem Kept.drainAll {es : List Entry} (hs : Staged ws es) (hd : DistinctDescriptors ws)
    (fds : List FileDescriptor) : Kept (ws.drainAll fds) where
  staged := (hs.mapListeners (keepsIdentity_drainedBy fds)).self
  distinct := hd.mapListeners (keepsIdentity_drainedBy fds)

theorem Kept.unmapAll (hd : DistinctDescriptors ws) : Kept ws.unmapAll where
  staged := ⟨rfl, fun _ he ↦ (List.not_mem_nil he).elim⟩
  distinct := by
    intro ty k ty' k' d d' h h' he
    exact hd (by cases ty <;> exact h) (by cases ty' <;> exact h') he

variable [HasServiceName S] [HasServiceName G] {a : WaitArrays S G} {c : WaitCall S G}

def callOutcome (ws : WaitSet) (c : WaitCall S G) : WaitOutcome S G :=
  rmwWait c.mw (some (handle ws)) c.arrays c.waitTimeout

/-- The entries a call waits on: one for each service, those left over from earlier calls first. -/
def waitedOn (ws : WaitSet) (c : WaitCall S G) : List Entry :=
  firsts Entry.key (stagedEntries ws ++ c.arrays.entries)

omit [HasServiceName S] [HasServiceName G] in
theorem Kept.waitArrays {es : List Entry} (hs : Staged ws es) (hd : DistinctDescriptors ws)
    (mw : Middleware) (h : RmwWaitSet) (a : WaitArrays S G) (timeout : Option Duration) :
    ∃ ws', (waitArrays mw h a ws timeout).waitSet = some { h with data := some ws' } ∧
      Kept ws' := by
  obtain ⟨fds, hfds⟩ := wait_drains mw timeout hd
  cases hres : (ws.wait mw timeout).result with
  | error f =>
    refine ⟨ws.drainAll fds, ?_, Kept.drainAll hs hd fds⟩
    simp only [Rmw.waitArrays, hres, hfds]
  | ok triggers =>
    refine ⟨(ws.drainAll fds).unmapAll, ?_, Kept.unmapAll (Kept.drainAll hs hd fds).distinct⟩
    simp only [Rmw.waitArrays, hres, hfds]

theorem Kept.afterCall (hk : Kept ws) (hf : Fresh c.mw ws) : Kept (afterCall ws c) := by
  obtain ⟨pre, -, hpre⟩ := mapAll_prefix c.mw ws c.arrays.entries
  have hs := hk.staged.append hpre
  have hd := (mapAll_distinct c.arrays.entries hk.distinct hf).1
  unfold Rmw.afterCall
  rcases rmwWait_cases c.mw ws c.arrays c.waitTimeout with ⟨-, chain, hout⟩ |
    ⟨-, -, chain, hout⟩ | ⟨-, -, hout⟩
  · rw [hout]
    exact hk
  · rw [hout]
    exact ⟨hs.self, hd⟩
  · obtain ⟨ws', hws', hkept⟩ := Kept.waitArrays hs hd c.mw (handle ws) c.arrays
      (timeoutOf c.waitTimeout)
    rw [hout, hws']
    exact hkept

/-- A call on nothing consumes nothing. Any other consumes events that are reported at a place of
its arrays, and those of an entry at whose place something left over is reported. -/
def SoundCall (ws : WaitSet) (c : WaitCall S G) : Prop :=
  (c.arrays.entries = [] ∧
    ∀ e ∈ waitedOn ws c, ¬ Consumed c.mw ws (timeoutOf c.waitTimeout) e) ∨
  ((∃ e ∈ waitedOn ws c, Consumed c.mw ws (timeoutOf c.waitTimeout) e ∧
      ∃ e' ∈ c.arrays.entries, place e' = place e) ∧
    ∀ e ∈ stagedEntries ws, Consumed c.mw ws (timeoutOf c.waitTimeout) e →
      ∀ e' ∈ c.arrays.entries, place e' = place e →
        Consumed c.mw ws (timeoutOf c.waitTimeout) e')

/-- What a wait on the entries `es` reports truly, in terms of the events it consumes. -/
theorem waitArrays_reportsTruly_iff {h : RmwWaitSet} {es : List Entry} (hs : Staged ws es)
    (hd : DistinctDescriptors ws) (hes : a.entries ⊆ es) {triggers : List TriggeredWaitable}
    (hres : (ws.wait mw timeout).result = .ok triggers) :
    ReportsTruly (waitArrays mw h a ws timeout) ↔
      (a.entries = [] ∧ ∀ e ∈ firsts Entry.key es, ¬ Consumed mw ws timeout e) ∨
      ((∃ e ∈ firsts Entry.key es, Consumed mw ws timeout e ∧
          ∃ e' ∈ a.entries, place e' = place e) ∧
        ∀ e ∈ firsts Entry.key es, Consumed mw ws timeout e →
          ∀ e' ∈ a.entries, place e' = place e → Consumed mw ws timeout e') := by
  obtain ⟨r, hr, hout⟩ := waitArrays_spec h a hs hd hres
  have htrigger : ∀ t, t ∈ r.map Prod.fst ↔
      ∃ e ∈ firsts Entry.key es, Consumed mw ws timeout e ∧ t = place e := by
    intro t
    rw [List.mem_map]
    constructor
    · intro ht
      obtain ⟨⟨t, fd⟩, htfd, rfl⟩ := ht
      obtain ⟨e, he, rfl, -, hc⟩ := (hr _ _).mp htfd
      exact ⟨e, he, hc, rfl⟩
    · intro ht
      obtain ⟨e, he, hc, rfl⟩ := ht
      obtain ⟨fd, hdesc, -⟩ := id hc
      exact ⟨(_, fd), (hr _ _).mpr ⟨e, he, rfl, hdesc, hc⟩, rfl⟩
  by_cases hnil : r.map Prod.fst = []
  · have hnone : ∀ e ∈ firsts Entry.key es, ¬ Consumed mw ws timeout e := by
      intro e he hc
      have ht := (htrigger _).mpr ⟨e, he, hc, rfl⟩
      rw [hnil] at ht
      cases ht
    rw [hout, hnil]
    constructor
    · intro h
      exact Or.inl ⟨h.timeout rfl, hnone⟩
    · intro h
      rcases h with ⟨hnil, -⟩ | ⟨⟨e, he, hc, -⟩, -⟩
      · refine ⟨fun _ e he ↦ ?_, (nomatch ·), fun _ ↦ hnil⟩
        have he' : e ∈ a.entries := he
        rw [hnil] at he'
        cases he'
      · exact absurd hc (hnone e he)
  · have hret : (waitArrays mw h a ws timeout).ret = .ok := by
      rw [hout]
      exact if_neg (by simpa using hnil)
    have hleft : ∀ e', e' ∈ (waitArrays mw h a ws timeout).arrays.entries ↔ e' ∈ a.entries ∧
        ∃ e ∈ firsts Entry.key es, Consumed mw ws timeout e ∧ place e' = place e := by
      intro e'
      rw [hout, mem_entries_resetArrays hnil, htrigger]
      rfl
    obtain ⟨t, ht⟩ := List.exists_mem_of_ne_nil _ hnil
    obtain ⟨e₀, he₀, hc₀, -⟩ := (htrigger t).mp ht
    constructor
    · intro h
      obtain ⟨e', he'⟩ := List.exists_mem_of_ne_nil _ (h.ok hret)
      obtain ⟨hin, e, he, hc, hplace⟩ := (hleft e').mp he'
      refine Or.inr ⟨⟨e, he, hc, e', hin, hplace⟩, fun e he hc e' he' hplace ↦ ?_⟩
      apply (listenerDrained_iff hs hd hret (hes he')).mp
      exact h.triggered (Or.inl hret) e' ((hleft e').mpr ⟨he', e, he, hc, hplace⟩)
    · intro h
      rcases h with ⟨-, hnone⟩ | ⟨⟨e, he, hc, e', he', hplace⟩, hown⟩
      · exact absurd hc₀ (hnone e₀ he₀)
      · refine ⟨fun _ e' he' ↦ ?_, fun _ ↦ ?_, fun ht ↦ ?_⟩
        · obtain ⟨hin, e, he, hc, hplace⟩ := (hleft e').mp he'
          exact (listenerDrained_iff hs hd hret (hes hin)).mpr (hown e he hc e' hin hplace)
        · exact List.ne_nil_of_mem ((hleft e').mpr ⟨he', e, he, hc, hplace⟩)
        · rw [hret] at ht
          cases ht

theorem reportsTruly_iff (hk : Kept ws) (hf : Fresh c.mw ws)
    (hret : (callOutcome ws c).ret = .ok ∨ (callOutcome ws c).ret = .timeout) :
    ReportsTruly (callOutcome ws c) ↔ SoundCall ws c := by
  unfold callOutcome at hret ⊢
  rcases rmwWait_cases c.mw ws c.arrays c.waitTimeout with ⟨-, chain, hout⟩ |
    ⟨-, -, chain, hout⟩ | ⟨-, hmap, hout⟩
  · rw [hout] at hret
    rcases hret with h | h <;> cases h
  · rw [hout] at hret
    rcases hret with h | h <;> cases h
  · rw [hout] at hret ⊢
    obtain ⟨triggers, hres⟩ := waitArrays_returns.mp hret
    have hs := hk.staged.append (Prod.ext rfl hmap : mapAll c.mw ws c.arrays.entries = (_, none))
    have hd := (mapAll_distinct c.arrays.entries hk.distinct hf).1
    rw [waitArrays_reportsTruly_iff hs hd (List.subset_append_right _ _) hres]
    simp only [consumed_mapAll]
    refine or_congr Iff.rfl (and_congr_right fun _ ↦ ⟨fun h e he ↦ h e ?_, fun h e he hc ↦ ?_⟩)
    · have hfirst : e ∈ firsts Entry.key (stagedEntries ws) := by
        rw [← hk.staged.stagedEntries_eq]
        exact he
      exact firsts_subset_append _ _ hfirst
    · rcases List.mem_append.mp (firsts_subset _ he) with hold | hown
      · exact h e hold hc
      · intro e' he' hplace
        rw [place, place, TriggeredWaitable.mk.injEq] at hplace
        rw [entries_inj he' hown hplace.1 hplace.2]
        exact hc

/-- In every reachable state a call that returns is reported truly exactly when it is sound. -/
theorem calls_report_truly_iff (calls : List (WaitCall S G)) (c : WaitCall S G)
    (hfresh : Admissible afterCall (fun ws c ↦ Fresh c.mw ws) .empty (calls ++ [c]))
    (hret : (callOutcome (run afterCall .empty calls) c).ret = .ok ∨
      (callOutcome (run afterCall .empty calls) c).ret = .timeout) :
    ReportsTruly (callOutcome (run afterCall .empty calls) c) ↔
      SoundCall (run afterCall .empty calls) c := by
  obtain ⟨hcalls, hc⟩ := (admissible_snoc _ _ _ _).mp hfresh
  exact reportsTruly_iff (invariant (fun _ _ ↦ Kept.afterCall) kept_empty hcalls) hc hret

def pollChatter (events : List AttachmentId) : WaitCall String String where
  mw := .offering [((.subscriber, "ros2://topics/chatter"), 7)] events
  arrays := ⟨some [some "ros2://topics/chatter"], none, none, none, none⟩
  waitTimeout := some ⟨0, 0⟩

theorem timeout_leaves_entries :
    Admissible afterCall (fun ws (c : WaitCall String String) ↦ Fresh c.mw ws) .empty
      [pollChatter [.interval]] ∧
    (callOutcome .empty (pollChatter [.interval])).ret = .timeout ∧
    ¬ ReportsTruly (callOutcome .empty (pollChatter [.interval])) := by
  refine ⟨⟨fresh_offering_one _ _ _, trivial⟩, by decide, fun h ↦ ?_⟩
  have hnil : (callOutcome .empty (pollChatter [.interval])).arrays.entries = [] :=
    h.timeout (by decide)
  exact absurd hnil (by decide)

theorem calls_report_truly_iff_ready :
    ReportsTruly (callOutcome (run afterCall .empty ([] : List (WaitCall String String)))
      (pollChatter [.notification 7])) ↔
    SoundCall (run afterCall .empty ([] : List (WaitCall String String)))
      (pollChatter [.notification 7]) :=
  calls_report_truly_iff [] (pollChatter [.notification 7]) ⟨fresh_offering_one _ _ _, trivial⟩
    (Or.inl (by decide))

end RmwIceoryx2.Rmw
