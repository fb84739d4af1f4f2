import RmwIceoryx2.Runtime.Events

namespace RmwIceoryx2.Runtime.WaitSet

open Common Library.FirstOccurrence

variable {mw : Middleware} {ws ws' : WaitSet} {ty ty' : WaitableEntity} {name name' : String}
  {timeout : Option Duration}

variable (mw) in
/-- What one callback does: nothing but chaining messages, or a listener is drained and a trigger
recorded. -/
theorem onEvent_step (attachedTimeout : Option AttachmentId) (attached : List AttachmentDetails)
    (p : Progress) (id : AttachmentId) :
    (∃ chain, (onEvent mw attachedTimeout attached p id).1 = { p with chain := chain }) ∨
    ∃ a ∈ attached, ∃ ws fd, p.waitSet.processTrigger mw a.mapping.waitableType
        a.mapping.storageIndex = .ok (ws, fd) ∧
      (onEvent mw attachedTimeout attached p id).1 =
        ⟨ws, p.result ++ [⟨a.mapping.waitableType, a.mapping.rmwIndex⟩], p.drained ++ [fd],
          p.chain⟩ := by
  unfold onEvent
  split
  · exact Or.inl ⟨p.chain, rfl⟩
  · split
    · rename_i a ha
      cases hproc : p.waitSet.processTrigger mw a.mapping.waitableType a.mapping.storageIndex with
      | error f => exact Or.inl ⟨_, rfl⟩
      | ok r => exact Or.inr ⟨a, List.mem_of_find?_eq_some ha, r.1, r.2, hproc, rfl⟩
    · exact Or.inl ⟨p.chain, rfl⟩

/-- What no callback breaks holds once the events are processed. -/
theorem processEvents_invariant {I : Progress → Prop} {attachedTimeout : Option AttachmentId}
    {attached : List AttachmentDetails}
    (hstep : ∀ p id, I p → I (onEvent mw attachedTimeout attached p id).1)
    (events : List AttachmentId) {p : Progress} (hp : I p) :
    I (processEvents mw attachedTimeout attached events p) := by
  induction events generalizing p with
  | nil => exact hp
  | cons id ids ih =>
    have hid := hstep p id hp
    unfold processEvents
    split <;> rename_i hev <;> rw [hev] at hid
    · exact hid
    · exact ih hid

theorem processTrigger_mapping {k : StorageIndex} {fd : FileDescriptor}
    (h : ws.processTrigger mw ty k = .ok (ws', fd)) : ws'.mapping = ws.mapping := by
  unfold processTrigger at h
  split at h
  · split at h
    · cases h
    · cases h
      exact mapping_setStorage _ _ _
  · cases h

theorem wait_mapping : (ws.wait mw timeout).waitSet.mapping = ws.mapping := by
  have hall : ∀ attachedTimeout attached events,
      (processEvents mw attachedTimeout attached events ⟨ws, [], [], []⟩).waitSet.mapping =
        ws.mapping := by
    intro attachedTimeout attached events
    apply processEvents_invariant (I := fun p ↦ p.waitSet.mapping = ws.mapping) _ events rfl
    intro p id hp
    rcases onEvent_step mw attachedTimeout attached p id with ⟨chain, hstep⟩ |
      ⟨a, -, ws', fd, hproc, hstep⟩
    · rw [hstep]
      exact hp
    · rw [hstep]
      exact (processTrigger_mapping hproc).trans hp
  unfold WaitSet.wait
  repeat' split
  all_goals first | rfl | exact hall _ _ _

theorem attachSuppliedTimeout_ok {attachedTimeout : Option AttachmentId} :
    attachSuppliedTimeout mw timeout = .ok attachedTimeout ↔
      (∀ d, timeout = some d → mw.attachInterval d = .ok ()) ∧
        attachedTimeout = timeout.map fun _ ↦ .interval := by
  cases timeout with
  | none => simp [attachSuppliedTimeout, eq_comm]
  | some d =>
    cases h : mw.attachInterval d <;>
      simp [attachSuppliedTimeout, attachTimeout, h, Except.map, eq_comm]

theorem attachMappedListeners_isOk {ms : List RmwMapping} :
    (∃ attached, ws.attachMappedListeners mw ms = .ok attached) ↔
      ∀ m ∈ ms, ∃ d, ws.getStoredListener m.waitableType m.storageIndex = some d ∧
        mw.attachNotification d.listener.fileDescriptor = .ok () := by
  have hone : ∀ m, (∃ a, ws.attachMappedListener mw m = .ok a) ↔
      ∃ d, ws.getStoredListener m.waitableType m.storageIndex = some d ∧
        mw.attachNotification d.listener.fileDescriptor = .ok () := by
    intro m
    unfold attachMappedListener
    cases hd : ws.getStoredListener m.waitableType m.storageIndex with
    | none => simp
    | some d => cases ha : mw.attachNotification d.listener.fileDescriptor <;> simp [ha]
  induction ms with
  | nil => simp [attachMappedListeners]
  | cons m ms ih =>
    rw [List.forall_mem_cons]
    refine Iff.trans ?_ (and_congr (hone m) ih)
    rw [attachMappedListeners]
    cases hm : ws.attachMappedListener mw m with
    | error f => simp
    | ok a => cases hms : ws.attachMappedListeners mw ms <;> simp

/-- When a wait succeeds. The two cases without a mapping are decided before anything is
attached. -/
theorem wait_isOk : (∃ triggers, (ws.wait mw timeout).result = .ok triggers) ↔
    (ws.mapping = [] ∧ timeout = some 0) ∨
      (¬ (ws.mapping = [] ∧ timeout = none) ∧
        (∀ d, timeout = some d → mw.attachInterval d = .ok ()) ∧
        (∀ m ∈ ws.mapping, ∃ d, ws.getStoredListener m.waitableType m.storageIndex = some d ∧
          mw.attachNotification d.listener.fileDescriptor = .ok ()) ∧
        (mw.waitAndProcessOnce timeout).2 = .ok ()) := by
  unfold WaitSet.wait
  split
  · rename_i h
    simp only [Bool.and_eq_true, List.isEmpty_iff, zeroTimeout, decide_eq_true_eq] at h
    simp [h]
  · rename_i h0
    simp only [Bool.and_eq_true, List.isEmpty_iff, zeroTimeout, decide_eq_true_eq] at h0
    split
    · rename_i h
      simp only [Bool.and_eq_true, List.isEmpty_iff, noTimeout, Option.isNone_iff_eq_none] at h
      simp [h]
    · rename_i h1
      simp only [Bool.and_eq_true, List.isEmpty_iff, noTimeout, Option.isNone_iff_eq_none] at h1
      rw [← attachMappedListeners_isOk]
      simp only [h0, h1, false_or, not_false_eq_true, true_and]
      cases ht : attachSuppliedTimeout mw timeout with
      | error f =>
        simp only [reduceCtorEq, exists_false, false_iff]
        intro hc
        rw [attachSuppliedTimeout_ok.mpr ⟨hc.1, rfl⟩] at ht
        cases ht
      | ok attachedTimeout =>
        have hint := (attachSuppliedTimeout_ok.mp ht).1
        cases ha : ws.attachMappedListeners mw ws.mapping with
        | error f => simp
        | ok attached =>
          cases he : (mw.waitAndProcessOnce timeout).2 <;> simp
          exact hint

def handed (mw : Middleware) (timeout : Option Duration) : List AttachmentId :=
  handedOver (timeout.map fun _ ↦ .interval) (mw.waitAndProcessOnce timeout).1

theorem wait_ok (hd : DistinctDescriptors ws) {triggers : List TriggeredWaitable}
    (h : (ws.wait mw timeout).result = .ok triggers) :
    ∃ attached, attached.map (·.mapping) = ws.mapping ∧ AttachedTo ws attached ∧
      ∃ r, (handed mw timeout).filterMap (reported mw attached) = r ∧
        triggers = r.map Prod.fst ∧ (ws.wait mw timeout).drained = r.map Prod.snd ∧
        (ws.wait mw timeout).waitSet = ws.drainAll (r.map Prod.snd) := by
  revert h
  unfold WaitSet.wait
  split
  · rename_i h0
    simp only [Bool.and_eq_true, List.isEmpty_iff] at h0
    intro h
    cases h
    have hnone : (handed mw timeout).filterMap (reported mw []) = [] := by
      simp [List.filterMap_eq_nil_iff, reported]
    exact ⟨[], by simp [h0.1], by simp [AttachedTo], [], hnone, rfl, rfl, (drainAll_nil ws).symm⟩
  · split
    · intro h
      cases h
    · cases ht : attachSuppliedTimeout mw timeout with
      | error f => exact fun h ↦ by cases h
      | ok attachedTimeout =>
        cases ha : ws.attachMappedListeners mw ws.mapping with
        | error f => exact fun h ↦ by cases h
        | ok attached =>
          obtain ⟨hmap, hatt⟩ := attachMappedListeners_ok ha
          obtain ⟨-, rfl⟩ := attachSuppliedTimeout_ok.mp ht
          obtain ⟨chain, hev⟩ := processEvents_eq mw (p := ⟨ws, [], [], []⟩) hatt hd
            (show (handed mw timeout).filterMap (reported mw attached) = _ from rfl)
          simp only
          rw [hev]
          intro h
          refine ⟨attached, hmap, hatt, _, rfl, ?_⟩
          split at h
          · cases h
          · cases h
            exact ⟨rfl, rfl, rfl⟩

theorem wait_drains (mw : Middleware) (timeout : Option Duration) (hd : DistinctDescriptors ws) :
    ∃ fds, (ws.wait mw timeout).waitSet = ws.drainAll fds := by
  unfold WaitSet.wait
  split
  · exact ⟨[], (drainAll_nil ws).symm⟩
  · split
    · exact ⟨[], (drainAll_nil ws).symm⟩
    · split
      · exact ⟨[], (drainAll_nil ws).symm⟩
      · rename_i attachedTimeout _
        split
        · exact ⟨[], (drainAll_nil ws).symm⟩
        · rename_i attached hattached
          obtain ⟨chain, hev⟩ := processEvents_eq mw (p := ⟨ws, [], [], []⟩)
            (attachMappedListeners_ok hattached).2 hd
            (show (handedOver attachedTimeout (mw.waitAndProcessOnce timeout).1).filterMap
              (reported mw attached) = _ from rfl)
          simp only
          rw [hev]
          split <;> exact ⟨_, rfl⟩

/-- Since `p` nothing was done but chaining messages, or triggers of what is attached were
recorded. -/
def Advances (attached : List AttachmentDetails) (p q : Progress) : Prop :=
  (∃ chain, q = { p with chain := chain }) ∨
    ∃ triggers, triggers ≠ [] ∧ q.result = p.result ++ triggers ∧
      ∀ t ∈ triggers, ∃ a ∈ attached, t = ⟨a.mapping.waitableType, a.mapping.rmwIndex⟩

theorem processEvents_progress (mw : Middleware) (attachedTimeout : Option AttachmentId)
    (attached : List AttachmentDetails) (events : List AttachmentId) (p : Progress) :
    Advances attached p (processEvents mw attachedTimeout attached events p) := by
  apply processEvents_invariant (I := Advances attached p) _ events (Or.inl ⟨p.chain, rfl⟩)
  intro q id hq
  rcases onEvent_step mw attachedTimeout attached q id with ⟨chain, hstep⟩ |
    ⟨a, ha, ws', fd, -, hstep⟩
  · rw [hstep]
    rcases hq with ⟨chain', rfl⟩ | hq
    · exact Or.inl ⟨chain, rfl⟩
    · exact Or.inr hq
  · right
    rw [hstep]
    rcases hq with ⟨chain', rfl⟩ | ⟨triggers, -, hresult, hall⟩
    · exact ⟨_, List.cons_ne_nil _ _, rfl, fun t ht ↦ ⟨a, ha, List.mem_singleton.mp ht⟩⟩
    · refine ⟨triggers ++ [⟨a.mapping.waitableType, a.mapping.rmwIndex⟩], by simp, ?_, ?_⟩
      · simp only [hresult, List.append_assoc]
      · intro t ht
        rcases List.mem_append.mp ht with hold | hnew
        · exact hall t hold
        · exact ⟨a, ha, List.mem_singleton.mp hnew⟩

/-- A wait that reports nothing leaves the wait set as it was, and only what is mapped is
reported. -/
theorem wait_reported {triggers : List TriggeredWaitable}
    (h : (ws.wait mw timeout).result = .ok triggers) :
    (triggers = [] → (ws.wait mw timeout).waitSet = ws) ∧
      ∀ t ∈ triggers, ∃ m ∈ ws.mapping, t = ⟨m.waitableType, m.rmwIndex⟩ := by
  revert h
  unfold WaitSet.wait
  split
  · rintro ⟨⟩
    exact ⟨fun _ ↦ rfl, by simp⟩
  · split
    · rintro ⟨⟩
    · cases ht : attachSuppliedTimeout mw timeout with
      | error f => rintro ⟨⟩
      | ok attachedTimeout =>
        cases ha : ws.attachMappedListeners mw ws.mapping with
        | error f => rintro ⟨⟩
        | ok attached =>
          have hmap := (attachMappedListeners_ok ha).1
          have hp := processEvents_progress mw attachedTimeout attached
            (mw.waitAndProcessOnce timeout).1 ⟨ws, [], [], []⟩
          simp only
          split
          · rintro ⟨⟩
          · rintro ⟨⟩
            rcases hp with ⟨chain, hsame⟩ | ⟨triggers, hne, hres, hall⟩
            · rw [hsame]
              exact ⟨fun _ ↦ rfl, by simp⟩
            · rw [hres]
              refine ⟨fun hnil ↦ absurd hnil hne, fun t ht ↦ ?_⟩
              obtain ⟨a, ha, rfl⟩ := hall t ht
              exact ⟨a.mapping, hmap ▸ List.mem_map_of_mem ha, rfl⟩

end RmwIceoryx2.Runtime.WaitSet
