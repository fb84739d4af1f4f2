import RmwIceoryx2.Library.Interruption
import RmwIceoryx2.Runtime.Delivery
import RmwIceoryx2.Runtime.Representation

namespace RmwIceoryx2.Runtime.WaitSet

open Common Library.FirstOccurrence Library.Interruption

variable {mw : Middleware} {ws : WaitSet} {timeout : Option Duration}

/-- The id a mapped listener that holds events is handed over by, and what is reported for it. -/
def readyAttachment (ws : WaitSet) (m : RmwMapping) : Option (AttachmentId × TriggeredWaitable) :=
  match ws.getStoredListener m.waitableType m.storageIndex with
  | some d =>
    if d.listener.pending then
      some (.notification d.listener.fileDescriptor, ⟨m.waitableType, m.rmwIndex⟩)
    else none
  | none => none

def readyAttachments (ws : WaitSet) : List (AttachmentId × TriggeredWaitable) :=
  ws.mapping.filterMap (readyAttachment ws)

/-- Everything is attached and drains, and the middleware has one callback for each ready
attachment and at most one for the expired timeout, in any order. -/
structure CallsBackForReady (mw : Middleware) (ws : WaitSet) (timeout : Option Duration) :
    Prop where
  attachInterval : ∀ d, timeout = some d → mw.attachInterval d = .ok ()
  attachNotification : ∀ fd, mw.attachNotification fd = .ok ()
  tryWaitAll : ∀ fd, mw.tryWaitAll fd = .ok ()
  ended : (mw.waitAndProcessOnce timeout).2 = .ok ()
  events : ∃ expired, (expired = [] ∨ timeout ≠ none ∧ expired = [.interval]) ∧
    (mw.waitAndProcessOnce timeout).1.Perm ((readyAttachments ws).map Prod.fst ++ expired)

def ReturnsReady (mw : Middleware) (ws : WaitSet) (timeout : Option Duration) : Prop :=
  ∃ triggers, (ws.wait mw timeout).result = .ok triggers ∧
    triggers.Perm ((readyAttachments ws).map Prod.snd)

def TimeoutLast (events : List AttachmentId) : Prop :=
  ∀ pre post, events = pre ++ .interval :: post → ∀ id ∈ post, id = .interval

theorem mem_readyAttachments {id : AttachmentId} {t : TriggeredWaitable} :
    (id, t) ∈ readyAttachments ws ↔ ∃ m ∈ ws.mapping, ∃ d,
      ws.getStoredListener m.waitableType m.storageIndex = some d ∧ d.listener.pending = true ∧
        id = .notification d.listener.fileDescriptor ∧ t = ⟨m.waitableType, m.rmwIndex⟩ := by
  rw [readyAttachments, List.mem_filterMap]
  refine exists_congr (fun m ↦ and_congr_right fun hm ↦ ?_)
  unfold readyAttachment
  cases hd : ws.getStoredListener m.waitableType m.storageIndex with
  | none => simp
  | some d =>
    by_cases hp : d.listener.pending = true
    · simp only [hp, ↓reduceIte, Option.some.injEq, Prod.mk.injEq, exists_eq_left', true_and]
      exact and_congr eq_comm eq_comm
    · simp [hp]

theorem reported_ready (hr : Represented ws) (hd : DistinctDescriptors ws)
    (hdrain : ∀ fd, mw.tryWaitAll fd = .ok ()) {attached : List AttachmentDetails}
    (hmap : attached.map (·.mapping) = ws.mapping) (hatt : AttachedTo ws attached)
    {id : AttachmentId} {t : TriggeredWaitable} (hready : (id, t) ∈ readyAttachments ws) :
    (reported mw attached id).map Prod.fst = some t := by
  obtain ⟨m, hm, d, hstored, -, rfl, rfl⟩ := mem_readyAttachments.mp hready
  obtain ⟨a, ha, rfl⟩ := List.mem_map.mp (hmap ▸ hm)
  obtain ⟨d', hd', hid⟩ := hatt a ha
  obtain rfl : d' = d := Option.some_inj.mp (hd'.symm.trans hstored)
  have hfind := find?_attached hd hr.keys_nodup hmap hatt ha
  rw [hid] at hfind
  simp only [reported, hfind, hdrain, Option.map_some]

theorem reported_interval (attached : List AttachmentDetails) :
    reported mw attached .interval = none := by
  unfold reported
  split
  · rename_i h
    cases h
  · rfl

theorem CallsBackForReady.isReady (h : CallsBackForReady mw ws timeout) {id : AttachmentId}
    (hid : id ∈ (mw.waitAndProcessOnce timeout).1) (hne : id ≠ .interval) :
    ∃ t, (id, t) ∈ readyAttachments ws := by
  obtain ⟨expired, hexp, hperm⟩ := h.events
  rcases List.mem_append.mp (hperm.mem_iff.mp hid) with hready | hexpired
  · obtain ⟨⟨id', t⟩, hmem, rfl⟩ := List.mem_map.mp hready
    exact ⟨t, hmem⟩
  · rcases hexp with rfl | ⟨-, rfl⟩
    · cases hexpired
    · exact absurd (List.mem_singleton.mp hexpired) hne

theorem CallsBackForReady.isRun (h : CallsBackForReady mw ws timeout) (hr : Represented ws)
    (hany : ws.mapping ≠ [] ∨ timeout ≠ none) :
    ∃ triggers, (ws.wait mw timeout).result = .ok triggers := by
  refine wait_isOk.mpr (Or.inr ⟨fun hc ↦ ?_, h.attachInterval, fun m hm ↦ ?_, h.ended⟩)
  · exact hany.elim (fun hne ↦ hne hc.1) (fun hne ↦ hne hc.2)
  · obtain ⟨d, hd⟩ := hr.stored hm fun _ ↦ rfl
    exact ⟨d, hd, h.attachNotification _⟩

theorem CallsBackForReady.filterMap_events (h : CallsBackForReady mw ws timeout)
    {f : AttachmentId → Option TriggeredWaitable} (hinterval : f .interval = none)
    (hf : ∀ id t, (id, t) ∈ readyAttachments ws → f id = some t) :
    ((mw.waitAndProcessOnce timeout).1.filterMap f).Perm ((readyAttachments ws).map Prod.snd) := by
  obtain ⟨expired, hexp, hperm⟩ := h.events
  have hnone : expired.filterMap f = [] := by
    rcases hexp with rfl | ⟨-, rfl⟩
    · rfl
    · rw [List.filterMap_cons_none hinterval, List.filterMap_nil]
  have hready : ((readyAttachments ws).map Prod.fst).filterMap f =
      (readyAttachments ws).map Prod.snd := by
    rw [List.filterMap_map, ← List.filterMap_eq_map]
    refine List.filterMap_congr (fun x hx ↦ ?_)
    exact hf x.1 x.2 hx
  have hall := hperm.filterMap f
  rwa [List.filterMap_append, hnone, hready, List.append_nil] at hall

theorem CallsBackForReady.timeout_supplied (h : CallsBackForReady mw ws timeout)
    (hid : .interval ∈ (mw.waitAndProcessOnce timeout).1) : timeout ≠ none := by
  obtain ⟨expired, rfl | ⟨hne, -⟩, hperm⟩ := h.events
  · rw [List.append_nil] at hperm
    obtain ⟨⟨id, t⟩, hmem, hid'⟩ := List.mem_map.mp (hperm.mem_iff.mp hid)
    obtain ⟨m, -, d, -, -, hnot, -⟩ := mem_readyAttachments.mp hmem
    rw [hnot] at hid'
    cases hid'
  · exact hne

/-- The callback that ends a run is the one for the timeout. -/
theorem CallsBackForReady.stop_iff (h : CallsBackForReady mw ws timeout) {id : AttachmentId}
    (hid : id ∈ (mw.waitAndProcessOnce timeout).1) :
    decide ((timeout.map fun _ ↦ AttachmentId.interval) ≠ some id) = false ↔ id = .interval := by
  rw [decide_eq_false_iff_not, not_not]
  constructor
  · intro he
    cases timeout <;> cases he
    rfl
  · rintro rfl
    obtain ⟨d, rfl⟩ := Option.ne_none_iff_exists'.mp (h.timeout_supplied hid)
    rfl

theorem CallsBackForReady.uninterrupted_iff (h : CallsBackForReady mw ws timeout) :
    Uninterrupted (fun id ↦ decide ((timeout.map fun _ ↦ AttachmentId.interval) ≠ some id))
      (mw.waitAndProcessOnce timeout).1 ↔ TimeoutLast (mw.waitAndProcessOnce timeout).1 := by
  have hmem : ∀ {pre post id}, (mw.waitAndProcessOnce timeout).1 = pre ++ id :: post →
      ∀ b ∈ id :: post, b ∈ (mw.waitAndProcessOnce timeout).1 := by
    intro pre post id hl b hb
    rw [hl]
    exact List.mem_append_right _ hb
  constructor
  · intro hu pre post hl b hb
    have hin := hmem hl
    refine (h.stop_iff (hin b (List.mem_cons_of_mem _ hb))).mp (hu pre _ post hl ?_ b hb)
    exact (h.stop_iff (hin _ List.mem_cons_self)).mpr rfl
  · intro ht pre a post hl ha b hb
    have hin := hmem hl
    obtain rfl := (h.stop_iff (hin a List.mem_cons_self)).mp ha
    exact (h.stop_iff (hin b (List.mem_cons_of_mem _ hb))).mpr (ht pre post hl b hb)

/-- Over any order of the callbacks a wait returns what is ready exactly when it is not refused
and no listener comes after the timeout. -/
theorem returnsReady_iff (hr : Represented ws) (hd : DistinctDescriptors ws)
    (h : CallsBackForReady mw ws timeout) : ReturnsReady mw ws timeout ↔
      (ws.mapping ≠ [] ∨ timeout ≠ none) ∧ TimeoutLast (mw.waitAndProcessOnce timeout).1 := by
  by_cases hany : ws.mapping ≠ [] ∨ timeout ≠ none
  · obtain ⟨triggers, hres⟩ := h.isRun hr hany
    obtain ⟨attached, hmap, hatt, r, hrun, rfl, -⟩ := wait_ok hd hres
    have hready : ∀ id t, (id, t) ∈ readyAttachments ws →
        (reported mw attached id).map Prod.fst = some t :=
      fun _ _ ↦ reported_ready hr hd h.tryWaitAll hmap hatt
    have hfound := h.filterMap_events (f := fun id ↦ (reported mw attached id).map Prod.fst)
      (by rw [reported_interval, Option.map_none]) hready
    have hsome : ∀ id ∈ (mw.waitAndProcessOnce timeout).1,
        ((reported mw attached id).map Prod.fst).isSome =
          decide ((timeout.map fun _ ↦ AttachmentId.interval) ≠ some id) := by
      intro id hid
      by_cases hint : id = .interval
      · rw [(h.stop_iff hid).mpr hint, hint, reported_interval, Option.map_none, Option.isSome_none]
      · obtain ⟨t, ht⟩ := h.isReady hid hint
        rw [hready id t ht, Option.isSome_some]
        exact ((Bool.eq_false_or_eq_true _).resolve_right (mt (h.stop_iff hid).mp hint)).symm
    rw [and_iff_right hany, ← h.uninterrupted_iff, ← filterMap_takeWhile_perm_iff hsome hfound,
      ← List.map_filterMap]
    change _ ↔ (((handed mw timeout).filterMap (reported mw attached)).map Prod.fst).Perm _
    rw [hrun, ReturnsReady, hres]
    simp only [Except.ok.injEq, exists_eq_left']
  · rw [not_or, not_not, not_not] at hany
    simp only [hany, ne_eq, not_true_eq_false, or_self, false_and, iff_false]
    rintro ⟨triggers, hres, -⟩
    have hok := wait_isOk.mp ⟨triggers, hres⟩
    simp [hany] at hok

def chatterPending : WaitSet where
  guardConditionListeners := []
  subscriberListeners := [⟨"ros2://topics/chatter", ⟨7, true⟩⟩]
  mapping := [⟨.subscriber, 0, 0⟩]

theorem represented_chatterPending : Represented chatterPending where
  serviceNames_nodup ty := by cases ty <;> decide
  inRange := by decide
  keys_nodup := by decide

theorem distinctDescriptors_chatterPending : DistinctDescriptors chatterPending := by
  have hone : ∀ {ty k d}, chatterPending.getStoredListener ty k = some d →
      ty = .subscriber ∧ k = 0 := by
    intro ty k d h
    cases ty with
    | guardCondition => cases h
    | subscriber => exact ⟨rfl, Nat.lt_one_iff.mp (List.getElem?_eq_some_iff.mp h).1⟩
  intro ty k ty' k' d d' h h' _
  exact ⟨(hone h).1.trans (hone h').1.symm, (hone h).2.trans (hone h').2.symm⟩

theorem callsBackForReady_chatter {events : List AttachmentId}
    (hevents : events.Perm [.notification 7, .interval]) :
    CallsBackForReady (.offering [] events) chatterPending (some 0) where
  attachInterval _ _ := rfl
  attachNotification _ := rfl
  tryWaitAll _ := rfl
  ended := rfl
  events := ⟨[.interval], Or.inr ⟨by simp, rfl⟩, hevents⟩

theorem zero_timeout_poll_misses : Represented chatterPending ∧
    DistinctDescriptors chatterPending ∧
    CallsBackForReady (.offering [] [.interval, .notification 7]) chatterPending (some 0) ∧
    ¬ ReturnsReady (.offering [] [.interval, .notification 7]) chatterPending (some 0) := by
  refine ⟨represented_chatterPending, distinctDescriptors_chatterPending,
    callsBackForReady_chatter (List.Perm.swap _ _ _), ?_⟩
  rintro ⟨triggers, hres, hperm⟩
  cases hres
  exact absurd hperm.length_eq (by decide)

theorem returnsReady_iff_chatter :
    ReturnsReady (.offering [] [.notification 7, .interval]) chatterPending (some 0) ↔
      (chatterPending.mapping ≠ [] ∨ some 0 ≠ (none : Option Duration)) ∧
        TimeoutLast [.notification 7, .interval] :=
  returnsReady_iff represented_chatterPending distinctDescriptors_chatterPending
    (callsBackForReady_chatter (List.Perm.refl _))

end RmwIceoryx2.Runtime.WaitSet
