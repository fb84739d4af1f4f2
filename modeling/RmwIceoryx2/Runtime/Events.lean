import RmwIceoryx2.Runtime.Mapping

namespace RmwIceoryx2.Runtime.WaitSet

open Common Library.FirstOccurrence

variable {mw : Middleware} {ws ws' : WaitSet} {ty ty' : WaitableEntity} {name : String}
  {k k' : StorageIndex}

def DistinctDescriptors (ws : WaitSet) : Prop :=
  ∀ ⦃ty k ty' k' d d'⦄, ws.getStoredListener ty k = some d →
    ws.getStoredListener ty' k' = some d' →
    d.listener.fileDescriptor = d'.listener.fileDescriptor → ty = ty' ∧ k = k'

/-- A listener the middleware creates has a descriptor that no listener of another service has. -/
structure Fresh (mw : Middleware) (ws : WaitSet) : Prop where
  unused : ∀ ⦃ty name fd ty' d⦄, mw.createListener ty name = .ok fd →
    d ∈ ws.listenerStorage ty' → d.listener.fileDescriptor = fd → ty' = ty ∧ d.serviceName = name
  injective : ∀ ⦃ty name ty' name' fd⦄, mw.createListener ty name = .ok fd →
    mw.createListener ty' name' = .ok fd → ty = ty' ∧ name = name'

theorem distinctDescriptors_empty : DistinctDescriptors .empty := by
  intro ty k ty' k' d d' h
  cases ty <;> cases h

theorem fresh_offering_none (ids : List AttachmentId) (ws : WaitSet) :
    Fresh (.offering [] ids) ws :=
  ⟨fun _ _ _ _ _ h ↦ (by cases h), fun _ _ _ _ _ h ↦ (by cases h)⟩

theorem fresh_offering_one (key : WaitableEntity × String) (fd : FileDescriptor)
    (ids : List AttachmentId) : Fresh (.offering [(key, fd)] ids) .empty := by
  have hkey : ∀ ty name fd', (Middleware.offering [(key, fd)] ids).createListener ty name =
      .ok fd' → (ty, name) = key := by
    intro ty name fd' h
    by_contra hk
    have hbeq : ((ty, name) == key) = false := by simpa using hk
    simp [Middleware.offering, List.lookup_cons, hbeq] at h
  constructor
  · intro ty name fd' ty' d h hd
    cases ty' <;> cases hd
  · intro ty name ty' name' fd' h h'
    exact Prod.mk.injEq _ _ _ _ ▸ (hkey _ _ _ h).trans (hkey _ _ _ h').symm

theorem mem_of_getStoredListener {d : ListenerDetails} (h : ws.getStoredListener ty k = some d) :
    d ∈ ws.listenerStorage ty := List.mem_of_getElem? h

theorem getStoredListener_append {d e : ListenerDetails}
    (h : (ws.setStorage ty (ws.listenerStorage ty ++ [e])).getStoredListener ty' k = some d) :
    ws.getStoredListener ty' k = some d ∨
      (ty' = ty ∧ k = (ws.listenerStorage ty).length ∧ e = d) := by
  unfold getStoredListener at h ⊢
  by_cases hty : ty' = ty
  · subst hty
    rw [listenerStorage_setStorage] at h
    rcases Nat.lt_trichotomy k (ws.listenerStorage ty').length with hk | rfl | hk
    · rw [List.getElem?_append_left hk] at h
      exact Or.inl h
    · rw [List.getElem?_concat_length] at h
      exact Or.inr ⟨rfl, rfl, Option.some_inj.mp h⟩
    · rw [List.getElem?_eq_none (by simp; omega)] at h
      cases h
  · rw [listenerStorage_setStorage_of_ne _ hty] at h
    exact Or.inl h

theorem getStorageIndex_distinct (hd : DistinctDescriptors ws) (hf : Fresh mw ws)
    (h : ws.getStorageIndex mw ty name = .ok (ws', k)) :
    DistinctDescriptors ws' ∧ Fresh mw ws' := by
  rcases getStorageIndex_cases h with ⟨-, rfl⟩ | ⟨hnone, -, fd, hfd, rfl, -⟩
  · exact ⟨hd, hf⟩
  · have hnew : ∀ ty' d, d ∈ ws.listenerStorage ty' → d.listener.fileDescriptor ≠ fd := by
      intro ty' d hmem he
      obtain ⟨rfl, hname⟩ := hf.unused hfd hmem he
      exact findListener_none.mp hnone d hmem hname
    constructor
    · intro ty₁ k₁ ty₂ k₂ d₁ d₂ h₁ h₂ he
      rcases getStoredListener_append h₁ with hold₁ | ⟨rfl, rfl, rfl⟩ <;>
        rcases getStoredListener_append h₂ with hold₂ | ⟨rfl, rfl, rfl⟩
      · exact hd hold₁ hold₂ he
      · exact absurd he (hnew _ _ (mem_of_getStoredListener hold₁))
      · exact absurd he.symm (hnew _ _ (mem_of_getStoredListener hold₂))
      · exact ⟨rfl, rfl⟩
    · refine ⟨fun ty₁ name₁ fd₁ ty₂ d hc hmem he ↦ ?_, hf.injective⟩
      obtain ⟨k₂, hk₂⟩ := List.mem_iff_getElem?.mp hmem
      rcases getStoredListener_append hk₂ with hold | ⟨rfl, -, rfl⟩
      · exact hf.unused hc (mem_of_getStoredListener hold) he
      · cases he
        exact hf.injective hfd hc

theorem mapAll_distinct (es : List Entry) (hd : DistinctDescriptors ws) (hf : Fresh mw ws) :
    DistinctDescriptors (mapAll mw ws es).1 ∧ Fresh mw (mapAll mw ws es).1 := by
  induction es generalizing ws with
  | nil => exact ⟨hd, hf⟩
  | cons e es ih =>
    unfold mapAll
    split
    · exact ⟨hd, hf⟩
    · rename_i ws₁ hmap
      obtain ⟨ws₂, k, hget, rfl⟩ := map_cases hmap
      obtain ⟨hd', hf'⟩ := getStorageIndex_distinct hd hf hget
      apply ih
      · intro ty₁ k₁ ty₂ k₂ d₁ d₂ h₁ h₂
        simp only [getStoredListener, listenerStorage_mapStoredListener] at h₁ h₂
        exact hd' h₁ h₂
      · exact ⟨by simpa only [listenerStorage_mapStoredListener] using hf'.unused, hf'.injective⟩

def drainedBy (fds : List FileDescriptor) (d : ListenerDetails) : ListenerDetails :=
  if d.listener.fileDescriptor ∈ fds then d.drained else d

@[simp] theorem drainedBy_serviceName (fds : List FileDescriptor) (d : ListenerDetails) :
    (drainedBy fds d).serviceName = d.serviceName := by
  unfold drainedBy
  split <;> rfl

@[simp] theorem drainedBy_fileDescriptor (fds : List FileDescriptor) (d : ListenerDetails) :
    (drainedBy fds d).listener.fileDescriptor = d.listener.fileDescriptor := by
  unfold drainedBy
  split <;> rfl

theorem drainedBy_pending (fds : List FileDescriptor) (d : ListenerDetails) :
    (drainedBy fds d).listener.pending = true ↔
      d.listener.pending = true ∧ d.listener.fileDescriptor ∉ fds := by
  unfold drainedBy
  split <;> rename_i h <;> simp [ListenerDetails.drained, h]

def mapListeners (ws : WaitSet) (f : WaitableEntity → ListenerDetails → ListenerDetails) :
    WaitSet where
  guardConditionListeners := ws.guardConditionListeners.map (f .guardCondition)
  subscriberListeners := ws.subscriberListeners.map (f .subscriber)
  mapping := ws.mapping

structure KeepsIdentity (f : WaitableEntity → ListenerDetails → ListenerDetails) : Prop where
  serviceName : ∀ ty d, (f ty d).serviceName = d.serviceName
  fileDescriptor : ∀ ty d, (f ty d).listener.fileDescriptor = d.listener.fileDescriptor

section MapListeners

variable {f : WaitableEntity → ListenerDetails → ListenerDetails}

@[simp] theorem mapping_mapListeners : (ws.mapListeners f).mapping = ws.mapping := rfl

@[simp] theorem listenerStorage_mapListeners :
    (ws.mapListeners f).listenerStorage ty = (ws.listenerStorage ty).map (f ty) := by
  cases ty <;> rfl

@[simp] theorem getStoredListener_mapListeners : (ws.mapListeners f).getStoredListener ty k =
    (ws.getStoredListener ty k).map (f ty) := by
  simp only [getStoredListener, listenerStorage_mapListeners, List.getElem?_map]

theorem KeepsIdentity.findListener (hf : KeepsIdentity f) :
    (ws.mapListeners f).findListener ty name = ws.findListener ty name := by
  simp only [WaitSet.findListener, listenerStorage_mapListeners, List.findIdx?_map,
    Function.comp_def, hf.serviceName]

theorem DistinctDescriptors.mapListeners (h : DistinctDescriptors ws) (hf : KeepsIdentity f) :
    DistinctDescriptors (ws.mapListeners f) := by
  intro ty k ty' k' d d' hd hd' he
  rw [getStoredListener_mapListeners, Option.map_eq_some_iff] at hd hd'
  obtain ⟨e, he₁, rfl⟩ := hd
  obtain ⟨e', he₂, rfl⟩ := hd'
  rw [hf.fileDescriptor, hf.fileDescriptor] at he
  exact h he₁ he₂ he

end MapListeners

def drainAll (ws : WaitSet) (fds : List FileDescriptor) : WaitSet :=
  ws.mapListeners fun _ ↦ drainedBy fds

theorem keepsIdentity_drainedBy (fds : List FileDescriptor) :
    KeepsIdentity fun _ ↦ drainedBy fds :=
  ⟨fun _ ↦ drainedBy_serviceName fds, fun _ ↦ drainedBy_fileDescriptor fds⟩

theorem getStoredListener_drainAll (ws : WaitSet) (fds : List FileDescriptor)
    (ty : WaitableEntity) (k : StorageIndex) : (ws.drainAll fds).getStoredListener ty k =
      (ws.getStoredListener ty k).map (drainedBy fds) := getStoredListener_mapListeners

theorem eq_of_listenerStorage (h : ∀ ty k, ws.getStoredListener ty k = ws'.getStoredListener ty k)
    (hm : ws.mapping = ws'.mapping) : ws = ws' := by
  have hs : ∀ ty, ws.listenerStorage ty = ws'.listenerStorage ty :=
    fun ty ↦ List.ext_getElem? (h ty)
  have hg := hs .guardCondition
  have hsub := hs .subscriber
  cases ws
  cases ws'
  simp only [listenerStorage] at hg hsub
  simp only at hm
  rw [hg, hsub, hm]

@[simp] theorem drainAll_nil (ws : WaitSet) : ws.drainAll [] = ws := by
  refine eq_of_listenerStorage (fun ty k ↦ ?_) rfl
  rw [getStoredListener_drainAll]
  exact Option.map_id_fun' ▸ rfl

theorem drainAll_drainAll (ws : WaitSet) (fds fds' : List FileDescriptor) :
    (ws.drainAll fds).drainAll fds' = ws.drainAll (fds ++ fds') := by
  refine eq_of_listenerStorage (fun ty k ↦ ?_) rfl
  simp only [getStoredListener_drainAll, Option.map_map]
  congr 1
  funext d
  by_cases h : d.listener.fileDescriptor ∈ fds <;>
    by_cases h' : d.listener.fileDescriptor ∈ fds' <;>
      simp [drainedBy, h, h', ListenerDetails.drained]

theorem getStoredListener_drainListener (ws : WaitSet) (ty ty' : WaitableEntity)
    (k k' : StorageIndex) :
    (ws.drainListener ty k).getStoredListener ty' k' =
      if ty' = ty ∧ k' = k then (ws.getStoredListener ty' k').map ListenerDetails.drained
      else ws.getStoredListener ty' k' := by
  unfold WaitSet.drainListener getStoredListener
  by_cases hty : ty' = ty
  · subst hty
    rw [listenerStorage_setStorage, List.getElem?_modify]
    by_cases hk : k = k'
    · subst hk
      simp
    · simp [hk, Ne.symm hk]
  · rw [listenerStorage_setStorage_of_ne _ hty, if_neg (fun h ↦ hty h.1)]

theorem drainListener_eq (h : DistinctDescriptors ws) {d : ListenerDetails}
    (hd : ws.getStoredListener ty k = some d) :
    ws.drainListener ty k = ws.drainAll [d.listener.fileDescriptor] := by
  refine eq_of_listenerStorage (fun ty' k' ↦ ?_) (mapping_setStorage _ _ _)
  rw [getStoredListener_drainListener, getStoredListener_drainAll]
  split
  · rename_i hsame
    obtain ⟨rfl, rfl⟩ := hsame
    simp [hd, drainedBy]
  · rename_i hother
    cases hd' : ws.getStoredListener ty' k' with
    | none => rfl
    | some d' =>
      have hne : d'.listener.fileDescriptor ≠ d.listener.fileDescriptor :=
        fun he ↦ hother (h hd' hd he)
      simp [drainedBy, hne]

/-- Each attachment is that of the listener its mapping points at. -/
def AttachedTo (ws : WaitSet) (attached : List AttachmentDetails) : Prop :=
  ∀ a ∈ attached, ∃ d, ws.getStoredListener a.mapping.waitableType a.mapping.storageIndex = some d ∧
    a.id = .notification d.listener.fileDescriptor

theorem attachMappedListeners_ok {ms : List RmwMapping} {attached : List AttachmentDetails}
    (h : ws.attachMappedListeners mw ms = .ok attached) :
    attached.map (·.mapping) = ms ∧ AttachedTo ws attached := by
  induction ms generalizing attached with
  | nil =>
    cases h
    exact ⟨rfl, by simp [AttachedTo]⟩
  | cons m ms ih =>
    unfold attachMappedListeners at h
    split at h
    · cases h
    · rename_i a ha
      split at h
      · cases h
      · rename_i rest hrest
        cases h
        obtain ⟨hmap, hatt⟩ := ih hrest
        unfold attachMappedListener at ha
        split at ha
        · rename_i d hd
          split at ha
          · cases ha
          · cases ha
            refine ⟨by simp [hmap], fun a ha ↦ ?_⟩
            rcases List.mem_cons.mp ha with rfl | ha
            · exact ⟨d, hd, rfl⟩
            · exact hatt a ha
        · cases ha

/-- The ids that reach the callback before it stops the run. -/
def handedOver (attachedTimeout : Option AttachmentId) (events : List AttachmentId) :
    List AttachmentId := events.takeWhile fun id ↦ attachedTimeout ≠ some id

/-- What the callback reports and drains for an id it is given. -/
def reported (mw : Middleware) (attached : List AttachmentDetails) (id : AttachmentId) :
    Option (TriggeredWaitable × FileDescriptor) :=
  match attached.find? (·.id = id), id with
  | some a, .notification fd =>
    match mw.tryWaitAll fd with
    | .ok () => some (⟨a.mapping.waitableType, a.mapping.rmwIndex⟩, fd)
    | .error _ => none
  | _, _ => none

theorem AttachedTo.drainAll {attached : List AttachmentDetails} (h : AttachedTo ws attached)
    (fds : List FileDescriptor) : AttachedTo (ws.drainAll fds) attached := by
  intro a ha
  obtain ⟨d, hd, hid⟩ := h a ha
  exact ⟨drainedBy fds d, by rw [getStoredListener_drainAll, hd]; rfl,
    by rw [hid, drainedBy_fileDescriptor]⟩

variable (mw) in
theorem onEvent_cases {attachedTimeout : Option AttachmentId} {attached : List AttachmentDetails}
    {p : Progress} {id : AttachmentId} (hatt : AttachedTo p.waitSet attached)
    (hid : attachedTimeout ≠ some id) :
    (reported mw attached id = none ∧ ∃ chain,
      onEvent mw attachedTimeout attached p id = ({ p with chain := chain }, .continue)) ∨
    ∃ a ∈ attached, ∃ d, p.waitSet.getStoredListener a.mapping.waitableType
        a.mapping.storageIndex = some d ∧ a.id = .notification d.listener.fileDescriptor ∧
      reported mw attached id =
        some (⟨a.mapping.waitableType, a.mapping.rmwIndex⟩, d.listener.fileDescriptor) ∧
      onEvent mw attachedTimeout attached p id =
        ({ p with
            waitSet := p.waitSet.drainListener a.mapping.waitableType a.mapping.storageIndex
            result := p.result ++ [⟨a.mapping.waitableType, a.mapping.rmwIndex⟩]
            drained := p.drained ++ [d.listener.fileDescriptor] }, .continue) := by
  unfold onEvent
  rw [if_neg hid]
  cases hfind : attached.find? (·.id = id) with
  | none => exact Or.inl ⟨by simp [reported, hfind], p.chain, rfl⟩
  | some a =>
    have ha : a ∈ attached := List.mem_of_find?_eq_some hfind
    have hida : a.id = id := by simpa using List.find?_some hfind
    obtain ⟨d, hd, hfd⟩ := hatt a ha
    rw [hida] at hfd
    cases hdrain : mw.tryWaitAll d.listener.fileDescriptor with
    | error e =>
      left
      refine ⟨by subst hfd; simp [reported, hfind, hdrain],
        "failed to retrieve events from listener" :: p.chain, ?_⟩
      simp only [processTrigger, hd, hdrain, List.singleton_append]
    | ok u =>
      right
      refine ⟨a, ha, d, hd, hida.trans hfd, by subst hfd; simp [reported, hfind, hdrain], ?_⟩
      simp only [processTrigger, hd, hdrain]

variable (mw) in
/-- The callbacks report and drain, in order, what was handed over before the stop. -/
theorem processEvents_eq {attachedTimeout : Option AttachmentId}
    {attached : List AttachmentDetails} {events : List AttachmentId} {p : Progress}
    (hatt : AttachedTo p.waitSet attached) (hd : DistinctDescriptors p.waitSet)
    {r : List (TriggeredWaitable × FileDescriptor)}
    (hr : (handedOver attachedTimeout events).filterMap (reported mw attached) = r) :
    ∃ chain, processEvents mw attachedTimeout attached events p =
      ⟨p.waitSet.drainAll (r.map Prod.snd), p.result ++ r.map Prod.fst,
        p.drained ++ r.map Prod.snd, chain⟩ := by
  induction events generalizing p r with
  | nil =>
    subst hr
    exact ⟨p.chain, by simp [processEvents, handedOver]⟩
  | cons id ids ih =>
    by_cases hid : attachedTimeout = some id
    · subst hr
      exact ⟨p.chain, by simp [processEvents, onEvent, handedOver, hid]⟩
    · have htake : handedOver attachedTimeout (id :: ids) =
          id :: handedOver attachedTimeout ids := by simp [handedOver, hid]
      rw [htake, List.filterMap_cons] at hr
      rcases onEvent_cases mw hatt hid with ⟨hrep, chain, hev⟩ |
          ⟨a, ha, d, hget, -, hrep, hev⟩
      · rw [hrep] at hr
        simp only [processEvents, hev]
        exact ih (p := ⟨p.waitSet, p.result, p.drained, chain⟩) hatt hd hr
      · rw [hrep] at hr
        subst hr
        simp only [processEvents, hev]
        rw [drainListener_eq hd hget]
        obtain ⟨chain, hrest⟩ := ih (p := ⟨p.waitSet.drainAll [d.listener.fileDescriptor],
          p.result ++ [⟨a.mapping.waitableType, a.mapping.rmwIndex⟩],
          p.drained ++ [d.listener.fileDescriptor], p.chain⟩) (hatt.drainAll _)
          (hd.mapListeners (keepsIdentity_drainedBy _)) rfl
        exact ⟨chain, by rw [hrest]; simp [drainAll_drainAll]⟩

end RmwIceoryx2.Runtime.WaitSet
