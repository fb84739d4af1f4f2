import Mathlib.Data.List.Basic

namespace RmwIceoryx2.Message

inductive Lang
  | c | cpp
  deriving DecidableEq, Repr

inductive RosType
  | float | double | longDouble | char | wchar | boolean | octet | uint8 | int8 | uint16 | int16
  | uint32 | int32 | uint64 | int64 | string | wstring | message
  deriving DecidableEq, Repr

mutual

/-- `MessageMembers` of `rosidl_typesupport_introspection`: the size of the generated struct and
its members. -/
inductive MessageMembers (lang : Lang) : Type
  | mk (sizeOf : ℕ) (members : List (MessageMember lang))

/-- A member. The handle of a nested description may be null, and so may its `data`. -/
inductive MessageMember (lang : Lang) : Type
  | mk (typeId : RosType) (isArray : Bool) (arraySize : ℕ) (isUpperBound : Bool)
    (members : Option (Option (MessageMembers lang)))

end

variable {lang : Lang}

def MessageMembers.sizeOf : MessageMembers lang → ℕ
  | ⟨sizeOf, _⟩ => sizeOf

def MessageMembers.members : MessageMembers lang → List (MessageMember lang)
  | ⟨_, members⟩ => members

namespace MessageMember

def typeId : MessageMember lang → RosType
  | ⟨typeId, _, _, _, _⟩ => typeId

def isArray : MessageMember lang → Bool
  | ⟨_, isArray, _, _, _⟩ => isArray

def arraySize : MessageMember lang → ℕ
  | ⟨_, _, arraySize, _, _⟩ => arraySize

def isUpperBound : MessageMember lang → Bool
  | ⟨_, _, _, isUpperBound, _⟩ => isUpperBound

def members : MessageMember lang → Option (Option (MessageMembers lang))
  | ⟨_, _, _, _, members⟩ => members

end MessageMember

/-- Induction with a hypothesis for every description that a member refers to. -/
@[elab_as_elim]
theorem MessageMembers.nestedInduction {P : MessageMembers lang → Prop}
    (step : ∀ d : MessageMembers lang,
      (∀ m ∈ d.members, ∀ d', m.members = some (some d') → P d') → P d)
    (d : MessageMembers lang) : P d :=
  @MessageMembers.rec lang P
    (fun m ↦ ∀ d, m.members = some (some d) → P d)
    (fun members ↦ ∀ m ∈ members, ∀ d, m.members = some (some d) → P d)
    (fun handle ↦ ∀ d, handle = some (some d) → P d)
    (fun data ↦ ∀ d, data = some d → P d)
    (fun s members ih ↦ step ⟨s, members⟩ ih)
    (fun _ _ _ _ _ ih ↦ ih)
    (fun _ hm ↦ (List.not_mem_nil hm).elim)
    (fun _ _ hm hmembers ↦ List.forall_mem_cons.mpr ⟨hm, hmembers⟩)
    (fun _ hd ↦ nomatch hd)
    (fun _ ih d hd ↦ ih d (Option.some_inj.mp hd))
    (fun _ hd ↦ nomatch hd)
    (fun _ ih _ hd ↦ Option.some_inj.mp hd ▸ ih)
    d

def isMessage (member : MessageMember lang) : Bool := member.typeId = .message

def isDynamicArray (member : MessageMember lang) : Bool :=
  member.isArray && (member.arraySize = 0 || member.isUpperBound)

def isDynamicString (member : MessageMember lang) : Bool := member.typeId = .string

mutual

/-- The two overloads of `is_pod` on descriptions differ only in the types they are written for. -/
def isPodMembers : MessageMembers lang → Bool
  | ⟨_, members⟩ => isPodLoop members

def isPodLoop : List (MessageMember lang) → Bool
  | [] => true
  | member :: members => isPodMember member && isPodLoop members

def isPodMember : MessageMember lang → Bool
  | ⟨typeId, isArray, arraySize, isUpperBound, members⟩ =>
    if isDynamicArray ⟨typeId, isArray, arraySize, isUpperBound, members⟩ ||
        isDynamicString ⟨typeId, isArray, arraySize, isUpperBound, members⟩ then false
    else if isMessage ⟨typeId, isArray, arraySize, isUpperBound, members⟩ then isPodNested members
    else true

def isPodNested : Option (Option (MessageMembers lang)) → Bool
  | none => false
  | some none => false
  | some (some members) => isPodMembers members

end

def isPodMembersPtr (members : Option (MessageMembers lang)) : Bool :=
  match members with
  | none => false
  | some members => isPodMembers members

def isPodC (members : Option (MessageMembers .c)) : Bool := isPodMembersPtr members

def isPodCpp (members : Option (MessageMembers .cpp)) : Bool := isPodMembersPtr members

theorem isPodLoop_iff {members : List (MessageMember lang)} :
    isPodLoop members = true ↔ ∀ m ∈ members, isPodMember m = true := by
  induction members with
  | nil => simp [isPodLoop]
  | cons m members ih => rw [isPodLoop, Bool.and_eq_true, ih, List.forall_mem_cons]

theorem isPodMembers_members {d : MessageMembers lang} :
    isPodMembers d = true ↔ ∀ m ∈ d.members, isPodMember m = true := by
  obtain ⟨s, members⟩ := d
  exact isPodLoop_iff

theorem isPodNested_iff {members : Option (Option (MessageMembers lang))} :
    isPodNested members = true ↔ ∃ d, members = some (some d) ∧ isPodMembers d = true := by
  match members with
  | none => simp [isPodNested]
  | some none => simp [isPodNested]
  | some (some d) => simp [isPodNested]

theorem isPodMember_iff {m : MessageMember lang} : isPodMember m = true ↔
    isDynamicArray m = false ∧ isDynamicString m = false ∧
      (isMessage m = true → ∃ d, m.members = some (some d) ∧ isPodMembers d = true) := by
  obtain ⟨typeId, isArray, arraySize, isUpperBound, members⟩ := m
  rw [isPodMember, MessageMember.members, ← isPodNested_iff]
  cases isDynamicArray ⟨typeId, isArray, arraySize, isUpperBound, members⟩ <;>
    cases isDynamicString ⟨typeId, isArray, arraySize, isUpperBound, members⟩ <;>
      cases isMessage ⟨typeId, isArray, arraySize, isUpperBound, members⟩ <;> simp

/-- A member lies in the generated struct: at its top level, or within a nested struct or a fixed
array of them. -/
inductive Reaches : MessageMembers lang → MessageMember lang → Prop
  | member {d : MessageMembers lang} {m : MessageMember lang} : m ∈ d.members → Reaches d m
  | nested {d d' : MessageMembers lang} {m m' : MessageMember lang} : m ∈ d.members →
      isMessage m = true → isDynamicArray m = false → m.members = some (some d') →
        Reaches d' m' → Reaches d m'

def IsSequence (m : MessageMember lang) : Prop :=
  m.isArray = true ∧ (m.arraySize = 0 ∨ m.isUpperBound = true)

def NestedMissing (m : MessageMember lang) : Prop :=
  m.typeId = .message ∧ ∀ d, m.members ≠ some (some d)

/-- The generated struct holds no pointer: every member in it is stored in place. -/
def SelfContained (members : Option (MessageMembers lang)) : Prop :=
  ∃ d, members = some d ∧ ∀ m, Reaches d m → m.typeId ≠ .string ∧ m.typeId ≠ .wstring ∧
    ¬ IsSequence m ∧ ¬ NestedMissing m

theorem isDynamicArray_iff {m : MessageMember lang} : isDynamicArray m = true ↔ IsSequence m := by
  simp [isDynamicArray, IsSequence]

theorem isDynamicString_iff {m : MessageMember lang} :
    isDynamicString m = true ↔ m.typeId = .string := by
  simp [isDynamicString]

def Rejected (m : MessageMember lang) : Prop :=
  m.typeId = .string ∨ IsSequence m ∨ NestedMissing m

theorem isPodMembers_of_reaches (d : MessageMembers lang)
    (h : ∀ m, Reaches d m → ¬ Rejected m) : isPodMembers d = true := by
  induction d using MessageMembers.nestedInduction with
  | step d ih =>
    refine isPodMembers_members.mpr fun m hm ↦ isPodMember_iff.mpr ?_
    have hm' := h m (.member hm)
    have harr : isDynamicArray m = false :=
      Bool.eq_false_iff.mpr fun ha ↦ hm' (Or.inr (Or.inl (isDynamicArray_iff.mp ha)))
    refine ⟨harr, Bool.eq_false_iff.mpr fun hs ↦ hm' (Or.inl (isDynamicString_iff.mp hs)),
      fun hmsg ↦ ?_⟩
    by_contra hno
    refine hm' (Or.inr (Or.inr ⟨of_decide_eq_true hmsg, fun d' hd' ↦ hno ⟨d', hd', ?_⟩⟩))
    exact ih m hm d' hd' fun m' hm' ↦ h m' (.nested hm hmsg harr hd' hm')

/-- `is_pod` accepts a description exactly when it reaches nothing that it looks for. -/
theorem isPodMembers_iff (d : MessageMembers lang) :
    isPodMembers d = true ↔ ∀ m, Reaches d m → ¬ Rejected m := by
  refine ⟨fun h m hm ↦ ?_, isPodMembers_of_reaches d⟩
  induction hm with
  | member hm =>
    obtain ⟨harr, hstr, hmsg⟩ := isPodMember_iff.mp (isPodMembers_members.mp h _ hm)
    intro hrej
    rcases hrej with htype | hseq | ⟨htype, hno⟩
    · rw [isDynamicString_iff.mpr htype] at hstr
      cases hstr
    · rw [isDynamicArray_iff.mpr hseq] at harr
      cases harr
    · obtain ⟨d', hd', -⟩ := hmsg (by simp [isMessage, htype])
      exact hno d' hd'
  | nested hm hmsg _ hd' _ ih =>
    obtain ⟨-, -, hpod⟩ := isPodMember_iff.mp (isPodMembers_members.mp h _ hm)
    obtain ⟨d'', hd'', hpod'⟩ := hpod hmsg
    rw [hd', Option.some_inj, Option.some_inj] at hd''
    exact ih (hd'' ▸ hpod')

theorem isPodMembersPtr_iff {members : Option (MessageMembers lang)} :
    isPodMembersPtr members = true ↔ ∃ d, members = some d ∧ ∀ m, Reaches d m → ¬ Rejected m := by
  cases members with
  | none => simp [isPodMembersPtr]
  | some d => simp [isPodMembersPtr, isPodMembers_iff]

/-- No wide string lies in the generated struct, or something that the code looks for does. -/
def WideStringsNoticed (members : Option (MessageMembers lang)) : Prop :=
  ∀ d, members = some d →
    (∀ m, Reaches d m → m.typeId ≠ .wstring) ∨ ∃ m, Reaches d m ∧ Rejected m

theorem isPodMembersPtr_selfContained_iff {members : Option (MessageMembers lang)} :
    (isPodMembersPtr members = true ↔ SelfContained members) ↔ WideStringsNoticed members := by
  rw [isPodMembersPtr_iff]
  unfold SelfContained WideStringsNoticed
  constructor
  · intro h d hd
    by_cases hrej : ∃ m, Reaches d m ∧ Rejected m
    · exact Or.inr hrej
    · left
      intro m hm
      obtain ⟨d', hd', hall⟩ := h.mp ⟨d, hd, fun m hm hr ↦ hrej ⟨m, hm, hr⟩⟩
      rw [hd, Option.some_inj] at hd'
      exact (hall m (hd' ▸ hm)).2.1
  · intro h
    constructor
    · intro hpod
      obtain ⟨d, hd, hall⟩ := hpod
      refine ⟨d, hd, fun m hm ↦ ?_⟩
      have hno : ∀ m, Reaches d m → m.typeId ≠ .wstring :=
        (h d hd).resolve_right (fun hrej ↦ by obtain ⟨m, hm, hr⟩ := hrej; exact hall m hm hr)
      exact ⟨fun ht ↦ hall m hm (Or.inl ht), hno m hm, fun hs ↦ hall m hm (Or.inr (Or.inl hs)),
        fun hn ↦ hall m hm (Or.inr (Or.inr hn))⟩
    · intro hself
      obtain ⟨d, hd, hall⟩ := hself
      refine ⟨d, hd, fun m hm hrej ↦ ?_⟩
      obtain ⟨hstr, -, hseq, hnest⟩ := hall m hm
      rcases hrej with ht | hs | hn
      · exact hstr ht
      · exact hseq hs
      · exact hnest hn

section Corresponding

variable {lang' : Lang}

mutual

/-- The description of the same message generated for another language. -/
def MessageMembers.forLang (lang' : Lang) : MessageMembers lang → MessageMembers lang'
  | ⟨s, members⟩ => ⟨s, forLangList lang' members⟩

def forLangList (lang' : Lang) : List (MessageMember lang) → List (MessageMember lang')
  | [] => []
  | m :: members => forLangMember lang' m :: forLangList lang' members

def forLangMember (lang' : Lang) : MessageMember lang → MessageMember lang'
  | ⟨typeId, isArray, arraySize, isUpperBound, members⟩ =>
    ⟨typeId, isArray, arraySize, isUpperBound, forLangNested lang' members⟩

def forLangNested (lang' : Lang) :
    Option (Option (MessageMembers lang)) → Option (Option (MessageMembers lang'))
  | none => none
  | some none => some none
  | some (some d) => some (some (d.forLang lang'))

end

theorem forLangList_eq (members : List (MessageMember lang)) :
    forLangList lang' members = members.map (forLangMember lang') := by
  induction members with
  | nil => rfl
  | cons m members ih => rw [forLangList, ih, List.map_cons]

theorem mem_forLangList {members : List (MessageMember lang)} {m : MessageMember lang}
    (h : m ∈ members) : forLangMember lang' m ∈ forLangList lang' members := by
  rw [forLangList_eq]
  exact List.mem_map_of_mem h

theorem isPodMember_forLang {m : MessageMember lang}
    (h : ∀ d, m.members = some (some d) → isPodMembers (d.forLang lang') = isPodMembers d) :
    isPodMember (forLangMember lang' m) = isPodMember m := by
  obtain ⟨typeId, isArray, arraySize, isUpperBound, members⟩ := m
  have hnested : isPodNested (forLangNested lang' members) = isPodNested members := by
    match members with
    | none => rfl
    | some none => rfl
    | some (some d) => exact h d rfl
  rw [forLangMember, isPodMember, isPodMember, hnested]
  rfl

theorem isPodMembers_forLang (d : MessageMembers lang) :
    isPodMembers (d.forLang lang') = isPodMembers d := by
  induction d using MessageMembers.nestedInduction with
  | step d ih =>
    obtain ⟨s, members⟩ := d
    rw [Bool.eq_iff_iff, isPodMembers_members, isPodMembers_members, MessageMembers.forLang,
      MessageMembers.members, forLangList_eq, List.forall_mem_map]
    exact forall₂_congr fun m hm ↦ by rw [isPodMember_forLang (ih m hm)]

theorem forLangNested_forLangNested {members : Option (Option (MessageMembers lang))}
    (h : ∀ d, members = some (some d) → (d.forLang lang').forLang lang = d) :
    forLangNested lang (forLangNested lang' members) = members := by
  match members with
  | none => rfl
  | some none => rfl
  | some (some d) => rw [forLangNested, forLangNested, h d rfl]

theorem forLangMember_forLangMember {m : MessageMember lang}
    (h : ∀ d, m.members = some (some d) → (d.forLang lang').forLang lang = d) :
    forLangMember lang (forLangMember lang' m) = m := by
  obtain ⟨typeId, isArray, arraySize, isUpperBound, members⟩ := m
  rw [MessageMember.members] at h
  rw [forLangMember, forLangMember, forLangNested_forLangNested h]

theorem forLang_forLang (d : MessageMembers lang) : (d.forLang lang').forLang lang = d := by
  induction d using MessageMembers.nestedInduction with
  | step d ih =>
    obtain ⟨s, members⟩ := d
    have hmembers : members.map (forLangMember lang ∘ forLangMember lang') = members.map id :=
      List.map_congr_left fun m hm ↦ forLangMember_forLangMember (ih m hm)
    rw [MessageMembers.forLang, MessageMembers.forLang, forLangList_eq, forLangList_eq,
      List.map_map, hmembers, List.map_id]

theorem Reaches.forLang {d : MessageMembers lang} {m : MessageMember lang} (h : Reaches d m) :
    Reaches (d.forLang lang') (forLangMember lang' m) := by
  induction h with
  | @member d m hm =>
    obtain ⟨s, members⟩ := d
    exact .member (mem_forLangList hm)
  | @nested d d' m m' hm hmsg harr hd' _ ih =>
    obtain ⟨s, members⟩ := d
    obtain ⟨typeId, isArray, arraySize, isUpperBound, nested⟩ := m
    refine .nested (mem_forLangList hm) hmsg harr ?_ ih
    rw [MessageMember.members] at hd'
    rw [hd']
    rfl

theorem selfContained_forLang (members : Option (MessageMembers lang)) :
    SelfContained (members.map (·.forLang lang')) ↔ SelfContained members := by
  have hone : ∀ (l l' : Lang) (d : MessageMembers l),
      SelfContained (some (d.forLang l')) → SelfContained (some d) := by
    intro l l' d h
    obtain ⟨d', hd', hall⟩ := h
    cases hd'
    refine ⟨d, rfl, fun m hm ↦ ?_⟩
    obtain ⟨hstr, hwstr, hseq, hnest⟩ := hall _ hm.forLang
    obtain ⟨typeId, isArray, arraySize, isUpperBound, nested⟩ := m
    refine ⟨hstr, hwstr, hseq, fun hno ↦ hnest ⟨hno.1, fun d' hd' ↦ ?_⟩⟩
    have hback : forLangNested l (forLangNested l' nested) = nested :=
      forLangNested_forLangNested fun d _ ↦ forLang_forLang d
    rw [forLangMember, MessageMember.members] at hd'
    rw [hd'] at hback
    exact hno.2 _ hback.symm
  cases members with
  | none => simp [SelfContained]
  | some d => exact ⟨hone _ _ d, fun h ↦ hone _ lang _ ((forLang_forLang d).symm ▸ h)⟩

end Corresponding

/-- On a description in C and the same description in C++ both overloads decide
self-containedness, and agree, exactly if no wide string goes unnoticed. -/
theorem isPod_decides_selfContained_iff (members : Option (MessageMembers .c)) :
    ((isPodC members = true ↔ SelfContained members) ∧
      (isPodCpp (members.map (·.forLang .cpp)) = true ↔
        SelfContained (members.map (·.forLang .cpp))) ∧
      isPodCpp (members.map (·.forLang .cpp)) = isPodC members) ↔ WideStringsNoticed members := by
  have hagree : isPodCpp (members.map (·.forLang .cpp)) = isPodC members := by
    cases members with
    | none => rfl
    | some d => exact isPodMembers_forLang d
  rw [hagree, selfContained_forLang, isPodC, isPodMembersPtr_selfContained_iff]
  simp

def wideText : MessageMembers .c := ⟨32, [⟨.wstring, false, 0, false, none⟩]⟩

theorem wide_text_is_pod :
    ¬ ((isPodC (some wideText) = true ↔ SelfContained (some wideText)) ∧
      (isPodCpp ((some wideText).map (·.forLang .cpp)) = true ↔
        SelfContained ((some wideText).map (·.forLang .cpp))) ∧
      isPodCpp ((some wideText).map (·.forLang .cpp)) = isPodC (some wideText)) := by
  intro h
  obtain ⟨d, hd, hall⟩ := h.1.mp (by decide)
  cases hd
  exact (hall _ (.member (List.mem_singleton_self _))).2.1 rfl

end RmwIceoryx2.Message
