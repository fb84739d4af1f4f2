import RmwIceoryx2.Library.Alignment
import RmwIceoryx2.Message.Introspection

namespace RmwIceoryx2.Message

open RmwIceoryx2.Library

/-- Vectors and texts hold a pointer, and nothing that is aligned more strictly. -/
def pointerAlignment : ByteAlignment := ⟨8, 3, rfl⟩

/-- The alignment of the generated type of a member in the x86-64 System V ABI. A nested message
has the alignment of its own struct. -/
def RosType.alignment : RosType → ByteAlignment
  | .char | .boolean | .octet | .uint8 | .int8 => .byte
  | .wchar | .uint16 | .int16 => ⟨2, 1, rfl⟩
  | .float | .uint32 | .int32 => ⟨4, 2, rfl⟩
  | .double | .uint64 | .int64 => ⟨8, 3, rfl⟩
  | .longDouble => ⟨16, 4, rfl⟩
  | .string | .wstring => pointerAlignment
  | .message => .byte

variable {lang : Lang}

mutual

def MessageMembers.alignment : MessageMembers lang → ByteAlignment
  | ⟨_, members⟩ => .ofMembers (memberAlignments members)

def memberAlignments : List (MessageMember lang) → List ByteAlignment
  | [] => []
  | member :: members => memberAlignment member :: memberAlignments members

/-- A fixed array is aligned as its elements are. -/
def memberAlignment : MessageMember lang → ByteAlignment
  | ⟨typeId, isArray, arraySize, isUpperBound, members⟩ =>
    if isDynamicArray ⟨typeId, isArray, arraySize, isUpperBound, members⟩ then pointerAlignment
    else if isMessage ⟨typeId, isArray, arraySize, isUpperBound, members⟩ then
      nestedAlignment members
    else typeId.alignment

def nestedAlignment : Option (Option (MessageMembers lang)) → ByteAlignment
  | none => .byte
  | some none => .byte
  | some (some members) => members.alignment

end

/-- What a member contributes besides the members nested in it. -/
def ownAlignment (m : MessageMember lang) : ByteAlignment :=
  if isDynamicArray m then pointerAlignment else m.typeId.alignment

theorem memberAlignment_eq (m : MessageMember lang) : memberAlignment m =
    if isDynamicArray m then pointerAlignment
    else if isMessage m then nestedAlignment m.members else m.typeId.alignment := by
  obtain ⟨typeId, isArray, arraySize, isUpperBound, members⟩ := m
  rw [memberAlignment]
  rfl

theorem memberAlignments_eq (members : List (MessageMember lang)) :
    memberAlignments members = members.map memberAlignment := by
  induction members with
  | nil => rfl
  | cons m members ih => rw [memberAlignments, ih, List.map_cons]

theorem alignment_dvd_members {d : MessageMembers lang} {n : ℕ} :
    d.alignment.val ∣ n ↔ ∀ m ∈ d.members, (memberAlignment m).val ∣ n := by
  obtain ⟨s, members⟩ := d
  rw [MessageMembers.alignment, ByteAlignment.ofMembers_dvd_iff, memberAlignments_eq,
    List.forall_mem_map]
  rfl

theorem ownAlignment_dvd {m : MessageMember lang} {n : ℕ} (h : (memberAlignment m).val ∣ n) :
    (ownAlignment m).val ∣ n := by
  rw [memberAlignment_eq] at h
  unfold ownAlignment
  split
  · rename_i harr
    rwa [if_pos harr] at h
  · rename_i harr
    rw [if_neg harr] at h
    split at h
    · rename_i hmsg
      rw [show m.typeId = .message from of_decide_eq_true hmsg]
      exact Nat.one_dvd n
    · exact h

/-- A struct is as strictly aligned as the strictest of the members that lie in it, at any depth. -/
theorem alignment_dvd_iff (d : MessageMembers lang) (n : ℕ) :
    d.alignment.val ∣ n ↔ ∀ m, Reaches d m → (ownAlignment m).val ∣ n := by
  constructor
  · intro h m hm
    induction hm with
    | member hm => exact ownAlignment_dvd (alignment_dvd_members.mp h _ hm)
    | nested hm hmsg harr hd' _ ih =>
      have hmember := alignment_dvd_members.mp h _ hm
      rw [memberAlignment_eq, harr, hmsg, hd'] at hmember
      exact ih hmember
  · intro h
    induction d using MessageMembers.nestedInduction with
    | step d ih =>
      refine alignment_dvd_members.mpr fun m hm ↦ ?_
      have hown := h m (.member hm)
      unfold ownAlignment at hown
      rw [memberAlignment_eq]
      cases harr : isDynamicArray m with
      | true =>
        rw [harr] at hown
        exact hown
      | false =>
        rw [harr] at hown
        cases hmsg : isMessage m with
        | false => exact hown
        | true =>
          cases hnested : m.members with
          | none => exact Nat.one_dvd n
          | some handle =>
            cases handle with
            | none => exact Nat.one_dvd n
            | some d' =>
              exact ih m hm d' hnested fun m' hm' ↦ h m' (.nested hm hmsg harr hnested hm')

theorem RosType.alignment_dvd_eight_iff (typeId : RosType) :
    typeId.alignment.val ∣ 8 ↔ typeId ≠ .longDouble := by
  cases typeId <;> decide

theorem alignment_dvd_eight_iff {d : MessageMembers lang} (hpod : isPodMembers d = true) :
    d.alignment.val ∣ 8 ↔ ∀ m, Reaches d m → m.typeId ≠ .longDouble := by
  rw [alignment_dvd_iff]
  refine forall₂_congr fun m hm ↦ ?_
  have harr : isDynamicArray m = false := by
    refine Bool.eq_false_iff.mpr fun ha ↦ ?_
    exact (isPodMembers_iff d).mp hpod m hm (Or.inr (Or.inl (isDynamicArray_iff.mp ha)))
  rw [ownAlignment, harr]
  exact m.typeId.alignment_dvd_eight_iff

end RmwIceoryx2.Message
