import RmwIceoryx2.Message.TypeSupport

namespace RmwIceoryx2.Message

open RmwIceoryx2.Runtime

/-- A message type with values in `M`, as generated for both languages. A process reads the value of
a struct off its bytes and its memory `H`. -/
structure MessageType (M H : Type) where
  description : (lang : Lang) → MessageMembers lang
  callbacks : Lang → Callbacks M
  read : Lang → H → Bytes → M
  /-- A struct without pointers has one meaning in all processes. -/
  read_selfContained : SelfContained (some (description .cpp)) →
    ∀ memory memory' bytes, read .cpp memory bytes = read .cpp memory' bytes
  read_pointers : ¬ SelfContained (some (description .cpp)) → ∃ memory memory' bytes,
    bytes.length = (description .cpp).sizeOf ∧ read .cpp memory bytes ≠ read .cpp memory' bytes
  /-- In a buffer of the announced size CDR round-trips, whatever follows in the buffer. -/
  roundTrip : ∀ value capacity, (callbacks .cpp).getSerializedSize value ≤ capacity →
    ∃ bytes, (callbacks .cpp).cdrSerialize value capacity = .ok bytes ∧
      ∀ rest, (callbacks .cpp).cdrDeserialize (bytes ++ rest) = .ok value

variable {M H : Type} (t : MessageType M H)

/-- `get_message_typesupport_handle` resolves the identifiers of the own language only. -/
def MessageType.typeSupport : Lang → TypeSupport M
  | .c => ⟨true, some (t.description .c), none, some (some (t.callbacks .c)), none⟩
  | .cpp => ⟨true, none, some (t.description .cpp), none, some (some (t.callbacks .cpp))⟩

def MessageType.Represents (lang : Lang) (memory : H) (m : RosMessage M) : Prop :=
  m.bytes.length = (t.description lang).sizeOf ∧ t.read lang memory m.bytes = m.value

theorem textMembers_not_selfContained (lang : Lang) : ¬ SelfContained (some (textMembers lang)) := by
  intro h
  obtain ⟨d, hd, hall⟩ := h
  obtain rfl := Option.some_inj.mp hd
  exact (hall _ (.member (List.mem_singleton_self _))).1 rfl

instance : Inhabited Text := ⟨⟨[], by decide⟩⟩

def textType : MessageType Text Text where
  description := textMembers
  callbacks _ := textCallbacks
  read _ memory _ := memory
  read_selfContained h := absurd h (textMembers_not_selfContained .cpp)
  read_pointers _ := ⟨⟨[], by decide⟩, ⟨[97], by decide⟩, List.replicate 32 0, by decide, by decide⟩
  roundTrip text capacity hsize := by
    refine ⟨cdrText text, ?_, cdrTextOf_cdrText text⟩
    rw [← cdrText_length] at hsize
    simp only [textCallbacks, hsize, if_true]

def flagMembers (lang : Lang) : MessageMembers lang := ⟨1, [⟨.boolean, false, 0, false, none⟩]⟩

theorem flagMembers_selfContained (lang : Lang) : SelfContained (some (flagMembers lang)) := by
  refine ⟨_, rfl, fun m hm ↦ ?_⟩
  have hone : m = ⟨.boolean, false, 0, false, none⟩ := by
    cases hm with
    | member hm => exact List.mem_singleton.mp hm
    | nested hm hmessage _ _ _ =>
      obtain rfl := List.mem_singleton.mp hm
      cases hmessage
  subst hone
  simp [MessageMember.typeId, IsSequence, MessageMember.isArray, NestedMissing]

def cdrFlagOf : Bytes → Except String Bool
  | byte :: _ => .ok (byte != 0)
  | [] => .error "NotEnoughMemory"

def flagCallbacks : Callbacks Bool where
  getSerializedSize _ := 1
  cdrSerialize flag capacity :=
    if 1 ≤ capacity then .ok [if flag then 1 else 0] else .error "NotEnoughMemory"
  cdrDeserialize := cdrFlagOf

/-- `bool data`, which lies in the struct itself. -/
def flagType : MessageType Bool Unit where
  description := flagMembers
  callbacks _ := flagCallbacks
  read _ _ bytes := bytes.headD 0 != 0
  read_selfContained _ _ _ _ := rfl
  read_pointers h := absurd (flagMembers_selfContained .cpp) h
  roundTrip flag capacity hsize := by
    refine ⟨[if flag then 1 else 0], if_pos hsize, fun rest ↦ ?_⟩
    cases flag <;> rfl

end RmwIceoryx2.Message
