import RmwIceoryx2.Runtime.SampleRegistry
import RmwIceoryx2.Message.Introspection

namespace RmwIceoryx2.Message

open RmwIceoryx2.Runtime

/-- The callbacks a fastrtps type support provides for messages with values in `M`. Serializing is
given the capacity of the buffer; what an exception says is kept. -/
structure Callbacks (M : Type) where
  getSerializedSize : M → ℕ
  cdrSerialize : M → ℕ → Except String Bytes
  cdrDeserialize : Bytes → Except String M

/-- `rosidl_message_type_support_t`, by what `get_message_typesupport_handle` resolves each
identifier to: the `data` of the handle. -/
structure TypeSupport (M : Type) where
  hasData : Bool
  introspectionC : Option (MessageMembers .c)
  introspectionCpp : Option (MessageMembers .cpp)
  fastrtpsC : Option (Option (Callbacks M))
  fastrtpsCpp : Option (Option (Callbacks M))

/-- A message in the memory of its process: the bytes of the generated struct, and the value it
represents there. -/
structure RosMessage (M : Type) where
  bytes : Bytes
  value : M
  deriving DecidableEq, Repr

variable {M : Type}

def isPod (typeSupport : TypeSupport M) : Bool :=
  match typeSupport.introspectionCpp with
  | some members => isPodCpp (some members)
  | none => false

def messageSize (typeSupport : TypeSupport M) : ℕ :=
  match typeSupport.introspectionCpp with
  | some members => members.sizeOf
  | none =>
    match typeSupport.introspectionC with
    | some members => members.sizeOf
    | none => 0

/-- What `message_size` chains; where it finds no size, this stays in the error state even if the
call succeeds. -/
def messageSizeChain (typeSupport : TypeSupport M) : List String :=
  if typeSupport.introspectionCpp.isNone && typeSupport.introspectionC.isNone then
    ["failed to determine message size"]
  else []

/-- The callbacks behind a resolved handle are called without a check; for null ones no size is
defined. -/
def serializedMessageSize (rosMessage : RosMessage M) (typeSupport : TypeSupport M) : ℕ :=
  if typeSupport.hasData then
    match typeSupport.fastrtpsCpp with
    | some callbacks => 4 + (callbacks.map (·.getSerializedSize rosMessage.value)).getD 0
    | none => 0
  else 0

/-- The characters of a text whose length, with the terminator, is counted in four bytes. -/
abbrev Text := { chars : Bytes // chars.length + 1 < 2 ^ 32 }

/-- A text in CDR: the length with the terminator, the characters, the terminator. -/
def cdrText (text : Text) : Bytes :=
  let n := text.val.length + 1
  UInt8.ofNat n :: UInt8.ofNat (n / 256) :: UInt8.ofNat (n / 65536) ::
    UInt8.ofNat (n / 16777216) :: (text.val ++ [0])

def cdrTextOf : Bytes → Except String Text
  | a :: b :: c :: d :: payload =>
    let n := a.toNat + 256 * b.toNat + 65536 * c.toNat + 16777216 * d.toNat
    if n ≤ payload.length then
      if h : (payload.take (n - 1)).length + 1 < 2 ^ 32 then .ok ⟨payload.take (n - 1), h⟩
      else .error "BadParam"
    else .error "NotEnoughMemory"
  | _ => .error "NotEnoughMemory"

def textCallbacks : Callbacks Text where
  getSerializedSize text := 4 + text.val.length + 1
  cdrSerialize text capacity :=
    if (cdrText text).length ≤ capacity then .ok (cdrText text) else .error "NotEnoughMemory"
  cdrDeserialize := cdrTextOf

theorem cdrText_length (text : Text) :
    (cdrText text).length = textCallbacks.getSerializedSize text := by
  simp only [cdrText, textCallbacks, List.length_cons, List.length_append, List.length_nil]
  omega

theorem cdrTextOf_cdrText (text : Text) (rest : Bytes) :
    cdrTextOf (cdrText text ++ rest) = .ok text := by
  obtain ⟨chars, hlen⟩ := text
  have hcount : (UInt8.ofNat (chars.length + 1)).toNat +
      256 * (UInt8.ofNat ((chars.length + 1) / 256)).toNat +
      65536 * (UInt8.ofNat ((chars.length + 1) / 65536)).toNat +
      16777216 * (UInt8.ofNat ((chars.length + 1) / 16777216)).toNat = chars.length + 1 := by
    simp only [UInt8.toNat_ofNat']
    omega
  have htake : (chars ++ [0] ++ rest).take (chars.length + 1 - 1) = chars := by simp
  simp only [cdrText, cdrTextOf, List.cons_append, hcount]
  rw [if_pos (by simp), dif_pos (by rw [htake]; exact hlen)]
  exact congrArg Except.ok (Subtype.ext htake)

def textMembers (lang : Lang) : MessageMembers lang := ⟨32, [⟨.string, false, 0, false, none⟩]⟩

def textTypeSupport : TypeSupport Text :=
  ⟨true, none, some (textMembers .cpp), none, some (some textCallbacks)⟩

end RmwIceoryx2.Message
