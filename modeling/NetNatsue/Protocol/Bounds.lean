import NetNatsue.Foundations.Checked
import NetNatsue.Protocol.UserData

/-! The readers of packets once more, with every read and every computed length checked. -/
namespace NetNatsue
open Checked

/-- `GetInt`, byte by byte. -/
def getIntChecked (data : Bytes) (offset : Int32) : Checked Int32 := do
  let bytes ← advance data offset
  let a ← Checked.read bytes 0
  let b ← Checked.read bytes 1
  let c ← Checked.read bytes 2
  let d ← Checked.read bytes 3
  return (a.toUInt32 ||| (b.toUInt32 <<< 8) ||| (c.toUInt32 <<< 16) ||| (d.toUInt32 <<< 24)).toInt32

/-- `assign(data + offset, size)`. -/
def sliceChecked (data : Bytes) (offset size : Int32) : Checked Bytes := do
  let bytes ← advance data offset
  front bytes size

def PacketHeader.readChecked (data : Bytes) : Checked PacketHeader := do
  let type ← getIntChecked data 0
  let fieldA ← getIntChecked data 4
  let fieldB ← getIntChecked data 8
  let fieldC ← getIntChecked data 12
  let fieldD ← getIntChecked data 16
  let ticket ← getIntChecked data 20
  let furtherData ← getIntChecked data 24
  let fieldE ← getIntChecked data 28
  return { type, fieldA, fieldB, fieldC, fieldD, ticket, furtherData, fieldE }

def parsePackedBabelMessageChecked (data : Bytes) (size : Int32) : Checked (Option PackedMessage) :=
  if size < 24 + 12 then return none
  else do
    let hid ← getIntChecked data 4
    let uid ← getIntChecked data 8
    let messageDataLen ← getIntChecked data 12
    let room ← sub size 24
    if messageDataLen < 12 ∨ messageDataLen > room then return none
    else do
      let messageType ← getIntChecked data (24 + 4)
      let payloadSize ← sub messageDataLen 12
      let payload ← sliceChecked data (24 + 12) payloadSize
      return some { sender := { hid := hid &&& 0xFFFF, uid := uid }, messageType, payload }

def parseShortUserDataChecked (data : Bytes) (size : Int32) : Checked (Option ShortUserData) :=
  if size < 24 then return none
  else do
    let totalLen ← getIntChecked data 0
    if totalLen > size then return none
    else do
      let uid ← getIntChecked data 4
      let hid ← getIntChecked data 8
      let firstNameLen ← getIntChecked data 12
      let lastNameLen ← getIntChecked data 16
      let nickNameLen ← getIntChecked data 20
      if firstNameLen < 0 ∨ lastNameLen < 0 ∨ nickNameLen < 0 then return none
      else do
        -- a difference is computed only where the guards before it have passed
        let room ← sub size 24
        if firstNameLen > room then return none
        else do
          let room ← sub room firstNameLen
          if lastNameLen > room then return none
          else do
            let room ← sub room lastNameLen
            if nickNameLen > room then return none
            else do
              let firstName ← sliceChecked data 24 firstNameLen
              let offset ← add 24 firstNameLen
              let lastName ← sliceChecked data offset lastNameLen
              let offset ← add offset lastNameLen
              let nickName ← sliceChecked data offset nickNameLen
              return some
                { uin := { uid := uid, hid := hid &&& 0xFFFF }, firstName, lastName, nickName }

section
variable (data : Bytes)

theorem getIntChecked_ok (offset : Int32) (n : ℕ) (hoffset : offset.toInt = n)
    (h : n+4 ≤ data.length) :
    getIntChecked data offset = .ok (getInt data n) := by
  have hlength : (data.drop n).length = data.length - n := List.length_drop
  rw [getIntChecked, bind_ok (advance_ok data offset n hoffset (by omega)),
    bind_ok (read_ok (data.drop n) 0 0 (by omega)), bind_ok (read_ok (data.drop n) 1 0 (by omega)),
    bind_ok (read_ok (data.drop n) 2 0 (by omega)), bind_ok (read_ok (data.drop n) 3 0 (by omega))]
  exact congrArg Except.ok (getInt_drop data n 0)

theorem sliceChecked_ok (offset size : Int32) (n : ℕ) (hoffset : offset.toInt = n)
    (hsize : 0 ≤ size.toInt) (h : n + size.toInt ≤ data.length) :
    sliceChecked data offset size = .ok (slice data n size) := by
  rw [sliceChecked, bind_ok (advance_ok data offset n hoffset (by omega)),
    front_ok _ _ hsize, slice]
  rw [List.length_drop]
  omega

theorem PacketHeader.readChecked_ok (h : packetHeaderSize ≤ data.length) :
    PacketHeader.readChecked data = .ok (PacketHeader.read data) := by
  unfold packetHeaderSize at h
  rw [readChecked, bind_ok (getIntChecked_ok data 0 0 rfl (by omega)),
    bind_ok (getIntChecked_ok data 4 4 rfl (by omega)), bind_ok
      (getIntChecked_ok data 8 8 rfl (by omega)),
    bind_ok (getIntChecked_ok data 12 12 rfl (by omega)), bind_ok
      (getIntChecked_ok data 16 16 rfl (by omega)),
    bind_ok (getIntChecked_ok data 20 20 rfl (by omega)), bind_ok
      (getIntChecked_ok data 24 24 rfl (by omega)),
    bind_ok (getIntChecked_ok data 28 28 rfl (by omega))]
  rfl

/-- The message parser stays inside the size it is given. -/
theorem parsePackedBabelMessageChecked_ok (size : Int32) (h : size.toInt ≤ data.length) :
    parsePackedBabelMessageChecked data size = .ok (parsePackedBabelMessage data size) := by
  have hupper := Word32.toInt_upper size
  have h24 : (24 : Int32).toInt = 24 := rfl
  have h12 : (12 : Int32).toInt = 12 := rfl
  have h36 : (24 + 12 : Int32).toInt = 36 := rfl
  unfold parsePackedBabelMessageChecked parsePackedBabelMessage
  by_cases hsize : size < 24 + 12
  · rw [if_pos hsize, if_pos hsize]
    rfl
  · rw [if_neg hsize, if_neg hsize]
    rw [Word32.lt_iff] at hsize
    have hroom := Word32.toInt_sub_exact size 24 (by omega) (by omega)
    rw [bind_ok (getIntChecked_ok data 4 4 rfl (by omega)),
      bind_ok (getIntChecked_ok data 8 8 rfl (by omega)),
      bind_ok (getIntChecked_ok data 12 12 rfl (by omega)), bind_ok
        (sub_ok size 24 (by omega) (by omega))]
    by_cases hlen : getInt data 12 < 12 ∨ getInt data 12 > size - 24
    · simp only [if_pos hlen]
      rfl
    · simp only [if_neg hlen]
      simp only [not_or, gt_iff_lt, Word32.lt_iff] at hlen
      have hlenUpper := Word32.toInt_upper (getInt data 12)
      have hpayload := Word32.toInt_sub_exact (getInt data 12) 12 (by omega) (by omega)
      rw [bind_ok (getIntChecked_ok data (24 + 4) 28 rfl (by omega)),
        bind_ok (sub_ok (getInt data 12) 12 (by omega) (by omega)),
        bind_ok (sliceChecked_ok data (24 + 12) (getInt data 12 - 12) 36 rfl (by omega) (by omega))]
      rfl

/-- So does the user data parser: the names that have passed the guards end inside the size. -/
theorem parseShortUserDataChecked_ok (size : Int32) (h : size.toInt ≤ data.length) :
    parseShortUserDataChecked data size = .ok (parseShortUserData data size) := by
  have hupper := Word32.toInt_upper size
  have h24 : (24 : Int32).toInt = 24 := rfl
  have hexact := ShortUserData.guards_exact data size
  unfold parseShortUserDataChecked parseShortUserData
  by_cases hsize : size < 24
  · simp only [if_pos hsize]
    rfl
  simp only [if_neg hsize]
  have hfixed : 24 ≤ size.toInt := not_lt.mp (mt (Word32.lt_iff size 24).mpr hsize)
  rw [bind_ok (getIntChecked_ok data 0 0 rfl (by omega))]
  by_cases htotal : getInt data 0 > size
  · simp only [if_pos htotal]
    rfl
  simp only [if_neg htotal]
  rw [bind_ok (getIntChecked_ok data 4 4 rfl (by omega)),
    bind_ok (getIntChecked_ok data 8 8 rfl (by omega)),
    bind_ok (getIntChecked_ok data 12 12 rfl (by omega)), bind_ok
      (getIntChecked_ok data 16 16 rfl (by omega)),
    bind_ok (getIntChecked_ok data 20 20 rfl (by omega))]
  by_cases hneg : getInt data 12 < 0 ∨ getInt data 16 < 0 ∨ getInt data 20 < 0
  · simp only [if_pos hneg]
    rfl
  simp only [if_neg hneg]
  simp only [not_or, Word32.lt_iff, Word32.toInt_zero, not_lt] at hneg
  obtain ⟨hfirst, hlast, hnick⟩ := hneg
  have hroom := hexact.firstName hfixed
  rw [bind_ok (sub_ok size 24 (by omega) (by omega))]
  by_cases hover : getInt data 12 > size - 24
  · simp only [hover, true_or, if_true]
    rfl
  have hfits := Int32.not_lt.mp hover
  have hroom' := hexact.lastName hfixed hfirst hfits
  have hfitsInt := (Word32.le_iff _ _).mp hfits
  rw [if_neg hover, bind_ok (sub_ok (size - 24) (getInt data 12) (by omega) (by omega))]
  by_cases hover' : getInt data 16 > size - 24 - getInt data 12
  · simp only [hover', true_or, or_true, if_true]
    rfl
  have hfits' := Int32.not_lt.mp hover'
  have hroom'' := hexact.nickName hfixed hfirst hfits hlast hfits'
  have hfitsInt' := (Word32.le_iff _ _).mp hfits'
  rw [if_neg hover', bind_ok (sub_ok (size - 24 - getInt data 12) (getInt data 16)
    (by omega) (by omega))]
  by_cases hover'' : getInt data 20 > size - 24 - getInt data 12 - getInt data 16
  · simp only [hover'', or_true, if_true]
    rfl
  have hfitsInt'' := (Word32.le_iff _ _).mp (Int32.not_lt.mp hover'')
  have hbehind := Word32.toInt_add_exact 24 (getInt data 12) (by omega) (by omega)
  have hbehind' :=
    Word32.toInt_add_exact (24 + getInt data 12) (getInt data 16) (by omega) (by omega)
  rw [if_neg hover'', bind_ok (sliceChecked_ok data 24 _ 24 rfl hfirst (by omega)),
    bind_ok (add_ok 24 (getInt data 12) (by omega) (by omega)),
    bind_ok (sliceChecked_ok data (24 + getInt data 12) (getInt data 16)
      (24 + (getInt data 12).toInt.toNat) (by omega) hlast (by omega)),
    bind_ok (add_ok (24 + getInt data 12) (getInt data 16) (by omega) (by omega)),
    bind_ok (sliceChecked_ok data (24 + getInt data 12 + getInt data 16) (getInt data 20)
      (24 + (getInt data 12).toInt.toNat + (getInt data 16).toInt.toNat) (by omega)
        hnick (by omega))]
  simp only [hover, hover', hover'', or_self, if_false]
  rfl

end
end NetNatsue
