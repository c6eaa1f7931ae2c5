import Mathlib
import NodeWireguard.Foundations.AttributeStream
import NodeWireguard.Netlink.WireguardUapi

/-!
# Messages under construction

libmnl is not part of the repository; these are its writing functions as it documents them,
each with what is documented of it. A message is a 16-octet header and a body that only
grows; each call adds whole words, so the payload tail is the end of the body. A nested
attribute is opened with an empty length, and closing it stores the distance from its start
to the tail in sixteen bits.

Two records are kept beside the octets and are never read by the code: where each
finished attribute starts with the octets it really occupies, and the message length
after each call. Lengths are natural numbers here; the 32 bits of `nlmsg_len` are not
wrapped, so a bound on a length is a bound on the real one.

Whatever is built this way is a forest of attributes appended to the body.
-/

namespace NodeWireguard.MessageBuffer

open ByteText AttributeStream

/-- A message in a caller's buffer. `occupied` and `written` are the two records. -/
structure MsgBuf where
  type : UInt16 := 0
  flags : UInt16 := 0
  seq : UInt32 := 0
  body : Bytes := []
  occupied : List (Nat × Nat) := []
  written : List Nat := []
  deriving DecidableEq

/-- Octets of `struct nlmsghdr`. -/
def nlmsgHdrLen : Nat := 16

/-- `nlmsg_len`, which every writing function keeps up to date. -/
def MsgBuf.nlmsgLen (b : MsgBuf) : Nat := nlmsgHdrLen + b.body.length

/-- The buffer after a call: its new body, the attributes it finished, and the message
length noted at its end. -/
def MsgBuf.call (b : MsgBuf) (body : Bytes) (finished : List (Nat × Nat)) : MsgBuf :=
  { b with
    body
    occupied := b.occupied ++ finished
    written := b.written ++ [nlmsgHdrLen + body.length] }

/-- `mnl_nlmsg_put_header`. Documented to clear the room of a header and to set `nlmsg_len` to
the size of it; the caller sets the other fields. -/
def mnlNlmsgPutHeader : MsgBuf := MsgBuf.call {} [] []

/-- `mnl_nlmsg_put_extra_header`, with the fields the caller then sets. Documented to clear the
room of the extra header, aligned to four octets, and to add it to `nlmsg_len`. -/
def mnlNlmsgPutExtraHeader (b : MsgBuf) (header : Bytes) : MsgBuf :=
  b.call (b.body ++ (header ++ padding header.length)) []

/-- `mnl_attr_put`. Documented to write an attribute at the tail, its header and its payload with
padding, and to add the aligned size to `nlmsg_len`; the stored length has no padding in it. -/
def mnlAttrPut (b : MsgBuf) (type : UInt16) (data : Bytes) : MsgBuf :=
  b.call (b.body ++ attrBytes type data) [(b.body.length, 4 + data.length)]

/-- `mnl_attr_put_u8`: `mnl_attr_put` of one octet, -/
def mnlAttrPutU8 (b : MsgBuf) (type : UInt16) (data : UInt8) : MsgBuf := mnlAttrPut b type [data]

/-- `mnl_attr_put_u16`: of two in the order of the host, which is a little-endian one here, -/
def mnlAttrPutU16 (b : MsgBuf) (type : UInt16) (data : UInt16) : MsgBuf :=
  mnlAttrPut b type (littleEndian 2 data.toNat)

/-- `mnl_attr_put_u32`: and of four. -/
def mnlAttrPutU32 (b : MsgBuf) (type : UInt16) (data : UInt32) : MsgBuf :=
  mnlAttrPut b type (littleEndian 4 data.toNat)

/-- `mnl_attr_put_strz` of a `c_str()`. Documented to write the text with its terminating zero
octet: the text up to its first zero octet, and one. -/
def mnlAttrPutStrz (b : MsgBuf) (type : UInt16) (text : Bytes) : MsgBuf :=
  mnlAttrPut b type (cString text ++ [0])

/-- `mnl_attr_nest_start`. Documented to write the header of a nested attribute and to return
where it is; its length is not set yet. -/
def mnlAttrNestStart (b : MsgBuf) (type : UInt16) : Nat × MsgBuf :=
  (b.body.length,
    b.call (b.body ++ (littleEndian 2 0 ++ littleEndian 2 (Forest.nestedType type).toNat)) [])

/-- `mnl_attr_nest_end`. Documented to set the length of the nested attribute: the distance from
its start to the tail, stored in the 16 bits of `nla_len`. -/
def mnlAttrNestEnd (b : MsgBuf) (start : Nat) : MsgBuf :=
  b.call
    (b.body.take start ++ (littleEndian 2 (b.body.length - start) ++ b.body.drop (start + 2)))
    [(start, b.body.length - start)]

/-- `if (value) { mnl_attr_put..(..); }` -/
def putPresent {α : Type} (b : MsgBuf) (value : Option α) (put : MsgBuf → α → MsgBuf) : MsgBuf :=
  match value with
  | some content => put b content
  | none => b

/-- The second buffer is the first with a forest appended, and the attributes of the
forest recorded. -/
structure Emits (b after : MsgBuf) (forest : Forest) : Prop where
  body : after.body = b.body ++ forest.bytes
  occupied : after.occupied = b.occupied ++ forest.occupied b.body.length
  header : after.type = b.type ∧ after.flags = b.flags ∧ after.seq = b.seq

/-- Doing nothing emits no attributes. -/
theorem emits_refl (b : MsgBuf) : Emits b b .nil := by
  constructor <;> simp [Forest.bytes, Forest.occupied]

/-- Appending one forest and then another appends both. -/
theorem emits_trans {first second third : MsgBuf} {left right : Forest}
    (before : Emits first second left) (after : Emits second third right) :
    Emits first third (left ++ right) := by
  refine ⟨?_, ?_, ?_⟩
  · rw [after.body, before.body, Forest.bytes_append, List.append_assoc]
  · rw [after.occupied, before.occupied, before.body, List.length_append, Forest.occupied_append,
      List.append_assoc]
  · rw [after.header.1, after.header.2.1, after.header.2.2]
    exact before.header

/-- A written attribute is emitted alone. -/
theorem emits_put (b : MsgBuf) (type : UInt16) (data : Bytes) :
    Emits b (mnlAttrPut b type data) (.single type data) := by
  constructor <;> simp [mnlAttrPut, MsgBuf.call, Forest.single, Forest.bytes, Forest.occupied]

/-- A forest for a present value, and none for an absent one. -/
def presentForest {α : Type} (value : Option α) (forest : α → Forest) : Forest :=
  match value with
  | some content => forest content
  | none => .nil

/-- An optional part emits its attributes where it is there. -/
theorem emits_present {α : Type} (b : MsgBuf) (value : Option α) (put : MsgBuf → α → MsgBuf)
    (forest : α → Forest) (each : ∀ content, Emits b (put b content) (forest content)) :
    Emits b (putPresent b value put) (presentForest value forest) := by
  cases value with
  | none => exact emits_refl b
  | some content => exact each content

/-- Opening a nested attribute, appending its children and closing it appends the nested
attribute. Closing writes the length into the place that was left for it; the octets before and
behind are those that were there, so what stands there now is the header of the nest and its
children. -/
theorem emits_nest (b inner : MsgBuf) (type : UInt16) (children : Forest)
    (filled : Emits (mnlAttrNestStart b type).2 inner children) :
    Emits b (mnlAttrNestEnd inner (mnlAttrNestStart b type).1) (.singleNest type children) := by
  let header := littleEndian 2 0 ++ littleEndian 2 (Forest.nestedType type).toNat
  have opened : (mnlAttrNestStart b type).2.body = b.body ++ header := rfl
  have start : (mnlAttrNestStart b type).1 = b.body.length := rfl
  have headerLength : header.length = 4 := by simp [header]
  have content : inner.body = b.body ++ (header ++ children.bytes) := by
    rw [filled.body, opened, List.append_assoc]
  have size : inner.body.length - b.body.length = 4 + children.bytes.length := by
    rw [content, List.length_append, List.length_append, headerLength, Nat.add_sub_cancel_left]
  have unpadded : padding children.bytes.length = [] := by
    rw [padding, align_of_dvd _ children.bytes_length_dvd, Nat.sub_self, List.replicate_zero]
  refine ⟨?_, ?_, ?_⟩
  · change inner.body.take b.body.length ++ (littleEndian 2 (inner.body.length - b.body.length)
      ++ inner.body.drop (b.body.length + 2)) = _
    have tail : inner.body.drop (b.body.length + 2) =
        littleEndian 2 (Forest.nestedType type).toNat ++ children.bytes := by
      have split : inner.body = (b.body ++ littleEndian 2 0)
          ++ (littleEndian 2 (Forest.nestedType type).toNat ++ children.bytes) := by
        rw [content]
        simp [header]
      rw [split]
      exact List.drop_left' (by simp)
    rw [size, tail, content, List.take_left' rfl]
    simp [Forest.singleNest, Forest.bytes, attrBytes, unpadded]
  · change inner.occupied ++ [(b.body.length, inner.body.length - b.body.length)] = _
    have unfinished : (mnlAttrNestStart b type).2.occupied = b.occupied := List.append_nil _
    rw [filled.occupied, size, opened, unfinished, List.length_append, headerLength]
    simp [Forest.singleNest, Forest.occupied]
  · change inner.type = _ ∧ inner.flags = _ ∧ inner.seq = _
    exact filled.header

/-- A loop over numbered elements appends the forests of its elements, in order. -/
theorem emits_fold {α : Type} (items : List (α × Nat)) (put : MsgBuf → α × Nat → MsgBuf)
    (forest : α × Nat → Forest) (each : ∀ b, ∀ item ∈ items, Emits b (put b item) (forest item))
    (b : MsgBuf) :
    Emits b (items.foldl put b) (items.foldr (fun item rest => forest item ++ rest) .nil) := by
  induction items generalizing b with
  | nil => exact emits_refl b
  | cons item rest inductionHypothesis =>
    exact emits_trans (each b item (by simp))
      (inductionHypothesis (fun b other member => each b other (by simp [member])) _)

/-- Every noted length is within the present one. -/
def Recorded (b : MsgBuf) : Prop := ∀ length ∈ b.written, length ≤ b.nlmsgLen

/-- The second buffer is not shorter than the first, has at most `budget` octets more,
and every length noted on the way was within its own. -/
structure Grows (b after : MsgBuf) (budget : Nat) : Prop where
  longer : b.body.length ≤ after.body.length
  atMost : after.body.length ≤ b.body.length + budget
  recorded : Recorded b → Recorded after

/-- Doing nothing takes no room. -/
theorem grows_refl (b : MsgBuf) : Grows b b 0 := ⟨le_rfl, le_rfl, id⟩

/-- One part after the other takes the room of both. -/
theorem grows_trans {first second third : MsgBuf} {left right : Nat}
    (before : Grows first second left) (after : Grows second third right) :
    Grows first third (left + right) := by
  have lower := le_trans before.longer after.longer
  have upper := before.atMost
  have further := after.atMost
  exact ⟨lower, by omega, after.recorded ∘ before.recorded⟩

/-- A larger budget is enough too. -/
theorem grows_weaken {b after : MsgBuf} {budget : Nat} (larger : Nat)
    (grows : Grows b after budget) (within : budget ≤ larger) : Grows b after larger :=
  ⟨grows.longer, by have := grows.atMost; omega, grows.recorded⟩

/-- A call that does not shorten the message notes a length within it. -/
theorem grows_call (b : MsgBuf) (body : Bytes) (finished : List (Nat × Nat)) (budget : Nat)
    (longer : b.body.length ≤ body.length) (within : body.length ≤ b.body.length + budget) :
    Grows b (b.call body finished) budget := by
  refine ⟨longer, within, ?_⟩
  intro recorded length member
  have cases : length ∈ b.written ∨ length = nlmsgHdrLen + body.length := by
    simpa [MsgBuf.call] using member
  rcases cases with earlier | rfl
  · have bound := recorded length earlier
    simp only [MsgBuf.call, MsgBuf.nlmsgLen] at bound ⊢
    omega
  · exact le_rfl

/-- An attribute takes its header and its padded payload. -/
theorem grows_put (b : MsgBuf) (type : UInt16) (data : Bytes) :
    Grows b (mnlAttrPut b type data) (4 + align data.length) := by
  apply grows_call <;> simp [attr_bytes_length]

/-- Opening, filling and closing a nested attribute costs its header and its content.
Closing rewrites two octets in place. -/
theorem grows_nest (b inner : MsgBuf) (type : UInt16) (budget : Nat)
    (filled : Grows (mnlAttrNestStart b type).2 inner budget) :
    Grows b (mnlAttrNestEnd inner (mnlAttrNestStart b type).1) (4 + budget) := by
  have opened : Grows b (mnlAttrNestStart b type).2 4 := by apply grows_call <;> simp
  have header : b.body.length + 4 = (mnlAttrNestStart b type).2.body.length := by
    simp [mnlAttrNestStart, MsgBuf.call]
  have inside := filled.longer
  have same : (inner.body.take b.body.length ++ (littleEndian 2 (inner.body.length - b.body.length)
      ++ inner.body.drop (b.body.length + 2))).length = inner.body.length := by
    simp only [List.length_append, List.length_take, little_endian_length, List.length_drop]
    omega
  have closed : Grows inner (mnlAttrNestEnd inner b.body.length) 0 :=
    grows_call inner _ _ 0 (by rw [same]) (by rw [same]; omega)
  exact grows_weaken _ (grows_trans (grows_trans opened filled) closed) (by omega)

/-- An optional part takes at most its room. -/
theorem grows_present {α : Type} (b : MsgBuf) (value : Option α) (put : MsgBuf → α → MsgBuf)
    (budget : Nat) (each : ∀ content, Grows b (put b content) budget) :
    Grows b (putPresent b value put) budget := by
  cases value with
  | none => exact grows_weaken budget (grows_refl b) (Nat.zero_le _)
  | some content => exact each content

/-- A loop costs its elements. -/
theorem grows_fold {α : Type} (items : List α) (put : MsgBuf → α → MsgBuf) (budget : Nat)
    (each : ∀ b item, Grows b (put b item) budget) (b : MsgBuf) :
    Grows b (items.foldl put b) (items.length * budget) := by
  induction items generalizing b with
  | nil => exact grows_weaken _ (grows_refl b) (Nat.zero_le _)
  | cons item rest inductionHypothesis =>
    refine grows_weaken _ (grows_trans (each b item) (inductionHypothesis _)) ?_
    rw [List.length_cons, Nat.succ_mul, Nat.add_comm]

end NodeWireguard.MessageBuffer
