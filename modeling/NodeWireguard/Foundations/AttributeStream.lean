import Mathlib
import NodeWireguard.Foundations.ByteText

/-!
# Attribute streams

A stream of typed attributes: each is a 16-bit length, a 16-bit type, a payload, and
zero padding to the next multiple of four. The length counts the header and the payload
without the padding. Numbers are little endian, as on the hosts this is built for. A
nested attribute is one whose payload is a stream again.

Writing stores only the low sixteen bits of a length. A stream is read back as it was
written as long as every length fits; the lengths inside a nested attribute fit as soon
as its own does, so only the outermost ones need a bound.

A forest is kept in first-child and next-sibling form, which makes it a plain inductive
type: a nested attribute holds the forest of its children and the forest after it.

libmnl is not part of the repository. The two directions follow what it documents: writing is
`mnl_attr_put` and `mnl_attr_nest_end`, reading is `mnl_attr_parse`.
-/

namespace NodeWireguard.AttributeStream

open ByteText

/-- The low octets of a number, least significant first. -/
def littleEndian : Nat → Nat → Bytes
  | 0, _ => []
  | size + 1, value => UInt8.ofNat value :: littleEndian size (value / 256)

/-- Value of octets, least significant first. -/
def fromLittleEndian : Bytes → Nat
  | [] => 0
  | octet :: rest => octet.toNat + 256 * fromLittleEndian rest

/-- The encoding has as many octets as were asked for. -/
@[simp]
theorem little_endian_length (size value : Nat) : (littleEndian size value).length = size := by
  induction size generalizing value with
  | zero => rfl
  | succ size inductionHypothesis => simp [littleEndian, inductionHypothesis]

/-- Reading keeps what the octets have room for. -/
theorem from_little_endian (size value : Nat) :
    fromLittleEndian (littleEndian size value) = value % 256 ^ size := by
  induction size generalizing value with
  | zero => simp [littleEndian, fromLittleEndian, Nat.mod_one]
  | succ size inductionHypothesis =>
    rw [littleEndian, fromLittleEndian, inductionHypothesis, UInt8.toNat_ofNat', pow_succ 256 size,
      Nat.mul_comm (256 ^ size) 256, Nat.mod_mul]

/-- Octets in front weigh less than those behind. -/
theorem from_little_endian_append (left right : Bytes) :
    fromLittleEndian (left ++ right) =
      fromLittleEndian left + 256 ^ left.length * fromLittleEndian right := by
  induction left with
  | nil => simp [fromLittleEndian]
  | cons octet left inductionHypothesis =>
    rw [List.cons_append, fromLittleEndian, inductionHypothesis, fromLittleEndian, List.length_cons,
      pow_succ]
    ring

/-- A number of so many octets is below the power of 256. -/
theorem from_little_endian_bound (octets : Bytes) : fromLittleEndian octets < 256 ^ octets.length := by
  induction octets with
  | nil => simp [fromLittleEndian]
  | cons octet octets inductionHypothesis =>
    have bound := octet.toNat_lt
    rw [fromLittleEndian, List.length_cons, pow_succ]
    omega

/-- Octets of one length have different values. -/
theorem from_little_endian_injective (left right : Bytes) (length : left.length = right.length)
    (same : fromLittleEndian left = fromLittleEndian right) : left = right := by
  induction left generalizing right with
  | nil => exact (List.eq_nil_of_length_eq_zero length.symm).symm
  | cons first left inductionHypothesis =>
    cases right with
    | nil => cases length
    | cons other right =>
      have low := first.toNat_lt
      have otherLow := other.toNat_lt
      simp only [fromLittleEndian] at same
      have head : first = other := UInt8.toNat_inj.mp (by omega)
      rw [head, inductionHypothesis right (by simpa using length) (by omega)]

/-- A size rounded up to the next multiple of four. -/
def align (size : Nat) : Nat := (size + 3) / 4 * 4

/-- The zero octets that bring a size to a multiple of four. -/
def padding (size : Nat) : Bytes := List.replicate (align size - size) 0

/-- Alignment adds at most three octets. -/
theorem align_bounds (size : Nat) : size ≤ align size ∧ align size ≤ size + 3 := by
  unfold align
  omega

/-- A multiple of four is aligned already. -/
theorem align_of_dvd (size : Nat) (multiple : 4 ∣ size) : align size = size := by
  unfold align
  omega

/-- An aligned size is a multiple of four. -/
theorem align_dvd (size : Nat) : 4 ∣ align size := Dvd.intro_left _ rfl

/-- An attribute as a reader sees it. The length is the one of the payload, and the padding is
gone. -/
structure Attr where
  type : UInt16
  payload : Bytes
  deriving DecidableEq

/-- An attribute as it is written. The stored length has sixteen bits, whatever the payload. -/
def attrBytes (type : UInt16) (payload : Bytes) : Bytes :=
  littleEndian 2 (4 + payload.length) ++ littleEndian 2 type.toNat ++ payload
    ++ padding payload.length

/-- An attribute has a header of four octets and a padded payload. -/
theorem attr_bytes_length (type : UInt16) (payload : Bytes) :
    (attrBytes type payload).length = 4 + align payload.length := by
  have bounds := align_bounds payload.length
  simp only [attrBytes, padding, List.length_append, little_endian_length, List.length_replicate]
  omega

/-- Attributes in order, as `mnl_attr_parse` and `mnl_attr_parse_nested` hand them to a callback.
Documented to go on while `mnl_attr_ok` holds: the rest has room for a header, and the stored
length is at least a header and within the rest; then the next attribute begins behind the
aligned length. `fuel` bounds the number of steps. -/
def walkFrom : Nat → Bytes → List Attr
  | 0, _ => []
  | fuel + 1, bytes =>
      let size := fromLittleEndian (bytes.take 2)
      if 4 ≤ bytes.length ∧ 4 ≤ size ∧ size ≤ bytes.length then
        ⟨UInt16.ofNat (fromLittleEndian ((bytes.drop 2).take 2)), (bytes.take size).drop 4⟩
          :: walkFrom fuel (bytes.drop (align size))
      else []

/-- Every step consumes octets, so as many steps as octets are enough. -/
def walk (bytes : Bytes) : List Attr := walkFrom bytes.length bytes

/-- More steps than octets change nothing. Each step drops at least a header, so the walk has
ended before the steps run out; the induction is on the steps, for two counts at once. -/
theorem walk_from_enough (fuel : Nat) (bytes : Bytes) (enough : bytes.length ≤ fuel) :
    walkFrom fuel bytes = walk bytes := by
  have agree (left right : Nat) (text : Bytes) (leftEnough : text.length ≤ left)
      (rightEnough : text.length ≤ right) : walkFrom left text = walkFrom right text := by
    induction left generalizing right text with
    | zero =>
      obtain rfl := List.eq_nil_of_length_eq_zero (Nat.le_zero.mp leftEnough)
      cases right <;> simp [walkFrom]
    | succ left inductionHypothesis =>
      cases right with
      | zero =>
        obtain rfl := List.eq_nil_of_length_eq_zero (Nat.le_zero.mp rightEnough)
        simp [walkFrom]
      | succ right =>
        simp only [walkFrom]
        split
        · rename_i inside
          have bounds := align_bounds (fromLittleEndian (text.take 2))
          have shorter : (text.drop (align (fromLittleEndian (text.take 2)))).length < text.length := by
            rw [List.length_drop]
            omega
          rw [inductionHypothesis right _ (by omega) (by omega)]
        · rfl
  exact agree fuel bytes.length bytes enough le_rfl

/-- Nothing is read from nothing. -/
theorem walk_nil : walk [] = [] := rfl

/-- An attribute whose length fits is read back, whatever follows it. The stored length is read
back since it fits, the payload is cut out behind the header, and the walk goes on behind the
padding. -/
theorem walk_attr (type : UInt16) (payload rest : Bytes) (fits : 4 + payload.length < 65536) :
    walk (attrBytes type payload ++ rest) = ⟨type, payload⟩ :: walk rest := by
  have size : fromLittleEndian ((attrBytes type payload ++ rest).take 2) = 4 + payload.length := by
    have cut : (attrBytes type payload ++ rest).take 2 = littleEndian 2 (4 + payload.length) := by
      rw [attrBytes, List.append_assoc, List.append_assoc, List.append_assoc]
      exact List.take_left' (little_endian_length _ _)
    rw [cut, from_little_endian]
    exact Nat.mod_eq_of_lt fits
  have stored : fromLittleEndian (((attrBytes type payload ++ rest).drop 2).take 2) = type.toNat := by
    have cut : ((attrBytes type payload ++ rest).drop 2).take 2 = littleEndian 2 type.toNat := by
      rw [attrBytes, List.append_assoc, List.append_assoc, List.append_assoc,
        List.drop_left' (little_endian_length _ _)]
      exact List.take_left' (little_endian_length _ _)
    rw [cut, from_little_endian]
    exact Nat.mod_eq_of_lt type.toNat_lt
  have content : ((attrBytes type payload ++ rest).take (4 + payload.length)).drop 4 = payload := by
    have header : (littleEndian 2 (4 + payload.length) ++ littleEndian 2 type.toNat).length = 4 := by
      simp
    rw [attrBytes, List.append_assoc (_ ++ payload), List.take_left' (by simp; omega),
      List.drop_left' header]
  have after : (attrBytes type payload ++ rest).drop (align (4 + payload.length)) = rest := by
    apply List.drop_left'
    rw [attr_bytes_length]
    unfold align
    omega
  have bounds := align_bounds payload.length
  have whole : (attrBytes type payload ++ rest).length = 4 + align payload.length + rest.length := by
    rw [List.length_append, attr_bytes_length]
  rw [walk, whole, show 4 + align payload.length + rest.length =
    (3 + align payload.length + rest.length) + 1 by omega, walkFrom]
  simp only [size, stored, content, after]
  rw [if_pos (by rw [whole]; omega), walk_from_enough _ _ (by omega), UInt16.ofNat_toNat]

/-- Attributes and nested attributes in order. The attributes of one level follow each other, and
a nested one holds a level of its own. -/
inductive Forest where
  | nil
  | leaf (type : UInt16) (payload : Bytes) (rest : Forest)
  | nest (type : UInt16) (children rest : Forest)

namespace Forest

/-- The flag a nested attribute carries in its type. -/
def nestedType (type : UInt16) : UInt16 := type ||| 0x8000

/-- One forest behind another. -/
def append : Forest → Forest → Forest
  | nil, other => other
  | leaf type payload rest, other => leaf type payload (rest.append other)
  | nest type children rest, other => nest type children (rest.append other)

/-- Forests are appended with the sign of lists. -/
instance : Append Forest := ⟨append⟩

/-- The forest of one attribute. -/
def single (type : UInt16) (payload : Bytes) : Forest := leaf type payload nil

/-- The forest of one nested attribute. -/
def singleNest (type : UInt16) (children : Forest) : Forest := nest type children nil

/-- The stream of a forest. It is the octets as they stand in a message. -/
def bytes : Forest → Bytes
  | nil => []
  | leaf type payload rest => attrBytes type payload ++ rest.bytes
  | nest type children rest => attrBytes (nestedType type) children.bytes ++ rest.bytes

/-- The attributes of the outermost level. -/
def attrs : Forest → List Attr
  | nil => []
  | leaf type payload rest => ⟨type, payload⟩ :: rest.attrs
  | nest type children rest => ⟨nestedType type, children.bytes⟩ :: rest.attrs

/-- Where each attribute starts and how many octets it occupies, for a forest written
from `offset` on; a nested attribute comes after its children. -/
def occupied (offset : Nat) : Forest → List (Nat × Nat)
  | nil => []
  | leaf _ payload rest =>
      (offset, 4 + payload.length) :: rest.occupied (offset + (4 + align payload.length))
  | nest _ children rest =>
      children.occupied (offset + 4) ++ (offset, 4 + children.bytes.length)
        :: rest.occupied (offset + (4 + children.bytes.length))

/-- Every length of the outermost level fits in sixteen bits. -/
def Fits : Forest → Prop
  | nil => True
  | leaf _ payload rest => 4 + payload.length < 65536 ∧ rest.Fits
  | nest _ children rest => 4 + children.bytes.length < 65536 ∧ rest.Fits

/-- The empty forest is neutral on the left, -/
@[simp]
theorem nil_append (forest : Forest) : nil ++ forest = forest := rfl

/-- and on the right. -/
@[simp]
theorem append_nil (forest : Forest) : forest ++ nil = forest := by
  induction forest with
  | nil => rfl
  | leaf type payload rest inductionHypothesis => exact congrArg (leaf type payload) inductionHypothesis
  | nest type children rest _ inductionHypothesis => exact congrArg (nest type children) inductionHypothesis

/-- Appending forests is associative. -/
theorem append_assoc (first second third : Forest) :
    first ++ second ++ third = first ++ (second ++ third) := by
  induction first with
  | nil => rfl
  | leaf type payload rest inductionHypothesis => exact congrArg (leaf type payload) inductionHypothesis
  | nest type children rest _ inductionHypothesis => exact congrArg (nest type children) inductionHypothesis

/-- The octets of two forests are written one behind the other. -/
@[simp]
theorem bytes_append (left right : Forest) : (left ++ right).bytes = left.bytes ++ right.bytes := by
  induction left with
  | nil => rfl
  | leaf type payload rest inductionHypothesis =>
    change attrBytes type payload ++ (rest ++ right).bytes = _
    rw [inductionHypothesis, bytes, List.append_assoc]
  | nest type children rest _ inductionHypothesis =>
    change attrBytes (nestedType type) children.bytes ++ (rest ++ right).bytes = _
    rw [inductionHypothesis, bytes, List.append_assoc]

/-- So are their attributes read. -/
@[simp]
theorem attrs_append (left right : Forest) : (left ++ right).attrs = left.attrs ++ right.attrs := by
  induction left with
  | nil => rfl
  | leaf type payload rest inductionHypothesis =>
    exact congrArg (⟨type, payload⟩ :: ·) inductionHypothesis
  | nest type children rest _ inductionHypothesis =>
    exact congrArg (⟨nestedType type, children.bytes⟩ :: ·) inductionHypothesis

/-- Two forests fit when both do; their lengths do not add up, since only a nest carries the sum
of its parts. -/
theorem fits_append (left right : Forest) : (left ++ right).Fits ↔ left.Fits ∧ right.Fits := by
  induction left with
  | nil => exact (true_and _).symm ▸ Iff.rfl
  | leaf type payload rest inductionHypothesis =>
    change _ ∧ (rest ++ right).Fits ↔ (_ ∧ rest.Fits) ∧ _
    rw [inductionHypothesis, and_assoc]
  | nest type children rest _ inductionHypothesis =>
    change _ ∧ (rest ++ right).Fits ↔ (_ ∧ rest.Fits) ∧ _
    rw [inductionHypothesis, and_assoc]

/-- Streams are made of whole words. -/
theorem bytes_length_dvd (forest : Forest) : 4 ∣ forest.bytes.length := by
  induction forest with
  | nil => exact Nat.dvd_zero _
  | leaf type payload rest inductionHypothesis =>
    rw [bytes, List.length_append, attr_bytes_length]
    exact Nat.dvd_add (Nat.dvd_add (by decide) (align_dvd _)) inductionHypothesis
  | nest type children rest _ inductionHypothesis =>
    rw [bytes, List.length_append, attr_bytes_length]
    exact Nat.dvd_add (Nat.dvd_add (by decide) (align_dvd _)) inductionHypothesis

/-- A nested attribute occupies its header and its children, without padding. -/
theorem nest_bytes_length (type : UInt16) (children : Forest) :
    (attrBytes (nestedType type) children.bytes).length = 4 + children.bytes.length := by
  rw [attr_bytes_length, align_of_dvd _ children.bytes_length_dvd]

/-- What the second forest occupies is moved by the size of the first. -/
theorem occupied_append (left right : Forest) (offset : Nat) :
    (left ++ right).occupied offset =
      left.occupied offset ++ right.occupied (offset + left.bytes.length) := by
  induction left generalizing offset with
  | nil => simp [occupied, bytes]
  | leaf type payload rest inductionHypothesis =>
    change _ :: (rest ++ right).occupied _ = _
    rw [inductionHypothesis, bytes, List.length_append, attr_bytes_length,
      Nat.add_assoc offset (4 + _)]
    rfl
  | nest type children rest _ inductionHypothesis =>
    change _ ++ _ :: (rest ++ right).occupied _ = _
    rw [inductionHypothesis, bytes, List.length_append, nest_bytes_length,
      Nat.add_assoc offset (4 + _)]
    simp [occupied]

/-- Lengths fit wherever the whole stream is short enough. -/
theorem fits_of_length (forest : Forest) (short : forest.bytes.length < 65536) : forest.Fits := by
  induction forest with
  | nil => trivial
  | leaf type payload rest inductionHypothesis =>
    rw [bytes, List.length_append, attr_bytes_length] at short
    have bounds := align_bounds payload.length
    exact ⟨by omega, inductionHypothesis (by omega)⟩
  | nest type children rest _ inductionHypothesis =>
    rw [bytes, List.length_append, nest_bytes_length] at short
    exact ⟨by omega, inductionHypothesis (by omega)⟩

/-- A stream whose lengths fit is read back, whatever follows it. -/
theorem walk_bytes_append (forest : Forest) (rest : Bytes) (fits : forest.Fits) :
    walk (forest.bytes ++ rest) = forest.attrs ++ walk rest := by
  induction forest with
  | nil => rfl
  | leaf type payload others inductionHypothesis =>
    rw [bytes, List.append_assoc, walk_attr type payload _ fits.1, inductionHypothesis fits.2]
    rfl
  | nest type children others _ inductionHypothesis =>
    rw [bytes, List.append_assoc, walk_attr _ _ _ fits.1, inductionHypothesis fits.2]
    rfl

/-- A forest that fits is read back from its octets as its attributes. -/
theorem walk_bytes (forest : Forest) (fits : forest.Fits) : walk forest.bytes = forest.attrs := by
  simpa [walk_nil] using forest.walk_bytes_append [] fits

end Forest

/-- Every listed attribute stores the number of octets it occupies. -/
def LengthsMatch (bytes : Bytes) (occupied : List (Nat × Nat)) : Prop :=
  ∀ place ∈ occupied, fromLittleEndian ((bytes.drop place.1).take 2) = place.2

/-- The length stored at the start of an attribute is its low sixteen bits. -/
theorem stored_length (before after payload : Bytes) (type : UInt16) :
    fromLittleEndian (((before ++ (attrBytes type payload ++ after)).drop before.length).take 2) =
      (4 + payload.length) % 65536 := by
  have cut : (attrBytes type payload ++ after).take 2 = littleEndian 2 (4 + payload.length) := by
    rw [attrBytes, List.append_assoc, List.append_assoc, List.append_assoc]
    exact List.take_left' (little_endian_length _ _)
  rw [List.drop_left, cut, from_little_endian]
  norm_num

/-- A written forest stores the right lengths everywhere exactly when the outermost ones fit. A
nested attribute is at least as long as each one inside it, so the inner lengths fit with it;
where an outermost one does not, sixteen bits hold less than it occupies. -/
theorem lengths_match_iff (forest : Forest) (before after : Bytes) :
    LengthsMatch (before ++ (forest.bytes ++ after)) (forest.occupied before.length) ↔
      forest.Fits := by
  have modulus (size : Nat) : size % 65536 = size ↔ size < 65536 := by omega
  induction forest generalizing before after with
  | nil => simp [LengthsMatch, Forest.occupied, Forest.Fits]
  | leaf type payload rest inductionHypothesis =>
    have first := stored_length before (rest.bytes ++ after) payload type
    have later := inductionHypothesis (before ++ attrBytes type payload) after
    simp only [List.length_append, attr_bytes_length, List.append_assoc] at later
    simp only [LengthsMatch, Forest.occupied, Forest.bytes, Forest.Fits, List.mem_cons,
      forall_eq_or_imp, List.append_assoc, first, modulus] at later ⊢
    exact and_congr Iff.rfl later
  | nest type children rest childHypothesis inductionHypothesis =>
    have first := stored_length before (rest.bytes ++ after) children.bytes (Forest.nestedType type)
    have later := inductionHypothesis (before ++ attrBytes (Forest.nestedType type) children.bytes) after
    -- The children start after the header, with nothing between them and what follows.
    have header : (littleEndian 2 (4 + children.bytes.length)
        ++ littleEndian 2 (Forest.nestedType type).toNat).length = 4 := by simp
    have unpadded : padding children.bytes.length = [] := by
      rw [padding, align_of_dvd _ children.bytes_length_dvd, Nat.sub_self, List.replicate_zero]
    have inner := childHypothesis (before ++ (littleEndian 2 (4 + children.bytes.length)
      ++ littleEndian 2 (Forest.nestedType type).toNat)) (rest.bytes ++ after)
    have place : before ++ (littleEndian 2 (4 + children.bytes.length)
        ++ littleEndian 2 (Forest.nestedType type).toNat)
        ++ (children.bytes ++ (rest.bytes ++ after)) =
        before ++ (attrBytes (Forest.nestedType type) children.bytes ++ (rest.bytes ++ after)) := by
      simp [attrBytes, unpadded]
    rw [place, List.length_append, header] at inner
    simp only [List.length_append, Forest.nest_bytes_length, List.append_assoc] at later
    simp only [LengthsMatch, Forest.occupied, Forest.bytes, Forest.Fits, List.mem_append,
      List.mem_cons, or_imp, forall_and, forall_eq, List.append_assoc, first, modulus]
      at later inner ⊢
    constructor
    · rintro ⟨-, fits, others⟩
      exact ⟨fits, later.mp others⟩
    · rintro ⟨fits, others⟩
      exact ⟨inner.mpr (children.fits_of_length (by omega)), fits, later.mpr others⟩

end NodeWireguard.AttributeStream
