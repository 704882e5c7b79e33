import Streaming.Util.Bytes

/-!
# FLV tags

A tag is a header of eleven bytes, the body, and the length of both once more.
The timestamp is split: its low 24 bits come before its high 8 bits.
-/

namespace Streaming
namespace Flv

open Util

structure Tag where
  typeId : Nat
  timestamp : Nat
  payload : Bytes
  deriving DecidableEq, Repr

/-- What the fields of a tag have room for.  A tag without a body is left out,
since none is ever written. -/
structure Tag.WellFormed (tag : Tag) : Prop where
  typeId_lt : tag.typeId < 2 ^ 8
  timestamp_lt : tag.timestamp < 2 ^ 32
  payload_ne_nil : tag.payload ≠ []
  payload_lt : tag.payload.length < 2 ^ 24

/-!
## Writing
-/

/-- `sizeof(flv_tag_header)`. -/
def flvTagHeaderSize : Nat := 11

def prepareFlvTagHeader (t bodySize timeStamp : Nat) : Bytes :=
  UInt8.ofNat t :: (setBe24 bodySize ++ setBe24 (timeStamp &&& 0xFFFFFF) ++
    [UInt8.ofNat ((timeStamp >>> 24) &&& 0xFF)] ++ [0, 0, 0])

/-- The three strings that `write_flv` sends for the `size` bytes that `data`
points to. -/
def writeFlv (t : Nat) (data : Bytes) (size timeStamp : Nat) :
    Except String (List Bytes) :=
  if size = 0 then
    .error "cannot write flv with invalid source or data"
  else
    .ok [prepareFlvTagHeader t size timeStamp, data.take size,
      setBe32 (flvTagHeaderSize + size)]

/-!
## Reading
-/

/-- The tag at the front of a byte string, and what is behind it. -/
def parseTag (bytes : Bytes) : Option (Tag × Bytes) :=
  let size := loadBe24 (bytes.drop 1)
  let body := bytes.drop 11
  if bytes.length < 11 ∨ (bytes.drop 8).take 3 ≠ [0, 0, 0] then none
  else if body.length < size + 4 then none
  else if loadBe32 (body.drop size) ≠ 11 + size then none
  else
    some ({
      typeId := byteAt bytes 0
      timestamp := byteAt bytes 7 * 2 ^ 24 + loadBe24 (bytes.drop 4)
      payload := body.take size }, body.drop (size + 4))

/-- Read up to as many tags as the first argument allows. -/
def parseTagsFuel : Nat -> Bytes -> Option (List Tag)
  | _, [] => some []
  | 0, _ :: _ => none
  | fuel + 1, b :: bytes => do
      let (tag, rest) <- parseTag (b :: bytes)
      let tags <- parseTagsFuel fuel rest
      return tag :: tags

/-- A byte string as tags, with nothing left over. -/
def parseTags (bytes : Bytes) : Option (List Tag) :=
  parseTagsFuel bytes.length bytes

/-!
## Reading undoes writing
-/

/-- The bytes of one tag. -/
def Tag.bytes (tag : Tag) : Bytes :=
  prepareFlvTagHeader tag.typeId tag.payload.length tag.timestamp ++
    tag.payload ++ setBe32 (flvTagHeaderSize + tag.payload.length)

theorem Tag.bytes_length (tag : Tag) :
    tag.bytes.length = tag.payload.length + 15 := by
  simp only [Tag.bytes, prepareFlvTagHeader, List.length_append,
    List.length_cons, setBe24_length, setBe32_length, List.length_nil]
  omega

theorem writeFlv_tag {tag : Tag} (h : tag.WellFormed) (rest : Bytes) :
    exists pieces,
      writeFlv tag.typeId (tag.payload ++ rest) tag.payload.length tag.timestamp =
          .ok pieces ∧
        pieces.flatten = tag.bytes := by
  have hsize : tag.payload.length ≠ 0 := by
    simpa using h.payload_ne_nil
  unfold writeFlv
  rw [if_neg hsize]
  refine ⟨_, rfl, ?_⟩
  simp only [List.take_left, List.flatten_cons, List.flatten_nil,
    List.append_nil, Tag.bytes, List.append_assoc]

/-- The split timestamp is put together again. -/
theorem splitTimestamp (timeStamp : Nat) (h : timeStamp < 2 ^ 32) :
    ((timeStamp >>> 24) &&& 0xFF) % 2 ^ 8 * 2 ^ 24 + (timeStamp &&& 0xFFFFFF) =
      timeStamp := by
  have hlow : timeStamp &&& 0xFFFFFF = timeStamp % 2 ^ 24 :=
    Nat.and_two_pow_sub_one_eq_mod timeStamp 24
  have hhigh : (timeStamp >>> 24) &&& 0xFF = timeStamp >>> 24 % 2 ^ 8 :=
    Nat.and_two_pow_sub_one_eq_mod (timeStamp >>> 24) 8
  rw [hlow, hhigh, Nat.shiftRight_eq_div_pow]
  omega

theorem parseTag_bytes {tag : Tag} (h : tag.WellFormed) (rest : Bytes) :
    parseTag (tag.bytes ++ rest) = some (tag, rest) := by
  have hsize : loadBe24 ((tag.bytes ++ rest).drop 1) = tag.payload.length :=
    loadBe24_setBe24 _ h.payload_lt
  have hlow : loadBe24 ((tag.bytes ++ rest).drop 4) =
      tag.timestamp &&& 0xFFFFFF := by
    apply loadBe24_setBe24 _
    exact Nat.lt_of_le_of_lt Nat.and_le_right (by decide)
  have hbody : (tag.bytes ++ rest).drop 11 = tag.payload ++
      (setBe32 (flvTagHeaderSize + tag.payload.length) ++ rest) := by
    simp [Tag.bytes, prepareFlvTagHeader, setBe24]
  have hstream : ((tag.bytes ++ rest).drop 8).take 3 = [0, 0, 0] := rfl
  have hpointer : loadBe32 (setBe32 (flvTagHeaderSize + tag.payload.length) ++
      rest) = 11 + tag.payload.length := by
    apply loadBe32_setBe32
    have hlt := h.payload_lt
    simp only [flvTagHeaderSize]
    omega
  have hhigh : byteAt (tag.bytes ++ rest) 7 =
      ((tag.timestamp >>> 24) &&& 0xFF) % 2 ^ 8 :=
    UInt8.toNat_ofNat'
  have htype : byteAt (tag.bytes ++ rest) 0 = tag.typeId := by
    show (UInt8.ofNat tag.typeId).toNat = tag.typeId
    rw [UInt8.toNat_ofNat', Nat.mod_eq_of_lt h.typeId_lt]
  have hlength : ¬ (tag.bytes ++ rest).length < 11 := by
    rw [List.length_append, tag.bytes_length]
    omega
  have hroom : ¬ (tag.payload ++
      (setBe32 (flvTagHeaderSize + tag.payload.length) ++ rest)).length <
        tag.payload.length + 4 := by
    simp only [List.length_append, setBe32_length]
    omega
  simp only [parseTag]
  rw [hsize, hlow, hbody, hhigh, htype, hstream,
    if_neg (not_or.mpr ⟨hlength, not_not_intro rfl⟩), if_neg hroom,
    List.drop_left, hpointer, if_neg (not_not_intro rfl), List.take_left,
    splitTimestamp tag.timestamp h.timestamp_lt, List.drop_length_add_append,
    ← setBe32_length (flvTagHeaderSize + tag.payload.length), List.drop_left]

theorem parseTagsFuel_bytes {fuel : Nat} {tags : List Tag}
    (htags : forall tag, tag ∈ tags -> tag.WellFormed)
    (hfuel : tags.length <= fuel) :
    parseTagsFuel fuel (tags.flatMap Tag.bytes) = some tags := by
  induction tags generalizing fuel with
  | nil =>
      cases fuel <;> rfl
  | cons tag tags ih =>
      cases fuel with
      | zero => cases hfuel
      | succ fuel =>
          have hparse := parseTag_bytes (htags tag List.mem_cons_self)
            (tags.flatMap Tag.bytes)
          have hrest := ih (fun other hother =>
            htags other (List.mem_cons_of_mem tag hother))
            (Nat.le_of_succ_le_succ hfuel)
          show (parseTag (tag.bytes ++ tags.flatMap Tag.bytes)).bind
            (fun p => (parseTagsFuel fuel p.2).bind
              fun later => some (p.1 :: later)) = _
          rw [hparse, Option.bind_some, hrest, Option.bind_some]

theorem flatMap_bytes_length (tags : List Tag) :
    tags.length <= (tags.flatMap Tag.bytes).length := by
  induction tags with
  | nil => exact Nat.le_refl 0
  | cons tag tags ih =>
      rw [List.flatMap_cons, List.length_append, tag.bytes_length,
        List.length_cons]
      omega

/-- The tags written one after the other are the tags read back. -/
theorem parseTags_bytes {tags : List Tag}
    (htags : forall tag, tag ∈ tags -> tag.WellFormed) :
    parseTags (tags.flatMap Tag.bytes) = some tags :=
  parseTagsFuel_bytes htags (flatMap_bytes_length tags)

end Flv
end Streaming
