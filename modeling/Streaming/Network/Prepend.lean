import Streaming.Network.FlatBuffer

/-!
# Prepending

`prepend` puts bytes in front of the unread ones.  It looks for room before
them, behind them, and on both sides; without any it moves to a new storage.
Every copy is checked against the storage that it goes to.  Which requests for
storage are granted is a parameter.
-/

namespace Streaming
namespace Network

open Util

/-- `memcpy` or `memmove` to an offset, or nothing where the storage is too
small. -/
def copyTo (mem : Bytes) (offset : Nat) (src : Bytes) : Option Bytes :=
  if offset + src.length <= mem.length then some (blit mem offset src) else none

/-- `<<` of a `size_t`, which is undefined from 64 bits on. -/
def shiftLeftSize (val n : Nat) : Option Nat :=
  if n < 64 then some ((val <<< n) % 2 ^ 64) else none

/-- `new char[n]` throws on requests that are not granted, and always on those
beyond `PTRDIFF_MAX`. -/
def tryNewChars (grants : Nat -> Bool) (n : Nat) : Option Bytes :=
  if n < 2 ^ 63 ∧ grants n = true then some (newChars n) else none

namespace FlatBuffer

/-- No result stands for a copy that leaves the storage, a shift that is
undefined, or an exception. -/
def prepend (grants : Nat -> Bool) (b : FlatBuffer) (d : Bytes) :
    Option FlatBuffer :=
  if d = [] then
    some b
  else if d.length <= b.readIndex then do
    let readIndex := b.readIndex - d.length
    let storage <- copyTo b.storage readIndex d
    return { b with storage := storage, readIndex := readIndex }
  else if d.length <= b.writableBytes then do
    let moved <- copyTo b.storage (b.readIndex + d.length) b.unread
    let storage <- copyTo moved b.readIndex d
    return { b with
      storage := storage
      writeIndex := b.writeIndex + d.length }
  else
    let offset := d.length - b.readIndex
    if offset <= b.writableBytes then do
      let moved <- copyTo b.storage (b.readIndex + offset) b.unread
      let storage <- copyTo moved 0 d
      return { b with
        storage := storage
        readIndex := 0
        writeIndex := b.writeIndex + offset }
    else do
      -- `capacity_ << 1 + size` shifts by the sum.
      let capacity <- shiftLeftSize b.capacity (1 + d.length)
      let temp <- tryNewChars grants capacity
      let front <- copyTo temp 0 d
      let storage <- copyTo front d.length b.unread
      let b := { b with capacity := capacity, readIndex := 0 }
      -- The read index is 0 already when the unread length is taken.
      return { b with
        storage := storage
        writeIndex := d.length + b.unreadLength }

/-- The bytes are put in front of the unread ones. -/
def PrependsExactly (grants : Nat -> Bool) (b : FlatBuffer) (d : Bytes) :
    Prop :=
  exists b', b.prepend grants d = some b' ∧ b'.Valid ∧ b'.unread = d ++ b.unread

/-- There is room for the bytes before and behind what is unread. -/
def HasRoom (b : FlatBuffer) (d : Bytes) : Prop :=
  d.length <= b.readIndex + b.writableBytes

instance (b : FlatBuffer) (d : Bytes) : Decidable (HasRoom b d) :=
  inferInstanceAs (Decidable (_ <= _))

/-- The capacity that the regrowth asks for. -/
def shiftedCapacity (b : FlatBuffer) (d : Bytes) : Nat :=
  (b.capacity <<< (1 + d.length)) % 2 ^ 64

/-- Nothing has been read, and the shifted capacity is defined, enough, and
granted. -/
structure RegrowsWell (grants : Nat -> Bool) (b : FlatBuffer) (d : Bytes) :
    Prop where
  unconsumed : b.readIndex = 0
  defined : 1 + d.length < 64
  enough : d.length + b.writeIndex <= shiftedCapacity b d
  possible : shiftedCapacity b d < 2 ^ 63
  granted : grants (shiftedCapacity b d) = true

/-!
## Copies
-/

theorem copyTo_eq {mem src : Bytes} {offset : Nat}
    (h : offset + src.length <= mem.length) :
    copyTo mem offset src = some (blit mem offset src) :=
  if_pos h

/-- From its offset on, a copy shows the source and what was behind it. -/
theorem drop_blit {mem src : Bytes} {offset : Nat} (h : offset <= mem.length) :
    (blit mem offset src).drop offset =
      src ++ mem.drop (offset + src.length) := by
  have hfront : (mem.take offset).length = offset := List.length_take_of_le h
  rw [blit, List.append_assoc, List.drop_left' hfront]

/-- What is unread is moved, and the bytes are copied to the place before it. -/
theorem move_and_copy {mem d u : Bytes} {r : Nat}
    (h : r + d.length + u.length <= mem.length) :
    exists storage more,
      (do
        let moved <- copyTo mem (r + d.length) u
        copyTo moved r d) = some storage ∧
      storage.length = mem.length ∧ storage.drop r = d ++ u ++ more := by
  have hmoved := blit_length h
  have hroom : r + d.length <= (blit mem (r + d.length) u).length := by
    omega
  refine ⟨blit (blit mem (r + d.length) u) r d,
    mem.drop (r + d.length + u.length), ?_, ?_, ?_⟩
  · rw [copyTo_eq h]
    exact copyTo_eq hroom
  · rw [blit_length hroom, hmoved]
  · rw [drop_blit (by omega), drop_blit (by omega), List.append_assoc]

/-- The same from left to right, into a new storage. -/
theorem copy_both {mem d u : Bytes} (h : d.length + u.length <= mem.length) :
    exists storage more,
      (do
        let front <- copyTo mem 0 d
        copyTo front d.length u) = some storage ∧
      storage.length = mem.length ∧ storage = d ++ u ++ more := by
  have hfront : 0 + d.length <= mem.length := by
    omega
  have hroom : d.length + u.length <= (blit mem 0 d).length := by
    rw [blit_length hfront]
    exact h
  refine ⟨blit (blit mem 0 d) d.length u,
    (blit mem 0 d).drop (d.length + u.length), ?_, ?_, ?_⟩
  · rw [copyTo_eq hfront]
    exact copyTo_eq hroom
  · rw [blit_length hroom, blit_length hfront]
  · rw [blit, take_blit_front rfl]

/-- The data begin with the bytes that the indexes enclose. -/
theorem unread_of_data {b : FlatBuffer} {bytes more : Bytes}
    (hdata : b.storage.drop b.readIndex = bytes ++ more)
    (hlen : b.unreadLength = bytes.length) :
    b.unread = bytes := by
  rw [unread, data, hdata, hlen, List.take_left]

/-!
## Room in the storage
-/

section Room

variable {grants : Nat -> Bool} {b : FlatBuffer} {d : Bytes}

theorem prepend_before (hb : b.Valid) (hne : d ≠ [])
    (hfits : d.length <= b.readIndex) : PrependsExactly grants b d := by
  have h1 := hb.read_le_write
  have h2 := hb.write_le_capacity
  have h3 := hb.capacity_eq
  have hunread := hb.unread_length
  have hback : b.readIndex - d.length + d.length = b.readIndex :=
    Nat.sub_add_cancel hfits
  have hroom : b.readIndex - d.length + d.length <= b.storage.length := by
    omega
  have hdata : (blit b.storage (b.readIndex - d.length) d).drop
      (b.readIndex - d.length) = d ++ b.unread ++ b.data.drop b.unreadLength := by
    have hall : b.unread ++ b.data.drop b.unreadLength = b.data :=
      List.take_append_drop b.unreadLength b.data
    rw [drop_blit (by omega), hback, List.append_assoc, hall]
    rfl
  refine ⟨{ b with
    storage := blit b.storage (b.readIndex - d.length) d
    readIndex := b.readIndex - d.length }, ?_, ⟨?_, h2, ?_⟩, ?_⟩
  · unfold prepend
    rw [if_neg hne, if_pos hfits]
    simp only [copyTo_eq hroom]
    rfl
  · simp only
    omega
  · rw [blit_length hroom]
    exact h3
  · refine unread_of_data hdata ?_
    rw [List.length_append, hunread]
    simp only [unreadLength]
    omega

/-- The unread bytes are moved to the right, behind the read index. -/
theorem prepend_behind (hb : b.Valid) (hne : d ≠ [])
    (hread : b.readIndex < d.length) (hfits : d.length <= b.writableBytes) :
    PrependsExactly grants b d := by
  have h1 := hb.read_le_write
  have h2 := hb.write_le_capacity
  have h3 := hb.capacity_eq
  have hunread := hb.unread_length
  have hroom : b.readIndex + d.length + b.unread.length <=
      b.storage.length := by
    simp only [writableBytes, unreadLength] at hfits hunread
    omega
  rcases move_and_copy hroom with ⟨storage, more, hcopy, hlen, hdata⟩
  refine ⟨{ b with
    storage := storage
    writeIndex := b.writeIndex + d.length }, ?_, ⟨?_, ?_, ?_⟩, ?_⟩
  · unfold prepend
    rw [if_neg hne, if_neg (Nat.not_le.mpr hread), if_pos hfits]
    rcases Option.bind_eq_some_iff.mp hcopy with ⟨moved, hmoved, hlast⟩
    rw [hmoved, Option.bind_eq_bind, Option.bind_some, hlast]
    rfl
  · simp only
    omega
  · simp only [writableBytes] at hfits ⊢
    omega
  · exact h3.trans hlen.symm
  · refine unread_of_data hdata ?_
    simp only [unreadLength, List.length_append] at hunread ⊢
    omega

/-- The unread bytes are moved just as far as is needed. -/
theorem prepend_around (hb : b.Valid) (hne : d ≠ [])
    (hread : b.readIndex < d.length) (hfull : b.writableBytes < d.length)
    (hfits : d.length - b.readIndex <= b.writableBytes) :
    PrependsExactly grants b d := by
  have h1 := hb.read_le_write
  have h2 := hb.write_le_capacity
  have h3 := hb.capacity_eq
  have hunread := hb.unread_length
  have hplace : b.readIndex + (d.length - b.readIndex) = 0 + d.length := by
    omega
  have hroom : 0 + d.length + b.unread.length <= b.storage.length := by
    simp only [writableBytes, unreadLength] at hfits hunread
    omega
  rcases move_and_copy hroom with ⟨storage, more, hcopy, hlen, hdata⟩
  refine ⟨{ b with
    storage := storage
    readIndex := 0
    writeIndex := b.writeIndex + (d.length - b.readIndex) },
    ?_, ⟨?_, ?_, ?_⟩, ?_⟩
  · unfold prepend
    rw [if_neg hne, if_neg (Nat.not_le.mpr hread),
      if_neg (Nat.not_le.mpr hfull)]
    simp only [if_pos hfits, hplace]
    rcases Option.bind_eq_some_iff.mp hcopy with ⟨moved, hmoved, hlast⟩
    rw [hmoved, Option.bind_eq_bind, Option.bind_some, hlast]
    rfl
  · exact Nat.zero_le _
  · simp only [writableBytes] at hfits ⊢
    omega
  · exact h3.trans hlen.symm
  · refine unread_of_data hdata ?_
    simp only [unreadLength, List.length_append] at hunread ⊢
    omega

theorem prependsExactly_of_hasRoom (hb : b.Valid) (hne : d ≠ [])
    (h : HasRoom b d) : PrependsExactly grants b d := by
  unfold HasRoom at h
  rcases Nat.lt_or_ge b.readIndex d.length with hread | hbefore
  · rcases Nat.lt_or_ge b.writableBytes d.length with hfull | hbehind
    · exact prepend_around hb hne hread hfull (by omega)
    · exact prepend_behind hb hne hread hbehind
  · exact prepend_before hb hne hbefore

/-!
## A new storage
-/

/-- Without room, the capacity is shifted by the sum. -/
theorem prepend_regrow (hne : d ≠ []) (h : ¬ HasRoom b d) :
    b.prepend grants d = (do
      let capacity <- shiftLeftSize b.capacity (1 + d.length)
      let temp <- tryNewChars grants capacity
      let front <- copyTo temp 0 d
      let storage <- copyTo front d.length b.unread
      return { b with
        storage := storage
        capacity := capacity
        readIndex := 0
        writeIndex := d.length + b.writeIndex }) := by
  have hroom : b.readIndex + b.writableBytes < d.length := Nat.not_le.mp h
  have hbefore : ¬ d.length <= b.readIndex := by
    omega
  have hbehind : ¬ d.length <= b.writableBytes := by
    omega
  have haround : ¬ d.length - b.readIndex <= b.writableBytes := by
    omega
  unfold prepend
  rw [if_neg hne, if_neg hbefore, if_neg hbehind]
  simp only [if_neg haround]
  rfl

/-- The new write index counts the bytes before the read index once more. -/
theorem prependsExactly_regrow_iff (hb : b.Valid) (hne : d ≠ [])
    (h : ¬ HasRoom b d) :
    PrependsExactly grants b d <-> RegrowsWell grants b d := by
  have h1 := hb.read_le_write
  have hunread := hb.unread_length
  unfold PrependsExactly
  rw [prepend_regrow hne h]
  constructor
  · rintro ⟨b', hprepend, hvalid, hexact⟩
    rcases Option.bind_eq_some_iff.mp hprepend with ⟨capacity, hshift, halloc⟩
    rcases Option.bind_eq_some_iff.mp halloc with ⟨temp, htemp, hcopy⟩
    rcases Option.bind_eq_some_iff.mp hcopy with ⟨front, _, hcopy⟩
    rcases Option.bind_eq_some_iff.mp hcopy with ⟨storage, _, hresult⟩
    cases hresult
    have hlength := hvalid.unread_length
    have hwrite := hvalid.write_le_capacity
    rw [hexact, List.length_append] at hlength
    unfold shiftLeftSize at hshift
    split at hshift
    · rename_i hshort
      cases hshift
      unfold tryNewChars at htemp
      split at htemp
      · rename_i hgranted
        simp only [unreadLength] at hlength hunread
        exact ⟨by omega, hshort, hwrite, hgranted.1, hgranted.2⟩
      · cases htemp
    · cases hshift
  · rintro ⟨hstart, hshort, hfits, hpossible, hgranted⟩
    have hshift : shiftLeftSize b.capacity (1 + d.length) =
        some (shiftedCapacity b d) := if_pos hshort
    have halloc : tryNewChars grants (shiftedCapacity b d) =
        some (newChars (shiftedCapacity b d)) := if_pos ⟨hpossible, hgranted⟩
    have hdata : (newChars (shiftedCapacity b d)).length =
        shiftedCapacity b d := List.length_replicate
    have hroom : d.length + b.unread.length <=
        (newChars (shiftedCapacity b d)).length := by
      simp only [unreadLength] at hunread
      rw [hdata]
      omega
    rcases copy_both hroom with ⟨storage, more, hcopy, hlen, hbytes⟩
    refine ⟨{ b with
      storage := storage
      capacity := shiftedCapacity b d
      readIndex := 0
      writeIndex := d.length + b.writeIndex }, ?_,
      ⟨Nat.zero_le _, hfits, (hlen.trans hdata).symm⟩, ?_⟩
    · rcases Option.bind_eq_some_iff.mp hcopy with ⟨front, hfront, hlast⟩
      simp only [hshift, halloc, hfront, hlast, Option.bind_eq_bind,
        Option.bind_some]
      rfl
    · refine unread_of_data hbytes ?_
      simp only [unreadLength, List.length_append] at hunread ⊢
      omega

end Room

/-- Where there is room the bytes are always put in place. -/
theorem prependsExactly_iff (grants : Nat -> Bool) {b : FlatBuffer} {d : Bytes}
    (hb : b.Valid) (hne : d ≠ []) :
    PrependsExactly grants b d <-> HasRoom b d ∨ RegrowsWell grants b d := by
  by_cases h : HasRoom b d
  · exact ⟨fun _ => Or.inl h, fun _ => prependsExactly_of_hasRoom hb hne h⟩
  · rw [prependsExactly_regrow_iff hb hne h]
    exact ⟨Or.inr, fun hor => hor.resolve_left h⟩

def fourBytes : FlatBuffer :=
  (create 4).write [1, 2, 3, 4]

theorem fourBytes_valid : fourBytes.Valid :=
  write_valid (create_valid 4) _

/-- One of four bytes has been read, and nothing more fits behind the others. -/
def oneRead : FlatBuffer :=
  fourBytes.safeConsume 1

theorem oneRead_valid : oneRead.Valid :=
  safeConsume_valid fourBytes_valid 1

/-- One byte fits before the unread ones and two do not, but where nothing has
been read the storage is enlarged for one. -/
theorem prependsExactly_iff_oneRead :
    PrependsExactly (fun _ => true) oneRead [9] ∧
      ¬ PrependsExactly (fun _ => true) oneRead [8, 9] ∧
        PrependsExactly (fun _ => true) fourBytes [9] := by
  refine ⟨?_, ?_, ?_⟩
  · apply (prependsExactly_iff (fun _ => true) oneRead_valid (by decide)).mpr
    exact Or.inl (by decide)
  · intro h
    rcases (prependsExactly_iff (fun _ => true) oneRead_valid
      (by decide)).mp h with hroom | hregrows
    · exact absurd hroom (by decide)
    · exact absurd hregrows.unconsumed (by decide)
  · apply (prependsExactly_iff (fun _ => true) fourBytes_valid (by decide)).mpr
    exact Or.inr ⟨by decide, by decide, by decide, by decide, rfl⟩

/-- Six bytes are unread then, not five. -/
theorem not_prependsExactly_oneRead :
    ¬ PrependsExactly (fun _ => true) oneRead [8, 9] := by
  rintro ⟨b', hprepend, _, hunread⟩
  have hlonger : (oneRead.prepend (fun _ => true) [8, 9]).map
      (fun b => b.unread.length) = some 6 := by
    decide
  rw [hprepend, Option.map_some, hunread] at hlonger
  exact absurd hlonger (by decide)

end FlatBuffer

end Network
end Streaming
