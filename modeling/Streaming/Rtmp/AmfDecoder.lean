import Streaming.Network.FlatBuffer
import Streaming.Rtmp.Amf

/-!
# The AMF0 decoder

A decoder reads values from the front of a message's buffer.  Its version, which
the marker 0x11 may raise from 0 to 3, is only ever logged.
-/

namespace Streaming
namespace Rtmp

open Foundation Network Util

namespace AmfDecoder

abbrev Load := EStateM String FlatBuffer

def amfNumber : Nat := 0x00
def amfBoolean : Nat := 0x01
def amfString : Nat := 0x02
def amfObject : Nat := 0x03
def amfNull : Nat := 0x05
def amfObjectEnd : Nat := 0x09

def popFront : Load Nat :=
  FlatBuffer.readUint8

def peekFront : Load Nat :=
  FlatBuffer.peekUint8

/-- The marker that a value begins with. -/
def expect (marker : Nat) (what : String) : Load PUnit := do
  if (<- popFront) ≠ marker then
    throw what

def loadString : Load Bytes := do
  expect amfString "Expected a string"
  FlatBuffer.readString (<- FlatBuffer.readUint16)

/-- The bits of the number. -/
def loadDouble : Load Nat := do
  expect amfNumber "Expected a number"
  FlatBuffer.readUint64

def loadBool : Load Bool := do
  expect amfBoolean "Expected a bool"
  return (<- popFront) ≠ 0

def loadKey : Load Bytes := do
  FlatBuffer.readString (<- FlatBuffer.readUint16)

/-- Entries that have been read stay there when an exception is thrown. -/
abbrev LoadEntries (value : Type) :=
  EStateM String (FlatBuffer × List (Bytes × value))

/-- The loop over keys and values, up to an empty key.  A value may be that of
the entry before. -/
def loadEntries {value : Type} (loadValue : value -> Load value) :
    Nat -> value -> LoadEntries value PUnit
  | 0, _ => throw "not enough data"
  | fuel + 1, last => do
      let key <- onFst loadKey
      if key = [] then
        return
      else
        let next <- onFst (loadValue last)
        modify fun s => (s.1, s.2 ++ [(key, next)])
        loadEntries loadValue fuel next

/-- Every turn of the loop reads a length, so that the unread length is fuel
enough. -/
def loadAllEntries {value : Type} (loadValue : value -> Load value)
    (first : value) : LoadEntries value PUnit := do
  loadEntries loadValue (<- get).1.unreadLength first

/-- `load_object`, all of whose values are strings. -/
def loadObject : Load (List (Bytes × Bytes)) := fun b =>
  match (do
      onFst (expect amfObject "expect an object")
      loadAllEntries (fun _ => loadString) []
      onFst (expect amfObjectEnd "expect an object end") :
        LoadEntries Bytes PUnit) (b, []) with
  | .ok _ (b, entries) => .ok entries b
  | .error what (b, _) => .error what b

/-!
## What a read takes away
-/

/-- A read takes bytes away. -/
def Reads {value : Type} (n : Nat) (m : Load value) : Prop :=
  forall b a b', m b = .ok a b' -> b'.unreadLength + n <= b.unreadLength

theorem Reads.bind {value result : Type} {m : Load value}
    {f : value -> Load result} {i j : Nat} (hm : Reads i m)
    (hf : forall a, Reads j (f a)) : Reads (i + j) (m >>= f) := by
  intro b a b' h
  rcases bind_eq_ok h with ⟨x, t, hfirst, hlast⟩
  have h1 := hm b x t hfirst
  have h2 := hf x t a b' hlast
  omega

theorem Reads.mono {value : Type} {m : Load value} {i j : Nat}
    (h : Reads j m) (hle : i <= j) : Reads i m := by
  intro b a b' hm
  exact Nat.le_trans (Nat.add_le_add_left hle _) (h b a b' hm)

theorem reads_pure {value : Type} (a : value) : Reads 0 (pure a : Load value) := by
  intro b a' b' h
  cases h
  exact Nat.le_refl _

theorem reads_consume (n : Nat) : Reads n (FlatBuffer.consumeOrFail n) := by
  intro b a b' h
  have hrest := FlatBuffer.consumeOrFail_unreadLength h
  unfold FlatBuffer.consumeOrFail at h
  split at h
  · omega
  · cases h

theorem reads_throw {value : Type} (n : Nat) (what : String) :
    Reads n (throw what : Load value) := by
  intro b a b' h
  cases h

theorem reads_peekFront : Reads 0 peekFront := by
  intro b a b' h
  unfold peekFront FlatBuffer.peekUint8 at h
  split at h
  · cases h
  · cases h
    exact Nat.le_refl _

theorem reads_popFront : Reads 1 popFront := by
  exact (reads_peekFront.bind fun x => (reads_consume 1).bind fun _ =>
    reads_pure x).mono (by decide)

theorem reads_expect (marker : Nat) (what : String) :
    Reads 1 (expect marker what) := by
  unfold expect
  refine reads_popFront.bind (j := 0) fun x => ?_
  split
  · exact reads_throw 0 what
  · exact reads_pure PUnit.unit

theorem reads_uint16 : Reads 2 FlatBuffer.readUint16 := by
  have hpeek : Reads 0 FlatBuffer.peekUint16 := by
    intro b a b' h
    unfold FlatBuffer.peekUint16 at h
    split at h
    · cases h
    · cases h
      exact Nat.le_refl _
  exact (hpeek.bind fun x => (reads_consume 2).bind fun _ => reads_pure x).mono
    (by decide)

theorem reads_string (len : Nat) : Reads len (FlatBuffer.readString len) := by
  intro b a b' h
  unfold FlatBuffer.readString at h
  split at h
  · cases h
  · exact ((reads_consume len).bind fun _ => reads_pure _) b a b' h

theorem reads_key : Reads 2 loadKey := by
  exact (reads_uint16.bind fun len => (reads_string len).mono
    (Nat.zero_le len)).mono (by decide)

theorem reads_loadString : Reads 3 loadString := by
  exact ((reads_expect amfString "Expected a string").bind fun _ =>
    reads_key).mono (by decide)

theorem reads_loadBool : Reads 2 loadBool := by
  exact ((reads_expect amfBoolean "Expected a bool").bind fun _ =>
    reads_popFront.bind fun x => reads_pure (decide (x ≠ 0))).mono (by decide)

/-- The read index is back where it was. -/
theorem peekUint64_ok {b b' : FlatBuffer} {x : Nat}
    (h : FlatBuffer.peekUint64 b = .ok x b') : b' = b := by
  rcases Nat.lt_or_ge b.unreadLength 8 with hlt | hle
  · rw [FlatBuffer.peekUint64_of_lt hlt] at h
    cases h
  · rw [FlatBuffer.peekUint64_of_le hle] at h
    cases h
    rfl

theorem reads_loadDouble : Reads 9 loadDouble := by
  have hread : Reads 8 FlatBuffer.readUint64 := by
    have hpeek : Reads 0 FlatBuffer.peekUint64 := by
      intro b a b' h
      rw [peekUint64_ok h]
      exact Nat.le_refl _
    exact (hpeek.bind fun x => (reads_consume 8).bind fun _ =>
      reads_pure x).mono (by decide)
  exact ((reads_expect amfNumber "Expected a number").bind fun _ => hread).mono
    (by decide)

theorem loadKey_empty {b : FlatBuffer} (h : b.unreadLength = 0) :
    loadKey b = .error "not enough data" b := by
  have hpeek : FlatBuffer.peekUint16 b = .error "not enough data" b := by
    unfold FlatBuffer.peekUint16
    exact if_pos (by omega)
  have hread : FlatBuffer.readUint16 b = .error "not enough data" b := by
    change EStateM.bind FlatBuffer.peekUint16 _ b = _
    unfold EStateM.bind
    rw [hpeek]
  change EStateM.bind FlatBuffer.readUint16 _ b = _
  unfold EStateM.bind
  rw [hread]

end AmfDecoder

end Rtmp
end Streaming
