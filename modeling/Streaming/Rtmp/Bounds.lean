import Streaming.Foundation.Checked
import Streaming.Rtmp.Assembly
import Streaming.Rtmp.Leftover

/-!
# Loads and sizes in `split_rtmp`

The loop again, with every load through a pointer and every computation of a
size checked.  The loads are all inside the data, and only one size can wrap
around: what is left of a message that a header has made too short.
-/

namespace Streaming
namespace Rtmp

open Foundation Network Util

/-!
## The checked loop
-/

section Checked

variable {σ : Type}

def checkedBasicHeader (data : Bytes) : Option BasicHeader := do
  let flags <- loadAt data 0 1
  let id := byteAt flags 0 &&& 0x3F
  if id = 0 then
    if data.length < 2 then return .short id
    let low <- loadAt data 1 1
    return .complete (64 + byteAt low 0) 1
  else if id = 1 then
    if data.length < 3 then return .short id
    let low <- loadAt data 1 1
    let high <- loadAt data 2 1
    return .complete (64 + byteAt low 0 + (byteAt high 0 <<< 8)) 2
  else
    return .complete id 0

/-- Load the fields that a header of this length carries. -/
def checkedHeader (headerLength offset : Nat) (data : Bytes)
    (pkt : RtmpPacket) : Option RtmpPacket :=
  match headerLength with
  | 12 => do
      let timeStamp <- loadAt data (offset + 1) 3
      let msgLength <- loadAt data (offset + 4) 3
      let msgTypeId <- loadAt data (offset + 7) 1
      let msgStreamId <- loadAt data (offset + 8) 4
      return { pkt with
        isAbsStamp := true
        tsDelta := loadBe24 timeStamp
        msgLength := loadBe24 msgLength
        msgTypeId := byteAt msgTypeId 0
        msgStreamId := loadLe32 msgStreamId }
  | 8 => do
      let timeStamp <- loadAt data (offset + 1) 3
      let msgLength <- loadAt data (offset + 4) 3
      let msgTypeId <- loadAt data (offset + 7) 1
      return { pkt with
        tsDelta := loadBe24 timeStamp
        msgLength := loadBe24 msgLength
        msgTypeId := byteAt msgTypeId 0 }
  | 4 => do
      let timeStamp <- loadAt data (offset + 1) 3
      return { pkt with tsDelta := loadBe24 timeStamp }
  | _ => some pkt

/-- The extended timestamp, if there is one and all of it has arrived. -/
def checkedTimestamp (tsDelta : Nat) (data : Bytes) (headerEnd : Nat) :
    Option (Option (Nat × Nat)) :=
  if tsDelta = 0xFFFFFF then do
    let stampEnd <- addSize 64 headerEnd 4
    if data.length < stampEnd then return none
    let timeStamp <- loadAt data headerEnd 4
    return some (loadBe32 timeStamp, stampEnd)
  else
    some (some (tsDelta, headerEnd))

def checkedBody (remain : RtmpPacket -> Option Nat) (env : Env σ)
    (st : RtmpProtocol σ) (id : Nat) (pkt : RtmpPacket) (headerEnd : Nat)
    (data : Bytes) : Option (Attempt (RtmpProtocol σ) RtmpPacket) := do
  match <- checkedTimestamp pkt.tsDelta data headerEnd with
  | none => return .needMore st
  | some (timeStamp, headerEnd) =>
      let remainMsgLen <- remain pkt
      let more := min st.chunkSizeIn remainMsgLen
      let chunkEnd <- addSize 64 headerEnd more
      if data.length < chunkEnd then return .needMore st
      let payload <- loadAt data headerEnd more
      let _ <- subSize data.length chunkEnd
      return takeChunk env st id pkt timeStamp headerEnd payload

/-- `splitOnce` with checks; `remain` is how `remain_msg_len` is computed. -/
def checkedOnce (remain : RtmpPacket -> Option Nat) (env : Env σ)
    (st : RtmpProtocol σ) (data : Bytes) :
    Option (Attempt (RtmpProtocol σ) RtmpPacket) := do
  match <- checkedBasicHeader data with
  | .short id => return .needMore { st with chunkStreamId := id }
  | .complete id offset =>
      let flags <- loadAt data 0 1
      let headerLength := kHeaderLength (byteAt flags 0 >>> 6)
      let headerEnd <- addSize 64 headerLength offset
      if data.length < headerEnd then
        return .needMore { st with chunkStreamId := id }
      let slot := st.chunkedDataMap id
      let pkt <- checkedHeader headerLength offset data
        { nowPacket env id slot with chunkStreamId := id }
      let st := { st with chunkStreamId := id }.setSlot id
        { slot with now := some pkt }
      checkedBody remain env st id pkt headerEnd data

/-- `msg_length - buf->unread_length()`, not below zero. -/
def checkedRemain (pkt : RtmpPacket) : Option Nat :=
  subSize pkt.msgLength pkt.buf.unreadLength

/-!
## The loads are inside the data
-/

theorem kHeaderLength_le (fmt : Nat) : kHeaderLength fmt <= 12 := by
  rcases kHeaderLength_cases fmt with h | h | h | h <;> omega

theorem byteAt_load (data : Bytes) (i : Nat) :
    byteAt ((data.drop i).take 1) 0 = byteAt data i := by
  rw [byteAt_take (by decide), byteAt_drop, Nat.add_zero]

theorem checkedBasicHeader_eq {data : Bytes} (hne : data ≠ []) :
    checkedBasicHeader data = some (basicHeader data) := by
  have hpos := List.length_pos_of_ne_nil hne
  unfold checkedBasicHeader basicHeader
  rw [loadAt_eq (by omega), Option.bind_eq_bind, Option.bind_some]
  dsimp only
  rw [byteAt_load]
  by_cases hzero : byteAt data 0 &&& 0x3F = 0
  · rw [if_pos hzero, if_pos hzero]
    by_cases hshort : data.length < 2
    · rw [if_pos hshort, if_pos hshort]
      rfl
    · rw [if_neg hshort, if_neg hshort, loadAt_eq (by omega)]
      simp only [Option.bind_some, byteAt_load]
      rfl
  · rw [if_neg hzero, if_neg hzero]
    by_cases hone : byteAt data 0 &&& 0x3F = 1
    · rw [if_pos hone, if_pos hone]
      by_cases hshort : data.length < 3
      · rw [if_pos hshort, if_pos hshort]
        rfl
      · rw [if_neg hshort, if_neg hshort, loadAt_eq (by omega),
          loadAt_eq (by omega)]
        simp only [Option.bind_some, byteAt_load]
        rfl
    · rw [if_neg hone, if_neg hone]
      rfl

theorem checkedHeader_eq {fmt offset : Nat} {data : Bytes} (pkt : RtmpPacket)
    (hlen : offset + kHeaderLength fmt <= data.length) :
    checkedHeader (kHeaderLength fmt) offset data pkt =
      some (applyHeader (kHeaderLength fmt) (data.drop offset) pkt) := by
  rcases kHeaderLength_cases fmt with h | h | h | h <;> rw [h] at hlen ⊢
  · unfold checkedHeader applyHeader
    rw [loadAt_eq (by omega), loadAt_eq (by omega), loadAt_eq (by omega),
      loadAt_eq (by omega)]
    simp [loadBe24_take, loadLe32_take, byteAt_load, byteAt_drop,
      List.drop_drop]
  · unfold checkedHeader applyHeader
    rw [loadAt_eq (by omega), loadAt_eq (by omega), loadAt_eq (by omega)]
    simp [loadBe24_take, byteAt_load, byteAt_drop, List.drop_drop]
  · unfold checkedHeader applyHeader
    rw [loadAt_eq (by omega)]
    simp [loadBe24_take, List.drop_drop]
  · rfl

theorem checkedTimestamp_eq (tsDelta : Nat) (data : Bytes) {headerEnd : Nat}
    (hend : headerEnd < 2 ^ 32) :
    checkedTimestamp tsDelta data headerEnd =
      some (extendedTimestamp tsDelta data headerEnd) := by
  unfold checkedTimestamp extendedTimestamp
  by_cases hext : tsDelta = 0xFFFFFF
  · rw [if_pos hext, if_pos hext, addSize_eq (by omega), Option.bind_eq_bind,
      Option.bind_some]
    by_cases hshort : data.length < headerEnd + 4
    · rw [if_pos hshort, if_pos hshort]
      rfl
    · rw [if_neg hshort, if_neg hshort, loadAt_eq (by omega)]
      simp [loadBe32_take]
  · rw [if_neg hext, if_neg hext]

variable {env : Env σ} {st : RtmpProtocol σ} {data : Bytes}

theorem checkedOnce_of_isEmpty (remain : RtmpPacket -> Option Nat)
    (hne : data ≠ []) (h : IsEmpty (ChunkHeader data)) :
    checkedOnce remain env st data = some (splitOnce env st data) := by
  have hpos := List.length_pos_of_ne_nil hne
  unfold checkedOnce splitOnce
  rw [checkedBasicHeader_eq hne, Option.bind_eq_bind, Option.bind_some]
  cases hbasic : basicHeader data with
  | short id => rfl
  | complete id offset =>
      have hoffset := basicHeader_offset_le hbasic
      have hlength := kHeaderLength_le (byteAt data 0 >>> 6)
      have hshort : data.length <
          offset + kHeaderLength (byteAt data 0 >>> 6) := by
        by_contra hfits
        exact h.false ⟨id, offset, hbasic, Nat.le_of_not_lt hfits⟩
      dsimp only
      rw [loadAt_eq (by omega), Option.bind_eq_bind, Option.bind_some,
        byteAt_load, addSize_eq (by omega), Option.bind_eq_bind,
        Option.bind_some, if_pos (by omega), if_pos hshort]
      rfl

theorem checkedOnce_header (remain : RtmpPacket -> Option Nat)
    (h : ChunkHeader data) :
    checkedOnce remain env st data =
      checkedBody remain env (h.opened env st) h.id (h.packet env st) h.size
        data := by
  have hpos := kHeaderLength_pos (byteAt data 0 >>> 6)
  have hoffset := basicHeader_offset_le h.basic
  have hlength := kHeaderLength_le (byteAt data 0 >>> 6)
  have hfits : ¬ data.length < kHeaderLength (byteAt data 0 >>> 6) + h.offset :=
    Nat.not_lt.mpr h.size_le
  have hne : data ≠ [] := by
    apply List.ne_nil_of_length_pos
    omega
  unfold checkedOnce
  rw [checkedBasicHeader_eq hne, h.basic, Option.bind_eq_bind,
    Option.bind_some]
  dsimp only
  rw [loadAt_eq (by omega), Option.bind_eq_bind, Option.bind_some,
    byteAt_load, addSize_eq (by omega), Option.bind_eq_bind, Option.bind_some,
    if_neg hfits, checkedHeader_eq _ h.fits,
    Option.bind_eq_bind, Option.bind_some]
  rfl

theorem checkedBody_eq {remain : RtmpPacket -> Option Nat} {id : Nat}
    {pkt : RtmpPacket} {headerEnd : Nat} (hsize : st.chunkSizeIn < 2 ^ 32)
    (hend : headerEnd < 2 ^ 32)
    (hremain : (extendedTimestamp pkt.tsDelta data headerEnd).isSome ->
      remain pkt = some (remainMsgLen pkt)) :
    checkedBody remain env st id pkt headerEnd data =
      some (readBody env st id pkt headerEnd data) := by
  unfold checkedBody readBody
  rw [checkedTimestamp_eq _ _ hend, Option.bind_eq_bind, Option.bind_some]
  cases hext : extendedTimestamp pkt.tsDelta data headerEnd with
  | none => rfl
  | some found =>
      rcases found with ⟨timeStamp, bodyStart⟩
      have hstart := (extendedTimestamp_bounds hext).2
      have hmore : min st.chunkSizeIn (remainMsgLen pkt) <= st.chunkSizeIn :=
        Nat.min_le_left _ _
      dsimp only
      rw [hremain (by rw [hext]; rfl), Option.bind_eq_bind, Option.bind_some]
      rw [addSize_eq (by omega), Option.bind_eq_bind, Option.bind_some]
      by_cases hshort :
          data.length < bodyStart + min st.chunkSizeIn (remainMsgLen pkt)
      · rw [if_pos hshort, if_pos hshort]
        rfl
      · rw [if_neg hshort, if_neg hshort, loadAt_eq (by omega),
          subSize_eq (by omega)]
        rfl

/-- A check that fails where the subtraction is reached gives no result. -/
theorem checkedBody_none {remain : RtmpPacket -> Option Nat} {id : Nat}
    {pkt : RtmpPacket} {headerEnd : Nat} (hend : headerEnd < 2 ^ 32)
    (hext : (extendedTimestamp pkt.tsDelta data headerEnd).isSome)
    (hremain : remain pkt = none) :
    checkedBody remain env st id pkt headerEnd data = none := by
  unfold checkedBody
  rw [checkedTimestamp_eq _ _ hend, Option.bind_eq_bind, Option.bind_some]
  rcases Option.isSome_iff_exists.mp hext with ⟨⟨timeStamp, bodyStart⟩, hsome⟩
  rw [hsome]
  dsimp only
  rw [hremain]
  rfl

theorem ChunkHeader.size_lt (h : ChunkHeader data) : h.size < 2 ^ 32 := by
  have hoffset := basicHeader_offset_le h.basic
  have hlength := kHeaderLength_le (byteAt data 0 >>> 6)
  unfold ChunkHeader.size ChunkHeader.length
  omega

/-- As far as what is left of the message is computed right, a look does no
load outside the data, and no size wraps around. -/
theorem checkedOnce_eq {remain : RtmpPacket -> Option Nat} (hne : data ≠ [])
    (hsize : st.chunkSizeIn < 2 ^ 32)
    (hremain : forall h : ChunkHeader data,
      (extendedTimestamp (h.packet env st).tsDelta data h.size).isSome ->
        remain (h.packet env st) = some (remainMsgLen (h.packet env st))) :
    checkedOnce remain env st data = some (splitOnce env st data) := by
  by_cases hheader : IsEmpty (ChunkHeader data)
  · exact checkedOnce_of_isEmpty remain hne hheader
  · rcases not_isEmpty_iff.mp hheader with ⟨h⟩
    rw [checkedOnce_header remain h, h.splitOnce_eq env st]
    exact checkedBody_eq hsize h.size_lt (hremain h)

/-- With the subtraction checked too, a look succeeds exactly if no header has
made its message shorter than what is buffered. -/
theorem checkedOnce_eq_iff (hne : data ≠ []) (hsize : st.chunkSizeIn < 2 ^ 32)
    (hlengths : forall h : ChunkHeader data,
      (h.packet env st).msgLength < 2 ^ 32) :
    checkedOnce checkedRemain env st data = some (splitOnce env st data) <->
      NoUnderflow env st data := by
  constructor
  · intro h header hext
    by_contra hunderflow
    have hnone : checkedRemain (header.packet env st) = none :=
      if_neg hunderflow
    rw [checkedOnce_header _ header,
      checkedBody_none header.size_lt hext hnone] at h
    cases h
  · intro h
    apply checkedOnce_eq hne hsize
    intro header hext
    have hle := h header hext
    have hshort := hlengths header
    rw [remainMsgLen_eq hle (by omega)]
    exact subSize_eq hle

/-!
## Headers that shorten a message

A header can be read before the bytes behind it have arrived.  If it makes the
message too short, then the subtraction is only reached when it is read again.
-/

/-- The header of a part of the data is the header of the whole. -/
theorem ChunkHeader.extend {seen rest : Bytes} (h : ChunkHeader seen)
    (hseen : seen <+: rest) :
    exists h' : ChunkHeader rest, h'.id = h.id ∧
      (h'.CarriesLength <-> h.CarriesLength) := by
  rcases hseen with ⟨more, rfl⟩
  have hpos := kHeaderLength_pos (byteAt seen 0 >>> 6)
  have hfits := h.fits
  have hfmt : byteAt (seen ++ more) 0 = byteAt seen 0 :=
    byteAt_append_left more (by omega)
  have hne : seen ≠ [] := by
    apply List.ne_nil_of_length_pos
    omega
  refine ⟨⟨h.id, h.offset, basicHeader_append more hne h.basic, ?_⟩, rfl, ?_⟩
  · rw [hfmt, List.length_append]
    omega
  · unfold CarriesLength length
    rw [hfmt]

/-- The message in progress is at least as long as what is buffered of it,
unless a header that shortens it is at the front of what is left. -/
def Slot.Covered (rest : Bytes) (id : Nat) (slot : Slot) : Prop :=
  forall pkt, slot.now = some pkt -> pkt.buf.Valid ∧
    (pkt.buf.unreadLength <= pkt.msgLength ∨
      exists h : ChunkHeader rest, h.id = id ∧ h.CarriesLength)

theorem packet_valid_of_covered {rest : Bytes} (h : ChunkHeader data)
    (hst : forall id, (st.chunkedDataMap id).Covered rest id) :
    (h.packet env st).buf.Valid := by
  rw [(h.packet_buf env st).1]
  exact nowPacket_valid env fun pkt hpkt => (hst h.id pkt hpkt).1

theorem buffered_le_inherited {rest : Bytes} {h : ChunkHeader data}
    (hst : forall id, (st.chunkedDataMap id).Covered rest id)
    (hseen : data <+: rest) (hcarries : ¬ h.CarriesLength) :
    (st.chunkedDataMap h.id).buffered <= (h.packet env st).msgLength := by
  rw [h.packet_msgLength_inherited env st hcarries]
  unfold Slot.buffered
  cases hnow : (st.chunkedDataMap h.id).now with
  | none => exact Nat.zero_le _
  | some pkt =>
      rw [nowPacket_busy env h.id hnow]
      rcases (hst h.id pkt hnow).2 with hle | ⟨h', hid, hcarries'⟩
      · exact hle
      · rcases h.extend hseen with ⟨h'', _, hsame⟩
        rw [Subsingleton.elim h' h''] at hcarries'
        exact absurd (hsame.mp hcarries') hcarries

theorem noUnderflow_of_covered {rest : Bytes}
    (hst : forall id, (st.chunkedDataMap id).Covered rest id)
    (hseen : data <+: rest) (hkeeps : KeepsBuffered env st data) :
    NoUnderflow env st data := by
  intro h hext
  rw [h.packet_buffered]
  by_cases hcarries : h.CarriesLength
  · rw [h.packet_msgLength env st hcarries]
    exact hkeeps h hcarries hext
  · exact buffered_le_inherited hst hseen hcarries

theorem covered_needMore {st' : RtmpProtocol σ} {rest : Bytes}
    (hst : forall id, (st.chunkedDataMap id).Covered rest id)
    (hseen : data <+: rest) (h : splitOnce env st data = .needMore st') :
    forall id, (st'.chunkedDataMap id).Covered rest id := by
  apply needMore_slots (P := fun id slot => slot.Covered rest id) h hst
  intro header _ pkt hpkt
  cases hpkt
  refine ⟨packet_valid_of_covered header hst, ?_⟩
  by_cases hcarries : header.CarriesLength
  · rcases header.extend hseen with ⟨h', hid, hsame⟩
    exact Or.inr ⟨h', hid, hsame.mpr hcarries⟩
  · rw [header.packet_buffered]
    exact Or.inl (buffered_le_inherited hst hseen hcarries)

theorem covered_done {st' : RtmpProtocol σ} {rest : Bytes}
    {items : List RtmpPacket} {k : Nat}
    (hst : forall id, (st.chunkedDataMap id).Covered rest id)
    (hseen : data <+: rest) (hkeeps : KeepsBuffered env st data)
    (h : splitOnce env st data = .done st' items k) :
    forall id, (st'.chunkedDataMap id).Covered (rest.drop k) id := by
  rcases splitOnce_done h with ⟨c, htook⟩
  intro id pkt hpkt
  by_cases hid : id = c.id
  · rw [hid, htook.slot_self] at hpkt
    rw [(c.slotAfter_now hpkt).1]
    rcases c.stored_buffered (packet_valid_of_covered c.toChunkHeader hst) with
      ⟨hvalid, hbuffered⟩
    have hle := noUnderflow_of_covered hst hseen hkeeps c.toChunkHeader
      (by rw [c.extended]; rfl)
    have hremain := remainMsgLen_le hle
    have hmore : c.more <= remainMsgLen (c.packet env st) :=
      Nat.min_le_right _ _
    rw [c.packet_buffered, ← c.stored_msgLength] at hle hremain
    exact ⟨hvalid, Or.inl (by omega)⟩
  · rw [htook.slot_ne hid] at hpkt
    rcases hst id pkt hpkt with ⟨hvalid, hle | ⟨h', hid', _⟩⟩
    · exact ⟨hvalid, Or.inl hle⟩
    · rcases c.toChunkHeader.extend hseen with ⟨h'', hid'', _⟩
      rw [Subsingleton.elim h' h'', hid''] at hid'
      exact absurd hid'.symm hid

/-!
## Calls
-/

/-- One call of `split_rtmp`: its first look loads nothing outside the data and
takes at least a byte if it goes on, the loop ends, and the pointer that is
returned lies in the data or at its end. -/
structure SafeCall (env : Env σ) (st : RtmpProtocol σ) (data : Bytes) :
    Prop where
  loads : data ≠ [] ->
    checkedOnce (fun pkt => some (remainMsgLen pkt)) env st data =
      some (splitOnce env st data)
  consumes : forall st' items k, splitOnce env st data = .done st' items k ->
    0 < k ∧ k <= data.length
  ends : Drains (splitOnce env) st data (splitRtmp env st data)
  pointer : forall st' items rest,
    splitRtmp env st data = .waiting st' items rest ->
      exists k, k <= data.length ∧ rest = data.drop k

theorem exists_drop_of_suffix {data rest : Bytes} (h : rest <:+ data) :
    exists k, k <= data.length ∧ rest = data.drop k :=
  ⟨data.length - rest.length, Nat.sub_le _ _, List.suffix_iff_eq_drop.mp h⟩

theorem safeCall_of_chunkSize (hsize : st.chunkSizeIn < 2 ^ 32) (data : Bytes) :
    SafeCall env st data where
  loads := fun hne => checkedOnce_eq hne hsize fun _ _ => rfl
  consumes := fun _ _ _ h => splitOnce_consumed env h
  ends := (chunkParser env).drains_drain st data
  pointer := fun _ _ _ h =>
    exists_drop_of_suffix ((chunkParser env).drain_rest_suffix h)

/-- If `on_parse_rtmp` returns, then it has consumed a front part of what was
unread, and the rest is still there. -/
def RtmpSession.ConsumesExactly (env : Env σ) (s : RtmpSession σ) : Prop :=
  (s.onRecv env).isClosed = false -> exists k, k <= s.buffer.unreadLength ∧
    (s.onRecv env).buffer =
      { s.buffer with readIndex := s.buffer.readIndex + k } ∧
    (s.onRecv env).buffer.unread = s.buffer.unread.drop k

theorem RtmpSession.consumesExactly {s : RtmpSession σ}
    (hvalid : s.buffer.Valid) : s.ConsumesExactly env := by
  intro hreturned
  rcases onRecv_returned env hvalid hreturned with ⟨items, hnext, _⟩
  have hsuffix := nextStepFunc_suffix env hnext
  refine ⟨s.buffer.unreadLength - (s.onRecv env).buffer.unread.length,
    Nat.sub_le _ _, ?_, ?_⟩
  · have hbuffer : (s.onRecv env).buffer = s.buffer.safeConsume
        (s.buffer.unreadLength - (s.onRecv env).buffer.unread.length) := by
      conv_lhs => unfold onRecv
      rw [hnext]
    exact hbuffer.trans (if_pos (Nat.sub_le _ _))
  · rw [← hvalid.unread_length]
    exact List.suffix_iff_eq_drop.mp hsuffix

/-- Every call is safe in every state that is reached, no size wraps around, and
`safe_consume` discards nothing. -/
structure Safe (env : Env σ) (st : RtmpProtocol σ) (data : Bytes) : Prop where
  call : forall before t rest, Visits (splitOnce env) st data before t rest ->
    forall content, SafeCall env t content
  sizes : forall before t rest seen,
    Visits (splitOnce env) st data before t rest -> seen <+: rest ->
      seen ≠ [] ->
        checkedOnce checkedRemain env t seen = some (splitOnce env t seen)
  consume : forall s : RtmpSession σ, s.buffer.Valid -> s.ConsumesExactly env

/-- What holds of every state that is reached. -/
structure InWidth (st : RtmpProtocol σ) : Prop where
  chunkSize : st.chunkSizeIn < 2 ^ 32
  lengths : forall id, (st.chunkedDataMap id).LengthsFit

theorem inWidth_needMore (hfresh : LengthsFit env) {st' : RtmpProtocol σ}
    (hst : InWidth st) (h : splitOnce env st data = .needMore st') :
    InWidth st' where
  chunkSize := by
    rcases splitOnce_needMore h with ⟨id, hst'⟩ | ⟨header, hst', _⟩
    · rw [hst']
      exact hst.chunkSize
    · rw [hst']
      exact hst.chunkSize
  lengths := needMore_lengthsFit hfresh h hst.lengths

theorem inWidth_done (hfresh : LengthsFit env) {st' : RtmpProtocol σ}
    {items : List RtmpPacket} {k : Nat} (hst : InWidth st)
    (h : splitOnce env st data = .done st' items k) : InWidth st' := by
  rcases splitOnce_done h with ⟨c, htook⟩
  refine ⟨?_, done_lengthsFit hfresh htook hst.lengths⟩
  rw [htook.chunkSizeIn_eq]
  unfold WholeChunk.chunkSizeAfter
  split
  · exact loadBe32_lt _
  · exact hst.chunkSize

theorem visits_inWidth (hfresh : LengthsFit env) {t : RtmpProtocol σ}
    {rest : Bytes} {before : List (RtmpProtocol σ × Bytes)}
    (hmap : st.chunkedDataMap = fun _ => {})
    (hsize : st.chunkSizeIn = kDefaultChunkLength)
    (h : Visits (splitOnce env) st data before t rest) : InWidth t := by
  have hinitial : InWidth st := by
    constructor
    · rw [hsize]
      decide
    · intro id
      rw [hmap]
      exact ⟨nofun, nofun⟩
  exact h.keeps (I := fun _ t _ => InWidth t) hinitial
    (fun _ _ _ _ _ _ _ => trivial)
    (fun ht _ _ hattempt => inWidth_needMore hfresh ht hattempt)
    (fun ht _ _ hattempt => inWidth_done hfresh ht hattempt)

/-- `split_rtmp` is safe on every byte stream, but for the subtraction that
wraps around where a header makes a message shorter than what is there of it. -/
theorem safe_iff (hfresh : LengthsFit env)
    (hmap : st.chunkedDataMap = fun _ => {})
    (hsize : st.chunkSizeIn = kDefaultChunkLength) :
    Safe env st data <->
      Throughout (splitOnce env) st data (KeepsBuffered env) := by
  have hlook : forall before t rest seen,
      Visits (splitOnce env) st data before t rest -> seen ≠ [] ->
        (checkedOnce checkedRemain env t seen = some (splitOnce env t seen) <->
          NoUnderflow env t seen) := by
    intro before t rest seen hvisits hne
    have ht := visits_inWidth hfresh hmap hsize hvisits
    exact checkedOnce_eq_iff hne ht.chunkSize
      fun h => h.packet_msgLength_lt hfresh (ht.lengths h.id)
  constructor
  · intro h before t rest seen hvisits hseen hne
    exact ((hlook _ _ _ _ hvisits hne).mp
      (h.sizes _ _ _ _ hvisits hseen hne)).keepsBuffered
  · intro h
    constructor
    · intro before t rest hvisits content
      have ht := visits_inWidth hfresh hmap hsize hvisits
      exact safeCall_of_chunkSize ht.chunkSize content
    · intro before t rest seen hvisits hseen hne
      have ht : forall id, (t.chunkedDataMap id).Covered rest id :=
        hvisits.keeps
          (I := fun _ t rest => forall id, (t.chunkedDataMap id).Covered rest id)
          (fun id pkt hpkt => by rw [hmap] at hpkt; cases hpkt) h
          (fun ht _ hseen hattempt => covered_needMore ht hseen hattempt)
          (fun ht hguard hseen hattempt =>
            covered_done ht hseen hguard hattempt)
      exact (hlook _ _ _ _ hvisits hne).mpr
        (noUnderflow_of_covered ht hseen (h _ _ _ _ hvisits hseen hne))
    · exact fun s hvalid => s.consumesExactly hvalid

theorem safe_iff_shrunkMessage :
    Safe .accepting { app := () } shrunkMessage <->
      Throughout (splitOnce .accepting) { app := () } shrunkMessage
        (KeepsBuffered .accepting) :=
  safe_iff (fun _ => Nat.two_pow_pos 32) rfl rfl

theorem not_safe_shrunkMessage :
    ¬ Safe .accepting { app := () } shrunkMessage := by
  intro h
  rcases shrunkMessage_visits with ⟨before, t, hvisits, hbuffered⟩
  have hfresh : LengthsFit Env.accepting := fun _ => Nat.two_pow_pos 32
  have ht := visits_inWidth hfresh rfl rfl hvisits
  have hchecked := h.sizes _ _ _ _ hvisits (List.prefix_refl oneByteHeader)
    (by decide)
  apply not_noUnderflow_oneByteHeader hbuffered
  exact (checkedOnce_eq_iff (by decide) ht.chunkSize
    fun h => h.packet_msgLength_lt hfresh (ht.lengths h.id)).mp hchecked

end Checked

end Rtmp
end Streaming
