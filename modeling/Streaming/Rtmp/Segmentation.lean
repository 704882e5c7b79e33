import Streaming.Rtmp.Protocol

/-!
# Parsing does not depend on how TCP cuts the stream

A chunk whose bytes have not all arrived is parsed again from its first byte,
after the first look has already created the packet in progress and overwritten
its header fields.  Looking again changes nothing more, and more bytes behind a
complete chunk change nothing at all, so the parser is resumable.
-/

namespace Streaming
namespace Rtmp

open Foundation Util Network

section Segmentation

variable {σ : Type} (env : Env σ)

/-!
## Reading a header again
-/

theorem kHeaderLength_cases (fmt : Nat) :
    kHeaderLength fmt = 12 ∨ kHeaderLength fmt = 8 ∨ kHeaderLength fmt = 4 ∨
      kHeaderLength fmt = 1 := by
  match fmt with
  | 0 | 1 | 2 | 3 => simp [kHeaderLength]
  | n + 4 => simp [kHeaderLength]

theorem kHeaderLength_pos (fmt : Nat) : 0 < kHeaderLength fmt := by
  rcases kHeaderLength_cases fmt with h | h | h | h <;> omega

theorem basicHeader_append {data : Bytes} (more : Bytes) {id offset : Nat}
    (hne : data ≠ []) (h : basicHeader data = .complete id offset) :
    basicHeader (data ++ more) = .complete id offset := by
  have hpos := List.length_pos_of_ne_nil hne
  unfold basicHeader at h ⊢
  rw [byteAt_append_left more hpos]
  simp only [List.length_append] at h ⊢
  split at h
  · rename_i hid
    rw [if_pos hid]
    split at h
    · cases h
    · rw [if_neg (by omega), byteAt_append_left more (by omega)]
      exact h
  · rename_i hid
    rw [if_neg hid]
    split at h
    · rename_i hone
      rw [if_pos hone]
      split at h
      · cases h
      · rw [if_neg (by omega), byteAt_append_left more (by omega),
          byteAt_append_left more (by omega)]
        exact h
    · rename_i hone
      rw [if_neg hone]
      exact h

/-- A header is read from its own bytes only. -/
theorem applyHeader_append {fmt : Nat} {header : Bytes} (more : Bytes)
    (hlen : kHeaderLength fmt <= header.length) (pkt : RtmpPacket) :
    applyHeader (kHeaderLength fmt) (header ++ more) pkt =
      applyHeader (kHeaderLength fmt) header pkt := by
  rcases kHeaderLength_cases fmt with h | h | h | h <;> rw [h] at hlen ⊢
  · have h1 : (header ++ more).drop 1 = header.drop 1 ++ more :=
      List.drop_append_of_le_length (by omega)
    have h4 : (header ++ more).drop 4 = header.drop 4 ++ more :=
      List.drop_append_of_le_length (by omega)
    have h8 : (header ++ more).drop 8 = header.drop 8 ++ more :=
      List.drop_append_of_le_length (by omega)
    have hl1 : 3 <= (header.drop 1).length := by rw [List.length_drop]; omega
    have hl4 : 3 <= (header.drop 4).length := by rw [List.length_drop]; omega
    have hl8 : 4 <= (header.drop 8).length := by rw [List.length_drop]; omega
    simp only [applyHeader, h1, h4, h8, loadBe24_append_left more hl1,
      loadBe24_append_left more hl4, loadLe32_append_left more hl8,
      byteAt_append_left more (show 7 < header.length by omega)]
  · have h1 : (header ++ more).drop 1 = header.drop 1 ++ more :=
      List.drop_append_of_le_length (by omega)
    have h4 : (header ++ more).drop 4 = header.drop 4 ++ more :=
      List.drop_append_of_le_length (by omega)
    have hl1 : 3 <= (header.drop 1).length := by rw [List.length_drop]; omega
    have hl4 : 3 <= (header.drop 4).length := by rw [List.length_drop]; omega
    simp only [applyHeader, h1, h4, loadBe24_append_left more hl1,
      loadBe24_append_left more hl4,
      byteAt_append_left more (show 7 < header.length by omega)]
  · have h1 : (header ++ more).drop 1 = header.drop 1 ++ more :=
      List.drop_append_of_le_length (by omega)
    have hl1 : 3 <= (header.drop 1).length := by rw [List.length_drop]; omega
    simp only [applyHeader, h1, loadBe24_append_left more hl1]
  · rfl

/-- Overwriting the header fields a second time changes nothing. -/
theorem applyHeader_idem (fmt id : Nat) (header : Bytes) (pkt : RtmpPacket) :
    applyHeader (kHeaderLength fmt) header
        { applyHeader (kHeaderLength fmt) header
            { pkt with chunkStreamId := id } with
          chunkStreamId := id } =
      applyHeader (kHeaderLength fmt) header { pkt with chunkStreamId := id } := by
  rcases kHeaderLength_cases fmt with h | h | h | h <;> rw [h] <;> rfl

/-- The header of a chunk can be read twice: the second time finds the packet
that the first one created and leaves it as it is. -/
theorem openChunk_idem (st : RtmpProtocol σ) (id fmt : Nat) (header : Bytes) :
    openChunk env (openChunk env st id (kHeaderLength fmt) header).1 id
        (kHeaderLength fmt) header =
      openChunk env st id (kHeaderLength fmt) header := by
  have hnow : forall slot : Slot, forall pkt : RtmpPacket,
      nowPacket env id { slot with now := some pkt } = pkt := by
    intro slot pkt
    rfl
  simp only [openChunk, RtmpProtocol.setSlot, Function.update_self,
    Function.update_idem, hnow, applyHeader_idem]

theorem splitOnce_chunkStreamId (st : RtmpProtocol σ) (id : Nat)
    (data : Bytes) :
    splitOnce env { st with chunkStreamId := id } data =
      splitOnce env st data := rfl

/-!
## Reading a body again
-/

theorem extendedTimestamp_append {tsDelta headerEnd : Nat} {data : Bytes}
    (more : Bytes) {found : Nat × Nat}
    (h : extendedTimestamp tsDelta data headerEnd = some found) :
    extendedTimestamp tsDelta (data ++ more) headerEnd = some found := by
  unfold extendedTimestamp at h ⊢
  split at h
  · rename_i hfull
    rw [if_pos hfull]
    split at h
    · cases h
    · have hlen : 4 <= (data.drop headerEnd).length := by
        rw [List.length_drop]
        omega
      rw [if_neg (by rw [List.length_append]; omega),
        List.drop_append_of_le_length (by omega),
        loadBe32_append_left more hlen]
      exact h
  · rename_i hshort
    rw [if_neg hshort]
    exact h

theorem deliver_done {st st' : RtmpProtocol σ} {pkt : RtmpPacket}
    {consumed k : Nat} {items : List RtmpPacket}
    (h : deliver env st pkt consumed = .done st' items k) :
    k = consumed ∧ items = [pkt] ∧ handleChunk env st pkt = .done st' := by
  unfold deliver at h
  cases hhandle : handleChunk env st pkt with
  | done s =>
      rw [hhandle] at h
      cases h
      exact ⟨rfl, rfl, rfl⟩
  | threw what s =>
      rw [hhandle] at h
      cases h
  | crashed =>
      rw [hhandle] at h
      cases h

theorem deliver_ne_needMore (st st' : RtmpProtocol σ) (pkt : RtmpPacket)
    (consumed : Nat) : deliver env st pkt consumed ≠ .needMore st' := by
  intro h
  unfold deliver at h
  cases hhandle : handleChunk env st pkt <;> rw [hhandle] at h <;> cases h

theorem finishChunk_ne_needMore (st st' : RtmpProtocol σ) (id : Nat)
    (pkt : RtmpPacket) (timeStamp consumed : Nat) :
    finishChunk env st id pkt timeStamp consumed ≠ .needMore st' := by
  intro h
  simp only [finishChunk] at h
  split at h
  · split at h
    · exact deliver_ne_needMore env _ _ _ _ h
    · cases h
  · cases h

theorem takeChunk_ne_needMore (st st' : RtmpProtocol σ) (id : Nat)
    (pkt : RtmpPacket) (timeStamp headerEnd : Nat) (payload : Bytes) :
    takeChunk env st id pkt timeStamp headerEnd payload ≠ .needMore st' := by
  intro h
  simp only [takeChunk] at h
  split at h
  · exact finishChunk_ne_needMore env _ _ _ _ _ _ h
  · cases h
  · cases h

theorem readBody_needMore {st st' : RtmpProtocol σ} {id headerEnd : Nat}
    {pkt : RtmpPacket} {data : Bytes}
    (h : readBody env st id pkt headerEnd data = .needMore st') : st' = st := by
  unfold readBody at h
  split at h
  · cases h
    rfl
  · simp only at h
    split at h
    · cases h
      rfl
    · exact absurd h (takeChunk_ne_needMore env _ _ _ _ _ _ _)

/-- Once a body is complete, the bytes behind it do not matter. -/
theorem readBody_append {st : RtmpProtocol σ} {id headerEnd : Nat}
    {pkt : RtmpPacket} {data : Bytes} (more : Bytes)
    (h : forall st', readBody env st id pkt headerEnd data ≠ .needMore st') :
    readBody env st id pkt headerEnd (data ++ more) =
      readBody env st id pkt headerEnd data := by
  unfold readBody at h ⊢
  cases hext : extendedTimestamp pkt.tsDelta data headerEnd with
  | none =>
      rw [hext] at h
      exact absurd rfl (h st)
  | some found =>
      rcases found with ⟨timeStamp, bodyStart⟩
      rw [hext] at h
      rw [extendedTimestamp_append more hext]
      simp only at h ⊢
      by_cases hshort :
          data.length < bodyStart + min st.chunkSizeIn (remainMsgLen pkt)
      · rw [if_pos hshort] at h
        exact absurd rfl (h st)
      · rw [if_neg hshort,
          if_neg (by rw [List.length_append]; omega),
          List.drop_append_of_le_length (by omega),
          List.take_append_of_le_length (by rw [List.length_drop]; omega)]

/-!
## How much one chunk takes
-/

theorem finishChunk_consumed {st st' : RtmpProtocol σ}
    {id timeStamp consumed k : Nat} {pkt : RtmpPacket}
    {items : List RtmpPacket}
    (h : finishChunk env st id pkt timeStamp consumed = .done st' items k) :
    k = consumed := by
  simp only [finishChunk] at h
  split at h
  · split at h
    · exact (deliver_done env h).1
    · cases h
      rfl
  · cases h
    rfl

theorem takeChunk_consumed {st st' : RtmpProtocol σ} {id t headerEnd k : Nat}
    {pkt : RtmpPacket} {payload : Bytes} {items : List RtmpPacket}
    (h : takeChunk env st id pkt t headerEnd payload = .done st' items k) :
    k = headerEnd + payload.length := by
  simp only [takeChunk] at h
  split at h
  · exact finishChunk_consumed env h
  · cases h
  · cases h

theorem extendedTimestamp_bounds {tsDelta headerEnd t e : Nat} {data : Bytes}
    (h : extendedTimestamp tsDelta data headerEnd = some (t, e)) :
    headerEnd <= e ∧ e <= headerEnd + 4 := by
  unfold extendedTimestamp at h
  split at h
  · split at h
    · cases h
    · cases h
      omega
  · cases h
    omega

theorem extendedTimestamp_le {tsDelta headerEnd t e : Nat} {data : Bytes}
    (h : extendedTimestamp tsDelta data headerEnd = some (t, e))
    (hheader : headerEnd <= data.length) : e <= data.length := by
  unfold extendedTimestamp at h
  split at h
  · split at h
    · cases h
    · cases h
      omega
  · cases h
    exact hheader

theorem readBody_consumed {st st' : RtmpProtocol σ} {id headerEnd k : Nat}
    {pkt : RtmpPacket} {data : Bytes} {items : List RtmpPacket}
    (h : readBody env st id pkt headerEnd data = .done st' items k) :
    headerEnd <= k ∧ k <= data.length := by
  unfold readBody at h
  cases hext : extendedTimestamp pkt.tsDelta data headerEnd with
  | none =>
      rw [hext] at h
      cases h
  | some found =>
      rcases found with ⟨timeStamp, bodyStart⟩
      rw [hext] at h
      have hle := (extendedTimestamp_bounds hext).1
      simp only at h
      split at h
      · cases h
      · have hk := takeChunk_consumed env h
        simp only [List.length_take, List.length_drop] at hk
        omega

theorem splitOnce_consumed {st st' : RtmpProtocol σ} {data : Bytes} {k : Nat}
    {items : List RtmpPacket}
    (h : splitOnce env st data = .done st' items k) :
    0 < k ∧ k <= data.length := by
  have hpos := kHeaderLength_pos (byteAt data 0 >>> 6)
  simp only [splitOnce] at h
  split at h
  · cases h
  · split at h
    · cases h
    · have hk := readBody_consumed env h
      omega

/-!
## The laws
-/

/-- With a complete header at its head, what one turn of the loop does. -/
theorem splitOnce_complete {st : RtmpProtocol σ} {data : Bytes}
    {id offset : Nat} (hbasic : basicHeader data = .complete id offset)
    (hlen : offset + kHeaderLength (byteAt data 0 >>> 6) <= data.length) :
    splitOnce env st data =
      readBody env
        (openChunk env st id (kHeaderLength (byteAt data 0 >>> 6))
          (data.drop offset)).1
        id
        (openChunk env st id (kHeaderLength (byteAt data 0 >>> 6))
          (data.drop offset)).2
        (kHeaderLength (byteAt data 0 >>> 6) + offset) data := by
  simp only [splitOnce, hbasic]
  rw [if_neg (by omega)]

theorem openChunk_append {st : RtmpProtocol σ} {id offset fmt : Nat}
    {data : Bytes} (more : Bytes) (hlen : offset + kHeaderLength fmt <= data.length) :
    openChunk env st id (kHeaderLength fmt) ((data ++ more).drop offset) =
      openChunk env st id (kHeaderLength fmt) (data.drop offset) := by
  have hdrop : (data ++ more).drop offset = data.drop offset ++ more :=
    List.drop_append_of_le_length (by omega)
  unfold openChunk
  simp only [hdrop]
  rw [applyHeader_append more (by rw [List.length_drop]; omega)]

/-- The same header, with more behind it. -/
theorem splitOnce_complete_append {st : RtmpProtocol σ} {data : Bytes}
    {id offset : Nat} (more : Bytes) (hne : data ≠ [])
    (hbasic : basicHeader data = .complete id offset)
    (hlen : offset + kHeaderLength (byteAt data 0 >>> 6) <= data.length) :
    splitOnce env st (data ++ more) =
      readBody env
        (openChunk env st id (kHeaderLength (byteAt data 0 >>> 6))
          (data.drop offset)).1
        id
        (openChunk env st id (kHeaderLength (byteAt data 0 >>> 6))
          (data.drop offset)).2
        (kHeaderLength (byteAt data 0 >>> 6) + offset) (data ++ more) := by
  have hfirst := byteAt_append_left more (List.length_pos_of_ne_nil hne)
  have hlen' : offset + kHeaderLength (byteAt (data ++ more) 0 >>> 6) <=
      (data ++ more).length := by
    rw [hfirst, List.length_append]
    omega
  rw [splitOnce_complete env (basicHeader_append more hne hbasic) hlen',
    hfirst, openChunk_append env more hlen]

theorem splitOnce_append {st : RtmpProtocol σ} {data : Bytes} (more : Bytes)
    (hne : data ≠ [])
    (h : forall st', splitOnce env st data ≠ .needMore st') :
    splitOnce env st (data ++ more) = splitOnce env st data := by
  cases hbasic : basicHeader data with
  | short id =>
      refine absurd ?_ (h { st with chunkStreamId := id })
      simp only [splitOnce, hbasic]
  | complete id offset =>
      by_cases hlen :
          offset + kHeaderLength (byteAt data 0 >>> 6) <= data.length
      · rw [splitOnce_complete env hbasic hlen] at h ⊢
        rw [splitOnce_complete_append env more hne hbasic hlen]
        exact readBody_append env more h
      · refine absurd ?_ (h { st with chunkStreamId := id })
        simp only [splitOnce, hbasic]
        rw [if_pos (by omega)]

/-- Parsing an incomplete chunk again, from the state that the first attempt
left behind, gives what parsing it once would have given. -/
theorem splitOnce_resume {st st' : RtmpProtocol σ} {data : Bytes}
    (more : Bytes) (hne : data ≠ [])
    (h : splitOnce env st data = .needMore st') :
    splitOnce env st' (data ++ more) = splitOnce env st (data ++ more) := by
  cases hbasic : basicHeader data with
  | short id =>
      simp only [splitOnce, hbasic, Attempt.needMore.injEq] at h
      rw [← h]
      exact splitOnce_chunkStreamId env st id (data ++ more)
  | complete id offset =>
      by_cases hlen :
          offset + kHeaderLength (byteAt data 0 >>> 6) <= data.length
      · rw [splitOnce_complete env hbasic hlen] at h
        have hst' := readBody_needMore env h
        rw [splitOnce_complete_append env more hne hbasic hlen,
          splitOnce_complete_append env more hne hbasic hlen, hst',
          openChunk_idem]
      · simp only [splitOnce, hbasic] at h
        rw [if_pos (by omega)] at h
        simp only [Attempt.needMore.injEq] at h
        rw [← h]
        exact splitOnce_chunkStreamId env st id (data ++ more)

/-- `split_rtmp` as a resumable parser. -/
def chunkParser : ResumableParser UInt8 (RtmpProtocol σ) RtmpPacket where
  attempt := splitOnce env
  consumed_pos := fun _ h => (splitOnce_consumed env h).1
  consumed_le := fun _ h => (splitOnce_consumed env h).2
  done_append := by
    intro s input s' items k more hne h
    rw [splitOnce_append env more hne (by rw [h]; simp), h]
  failed_append := by
    intro s input s' items more hne h
    rw [splitOnce_append env more hne (by rw [h]; simp), h]
  needMore_append := fun more hne h => splitOnce_resume env more hne h

end Segmentation

end Rtmp
end Streaming
