import Streaming.Rtmp.Demultiplexing

/-!
# Looking at the chunks of a correct sender

A chunk may be looked at before all of it has arrived, and more than once.  As
long as it is not taken, the parser stands where it stood at the beginning of
the chunk, but for what the header has put into the packet in progress.
-/

namespace Streaming
namespace Rtmp

open Foundation Network Util

section SentChunks

variable {σ : Type} {env : Env σ} {data : Bytes}

/-!
## More bytes behind a chunk
-/

namespace ChunkHeader

theorem data_ne_nil (h : ChunkHeader data) : data ≠ [] := by
  have hfits := h.size_le
  have hpos := h.length_pos
  unfold size at hfits
  apply List.ne_nil_of_length_pos
  omega

theorem append_byteAt (h : ChunkHeader data) (more : Bytes) :
    byteAt (data ++ more) 0 = byteAt data 0 :=
  byteAt_append_left more (List.length_pos_of_ne_nil h.data_ne_nil)

/-- The same header, with more bytes behind it. -/
def append (h : ChunkHeader data) (more : Bytes) :
    ChunkHeader (data ++ more) where
  id := h.id
  offset := h.offset
  basic := basicHeader_append more h.data_ne_nil h.basic
  fits := by
    rw [h.append_byteAt, List.length_append]
    exact Nat.le_add_right_of_le h.fits

theorem append_length (h : ChunkHeader data) (more : Bytes) :
    (h.append more).length = h.length := by
  show kHeaderLength _ = kHeaderLength _
  rw [h.append_byteAt]

theorem append_openChunk (h : ChunkHeader data) (more : Bytes)
    (st : RtmpProtocol σ) :
    openChunk env st (h.append more).id (h.append more).length
        (h.append more).bytes =
      openChunk env st h.id h.length h.bytes := by
  rw [h.append_length]
  exact openChunk_append env more h.fits

/-- Reading the header again changes nothing. -/
theorem opened_again (h : ChunkHeader data) (st : RtmpProtocol σ) :
    openChunk env (h.opened env st) h.id h.length h.bytes =
      openChunk env st h.id h.length h.bytes :=
  openChunk_idem env st h.id _ _

end ChunkHeader

namespace WholeChunk

variable {st : RtmpProtocol σ}

/-- The same chunk, with more bytes behind it. -/
def append (c : WholeChunk env st data) (more : Bytes) :
    WholeChunk env st (data ++ more) where
  toChunkHeader := c.toChunkHeader.append more
  timeStamp := c.timeStamp
  bodyStart := c.bodyStart
  extended := by
    unfold ChunkHeader.packet ChunkHeader.size
    rw [c.toChunkHeader.append_openChunk, c.toChunkHeader.append_length]
    exact extendedTimestamp_append more c.extended
  whole := by
    unfold ChunkHeader.packet
    rw [c.toChunkHeader.append_openChunk, List.length_append]
    exact Nat.le_add_right_of_le c.whole

theorem append_packet (c : WholeChunk env st data) (more : Bytes) :
    (c.append more).packet env st = c.packet env st :=
  congrArg Prod.snd (c.toChunkHeader.append_openChunk more st)

theorem append_payload (c : WholeChunk env st data) (more : Bytes) :
    (c.append more).payload = c.payload := by
  have hwhole := c.whole
  unfold payload WholeChunk.more
  rw [c.append_packet]
  show ((data ++ more).drop c.bodyStart).take _ = _
  rw [List.drop_append_of_le_length (by omega),
    List.take_append_of_le_length (by rw [List.length_drop]; omega)]

theorem append_stored (c : WholeChunk env st data) (more : Bytes) :
    (c.append more).stored = c.stored := by
  unfold stored
  rw [c.append_packet, c.append_payload]
  rfl

end WholeChunk

/-!
## Before a chunk is taken
-/

/-- What looking at a chunk that is not taken yet makes of a state. -/
inductive Peeked (env : Env σ) (st : RtmpProtocol σ) (rest : Bytes) :
    RtmpProtocol σ -> Prop where
  | unread (id : Nat) : Peeked env st rest { st with chunkStreamId := id }
  | opened (h : ChunkHeader rest) (id : Nat) :
      Peeked env st rest { h.opened env st with chunkStreamId := id }

namespace Peeked

variable {st t : RtmpProtocol σ} {rest : Bytes}

theorem self (st : RtmpProtocol σ) (rest : Bytes) : Peeked env st rest st :=
  .unread st.chunkStreamId

theorem chunkSizeIn_eq (ht : Peeked env st rest t) :
    t.chunkSizeIn = st.chunkSizeIn := by
  cases ht with
  | unread id => rfl
  | opened h id => rfl

/-- The header is read as it would have been at first. -/
theorem openChunk_eq (ht : Peeked env st rest t) (h : ChunkHeader rest) :
    openChunk env t h.id h.length h.bytes =
      openChunk env st h.id h.length h.bytes := by
  cases ht with
  | unread id => rfl
  | opened h' id =>
      rw [Subsingleton.elim h' h]
      exact h.opened_again st

theorem packet_eq (ht : Peeked env st rest t) (h : ChunkHeader rest) :
    h.packet env t = h.packet env st :=
  congrArg Prod.snd (ht.openChunk_eq h)

theorem splitOnce_eq (ht : Peeked env st rest t) (h : ChunkHeader rest) :
    splitOnce env t rest = splitOnce env st rest := by
  rw [h.splitOnce_eq env t, h.splitOnce_eq env st]
  unfold ChunkHeader.opened ChunkHeader.packet
  rw [ht.openChunk_eq h]

theorem needMore (ht : Peeked env st rest t) {seen : Bytes} (hseen : seen <+: rest)
    {t' : RtmpProtocol σ} (h : splitOnce env t seen = .needMore t') :
    Peeked env st rest t' := by
  rcases splitOnce_needMore h with ⟨id, ht'⟩ | ⟨header, ht', _⟩
  · rw [ht']
    cases ht with
    | unread _ => exact .unread id
    | opened h' _ => exact .opened h' id
  · rcases hseen with ⟨more, rfl⟩
    have hopened : t' = (header.append more).opened env st := by
      rw [ht']
      unfold ChunkHeader.opened
      rw [← header.append_openChunk more, ht.openChunk_eq]
    rw [hopened]
    exact .opened (header.append more) header.id

/-- The chunk streams are the same, but for a packet whose header was read. -/
theorem slot_cases (ht : Peeked env st rest t) (id : Nat) :
    t.chunkedDataMap id = st.chunkedDataMap id ∨
      exists h : ChunkHeader rest, id = h.id ∧ t.chunkedDataMap id =
        { st.chunkedDataMap id with now := some (h.packet env st) } := by
  cases ht with
  | unread _ => exact Or.inl rfl
  | opened h _ =>
      by_cases hid : id = h.id
      · subst hid
        exact Or.inr ⟨h, rfl, h.opened_self env st⟩
      · exact Or.inl (h.opened_ne env st hid)

/-- A chunk found by looking again is the one that was there at first. -/
def whole (ht : Peeked env st rest t) (c : WholeChunk env t rest) :
    WholeChunk env st rest where
  toChunkHeader := c.toChunkHeader
  timeStamp := c.timeStamp
  bodyStart := c.bodyStart
  extended := by
    rw [← ht.packet_eq]
    exact c.extended
  whole := by
    rw [← ht.packet_eq, ← ht.chunkSizeIn_eq]
    exact c.whole

theorem whole_payload (ht : Peeked env st rest t) (c : WholeChunk env t rest) :
    (ht.whole c).payload = c.payload := by
  unfold WholeChunk.payload WholeChunk.more
  rw [ht.packet_eq, ht.chunkSizeIn_eq]
  rfl

theorem whole_stored (ht : Peeked env st rest t) (c : WholeChunk env t rest) :
    (ht.whole c).stored = c.stored := by
  unfold WholeChunk.stored
  rw [ht.whole_payload, ht.packet_eq]
  rfl

end Peeked

/-!
## The looks at a whole stream
-/

/-- Whatever has been seen of a correct sender's chunks, the parser follows the
sender up to a chunk that is not taken yet. -/
theorem visits_wire {s : Sender} {st t : RtmpProtocol σ} {cs : List Chunk}
    {before : List (RtmpProtocol σ × Bytes)} {rest : Bytes} (hsound : s.Sound)
    (hsim : Simulates s st) (hcs : s.WellFormed cs)
    (h : Visits (splitOnce env) st (s.wire cs) before t rest) :
    exists front back st', cs = front ++ back ∧
      rest = (s.after front).wire back ∧ (s.after front).Sound ∧
        (s.after front).WellFormed back ∧ Simulates (s.after front) st' ∧
          Peeked env st' rest t := by
  induction h with
  | start => exact ⟨[], cs, st, rfl, rfl, hsound, hcs, hsim, .self st _⟩
  | needMore _ hseen _ hattempt ih =>
      rcases ih with ⟨front, back, st', hcs', hrest, hs, hback, hsim', ht⟩
      exact ⟨front, back, st', hcs', hrest, hs, hback, hsim',
        ht.needMore hseen hattempt⟩
  | @done before t t' seen rest items k _ hseen hne hattempt ih =>
      rcases ih with ⟨front, back, st', hcs', hrest, hs, hback, hsim', ht⟩
      cases back with
      | nil =>
          rw [hrest] at hseen
          exact absurd (List.prefix_nil.mp hseen) hne
      | cons c back =>
          rcases hback with ⟨hc, hback⟩
          rcases splitOnce_done hattempt with ⟨w, _⟩
          rcases hseen with ⟨more, hmore⟩
          have hwhole : splitOnce env t rest = .done t' items k := by
            rw [← hmore]
            exact (chunkParser env).done_append more hne hattempt
          rw [← hmore] at ht
          rw [← hmore, ht.splitOnce_eq (w.toChunkHeader.append more), hmore,
            hrest] at hwhole
          have hfollows := splitOnce_bytes env hs hsim' hc
            (((s.after front).step c).1.wire back)
          rw [show (s.after front).bytes c ++ _ =
            (s.after front).wire (c :: back) from rfl, hwhole] at hfollows
          rcases hfollows with ⟨_, _, hfailed, _⟩ | ⟨_, _, hdone, _, hnext⟩
          · cases hfailed
          · cases hdone
            have hafter : s.after (front ++ [c]) =
                ((s.after front).step c).1 := Sender.after_append s front [c]
            have hdrop : rest.drop ((s.after front).bytes c).length =
                ((s.after front).step c).1.wire back := by
              rw [hrest]
              exact List.drop_left
            refine ⟨front ++ [c], back, t', ?_, ?_, ?_, ?_, ?_, .self t' _⟩
            · rw [hcs', List.append_assoc, List.singleton_append]
            · rw [hafter, hdrop]
            · rw [hafter]
              exact Sender.step_sound hs hc
            · rw [hafter]
              exact hback
            · rw [hafter]
              exact hnext

/-!
## The chunk at the front
-/

theorem front_header (form : IdForm) (fmt : Fin 4) {id : Nat}
    (hid : form.Fits id) {rest : Bytes}
    (hdata : data = form.basicHeader fmt id ++ rest) (h : ChunkHeader data) :
    h.id = id ∧ h.offset = form.extra ∧ h.length = kHeaderLength fmt.val := by
  subst hdata
  have hbasic := h.basic
  rw [basicHeader_complete form fmt hid, BasicHeader.complete.injEq] at hbasic
  refine ⟨hbasic.1.symm, hbasic.2.symm, ?_⟩
  unfold ChunkHeader.length
  rw [basicHeader_fmt form fmt hid]

/-- The chunk that is found is the one that the sender has written. -/
theorem front_stored {s : Sender} {st : RtmpProtocol σ} {id : Nat}
    {p : Progress} (form : IdForm) (fmt : Fin 4) (header : Bytes)
    (hsim : Simulates s st) (hid : form.Fits id)
    (hheader : header.length + 1 = kHeaderLength fmt.val)
    (hm : p.message.WellFormed) (hp : p.sent <= p.message.payload.length)
    (hopen : forall b rest, Carries id p
      (openChunk env st id (kHeaderLength fmt.val)
        (b :: (header ++ rest))).2) {rest : Bytes}
    (hdata : data = form.basicHeader fmt id ++ (header ++
      (p.message.stamp.extension ++ (s.piece p ++ rest))))
    (w : WholeChunk env st data) :
    Carries w.id p (w.packet env st) ∧ w.payload = s.piece p := by
  rcases front_header form fmt hid hdata w.toChunkHeader with
    ⟨hwid, hoffset, hlength⟩
  subst hdata
  have hbasic := basicHeader_length form fmt id
  rcases basicHeader_drop form fmt id (header ++
    (p.message.stamp.extension ++ (s.piece p ++ rest))) with ⟨b, hb⟩
  have hcarries : Carries id p (w.packet env st) := by
    unfold ChunkHeader.packet ChunkHeader.bytes
    rw [hwid, hlength, hoffset, hb]
    exact hopen b _
  have hsize : w.size = (form.basicHeader fmt id ++ header).length := by
    unfold ChunkHeader.size
    rw [hlength, hoffset, List.length_append]
    omega
  have hstart : w.bodyStart = (form.basicHeader fmt id ++ header).length +
      p.message.stamp.extension.length := by
    have hextended := w.extended
    have hthere := extendedTimestamp_extension hm
      (form.basicHeader fmt id ++ header) (s.piece p ++ rest)
    rw [List.append_assoc] at hthere
    rw [hcarries.tsDelta_eq, hsize, hthere] at hextended
    exact (congrArg Prod.snd (Option.some.inj hextended)).symm
  have hmore : w.more = (s.piece p).length := by
    unfold WholeChunk.more
    rw [remainMsgLen_carries hcarries hm hp, hsim.chunkSize_eq]
    simp only [Sender.piece, List.length_take, List.length_drop]
  have hpayload : w.payload = s.piece p := by
    unfold WholeChunk.payload
    rw [hstart, hmore, ← List.append_assoc, ← List.append_assoc,
      ← List.length_append, List.drop_left, List.take_left]
  rw [hwid]
  exact ⟨hcarries, hpayload⟩

theorem bytes_start (s : Sender) (id : Nat) (form : IdForm) (fmt : Fin 4)
    (m : Message) (rest : Bytes) :
    s.bytes (.start id form fmt m) ++ rest = form.basicHeader fmt id ++
      (m.header fmt ++ (m.stamp.extension ++
        (s.piece ((s.lane id).begin fmt m) ++ rest))) := by
  simp only [Sender.bytes, List.append_assoc]

theorem bytes_next {s : Sender} {id : Nat} {p : Progress} (form : IdForm)
    (hp : (s.lane id).current = some p) (rest : Bytes) :
    s.bytes (.next id form) ++ rest = form.basicHeader 3 id ++
      ([] ++ (p.message.stamp.extension ++ (s.piece p ++ rest))) := by
  simp only [Sender.bytes, hp, List.append_assoc, List.nil_append]

/-- A chunk that begins a message finds its chunk stream idle. -/
theorem front_idle {s : Sender} {st : RtmpProtocol σ} {id : Nat}
    {form : IdForm} {fmt : Fin 4} {m : Message} (hsim : Simulates s st)
    (hc : s.Allows (.start id form fmt m)) {rest : Bytes}
    (hdata : data = s.bytes (.start id form fmt m) ++ rest)
    (h : ChunkHeader data) : (st.chunkedDataMap h.id).now = none := by
  rcases hc with ⟨hid, hidle, _⟩
  rw [(front_header form fmt hid
    (hdata.trans (bytes_start s id form fmt m rest)) h).1]
  exact (hsim.slots id).now_none hidle

/-- A chunk that goes on with a message has a header of one byte. -/
theorem front_short {s : Sender} {id : Nat} {form : IdForm}
    (hc : s.Allows (.next id form)) {rest : Bytes}
    (hdata : data = s.bytes (.next id form) ++ rest) (h : ChunkHeader data) :
    h.length = 1 := by
  rcases hc with ⟨hid, p, hp⟩
  exact (front_header form 3 hid (hdata.trans (bytes_next form hp rest)) h).2.2

theorem front_carries {s : Sender} {st : RtmpProtocol σ} {c : Chunk}
    (hs : s.Sound) (hsim : Simulates s st) (hc : s.Allows c) {rest : Bytes}
    (hdata : data = s.bytes c ++ rest) (w : WholeChunk env st data) :
    exists p : Progress, p.message.WellFormed ∧
      p.sent + (s.piece p).length <= p.message.payload.length ∧
        Carries w.id p (w.packet env st) ∧ w.payload = s.piece p := by
  cases c with
  | start id form fmt m =>
      have hopen := openChunk_start env hsim hc
      rcases hc with ⟨hid, _, hm, _⟩
      exact ⟨(s.lane id).begin fmt m, hm, s.piece_length_le (Nat.zero_le _),
        front_stored form fmt (m.header fmt) hsim hid (header_length m fmt) hm
          (Nat.zero_le _) hopen
          (hdata.trans (bytes_start s id form fmt m rest)) w⟩
  | next id form =>
      rcases hc with ⟨hid, p, hp⟩
      rcases hs id p hp with ⟨hm, hlt⟩
      exact ⟨p, hm, s.piece_length_le (Nat.le_of_lt hlt),
        front_stored form 3 [] hsim hid rfl hm (Nat.le_of_lt hlt)
          (fun b rest => openChunk_next env hsim hp b rest)
          (hdata.trans (bytes_next form hp rest)) w⟩

/-- What the chunk completes is the sender's message. -/
theorem front_message {s : Sender} {st : RtmpProtocol σ} {c : Chunk}
    (hs : s.Sound) (hsim : Simulates s st) (hc : s.Allows c) {rest : Bytes}
    (hdata : data = s.bytes c ++ rest) (w : WholeChunk env st data)
    (hcomplete : w.Completes) :
    exists m : Message, m.WellFormed ∧ w.stored.msgTypeId = m.typeId ∧
      (w.packet env st).buf.unread ++ w.payload = m.payload := by
  rcases front_carries hs hsim hc hdata w with
    ⟨p, hm, hle, hcarries, hpayload⟩
  have hstored := storePayload_carries (s := s) hcarries w.bodyStart
  rw [← hpayload] at hstored hle
  change Carries w.id _ w.stored at hstored
  have hall : p.message.payload.length = p.sent + w.payload.length := by
    have hunread := hstored.unreadLength_eq hle
    unfold WholeChunk.Completes at hcomplete
    rw [hstored.msgLength_eq, hunread] at hcomplete
    exact hcomplete
  have hunread := (storePayload_valid hcarries.buf_valid w.bodyStart
    w.payload).2
  refine ⟨p.message, hm, hstored.msgTypeId_eq, ?_⟩
  rw [← hunread]
  exact hstored.buf_unread.trans (List.take_of_length_le (Nat.le_of_eq hall))

/-- What holds of every look at the chunk at the front holds throughout. -/
theorem throughout_wire {guard : RtmpProtocol σ -> Bytes -> Prop}
    {s : Sender} {st : RtmpProtocol σ} {cs : List Chunk} (hsound : s.Sound)
    (hsim : Simulates s st) (hcs : s.WellFormed cs)
    (hguard : forall (s' : Sender) (st' t : RtmpProtocol σ) (c : Chunk)
      (rest seen : Bytes), s'.Sound -> Simulates s' st' -> c ∈ cs ->
        s'.Allows c -> Peeked env st' (s'.bytes c ++ rest) t ->
          seen <+: s'.bytes c ++ rest -> guard t seen) :
    Throughout (splitOnce env) st (s.wire cs) guard := by
  intro before t rest seen hvisits hseen hne
  rcases visits_wire hsound hsim hcs hvisits with
    ⟨front, back, st', hcs', hrest, hs, hback, hsim', ht⟩
  cases back with
  | nil =>
      rw [hrest] at hseen
      exact absurd (List.prefix_nil.mp hseen) hne
  | cons c back =>
      rw [hrest] at ht hseen
      refine hguard _ st' t c _ seen hs hsim' ?_ hback.1 ht hseen
      rw [hcs']
      exact List.mem_append_right front List.mem_cons_self

end SentChunks

end Rtmp
end Streaming
