import Streaming.Rtmp.Demultiplexing

/-!
# Writing is read back

What a sequence of calls of `send_rtmp` and `set_chunk_size` writes is the wire
of a correct sender, each message cut into chunks of its own chunk stream and
finished before the next.  So `split_rtmp` reads it back.
-/

namespace Streaming
namespace Rtmp

open Foundation Util Network

/-!
## Calls
-/

inductive SendCall where
  | sendRtmp (msgTypeId msgStreamId : Nat) (data : Bytes)
      (timeStamp chunkStreamId : Nat)
  | setChunkSize (size : Nat)
  deriving DecidableEq, Repr

namespace SendCall

/-- The arguments that a call may have. -/
def Allowed : SendCall -> Prop
  | sendRtmp msgTypeId msgStreamId data timeStamp chunkStreamId =>
      msgTypeId < 256 ∧ msgTypeId ≠ msgSetChunk ∧ msgStreamId < 2 ^ 32 ∧
        data ≠ [] ∧ data.length < 2 ^ 24 ∧ timeStamp < 2 ^ 32 ∧
          2 <= chunkStreamId ∧ chunkStreamId <= 63
  | setChunkSize size => 1 <= size ∧ size <= 0x7FFFFFFF

instance (call : SendCall) : Decidable call.Allowed :=
  match call with
  | sendRtmp .. => inferInstanceAs (Decidable (_ ∧ _))
  | setChunkSize _ => inferInstanceAs (Decidable (_ ∧ _))

def run (depth : Nat) (s : SendSide) : SendCall -> Exit SendSide
  | sendRtmp msgTypeId msgStreamId data timeStamp chunkStreamId =>
      s.sendRtmp depth msgTypeId msgStreamId data timeStamp chunkStreamId
  | setChunkSize size => s.setChunkSize depth size

def runAll (depth : Nat) (s : SendSide) : List SendCall -> Exit SendSide
  | [] => .done s
  | call :: calls => (call.run depth s).bind fun s => runAll depth s calls

/-- The message of a call, on a connection with this `msg_stream_id_`. -/
def delivered (msgStreamId : Nat) : SendCall -> Delivered
  | sendRtmp msgTypeId streamId data timeStamp chunkStreamId =>
      ⟨chunkStreamId, msgTypeId, streamId, data.length, timeStamp, data⟩
  | setChunkSize size =>
      ⟨chunkNetwork, msgSetChunk, msgStreamId, 4, 0, setBe32 size⟩

end SendCall

/-!
## Chunk after chunk
-/

namespace Sender

/-- No message is in progress. -/
def Idle (s : Sender) : Prop :=
  forall id, (s.lane id).current = none

/-- The chunk size that holds once a message is complete. -/
def sizeAfter (m : Message) (size : Nat) : Nat :=
  if m.typeId = 1 then m.chunkSize else size

section Advance

variable {s : Sender} {id : Nat} {p : Progress}

theorem advance_last (hne : p.message.payload ≠ [])
    (hsent : p.sent <= p.message.payload.length)
    (hlast : p.message.payload.length <= p.sent + s.chunkSize) :
    s.advance id p =
      ({ s.setLane id { previous := some (p.message, p.timestamp) } with
          chunkSize := sizeAfter p.message s.chunkSize },
        [p.message.delivered id p.timestamp]) := by
  have hpiece : p.sent + (s.piece p).length = p.message.payload.length := by
    unfold piece
    rw [List.length_take, List.length_drop]
    omega
  unfold advance
  simp only [hpiece, if_neg hne]
  rfl

theorem advance_more
    (hmore : p.sent + s.chunkSize < p.message.payload.length) :
    s.advance id p =
      (s.setLane id { s.lane id with
          current := some { p with sent := p.sent + s.chunkSize } }, []) := by
  have hpiece : (s.piece p).length = s.chunkSize := by
    unfold piece
    rw [List.length_take, List.length_drop]
    omega
  unfold advance
  simp only [hpiece, if_neg (Nat.ne_of_lt hmore)]

end Advance

end Sender

/-- The chunks are the sender's own, have these bytes and complete these
messages, and leave none in progress. -/
structure Finishes (s : Sender) (cs : List Chunk) (size : Nat) (bytes : Bytes)
    (items : List Delivered) : Prop where
  wellFormed : s.WellFormed cs
  wire_eq : s.wire cs = bytes
  completed_eq : s.completed cs = items
  idle : (s.after cs).Idle
  chunkSize_eq : (s.after cs).chunkSize = size

theorem Finishes.cons {s : Sender} {c : Chunk} {cs : List Chunk} {size : Nat}
    {bytes : Bytes} {items : List Delivered} (hc : s.Allows c)
    (h : Finishes (s.step c).1 cs size bytes items) :
    Finishes s (c :: cs) size (s.bytes c ++ bytes) ((s.step c).2 ++ items) := by
  constructor
  · exact ⟨hc, h.wellFormed⟩
  · simp only [Sender.wire, h.wire_eq]
  · simp only [Sender.completed, h.completed_eq]
  · exact h.idle
  · exact h.chunkSize_eq

theorem Finishes.append {s : Sender} {cs ds : List Chunk} {size size' : Nat}
    {bytes bytes' : Bytes} {items items' : List Delivered}
    (h : Finishes s cs size bytes items)
    (h' : Finishes (s.after cs) ds size' bytes' items') :
    Finishes s (cs ++ ds) size' (bytes ++ bytes') (items ++ items') := by
  constructor
  · exact Sender.wellFormed_append.mpr ⟨h.wellFormed, h'.wellFormed⟩
  · rw [Sender.wire_append, h.wire_eq, h'.wire_eq]
  · rw [Sender.completed_append, h.completed_eq, h'.completed_eq]
  · rw [Sender.after_append]
    exact h'.idle
  · rw [Sender.after_append]
    exact h'.chunkSize_eq

/-!
## The loop of `send_rtmp`
-/

/-- The one-byte header in front of all chunks but the first. -/
def headerPkt (id : Nat) : Bytes :=
  [UInt8.ofNat (id ||| (3 <<< 6))]

theorem headerPkt_eq {id : Nat} (hid : IdForm.oneByte.Fits id) :
    headerPkt id = IdForm.oneByte.basicHeader 3 id := by
  have hlt : id < 2 ^ 6 := Nat.lt_of_le_of_lt hid.2 (by decide)
  unfold headerPkt
  rw [Nat.or_comm, ← Nat.shiftLeft_add_eq_or_of_lt hlt]
  rfl

theorem flatten_pieces (header extended piece : Bytes) (later : List Bytes) :
    ((if header = [] then [] else [header]) ++
        (if extended = [] then [] else [extended]) ++
          piece :: later).flatten =
      header ++ (extended ++ piece) ++ later.flatten := by
  have hoptional : forall bytes : Bytes,
      (if bytes = [] then [] else [bytes]).flatten = bytes := by
    intro bytes
    split
    · rename_i hnil
      rw [hnil]
      rfl
    · simp
  rw [List.flatten_append, List.flatten_append, hoptional, hoptional,
    List.flatten_cons]
  simp only [List.append_assoc]

theorem sendChunks_succ (size fuel : Nat) (next extended header : Bytes)
    {rest : Bytes} (hne : rest ≠ []) :
    SendSide.sendChunks size next extended (fuel + 1) header rest =
      (SendSide.sendChunks size next extended fuel next (rest.drop size)).map
        fun later =>
          (if header = [] then [] else [header]) ++
            (if extended = [] then [] else [extended]) ++
              rest.take size :: later := by
  cases rest with
  | nil => exact absurd rfl hne
  | cons b bs => rfl

theorem sendChunks_last {id : Nat} (fuel : Nat) {s : Sender} {p : Progress}
    (hidle : forall j, j ≠ id -> (s.lane j).current = none)
    (hne : p.message.payload ≠ [])
    (hsent : p.sent <= p.message.payload.length)
    (hlast : p.message.payload.length <= p.sent + s.chunkSize) :
    exists pieces cs items,
      SendSide.sendChunks s.chunkSize (headerPkt id) p.message.stamp.extension
          fuel (headerPkt id)
          (p.message.payload.drop (p.sent + s.chunkSize)) = some pieces ∧
        (s.advance id p).2 ++ items =
            [p.message.delivered id p.timestamp] ∧
          Finishes (s.advance id p).1 cs
            (Sender.sizeAfter p.message s.chunkSize) pieces.flatten items := by
  rw [List.drop_eq_nil_of_le hlast, Sender.advance_last hne hsent hlast]
  refine ⟨[], [], [], ?_, rfl, trivial, rfl, rfl, ?_, rfl⟩
  · cases fuel <;> rfl
  · intro j
    show ((s.setLane id _).lane j).current = none
    rw [Sender.setLane_lane]
    split
    · rfl
    · rename_i hj
      exact hidle j hj

/-- The chunks behind one that has just been written. -/
theorem sendChunks_finishes {id : Nat} (hid : IdForm.oneByte.Fits id)
    (fuel : Nat) {s : Sender} {p : Progress} (hpos : 0 < s.chunkSize)
    (hidle : forall j, j ≠ id -> (s.lane j).current = none)
    (hne : p.message.payload ≠ [])
    (hsent : p.sent <= p.message.payload.length)
    (hfuel : p.message.payload.length <= p.sent + s.chunkSize + fuel) :
    exists pieces cs items,
      SendSide.sendChunks s.chunkSize (headerPkt id) p.message.stamp.extension
          fuel (headerPkt id)
          (p.message.payload.drop (p.sent + s.chunkSize)) = some pieces ∧
        (s.advance id p).2 ++ items =
            [p.message.delivered id p.timestamp] ∧
          Finishes (s.advance id p).1 cs
            (Sender.sizeAfter p.message s.chunkSize) pieces.flatten items := by
  induction fuel generalizing s p with
  | zero => exact sendChunks_last 0 hidle hne hsent hfuel
  | succ fuel ih =>
      rcases Nat.lt_or_ge (p.sent + s.chunkSize) p.message.payload.length with
        hmore | hlast
      · let p' : Progress := { p with sent := p.sent + s.chunkSize }
        let s' : Sender :=
          s.setLane id { s.lane id with current := some p' }
        have hrest : p.message.payload.drop (p.sent + s.chunkSize) ≠ [] := by
          rw [Ne, List.drop_eq_nil_iff]
          exact Nat.not_le.mpr hmore
        have hcurrent : (s'.lane id).current = some p' := by
          show ((s.setLane id _).lane id).current = _
          rw [Sender.setLane_lane, if_pos rfl]
        have hidle' : forall j, j ≠ id -> (s'.lane j).current = none := by
          intro j hj
          show ((s.setLane id _).lane j).current = none
          rw [Sender.setLane_lane, if_neg hj]
          exact hidle j hj
        have hfuel' : p'.message.payload.length <=
            p'.sent + s'.chunkSize + fuel := by
          show p.message.payload.length <=
            p.sent + s.chunkSize + s.chunkSize + fuel
          omega
        rcases ih (s := s') (p := p') hpos hidle' hne (Nat.le_of_lt hmore)
            hfuel' with
          ⟨pieces, cs, items, hpieces, hitems, hfinishes⟩
        have hstep : s'.step (.next id .oneByte) = s'.advance id p' := by
          simp only [Sender.step, hcurrent]
        have hbytes : s'.bytes (.next id .oneByte) = headerPkt id ++
            (p.message.stamp.extension ++
              (p.message.payload.drop (p.sent + s.chunkSize)).take
                s.chunkSize) := by
          simp only [Sender.bytes, hcurrent, headerPkt_eq hid]
          rfl
        rw [← hstep] at hitems hfinishes
        have hcons := Finishes.cons (s := s') (c := .next id .oneByte)
          ⟨hid, p', hcurrent⟩ hfinishes
        rw [hbytes, hitems] at hcons
        have hbehind : SendSide.sendChunks s.chunkSize (headerPkt id)
            p.message.stamp.extension fuel (headerPkt id)
            (p.message.payload.drop (p.sent + s.chunkSize + s.chunkSize)) =
              some pieces := hpieces
        rw [Sender.advance_more hmore, sendChunks_succ _ _ _ _ _ hrest,
          List.drop_drop, hbehind, Option.map_some]
        refine ⟨_, .next id .oneByte :: cs,
          [p.message.delivered id p.timestamp], rfl, List.nil_append _, ?_⟩
        rw [flatten_pieces]
        exact hcons
      · exact sendChunks_last (fuel + 1) hidle hne hsent hlast

/-!
## One call
-/

/-- The message that `send_rtmp` writes. -/
def messageOf (msgTypeId msgStreamId : Nat) (data : Bytes) (timeStamp : Nat) :
    Message where
  stamp := ⟨if timeStamp >= 0xFFFFFF then 0xFFFFFF else timeStamp, timeStamp⟩
  typeId := msgTypeId
  streamId := msgStreamId
  payload := data

theorem messageOf_extension (msgTypeId msgStreamId : Nat) (data : Bytes)
    (timeStamp : Nat) :
    (messageOf msgTypeId msgStreamId data timeStamp).stamp.extension =
      if timeStamp >= 0xFFFFFF then setBe32 timeStamp else [] := by
  unfold messageOf Stamp.extension
  by_cases hlong : timeStamp >= 0xFFFFFF
  · simp only [if_pos hlong]
    rfl
  · simp only [if_neg hlong]
    rw [if_neg (by omega)]

theorem messageOf_value (msgTypeId msgStreamId : Nat) (data : Bytes)
    (timeStamp : Nat) :
    (messageOf msgTypeId msgStreamId data timeStamp).stamp.value = timeStamp := by
  unfold messageOf Stamp.value
  by_cases hlong : timeStamp >= 0xFFFFFF
  · simp only [if_pos hlong]
    rfl
  · simp only [if_neg hlong]
    rw [if_neg (by omega)]

theorem messageOf_wellFormed {msgTypeId msgStreamId timeStamp : Nat}
    {data : Bytes} (htype : msgTypeId < 256) (hstream : msgStreamId < 2 ^ 32)
    (hlength : data.length < 2 ^ 24) (hstamp : timeStamp < 2 ^ 32)
    (hset : msgTypeId = msgSetChunk ->
      4 <= data.length ∧ 1 <= loadBe32 data ∧ loadBe32 data <= 0x7FFFFFFF) :
    (messageOf msgTypeId msgStreamId data timeStamp).WellFormed where
  field_lt := by
    unfold messageOf
    dsimp only
    split <;> omega
  extended_lt := hstamp
  typeId_lt := htype
  streamId_lt := hstream
  length_lt := hlength
  chunkSize_range := fun h _ => hset h

theorem rtmpHeader_eq (msgTypeId msgStreamId : Nat) (data : Bytes)
    (timeStamp id : Nat) :
    SendSide.rtmpHeader msgTypeId msgStreamId data.length timeStamp id =
      IdForm.oneByte.basicHeader 0 id ++
        (messageOf msgTypeId msgStreamId data timeStamp).header 0 := by
  unfold SendSide.rtmpHeader IdForm.basicHeader Message.header messageOf
  simp

/-- The bytes have been sent; besides the counters and the chunk size nothing
has changed. -/
structure Wrote (s s' : SendSide) (bytes : Bytes) : Prop where
  sent_eq : s'.sent.flatten = s.sent.flatten ++ bytes
  msgStreamId_eq : s'.msgStreamId = s.msgStreamId
  windowsSize_eq : s'.windowsSize = s.windowsSize

/-- Without a window no acknowledgement is sent. -/
theorem sendRtmp_done (depth : Nat) {s : SendSide} (hwindow : s.windowsSize = 0)
    (msgTypeId msgStreamId : Nat) {data : Bytes} {timeStamp id : Nat}
    (hid : IdForm.oneByte.Fits id) {chunks : List Bytes}
    (hchunks : SendSide.sendChunks s.chunkSizeOut (headerPkt id)
      (if timeStamp >= 0xFFFFFF then setBe32 timeStamp else []) data.length []
        data = some chunks) :
    exists s',
      s.sendRtmp (depth + 1) msgTypeId msgStreamId data timeStamp id =
          .done s' ∧
        s'.chunkSizeOut = s.chunkSizeOut ∧
          Wrote s s' (SendSide.rtmpHeader msgTypeId msgStreamId data.length
            timeStamp id :: chunks).flatten := by
  unfold headerPkt at hchunks
  unfold SendSide.sendRtmp
  rw [if_neg (not_or.mpr ⟨Nat.not_lt.mpr hid.1, Nat.not_lt.mpr hid.2⟩)]
  simp only [hchunks]
  rw [if_neg (fun h => Nat.ne_of_gt h.1 hwindow)]
  exact ⟨_, rfl, rfl, List.flatten_append, rfl, rfl⟩

theorem sendRtmp_finishes (depth : Nat) {S : Sender} {s : SendSide}
    (hsize : S.chunkSize = s.chunkSizeOut) (hpos : 0 < S.chunkSize)
    (hidle : S.Idle) (hwindow : s.windowsSize = 0)
    {msgTypeId msgStreamId timeStamp id : Nat} {data : Bytes}
    (hm : (messageOf msgTypeId msgStreamId data timeStamp).WellFormed)
    (hne : data ≠ []) (hid : IdForm.oneByte.Fits id) :
    exists s' cs bytes,
      s.sendRtmp (depth + 1) msgTypeId msgStreamId data timeStamp id =
          .done s' ∧
        Wrote s s' bytes ∧ s'.chunkSizeOut = s.chunkSizeOut ∧
          Finishes S cs
            (Sender.sizeAfter (messageOf msgTypeId msgStreamId data timeStamp)
              S.chunkSize) bytes
            [(messageOf msgTypeId msgStreamId data timeStamp).delivered id
              timeStamp] := by
  let m := messageOf msgTypeId msgStreamId data timeStamp
  let p := (S.lane id).begin 0 m
  rcases List.exists_cons_of_ne_nil hne with ⟨b, bs, hdata⟩
  have hlength : data.length = bs.length + 1 := by
    rw [hdata]
    rfl
  have hfuel : p.message.payload.length <=
      p.sent + S.chunkSize + bs.length := by
    show data.length <= 0 + S.chunkSize + bs.length
    omega
  rcases sendChunks_finishes hid bs.length (s := S) (p := p) hpos
      (fun j _ => hidle j) hne (Nat.zero_le _) hfuel with
    ⟨pieces, cs, items, hpieces, hitems, hfinishes⟩
  have hchunks : SendSide.sendChunks s.chunkSizeOut (headerPkt id)
      m.stamp.extension data.length [] data =
        some ((if m.stamp.extension = [] then [] else [m.stamp.extension]) ++
          data.take S.chunkSize :: pieces) := by
    rw [hlength, sendChunks_succ _ _ _ _ _ hne, ← hsize]
    have hbehind : SendSide.sendChunks S.chunkSize (headerPkt id)
        m.stamp.extension bs.length (headerPkt id) (data.drop S.chunkSize) =
          some pieces := by
      have hzero : p.sent + S.chunkSize = S.chunkSize := Nat.zero_add _
      rw [hzero] at hpieces
      exact hpieces
    rw [hbehind]
    rfl
  have htimestamp : p.timestamp = timeStamp := messageOf_value _ _ _ _
  have hcons := Finishes.cons (s := S) (c := .start id .oneByte 0 m)
    ⟨hid, hidle id, hm, fun h => absurd rfl h⟩ hfinishes
  have hstep : (S.step (.start id .oneByte 0 m)).2 ++ items =
      [m.delivered id timeStamp] := by
    rw [← htimestamp]
    exact hitems
  rw [hstep] at hcons
  have hextension : m.stamp.extension =
      if timeStamp >= 0xFFFFFF then setBe32 timeStamp else [] :=
    messageOf_extension _ _ _ _
  have hbytes : (SendSide.rtmpHeader msgTypeId msgStreamId data.length timeStamp
        id :: ((if m.stamp.extension = [] then [] else [m.stamp.extension]) ++
          data.take S.chunkSize :: pieces)).flatten =
      S.bytes (.start id .oneByte 0 m) ++ pieces.flatten := by
    have hflatten := flatten_pieces [] m.stamp.extension (data.take S.chunkSize)
      pieces
    rw [if_pos rfl, List.nil_append, List.nil_append] at hflatten
    rw [List.flatten_cons, hflatten, rtmpHeader_eq]
    simp only [Sender.bytes, List.append_assoc]
    rfl
  rw [hextension] at hchunks hbytes
  rcases sendRtmp_done depth hwindow msgTypeId msgStreamId hid hchunks with
    ⟨s', hrun, hout, hwrote⟩
  rw [hbytes] at hwrote
  exact ⟨s', _, _, hrun, hwrote, hout, hcons⟩

/-- One call, on a connection that has nothing else to send. -/
theorem SendCall.run_finishes (depth : Nat) {S : Sender} {s : SendSide}
    (hsize : S.chunkSize = s.chunkSizeOut) (hpos : 0 < S.chunkSize)
    (hidle : S.Idle) (hwindow : s.windowsSize = 0)
    (hstream : s.msgStreamId < 2 ^ 32) {call : SendCall} (h : call.Allowed) :
    exists s' cs bytes,
      call.run (depth + 1) s = .done s' ∧ Wrote s s' bytes ∧
        0 < s'.chunkSizeOut ∧
          Finishes S cs s'.chunkSizeOut bytes
            [call.delivered s.msgStreamId] := by
  cases call with
  | sendRtmp msgTypeId msgStreamId data timeStamp id =>
      rcases h with ⟨htype, hnot, hstreamId, hne, hlength, hstamp, hid⟩
      have hm := messageOf_wellFormed htype hstreamId hlength hstamp
        fun hset => absurd hset hnot
      rcases sendRtmp_finishes depth hsize hpos hidle hwindow hm hne hid with
        ⟨s', cs, bytes, hrun, hwrote, hout, hfinishes⟩
      have hafter : Sender.sizeAfter
          (messageOf msgTypeId msgStreamId data timeStamp) S.chunkSize =
            s'.chunkSizeOut := by
        rw [hout, ← hsize]
        exact if_neg hnot
      rw [hafter] at hfinishes
      refine ⟨s', cs, bytes, hrun, hwrote, ?_, hfinishes⟩
      rw [hout, ← hsize]
      exact hpos
  | setChunkSize size =>
      rcases h with ⟨hmin, hmax⟩
      have hread : loadBe32 (setBe32 size) = size := by
        have hload := loadBe32_setBe32 [] (show size < 2 ^ 32 by omega)
        rw [List.append_nil] at hload
        exact hload
      have hm : (messageOf msgSetChunk s.msgStreamId (setBe32 size)
          0).WellFormed := messageOf_wellFormed (by decide) hstream
        (show 4 < 2 ^ 24 by decide) (by decide) fun _ =>
          ⟨Nat.le_refl 4, by rw [hread]; exact hmin, by rw [hread]; exact hmax⟩
      rcases sendRtmp_finishes depth hsize hpos hidle hwindow hm
          (List.cons_ne_nil _ _)
          (show IdForm.oneByte.Fits chunkNetwork by decide) with
        ⟨s', cs, bytes, hrun, hwrote, _, hfinishes⟩
      have hafter : Sender.sizeAfter (messageOf msgSetChunk s.msgStreamId
          (setBe32 size) 0) S.chunkSize = size := hread
      rw [hafter] at hfinishes
      refine ⟨{ s' with chunkSizeOut := size }, cs, bytes, ?_,
        ⟨hwrote.sent_eq, hwrote.msgStreamId_eq, hwrote.windowsSize_eq⟩, hmin,
        hfinishes⟩
      show (SendSide.sendRtmp (depth + 1) s msgSetChunk s.msgStreamId
        (setBe32 size) 0 chunkNetwork).bind _ = _
      rw [hrun]
      rfl

theorem SendCall.runAll_finishes (depth : Nat) {S : Sender} {s : SendSide}
    (hsize : S.chunkSize = s.chunkSizeOut) (hpos : 0 < S.chunkSize)
    (hidle : S.Idle) (hwindow : s.windowsSize = 0)
    (hstream : s.msgStreamId < 2 ^ 32) {calls : List SendCall}
    (h : forall call, call ∈ calls -> call.Allowed) :
    exists s' cs bytes,
      SendCall.runAll (depth + 1) s calls = .done s' ∧ Wrote s s' bytes ∧
        Finishes S cs s'.chunkSizeOut bytes
          (calls.map (SendCall.delivered s.msgStreamId)) := by
  induction calls generalizing S s with
  | nil =>
      refine ⟨s, [], [], rfl, ⟨?_, rfl, rfl⟩, trivial, rfl, rfl, hidle, hsize⟩
      rw [List.append_nil]
  | cons call calls ih =>
      rcases SendCall.run_finishes depth hsize hpos hidle hwindow hstream
          (h call List.mem_cons_self) with
        ⟨t, cs, bytes, hrun, hwrote, hpos', hfinishes⟩
      rcases ih (S := S.after cs) (s := t) hfinishes.chunkSize_eq
          (by rw [hfinishes.chunkSize_eq]; exact hpos') hfinishes.idle
          (hwrote.windowsSize_eq.trans hwindow)
          (by rw [hwrote.msgStreamId_eq]; exact hstream)
          (fun c hc => h c (List.mem_cons_of_mem call hc)) with
        ⟨s', ds, later, hrest, hwrote', hfinishes'⟩
      rw [hwrote.msgStreamId_eq] at hfinishes'
      refine ⟨s', cs ++ ds, bytes ++ later, ?_, ⟨?_, ?_, ?_⟩,
        hfinishes.append hfinishes'⟩
      · show (call.run (depth + 1) s).bind _ = _
        rw [hrun]
        exact hrest
      · rw [hwrote'.sent_eq, hwrote.sent_eq, List.append_assoc]
      · exact hwrote'.msgStreamId_eq.trans hwrote.msgStreamId_eq
      · exact hwrote'.windowsSize_eq.trans hwrote.windowsSize_eq

/-!
## The reader
-/

section Reading

variable {σ : Type} (env : Env σ)

/-- What the calls have written is delivered, every message once, in order and
as it was sent, and every byte is consumed. -/
def ReadBack (depth msgStreamId : Nat) (calls : List SendCall)
    (st : RtmpProtocol σ) : Prop :=
  exists s' st' pkts side,
    SendCall.runAll depth { msgStreamId := msgStreamId } calls = .done s' ∧
      splitRtmp env st s'.sent.flatten = .waiting st' pkts [] ∧
        handleAll env (st.side, st.app) pkts = .done (side, st'.app) ∧
          pkts.map RtmpPacket.delivered =
            calls.map (SendCall.delivered msgStreamId)

/-- It is delivered up to and including the first message that `handle_chunk`
throws on. -/
def ReadUntilRejected (depth msgStreamId : Nat) (calls : List SendCall)
    (st : RtmpProtocol σ) : Prop :=
  exists s' st' front pkt p,
    SendCall.runAll depth { msgStreamId := msgStreamId } calls = .done s' ∧
      splitRtmp env st s'.sent.flatten = .failed st' (front ++ [pkt]) ∧
        (front ++ [pkt]).map RtmpPacket.delivered <+:
            calls.map (SendCall.delivered msgStreamId) ∧
          handleAll env (st.side, st.app) front = .done p ∧
            forall q, handling env p pkt ≠ .done q

/-- Whatever is written to a new reader is read back, for as long as its
handlers do not throw. -/
theorem written_readBack (hkeep : env.KeepWindow) (depth : Nat)
    {msgStreamId : Nat} (hstream : msgStreamId < 2 ^ 32)
    {calls : List SendCall}
    (hcalls : forall call, call ∈ calls -> call.Allowed)
    {st : RtmpProtocol σ} (hsize : st.chunkSizeIn = kDefaultChunkLength)
    (hmap : st.chunkedDataMap = fun _ => {})
    (hwindow : st.side.windowsSize = 0) :
    ReadBack env (depth + 1) msgStreamId calls st ∨
      ReadUntilRejected env (depth + 1) msgStreamId calls st := by
  rcases SendCall.runAll_finishes depth (S := {})
      (s := { msgStreamId := msgStreamId }) rfl (by decide)
      (fun _ => rfl) rfl hstream hcalls with
    ⟨s', cs, bytes, hrun, hwrote, hfinishes⟩
  have hbytes : s'.sent.flatten = Sender.wire {} cs := by
    rw [hwrote.sent_eq, hfinishes.wire_eq]
    rfl
  have hhandles := splitRtmp_handles hkeep hwindow (buffersValid_initial hmap)
    (Sender.wire {} cs)
  rcases splitRtmp_wire env Sender.initial_sound
      (simulates_initial hsize hmap) hfinishes.wellFormed with
    ⟨st', pkts, hfailed, hpkts⟩ | ⟨st', pkts, hwaiting, hpkts, _⟩
  · rw [hfinishes.completed_eq] at hpkts
    rw [hfailed] at hhandles
    rw [← hbytes] at hfailed
    rcases hhandles with ⟨_, front, pkt, p, hlast, hfront, hnot⟩
    rw [hlast] at hfailed hpkts
    exact Or.inr ⟨s', st', front, pkt, p, hrun, hfailed, hpkts, hfront, hnot⟩
  · rw [hfinishes.completed_eq] at hpkts
    rw [hwaiting] at hhandles
    rw [← hbytes] at hwaiting
    rcases hhandles with ⟨p, hall, hp⟩
    refine Or.inl ⟨s', st', pkts, p.1, hrun, hwaiting, ?_, hpkts⟩
    rw [hp.app]
    exact hall

end Reading

/-- A video message in two chunks, a new chunk size, and a video message with an
extended timestamp. -/
def threeCalls : List SendCall :=
  [.sendRtmp 9 1 (List.replicate 130 7) 40 6, .setChunkSize 4096,
    .sendRtmp 9 1 (List.replicate 130 8) 0xFFFFFF 6]

/-- None of the three is rejected. -/
theorem written_readBack_three :
    (forall call, call ∈ threeCalls -> call.Allowed) ∧
      ReadBack .accepting 1 0 threeCalls { app := () } := by
  have hallowed : forall call, call ∈ threeCalls -> call.Allowed := by
    decide +kernel
  have hwhole : ControlsWhole (threeCalls.map (SendCall.delivered 0)) := by
    decide +kernel
  refine ⟨hallowed, ?_⟩
  have heither : ReadBack .accepting 1 0 threeCalls { app := () } ∨
      ReadUntilRejected .accepting 1 0 threeCalls { app := () } :=
    written_readBack .accepting accepting_keepWindow 0 (by decide) hallowed rfl
      rfl rfl
  rcases heither with hread | ⟨_, _, front, pkt, p, _, _, hpkts, _, hnot⟩
  · exact hread
  · have hmem : pkt.delivered ∈ threeCalls.map (SendCall.delivered 0) :=
      hpkts.subset (List.mem_map_of_mem List.mem_concat_self)
    rcases accepting_handling p (hwhole _ hmem) with ⟨q, hq⟩
    exact absurd hq (hnot q)

/-- An acknowledgement of one byte is rejected, and what follows it is not
delivered. -/
theorem not_readBack :
    (forall call, call ∈ [SendCall.sendRtmp 3 0 [0] 0 2,
        SendCall.sendRtmp 9 0 [0] 0 6] -> call.Allowed) ∧
      ¬ ReadBack .accepting 1 0
        [.sendRtmp 3 0 [0] 0 2, .sendRtmp 9 0 [0] 0 6] { app := () } := by
  refine ⟨by decide, ?_⟩
  rintro ⟨s', st', pkts, side, hrun, hwaiting, _⟩
  have hfails : (match SendCall.runAll 1 { msgStreamId := 0 }
      [.sendRtmp 3 0 [0] 0 2, .sendRtmp 9 0 [0] 0 6] with
    | .done s' =>
        match splitRtmp .accepting ({ app := () } : RtmpProtocol Unit)
            s'.sent.flatten with
        | .failed _ _ => true
        | .waiting _ _ _ => false
    | _ => false) = true := by
    decide +kernel
  rw [hrun] at hfails
  simp only [hwaiting] at hfails
  cases hfails

end Rtmp
end Streaming
