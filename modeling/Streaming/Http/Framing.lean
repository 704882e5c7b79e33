import Streaming.Media.MediaInfo
import Streaming.Network.Session

/-!
# Framing of requests

`on_parse_http` looks for the end of a request with `strstr`, which takes the
memory from the read index on for a C string: it stops at the first zero byte
and knows nothing of the write index.
-/

namespace Streaming
namespace Http

open Foundation Media Network Util

def kHttpPacketTail : Bytes := [13, 10, 13, 10]

inductive Search where
  | found (i : Nat)
  | missing
  /-- There is no zero byte up to the end of the memory that was allocated. -/
  | overrun
  deriving DecidableEq, Repr

/-- `std::strstr` -/
def strstr (mem pattern : Bytes) : Search :=
  match findFrom (mem.takeWhile fun c => c != 0) pattern 0 with
  | some i => .found i
  | none => if 0 ∈ mem then .missing else .overrun

/-- What `on_parse_http` does with the buffer. -/
inductive Parsed where
  | thrown (what : String)
  | incomplete
  /-- `on_search_http_handler` is called with the header, which is then
  consumed. -/
  | dispatched (header : Bytes) (buf : FlatBuffer)
  | overrun
  deriving DecidableEq, Repr

def onParseHttp (buf : FlatBuffer) : Parsed :=
  if buf.unreadLength < 4 then
    .thrown "http parser received invalid packet"
  else
    match strstr buf.data kHttpPacketTail with
    | .found i =>
        .dispatched (buf.data.take (i + 4)) (buf.safeConsume (i + 4))
    | .missing => .incomplete
    | .overrun => .overrun

/-!
## The buffer of a session
-/

inductive BufferEvent where
  /-- A read of a session; the socket stores the bytes. -/
  | read (bytes : Bytes)
  /-- The memory behind the write index is whatever it is.  That of `new char[]`
  is indeterminate. -/
  | leftover (stale : Bytes)
  | parse

/-- The same buffer with other bytes behind the write index. -/
def withLeftover (buf : FlatBuffer) (stale : Bytes) : FlatBuffer :=
  { buf with storage := buf.storage.take buf.writeIndex ++ stale }

def bufferStep (buf : FlatBuffer) : BufferEvent -> Option FlatBuffer
  | .read bytes =>
      match FlatBuffer.socketReadLength kSocketReadSize buf with
      | .error _ _ => none
      | .ok n buf =>
          if bytes.length <= n then
            match FlatBuffer.socketConsume bytes.length (buf.fill bytes) with
            | .error _ _ => none
            | .ok _ buf => some buf
          else
            none
  | .leftover stale =>
      if stale.length = buf.capacity - buf.writeIndex then
        some (withLeftover buf stale)
      else
        none
  | .parse =>
      match onParseHttp buf with
      | .dispatched _ buf => some buf
      | .incomplete => some buf
      | _ => none

/-- A request is dispatched exactly when the received bytes hold its end; it is
the bytes up to there, they are consumed, and nothing behind the write index has
a say in it. -/
def FramesReceived (buf : FlatBuffer) : Prop :=
  forall stale, stale.length = buf.capacity - buf.writeIndex ->
    match findFrom buf.unread kHttpPacketTail 0 with
    | none => onParseHttp (withLeftover buf stale) = .incomplete
    | some i =>
        exists after,
          onParseHttp (withLeftover buf stale) =
              .dispatched (buf.unread.take (i + 4)) after ∧
            after.Valid ∧ after.unread = buf.unread.drop (i + 4)

/-- The search ends where it should: there is no zero byte up to the end of the
first request, and there is one when no request is complete. -/
def ZeroSafe (received : Bytes) : Prop :=
  match findFrom received kHttpPacketTail 0 with
  | none => 0 ∈ received
  | some i => 0 ∉ received.take (i + 4)

/-!
## Searching in the memory
-/

theorem withLeftover_valid {buf : FlatBuffer} (hbuf : buf.Valid) {stale : Bytes}
    (hstale : stale.length = buf.capacity - buf.writeIndex) :
    (withLeftover buf stale).Valid := by
  have hwrite := hbuf.write_le_capacity
  have hcapacity := hbuf.capacity_eq
  refine ⟨hbuf.read_le_write, hwrite, ?_⟩
  simp only [withLeftover, List.length_append, List.length_take]
  omega

theorem withLeftover_data {buf : FlatBuffer} (hbuf : buf.Valid)
    (stale : Bytes) : (withLeftover buf stale).data = buf.unread ++ stale := by
  have hread := hbuf.read_le_write
  have hwrite := hbuf.write_le_capacity
  have hcapacity := hbuf.capacity_eq
  have hle : buf.readIndex <= (buf.storage.take buf.writeIndex).length := by
    rw [List.length_take]
    omega
  simp only [withLeftover, FlatBuffer.data, FlatBuffer.unread,
    FlatBuffer.unreadLength]
  rw [List.drop_append_of_le_length hle, List.drop_take]

theorem withLeftover_unread {buf : FlatBuffer} (hbuf : buf.Valid)
    (stale : Bytes) : (withLeftover buf stale).unread = buf.unread := by
  have hlength : (withLeftover buf stale).unreadLength = buf.unread.length :=
    hbuf.unread_length.symm
  rw [FlatBuffer.unread, hlength, withLeftover_data hbuf, List.take_left]

/-- Whether a pattern matches depends on the bytes there only. -/
theorem prefix_drop_of_agree {s t pattern : Bytes} {j k : Nat}
    (hagree : s.take k = t.take k) (hj : j + pattern.length <= k)
    (h : pattern <+: s.drop j) : pattern <+: t.drop j := by
  have hfits : pattern.length <= k - j := by omega
  have hwithin : pattern <+: (s.take k).drop j := by
    rw [List.drop_take]
    exact List.prefix_take_iff.mpr ⟨h, hfits⟩
  rw [hagree, List.drop_take] at hwithin
  exact (List.prefix_take_iff.mp hwithin).1

theorem findFrom_agree {s t pattern : Bytes} {i : Nat}
    (hagree : s.take (i + pattern.length) = t.take (i + pattern.length))
    (h : findFrom s pattern 0 = some i) : findFrom t pattern 0 = some i := by
  rcases findFrom_eq_some.mp h with ⟨_, hi, hmatch, hbefore⟩
  have hlength := congrArg List.length hagree
  simp only [List.length_take] at hlength
  rw [findFrom_eq_some]
  refine ⟨Nat.zero_le _, by omega,
    prefix_drop_of_agree hagree (Nat.le_refl _) hmatch, ?_⟩
  intro j _ hj hearlier
  exact hbefore j (Nat.zero_le _) hj
    (prefix_drop_of_agree hagree.symm (by omega) hearlier)

/-- What is not found before the end of a prefix is not found in the prefix. -/
theorem findFrom_prefix {s t pattern : Bytes} (hprefixed : t <+: s)
    (h : forall j, j + pattern.length <= t.length -> ¬ pattern <+: s.drop j) :
    findFrom t pattern 0 = none := by
  rw [findFrom_eq_none]
  intro j _ hj hmatch
  have hfits : j + pattern.length <= t.length := by
    have hle := hmatch.length_le
    rw [List.length_drop] at hle
    omega
  have hagree : t.take t.length = s.take t.length := by
    rw [List.take_length, ← List.prefix_iff_eq_take]
    exact hprefixed
  exact h j hfits (prefix_drop_of_agree hagree hfits hmatch)

theorem length_takeWhile_lt {l : Bytes} {n : Nat} (h : 0 ∈ l.take n) :
    (l.takeWhile fun c => c != 0).length < n := by
  apply Classical.byContradiction
  intro hlong
  have htake : l.take n = (l.takeWhile fun c => c != 0).take n := by
    have hsplit := List.takeWhile_append_dropWhile (p := fun c => c != 0) (l := l)
    rw [← hsplit, List.take_append_of_le_length (Nat.not_lt.mp hlong), hsplit]
  rw [htake] at h
  have hnonzero := List.all_takeWhile (p := fun c => c != 0) (l := l)
  exact absurd (List.all_eq_true.mp hnonzero 0 (List.mem_of_mem_take h))
    (by decide)

/-- The end of the first request is found when no zero byte comes before. -/
theorem strstr_found {u stale : Bytes} {i : Nat}
    (h : findFrom u kHttpPacketTail 0 = some i) (hzero : 0 ∉ u.take (i + 4)) :
    strstr (u ++ stale) kHttpPacketTail = .found i := by
  have htext : (u ++ stale).takeWhile (fun c => c != 0) =
      u.take (i + 4) ++
        (u.drop (i + 4) ++ stale).takeWhile (fun c => c != 0) := by
    have hsplit : u ++ stale = u.take (i + 4) ++ (u.drop (i + 4) ++ stale) := by
      rw [← List.append_assoc, List.take_append_drop]
    rw [hsplit, List.takeWhile_append_of_pos]
    intro c hc
    rw [bne_iff_ne]
    intro hnull
    rw [hnull] at hc
    exact hzero hc
  have hend : i + 4 <= u.length := findFrom_fits h
  have hagree : u.take (i + kHttpPacketTail.length) =
      ((u ++ stale).takeWhile fun c => c != 0).take
        (i + kHttpPacketTail.length) := by
    rw [show i + kHttpPacketTail.length = i + 4 from rfl, htext,
      List.take_append_of_le_length (by rw [List.length_take]; omega),
      List.take_take, Nat.min_self]
  unfold strstr
  rw [findFrom_agree hagree h]

/-- A zero byte before hides the end of a request. -/
theorem strstr_hidden {u stale : Bytes}
    (hnone : forall j, j + 4 <= ((u ++ stale).takeWhile fun c => c != 0).length ->
      ¬ kHttpPacketTail <+: u.drop j)
    (hzero : 0 ∈ u) : strstr (u ++ stale) kHttpPacketTail = .missing := by
  have htext : (u ++ stale).takeWhile (fun c => c != 0) =
      u.takeWhile fun c => c != 0 := by
    rw [List.takeWhile_append, if_neg]
    intro hall
    have hsame : u.takeWhile (fun c => c != 0) = u :=
      (List.takeWhile_prefix _).eq_of_length hall
    have hnonzero := List.all_takeWhile (p := fun c => c != 0) (l := u)
    rw [hsame, List.all_eq_true] at hnonzero
    exact absurd (hnonzero 0 hzero) (by decide)
  have hfind : findFrom ((u ++ stale).takeWhile fun c => c != 0)
      kHttpPacketTail 0 = none := by
    apply findFrom_prefix (s := u)
    · rw [htext]
      exact List.takeWhile_prefix _
    · exact hnone
  unfold strstr
  rw [hfind]
  exact if_pos (List.mem_append_left stale hzero)

/-!
## What received bytes decide
-/

theorem frames_iff {buf : FlatBuffer} (hbuf : buf.Valid)
    (hfour : 4 <= buf.unreadLength) :
    FramesReceived buf <-> ZeroSafe buf.unread := by
  have hparse : forall stale, stale.length = buf.capacity - buf.writeIndex ->
      onParseHttp (withLeftover buf stale) =
        match strstr (buf.unread ++ stale) kHttpPacketTail with
        | .found i =>
            .dispatched ((buf.unread ++ stale).take (i + 4))
              ((withLeftover buf stale).safeConsume (i + 4))
        | .missing => .incomplete
        | .overrun => .overrun := by
    intro stale hstale
    have hlength : (withLeftover buf stale).unreadLength = buf.unreadLength := rfl
    unfold onParseHttp
    rw [hlength, if_neg (Nat.not_lt.mpr hfour), withLeftover_data hbuf]
  unfold FramesReceived ZeroSafe
  cases hfind : findFrom buf.unread kHttpPacketTail 0 with
  | none =>
      simp only
      constructor
      · intro hframes
        apply Classical.byContradiction
        intro hzero
        -- no zero byte follows, so the search leaves the received bytes
        have hwaits := hframes (List.replicate (buf.capacity - buf.writeIndex) 1)
          List.length_replicate
        rw [hparse _ List.length_replicate] at hwaits
        have hnot : 0 ∉ buf.unread ++
            List.replicate (buf.capacity - buf.writeIndex) (1 : UInt8) := by
          rw [List.mem_append, List.mem_replicate]
          rintro (hmem | ⟨_, hone⟩)
          · exact hzero hmem
          · exact absurd hone (by decide)
        unfold strstr at hwaits
        split at hwaits
        · cases hwaits
        · rename_i hmissing
          split at hmissing
          · cases hmissing
          · rw [if_neg hnot] at hmissing
            cases hmissing
        · cases hwaits
      · intro hzero stale hstale
        rw [hparse stale hstale, strstr_hidden _ hzero]
        intro j _ hmatch
        have hle : j <= buf.unread.length := by
          have hfits := hmatch.length_le
          simp only [List.length_drop, kHttpPacketTail, List.length_cons,
            List.length_nil] at hfits
          omega
        exact findFrom_eq_none.mp hfind j (Nat.zero_le _) hle hmatch
  | some i =>
      simp only
      have hend : i + 4 <= buf.unread.length := findFrom_fits hfind
      constructor
      · intro hframes hzero
        rcases hframes (List.replicate (buf.capacity - buf.writeIndex) 0)
            List.length_replicate with ⟨after, hdispatched, _⟩
        rw [hparse _ List.length_replicate, strstr_hidden _
          (List.mem_of_mem_take hzero)] at hdispatched
        · cases hdispatched
        · intro j hj hmatch
          have hlt := length_takeWhile_lt (l := buf.unread ++
              List.replicate (buf.capacity - buf.writeIndex) 0) (n := i + 4)
            (by rw [List.take_append_of_le_length hend]; exact hzero)
          exact (findFrom_eq_some.mp hfind).2.2.2 j (Nat.zero_le _) (by omega)
            hmatch
      · intro hzero stale hstale
        have hvalid := withLeftover_valid hbuf hstale
        refine ⟨(withLeftover buf stale).safeConsume (i + 4), ?_,
          FlatBuffer.safeConsume_valid hvalid _, ?_⟩
        · rw [hparse stale hstale, strstr_found hfind hzero]
          simp only [List.take_append_of_le_length hend]
        · rw [FlatBuffer.safeConsume_unread, withLeftover_unread hbuf]
          rw [← hvalid.unread_length, withLeftover_unread hbuf]
          exact hend

theorem read_spec {buf buf' : FlatBuffer} (hbuf : buf.Valid) {bytes : Bytes}
    (h : bufferStep buf (.read bytes) = some buf') :
    buf'.Valid ∧ buf'.unread = buf.unread ++ bytes := by
  simp only [bufferStep] at h
  split at h
  · cases h
  · rename_i n roomy hroom
    rcases FlatBuffer.socketReadLength_spec hbuf hroom with
      ⟨hn, hvalid, hunread, hwritable⟩
    subst hn
    split at h
    · rename_i hlength
      unfold FlatBuffer.socketConsume at h
      split at h
      · cases h
      · rename_i consumed hconsume
        split at hconsume
        · cases hconsume
        · cases hconsume
          cases h
          rw [← hunread]
          exact FlatBuffer.fill_advance hvalid (Nat.le_trans hlength hwritable)
    · cases h

theorem onParseHttp_valid {buf buf' : FlatBuffer} (hbuf : buf.Valid)
    {header : Bytes} (h : onParseHttp buf = .dispatched header buf') :
    buf'.Valid := by
  unfold onParseHttp at h
  split at h
  · cases h
  · split at h
    · cases h
      exact FlatBuffer.safeConsume_valid hbuf _
    · cases h
    · cases h

theorem bufferStep_valid {buf buf' : FlatBuffer} {e : BufferEvent}
    (hbuf : buf.Valid) (h : bufferStep buf e = some buf') : buf'.Valid := by
  cases e with
  | read bytes => exact (read_spec hbuf h).1
  | leftover stale =>
      simp only [bufferStep] at h
      split at h
      · rename_i hstale
        cases h
        exact withLeftover_valid hbuf hstale
      · cases h
  | parse =>
      simp only [bufferStep] at h
      split at h
      · rename_i hparse
        cases h
        exact onParseHttp_valid hbuf hparse
      · cases h
        exact hbuf
      · cases h

/--
Whatever the session has read and consumed, and whatever is left in the memory:
with four unread bytes or more, `on_parse_http` finds what the received bytes
hold and nothing behind them has a say in it, exactly when the first request is
complete without a zero byte, or none is and the received bytes have a zero
byte.
-/
theorem framesReceived_iff {es : List BufferEvent} {buf : FlatBuffer}
    (h : run bufferStep (FlatBuffer.create kMaxBufferCacheSize) es = some buf)
    (hfour : 4 <= buf.unreadLength) :
    FramesReceived buf <-> ZeroSafe buf.unread :=
  frames_iff (run_keeps bufferStep_valid (FlatBuffer.create_valid _) h) hfour

/-- A request that comes in two reads. -/
theorem framesReceived_iff_request :
    exists buf, run bufferStep (FlatBuffer.create kMaxBufferCacheSize)
        [.read [71, 69, 84, 32], .read [47, 13, 10, 13, 10]] = some buf ∧
      (FramesReceived buf <-> ZeroSafe buf.unread) := by
  have hruns : exists buf, run bufferStep
      (FlatBuffer.create kMaxBufferCacheSize)
      [.read [71, 69, 84, 32], .read [47, 13, 10, 13, 10]] = some buf ∧
        4 <= buf.unreadLength := ⟨_, rfl, by decide⟩
  rcases hruns with ⟨buf, hrun, hfour⟩
  exact ⟨buf, hrun, framesReceived_iff hrun hfour⟩

/-- A zero byte in front of the end of the request. -/
theorem not_framesReceived :
    exists buf, run bufferStep (FlatBuffer.create kMaxBufferCacheSize)
        [.read [0, 13, 10, 13, 10]] = some buf ∧
      4 <= buf.unreadLength ∧ ¬ FramesReceived buf := by
  have hruns : exists buf, run bufferStep
      (FlatBuffer.create kMaxBufferCacheSize) [.read [0, 13, 10, 13, 10]] =
        some buf := ⟨_, rfl⟩
  rcases hruns with ⟨buf, hrun⟩
  rcases run_cons.mp hrun with ⟨read, hread, hend⟩
  cases hend
  rcases read_spec (FlatBuffer.create_valid _) hread with ⟨hvalid, hunread⟩
  rw [FlatBuffer.create_unread, List.nil_append] at hunread
  have hfour : 4 <= buf.unreadLength := by
    rw [← hvalid.unread_length, hunread]
    decide
  refine ⟨buf, hrun, hfour, ?_⟩
  have hend : findFrom [0, 13, 10, 13, 10] kHttpPacketTail 0 = some 1 := by
    decide
  rw [frames_iff hvalid hfour, hunread, ZeroSafe, hend]
  decide

end Http
end Streaming
