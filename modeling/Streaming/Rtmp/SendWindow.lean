import Streaming.Rtmp.Writing

/-!
# The window of the sending half

A message that crosses the window is followed by an acknowledgement, which is
sent by the same function.  The counter that ends the window is set behind the
inner call.
-/

namespace Streaming
namespace Rtmp

open Foundation Util

namespace SendSide

/-!
## What one call writes by itself
-/

/-- The strings passed to `send` for the message itself. -/
def pieces (chunkSizeOut msgTypeId msgStreamId : Nat) (data : Bytes)
    (timeStamp id : Nat) : Option (List Bytes) :=
  (sendChunks chunkSizeOut (headerPkt id)
    (if timeStamp >= 0xFFFFFF then setBe32 timeStamp else []) data.length []
    data).map (rtmpHeader msgTypeId msgStreamId data.length timeStamp id :: ·)

/-- The strings are sent and counted; the count goes through a `uint32_t`. -/
def wrote (s : SendSide) (own : List Bytes) : SendSide :=
  { s with
    sent := s.sent ++ own
    bytesSent := (s.bytesSent + own.flatten.length % 2 ^ 32) % 2 ^ 64 }

theorem wrote_sent (s : SendSide) (own : List Bytes) :
    (s.wrote own).sent = s.sent ++ own := rfl

def Crosses (s : SendSide) : Prop :=
  s.windowsSize > 0 ∧
    counterDiff s.bytesSent s.bytesSentLast >= s.windowsSize

instance (s : SendSide) : Decidable s.Crosses :=
  inferInstanceAs (Decidable (_ ∧ _))

theorem sendRtmp_of_pieces {s : SendSide} {msgTypeId msgStreamId : Nat}
    {data : Bytes} {timeStamp id : Nat} (depth : Nat)
    (hid : 2 <= id ∧ id <= 63) {own : List Bytes}
    (hown : pieces s.chunkSizeOut msgTypeId msgStreamId data timeStamp id =
      some own) :
    s.sendRtmp (depth + 1) msgTypeId msgStreamId data timeStamp id =
      if (s.wrote own).Crosses then
        ((s.wrote own).sendAcknowledgement depth
          (counterDiff (s.wrote own).bytesSent s.bytesSentLast)).bind fun s =>
            .done { s with bytesSentLast := s.bytesSent }
      else
        .done (s.wrote own) := by
  rcases Option.map_eq_some_iff.mp hown with ⟨chunks, hchunks, rfl⟩
  unfold headerPkt at hchunks
  rw [sendRtmp, if_neg (by omega)]
  simp only [hchunks]
  rfl

theorem sendRtmp_stuck {s : SendSide} {msgTypeId msgStreamId : Nat}
    {data : Bytes} {timeStamp id : Nat} (depth : Nat)
    (hid : 2 <= id ∧ id <= 63)
    (hown : pieces s.chunkSizeOut msgTypeId msgStreamId data timeStamp id =
      none) :
    s.sendRtmp depth msgTypeId msgStreamId data timeStamp id = .crashed := by
  cases depth with
  | zero => rfl
  | succ depth =>
      have hchunks := Option.map_eq_none_iff.mp hown
      unfold headerPkt at hchunks
      rw [sendRtmp, if_neg (by omega)]
      simp only [hchunks]

/-!
## How long it is
-/

def chunkCount (chunkSizeOut length : Nat) : Nat :=
  (length + chunkSizeOut - 1) / chunkSizeOut

/-- How many bytes a message of some length takes with its chunk headers. -/
def wireSize (chunkSizeOut length timeStamp : Nat) : Nat :=
  12 + length + (chunkCount chunkSizeOut length - 1) +
    if timeStamp >= 0xFFFFFF then 4 * chunkCount chunkSizeOut length else 0

theorem chunkCount_zero (size : Nat) : chunkCount size 0 = 0 := by
  cases size with
  | zero => rfl
  | succ size => exact Nat.div_eq_of_lt (by omega)

theorem chunkCount_next {size length : Nat} (hsize : 0 < size)
    (hlength : 0 < length) :
    chunkCount size length = chunkCount size (length - size) + 1 := by
  unfold chunkCount
  have hwhole : length + size - 1 = length - 1 + size := by omega
  rw [hwhole, Nat.add_div_right _ hsize]
  rcases Nat.lt_or_ge length size with hlast | hmore
  · rw [Nat.div_eq_of_lt (by omega), Nat.div_eq_of_lt (by omega)]
  · have hrest : length - size + size - 1 = length - 1 := by omega
    rw [hrest]

/-- The loop, with the same header in front of every chunk. -/
theorem sendChunks_length {size : Nat} (hsize : 0 < size)
    (header extended : Bytes) {fuel : Nat} {rest : Bytes}
    (hfuel : rest.length <= fuel) :
    exists later, sendChunks size header extended fuel header rest =
        some later ∧
      later.flatten.length = rest.length +
        (header.length + extended.length) * chunkCount size rest.length := by
  induction fuel generalizing rest with
  | zero =>
      have hnil : rest = [] := List.length_eq_zero_iff.mp (by omega)
      subst hnil
      refine ⟨[], rfl, ?_⟩
      rw [List.length_nil, chunkCount_zero]
      rfl
  | succ fuel ih =>
      cases rest with
      | nil =>
          refine ⟨[], rfl, ?_⟩
          rw [List.length_nil, chunkCount_zero]
          rfl
      | cons b bs =>
          have hpos : 0 < (b :: bs).length := Nat.zero_lt_succ _
          have hdrop : ((b :: bs).drop size).length <= fuel := by
            rw [List.length_drop]
            omega
          rcases ih hdrop with ⟨later, hlater, hlength⟩
          rw [sendChunks_succ _ _ _ _ _ (List.cons_ne_nil b bs), hlater]
          refine ⟨_, rfl, ?_⟩
          rw [flatten_pieces, chunkCount_next hsize hpos, Nat.mul_add_one]
          rw [List.length_drop] at hlength
          simp only [List.length_append, hlength, List.length_take]
          omega

theorem headerPkt_length (id : Nat) : (headerPkt id).length = 1 := rfl

theorem rtmpHeader_length (msgTypeId msgStreamId dataSize timeStamp id : Nat) :
    (rtmpHeader msgTypeId msgStreamId dataSize timeStamp id).length = 12 :=
  rfl

/-- The extended timestamp. -/
theorem extended_length (timeStamp : Nat) :
    (if timeStamp >= 0xFFFFFF then setBe32 timeStamp else []).length =
      if timeStamp >= 0xFFFFFF then 4 else 0 := by
  split <;> rfl

theorem wireSize_zero (size timeStamp : Nat) : wireSize size 0 timeStamp = 12 := by
  unfold wireSize
  rw [chunkCount_zero]
  split <;> rfl

theorem pieces_length {size : Nat} (hsize : 0 < size)
    (msgTypeId msgStreamId : Nat) (data : Bytes) (timeStamp id : Nat) :
    exists own, pieces size msgTypeId msgStreamId data timeStamp id =
        some own ∧
      own.flatten.length = wireSize size data.length timeStamp := by
  cases data with
  | nil => exact ⟨_, rfl, (wireSize_zero size timeStamp).symm⟩
  | cons b bs =>
      unfold pieces wireSize
      have hpos : 0 < (b :: bs).length := Nat.zero_lt_succ _
      have hdrop : ((b :: bs).drop size).length <= bs.length := by
        rw [List.length_drop, List.length_cons]
        omega
      rcases sendChunks_length hsize (headerPkt id)
        (if timeStamp >= 0xFFFFFF then setBe32 timeStamp else []) hdrop with
        ⟨later, hlater, hlength⟩
      rw [List.length_cons, sendChunks_succ _ _ _ _ _ (List.cons_ne_nil b bs),
        hlater, ← List.length_cons (a := b)]
      refine ⟨_, rfl, ?_⟩
      have hflatten := flatten_pieces []
        (if timeStamp >= 0xFFFFFF then setBe32 timeStamp else [])
        ((b :: bs).take size) later
      rw [List.flatten_cons, hflatten, chunkCount_next hsize hpos]
      rw [List.length_drop, headerPkt_length, extended_length] at hlength
      simp only [List.length_append, rtmpHeader_length, hlength, extended_length,
        List.length_take, List.length_nil]
      by_cases hlong : timeStamp >= 0xFFFFFF
      · simp only [if_pos hlong] at hlength ⊢
        omega
      · simp only [if_neg hlong] at hlength ⊢
        omega

/-- With chunks of no bytes the loop never ends. -/
theorem sendChunks_zero (next extended header : Bytes) (fuel : Nat)
    {rest : Bytes} (hrest : rest ≠ []) :
    sendChunks 0 next extended fuel header rest = none := by
  induction fuel generalizing header with
  | zero =>
      cases rest with
      | nil => exact absurd rfl hrest
      | cons b bs => rfl
  | succ fuel ih =>
      rw [sendChunks_succ _ _ _ _ _ hrest, List.drop_zero, ih]
      rfl

theorem pieces_zero (msgTypeId msgStreamId : Nat) {data : Bytes}
    (timeStamp id : Nat) (hdata : data ≠ []) :
    pieces 0 msgTypeId msgStreamId data timeStamp id = none := by
  rw [pieces, sendChunks_zero _ _ _ _ hdata]
  rfl

/-- What is written has that length, and something is written unless the loop
does not end. -/
theorem pieces_wireSize {size msgTypeId msgStreamId : Nat} {data : Bytes}
    {timeStamp id : Nat} {own : List Bytes}
    (hown : pieces size msgTypeId msgStreamId data timeStamp id = some own) :
    (0 < size ∨ data = []) ∧
      own.flatten.length = wireSize size data.length timeStamp := by
  rcases Nat.eq_zero_or_pos size with hzero | hpos
  · subst hzero
    by_cases hdata : data = []
    · subst hdata
      cases hown
      exact ⟨Or.inr rfl, (wireSize_zero 0 timeStamp).symm⟩
    · rw [pieces_zero _ _ _ _ hdata] at hown
      cases hown
  · rcases pieces_length hpos msgTypeId msgStreamId data timeStamp id with
      ⟨own', hown', hlength⟩
    cases hown.symm.trans hown'
    exact ⟨Or.inl hpos, hlength⟩

theorem exists_pieces {size : Nat} (msgTypeId msgStreamId : Nat) {data : Bytes}
    (timeStamp id : Nat) (h : 0 < size ∨ data = []) :
    exists own, pieces size msgTypeId msgStreamId data timeStamp id =
      some own := by
  rcases h with hpos | hdata
  · rcases pieces_length hpos msgTypeId msgStreamId data timeStamp id with
      ⟨own, hown, -⟩
    exact ⟨own, hown⟩
  · subst hdata
    exact ⟨_, rfl⟩

/-!
## What is asked of a call
-/

/-- An acknowledgement, of any number of bytes. -/
def Acknowledgement (s : SendSide) (ack : List Bytes) : Prop :=
  exists size, pieces s.chunkSizeOut msgAck s.msgStreamId (setBe32 size) 0
    chunkNetwork = some ack

/-- The call has sent the message and at most one acknowledgement, none when
fewer bytes than the window have been sent since the last, and has counted all
of it. -/
structure SentOnce (s s' : SendSide) (own : List Bytes) (acks : List (List Bytes)) :
    Prop where
  sent_eq : s'.sent = s.sent ++ (own ++ acks.flatten)
  counted : counterDiff s'.bytesSent s.bytesSent =
    (own ++ acks.flatten).flatten.length % 2 ^ 64
  acknowledgements : forall ack, ack ∈ acks -> s.Acknowledgement ack
  once : acks.length <= 1
  withinWindow : (counterDiff s.bytesSent s.bytesSentLast +
    own.flatten.length) % 2 ^ 64 < s.windowsSize -> acks = []

/-- The call comes back: it throws before anything is sent, or it has sent the
message and what belongs to it. -/
def SendsOnce (s : SendSide) (msgTypeId msgStreamId : Nat) (data : Bytes)
    (timeStamp id : Nat) : Prop :=
  (exists depth what,
    s.sendRtmp depth msgTypeId msgStreamId data timeStamp id = .threw what s) ∨
  exists depth s' own acks,
    s.sendRtmp depth msgTypeId msgStreamId data timeStamp id = .done s' ∧
      pieces s.chunkSizeOut msgTypeId msgStreamId data timeStamp id = some own ∧
        SentOnce s s' own acks

/-- How far the window is used. -/
def sinceLast (s : SendSide) : Nat :=
  counterDiff s.bytesSent s.bytesSentLast

/-- How long an acknowledgement is. -/
def ackSize (s : SendSide) : Nat :=
  wireSize s.chunkSizeOut 4 0

/-- The chunk loop ends, the size of the message fits the `uint32_t` that it is
counted through, and either the message does not reach the window, or it and the
acknowledgement together do not, since the counter has wrapped around. -/
def Settled (s : SendSide) (length timeStamp : Nat) : Prop :=
  let size := wireSize s.chunkSizeOut length timeStamp
  (0 < s.chunkSizeOut ∨ length = 0) ∧ size % 2 ^ 64 < 2 ^ 32 ∧
    (s.windowsSize = 0 ∨ (s.sinceLast + size) % 2 ^ 64 < s.windowsSize ∨
      (0 < s.chunkSizeOut ∧
        (s.sinceLast + size + s.ackSize) % 2 ^ 64 < s.windowsSize))

instance (s : SendSide) (length timeStamp : Nat) :
    Decidable (s.Settled length timeStamp) :=
  inferInstanceAs (Decidable (_ ∧ _ ∧ _))

/-!
## The counters
-/

theorem counterDiff_wrote (s : SendSide) (own : List Bytes) (start : Nat) :
    counterDiff (s.wrote own).bytesSent start =
      (counterDiff s.bytesSent start + own.flatten.length % 2 ^ 32) % 2 ^ 64 := by
  unfold counterDiff wrote
  simp only
  omega

theorem counterDiff_self (n : Nat) : counterDiff n n = 0 := by
  unfold counterDiff
  omega

@[simp] theorem wrote_windowsSize (s : SendSide) (own : List Bytes) :
    (s.wrote own).windowsSize = s.windowsSize := rfl

@[simp] theorem wrote_chunkSizeOut (s : SendSide) (own : List Bytes) :
    (s.wrote own).chunkSizeOut = s.chunkSizeOut := rfl

@[simp] theorem wrote_ackSize (s : SendSide) (own : List Bytes) :
    (s.wrote own).ackSize = s.ackSize := rfl

theorem sinceLast_wrote (s : SendSide) (own : List Bytes) :
    (s.wrote own).sinceLast =
      (s.sinceLast + own.flatten.length % 2 ^ 32) % 2 ^ 64 :=
  counterDiff_wrote s own s.bytesSentLast

theorem crosses_iff (s : SendSide) :
    s.Crosses <-> 0 < s.windowsSize ∧ s.windowsSize <= s.sinceLast :=
  Iff.rfl

theorem crosses_wrote (s : SendSide) (own : List Bytes) :
    (s.wrote own).Crosses <-> 0 < s.windowsSize ∧
      s.windowsSize <=
        (s.sinceLast + own.flatten.length % 2 ^ 32) % 2 ^ 64 := by
  rw [crosses_iff, sinceLast_wrote, wrote_windowsSize]

/-!
## The ways a call ends
-/

section Ends

variable {s s' : SendSide} {msgTypeId msgStreamId : Nat} {data : Bytes}
  {timeStamp id depth : Nat}

theorem sendRtmp_done_cases
    (h : s.sendRtmp depth msgTypeId msgStreamId data timeStamp id = .done s') :
    exists own,
      pieces s.chunkSizeOut msgTypeId msgStreamId data timeStamp id =
          some own ∧
        ((¬ (s.wrote own).Crosses ∧ s' = s.wrote own) ∨
          ((s.wrote own).Crosses ∧ exists inner size u, depth = inner + 1 ∧
            (s.wrote own).sendAcknowledgement inner size = .done u ∧
              s' = { u with bytesSentLast := u.bytesSent })) := by
  cases depth with
  | zero => cases h
  | succ depth =>
      by_cases hid : 2 <= id ∧ id <= 63
      · cases hown : pieces s.chunkSizeOut msgTypeId msgStreamId data timeStamp
            id with
        | none =>
            rw [sendRtmp_stuck (depth + 1) hid hown] at h
            cases h
        | some own =>
            refine ⟨own, rfl, ?_⟩
            rw [sendRtmp_of_pieces depth hid hown] at h
            split at h
            next hcrosses =>
              right
              unfold Exit.bind at h
              split at h
              next u hack =>
                cases h
                exact ⟨hcrosses, depth, _, u, rfl, hack, rfl⟩
              next => cases h
              next => cases h
            next hwithin =>
              left
              cases h
              exact ⟨hwithin, rfl⟩
      · rw [sendRtmp, if_pos (by omega)] at h
        cases h

theorem sendRtmp_not_threw (hid : 2 <= id ∧ id <= 63) (what : String)
    (u : SendSide) :
    s.sendRtmp depth msgTypeId msgStreamId data timeStamp id ≠
      .threw what u := by
  induction depth generalizing s msgTypeId msgStreamId data timeStamp id with
  | zero => exact fun h => nomatch h
  | succ depth ih =>
      intro h
      cases hown : pieces s.chunkSizeOut msgTypeId msgStreamId data timeStamp id
        with
      | none =>
          rw [sendRtmp_stuck (depth + 1) hid hown] at h
          cases h
      | some own =>
          rw [sendRtmp_of_pieces depth hid hown] at h
          split at h
          next =>
            unfold Exit.bind at h
            split at h
            next => cases h
            next hack =>
              cases h
              exact ih (by decide) hack
            next => cases h
          next => cases h

/-- Whatever a call writes, the message itself stands in front. -/
theorem sendRtmp_grows
    (h : s.sendRtmp depth msgTypeId msgStreamId data timeStamp id = .done s') :
    exists own more,
      pieces s.chunkSizeOut msgTypeId msgStreamId data timeStamp id =
          some own ∧
        s'.sent = s.sent ++ (own ++ more) := by
  induction depth generalizing s s' msgTypeId msgStreamId data timeStamp id with
  | zero => cases h
  | succ depth ih =>
      rcases sendRtmp_done_cases h with
        ⟨own, hown, ⟨-, rfl⟩ | ⟨-, inner, size, u, hinner, hack, rfl⟩⟩
      · exact ⟨own, [], hown, by rw [List.append_nil]; rfl⟩
      · cases hinner
        rcases ih hack with ⟨ack, more, -, hsent⟩
        refine ⟨own, ack ++ more, hown, ?_⟩
        show u.sent = _
        rw [hsent, wrote_sent, List.append_assoc]

end Ends

/-!
## When a call sends once
-/

theorem Acknowledgement.length {s : SendSide} {ack : List Bytes}
    (h : s.Acknowledgement ack) :
    0 < s.chunkSizeOut ∧ ack.flatten.length = s.ackSize := by
  rcases h with ⟨size, hack⟩
  rcases pieces_wireSize hack with ⟨hpos | hnil, hlength⟩
  · exact ⟨hpos, hlength⟩
  · cases hnil

theorem ackSize_range {s : SendSide} (hpos : 0 < s.chunkSizeOut) :
    16 <= s.ackSize ∧ s.ackSize < 2 ^ 32 := by
  have hcount : chunkCount s.chunkSizeOut 4 <= 4 := by
    unfold chunkCount
    apply Nat.div_le_of_le_mul
    omega
  unfold ackSize wireSize
  rw [if_neg (by decide)]
  omega

/-- At most one acknowledgement is at most that long. -/
theorem SentOnce.acks_length {s s' : SendSide} {own : List Bytes}
    {acks : List (List Bytes)} (h : SentOnce s s' own acks) :
    acks.flatten.flatten.length <= s.ackSize := by
  cases acks with
  | nil => exact Nat.zero_le _
  | cons ack rest =>
      cases rest with
      | nil =>
          rw [List.flatten_singleton]
          exact (h.acknowledgements ack List.mem_cons_self).length.2.le
      | cons other rest =>
          have honce := h.once
          simp at honce

section Once

variable {s s' : SendSide} {msgTypeId msgStreamId : Nat} {data : Bytes}
  {timeStamp id depth : Nat} {own : List Bytes} {acks : List (List Bytes)}

/-- A call that sends no acknowledgement. -/
theorem settled_of_within (hloop : 0 < s.chunkSizeOut ∨ data.length = 0)
    (hlength : own.flatten.length = wireSize s.chunkSizeOut data.length timeStamp)
    (hwithin : ¬ (s.wrote own).Crosses) (honce : SentOnce s (s.wrote own) own acks) :
    s.Settled data.length timeStamp := by
  have hnone : acks.flatten = [] := by
    have hsent := honce.sent_eq
    rw [wrote_sent, List.append_cancel_left_eq] at hsent
    simpa using hsent
  have hcounted := honce.counted
  rw [counterDiff_wrote, counterDiff_self, hnone, List.append_nil] at hcounted
  rw [crosses_wrote] at hwithin
  unfold Settled
  rw [← hlength]
  omega

/-- A call that sends one. -/
theorem settled_of_acknowledged
    (hlength : own.flatten.length = wireSize s.chunkSizeOut data.length timeStamp)
    {ack : List Bytes} (hack : (s.wrote own).Acknowledgement ack)
    (hwithin : ¬ ((s.wrote own).wrote ack).Crosses)
    (honce : SentOnce s { ((s.wrote own).wrote ack) with
      bytesSentLast := ((s.wrote own).wrote ack).bytesSent } own acks) :
    s.Settled data.length timeStamp := by
  rcases hack.length with ⟨hpos, hsize⟩
  rw [wrote_chunkSizeOut] at hpos
  rw [wrote_ackSize] at hsize
  rcases ackSize_range hpos with ⟨hmin, hmax⟩
  have hone : acks.flatten = ack := by
    have hsent := honce.sent_eq
    simp only [wrote_sent, List.append_assoc, List.append_cancel_left_eq] at hsent
    exact hsent.symm
  have hcounted := honce.counted
  simp only [counterDiff_wrote, counterDiff_self, hone, List.flatten_append,
    List.length_append, hsize] at hcounted
  rw [crosses_wrote, sinceLast_wrote, hsize, wrote_windowsSize] at hwithin
  unfold Settled
  rw [← hlength]
  exact ⟨Or.inl hpos, by omega, by omega⟩

/-- A call that sends two. -/
theorem not_sentOnce_of_two {ack : List Bytes} {u v : SendSide} {size : Nat}
    (hack : (s.wrote own).Acknowledgement ack)
    (hmore : ((s.wrote own).wrote ack).sendAcknowledgement depth size = .done v)
    (hsame : u.sent = v.sent) : ¬ SentOnce s u own acks := by
  intro honce
  rcases sendRtmp_grows hmore with ⟨second, more, hsecond, hsent⟩
  have hfirst := hack.length
  have hother : ((s.wrote own).wrote ack).Acknowledgement second :=
    ⟨size, hsecond⟩
  have hacks : acks.flatten = ack ++ (second ++ more) := by
    have hall := honce.sent_eq
    simp only [hsame, hsent, wrote_sent, List.append_assoc,
      List.append_cancel_left_eq] at hall
    exact hall.symm
  have hlength := honce.acks_length
  have hmin := (ackSize_range hfirst.1).1
  rw [hacks, List.flatten_append, List.flatten_append, List.length_append,
    List.length_append, hfirst.2, hother.length.2] at hlength
  simp only [wrote_ackSize] at hlength hmin
  omega

theorem settled_of_sendsOnce (hid : 2 <= id ∧ id <= 63)
    (h : s.SendsOnce msgTypeId msgStreamId data timeStamp id) :
    s.Settled data.length timeStamp := by
  rcases h with ⟨depth, what, hthrew⟩ |
    ⟨depth, s', own, acks, hdone, hown, honce⟩
  · exact absurd hthrew (sendRtmp_not_threw hid what s)
  · rcases pieces_wireSize hown with ⟨hloop, hlength⟩
    have hloop : 0 < s.chunkSizeOut ∨ data.length = 0 := by
      simpa using hloop
    rcases sendRtmp_done_cases hdone with
      ⟨own', hown', ⟨hwithin, rfl⟩ | ⟨hcrosses, inner, size, u, -, hack, rfl⟩⟩
    · cases hown.symm.trans hown'
      exact settled_of_within hloop hlength hwithin honce
    · cases hown.symm.trans hown'
      rcases sendRtmp_done_cases hack with
        ⟨ack, hack', ⟨hwithin, rfl⟩ | ⟨hagain, inner', size', v, -, hmore, rfl⟩⟩
      · exact settled_of_acknowledged hlength ⟨size, hack'⟩ hwithin honce
      · exact absurd honce (not_sentOnce_of_two ⟨size, hack'⟩ hmore rfl)

/-!
## A call within the bounds
-/

theorem sendsOnce_within (hid : 2 <= id ∧ id <= 63)
    (hown : pieces s.chunkSizeOut msgTypeId msgStreamId data timeStamp id =
      some own)
    (hsize : own.flatten.length % 2 ^ 64 < 2 ^ 32)
    (hwithin : ¬ (s.wrote own).Crosses) :
    s.SendsOnce msgTypeId msgStreamId data timeStamp id := by
  right
  refine ⟨1, s.wrote own, own, [], ?_, hown, ?_⟩
  · rw [sendRtmp_of_pieces 0 hid hown, if_neg hwithin]
  · constructor
    · rw [List.flatten_nil, List.append_nil, wrote_sent]
    · rw [counterDiff_wrote, counterDiff_self, List.flatten_nil, List.append_nil]
      omega
    · exact fun _ hack => absurd hack List.not_mem_nil
    · exact Nat.zero_le 1
    · exact fun _ => rfl

theorem sendsOnce_acknowledged (hid : 2 <= id ∧ id <= 63)
    (hown : pieces s.chunkSizeOut msgTypeId msgStreamId data timeStamp id =
      some own)
    (hsize : own.flatten.length % 2 ^ 64 < 2 ^ 32)
    (hcrosses : (s.wrote own).Crosses) (hpos : 0 < s.chunkSizeOut)
    (hwraps : (s.sinceLast + own.flatten.length + s.ackSize) % 2 ^ 64 <
      s.windowsSize) :
    s.SendsOnce msgTypeId msgStreamId data timeStamp id := by
  have hexists : exists ack, pieces (s.wrote own).chunkSizeOut msgAck
      (s.wrote own).msgStreamId
      (setBe32 (counterDiff (s.wrote own).bytesSent s.bytesSentLast)) 0
      chunkNetwork = some ack :=
    exists_pieces _ _ _ _ (Or.inl hpos)
  rcases hexists with ⟨ack, hack⟩
  have hack' : (s.wrote own).Acknowledgement ack := ⟨_, hack⟩
  have hlength : ack.flatten.length = s.ackSize := hack'.length.2
  have hmax := (ackSize_range hpos).2
  have hwithin : ¬ ((s.wrote own).wrote ack).Crosses := by
    rw [crosses_wrote, sinceLast_wrote, hlength, wrote_windowsSize]
    omega
  have hinner : (s.wrote own).sendAcknowledgement 1
      (counterDiff (s.wrote own).bytesSent s.bytesSentLast) =
        .done ((s.wrote own).wrote ack) := by
    unfold sendAcknowledgement
    rw [sendRtmp_of_pieces 0 (by decide) hack, if_neg hwithin]
  right
  refine ⟨2, { (s.wrote own).wrote ack with
    bytesSentLast := ((s.wrote own).wrote ack).bytesSent }, own, [ack], ?_, hown,
    ?_⟩
  · rw [sendRtmp_of_pieces 1 hid hown, if_pos hcrosses, hinner]
    rfl
  · constructor
    · simp only [wrote_sent, List.flatten_singleton, List.append_assoc]
    · simp only [counterDiff_wrote, counterDiff_self, List.flatten_singleton,
        List.flatten_append, List.length_append, hlength]
      omega
    · intro other hother
      rw [List.mem_singleton.mp hother]
      exact ⟨_, hack⟩
    · exact Nat.le_refl 1
    · intro hless
      rw [crosses_wrote] at hcrosses
      unfold sinceLast at hcrosses
      omega

end Once

/-- A call of `send_rtmp` sends its message and at most one acknowledgement and
counts them, just when its numbers are within the bounds. -/
theorem sendsOnce_iff (s : SendSide) (msgTypeId msgStreamId : Nat)
    (data : Bytes) (timeStamp id : Nat) :
    s.SendsOnce msgTypeId msgStreamId data timeStamp id <->
      (2 <= id ∧ id <= 63 -> s.Settled data.length timeStamp) := by
  constructor
  · intro h hid
    exact settled_of_sendsOnce hid h
  · intro h
    by_cases hid : 2 <= id ∧ id <= 63
    · rcases h hid with ⟨hloop, hsize, hwindow⟩
      have hloop : 0 < s.chunkSizeOut ∨ data = [] := by
        simpa using hloop
      rcases exists_pieces msgTypeId msgStreamId timeStamp id hloop with
        ⟨own, hown⟩
      have hlength := (pieces_wireSize hown).2
      rw [← hlength] at hsize hwindow
      by_cases hcrosses : (s.wrote own).Crosses
      · have hbounds := (crosses_wrote s own).mp hcrosses
        rcases hwindow with hnone | hless | ⟨hpos, hwraps⟩
        · omega
        · omega
        · exact sendsOnce_acknowledged hid hown hsize hcrosses hpos hwraps
      · exact sendsOnce_within hid hown hsize hcrosses
    · left
      refine ⟨1, "only support type 1 chunk header", ?_⟩
      rw [sendRtmp, if_pos (by omega)]

/-!
## How deep the calls nest
-/

/-- Behind a window that is used up, every acknowledgement makes way for the
next until the counter wraps around. -/
theorem sendAcknowledgement_deep (depth : Nat) {s : SendSide} (size : Nat)
    (hcrosses : s.Crosses)
    (hroom : s.sinceLast + depth * s.ackSize < 2 ^ 64) :
    s.sendAcknowledgement depth size = .crashed := by
  induction depth generalizing s size with
  | zero => rfl
  | succ depth ih =>
      unfold sendAcknowledgement
      cases hack : pieces s.chunkSizeOut msgAck s.msgStreamId (setBe32 size) 0
          chunkNetwork with
      | none => exact sendRtmp_stuck (depth + 1) (by decide) hack
      | some ack =>
          have hack' : s.Acknowledgement ack := ⟨size, hack⟩
          rcases hack'.length with ⟨hpos, hlength⟩
          rcases ackSize_range hpos with ⟨-, hmax⟩
          rw [Nat.add_mul] at hroom
          have hsince : (s.wrote ack).sinceLast = s.sinceLast + s.ackSize := by
            rw [sinceLast_wrote, hlength]
            omega
          have hcrosses' : (s.wrote ack).Crosses := by
            rw [crosses_iff, hsince, wrote_windowsSize]
            rw [crosses_iff] at hcrosses
            omega
          have hroom' : (s.wrote ack).sinceLast +
              depth * (s.wrote ack).ackSize < 2 ^ 64 := by
            rw [hsince, wrote_ackSize]
            omega
          rw [sendRtmp_of_pieces depth (by decide) hack, if_pos hcrosses',
            ih _ hcrosses' hroom']
          rfl

/-- A message that crosses the window: the call has not come back, however deep
the calls behind it nest. -/
theorem sendRtmp_deep {s : SendSide} {msgTypeId msgStreamId : Nat}
    {data : Bytes} {timeStamp id : Nat} {own : List Bytes} (depth : Nat)
    (hid : 2 <= id ∧ id <= 63)
    (hown : pieces s.chunkSizeOut msgTypeId msgStreamId data timeStamp id =
      some own)
    (hcrosses : (s.wrote own).Crosses)
    (hroom : (s.wrote own).sinceLast + depth * s.ackSize < 2 ^ 64) :
    s.sendRtmp (depth + 1) msgTypeId msgStreamId data timeStamp id =
      .crashed := by
  rw [sendRtmp_of_pieces depth hid hown, if_pos hcrosses,
    sendAcknowledgement_deep depth _ hcrosses hroom]
  rfl

/-- A window of 1000 bytes, of which 995 are used: an empty message crosses it. -/
def nearlyFull : SendSide where
  windowsSize := 1000
  bytesSent := 995

theorem not_sendsOnce_nearlyFull :
    ¬ nearlyFull.SendsOnce msgCmd 0 [] 0 chunkClientRequestBefore := by
  intro h
  exact absurd (settled_of_sendsOnce (by decide) h) (by decide)

end SendSide

end Rtmp
end Streaming
