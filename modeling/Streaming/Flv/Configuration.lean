import Streaming.Flv.Viewing

/-!
# Decoder configurations

A viewer gets config frames on two ways: those in the map of config frames when
`start_muxing` runs over it, and those among the packets that the dispatcher
gives it later.  Each coded packet is to be decoded with the config frame of its
track that comes last before it.
-/

namespace Streaming
namespace Flv

open Foundation Media Rtmp RtmpMediaSource Util

/-!
## The last config frame
-/

section LastConfig

/-- The message at a position is a config frame of a type. -/
def ConfigAt (msgs : List RtmpPacket) (msgTypeId : Nat) (ptr : PacketPtr) :
    Prop :=
  (msgs[ptr]?.any fun pkt =>
    decide (pkt.msgTypeId = msgTypeId ∧ pkt.IsConfig)) = true

instance (msgs : List RtmpPacket) (msgTypeId : Nat) (ptr : PacketPtr) :
    Decidable (ConfigAt msgs msgTypeId ptr) :=
  inferInstanceAs (Decidable (_ = _))

/-- The last config frame of a type among some messages, by its position. -/
def lastConfig (msgs : List RtmpPacket) (msgTypeId : Nat)
    (ptrs : List PacketPtr) : Option PacketPtr :=
  ptrs.reverse.find? fun ptr => decide (ConfigAt msgs msgTypeId ptr)

variable {msgs : List RtmpPacket} {msgTypeId : Nat}

theorem configAt_iff {ptr : PacketPtr} : ConfigAt msgs msgTypeId ptr <->
    exists pkt, msgs[ptr]? = some pkt ∧ pkt.msgTypeId = msgTypeId ∧
      pkt.IsConfig := by
  unfold ConfigAt
  rw [Option.any_eq_true]
  simp only [decide_eq_true_eq]

theorem lastConfig_append (front back : List PacketPtr) :
    lastConfig msgs msgTypeId (front ++ back) =
      (lastConfig msgs msgTypeId back).or (lastConfig msgs msgTypeId front) := by
  unfold lastConfig
  rw [List.reverse_append, List.find?_append]

theorem lastConfig_none {ptrs : List PacketPtr} :
    lastConfig msgs msgTypeId ptrs = none <->
      forall ptr, ptr ∈ ptrs -> ¬ ConfigAt msgs msgTypeId ptr := by
  unfold lastConfig
  rw [List.find?_eq_none]
  simp

theorem lastConfig_some {ptrs : List PacketPtr} {ptr : PacketPtr}
    (h : lastConfig msgs msgTypeId ptrs = some ptr) :
    ptr ∈ ptrs ∧ ConfigAt msgs msgTypeId ptr := by
  constructor
  · exact List.mem_reverse.mp (List.mem_of_find?_eq_some h)
  · exact of_decide_eq_true (List.find?_some
      (p := fun ptr => decide (ConfigAt msgs msgTypeId ptr)) h)

/-- Behind the last config frame there is none. -/
theorem lastConfig_later {ptrs : List PacketPtr} {ptr other : PacketPtr}
    (hincreasing : ptrs.Pairwise (· < ·))
    (h : lastConfig msgs msgTypeId ptrs = some ptr) (hother : other ∈ ptrs)
    (hlt : ptr < other) : ¬ ConfigAt msgs msgTypeId other := by
  rcases List.find?_eq_some_iff_append.mp h with ⟨_, late, early, hsplit, hlate⟩
  have hptrs : ptrs = early.reverse ++ ptr :: late.reverse := by
    rw [← List.reverse_reverse ptrs, hsplit]
    simp
  rw [hptrs] at hincreasing hother
  rcases List.mem_append.mp hother with hearly | hrest
  · have hbefore := (List.pairwise_append.mp hincreasing).2.2 other hearly ptr
      List.mem_cons_self
    exact absurd hbefore (Nat.lt_asymm hlt)
  · rcases List.mem_cons.mp hrest with heq | hmem
    · rw [heq] at hlt
      exact absurd hlt (Nat.lt_irrefl ptr)
    · have hnot := hlate other (List.mem_reverse.mp hmem)
      simpa using hnot

/-- Up to its own position, a config frame is the last one. -/
theorem lastConfig_range_succ {ptr : PacketPtr}
    (h : ConfigAt msgs msgTypeId ptr) :
    lastConfig msgs msgTypeId (List.range (ptr + 1)) = some ptr := by
  unfold lastConfig
  rw [List.range_succ, List.reverse_concat]
  exact List.find?_cons_of_pos (decide_eq_true h)

theorem lastConfig_range_le {a b : Nat} (hab : a <= b) :
    lastConfig msgs msgTypeId (List.range a) =
        lastConfig msgs msgTypeId (List.range b) <->
      forall i, a <= i -> i < b -> ¬ ConfigAt msgs msgTypeId i := by
  have hsplit : List.range b = List.range a ++ List.range' a (b - a) := by
    have happend := List.range'_append_1 (s := 0) (m := a) (n := b - a)
    rw [Nat.zero_add, Nat.add_sub_cancel' hab] at happend
    rw [List.range_eq_range', List.range_eq_range', happend]
  have hmem : forall i, i ∈ List.range' a (b - a) <-> a <= i ∧ i < b := by
    intro i
    rw [List.mem_range'_1]
    omega
  rw [hsplit, lastConfig_append]
  constructor
  · intro heq i hai hib hconfig
    have hsome : lastConfig msgs msgTypeId (List.range' a (b - a)) ≠ none := by
      intro hnone
      exact lastConfig_none.mp hnone i ((hmem i).mpr ⟨hai, hib⟩) hconfig
    rcases Option.ne_none_iff_exists'.mp hsome with ⟨j, hj⟩
    rw [hj, Option.some_or] at heq
    have hlow := List.mem_range.mp (lastConfig_some heq).1
    have hhigh := ((hmem j).mp (lastConfig_some hj).1).1
    omega
  · intro hnot
    have hnone : lastConfig msgs msgTypeId (List.range' a (b - a)) = none := by
      apply lastConfig_none.mpr
      intro i hi
      exact hnot i ((hmem i).mp hi).1 ((hmem i).mp hi).2
    rw [hnone, Option.none_or]

/-- Two places of a stream agree on the last config frame when there is none
between them. -/
theorem lastConfig_range_iff (a b : Nat) :
    lastConfig msgs msgTypeId (List.range a) =
        lastConfig msgs msgTypeId (List.range b) <->
      forall i, min a b <= i -> i < max a b -> ¬ ConfigAt msgs msgTypeId i := by
  rcases Nat.le_total a b with hab | hba
  · rw [lastConfig_range_le hab, Nat.min_eq_left hab, Nat.max_eq_right hab]
  · rw [eq_comm, lastConfig_range_le hba, Nat.min_eq_right hba,
      Nat.max_eq_left hba]

theorem configAt_take {n ptr : Nat} :
    (exists pkt, (msgs.take n)[ptr]? = some pkt ∧ pkt.msgTypeId = msgTypeId ∧
        pkt.IsConfig) <->
      ptr < n ∧ ConfigAt msgs msgTypeId ptr := by
  rw [configAt_iff]
  constructor
  · rintro ⟨pkt, hpkt, hrest⟩
    rw [List.getElem?_take] at hpkt
    split at hpkt
    · rename_i hlt
      exact ⟨hlt, pkt, hpkt, hrest⟩
    · cases hpkt
  · rintro ⟨hlt, pkt, hpkt, hrest⟩
    refine ⟨pkt, ?_, hrest⟩
    rw [List.getElem?_take, if_pos hlt]
    exact hpkt

theorem latestConfig_take {n ptr : Nat}
    (h : LatestConfig (msgs.take n) msgTypeId ptr) :
    ptr < n ∧ ConfigAt msgs msgTypeId ptr ∧
      lastConfig msgs msgTypeId (List.range n) = some ptr := by
  rcases h with ⟨pkt, hpkt, htype, hconfig, hlatest⟩
  rcases configAt_take.mp ⟨pkt, hpkt, htype, hconfig⟩ with ⟨hlt, hat⟩
  refine ⟨hlt, hat, ?_⟩
  rw [← lastConfig_range_succ hat, eq_comm]
  apply (lastConfig_range_le hlt).mpr
  intro i hi hin hother
  rcases configAt_take.mpr ⟨hin, hother⟩ with ⟨other, hget, htype', hconfig'⟩
  exact hlatest i other hi hget hconfig' htype'

/-- The entries of the map are the last config frames of their types. -/
theorem lastConfig_entries {entries : List (Nat × PacketPtr)} {n : Nat}
    (h : ConfigFrames (msgs.take n) entries) :
    lastConfig msgs msgTypeId (entries.map Prod.snd) =
      lastConfig msgs msgTypeId (List.range n) := by
  have hentry : forall ptr, ptr ∈ entries.map Prod.snd ->
      ConfigAt msgs msgTypeId ptr -> LatestConfig (msgs.take n) msgTypeId ptr := by
    intro ptr hptr hat
    rcases List.mem_map.mp hptr with ⟨entry, hentry, hsnd⟩
    have hlatest := (h.mem_iff entry.1 entry.2).mp hentry
    rw [hsnd] at hlatest
    have htype := (latestConfig_take hlatest).2.1
    rcases configAt_iff.mp hat with ⟨pkt, hpkt, hpktType, _⟩
    rcases configAt_iff.mp htype with ⟨pkt', hpkt', hpktType', _⟩
    cases hpkt.symm.trans hpkt'
    rw [← hpktType, hpktType']
    exact hlatest
  cases hlast : lastConfig msgs msgTypeId (entries.map Prod.snd) with
  | some ptr =>
      rcases lastConfig_some hlast with ⟨hmem, hat⟩
      exact (latestConfig_take (hentry ptr hmem hat)).2.2.symm
  | none =>
      rw [eq_comm, lastConfig_none]
      intro i hi hat
      rcases exists_latestConfig.mpr
        ⟨i, configAt_take.mpr ⟨List.mem_range.mp hi, hat⟩⟩ with ⟨ptr, hlatest⟩
      have hmem : ptr ∈ entries.map Prod.snd :=
        List.mem_map.mpr ⟨_, (h.mem_iff msgTypeId ptr).mpr hlatest, rfl⟩
      exact lastConfig_none.mp hlast ptr hmem (latestConfig_take hlatest).2.1

/-!
## Packets and their configurations
-/

/-- Behind every coded packet written, the last config frame of its track is the
last one that the publisher has sent before the packet. -/
def RightlyConfigured (msgs : List RtmpPacket) (written : List PacketPtr) :
    Prop :=
  forall front ptr back pkt, written = front ++ ptr :: back ->
    msgs[ptr]? = some pkt -> ¬ pkt.IsConfig ->
      lastConfig msgs pkt.msgTypeId front =
        lastConfig msgs pkt.msgTypeId (List.range ptr)

/-- The message at a position is not before the start time of a viewer. -/
def Timely (msgs : List RtmpPacket) (startPts : Nat) (ptr : PacketPtr) : Prop :=
  (msgs[ptr]?.any fun pkt => wanted startPts (tagOf pkt)) = true

instance (msgs : List RtmpPacket) (startPts : Nat) (ptr : PacketPtr) :
    Decidable (Timely msgs startPts ptr) :=
  inferInstanceAs (Decidable (_ = _))

/-- The packets at these positions that a viewer with this start time is sent. -/
def timely (msgs : List RtmpPacket) (startPts : Nat) (ptrs : List PacketPtr) :
    List PacketPtr :=
  ptrs.filter fun ptr => decide (Timely msgs startPts ptr)

/-- The last config frame of a type before a message is in the section of the
stream that begins here, and not before the start time. -/
def FromStream (msgs : List RtmpPacket) (startPts lo msgTypeId ptr : Nat) :
    Prop :=
  exists i, lo <= i ∧ i < ptr ∧ ConfigAt msgs msgTypeId i ∧
    Timely msgs startPts i ∧
      forall j, i < j -> j < ptr -> ¬ ConfigAt msgs msgTypeId j

/-- The section has no config frame of the type before the message that is not
too early, and the publisher sends none between the message and the place where
the map is read. -/
def FromMap (msgs : List RtmpPacket) (startPts mapRead lo msgTypeId ptr : Nat) :
    Prop :=
  (forall i, lo <= i -> i < ptr -> ConfigAt msgs msgTypeId i ->
      ¬ Timely msgs startPts i) ∧
    forall i, min mapRead ptr <= i -> i < max mapRead ptr ->
      ¬ ConfigAt msgs msgTypeId i

/-- What each coded packet of the section needs: the config frame that belongs
to it comes with the stream, or it is the one of the map. -/
def ConfigsReach (msgs : List RtmpPacket) (startPts mapRead lo hi : Nat) : Prop :=
  forall ptr pkt, lo <= ptr -> ptr < hi -> msgs[ptr]? = some pkt ->
    ¬ pkt.IsConfig -> Timely msgs startPts ptr ->
      FromStream msgs startPts lo pkt.msgTypeId ptr ∨
        FromMap msgs startPts mapRead lo pkt.msgTypeId ptr

theorem mem_timely {startPts lo hi ptr : Nat} :
    ptr ∈ timely msgs startPts (List.range' lo (hi - lo)) <->
      lo <= ptr ∧ ptr < hi ∧ Timely msgs startPts ptr := by
  have hbounds : lo <= ptr ∧ ptr < lo + (hi - lo) <-> lo <= ptr ∧ ptr < hi := by
    omega
  unfold timely
  rw [List.mem_filter, List.mem_range'_1, decide_eq_true_eq, hbounds, and_assoc]

/-- Before a packet that is sent comes what is sent of the section up to it. -/
theorem timely_split {startPts lo n ptr : Nat} {front back : List PacketPtr}
    (h : timely msgs startPts (List.range' lo n) = front ++ ptr :: back) :
    front = timely msgs startPts (List.range' lo (ptr - lo)) := by
  rcases List.filter_eq_append_iff.mp h with ⟨xs, ys, hsection, hfront, hrest⟩
  rcases List.filter_eq_cons_iff.mp hrest with ⟨early, late, hys, hearly, _, _⟩
  rw [hys, ← List.append_assoc] at hsection
  rcases List.range'_eq_append_iff.mp hsection with ⟨k, hk, hxs, hlate⟩
  have hptr : ptr = lo + k * 1 := by
    cases hcount : n - k with
    | zero =>
        rw [hcount] at hlate
        cases hlate
    | succ m =>
        rw [hcount, List.range'_succ] at hlate
        exact (List.cons.inj hlate).1
  have hcount : ptr - lo = k := by
    rw [hptr, Nat.mul_one, Nat.add_sub_cancel_left]
  have hnone : early.filter (fun ptr => decide (Timely msgs startPts ptr)) =
      [] := by
    rw [List.filter_eq_nil_iff]
    exact hearly
  rw [hcount, timely, ← hxs, List.filter_append, hfront, hnone, List.append_nil]

theorem timely_increasing (startPts lo n : Nat) :
    (timely msgs startPts (List.range' lo n)).Pairwise (· < ·) :=
  List.Pairwise.filter _ List.pairwise_lt_range'

/-- The config frames of the map are not coded packets themselves. -/
theorem entries_config {entries : List (Nat × PacketPtr)} {mapRead : Nat}
    (h : ConfigFrames (msgs.take mapRead) entries) {ptr : PacketPtr}
    (hptr : ptr ∈ entries.map Prod.snd) {pkt : RtmpPacket}
    (hpkt : msgs[ptr]? = some pkt) : pkt.IsConfig := by
  rcases List.mem_map.mp hptr with ⟨entry, hentry, hsnd⟩
  have hat := (latestConfig_take ((h.mem_iff entry.1 entry.2).mp hentry)).2.1
  rw [hsnd] at hat
  rcases configAt_iff.mp hat with ⟨pkt', hpkt', _, hconfig⟩
  cases hpkt.symm.trans hpkt'
  exact hconfig

/-- A coded packet of the section is rightly configured in one of two ways. -/
theorem lastConfig_sent_iff {entries : List (Nat × PacketPtr)}
    {mapRead startPts lo ptr : Nat}
    (h : ConfigFrames (msgs.take mapRead) entries) :
    lastConfig msgs msgTypeId (entries.map Prod.snd ++
          timely msgs startPts (List.range' lo (ptr - lo))) =
        lastConfig msgs msgTypeId (List.range ptr) <->
      FromStream msgs startPts lo msgTypeId ptr ∨
        FromMap msgs startPts mapRead lo msgTypeId ptr := by
  rw [lastConfig_append, lastConfig_entries h]
  cases hlast : lastConfig msgs msgTypeId
      (timely msgs startPts (List.range' lo (ptr - lo))) with
  | some i =>
      rcases lastConfig_some hlast with ⟨hmem, hconfig⟩
      rcases mem_timely.mp hmem with ⟨hlo, hlt, htimely⟩
      rw [Option.some_or, ← lastConfig_range_succ hconfig,
        lastConfig_range_le hlt]
      constructor
      · intro hnone
        exact Or.inl ⟨i, hlo, hlt, hconfig, htimely, hnone⟩
      · rintro (⟨j, hloj, hj, hconfigj, htimelyj, hnone⟩ | ⟨hearly, _⟩)
        · have hmemj : j ∈ timely msgs startPts (List.range' lo (ptr - lo)) :=
            mem_timely.mpr ⟨hloj, hj, htimelyj⟩
          rcases Nat.lt_trichotomy i j with hij | heq | hji
          · exact absurd hconfigj
              (lastConfig_later (timely_increasing _ _ _) hlast hmemj hij)
          · rw [heq]
            exact hnone
          · exact absurd hconfig (hnone i hji hlt)
        · exact absurd htimely (hearly i hlo hlt hconfig)
  | none =>
      have hearly : forall i, lo <= i -> i < ptr -> ConfigAt msgs msgTypeId i ->
          ¬ Timely msgs startPts i := by
        intro i hlo hi hconfig htimely
        have hmem : i ∈ timely msgs startPts (List.range' lo (ptr - lo)) :=
          mem_timely.mpr ⟨hlo, hi, htimely⟩
        exact lastConfig_none.mp hlast i hmem hconfig
      rw [Option.none_or, lastConfig_range_iff]
      constructor
      · intro hnone
        exact Or.inr ⟨hearly, hnone⟩
      · rintro (⟨i, hlo, hi, hconfig, htimely, _⟩ | ⟨_, hnone⟩)
        · exact absurd htimely (hearly i hlo hi hconfig)
        · exact hnone

theorem rightlyConfigured_iff {entries : List (Nat × PacketPtr)}
    {mapRead startPts lo hi : Nat}
    (h : ConfigFrames (msgs.take mapRead) entries) :
    RightlyConfigured msgs (entries.map Prod.snd ++
        timely msgs startPts (List.range' lo (hi - lo))) <->
      ConfigsReach msgs startPts mapRead lo hi := by
  constructor
  · intro hright ptr pkt hlo hhi hpkt hcoded htimely
    have hmem : ptr ∈ timely msgs startPts (List.range' lo (hi - lo)) :=
      mem_timely.mpr ⟨hlo, hhi, htimely⟩
    rcases List.append_of_mem hmem with ⟨front, back, hsplit⟩
    have hfront := timely_split hsplit
    rw [← lastConfig_sent_iff h, ← hfront]
    apply hright _ ptr back pkt _ hpkt hcoded
    rw [hsplit, List.append_assoc]
  · intro hreach front ptr back pkt hwritten hpkt hcoded
    have hentry : ptr ∉ entries.map Prod.snd :=
      fun hmem => hcoded (entries_config h hmem hpkt)
    have hgiven : exists given, front = entries.map Prod.snd ++ given ∧
        timely msgs startPts (List.range' lo (hi - lo)) = given ++ ptr :: back := by
      rcases List.append_eq_append_iff.mp hwritten with
        ⟨given, hfront, hgiven⟩ | ⟨others, hentries, hrest⟩
      · exact ⟨given, hfront, hgiven⟩
      · cases others with
        | nil =>
            rw [List.append_nil] at hentries
            exact ⟨[], by rw [hentries, List.append_nil], hrest.symm⟩
        | cons other others =>
            rw [hentries, (List.cons.inj hrest).1] at hentry
            simp at hentry
    rcases hgiven with ⟨given, hfront, hsplit⟩
    have hmem : ptr ∈ timely msgs startPts (List.range' lo (hi - lo)) := by
      rw [hsplit]
      simp
    rcases mem_timely.mp hmem with ⟨hlo, hhi, htimely⟩
    rw [hfront, timely_split hsplit, lastConfig_sent_iff h]
    exact hreach ptr pkt hlo hhi hpkt hcoded htimely

end LastConfig

/-!
## Viewers
-/

section Viewers

variable {W R : Type} [DecidableEq R]

omit [DecidableEq R] in
theorem tagsAt_timely (msgs : List RtmpPacket) (startPts : Nat)
    (ptrs : List PacketPtr) :
    tagsAt msgs (timely msgs startPts ptrs) =
      (tagsAt msgs ptrs).filter (wanted startPts) := by
  unfold tagsAt timely
  induction ptrs with
  | nil => rfl
  | cons ptr ptrs ih =>
      cases hpkt : msgs[ptr]? with
      | none => simpa [Timely, hpkt] using ih
      | some pkt =>
          cases hwanted : wanted startPts (tagOf pkt) with
          | true => simpa [Timely, hpkt, hwanted] using ih
          | false => simpa [Timely, hpkt, hwanted] using ih

/-- The config frames reach a viewer that starts here, if it is taken over by a
merge at all. -/
def ViewerConfigured (r : R) (startPts mapRead : Nat)
    (es : List (RelayEvent R)) : Prop :=
  forall front, joining r (stayed r es) = some front ->
    ConfigsReach (messages es) startPts mapRead (cacheStart (messages front))
      (begun (stayed r es))

theorem rightlyConfigured_viewed_iff {r : R} {startPts mapRead : Nat}
    {es : List (RelayEvent R)} {entries : List (Nat × PacketPtr)}
    (h : ConfigFrames ((messages es).take mapRead) entries) :
    RightlyConfigured (messages es) (entries.map Prod.snd ++
        timely (messages es) startPts (viewed r es)) <->
      ViewerConfigured r startPts mapRead es := by
  unfold ViewerConfigured viewed
  cases hjoining : joining r (stayed r es) with
  | none =>
      -- nothing but the config frames of the map
      apply iff_of_true
      · have hnothing : RightlyConfigured (messages es)
            (entries.map Prod.snd ++
              timely (messages es) startPts (List.range' 0 (0 - 0))) := by
          apply (rightlyConfigured_iff h).mpr
          intro ptr pkt _ hhi
          exact absurd hhi (Nat.not_lt_zero ptr)
        exact hnothing
      · intro front hfront
        cases hfront
  | some front =>
      simp only [Option.some.injEq, forall_eq']
      exact rightlyConfigured_iff h

/--
A viewer is sent the config frames of the map as it stands when `start_muxing`
runs over it, and then the messages from the beginning of the cache at its merge
on that are not before its start time.  These are rightly configured exactly when
the last config frame before each coded one among them is in that section and not
too early itself, or all of those in the section are too early and the publisher
sends none between the packet and the place where the map was read.
-/
theorem viewer_configured_iff {regist : W -> Except String W}
    {h264DecSeqParameterSet : Bytes -> Bool} {metaData : Option MetaDataPtr}
    {maps : MetaDataPtr -> Option Metadata} {registry : W}
    {ingest : Ingest W R} {u : PUnit} {es : List (RelayEvent R)}
    {s : Relay W R} {r : R} {c : FlvClient}
    (hinit : initTracks metaData { registry := registry, maps := maps } =
      .ok u ingest)
    (hreceivable : forall pkt, pkt ∈ messages es -> Receivable pkt)
    (h : run (Relay.step regist h264DecSeqParameterSet) (Relay.start ingest) es =
      some s)
    (hc : s.clients r = some c) :
    exists front order back script body metadata,
      es = front ++ .startMuxing r c.startPts order :: back ∧
        s.ingest.metadata = some metadata ∧
        sendMetadata metadata = .ok script ∧
        c.sent.flatten = sendFlvHeader.flatten ++ script.flatten ++ body ∧
        parseTags body = some (tagsAt (messages es) (order.map Prod.snd ++
          timely (messages es) c.startPts (viewed r es))) ∧
        (RightlyConfigured (messages es) (order.map Prod.snd ++
            timely (messages es) c.startPts (viewed r es)) <->
          ViewerConfigured r c.startPts (messages front).length es) := by
  rcases start_invariant hinit with ⟨metadata, hstart⟩
  rcases run_invariant hstart hreceivable h with ⟨d, hinv⟩
  rcases hinv.served r c hc with ⟨front, order, back, delivered, hes, hconfigs,
    _, hheard, _, horder, hdelivered, script, hscript, hsent⟩
  cases hheard.symm.trans (heard_viewed hinit h r)
  have htake : (messages es).take (messages front).length = messages front := by
    rw [hes, messages_append, List.take_left]
  rw [← htake] at hconfigs
  refine ⟨front, order, back, script, _, metadata, hes, hinv.metaData_eq, hscript,
    hsent, ?_, rightlyConfigured_viewed_iff hconfigs⟩
  have happend : forall xs ys : List PacketPtr,
      tagsAt (messages es) (xs ++ ys) =
        tagsAt (messages es) xs ++ tagsAt (messages es) ys :=
    fun xs ys => List.filterMap_append
  rw [happend, tagsAt_timely]
  apply parseTags_bytes
  intro tag htag
  rcases List.mem_append.mp htag with hconfig | hpacket
  · exact tagsAt_wellFormed hreceivable hinv.types hconfig
  · exact tagsAt_wellFormed hreceivable hinv.types
      (List.mem_filter.mp hpacket).1

end Viewers

/-- The viewer reads the map behind the first message, and is taken over behind
the second one. -/
theorem viewer_configured_iff_audio :
    exists s c script body,
      run (Relay.step (fun u => .ok u) fun _ => true) (Relay.start audioIngest)
          audioEvents = some s ∧
        s.clients 7 = some c ∧ c.startPts = 6 ∧
        viewed 7 audioEvents = [1, 2] ∧
        c.sent.flatten = sendFlvHeader.flatten ++ script ++ body ∧
        parseTags body = some (tagsAt (messages audioEvents) [0, 2]) ∧
        (RightlyConfigured (messages audioEvents) [0, 2] <->
          ViewerConfigured 7 6 1 audioEvents) := by
  rcases audioEvents_run with ⟨s, c, hrun, hc, hstartPts, _, _⟩
  rcases viewer_configured_iff audioIngest_init audioEvents_receivable hrun hc
    with ⟨front, order, back, script, body, metadata, hes, _, _, hsent, hparse,
      hiff⟩
  have hviewed : viewed 7 audioEvents = [1, 2] := by
    decide +kernel
  have htimely : timely (messages audioEvents) 6 [1, 2] = [2] := by
    decide +kernel
  rcases audioEvents_start hes with ⟨hfront, horder⟩
  rw [horder, hstartPts, hviewed, htimely] at hparse hiff
  rw [hfront] at hiff
  exact ⟨s, c, script.flatten, body, hrun, hc, hstartPts, hviewed, hsent, hparse,
    hiff⟩

/-- The AAC configuration changes, and a viewer comes that is given the packet
before the change from the cache. -/
def changedConfigEvents : List (RelayEvent Nat) :=
  .message (audioPacket 0 [0xAF, 0, 0x12, 0x10]) ::
    aired 1 false (audioPacket 5 [0xAF, 1, 0x21]) ++
      aired 2 false (audioPacket 10 [0xAF, 0, 0x11, 0x90]) ++
        [.startMuxing 7 0 [(8, 2)], .fanout (.regist 7)] ++
          aired 3 false (audioPacket 10 [0xAF, 1, 0x33])

/-- The viewer is sent the new config frame, and then the old packet. -/
theorem viewer_wrongly_configured :
    exists s c script,
      initTracks (some 0)
          ({ registry := (), maps := fun _ => some audioMetadata } :
            Ingest Unit Nat) = .ok ⟨⟩ audioIngest ∧
        run (Relay.step (fun u => .ok u) fun _ => true)
            (Relay.start audioIngest) changedConfigEvents = some s ∧
          s.clients 7 = some c ∧
            sendMetadata audioMetadata = .ok script ∧
              c.sent.flatten = sendFlvHeader.flatten ++ script.flatten ++
                (tagsAt (messages changedConfigEvents) [2, 1, 2, 3]).flatMap
                  Tag.bytes ∧
                ¬ RightlyConfigured (messages changedConfigEvents)
                  [2, 1, 2, 3] := by
  have hends : (run (Relay.step (fun u => .ok u) fun _ => true)
      (Relay.start audioIngest) changedConfigEvents).any (fun s =>
        (s.clients 7).any fun c =>
          (sendMetadata audioMetadata).toOption.any fun script =>
            c.sent.flatten = sendFlvHeader.flatten ++ script.flatten ++
              (tagsAt (messages changedConfigEvents) [2, 1, 2, 3]).flatMap
                Tag.bytes) = true := by
    decide +kernel
  rcases (Option.any_eq_true _ _).mp hends with ⟨s, hrun, hs⟩
  rcases (Option.any_eq_true _ _).mp hs with ⟨c, hc, hscript⟩
  rcases (Option.any_eq_true _ _).mp hscript with ⟨script, hsome, hsent⟩
  have hmetadata : sendMetadata audioMetadata = .ok script := by
    cases hresult : sendMetadata audioMetadata with
    | error what =>
        rw [hresult] at hsome
        cases hsome
    | ok script' =>
        rw [hresult] at hsome
        cases hsome
        rfl
  refine ⟨s, c, script, audioIngest_init, hrun, hc, hmetadata,
    of_decide_eq_true hsent, ?_⟩
  intro hright
  have hlast := hright [2] 1 [2, 3] (audioPacket 5 [0xAF, 1, 0x21]) rfl rfl
    (by decide)
  exact absurd hlast (by decide)

end Flv
end Streaming
