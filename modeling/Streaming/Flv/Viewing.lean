import Streaming.Flv.OnAir

/-!
# The section that a viewer is given

A reader is taken over by the first merge behind its registration.  What it is
given is a section of the stream.  That begins where the cache begins at this
merge, and goes on for as long as the muxer is there.
-/

namespace Streaming
namespace Flv

open Foundation Media Rtmp RtmpMediaSource Util

/-!
## Where it begins and ends
-/

section Places

variable {R : Type} [DecidableEq R]

/-- The message with which the cache begins when all of these have been through
its update. -/
def cacheStart (msgs : List RtmpPacket) : Nat :=
  msgs.length - min PacketDispatcher.kMaxPacketCacheSize
    (sinceKeyFrame ((airing msgs).map flagged))

/-- What happens before the merge that takes a reader over, if there is one. -/
def joining (r : R) (es : List (RelayEvent R)) : Option (List (RelayEvent R)) :=
  let waiting := es.dropWhile fun e => !e.calls (.regist r)
  if .mergeClients ∈ fanoutEvents waiting then
    some ((es.takeWhile fun e => !e.calls (.regist r)) ++
      waiting.takeWhile fun e => !e.calls .mergeClients)
  else
    none

omit [DecidableEq R] in
/-- The first message whose `distribute` has not begun. -/
def begun (es : List (RelayEvent R)) : Nat :=
  ((distributed (fanoutEvents es)).getLast?.map fun p => p.1 + 1).getD 0

/-- The messages that a viewer is given, by their positions. -/
def viewed (r : R) (es : List (RelayEvent R)) : List PacketPtr :=
  match joining r (stayed r es) with
  | none => []
  | some front =>
      List.range' (cacheStart (messages front))
        (begun (stayed r es) - cacheStart (messages front))

/-- The first call of one kind, if there is one. -/
theorem split_at_call (f : FanoutEvent PacketPtr R) (es : List (RelayEvent R)) :
    (f ∉ fanoutEvents es ∧ (es.dropWhile fun e => !e.calls f) = []) ∨
      exists front back, es = front ++ .fanout f :: back ∧
        f ∉ fanoutEvents front ∧ (es.takeWhile fun e => !e.calls f) = front ∧
          (es.dropWhile fun e => !e.calls f) = .fanout f :: back := by
  have hfront : f ∉ fanoutEvents (es.takeWhile fun e => !e.calls f) :=
    not_mem_fanoutEvents.mpr fun e he =>
      List.mem_takeWhile_imp (p := fun e : RelayEvent R => !e.calls f) he
  have hwhole := List.takeWhile_append_dropWhile
    (p := fun e : RelayEvent R => !e.calls f) (l := es)
  cases hrest : es.dropWhile fun e => !e.calls f with
  | nil =>
      left
      rw [hrest, List.append_nil] at hwhole
      rw [hwhole] at hfront
      exact ⟨hfront, rfl⟩
  | cons e back =>
      right
      have hcall : ¬ (!e.calls f) = true := by
        have hhead := List.head_dropWhile_not
          (fun e : RelayEvent R => !e.calls f) (l := es)
          (by rw [hrest]; exact List.cons_ne_nil _ _)
        simp only [hrest, List.head_cons] at hhead
        rw [hhead]
        exact Bool.false_ne_true
      rw [Bool.not_eq_true', Bool.not_eq_false, calls_iff] at hcall
      subst hcall
      rw [hrest] at hwhole
      exact ⟨_, back, hwhole.symm, hfront, rfl, rfl⟩

theorem joining_some {r : R} {es front : List (RelayEvent R)}
    (h : joining r es = some front) :
    exists before mid back, es = front ++ .fanout .mergeClients :: back ∧
      front = before ++ .fanout (.regist r) :: mid ∧
        .regist r ∉ fanoutEvents before ∧ .mergeClients ∉ fanoutEvents mid := by
  unfold joining at h
  rcases split_at_call (.regist r) es with
    ⟨_, hnone⟩ | ⟨before, rest, hes, hbefore, htake, hdrop⟩
  · rw [hnone] at h
    cases h
  · rw [htake, hdrop] at h
    rcases split_at_call .mergeClients (.fanout (.regist r) :: rest) with
      ⟨hnone, _⟩ | ⟨waiting, back, hrest, hwaiting, htake', _⟩
    · rw [if_neg hnone] at h
      cases h
    · have hmerge : .mergeClients ∈
          fanoutEvents (.fanout (.regist r) :: rest) := by
        rw [hrest, mem_fanoutEvents]
        exact List.mem_append_right _ List.mem_cons_self
      rw [if_pos hmerge, htake'] at h
      cases h
      cases waiting with
      | nil => cases hrest
      | cons e mid =>
          rcases List.cons.inj hrest with ⟨rfl, hmid⟩
          refine ⟨before, mid, back, ?_, rfl, hbefore, ?_⟩
          · rw [hes, hmid]
            simp
          · intro hmem
            apply hwaiting
            rw [mem_fanoutEvents] at hmem ⊢
            exact List.mem_cons_of_mem _ hmem

theorem joining_none {r : R} {es : List (RelayEvent R)}
    (h : joining r es = none) : .regist r ∉ fanoutEvents es ∨
      exists before mid, es = before ++ .fanout (.regist r) :: mid ∧
        .regist r ∉ fanoutEvents before ∧ .mergeClients ∉ fanoutEvents mid := by
  unfold joining at h
  rcases split_at_call (.regist r) es with
    ⟨hnone, _⟩ | ⟨before, mid, hes, hbefore, _, hdrop⟩
  · exact Or.inl hnone
  · right
    refine ⟨before, mid, hes, hbefore, ?_⟩
    intro hmem
    rw [hdrop] at h
    have hmerge : .mergeClients ∈ fanoutEvents (.fanout (.regist r) :: mid) := by
      rw [mem_fanoutEvents] at hmem ⊢
      exact List.mem_cons_of_mem _ hmem
    rw [if_pos hmerge] at h
    cases h

end Places

/-!
## The positions of the messages
-/

section Positions

/-- The messages that are passed on are all from some place on. -/
theorem airing_positions (msgs : List RtmpPacket) :
    (airing msgs).map Prod.snd =
      List.range' (msgs.length - (airing msgs).length) (airing msgs).length := by
  have hwhole : List.range' 0 msgs.length =
      (msgs.zipIdx.takeWhile fun p => decide p.1.IsConfig).map Prod.snd ++
        (airing msgs).map Prod.snd := by
    rw [← List.map_append, airing, List.takeWhile_append_dropWhile,
      List.zipIdx_map_snd]
  rcases List.range'_eq_append_iff.mp hwhole with ⟨k, hk, _, hair⟩
  have hlength := congrArg List.length hair
  rw [List.length_map, List.length_range'] at hlength
  have hplace : 0 + k * 1 = msgs.length - (airing msgs).length := by omega
  rw [hair, hplace, ← hlength]

theorem sinceKeyFrame_le {T : Type} (history : List (T × Bool)) :
    sinceKeyFrame history <= history.length := by
  unfold sinceKeyFrame
  split
  · rename_i i hfind
    have hlt := (List.findIdx?_eq_some_iff_findIdx_eq.mp hfind).1
    rw [List.length_reverse] at hlt
    exact hlt
  · exact Nat.le_refl _

/-- The cache of consecutive packets. -/
theorem latest_range {history : List (PacketPtr × Bool)} {maxSize lo n : Nat}
    (h : history.map Prod.fst = List.range' lo n) :
    latest maxSize history =
      List.range' (lo + n - min maxSize (sinceKeyFrame history))
        (min maxSize (sinceKeyFrame history)) := by
  have hlength := congrArg List.length h
  rw [List.length_map, List.length_range'] at hlength
  have hle := sinceKeyFrame_le history
  have hplace : lo + (n - min maxSize (sinceKeyFrame history)) * 1 =
      lo + n - min maxSize (sinceKeyFrame history) := by
    omega
  have hcount : n - (n - min maxSize (sinceKeyFrame history)) =
      min maxSize (sinceKeyFrame history) := by
    omega
  unfold latest List.rtake
  rw [h, List.drop_range', List.length_range', hplace, hcount]

end Positions

/-!
## What the reader is called with
-/

section Runs

variable {W R : Type} [DecidableEq R]

theorem OnAir.distributed_prefix {es : List (RelayEvent R)}
    {d : PacketDispatcher PacketPtr R} {s : Relay W R} (h : OnAir es d s) :
    exists n, (distributed (fanoutEvents es)).map Prod.fst =
      List.range' ((messages es).length - (airing (messages es)).length) n := by
  have horder := congrArg (List.map Prod.fst) h.order
  have hpositions : ((airing (messages es)).map flagged).map Prod.fst =
      (airing (messages es)).map Prod.snd := by
    rw [List.map_map]
    rfl
  rw [hpositions, airing_positions, List.map_append] at horder
  rcases List.range'_eq_append_iff.mp horder.symm with ⟨n, _, hn, _⟩
  exact ⟨n, hn⟩

/-- In the middle of a call every message has been passed on. -/
theorem OnAir.distributed_all {es : List (RelayEvent R)}
    {d : PacketDispatcher PacketPtr R} {s : Relay W R} (h : OnAir es d s)
    (hbusy : s.phase ≠ .idle) :
    distributed (fanoutEvents es) = (airing (messages es)).map flagged ∧
      0 < (airing (messages es)).length := by
  rcases h.busy hbusy with ⟨hnone, hcalls⟩
  have horder := h.order
  rw [hnone, Option.toList_none, List.append_nil] at horder
  refine ⟨horder, List.length_pos_iff.mpr ?_⟩
  intro hair
  rw [hair] at horder
  exact hcalls horder

omit [DecidableEq R] in
theorem begun_of_range {es : List (RelayEvent R)} {lo n : Nat}
    (h : (distributed (fanoutEvents es)).map Prod.fst = List.range' lo n)
    (hpos : 0 < n) : begun es = lo + n := by
  have hlast := congrArg List.getLast? h
  rw [List.getLast?_map, List.getLast?_range', if_neg (Nat.ne_of_gt hpos)]
    at hlast
  rcases Option.map_eq_some_iff.mp hlast with ⟨p, hp, hfst⟩
  unfold begun
  rw [hp, Option.map_some, Option.getD_some, hfst]
  exact Nat.sub_add_cancel (by omega)

variable {regist : W -> Except String W}
  {h264DecSeqParameterSet : Bytes -> Bool} {metaData : Option MetaDataPtr}
  {maps : MetaDataPtr -> Option Metadata} {registry : W}
  {ingest : Ingest W R} {u : PUnit} {es : List (RelayEvent R)} {s : Relay W R}

/-- A reader is registered once. -/
theorem regist_once
    (hinit : initTracks metaData { registry := registry, maps := maps } =
      .ok u ingest)
    (h : run (Relay.step regist h264DecSeqParameterSet) (Relay.start ingest) es =
      some s)
    {r : R} {front back : List (RelayEvent R)}
    (hes : es = front ++ .fanout (.regist r) :: back) :
    .regist r ∉ fanoutEvents front := by
  intro hbefore
  rw [hes] at h
  rcases run_append.mp h with ⟨t, ht, hrest⟩
  rcases run_cons.mp hrest with ⟨t', hregist, _⟩
  rcases run_onAir hinit ht with ⟨d, hair⟩
  rcases fanout_ok hregist with ⟨_, _, _, hprepare, _⟩
  rcases prepare_regist hprepare with ⟨c, hc, hfalse⟩
  rcases hair.joined r hbefore with ⟨c', hc', htrue⟩
  cases hc.symm.trans hc'
  cases hfalse.symm.trans htrue

/-- Between its registration and the end of its muxer a reader is kept. -/
theorem keeps_of_stays
    (hinit : initTracks metaData { registry := registry, maps := maps } =
      .ok u ingest)
    (h : run (Relay.step regist h264DecSeqParameterSet) (Relay.start ingest) es =
      some s)
    {r : R} (hstays : .leave r ∉ fanoutEvents es)
    {front back : List (RelayEvent R)}
    (hes : es = front ++ .fanout (.regist r) :: back) :
    forall f, f ∈ fanoutEvents back -> Keeps r f := by
  intro f hf
  rw [mem_fanoutEvents] at hf
  constructor
  · intro hregist
    rw [hregist] at hf
    rcases List.append_of_mem hf with ⟨mid, rest, hback⟩
    have hsecond : es =
        (front ++ .fanout (.regist r) :: mid) ++ .fanout (.regist r) :: rest := by
      rw [hes, hback]
      simp
    apply regist_once hinit h hsecond
    rw [mem_fanoutEvents]
    exact List.mem_append_right _ List.mem_cons_self
  · intro hleave
    apply hstays
    rw [mem_fanoutEvents, hes, ← hleave]
    exact List.mem_append_right _ (List.mem_cons_of_mem _ hf)

omit [DecidableEq R] in
theorem fanoutEvents_split (front : List (RelayEvent R))
    (f : FanoutEvent PacketPtr R) (back : List (RelayEvent R)) :
    fanoutEvents (front ++ .fanout f :: back) =
      fanoutEvents front ++ f :: fanoutEvents back :=
  fanoutEvents_append front _

omit [DecidableEq R] in
/-- The cache at the merge and what comes later make one section. -/
theorem section_eq {before back : List (RelayEvent R)} {lo n : Nat}
    (hall : distributed (fanoutEvents before) =
      (airing (messages before)).map flagged)
    (hpos : 0 < (airing (messages before)).length)
    (hes : (distributed (fanoutEvents es)).map Prod.fst =
      (distributed (fanoutEvents before)).map Prod.fst ++
        (distributed (fanoutEvents back)).map Prod.fst)
    (hn : (distributed (fanoutEvents es)).map Prod.fst = List.range' lo n) :
    latest PacketDispatcher.kMaxPacketCacheSize
          (distributed (fanoutEvents before)) ++
        (distributed (fanoutEvents back)).map Prod.fst =
      List.range' (cacheStart (messages before))
        (begun es - cacheStart (messages before)) := by
  have hbefore : (distributed (fanoutEvents before)).map Prod.fst =
      List.range' ((messages before).length - (airing (messages before)).length)
        (airing (messages before)).length := by
    rw [hall, ← airing_positions, List.map_map]
    rfl
  have hle : (airing (messages before)).length <= (messages before).length := by
    have hlength := (List.dropWhile_suffix
      (p := fun p : RtmpPacket × PacketPtr => decide p.1.IsConfig)
      (l := (messages before).zipIdx)).length_le
    rwa [List.length_zipIdx] at hlength
  have hsince := sinceKeyFrame_le ((airing (messages before)).map flagged)
  rw [List.length_map] at hsince
  rw [hn, hbefore] at hes
  rcases List.range'_eq_append_iff.mp hes with ⟨k, hk, hfirst, hback⟩
  rcases List.range'_inj.mp hfirst with ⟨hcount, hsame⟩
  have hlo := hsame.resolve_left (Nat.ne_of_gt hpos)
  have hbegun := begun_of_range hn (by omega)
  rw [latest_range hbefore, hback, hbegun, hall]
  unfold cacheStart
  generalize hcached : min PacketDispatcher.kMaxPacketCacheSize
    (sinceKeyFrame ((airing (messages before)).map flagged)) = cached
  have hfew : cached <= (airing (messages before)).length := by
    rw [← hcached]
    exact Nat.le_trans (Nat.min_le_right _ _) hsince
  have hplace : (messages before).length - (airing (messages before)).length +
      (airing (messages before)).length = (messages before).length :=
    Nat.sub_add_cancel hle
  have hnext : lo + k * 1 = (messages before).length - cached + cached := by
    omega
  have hlength : lo + n - ((messages before).length - cached) =
      cached + (n - k) := by
    omega
  rw [hplace, hnext, hlength]
  exact List.range'_append_1

/-- While its muxer is there a reader is called with the section. -/
theorem read_viewed
    (hinit : initTracks metaData { registry := registry, maps := maps } =
      .ok u ingest)
    (h : run (Relay.step regist h264DecSeqParameterSet) (Relay.start ingest) es =
      some s)
    {r : R} (hstays : .leave r ∉ fanoutEvents es) {f : Fanout PacketPtr R}
    (hf : run Fanout.step (Fanout.start PacketDispatcher.kMaxPacketCacheSize)
      (fanoutEvents es) = some f) :
    (f.dispatcher.readers r).read = viewed r es := by
  unfold viewed
  rw [stayed_of_stays hstays]
  cases hjoining : joining r es with
  | none =>
      simp only
      rcases joining_none hjoining with habsent | ⟨before, mid, hes, hbefore, hmid⟩
      · exact (run_absent (start_absent _ r) habsent hf).read_eq
      · have hkeeps := keeps_of_stays hinit h hstays hes
        rw [hes, fanoutEvents_split] at hf
        exact (run_registered hf hbefore hkeeps hmid).read_eq
  | some front =>
      simp only
      rcases joining_some hjoining with
        ⟨before, mid, back, hes, hfront, hbefore, hmid⟩
      have hwhole : es = before ++ .fanout (.regist r) ::
          (mid ++ .fanout .mergeClients :: back) := by
        rw [hes, hfront]
        simp
      have hkeeps : forall e, e ∈ fanoutEvents mid ++ fanoutEvents back ->
          Keeps r e := by
        intro e he
        apply keeps_of_stays hinit h hstays hwhole
        rw [fanoutEvents_split]
        rcases List.mem_append.mp he with he | he
        · exact List.mem_append_left _ he
        · exact List.mem_append_right _ (List.mem_cons_of_mem _ he)
      rcases run_onAir hinit h with ⟨d, hair⟩
      rw [hes] at h
      rcases run_append.mp h with ⟨s₁, hs₁, _⟩
      rcases run_onAir hinit hs₁ with ⟨d₁, hair₁⟩
      rw [hwhole, fanoutEvents_split, fanoutEvents_split] at hf
      rcases run_joined hf hbefore hkeeps hmid with ⟨t, ht, hphase, hread⟩
      rw [← fanoutEvents_split, ← hfront] at ht
      have hcache := (run_cacheInvariant ht).packetList_eq
      rw [hphase] at hcache
      cases ht.symm.trans hair₁.fanout
      rcases hair₁.distributed_all (fun hidle => by cases hidle.symm.trans hphase)
        with ⟨hall, hpos⟩
      rcases hair.distributed_prefix with ⟨n, hn⟩
      rw [hread, hcache]
      apply section_eq hall hpos _ hn
      rw [hes, fanoutEvents_split, distributed_append, List.map_append]
      rfl

/-- What a reader is called with as long as its muxer is there. -/
theorem heard_viewed
    (hinit : initTracks metaData { registry := registry, maps := maps } =
      .ok u ingest)
    (h : run (Relay.step regist h264DecSeqParameterSet) (Relay.start ingest) es =
      some s) (r : R) : heard r es = some (viewed r es) := by
  have hstays : .leave r ∉ fanoutEvents (stayed r es) :=
    not_mem_fanoutEvents.mpr fun e he =>
      List.mem_takeWhile_imp
        (p := fun e : RelayEvent R => !e.calls (.leave r)) he
  have hagain : viewed r (stayed r es) = viewed r es := by
    unfold viewed
    rw [stayed_of_stays hstays]
  rcases List.takeWhile_prefix (l := es)
    (fun e : RelayEvent R => !e.calls (.leave r)) with ⟨rest, hes⟩
  rw [← hes] at h
  rcases run_append.mp h with ⟨t, ht, _⟩
  rcases run_onAir hinit ht with ⟨d, hair⟩
  have hread := read_viewed hinit ht hstays hair.fanout
  rw [← hagain]
  exact (congrArg (Option.map _) hair.fanout).trans (congrArg some hread)

end Runs

end Flv
end Streaming
