import Streaming.Flv.OnAir

/-!
# Joining late

A reader that joins a running stream is given the cache first, which the
dispatcher clears at each packet with the key-frame bits and otherwise cuts off
at the front when it is full.
-/

namespace Streaming
namespace Flv

open Foundation Media Rtmp RtmpMediaSource Util

/-!
## Groups of pictures
-/

section Pictures

/-- Between a picture and an inter frame that follows it as the next picture
there is no video config frame, and the packets behind the first one up to the
next with key-frame bits are fewer than the cache holds. -/
def GopsFit (msgs : List RtmpPacket) : Prop :=
  forall front pkt mid inter back,
    msgs = front ++ pkt :: (mid ++ inter :: back) ->
      pkt.CodedVideo -> (forall p, p ∈ mid -> ¬ p.CodedVideo) ->
        inter.CodedVideo -> ¬ inter.IsKeyframe ->
          (forall p, p ∈ mid -> ¬ p.IsKeyframe) ∧
            ((mid ++ inter :: back).takeWhile fun p =>
                decide (¬ p.IsKeyframe)).length <
              PacketDispatcher.kMaxPacketCacheSize

/-- The first picture among the packets is a key frame. -/
def StartsOnKeyframe (pkts : List RtmpPacket) : Prop :=
  forall pkt, pkts.find? (fun p => decide p.CodedVideo) = some pkt ->
    pkt.IsKeyframe

theorem exists_last_picture {pkts : List RtmpPacket}
    (h : exists pkt, pkt ∈ pkts ∧ pkt.CodedVideo) :
    exists front pkt mid, pkts = front ++ pkt :: mid ∧ pkt.CodedVideo ∧
      forall p, p ∈ mid -> ¬ p.CodedVideo := by
  induction pkts using List.reverseRecOn with
  | nil =>
      rcases h with ⟨pkt, hmem, _⟩
      cases hmem
  | append_singleton pkts last ih =>
      by_cases hlast : last.CodedVideo
      · exact ⟨pkts, last, [], rfl, hlast, fun p hp => by cases hp⟩
      · rcases h with ⟨pkt, hmem, hcoded⟩
        rcases List.mem_append.mp hmem with hold | hnew
        · rcases ih ⟨pkt, hold, hcoded⟩ with ⟨front, pkt', mid, hsplit, hcoded', hmid⟩
          refine ⟨front, pkt', mid ++ [last], ?_, hcoded', ?_⟩
          · rw [hsplit, List.append_assoc]
            rfl
          · intro p hp
            rcases List.mem_append.mp hp with hp | hp
            · exact hmid p hp
            · rw [List.mem_singleton.mp hp]
              exact hlast
        · rw [List.mem_singleton.mp hnew] at hcoded
          exact absurd hcoded hlast

/-- Wherever the cache begins, the first picture from there on is a key frame. -/
theorem starts_on_keyframe {lead dropped cached later rest : List RtmpPacket}
    (hfirst : StartsOnKeyframe
      (lead ++ (dropped ++ (cached ++ later) ++ rest)))
    (hgops : GopsFit (lead ++ (dropped ++ (cached ++ later) ++ rest)))
    (hlead : forall p, p ∈ lead -> ¬ p.CodedVideo)
    (hbegins : dropped = [] ∨
      (exists p ps, cached = p :: ps ∧ p.IsKeyframe) ∨
        (cached.length = PacketDispatcher.kMaxPacketCacheSize ∧
          forall p, p ∈ cached -> ¬ p.IsKeyframe)) :
    StartsOnKeyframe (cached ++ later) := by
  intro inter hfind
  apply Classical.byContradiction
  intro hkey
  rcases List.find?_eq_some_iff_append.mp hfind with
    ⟨hcoded, pre, post, hgot, hpre⟩
  have hpre' : forall p, p ∈ pre -> ¬ p.CodedVideo := by
    intro p hp
    simpa using hpre p hp
  by_cases hold : exists pkt, pkt ∈ lead ++ dropped ∧ pkt.CodedVideo
  · rcases exists_last_picture hold with ⟨front, pkt, mid, hsplit, hpkt, hmid⟩
    have hmsgs : lead ++ (dropped ++ (cached ++ later) ++ rest) =
        front ++ pkt :: ((mid ++ pre) ++ inter :: (post ++ rest)) := by
      rw [hgot]
      calc lead ++ (dropped ++ (pre ++ inter :: post) ++ rest) =
            (lead ++ dropped) ++ (pre ++ inter :: post) ++ rest := by simp
        _ = _ := by rw [hsplit]; simp
    have hbetween : forall p, p ∈ mid ++ pre -> ¬ p.CodedVideo := by
      intro p hp
      rcases List.mem_append.mp hp with hp | hp
      · exact hmid p hp
      · exact hpre' p hp
    rcases hgops front pkt (mid ++ pre) inter (post ++ rest) hmsgs hpkt hbetween
      (of_decide_eq_true hcoded) hkey with ⟨hnokey, hfew⟩
    rcases hbegins with hdropped | ⟨p, ps, hcached, hp⟩ | ⟨hfull, hnone⟩
    · rw [hdropped, List.append_nil] at hsplit
      have hmem : pkt ∈ lead := by
        rw [hsplit]
        simp
      exact hlead pkt hmem hpkt
    · rw [hcached] at hgot
      cases pre with
      | nil =>
          cases hgot
          exact hkey hp
      | cons p' pre =>
          rw [(List.cons.inj hgot).1] at hp
          exact hnokey p' (by simp) hp
    · have hrun : (mid ++ pre) ++ inter :: (post ++ rest) =
          (mid ++ cached) ++ (later ++ rest) := by
        calc (mid ++ pre) ++ inter :: (post ++ rest) =
              mid ++ (pre ++ inter :: post) ++ rest := by simp
          _ = _ := by rw [← hgot]; simp
      have hall : forall p, p ∈ mid ++ cached ->
          decide (¬ p.IsKeyframe) = true := by
        intro p hp
        apply decide_eq_true
        rcases List.mem_append.mp hp with hp | hp
        · exact hnokey p (List.mem_append_left _ hp)
        · exact hnone p hp
      rw [hrun, List.takeWhile_append_of_pos hall, List.length_append,
        List.length_append, hfull] at hfew
      omega
  · have hskip : forall p, p ∈ lead ++ (dropped ++ pre) ->
        (!decide p.CodedVideo) = true := by
      intro p hp
      rw [← List.append_assoc] at hp
      rcases List.mem_append.mp hp with hp | hp
      · simpa using fun hcoded => hold ⟨p, hp, hcoded⟩
      · exact hpre p hp
    apply hkey
    apply hfirst
    apply List.find?_eq_some_iff_append.mpr
    refine ⟨hcoded, lead ++ (dropped ++ pre), post ++ rest, ?_, hskip⟩
    rw [hgot]
    simp

end Pictures

/-!
## What a reader is given
-/

section Given

variable {W R : Type} [DecidableEq R]

/-- The messages that a reader's callback was called with. -/
def received (msgs : List RtmpPacket) (read : List PacketPtr) :
    List RtmpPacket :=
  read.filterMap fun ptr => msgs[ptr]?

theorem received_airing {msgs : List RtmpPacket}
    {ps : List (RtmpPacket × PacketPtr)}
    (h : forall p, p ∈ ps -> p ∈ airing msgs) :
    received msgs (ps.map Prod.snd) = ps.map Prod.fst := by
  induction ps with
  | nil => rfl
  | cons p ps ih =>
      have hp := airing_mem (h p List.mem_cons_self)
      have htail := ih fun q hq => h q (List.mem_cons_of_mem p hq)
      unfold received at htail ⊢
      rw [List.map_cons, List.filterMap_cons_some hp, htail, List.map_cons]

/-- The messages apart from config frames at the beginning are those that are
passed on. -/
theorem airing_split (msgs : List RtmpPacket) :
    exists lead, msgs = lead ++ (airing msgs).map Prod.fst ∧
      forall p, p ∈ lead -> p.IsConfig := by
  refine ⟨(msgs.zipIdx.takeWhile fun p => decide p.1.IsConfig).map Prod.fst,
    ?_, ?_⟩
  · rw [← List.map_append]
    unfold airing
    rw [List.takeWhile_append_dropWhile, List.zipIdx_map_fst]
  · intro p hp
    rcases List.mem_map.mp hp with ⟨q, hq, hfst⟩
    rw [← hfst]
    exact of_decide_eq_true (List.mem_takeWhile_imp
      (p := fun p : RtmpPacket × PacketPtr => decide p.1.IsConfig) hq)

/-- A reader has been given nothing, or the messages from some place on, and it
is the cache that says from which. -/
theorem OnAir.received_cases {es : List (RelayEvent R)}
    {d : PacketDispatcher PacketPtr R} {s : Relay W R} (h : OnAir es d s)
    (r : R) :
    received (messages es) (d.readers r).read = [] ∨
      exists lead dropped cached later rest,
        messages es = lead ++ (dropped ++ (cached ++ later) ++ rest) ∧
          received (messages es) (d.readers r).read = cached ++ later ∧
            (forall p, p ∈ lead -> p.IsConfig) ∧
              (dropped = [] ∨ (exists p ps, cached = p :: ps ∧ p.IsKeyframe) ∨
                (cached.length = PacketDispatcher.kMaxPacketCacheSize ∧
                  forall p, p ∈ cached -> ¬ p.IsKeyframe)) := by
  rcases h.read_cases r with hread |
    ⟨dropped, cached, later, rest, hair, hread, hbegins⟩
  · left
    rw [hread]
    rfl
  · right
    rcases airing_split (messages es) with ⟨lead, hlead, hconfig⟩
    refine ⟨lead, dropped.map Prod.fst, cached.map Prod.fst,
      later.map Prod.fst, rest.map Prod.fst, ?_, ?_, hconfig, ?_⟩
    · rw [hair] at hlead
      simpa using hlead
    · rw [hread, ← List.map_append]
      apply received_airing
      intro p hp
      rw [hair, ← List.append_assoc cached]
      exact List.mem_append_right dropped (List.mem_append_left rest hp)
    · rcases hbegins with hnone | ⟨p, ps, hfirst, hkey⟩ | ⟨hfull, hnone⟩
      · left
        rw [hnone]
        rfl
      · right
        left
        rw [hfirst]
        exact ⟨p.1, ps.map Prod.fst, rfl, hkey⟩
      · right
        right
        constructor
        · rw [List.length_map]
          exact hfull
        · intro p hp
          rcases List.mem_map.mp hp with ⟨q, hq, hfst⟩
          rw [← hfst]
          exact hnone q hq

/--
When the groups of pictures fit the cache and no config frame stands inside one,
the first picture that a reader is given is a key frame, wherever it joins.
-/
theorem late_joiner_starts_on_keyframe {regist : W -> Except String W}
    {h264DecSeqParameterSet : Bytes -> Bool} {metaData : Option MetaDataPtr}
    {maps : MetaDataPtr -> Option Metadata} {registry : W}
    {ingest : Ingest W R} {u : PUnit}
    {es : List (RelayEvent R)} {s : Relay W R}
    (hinit : initTracks metaData { registry := registry, maps := maps } =
      .ok u ingest)
    (h : run (Relay.step regist h264DecSeqParameterSet) (Relay.start ingest) es =
      some s)
    (hfirst : StartsOnKeyframe (messages es)) (hgops : GopsFit (messages es)) :
    exists d, s.ingest.source.dispatcher = some d ∧
      forall r, StartsOnKeyframe (received (messages es) (d.readers r).read) := by
  rcases run_onAir hinit h with ⟨d, hair⟩
  refine ⟨d, hair.dispatcher_eq, ?_⟩
  intro r
  rcases hair.received_cases r with hnone |
    ⟨lead, dropped, cached, later, rest, hmsgs, hgot, hlead, hbegins⟩
  · rw [hnone]
    intro pkt hfind
    cases hfind
  · rw [hgot]
    rw [hmsgs] at hfirst hgops
    exact starts_on_keyframe hfirst hgops
      (fun p hp hcoded => hcoded.2 (hlead p hp)) hbegins

end Given

/-- A reader that joins between a key frame and an inter frame. -/
def joinEvents : List (RelayEvent Nat) :=
  .message (avcConfig 0) :: aired 1 true (avcKeyframe 0) ++
    [.startMuxing 7 0 [(9, 0)], .fanout (.regist 7)] ++
      aired 2 false (avcInterframe 40)

theorem late_joiner_starts_on_keyframe_join :
    exists s : Relay Unit Nat, exists d,
      run (Relay.step (fun u => .ok u) fun _ => true) (Relay.start avIngest)
          joinEvents = some s ∧
        s.ingest.source.dispatcher = some d ∧
          forall r, StartsOnKeyframe
            (received (messages joinEvents) (d.readers r).read) := by
  have hmessages : messages joinEvents =
      [avcConfig 0, avcKeyframe 0, avcInterframe 40] := rfl
  have hfirst : StartsOnKeyframe (messages joinEvents) := by
    rw [hmessages]
    intro pkt hfind
    have hkey : [avcConfig 0, avcKeyframe 0, avcInterframe 40].find?
        (fun p => decide p.CodedVideo) = some (avcKeyframe 0) := by
      decide
    cases hkey.symm.trans hfind
    decide
  have hgops : GopsFit (messages joinEvents) := by
    rw [hmessages]
    intro front pkt mid inter back hsplit hpkt _ _ _
    have hlength := congrArg List.length hsplit
    simp only [List.length_append, List.length_cons, List.length_nil] at hlength
    have hmid : mid = [] := by
      rcases front with _ | ⟨a, front⟩
      · rw [← (List.cons.inj hsplit).1] at hpkt
        exact absurd hpkt (by decide)
      · apply List.eq_nil_of_length_eq_zero
        rw [List.length_cons] at hlength
        omega
    subst hmid
    constructor
    · intro p hp
      cases hp
    · have hle := (List.takeWhile_prefix (l := [] ++ inter :: back)
        fun p => decide (¬ p.IsKeyframe)).length_le
      simp only [List.nil_append, List.length_cons,
        PacketDispatcher.kMaxPacketCacheSize] at hle ⊢
      rw [List.length_nil] at hlength
      omega
  have hends : (run (Relay.step (fun u => .ok u) fun _ => true)
      (Relay.start avIngest) joinEvents).isSome = true := by
    decide +kernel
  rcases Option.isSome_iff_exists.mp hends with ⟨s, hrun⟩
  rcases late_joiner_starts_on_keyframe avIngest_init hrun hfirst hgops with
    ⟨d, hd, hreaders⟩
  exact ⟨s, d, hrun, hd, hreaders⟩

/-- The config frame is repeated behind the key frame, and the reader joins. -/
def repeatedConfigEvents : List (RelayEvent Nat) :=
  .message (avcConfig 0) :: aired 1 true (avcKeyframe 0) ++
    aired 2 true (avcConfig 40) ++
      [.startMuxing 7 0 [(9, 2)], .fanout (.regist 7)] ++
        aired 3 false (avcInterframe 40)

theorem late_joiner_starts_on_interframe :
    StartsOnKeyframe (messages repeatedConfigEvents) ∧
      exists s : Relay Unit Nat, exists d,
        run (Relay.step (fun u => .ok u) fun _ => true) (Relay.start avIngest)
            repeatedConfigEvents = some s ∧
          s.ingest.source.dispatcher = some d ∧
            ¬ StartsOnKeyframe
              (received (messages repeatedConfigEvents) (d.readers 7).read) := by
  have hends : (run (Relay.step (fun u => .ok u) fun _ => true)
      (Relay.start avIngest) repeatedConfigEvents).any (fun s =>
        s.ingest.source.dispatcher.any fun d =>
          (received (messages repeatedConfigEvents) (d.readers 7).read).find?
            (fun p => decide p.CodedVideo) = some (avcInterframe 40)) = true := by
    decide +kernel
  rcases (Option.any_eq_true _ _).mp hends with ⟨s, hrun, hs⟩
  rcases (Option.any_eq_true _ _).mp hs with ⟨d, hd, hfind⟩
  constructor
  · intro pkt hpkt
    have hkey : (messages repeatedConfigEvents).find?
        (fun p => decide p.CodedVideo) = some (avcKeyframe 0) := by
      decide +kernel
    cases hkey.symm.trans hpkt
    decide
  · refine ⟨s, d, hrun, hd, ?_⟩
    intro hstarts
    exact absurd (hstarts _ (of_decide_eq_true hfind)) (by decide)

end Flv
end Streaming
