import Streaming.Flv.Muxer
import Streaming.Foundation.AsyncWrite
import Streaming.Foundation.Run

/-!
# The muxer's asynchronous sends

Each `send` of the muxer starts an asynchronous write and returns.  The strings
are in buffers of the resource pool, in arrays on the stack, in the encoder's
string and in the buffers of packets.  Here the functions run one instruction at
a time, so that the writes may go on in between.

`pool_size_` of the resource pool is never set and stays 0, so that `recycle`
deletes each buffer that is given back.
-/

namespace Streaming
namespace Flv

open Foundation Media Rtmp Util

/-!
## The muxer's instructions
-/

/-- The local variables whose storage is written from. -/
inductive Local where
  | header
  | firstTagSize
  | encoder
  | tagHeader
  | sizeArr
  deriving DecidableEq, Repr

/-- Where storage is: a packet's buffer, or a place for a local variable. -/
inductive Place where
  | packet (n : Nat)
  | buffer (n : Nat)
  deriving DecidableEq, Repr

/-- What a string that is sent is taken from. -/
inductive Source where
  | ofLocal (x : Local)
  | packet (n : Nat)
  deriving DecidableEq, Repr

inductive Instr where
  /-- Obtain or declare a local variable and fill it. -/
  | alloc (x : Local) (bytes : Bytes)
  | send (source : Source) (size : Nat)
  /-- The variable goes out of scope. -/
  | free (x : Local)
  /-- The caller needs the packet no longer. -/
  | release (n : Nat)
  deriving DecidableEq, Repr

/-- `write_flv`, which throws at once when there is nothing to write. -/
def writeFlvCode (t : Nat) (source : Source) (size timeStamp : Nat) :
    List Instr :=
  if size = 0 then []
  else
    [.alloc .tagHeader (prepareFlvTagHeader t size timeStamp),
      .send (.ofLocal .tagHeader) flvTagHeaderSize,
      .send source size,
      .alloc .sizeArr (setBe32 (flvTagHeaderSize + size)),
      .send (.ofLocal .sizeArr) 4,
      .free .sizeArr,
      .free .tagHeader]

/-- A packet as the muxer is given it. -/
structure PacketRef where
  packet : Nat
  msgTypeId : Nat
  timeStamp : Nat
  size : Nat
  deriving DecidableEq, Repr

/-- The read callback: `write_flv` for a packet that the dispatcher holds. -/
def readCbCode (pkt : PacketRef) : List Instr :=
  writeFlvCode pkt.msgTypeId (.packet pkt.packet) pkt.size pkt.timeStamp ++
    [.release pkt.packet]

/-- The loop over the config frames, which an empty one would end. -/
def configCode (configs : List PacketRef) : List Instr :=
  (configs.takeWhile fun pkt => pkt.size ≠ 0).flatMap (fun pkt =>
      writeFlvCode pkt.msgTypeId (.packet pkt.packet) pkt.size pkt.timeStamp) ++
    configs.map fun pkt => .release pkt.packet

def startMuxingCode (metadata : Metadata) (configs : List PacketRef) :
    List Instr :=
  [.alloc .header prepareFlvHeader,
    .send (.ofLocal .header) prepareFlvHeader.length,
    .alloc .firstTagSize [0, 0, 0, 0],
    .send (.ofLocal .firstTagSize) 4,
    .alloc .encoder (encodeMetadata metadata)] ++
    writeFlvCode scriptData (.ofLocal .encoder) (encodeMetadata metadata).length
      0 ++
    configCode configs ++ [.free .encoder, .free .firstTagSize, .free .header]

/-!
## The machine
-/

structure Muxing where
  stream : AsyncStream Place UInt8 := {}
  /-- The places of the local variables. -/
  frame : Local -> Nat := fun _ => 0
  /-- What is left of the call that is being made. -/
  code : List Instr := []

inductive MuxingEvent where
  /-- A packet comes into being with its payload. -/
  | arrive (n : Nat) (payload : Bytes)
  /-- The last pointer to a packet goes away. -/
  | drop (n : Nat)
  | startMuxing (metadata : Metadata) (configs : List PacketRef)
  | readCb (pkt : PacketRef)
  /-- The next instruction, which may take a place for a local variable. -/
  | exec (n : Nat)
  /-- Freed storage is used for something else. -/
  | scribble (place : Place) (bytes : Bytes)
  | progress (i n : Nat)
  | complete (i : Nat)
  /-- A write fails, or the session is shut down. -/
  | close

namespace Muxing

def place (s : Muxing) : Source -> Place
  | .ofLocal x => .buffer (s.frame x)
  | .packet n => .packet n

/-- Begin a call with packets that are alive and have the sizes given. -/
def call (s : Muxing) (pkts : List PacketRef) (code : List Instr) :
    Option Muxing :=
  if s.code = [] ∧ forall pkt, pkt ∈ pkts ->
      (s.stream.block (.packet pkt.packet)).isSome ∧
        (s.stream.memory (.packet pkt.packet)).length = pkt.size then
    some { s with code := code }
  else
    none

def exec (s : Muxing) (n : Nat) : Option Muxing :=
  match s.code with
  | [] => none
  | .alloc x bytes :: code =>
      (s.stream.alloc (.buffer n) bytes).map fun stream =>
        { stream := stream, frame := Function.update s.frame x n, code := code }
  | .send source size :: code =>
      (s.stream.startWrite (s.place source) size).map fun stream =>
        { s with stream := stream, code := code }
  | .free x :: code =>
      some { s with stream := s.stream.free (.buffer (s.frame x)), code := code }
  | .release _ :: code => some { s with code := code }

def step (s : Muxing) : MuxingEvent -> Option Muxing
  | .arrive n payload =>
      (s.stream.alloc (.packet n) payload).map fun stream =>
        { s with stream := stream }
  | .drop n =>
      if .release n ∈ s.code then none
      else some { s with stream := s.stream.free (.packet n) }
  | .startMuxing metadata configs =>
      s.call configs (startMuxingCode metadata configs)
  | .readCb pkt => s.call [pkt] (readCbCode pkt)
  | .exec n => s.exec n
  | .scribble place bytes =>
      (s.stream.scribble place bytes).map fun stream => { s with stream := stream }
  | .progress i n =>
      (s.stream.progress i n).map fun stream => { s with stream := stream }
  | .complete i =>
      (s.stream.complete i).map fun stream => { s with stream := stream }
  | .close => some { s with stream := s.stream.close }


/-!
## One write at a time
-/

/-- Whether an instruction starts a write or gives storage up. -/
def touchesStorage : Instr -> Bool
  | .send _ _ => true
  | .free _ => true
  | _ => false

/-- The muxer goes on to such an instruction only when the write that it started
last is complete. -/
def Sequential (s : Muxing) : MuxingEvent -> Prop
  | .exec _ => forall instr code, s.code = instr :: code ->
      touchesStorage instr = true -> s.stream.outstanding = []
  | _ => True

/-- How the code of a call treats the storage that was sent last. -/
def Disciplined : Option Source -> List Instr -> Prop
  | last, [] => last = none
  | last, .alloc x _ :: code =>
      last ≠ some (.ofLocal x) ∧ Disciplined last code
  | _, .send source _ :: code =>
      (forall n, source = .packet n -> .release n ∈ code) ∧
        Disciplined (some source) code
  | last, .free x :: code =>
      (last = some (.ofLocal x) ∨ last = none) ∧ Disciplined none code
  | last, .release n :: code =>
      last ≠ some (.packet n) ∧ Disciplined last code

theorem writeFlvCode_disciplined {t size timeStamp : Nat} {rest : List Instr}
    (source : Source) (last : Option Source)
    (hlast : last ≠ some (.ofLocal .tagHeader))
    (hsource : source ≠ .ofLocal .sizeArr)
    (hheld : forall n, source = .packet n -> .release n ∈ rest)
    (hsize : size ≠ 0) (hrest : Disciplined none rest) :
    Disciplined last (writeFlvCode t source size timeStamp ++ rest) := by
  unfold writeFlvCode
  rw [if_neg hsize]
  refine ⟨hlast, nofun, ?_, ?_, nofun, Or.inl rfl, Or.inr rfl, hrest⟩
  · intro n hn
    simp [hheld n hn]
  · intro heq
    exact hsource (Option.some.inj heq)

theorem release_disciplined (pkts : List PacketRef) {rest : List Instr}
    (hrest : Disciplined none rest) :
    Disciplined none ((pkts.map fun pkt => .release pkt.packet) ++ rest) := by
  induction pkts with
  | nil => exact hrest
  | cons pkt pkts ih => exact ⟨nofun, ih⟩

theorem readCbCode_disciplined (pkt : PacketRef) :
    Disciplined none (readCbCode pkt) := by
  have hrelease : Disciplined none [.release pkt.packet] :=
    ⟨nofun, rfl⟩
  by_cases hsize : pkt.size = 0
  · unfold readCbCode writeFlvCode
    rw [if_pos hsize]
    exact hrelease
  · apply writeFlvCode_disciplined (.packet pkt.packet) none nofun nofun _
      hsize hrelease
    intro n hn
    cases hn
    exact List.mem_singleton.mpr rfl

theorem configCode_disciplined (configs : List PacketRef) {rest : List Instr}
    (hrest : Disciplined none rest) :
    Disciplined none (configCode configs ++ rest) := by
  have hloop : forall pkts : List PacketRef, pkts ⊆ configs ->
      (forall pkt, pkt ∈ pkts -> pkt.size ≠ 0) ->
        Disciplined none ((pkts.flatMap fun pkt => writeFlvCode pkt.msgTypeId
          (.packet pkt.packet) pkt.size pkt.timeStamp) ++
            ((configs.map fun pkt => .release pkt.packet) ++ rest)) := by
    intro pkts
    induction pkts with
    | nil =>
        intro _ _
        exact release_disciplined configs hrest
    | cons pkt pkts ih =>
        intro hsub hsize
        rw [List.flatMap_cons, List.append_assoc]
        apply writeFlvCode_disciplined (.packet pkt.packet) none nofun nofun _
          (hsize pkt List.mem_cons_self)
        · exact ih (fun other hother => hsub (List.mem_cons_of_mem pkt hother))
            fun other hother => hsize other (List.mem_cons_of_mem pkt hother)
        · intro n hn
          cases hn
          simp only [List.mem_append, List.mem_map]
          exact Or.inr (Or.inl ⟨pkt, hsub List.mem_cons_self, rfl⟩)
  unfold configCode
  rw [List.append_assoc]
  apply hloop
  · exact List.takeWhile_subset _
  · intro pkt hpkt
    simpa using List.mem_takeWhile_imp hpkt

theorem startMuxingCode_disciplined (metadata : Metadata)
    (configs : List PacketRef) :
    Disciplined none (startMuxingCode metadata configs) := by
  have hend : Disciplined none [.free .encoder, .free .firstTagSize,
      .free .header] :=
    ⟨Or.inr rfl, Or.inr rfl, Or.inr rfl, rfl⟩
  have hsize : (encodeMetadata metadata).length ≠ 0 :=
    fun h => AmfEncoder.writeMetadata_ne_nil _ metadata
      (List.eq_nil_of_length_eq_zero h)
  unfold startMuxingCode
  rw [List.append_assoc, List.append_assoc]
  refine ⟨nofun, nofun, nofun, nofun, nofun, ?_⟩
  exact writeFlvCode_disciplined (.ofLocal .encoder) _ nofun nofun nofun hsize
    (configCode_disciplined configs hend)

/-!
## Following the writes
-/

/-- The write that is outstanding, if there is one, reads what was sent last. -/
structure Tracked (s : Muxing) (last : Option Source) : Prop where
  disciplined : Disciplined last s.code
  writes : forall w, w ∈ s.stream.outstanding ->
    exists source, last = some source ∧ w.address = s.place source
  held : forall n, last = some (.packet n) -> .release n ∈ s.code

/-- A change that starts no write and leaves the code alone. -/
theorem Tracked.frame {s : Muxing} {last : Option Source} (h : Tracked s last)
    {stream : AsyncStream Place UInt8}
    (hwrites : forall w, w ∈ stream.outstanding ->
      exists w', w' ∈ s.stream.outstanding ∧ w'.address = w.address) :
    Tracked { s with stream := stream } last := by
  refine ⟨h.disciplined, ?_, h.held⟩
  intro w hw
  rcases hwrites w hw with ⟨w', hw', haddress⟩
  rcases h.writes w' hw' with ⟨source, hlast, hplace⟩
  exact ⟨source, hlast, haddress.symm.trans hplace⟩

structure Invariant (s : Muxing) : Prop where
  sound : s.stream.Sound
  tracked : exists last, Tracked s last

theorem start_invariant : ({} : Muxing).Invariant :=
  ⟨AsyncStream.start_sound, none, rfl, nofun, nofun⟩

theorem call_invariant {s s' : Muxing} {pkts : List PacketRef}
    {code : List Instr} (hs : s.Invariant) (hcode : Disciplined none code)
    (h : s.call pkts code = some s') : s'.Invariant := by
  unfold call at h
  split at h
  · rename_i hcall
    cases h
    rcases hs.tracked with ⟨last, hdisciplined, hwrites, _⟩
    rw [hcall.1] at hdisciplined
    cases hdisciplined
    refine ⟨hs.sound, none, hcode, ?_, nofun⟩
    intro w hw
    rcases hwrites w hw with ⟨source, hlast, _⟩
    cases hlast
  · cases h

theorem exec_invariant {s s' : Muxing} {n : Nat} (hs : s.Invariant)
    (hguard : s.Sequential (.exec n)) (h : s.exec n = some s') :
    s'.Invariant := by
  rcases hs with ⟨hsound, last, hdisciplined, hwrites, hheld⟩
  unfold exec at h
  split at h
  · cases h
  · rename_i x bytes code hcode
    rcases Option.map_eq_some_iff.mp h with ⟨stream, halloc, hs'⟩
    subst hs'
    rw [hcode] at hdisciplined hheld
    refine ⟨AsyncStream.alloc_sound hsound halloc, last, hdisciplined.2, ?_, ?_⟩
    · intro w hw
      change w ∈ stream.outstanding at hw
      rw [AsyncStream.alloc_outstanding halloc] at hw
      rcases hwrites w hw with ⟨source, hlast, haddress⟩
      refine ⟨source, hlast, haddress.trans ?_⟩
      cases source with
      | packet m => rfl
      | ofLocal y =>
          have hne : y ≠ x := by
            intro heq
            rw [hlast, heq] at hdisciplined
            exact hdisciplined.1 rfl
          exact congrArg Place.buffer (Function.update_of_ne hne _ _).symm
    · intro m hm
      rcases List.mem_cons.mp (hheld m hm) with heq | hmem
      · cases heq
      · exact hmem
  · rename_i source size code hcode
    have hidle := hguard _ _ hcode rfl
    rcases Option.map_eq_some_iff.mp h with ⟨stream, hstart, hs'⟩
    subst hs'
    rw [hcode] at hdisciplined
    refine ⟨AsyncStream.startWrite_sound hsound hidle hstart, some source,
      hdisciplined.2, ?_, ?_⟩
    · intro w hw
      change w ∈ stream.outstanding at hw
      rcases AsyncStream.startWrite_outstanding hstart with
        ⟨_, hnone⟩ | ⟨block, hone⟩
      · rw [hnone, hidle] at hw
        cases hw
      · rw [hone, hidle, List.nil_append, List.mem_singleton] at hw
        rw [hw]
        exact ⟨source, rfl, rfl⟩
    · intro m hm
      exact hdisciplined.1 m (Option.some.inj hm)
  · rename_i x code hcode
    have hidle := hguard _ _ hcode rfl
    cases h
    rw [hcode] at hdisciplined
    refine ⟨AsyncStream.free_sound hsound ?_, none, hdisciplined.2, ?_, nofun⟩
    · rw [hidle]
      intro w hw
      cases hw
    · intro w hw
      change w ∈ s.stream.outstanding at hw
      rw [hidle] at hw
      cases hw
  · rename_i m code hcode
    cases h
    rw [hcode] at hdisciplined hheld
    refine ⟨hsound, last, hdisciplined.2, hwrites, ?_⟩
    intro k hk
    have hne : k ≠ m := by
      intro heq
      rw [hk, heq] at hdisciplined
      exact hdisciplined.1 rfl
    apply List.mem_of_ne_of_mem _ (hheld k hk)
    intro heq
    exact hne (Instr.release.inj heq)

theorem step_invariant {s s' : Muxing} {e : MuxingEvent} (hs : s.Invariant)
    (hguard : s.Sequential e) (h : s.step e = some s') : s'.Invariant := by
  rcases hs.tracked with ⟨last, htracked⟩
  cases e with
  | arrive n payload =>
      rcases Option.map_eq_some_iff.mp h with ⟨stream, halloc, hs'⟩
      subst hs'
      refine ⟨AsyncStream.alloc_sound hs.sound halloc, last, htracked.frame ?_⟩
      rw [AsyncStream.alloc_outstanding halloc]
      exact fun w hw => ⟨w, hw, rfl⟩
  | drop n =>
      simp only [step] at h
      split at h
      · cases h
      · rename_i hheld
        cases h
        refine ⟨AsyncStream.free_sound hs.sound ?_, last,
          htracked.frame fun w hw => ⟨w, hw, rfl⟩⟩
        intro w hw haddress
        rcases htracked.writes w hw with ⟨source, hlast, hplace⟩
        cases source with
        | ofLocal x => cases hplace.symm.trans haddress
        | packet m =>
            cases hplace.symm.trans haddress
            exact hheld (htracked.held n hlast)
  | startMuxing metadata configs =>
      exact call_invariant hs (startMuxingCode_disciplined metadata configs) h
  | readCb pkt => exact call_invariant hs (readCbCode_disciplined pkt) h
  | exec n => exact exec_invariant hs hguard h
  | scribble place bytes =>
      rcases Option.map_eq_some_iff.mp h with ⟨stream, hscribble, hs'⟩
      subst hs'
      refine ⟨AsyncStream.scribble_sound hs.sound hscribble, last,
        htracked.frame ?_⟩
      rw [AsyncStream.scribble_outstanding hscribble]
      exact fun w hw => ⟨w, hw, rfl⟩
  | progress i n =>
      rcases Option.map_eq_some_iff.mp h with ⟨stream, hprogress, hs'⟩
      subst hs'
      exact ⟨AsyncStream.progress_sound hs.sound hprogress, last,
        htracked.frame fun w hw => AsyncStream.progress_address hprogress hw⟩
  | complete i =>
      rcases Option.map_eq_some_iff.mp h with ⟨stream, hcomplete, hs'⟩
      subst hs'
      exact ⟨AsyncStream.complete_sound hs.sound hcomplete, last,
        htracked.frame fun w hw =>
          ⟨w, AsyncStream.complete_subset hcomplete hw, rfl⟩⟩
  | close =>
      cases h
      exact ⟨AsyncStream.close_sound hs.sound, last, htracked.frame nofun⟩

/-- A step that fails the condition leaves two writes outstanding, or one whose
storage is gone. -/
theorem sequential_of_safe {s s' : Muxing} {e : MuxingEvent}
    (hs : s.Invariant) (h : s.step e = some s') (hsafe : s'.stream.Safe) :
    s.Sequential e := by
  cases e with
  | exec n =>
      intro instr code hcode htouches
      rcases hs with ⟨hsound, last, hdisciplined, hwrites, _⟩
      rw [hcode] at hdisciplined
      change s.exec n = some s' at h
      unfold exec at h
      rw [hcode] at h
      cases instr with
      | alloc x bytes => cases htouches
      | release m => cases htouches
      | send source size =>
          rcases Option.map_eq_some_iff.mp h with ⟨stream, hstart, hs'⟩
          subst hs'
          rcases AsyncStream.startWrite_outstanding hstart with
            ⟨hclosed, _⟩ | ⟨block, hone⟩
          · exact (hsound.closed hclosed).1
          · have hlength := hsafe.one
            change stream.outstanding.length <= 1 at hlength
            rw [hone, List.length_append] at hlength
            exact List.eq_nil_of_length_eq_zero
              (Nat.le_zero.mp (Nat.le_of_succ_le_succ hlength))
      | free x =>
          cases h
          cases hwrite : s.stream.outstanding with
          | nil => rfl
          | cons w ws =>
              have hw : w ∈ s.stream.outstanding := by
                rw [hwrite]
                exact List.mem_cons_self
              rcases hwrites w hw with ⟨source, hlast, haddress⟩
              have hsource : source = .ofLocal x := by
                rcases hdisciplined.1 with hlocal | hnone
                · exact Option.some.inj (hlast.symm.trans hlocal)
                · cases hlast.symm.trans hnone
              rw [hsource] at haddress
              have hgone := hsafe.storage w hw
              change Function.update s.stream.block (.buffer (s.frame x)) none
                w.address = some w.block at hgone
              rw [haddress] at hgone
              cases (Function.update_self _ _ _).symm.trans hgone
  | _ => trivial

/--
The stream is safe in every state of a run exactly when the muxer waits for its
writes in every step: each send, and each end of the life of a local variable,
comes after the write that was started last is complete.
-/
theorem stream_safe_iff_sequential {es : List MuxingEvent} {s : Muxing}
    (h : run step {} es = some s) :
    (forall front back t, es = front ++ back -> run step {} front = some t ->
        t.stream.Safe) <->
      Meets Sequential step {} es := by
  constructor
  · exact meets_of_good step_invariant sequential_of_safe start_invariant h
  · intro hmeets front back t hes hfront
    rw [hes] at hmeets
    exact (run_keeps_of_meets _ step_invariant start_invariant hmeets.front
      hfront).sound.safe

/-- A packet whose last string is sent when the first two have gone out. -/
def waitingRun : List MuxingEvent :=
  [.arrive 0 [23, 1], .readCb ⟨0, 9, 40, 2⟩, .exec 0, .exec 0,
    .progress 0 4, .progress 0 7, .complete 0, .exec 0,
    .progress 0 2, .complete 0, .exec 1, .exec 0, .progress 0 4]

theorem stream_safe_iff_sequential_waiting :
    exists s, run step {} waitingRun = some s ∧
      ((forall front back t, waitingRun = front ++ back ->
          run step {} front = some t -> t.stream.Safe) <->
        Meets Sequential step {} waitingRun) :=
  ⟨_, rfl, stream_safe_iff_sequential rfl⟩

/-- The same packet when nothing goes out before the call returns.  The buffer
of the tag header is deleted and used for something else. -/
def hurriedRun : List MuxingEvent :=
  [.arrive 0 [23, 1], .readCb ⟨0, 9, 40, 2⟩, .exec 0, .exec 0, .exec 0, .exec 1,
    .exec 0, .exec 0, .exec 0, .exec 0,
    .scribble (.buffer 0) (List.replicate flvTagHeaderSize 255),
    .progress 0 flvTagHeaderSize]

theorem stream_unsafe_after_one_tag :
    exists s, run step {} hurriedRun = some s ∧ s.code = [] ∧
      1 < s.stream.outstanding.length ∧
      (exists w, w ∈ s.stream.outstanding ∧
        s.stream.block w.address ≠ some w.block) ∧
      ¬ s.stream.wire <+: s.stream.sent := by
  refine ⟨_, rfl, rfl, ?_, ⟨_, List.mem_cons_self, ?_⟩, ?_⟩
  · decide
  · decide
  · decide

end Muxing

end Flv
end Streaming
