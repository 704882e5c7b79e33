import Streaming.Http.Framing

/-!
# HTTP sessions

A session parses once for each read.  A parse dispatches one request at most,
and gives the connection up when it finds fewer than four bytes.
-/

namespace Streaming
namespace Http

open Foundation Media Network Util

/-- A session with what it works on outside and what it has done. -/
structure HttpSession (σ : Type) where
  side : σ
  buffer : FlatBuffer := FlatBuffer.create kMaxBufferCacheSize
  isOpen : Bool := true
  /-- A response is being written behind which the connection is closed. -/
  closing : Bool := false
  requests : List Bytes := []
  responses : List Bytes := []
  /-- The search has left the memory of the buffer; anything may happen. -/
  overrun : Bool := false

/-- A read, and whether the writes begun before have ended by then. -/
structure Read where
  bytes : Bytes
  written : Bool

/-- `on_search_http_handler` with its side effects: what it sends, and whether
it wants the connection closed behind that. -/
abbrev Handler (σ : Type) := Bytes -> σ -> σ × List Bytes × Bool

section Sessions

variable {σ : Type} (handler : Handler σ)

namespace HttpSession

def onRecv (s : HttpSession σ) : HttpSession σ :=
  match onParseHttp s.buffer with
  | .thrown _ => { s with isOpen := false }
  | .incomplete => s
  | .overrun => { s with overrun := true }
  | .dispatched header buffer =>
      let (side, sent, isClose) := handler header s.side
      { s with
        side := side
        buffer := buffer
        closing := s.closing || isClose
        requests := s.requests ++ [header]
        responses := s.responses ++ sent }

/-- One read, from `do_read` to the end of `on_recv`.  A full buffer throws out
of `do_read`. -/
def onRead (s : HttpSession σ) (r : Read) : Option (HttpSession σ) :=
  if !s.isOpen || s.overrun then some s
  else if s.closing && r.written then some { s with isOpen := false }
  else
    (bufferStep s.buffer (.read r.bytes)).map fun buffer =>
      onRecv handler { s with buffer := buffer }

def onReads (s : HttpSession σ) : List Read -> Option (HttpSession σ)
  | [] => some s
  | r :: reads => (s.onRead handler r).bind fun s => s.onReads reads

/-- The requests dispatched, the responses sent, and whether the connection is
closed or about to be.  An overrun is an outcome of its own. -/
def outcome (s : HttpSession σ) : List Bytes × List Bytes × Bool × Bool :=
  (s.requests, s.responses, !s.isOpen || s.closing, s.overrun)

end HttpSession

/-!
## Ways of cutting
-/

/-- The bytes up to the first empty line. -/
structure Request where
  bytes : Bytes
  complete : findFrom bytes kHttpPacketTail 0 = some (bytes.length - 4)

def stream (requests : List Request) : Bytes :=
  requests.flatMap Request.bytes

/-- The reads bring the bytes, in pieces that the session can take. -/
structure Cuts (bytes : Bytes) (reads : List Read) : Prop where
  flatten_eq : (reads.map Read.bytes).flatten = bytes
  piece : forall r, r ∈ reads ->
    r.bytes ≠ [] ∧ r.bytes.length <= kSocketReadSize

/-- Whatever way the bytes of the requests are cut, the outcome is the same. -/
def CutIndependent (side : σ) (requests : List Request) : Prop :=
  forall reads reads', Cuts (stream requests) reads ->
    Cuts (stream requests) reads' ->
      (HttpSession.onReads handler { side := side } reads).map
          HttpSession.outcome =
        (HttpSession.onReads handler { side := side } reads').map
          HttpSession.outcome

theorem Request.four_le (r : Request) : 4 <= r.bytes.length := by
  have hfits := findFrom_fits r.complete
  rw [show kHttpPacketTail.length = 4 from rfl] at hfits
  omega

def single (c : UInt8) : Read := ⟨[c], false⟩

theorem singles_flatten (bytes : Bytes) :
    ((bytes.map single).map Read.bytes).flatten = bytes := by
  induction bytes with
  | nil => rfl
  | cons c bytes ih =>
      simp only [List.map_cons, List.flatten_cons, ih, single]
      rfl

theorem single_piece {bytes : Bytes} {r : Read} (h : r ∈ bytes.map single) :
    r.bytes ≠ [] ∧ r.bytes.length <= kSocketReadSize := by
  rcases List.mem_map.mp h with ⟨c, _, hr⟩
  rw [← hr]
  refine ⟨List.cons_ne_nil _ _, ?_⟩
  rw [single, List.length_singleton]
  decide

theorem cuts_single (bytes : Bytes) : Cuts bytes (bytes.map single) :=
  ⟨singles_flatten bytes, fun _ h => single_piece h⟩

/-- Four bytes at first and then one by one. -/
def fourFirst (bytes : Bytes) : List Read :=
  ⟨bytes.take 4, false⟩ :: (bytes.drop 4).map single

theorem cuts_fourFirst {bytes : Bytes} (h : 4 <= bytes.length) :
    Cuts bytes (fourFirst bytes) := by
  constructor
  · simp only [fourFirst, List.map_cons, List.flatten_cons, singles_flatten]
    exact List.take_append_drop 4 bytes
  · intro r hr
    rcases List.mem_cons.mp hr with hfirst | hrest
    · rw [hfirst]
      have hlength : (bytes.take 4).length = 4 := by
        rw [List.length_take]
        omega
      constructor
      · exact List.ne_nil_of_length_pos (by rw [hlength]; decide)
      · rw [hlength]
        decide
    · exact single_piece hrest

/-!
## The two ways
-/

namespace HttpSession

/-- A closed connection stays as it is. -/
theorem onReads_closed {s : HttpSession σ} (h : s.isOpen = false)
    (reads : List Read) : s.onReads handler reads = some s := by
  induction reads with
  | nil => rfl
  | cons r reads ih =>
      have hread : s.onRead handler r = some s := by
        unfold onRead
        rw [h]
        rfl
      rw [onReads, hread]
      exact ih

/-- One byte is too few for the parser. -/
theorem onReads_short (side : σ) (c : UInt8) (reads : List Read) :
    (onReads handler { side := side } (single c :: reads)).map outcome =
      some ([], [], true, false) := by
  have hread : exists s, onRead handler { side := side } (single c) = some s ∧
      s.isOpen = false ∧ s.outcome = ([], [], true, false) :=
    ⟨_, rfl, rfl, rfl⟩
  rcases hread with ⟨s, hread, hclosed, houtcome⟩
  rw [onReads, hread, Option.bind_some, onReads_closed handler hclosed,
    Option.map_some, houtcome]

/-- The connection is open and its buffer holds enough for the parser, or a
request has been dispatched, or the search has gone astray. -/
def Alive (s : HttpSession σ) : Prop :=
  s.requests ≠ [] ∨ s.overrun = true ∨
    (s.isOpen = true ∧ s.closing = false ∧ s.buffer.Valid ∧
      4 <= s.buffer.unreadLength)

theorem onRecv_alive {s : HttpSession σ} (hopen : s.isOpen = true)
    (hclosing : s.closing = false) (hvalid : s.buffer.Valid)
    (hfour : 4 <= s.buffer.unreadLength) : (s.onRecv handler).Alive := by
  unfold onRecv
  split
  · rename_i what hthrown
    unfold onParseHttp at hthrown
    rw [if_neg (Nat.not_lt.mpr hfour)] at hthrown
    split at hthrown <;> cases hthrown
  · exact Or.inr (Or.inr ⟨hopen, hclosing, hvalid, hfour⟩)
  · exact Or.inr (Or.inl rfl)
  · left
    simp

theorem onRead_alive {s s' : HttpSession σ} {r : Read} (hs : s.Alive)
    (h : s.onRead handler r = some s') : s'.Alive := by
  unfold onRead at h
  split at h
  · cases h
    exact hs
  · rename_i hrunning
    split at h
    · rename_i hclosing
      cases h
      rcases hs with hrequests | hoverrun | ⟨_, hnot, _⟩
      · exact Or.inl hrequests
      · exact Or.inr (Or.inl hoverrun)
      · rw [hnot] at hclosing
        cases hclosing
    · rcases Option.map_eq_some_iff.mp h with ⟨buffer, hread, hs'⟩
      subst hs'
      rcases hs with hrequests | hoverrun | ⟨hopen, hclosing, hvalid, hfour⟩
      · left
        unfold onRecv
        split
        · exact hrequests
        · exact hrequests
        · exact hrequests
        · simp
      · rw [hoverrun, Bool.or_true] at hrunning
        exact absurd rfl hrunning
      · rcases read_spec hvalid hread with ⟨hvalid', hunread⟩
        have hlength := congrArg List.length hunread
        rw [hvalid'.unread_length, List.length_append, hvalid.unread_length]
          at hlength
        exact onRecv_alive handler (s := { s with buffer := buffer }) hopen
          hclosing hvalid' (by show 4 <= buffer.unreadLength; omega)

theorem onReads_alive {s s' : HttpSession σ} {reads : List Read} (hs : s.Alive)
    (h : s.onReads handler reads = some s') : s'.Alive := by
  induction reads generalizing s with
  | nil =>
      cases h
      exact hs
  | cons r reads ih =>
      rcases Option.bind_eq_some_iff.mp h with ⟨t, hread, hrest⟩
      exact ih (onRead_alive handler hs hread) hrest

theorem onRead_first {side : σ} {r : Read} {s : HttpSession σ}
    (hfour : 4 <= r.bytes.length)
    (h : onRead handler { side := side } r = some s) : s.Alive := by
  have hstart : (FlatBuffer.create kMaxBufferCacheSize).Valid :=
    FlatBuffer.create_valid _
  rcases Option.map_eq_some_iff.mp h with ⟨buffer, hread, hs⟩
  subst hs
  rcases read_spec hstart hread with ⟨hvalid, hunread⟩
  have hlength : 4 <= buffer.unreadLength := by
    rw [← hvalid.unread_length, hunread, FlatBuffer.create_unread,
      List.nil_append]
    exact hfour
  exact onRecv_alive handler (s := { side := side, buffer := buffer }) rfl rfl
    hvalid hlength

end HttpSession

/-!
## One request a read
-/

/-- Nothing is left in the buffer, and there is room for a read. -/
structure HttpSession.Ready (s : HttpSession σ) : Prop where
  isOpen_eq : s.isOpen = true
  overrun_eq : s.overrun = false
  valid : s.buffer.Valid
  unread_eq : s.buffer.unread = []
  room : kSocketReadSize <= s.buffer.capacity

theorem read_capacity {buf buf' : FlatBuffer} {bytes : Bytes}
    (h : bufferStep buf (.read bytes) = some buf') :
    buf.capacity <= buf'.capacity := by
  simp only [bufferStep] at h
  split at h
  · cases h
  · rename_i n roomy hroom
    split at h
    · split at h
      · cases h
      · rename_i consumed hconsume
        cases h
        have hkept : buf.capacity <= roomy.capacity := by
          simp only [FlatBuffer.socketReadLength] at hroom
          split at hroom
          · cases hroom
            exact Nat.le_refl _
          · split at hroom
            · cases hroom
              exact Nat.le_refl _
            · split at hroom
              · cases hroom
              · cases hroom
                unfold FlatBuffer.grow
                split
                · simp only [Nat.shiftLeft_eq, FlatBuffer.moveUnreadToBegin]
                  omega
                · exact Nat.le_refl _
        unfold FlatBuffer.socketConsume at hconsume
        split at hconsume
        · cases hconsume
        · cases hconsume
          exact hkept
    · cases h

theorem exists_read {buf : FlatBuffer} (hbuf : buf.Valid)
    (hunread : buf.unread = []) (hroom : kSocketReadSize <= buf.capacity)
    {bytes : Bytes} (hlength : bytes.length <= kSocketReadSize) :
    exists buf', bufferStep buf (.read bytes) = some buf' := by
  have hnone : buf.unreadLength = 0 := by
    rw [← hbuf.unread_length, hunread]
    rfl
  have hfits : buf.RoomFor kSocketReadSize := by
    right
    left
    simp only [FlatBuffer.writableBytes, FlatBuffer.moveUnreadToBegin, hnone]
    exact hroom
  rcases FlatBuffer.socketReadLength_ok hfits with ⟨roomy, hroomy⟩
  rcases FlatBuffer.socketReadLength_spec hbuf hroomy with ⟨_, _, _, hwritable⟩
  have hconsume : ¬ bytes.length > (roomy.fill bytes).writableBytes :=
    Nat.not_lt.mpr (Nat.le_trans hlength hwritable)
  simp only [bufferStep, hroomy, if_pos hlength, FlatBuffer.socketConsume,
    if_neg hconsume]
  exact ⟨_, rfl⟩

theorem onParseHttp_request {buf : FlatBuffer} (hbuf : buf.Valid)
    (r : Request) (hunread : buf.unread = r.bytes) (hzero : 0 ∉ r.bytes) :
    onParseHttp buf = .dispatched r.bytes (buf.safeConsume r.bytes.length) := by
  have hfour := r.four_le
  have hlength : buf.unreadLength = r.bytes.length := by
    rw [← hbuf.unread_length, hunread]
  have hdata : buf.data = r.bytes ++ buf.data.drop buf.unreadLength := by
    rw [← hunread]
    exact (List.take_append_drop buf.unreadLength buf.data).symm
  have hend : r.bytes.length - 4 + 4 = r.bytes.length :=
    Nat.sub_add_cancel hfour
  have hfound : strstr (r.bytes ++ buf.data.drop buf.unreadLength)
      kHttpPacketTail = .found (r.bytes.length - 4) :=
    strstr_found r.complete (by rw [hend, List.take_length]; exact hzero)
  rw [← hdata] at hfound
  unfold onParseHttp
  rw [if_neg (by omega), hfound]
  simp only [hend]
  rw [hdata, List.take_left]

theorem onRead_request {s : HttpSession σ} (hs : s.Ready) (r : Request)
    (hzero : 0 ∉ r.bytes) (hlength : r.bytes.length <= kSocketReadSize) :
    exists s', s.onRead handler ⟨r.bytes, false⟩ = some s' ∧ s'.Ready ∧
      s'.requests = s.requests ++ [r.bytes] := by
  rcases hs with ⟨hopen, hoverrun, hvalid, hunread, hroom⟩
  rcases exists_read hvalid hunread hroom hlength with ⟨buffer, hread⟩
  rcases read_spec hvalid hread with ⟨hvalid', hunread'⟩
  rw [hunread, List.nil_append] at hunread'
  have hparse := onParseHttp_request hvalid' r hunread' hzero
  have hall : r.bytes.length <= buffer.unreadLength := by
    rw [← hvalid'.unread_length, hunread']
  refine ⟨HttpSession.onRecv handler { s with buffer := buffer }, ?_, ?_, ?_⟩
  · unfold HttpSession.onRead
    rw [hopen, hoverrun, hread]
    simp
  · unfold HttpSession.onRecv
    simp only [hparse]
    constructor
    · exact hopen
    · exact hoverrun
    · exact FlatBuffer.safeConsume_valid hvalid' _
    · rw [FlatBuffer.safeConsume_unread hall, hunread', List.drop_length]
    · rw [FlatBuffer.safeConsume, if_pos hall]
      have hkept : s.buffer.capacity <= buffer.capacity := read_capacity hread
      exact Nat.le_trans hroom hkept
  · unfold HttpSession.onRecv
    simp only [hparse]

/-- Requests that come one in each read are all dispatched. -/
theorem onReads_requests {s : HttpSession σ} (hs : s.Ready)
    (requests : List Request)
    (hplain : forall r, r ∈ requests ->
      0 ∉ r.bytes ∧ r.bytes.length <= kSocketReadSize) :
    exists s',
      s.onReads handler (requests.map fun r => ⟨r.bytes, false⟩) = some s' ∧
        s'.Ready ∧ s'.requests = s.requests ++ requests.map Request.bytes := by
  induction requests generalizing s with
  | nil => exact ⟨s, rfl, hs, (List.append_nil _).symm⟩
  | cons r requests ih =>
      rcases hplain r List.mem_cons_self with ⟨hzero, hlength⟩
      rcases onRead_request handler hs r hzero hlength with
        ⟨t, hread, ht, hrequests⟩
      rcases ih ht fun r' hr' => hplain r' (List.mem_cons_of_mem r hr') with
        ⟨s', hreads, hs', hrest⟩
      refine ⟨s', ?_, hs', ?_⟩
      · rw [List.map_cons, HttpSession.onReads, hread]
        exact hreads
      · rw [hrest, hrequests, List.append_assoc]
        rfl

/-!
## Every other way
-/

/--
For every sequence of requests, whatever the handler does: the outcome does not
depend on how the bytes are cut into reads only when there is no request at all.
-/
theorem cutIndependent_iff (side : σ) (requests : List Request) :
    CutIndependent handler side requests <-> requests = [] := by
  constructor
  · intro hsame
    cases requests with
    | nil => rfl
    | cons r requests =>
        have hfour : 4 <= (stream (r :: requests)).length := by
          have hfirst := r.four_le
          simp only [stream, List.flatMap_cons, List.length_append]
          omega
        have houtcome := hsame _ _ (cuts_single _) (cuts_fourFirst hfour)
        cases hbytes : stream (r :: requests) with
        | nil =>
            rw [hbytes] at hfour
            exact absurd hfour (by decide)
        | cons c bytes =>
            rw [hbytes] at hfour
            rw [hbytes, List.map_cons, HttpSession.onReads_short, eq_comm,
              Option.map_eq_some_iff] at houtcome
            rcases houtcome with ⟨s, hreads, houtcome⟩
            rcases Option.bind_eq_some_iff.mp hreads with ⟨t, hread, hrest⟩
            have hlength : 4 <= ((c :: bytes).take 4).length := by
              rw [List.length_take]
              omega
            have halive := HttpSession.onReads_alive handler
              (HttpSession.onRead_first handler hlength hread) hrest
            simp only [HttpSession.outcome, Prod.mk.injEq] at houtcome
            rcases houtcome with ⟨hnone, _, hclosed, hoverrun⟩
            rcases halive with hrequests | htrue | ⟨hopen, hclosing, _⟩
            · exact absurd hnone hrequests
            · rw [hoverrun] at htrue
              cases htrue
            · rw [hopen, hclosing] at hclosed
              cases hclosed
  · intro hnone
    subst hnone
    have hempty : forall reads, Cuts (stream []) reads -> reads = [] := by
      intro reads hcuts
      cases reads with
      | nil => rfl
      | cons r reads =>
          have hflatten := hcuts.flatten_eq
          rw [List.map_cons, List.flatten_cons, stream, List.flatMap_nil,
            List.append_eq_nil_iff] at hflatten
          exact absurd hflatten.1 (hcuts.piece r List.mem_cons_self).1
    intro reads reads' hcuts hcuts'
    rw [hempty reads hcuts, hempty reads' hcuts']

end Sessions

/-- A request, and a handler that answers with one byte. -/
def shortRequest : Request where
  bytes := ascii ['G', 'E', 'T', ' ', '/', '\r', '\n', '\r', '\n']
  complete := by decide

def answering : Handler Unit := fun _ u => (u, [[50]], false)

/-- The request in one read, and byte by byte. -/
theorem not_cutIndependent :
    (HttpSession.onReads answering { side := () }
        [⟨shortRequest.bytes, false⟩]).map HttpSession.outcome =
        some ([shortRequest.bytes], [[50]], false, false) ∧
      (HttpSession.onReads answering { side := () }
          (shortRequest.bytes.map single)).map HttpSession.outcome =
          some ([], [], true, false) ∧
        ¬ CutIndependent answering () [shortRequest] := by
  have hwhole : (HttpSession.onReads answering { side := () }
      [⟨shortRequest.bytes, false⟩]).map HttpSession.outcome =
        some ([shortRequest.bytes], [[50]], false, false) := by
    decide +kernel
  have hshort : (HttpSession.onReads answering { side := () }
      (shortRequest.bytes.map single)).map HttpSession.outcome =
        some ([], [], true, false) :=
    HttpSession.onReads_short answering () 71 _
  refine ⟨hwhole, hshort, ?_⟩
  intro hsame
  have hcuts : Cuts (stream [shortRequest]) [⟨shortRequest.bytes, false⟩] := by
    constructor
    · rfl
    · intro r hr
      rw [List.mem_singleton.mp hr]
      decide
  have hequal := hsame _ _ hcuts (cuts_single _)
  rw [hwhole, show stream [shortRequest] = shortRequest.bytes from rfl, hshort]
    at hequal
  exact absurd hequal (by decide)

end Http
end Streaming
