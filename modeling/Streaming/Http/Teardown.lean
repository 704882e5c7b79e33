import Streaming.Http.Framing
import Streaming.Http.Responses

/-!
# From the accept to the destructor

`header_` is null until a request has been parsed.  The handlers follow it
behind a parse only; the destructor follows it wherever the session ends.
-/

namespace Streaming
namespace Http

open Foundation Network Rtmp Util

/-!
## Handlers with the pointer
-/

/-- What a handler of the connection follows. -/
inductive HttpPointer where
  | header
  /-- A pointer of the source that was found. -/
  | source (p : BadPointer)
  deriving DecidableEq, Repr

/-- `http_protocol`, with what it has sent. -/
structure HttpProtocol where
  header : Option HttpFlvHeader := none
  reply : Reply := {}

namespace HttpProtocol

abbrev Call := EStateM (Fault HttpPointer) HttpProtocol

/-- `header_->` -/
def derefHeader : Call HttpFlvHeader := do
  deref .header (<- get).header

/-- What a handler does without the pointer. -/
def withReply (m : Handling PUnit) : Call PUnit := fun p =>
  match m p.reply with
  | .ok a r => .ok a { p with reply := r }
  | .error (.exception what) r => .error (.exception what) { p with reply := r }
  | .error (.undefined pointer) r =>
      .error (.undefined (.source pointer)) { p with reply := r }

section Handlers

variable {R : Type} (w : Server R) (iteration : IterationOrder)

def startFlvMuxing : Call PUnit := do
  if (<- get).header.isNone then
    throw (.exception "cannot mux flv with invalid http_flv_header")
  let header <- derefHeader
  withReply (Http.startFlvMuxing w iteration header)

def onHttpGet : Call PUnit := do
  if (<- derefHeader).isFlv then startFlvMuxing w iteration
  else withReply (sendResponse .unsupportedMediaType true)

def onSearchHttpHandler (data : Bytes) : Call PUnit :=
  if data = [] then
    throw (.exception "http parser received invalid packet")
  else
    match HttpFlvHeader.build data with
    | .error _ => withReply (sendResponse .badRequest true)
    | .ok header => do
        modify fun p => { p with header := some header }
        match (<- derefHeader).method with
        | .get =>
            catching (onHttpGet w iteration) fun _ =>
              withReply (sendResponse .internalServerError true)
        | _ => withReply (sendResponse .methodNotAllowed true)

/-- `~http_protocol` logs the token and the stream. -/
def destructor : Call PUnit := do
  let _ <- derefHeader

/-!
### What a handler does
-/

theorem derefHeader_of_none {p : HttpProtocol} (h : p.header = none) :
    derefHeader p = .error (.undefined .header) p := by
  unfold derefHeader
  rw [get_bind, h]
  rfl

theorem derefHeader_of_some {p : HttpProtocol} {header : HttpFlvHeader}
    (h : p.header = some header) : derefHeader p = .ok header p := by
  unfold derefHeader
  rw [get_bind, h]
  rfl

/-- With the pointer set a handler does what it does to the header. -/
theorem onHttpGet_of_some {p : HttpProtocol} {header : HttpFlvHeader}
    (h : p.header = some header) :
    onHttpGet w iteration p =
      withReply (Http.onHttpGet w iteration header) p := by
  have hderef := derefHeader_of_some h
  unfold onHttpGet Http.onHttpGet
  rw [bind_of_ok hderef]
  cases header.isFlv with
  | false => rfl
  | true =>
      have hset : p.header.isNone = false := by
        rw [h]
        rfl
      unfold startFlvMuxing
      rw [if_pos rfl, if_pos rfl, get_bind, hset, if_neg Bool.false_ne_true]
      exact bind_of_ok hderef

theorem catching_withReply (m f : Handling PUnit) (p : HttpProtocol) :
    catching (withReply m) (fun _ => withReply f) p =
      withReply (catching m fun _ => f) p := by
  unfold catching withReply
  cases hresult : m p.reply with
  | ok a r => simp only [hresult]
  | error fault r =>
      cases fault with
      | exception what => simp only [hresult]
      | undefined pointer => simp only [hresult]

theorem onSearchHttpHandler_of_error {data : Bytes} (hdata : data ≠ [])
    {what : String} (h : HttpFlvHeader.build data = .error what)
    (p : HttpProtocol) :
    onSearchHttpHandler w iteration data p =
      withReply (Http.onSearchHttpHandler w iteration data) p := by
  unfold onSearchHttpHandler Http.onSearchHttpHandler
  rw [if_neg hdata, if_neg hdata, h]

/-- The pointer is set before it is followed. -/
theorem onSearchHttpHandler_of_ok {data : Bytes} (hdata : data ≠ [])
    {header : HttpFlvHeader} (h : HttpFlvHeader.build data = .ok header)
    (p : HttpProtocol) :
    onSearchHttpHandler w iteration data p =
      withReply (Http.onSearchHttpHandler w iteration data)
        { p with header := some header } := by
  have hmodify : (modify fun p => { p with header := some header } :
      Call PUnit) p = .ok PUnit.unit { p with header := some header } := rfl
  have hset : ({ p with header := some header } : HttpProtocol).header =
      some header := rfl
  unfold onSearchHttpHandler Http.onSearchHttpHandler
  rw [if_neg hdata, if_neg hdata, h]
  simp only
  rw [bind_of_ok hmodify, bind_of_ok (derefHeader_of_some hset)]
  cases header.method with
  | get =>
      have hcatch := catching_withReply
        (Http.onHttpGet w iteration header)
        (sendResponse .internalServerError true) { p with header := some header }
      simp only
      rw [← hcatch]
      unfold catching
      rw [onHttpGet_of_some w iteration hset]
  | post => rfl
  | invalid => rfl

theorem withReply_spec (m : Handling PUnit) (p : HttpProtocol) :
    (resultState (withReply m p)).header = p.header ∧
      forall q, withReply m p ≠ .error (.undefined .header) q := by
  unfold withReply
  cases m p.reply with
  | ok a r =>
      constructor
      · rfl
      · intro q h
        cases h
  | error fault r =>
      cases fault with
      | exception what =>
          constructor
          · rfl
          · intro q h
            cases h
      | undefined pointer =>
          constructor
          · rfl
          · intro q h
            cases h

/-- No handler follows a null pointer, and the pointer is the last request that
was parsed. -/
theorem onSearchHttpHandler_spec (data : Bytes) (p : HttpProtocol) :
    (resultState (onSearchHttpHandler w iteration data p)).header =
        (HttpFlvHeader.build data).toOption.or p.header ∧
      forall q, onSearchHttpHandler w iteration data p ≠
        .error (.undefined .header) q := by
  rcases Decidable.em (data = []) with rfl | hdata
  · constructor
    · rfl
    · intro q h
      cases h
  · cases hbuild : HttpFlvHeader.build data with
    | error what =>
        rw [onSearchHttpHandler_of_error w iteration hdata hbuild]
        exact withReply_spec _ p
    | ok header =>
        rw [onSearchHttpHandler_of_ok w iteration hdata hbuild]
        exact withReply_spec _ _

end Handlers

end HttpProtocol

/-!
## Connections
-/

/-- Whether a piece is written with the flag `is_close`.  For a body the
argument is the function `close`, which is not null. -/
def Sent.isClose : Sent -> Bool
  | header _ isClose _ _ => isClose
  | body _ => true
  | flv _ => false

/-- An `http_session`, and what is known of its past. -/
structure Connection where
  session : Session
  header : Option HttpFlvHeader := none
  /-- The handler of a read has yet to call `on_recv`. -/
  unparsed : Bool := false
  /-- The texts that `on_search_http_handler` was called with. -/
  requests : List Bytes := []
  nullDereferenced : Bool := false
  destroyed : Bool := false

namespace Connection

def accept (sessionPrefix : String) (rawFd : Nat) (others : Finset String) :
    Connection :=
  { session := Session.start sessionPrefix rawFd others }

/-- `http_session::send` -/
def send (s : Session) (piece : Sent) : Session :=
  s.doWrite true piece.isClose .written

section Events

variable {R : Type}

/-- `on_search_http_handler` is called, and returns to a buffer without the
request or throws into `on_recv`.  Behind a pointer of the source that leads
nowhere there is no next state. -/
def dispatch (w : Server R) (iteration : IterationOrder) (data : Bytes)
    (buffer : FlatBuffer) (c : Connection) : Option Connection :=
  let c := { c with requests := c.requests ++ [data] }
  match HttpProtocol.onSearchHttpHandler w iteration data ⟨c.header, {}⟩ with
  | .ok _ p => some { c with
      header := p.header
      session := p.reply.sent.foldl send { c.session with buffer := buffer } }
  | .error (.exception _) p => some { c with
      header := p.header
      session := (p.reply.sent.foldl send c.session).shutdown }
  | .error (.undefined .header) p => some { c with
      header := p.header
      nullDereferenced := true }
  | .error (.undefined (.source _)) _ => none

/-- A search that leaves the memory of the buffer finds nothing or whatever is
there. -/
def onRecv (w : Server R) (iteration : IterationOrder) (wild : Option Bytes)
    (c : Connection) : Option Connection :=
  let c := { c with unparsed := false }
  match onParseHttp c.session.buffer with
  | .thrown _ => some { c with session := c.session.shutdown }
  | .incomplete => some c
  | .dispatched data buffer => c.dispatch w iteration data buffer
  | .overrun =>
      match wild with
      | none => some c
      | some data =>
          c.dispatch w iteration data (c.session.buffer.safeConsume data.length)

def destruct (c : Connection) : Connection :=
  match HttpProtocol.destructor ⟨c.header, {}⟩ with
  | .ok .. => { c with destroyed := true }
  | .error .. => { c with destroyed := true, nullDereferenced := true }

/-- What happens to the session outside the handler of a read. -/
def isOther : SessionEvent -> Bool
  | .readFails => true
  | .send .. => true
  | .written _ => true
  | .writeFails _ => true
  | .shutdown => true
  | .stopAll => true
  | _ => false

end Events

end Connection

inductive ConnectionEvent (R : Type) where
  | received (bytes : Bytes)
  | onRecv (w : Server R) (iteration : IterationOrder) (wild : Option Bytes)
  | parserReturns
  | other (e : SessionEvent)
  /-- Nobody holds the session any more. -/
  | destroy

namespace Connection

section Runs

variable {R : Type}

def step (c : Connection) (e : ConnectionEvent R) : Option Connection :=
  if c.destroyed || c.nullDereferenced then none
  else
    match e with
    | .received bytes =>
        (c.session.step (.received bytes)).map fun s =>
          { c with session := s, unparsed := s.running }
    | .onRecv w iteration wild =>
        if c.unparsed then c.onRecv w iteration wild else none
    | .parserReturns =>
        if c.unparsed then none
        else (c.session.step .parserReturns).map fun s =>
          { c with session := s }
    | .other e =>
        if isOther e then (c.session.step e).map fun s =>
          { c with session := s }
        else none
    | .destroy =>
        if c.session.id ∉ c.session.sessionMap ∧ !c.session.running then
          some c.destruct
        else none

/-- `http_flv_header::build` returns. -/
def Accepted (data : Bytes) : Prop :=
  exists header, HttpFlvHeader.build data = .ok header

structure Invariant (c : Connection) : Prop where
  header_iff : c.header ≠ none <-> exists data, data ∈ c.requests ∧ Accepted data
  null_iff : c.nullDereferenced = true <->
    c.destroyed = true ∧ c.header = none

theorem dispatch_spec {w : Server R} {iteration : IterationOrder} {data : Bytes}
    {buffer : FlatBuffer} {c c' : Connection}
    (h : c.dispatch w iteration data buffer = some c') :
    c'.header = (HttpFlvHeader.build data).toOption.or c.header ∧
      c'.requests = c.requests ++ [data] ∧
      c'.nullDereferenced = c.nullDereferenced ∧
      c'.destroyed = c.destroyed := by
  rcases HttpProtocol.onSearchHttpHandler_spec w iteration data ⟨c.header, {}⟩
    with ⟨hheader, hnull⟩
  unfold dispatch at h
  cases hresult : HttpProtocol.onSearchHttpHandler w iteration data
      ⟨c.header, {}⟩ with
  | ok a p =>
      rw [hresult] at hheader
      simp only [hresult] at h
      cases h
      exact ⟨hheader, rfl, rfl, rfl⟩
  | error fault p =>
      cases fault with
      | exception what =>
          rw [hresult] at hheader
          simp only [hresult] at h
          cases h
          exact ⟨hheader, rfl, rfl, rfl⟩
      | undefined pointer =>
          cases pointer with
          | header => exact absurd hresult (hnull p)
          | source pointer =>
              simp only [hresult] at h
              cases h

/-- What a request leaves of the invariant when nothing has been destroyed. -/
theorem dispatch_invariant {c c' : Connection} (hc : c.Invariant)
    (hlive : c.destroyed = false) {w : Server R} {iteration : IterationOrder}
    {data : Bytes} {buffer : FlatBuffer}
    (h : c.dispatch w iteration data buffer = some c') : c'.Invariant := by
  rcases dispatch_spec h with ⟨hheader, hrequests, hnull, hdestroyed⟩
  have hsafe : c.nullDereferenced ≠ true := by
    intro hfault
    rw [(hc.null_iff.mp hfault).1] at hlive
    cases hlive
  constructor
  · rw [hheader, hrequests]
    cases hbuild : HttpFlvHeader.build data with
    | error what =>
        have hrefused : ¬ Accepted data := by
          rintro ⟨header, hok⟩
          rw [hbuild] at hok
          cases hok
        rw [Except.toOption, Option.none_or, hc.header_iff]
        constructor
        · rintro ⟨d, hd, hok⟩
          exact ⟨d, List.mem_append_left _ hd, hok⟩
        · rintro ⟨d, hd, hok⟩
          rcases List.mem_append.mp hd with hbefore | hnew
          · exact ⟨d, hbefore, hok⟩
          · rw [List.mem_singleton.mp hnew] at hok
            exact absurd hok hrefused
    | ok header =>
        constructor
        · intro _
          exact ⟨data, List.mem_append_right _ (List.mem_singleton_self _),
            header, hbuild⟩
        · intro _ hnone
          cases hnone
  · rw [hnull, hdestroyed, hlive]
    constructor
    · intro hfault
      exact absurd hfault hsafe
    · rintro ⟨hfalse, _⟩
      cases hfalse

/-- The session may change as it likes. -/
theorem Invariant.of_same {c c' : Connection} (hc : c.Invariant)
    (hheader : c'.header = c.header) (hrequests : c'.requests = c.requests)
    (hnull : c'.nullDereferenced = c.nullDereferenced)
    (hdestroyed : c'.destroyed = c.destroyed) : c'.Invariant := by
  constructor
  · rw [hheader, hrequests]
    exact hc.header_iff
  · rw [hnull, hdestroyed, hheader]
    exact hc.null_iff

theorem onRecv_invariant {c c' : Connection} (hc : c.Invariant)
    (hlive : c.destroyed = false) {w : Server R} {iteration : IterationOrder}
    {wild : Option Bytes} (h : c.onRecv w iteration wild = some c') :
    c'.Invariant := by
  have hparsed : Invariant { c with unparsed := false } :=
    hc.of_same rfl rfl rfl rfl
  unfold onRecv at h
  simp only at h
  split at h
  · cases h
    exact hc.of_same rfl rfl rfl rfl
  · cases h
    exact hparsed
  · exact dispatch_invariant hparsed hlive h
  · split at h
    · cases h
      exact hparsed
    · exact dispatch_invariant hparsed hlive h

theorem destruct_of_none {c : Connection} (h : c.header = none) :
    c.destruct = { c with destroyed := true, nullDereferenced := true } := by
  have hnull : ({ header := c.header } : HttpProtocol).header = none := h
  unfold destruct HttpProtocol.destructor
  rw [bind_of_error (HttpProtocol.derefHeader_of_none hnull)]

theorem destruct_of_some {c : Connection} {header : HttpFlvHeader}
    (h : c.header = some header) :
    c.destruct = { c with destroyed := true } := by
  have hset : ({ header := c.header } : HttpProtocol).header = some header := h
  unfold destruct HttpProtocol.destructor
  rw [bind_of_ok (HttpProtocol.derefHeader_of_some hset)]
  rfl

theorem destruct_invariant {c : Connection} (hc : c.Invariant)
    (hsafe : c.nullDereferenced = false) : c.destruct.Invariant := by
  cases hheader : c.header with
  | none =>
      rw [destruct_of_none hheader]
      exact ⟨hc.header_iff, fun _ => ⟨rfl, hheader⟩, fun _ => rfl⟩
  | some header =>
      rw [destruct_of_some hheader]
      constructor
      · exact hc.header_iff
      · simp only [hsafe, hheader]
        constructor
        · intro hfault
          cases hfault
        · rintro ⟨_, hnone⟩
          cases hnone

theorem step_invariant {c c' : Connection} {e : ConnectionEvent R}
    (hc : c.Invariant) (h : c.step e = some c') : c'.Invariant := by
  unfold step at h
  split at h
  · cases h
  · rename_i hlive
    rw [Bool.or_eq_true, not_or, Bool.not_eq_true, Bool.not_eq_true] at hlive
    cases e with
    | received bytes =>
        rcases Option.map_eq_some_iff.mp h with ⟨s, _, rfl⟩
        exact hc.of_same rfl rfl rfl rfl
    | onRecv w iteration wild =>
        simp only at h
        split at h
        · exact onRecv_invariant hc hlive.1 h
        · cases h
    | parserReturns =>
        simp only at h
        split at h
        · cases h
        · rcases Option.map_eq_some_iff.mp h with ⟨s, _, rfl⟩
          exact hc.of_same rfl rfl rfl rfl
    | other e =>
        simp only at h
        split at h
        · rcases Option.map_eq_some_iff.mp h with ⟨s, _, rfl⟩
          exact hc.of_same rfl rfl rfl rfl
        · cases h
    | destroy =>
        simp only at h
        split at h
        · cases h
          exact destruct_invariant hc hlive.2
        · cases h

theorem accept_invariant (sessionPrefix : String) (rawFd : Nat)
    (others : Finset String) : (accept sessionPrefix rawFd others).Invariant := by
  constructor
  · constructor
    · intro hset
      exact absurd rfl hset
    · rintro ⟨_, hmem, _⟩
      cases hmem
  · constructor
    · intro hfault
      cases hfault
    · rintro ⟨hdestroyed, _⟩
      cases hdestroyed

/--
In every run from the accept on: no null pointer is followed exactly when the
session is still there, or `http_flv_header::build` has accepted a request.
-/
theorem run_nullDereferenced_iff {sessionPrefix : String} {rawFd : Nat}
    {others : Finset String} {es : List (ConnectionEvent R)} {c : Connection}
    (h : run step (accept sessionPrefix rawFd others) es = some c) :
    c.nullDereferenced = false <-> (c.destroyed = true ->
      exists data, data ∈ c.requests ∧ Accepted data) := by
  have hc : c.Invariant :=
    run_keeps step_invariant (accept_invariant sessionPrefix rawFd others) h
  rw [← hc.header_iff, ← Bool.not_eq_true, hc.null_iff, not_and]

end Runs

/-- A viewer asks for a stream that nobody publishes, and goes away. -/
def viewerEvents : List (ConnectionEvent Nat) :=
  [.received liveRequest, .onRecv {} inOrder none, .parserReturns,
    .other (.written 0), .other .readFails, .destroy]

theorem run_nullDereferenced_iff_viewer :
    exists c, run step (accept "http" 7 ∅) viewerEvents = some c ∧
      (c.nullDereferenced = false <-> (c.destroyed = true ->
        exists data, data ∈ c.requests ∧ Accepted data)) := by
  have hends : (run step (accept "http" 7 ∅) viewerEvents).isSome := by
    decide +kernel
  rcases Option.isSome_iff_exists.mp hends with ⟨c, hrun⟩
  exact ⟨c, hrun, run_nullDereferenced_iff hrun⟩

/-- A connection that is closed before a byte has come. -/
theorem nullDereferenced_silent :
    exists c, run step (accept "http" 7 ∅)
        ([.other .readFails, .destroy] : List (ConnectionEvent Nat)) = some c ∧
      c.requests = [] ∧ c.nullDereferenced = true := by
  refine ⟨_, rfl, rfl, rfl⟩

end Connection

end Http
end Streaming
