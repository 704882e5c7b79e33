import Streaming.Http.RequestLine
import Streaming.Http.Teardown

/-!
# Writing a response

`send_response` makes two asynchronous writes, one of the header and one of the
body if there is any, and each may stop the session where it completes.
-/

namespace Streaming
namespace Http

open Foundation Network Util

/-!
## The text of the header
-/

def text (s : String) : Bytes :=
  s.toUTF8.toList

/-- A `std::multimap<std::string, std::string>`, in the order of its keys. -/
abbrev HeaderFields := List (Bytes × Bytes)

/-- `emplace`: behind the fields with the same key. -/
def HeaderFields.emplace (key value : Bytes) : HeaderFields -> HeaderFields
  | [] => [(key, value)]
  | field :: fields =>
      if key < field.1 then (key, value) :: field :: fields
      else field :: emplace key value fields

def Status.code : Status -> Nat
  | .ok => 200
  | .badRequest => 400
  | .notFound => 404
  | .methodNotAllowed => 405
  | .unsupportedMediaType => 415
  | .internalServerError => 500

def codeToMsg : Status -> Bytes
  | .ok => text "OK"
  | .badRequest => text "Bad Request"
  | .methodNotAllowed => text "Method Not Allowed"
  | .unsupportedMediaType => text "Unsupported Media Type"
  | .notFound => text "Not Found"
  | .internalServerError => text "Internal Server Error"

def kServerName : Bytes := text "OBS-Streaming"

/-- The arguments of `send_response`, and what `util::http_date()` returns. -/
structure Response where
  status : Status
  isClose : Bool
  httpBody : Option Bytes := none
  contentType : Option Bytes := none
  headers : HeaderFields := []
  httpDate : Bytes

namespace Response

/-- The body that is sent: none for a null pointer. -/
def body (r : Response) : Bytes :=
  r.httpBody.getD []

def hasResponseBody (r : Response) : Bool :=
  !r.body.isEmpty

def fields (r : Response) : HeaderFields :=
  let response := r.headers
  let response := response.emplace (text "server") kServerName
  let response := response.emplace (text "date") r.httpDate
  let response := response.emplace (text "Connection")
    (text (if r.isClose then "close" else "keep-alive"))
  let response :=
    if !r.isClose then
      response.emplace (text "Keep-Alive") (text "timeout=20, max=100")
    else response
  let response := response.emplace (text "Access-Control-Allow-Origin")
    (text "*")
  let response := response.emplace (text "Access-Control-Allow-Credentials")
    (text "true")
  let response :=
    if r.hasResponseBody then
      response.emplace (text "Content-Length") (text (toString r.body.length))
    else response
  response.emplace (text "Content-Type")
    (r.contentType.getD kTextPlain ++ text "; charset=utf-8")

/-- The string `res`. -/
def header (r : Response) : Bytes :=
  text "HTTP/1.1 " ++ text (toString r.status.code) ++ text " " ++
    codeToMsg r.status ++ kHttpLineBreak ++
    (r.fields.flatMap fun field =>
      field.1 ++ text ": " ++ field.2 ++ kHttpLineBreak) ++ kHttpLineBreak

end Response

/-!
## The writes
-/

/-- How far an `async_write` has come. -/
structure Transfer where
  size : Nat
  written : Nat := 0

/-- A session and the pending writes of a response: they stand in `writing`
behind those that were pending before. -/
structure Responding where
  session : Session
  earlier : Nat
  transfers : List Transfer := []
  /-- How many bytes of the response have not been written. -/
  unwritten : Nat

inductive WriteEvent where
  | progresses (i n : Nat)
  | completes (i : Nat)
  | aborts (i : Nat)

namespace Responding

def send (w : Responding) (data : Bytes) (isClose : Bool) : Responding :=
  if !w.session.socketOpen then w
  else
    { w with
      session := w.session.doWrite true isClose .written
      transfers := w.transfers ++ [{ size := data.length }] }

/-- `send_response`; the last argument for the body is the function `close`. -/
def sendResponse (s : Session) (r : Response) : Responding :=
  let w : Responding :=
    { session := s
      earlier := s.writing.length
      unwritten := r.header.length + r.body.length }
  let w := w.send r.header r.isClose
  if r.hasResponseBody then w.send r.body true else w

def step (w : Responding) : WriteEvent -> Option Responding
  | .progresses i n =>
      w.transfers[i]?.bind fun t =>
        if w.session.socketOpen ∧ t.written + n <= t.size then
          some { w with
            transfers := w.transfers.set i { t with written := t.written + n }
            unwritten := w.unwritten - n }
        else
          none
  | .completes i =>
      w.transfers[i]?.bind fun t =>
        if t.written = t.size then
          (w.session.step (.written (w.earlier + i))).map fun s =>
            { w with session := s, transfers := w.transfers.eraseIdx i }
        else
          none
  | .aborts i =>
      w.transfers[i]?.bind fun _ =>
        if w.session.socketOpen then
          none
        else
          (w.session.step (.writeFails (w.earlier + i))).map fun s =>
            { w with session := s, transfers := w.transfers.eraseIdx i }

end Responding

/-- An open session that is in the map of its manager. -/
structure Attended (s : Session) : Prop where
  socketOpen : s.socketOpen = true
  notClosed : s.isClosed = false
  held : s.id ∈ s.sessionMap

/-- The session is stopped only when that was asked for, and only behind the
last byte of the response. -/
def CompleteBeforeClose (s : Session) (r : Response) : Prop :=
  forall es w, run Responding.step (Responding.sendResponse s r) es = some w ->
    w.session.isClosed = true -> r.isClose = true ∧ w.unwritten = 0

/-!
## What is started
-/

namespace Responding

theorem send_open {w : Responding} (hopen : w.session.socketOpen = true)
    (data : Bytes) (isClose : Bool) :
    w.send data isClose =
      { w with
        session := { w.session with
          writing := w.session.writing ++ [isClose] }
        transfers := w.transfers ++ [{ size := data.length }] } := by
  simp [send, Session.doWrite, hopen]

theorem send_socketOpen {w : Responding} (hopen : w.session.socketOpen = true)
    (data : Bytes) (isClose : Bool) :
    (w.send data isClose).session.socketOpen = true := by
  rw [send_open hopen]
  exact hopen

theorem sendResponse_header {s : Session} {r : Response} (hs : Attended s)
    (hbody : r.hasResponseBody = false) :
    sendResponse s r =
      { session := { s with writing := s.writing ++ [r.isClose] }
        earlier := s.writing.length
        transfers := [{ size := r.header.length }]
        unwritten := r.header.length + r.body.length } := by
  unfold sendResponse
  simp only [hbody, Bool.false_eq_true, if_false]
  exact send_open hs.socketOpen _ _

theorem sendResponse_body {s : Session} {r : Response} (hs : Attended s)
    (hbody : r.hasResponseBody = true) :
    sendResponse s r =
      { session := { s with writing := s.writing ++ [r.isClose, true] }
        earlier := s.writing.length
        transfers := [{ size := r.header.length }, { size := r.body.length }]
        unwritten := r.header.length + r.body.length } := by
  unfold sendResponse
  simp only [hbody, if_true]
  rw [send_open (send_socketOpen hs.socketOpen _ _), send_open hs.socketOpen]
  simp

end Responding

/-- The session is left as the pieces of `sendResponse` leave it. -/
theorem sendResponse_session {s : Session} {r : Response} (hs : Attended s)
    (contentType : Bytes) :
    (Responding.sendResponse s r).session =
      (resultState (sendResponse r.status r.isClose r.body contentType {})).sent.foldl
        Connection.send s := by
  have hsent : (resultState
      (sendResponse r.status r.isClose r.body contentType {})).sent =
      .header r.status r.isClose contentType
        (if r.body = [] then none else some r.body.length) ::
          if r.body = [] then [] else [.body r.body] := rfl
  have hheader : forall length, Connection.send s
      (.header r.status r.isClose contentType length) =
      { s with writing := s.writing ++ [r.isClose] } := by
    intro length
    simp [Connection.send, Session.doWrite, hs.socketOpen, Sent.isClose]
  rw [hsent, List.foldl_cons, hheader]
  cases hbody : r.hasResponseBody with
  | false =>
      have hnone : r.body = [] := by simpa [Response.hasResponseBody] using hbody
      rw [Responding.sendResponse_header hs hbody, if_pos hnone, List.foldl_nil]
  | true =>
      have hsome : r.body ≠ [] := by simpa [Response.hasResponseBody] using hbody
      rw [Responding.sendResponse_body hs hbody, if_neg hsome]
      simp [Connection.send, Session.doWrite, hs.socketOpen, Sent.isClose]

/-!
## A header alone
-/

namespace Responding

/-- The header is being written, or it has been and the session is stopped at
most when that was asked for. -/
inductive HeaderOnly (r : Response) (w : Responding) : Prop where
  | writing (t : Transfer) : w.session.socketOpen = true ->
      w.session.isClosed = false ->
      w.session.writing[w.earlier]? = some r.isClose -> w.transfers = [t] ->
      t.written + w.unwritten = t.size -> HeaderOnly r w
  | written : w.transfers = [] -> w.unwritten = 0 ->
      (w.session.isClosed = true -> r.isClose = true) -> HeaderOnly r w

theorem getElem?_singleton {t u : Transfer} {i : Nat}
    (h : [t][i]? = some u) : i = 0 ∧ u = t := by
  rcases List.getElem?_eq_some_iff.mp h with ⟨hi, rfl⟩
  have hzero : i = 0 := by simpa using hi
  subst hzero
  exact ⟨rfl, rfl⟩

/-- What is left of a session by a completed write. -/
theorem written_session {s : Session} {i : Nat} {isClose : Bool}
    (hopen : s.socketOpen = true) (hflag : s.writing[i]? = some isClose) :
    s.step (.written i) =
      some (if isClose then
        Session.managerStop { s with writing := s.writing.eraseIdx i }
      else { s with writing := s.writing.eraseIdx i }) := by
  simp only [Session.step, hflag, hopen, if_true]

theorem HeaderOnly.step {r : Response} {w w' : Responding} {e : WriteEvent}
    (hw : HeaderOnly r w) (h : w.step e = some w') : HeaderOnly r w' := by
  cases hw with
  | writing t hopen hclosed hflag ht hsize =>
      cases e with
      | progresses i n =>
          rcases Option.bind_eq_some_iff.mp h with ⟨u, hu, h⟩
          rw [ht] at hu
          rcases getElem?_singleton hu with ⟨rfl, rfl⟩
          split at h
          next hroom =>
            cases h
            refine writing { u with written := u.written + n } hopen hclosed
              hflag ?_ ?_
            · simp only [ht]
              rfl
            · simp only
              omega
          next => cases h
      | completes i =>
          rcases Option.bind_eq_some_iff.mp h with ⟨u, hu, h⟩
          rw [ht] at hu
          rcases getElem?_singleton hu with ⟨rfl, rfl⟩
          split at h
          next hall =>
            rw [Nat.add_zero, written_session hopen hflag] at h
            cases h
            apply written
            · simp only [ht]
              rfl
            · simp only
              omega
            · intro hstopped
              cases hclose : r.isClose with
              | true => rfl
              | false =>
                  simp [hclose, hclosed] at hstopped
          next => cases h
      | aborts i =>
          rcases Option.bind_eq_some_iff.mp h with ⟨u, hu, h⟩
          rw [if_pos hopen] at h
          cases h
  | written ht hunwritten hstopped =>
      cases e <;> simp [Responding.step, ht] at h

theorem sendResponse_headerOnly {s : Session} {r : Response} (hs : Attended s)
    (hbody : r.hasResponseBody = false) :
    HeaderOnly r (sendResponse s r) := by
  have hnone : r.body = [] := by simpa [Response.hasResponseBody] using hbody
  rw [sendResponse_header hs hbody]
  refine .writing { size := r.header.length } hs.socketOpen hs.notClosed ?_ rfl ?_
  · simp
  · simp [hnone]

theorem HeaderOnly.complete {r : Response} {w : Responding}
    (hw : HeaderOnly r w) (hstopped : w.session.isClosed = true) :
    r.isClose = true ∧ w.unwritten = 0 := by
  cases hw with
  | writing t hopen hclosed hflag ht hsize =>
      rw [hclosed] at hstopped
      cases hstopped
  | written ht hunwritten hasked => exact ⟨hasked hstopped, hunwritten⟩

/-!
## A header and a body
-/

theorem managerStop_isClosed {s : Session} (hs : s.id ∈ s.sessionMap) :
    s.managerStop.isClosed = true := by
  unfold Session.managerStop
  rw [if_pos hs]
  exact s.stop_isClosed

/-- A write with the flag set that runs to its end before any other stops the
session. -/
theorem finishes_first {w : Responding} {i : Nat} {t : Transfer}
    (hs : Attended w.session) (ht : w.transfers[i]? = some t)
    (hfresh : t.written = 0)
    (hflag : w.session.writing[w.earlier + i]? = some true) :
    exists w', run step w [.progresses i t.size, .completes i] = some w' ∧
      w'.session.isClosed = true ∧ w'.unwritten = w.unwritten - t.size := by
  have hi : i < w.transfers.length := (List.getElem?_eq_some_iff.mp ht).1
  have hprogress : w.step (.progresses i t.size) = some { w with
      transfers := w.transfers.set i { t with written := t.written + t.size }
      unwritten := w.unwritten - t.size } := by
    simp [step, ht, hs.socketOpen, hfresh]
  have hcomplete : step { w with
      transfers := w.transfers.set i { t with written := t.written + t.size }
      unwritten := w.unwritten - t.size } (.completes i) = some { w with
      session := Session.managerStop { w.session with
        writing := w.session.writing.eraseIdx (w.earlier + i) }
      transfers := (w.transfers.set i
        { t with written := t.written + t.size }).eraseIdx i
      unwritten := w.unwritten - t.size } := by
    simp [step, hi, hfresh, written_session hs.socketOpen hflag]
  refine ⟨_, run_cons.mpr ⟨_, hprogress, run_cons.mpr ⟨_, hcomplete, rfl⟩⟩, ?_,
    rfl⟩
  exact managerStop_isClosed hs.held

end Responding

theorem not_completeBeforeClose {s : Session} (hs : Attended s) {r : Response}
    (hbody : r.hasResponseBody = true) : ¬ CompleteBeforeClose s r := by
  have hlength : 0 < r.body.length := by
    apply List.length_pos_iff.mpr
    simpa [Response.hasResponseBody] using hbody
  have hstart := Responding.sendResponse_body hs hbody
  have hattended : Attended (Responding.sendResponse s r).session := by
    rw [hstart]
    exact ⟨hs.socketOpen, hs.notClosed, hs.held⟩
  intro h
  cases hclose : r.isClose with
  | false =>
      -- the body is written first, and nobody asked to close
      rcases Responding.finishes_first (i := 1) hattended
        (by rw [hstart]; rfl) rfl (by rw [hstart]; simp) with
        ⟨w, hrun, hstopped, _⟩
      have hasked := (h _ w hrun hstopped).1
      rw [hclose] at hasked
      cases hasked
  | true =>
      -- the header is written first, and the body is still to come
      rcases Responding.finishes_first (i := 0) hattended
        (by rw [hstart]; rfl) rfl (by rw [hstart]; simp [hclose]) with
        ⟨w, hrun, hstopped, hleft⟩
      have hall := (h _ w hrun hstopped).2
      rw [hleft, hstart] at hall
      simp only at hall
      omega

/-- A response is complete before its connection is closed, and closes it only
when asked to, just when it has no body. -/
theorem completeBeforeClose_iff {s : Session} (hs : Attended s) (r : Response) :
    CompleteBeforeClose s r <-> r.hasResponseBody = false := by
  constructor
  · intro h
    by_contra hbody
    exact not_completeBeforeClose hs (Bool.not_eq_false _ ▸ hbody) h
  · intro hbody es w hrun hstopped
    have hw : Responding.HeaderOnly r w :=
      run_keeps Responding.HeaderOnly.step
        (Responding.sendResponse_headerOnly hs hbody) hrun
    exact hw.complete hstopped

/-- A client whose session is accepted and answered at once. -/
def freshSession : Session where
  id := "TCP[80|ipv4|5]-session_count(1)-client_socket(9)"
  sessionMap := {"TCP[80|ipv4|5]-session_count(1)-client_socket(9)"}

theorem freshSession_attended : Attended freshSession :=
  ⟨rfl, rfl, Finset.mem_singleton_self _⟩

/-- What `on_search_http_handler` answers to a request that it cannot read. -/
def badRequest : Response where
  status := .badRequest
  isClose := true
  httpDate := text "Thu, Jan 01 1970 00:00:00 GMT"

theorem completeBeforeClose_iff_badRequest :
    CompleteBeforeClose freshSession badRequest <->
      badRequest.hasResponseBody = false :=
  completeBeforeClose_iff freshSession_attended badRequest

/-- What `start_flv_muxing` answers when it finds no stream. -/
def notFound : Response where
  status := .notFound
  isClose := true
  httpBody := some k404Body
  contentType := some kTextHtml
  httpDate := text "Thu, Jan 01 1970 00:00:00 GMT"

theorem not_completeBeforeClose_notFound :
    ¬ CompleteBeforeClose freshSession notFound :=
  not_completeBeforeClose freshSession_attended (by decide +kernel)

end Http
end Streaming
