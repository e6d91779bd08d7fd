import ApplianceAdmin.Ipc.Client

/-!
# The framing of requests

A request is one line, however the stream is cut into chunks on its way to the daemon.

* `StreamReader.look`, `StreamReader.readline`: the reader with its limit, chunk by chunk;
* `readline_chunks`: it reads what `Stream.readline` reads of all the bytes;
* `firstLine`, `readRequestLine_cut`: the line that the daemon accepts;
* `Sendable`: the payloads that a client sends.
-/

namespace ApplianceAdmin.Ipc

open Async Async.Prog Python

/-! ### The reader -/

namespace StreamReader

/-- What `readline` makes of the bytes in its buffer, unless it waits for more. -/
def look (limit : ℕ) (buffer : List UInt8) : Option (Except Exc (List UInt8)) :=
  if newline ∈ buffer then
    let line := buffer.takeWhile (· ≠ newline)
    some (if limit < line.length then .error (.py ⟨.value, overrunText true⟩)
      else .ok (line ++ [newline]))
  else if limit < buffer.length then some (.error (.py ⟨.value, overrunText false⟩))
  else none

/-- `readline` of a reader whose buffer is `buffer` and to which the chunks and the end of the file
are still to come -/
def readline (limit : ℕ) (buffer : List UInt8) : List (List UInt8) → Except Exc (List UInt8)
  | [] => (look limit buffer).getD (.ok buffer)
  | chunk :: chunks => (look limit buffer).getD (readline limit (buffer ++ chunk) chunks)

section Readline

variable {limit : ℕ} {buffer rest : List UInt8}

theorem takeWhile_of_mem (h : newline ∈ buffer) :
    (buffer ++ rest).takeWhile (· ≠ newline) = buffer.takeWhile (· ≠ newline) := by
  rw [List.takeWhile_append, if_neg]
  intro hlength
  have hall := List.takeWhile_eq_self_iff.1
    ((List.takeWhile_prefix (· ≠ newline)).eq_of_length hlength)
  exact absurd rfl (of_decide_eq_true (hall newline h))

theorem takeWhile_of_notMem (h : newline ∉ buffer) :
    (buffer ++ rest).takeWhile (· ≠ newline) = buffer ++ rest.takeWhile (· ≠ newline) :=
  List.takeWhile_append_of_pos fun _ hb => decide_eq_true fun heq => h (heq ▸ hb)

/-- What the reader makes of its buffer does not depend on what follows. -/
theorem readline_of_look {r : Except Exc (List UInt8)} (h : look limit buffer = some r)
    (rest : List UInt8) : ∃ seen, r = Stream.readline limit ⟨buffer ++ rest, .eof, seen⟩ := by
  unfold look at h
  split_ifs at h with hmem hlong
  · -- the line ends within the buffer
    refine ⟨true, ?_⟩
    simp only [Stream.readline, takeWhile_of_mem hmem, if_pos (List.mem_append_left rest hmem)]
    exact (Option.some.inj h).symm
  · -- the line is too long already, wherever it ends
    refine ⟨false, ?_⟩
    unfold Stream.readline
    rw [takeWhile_of_notMem hmem, if_pos]
    · exact (Option.some.inj h).symm
    · rw [List.length_append]
      omega

/-- **The chunks do not matter.** -/
theorem readline_chunks (chunks : List (List UInt8)) (buffer : List UInt8) : ∃ seen,
    readline limit buffer chunks =
      Stream.readline limit ⟨buffer ++ chunks.flatten, .eof, seen⟩ := by
  induction chunks generalizing buffer with
  | nil =>
    rw [readline]
    cases hlook : look limit buffer with
    | some r => exact readline_of_look hlook []
    | none =>
      -- the end of the file: the buffer is all there is, without a newline and within the limit
      unfold look at hlook
      split_ifs at hlook with hmem hlong
      refine ⟨false, ?_⟩
      have hline : (buffer ++ []).takeWhile (· ≠ newline) =
          buffer ++ [].takeWhile (· ≠ newline) := takeWhile_of_notMem hmem
      rw [List.takeWhile_nil] at hline
      unfold Stream.readline
      rw [List.flatten_nil, hline, List.append_nil, if_neg hlong, if_neg hmem]
      rfl
  | cons chunk chunks ih =>
    rw [readline, List.flatten_cons, ← List.append_assoc]
    cases hlook : look limit buffer with
    | some r =>
      rw [List.append_assoc]
      exact readline_of_look hlook _
    | none =>
      -- the reader waits for one more chunk, with the longer buffer
      exact ih (buffer ++ chunk)

end Readline

end StreamReader

/-- The stream that reaches a reader with this limit in these chunks -/
def Stream.ofChunks (limit : ℕ) (chunks : List (List UInt8)) : Stream where
  bytes := chunks.flatten
  ending := .eof
  separatorSeen := StreamReader.readline limit [] chunks = .error (.py ⟨.value, overrunText true⟩)

theorem readline_ofChunks (limit : ℕ) (chunks : List (List UInt8)) :
    (Stream.ofChunks limit chunks).readline limit = StreamReader.readline limit [] chunks := by
  obtain ⟨seen, hread⟩ := @StreamReader.readline_chunks limit chunks []
  rw [List.nil_append] at hread
  unfold Stream.ofChunks
  rw [hread]
  simp only [Stream.readline]
  by_cases hlong : limit < (chunks.flatten.takeWhile (· ≠ newline)).length
  · simp only [if_pos hlong]
    cases seen with
    | true => simp
    | false => simp [overrunText]
  · simp only [if_neg hlong]

/-! ### The request -/

/-- The bytes up to and including the first newline -/
def firstLine (bytes : List UInt8) : List UInt8 := bytes.takeWhile (· ≠ newline) ++ [newline]

/-- What is read of a stream that ends -/
theorem readline_eof (limit : ℕ) (bytes : List UInt8) (seen : Bool) :
    Stream.readline limit ⟨bytes, .eof, seen⟩ =
      if limit < (bytes.takeWhile (· ≠ newline)).length then
        .error (.py ⟨.value, overrunText seen⟩)
      else if newline ∈ bytes then .ok (firstLine bytes)
      else .ok (bytes.takeWhile (· ≠ newline)) := rfl

/-- The connection on which the bytes arrive in these chunks -/
def Connection.cut (settings : DaemonSettings) (conn : Connection) (chunks : List (List UInt8)) :
    Connection :=
  { conn with stream := .ofChunks settings.maxRequestBytes chunks }

section Request

variable {settings : DaemonSettings} {conn : Connection} {chunks : List (List UInt8)}

/-- **Framing.**  The daemon accepts the first line exactly if there is one and it keeps to the
limit, its newline included. -/
theorem readRequestLine_cut :
    readRequestLine settings (conn.cut settings chunks) =
      if newline ∈ chunks.flatten ∧ (firstLine chunks.flatten).length ≤ settings.maxRequestBytes then
        .ok (firstLine chunks.flatten)
      else .error (.validation "Malformed or oversized request") := by
  have hlength : (firstLine chunks.flatten).length =
      (chunks.flatten.takeWhile (· ≠ newline)).length + 1 := List.length_append
  have hread := readline_eof settings.maxRequestBytes chunks.flatten
    (Stream.ofChunks settings.maxRequestBytes chunks).separatorSeen
  unfold readRequestLine
  rw [show (conn.cut settings chunks).stream.readline settings.maxRequestBytes = _ from hread]
  by_cases hlong : settings.maxRequestBytes < (chunks.flatten.takeWhile (· ≠ newline)).length
  · rw [if_pos hlong, if_neg fun h => absurd h.2 (by omega)]
    rfl
  rw [if_neg hlong]
  by_cases hmem : newline ∈ chunks.flatten
  · rw [if_pos hmem]
    have hlast : (firstLine chunks.flatten).getLast? = some newline := List.getLast?_concat
    by_cases hsize : (firstLine chunks.flatten).length ≤ settings.maxRequestBytes
    · rw [if_pos ⟨hmem, hsize⟩]
      refine if_neg ?_
      rintro (hnil | hover | hopen)
      · rw [hnil] at hlast
        cases hlast
      · exact absurd hsize (not_le.2 hover)
      · exact hopen hlast
    · rw [if_neg fun h => hsize h.2]
      exact if_pos (.inr (.inl (not_le.1 hsize)))
  · -- the end of the file comes first, and what is read does not end with a newline
    rw [if_neg hmem, if_neg fun h => hmem h.1]
    refine if_pos (.inr (.inr fun hlast => ?_))
    have hin := List.mem_of_getLast? hlast
    exact hmem ((List.takeWhile_prefix _).subset hin)

end Request

/-! ### What a client sends -/

/-- A payload that a server with the same limit accepts unchanged, in whatever chunks it arrives and
whatever follows it -/
def Sendable (client : DaemonClient) (payload : List UInt8) : Prop :=
  payload.length ≤ client.maxBytes ∧ (∃ text, newline ∉ text ∧ payload = text ++ [newline]) ∧
    ∀ (settings : DaemonSettings) (conn : Connection) (chunks : List (List UInt8))
      (rest : List UInt8), settings.maxRequestBytes = client.maxBytes →
      chunks.flatten = payload ++ rest →
      readRequestLine settings (conn.cut settings chunks) = .ok payload

theorem sendable_of_oneLine {client : DaemonClient} {text : List UInt8} (h : newline ∉ text)
    (hsize : (text ++ [newline]).length ≤ client.maxBytes) : Sendable client (text ++ [newline]) := by
  refine ⟨hsize, ⟨text, h, rfl⟩, fun settings conn chunks rest hlimit hchunks => ?_⟩
  have hbytes : chunks.flatten = text ++ newline :: rest := by
    rw [hchunks, List.append_assoc]
    rfl
  have hfirst : firstLine chunks.flatten = text ++ [newline] := by
    rw [firstLine, hbytes, takeWhile_line h]
  rw [readRequestLine_cut, hfirst, if_pos]
  refine ⟨?_, hlimit ▸ hsize⟩
  rw [hbytes]
  exact List.mem_append_right text List.mem_cons_self

section Client

variable {json : Json} {rt : Runtime} {client : DaemonClient}

/-- What is written is sendable. -/
abbrev Sends (client : DaemonClient) {α : Type} (p : Prog ClientReply ClientExc α) : Prop :=
  Calls (fun c => ∀ payload, c = .write payload → Sendable client payload) p

theorem sends_exchange {payload : List UInt8} (h : Sendable client payload) :
    Sends client (exchange json rt client payload) := by
  have hother : ∀ {c : ClientCall}, (∀ payload, c ≠ .write payload) →
      Sends client (perform c : Prog ClientReply ClientExc (ClientReply c)) := fun hc =>
    (calls_perform _).2 fun payload heq => absurd heq (hc payload)
  refine calls_bind (hother nofun) fun _ => calls_ensure ?_ ?_
  · refine calls_bind ((calls_perform _).2 fun payload' heq => ?_) fun _ => ?_
    · cases heq
      exact h
    · refine calls_bind (hother nofun) fun _ => calls_bind (hother nofun) fun line => ?_
      split
      · exact calls_raise _
      · exact calls_lift _
  · exact calls_bind (hother nofun) fun _ => hother nofun

/-- A client writes only what a server with its limit accepts. -/
theorem sends_call (fresh action : String) (params : Option Dict) (auditUser : Option String) :
    Sends client (client.call json rt fresh action params auditUser) := by
  unfold DaemonClient.call
  refine calls_bind (calls_lift _) fun request => ?_
  cases hline : request.line json with
  | error exc => trivial
  | ok payload =>
    obtain ⟨text, hdumps, rfl⟩ : ∃ text, json.dumps request.toValue = .ok text ∧
        messageLine text = payload := by
      unfold IPCRequest.line at hline
      cases hdumps : json.dumps request.toValue with
      | error exc =>
        rw [hdumps] at hline
        cases hline
      | ok text =>
        rw [hdumps] at hline
        exact ⟨text, rfl, Except.ok.inj hline⟩
    show Sends client (if client.maxBytes < (messageLine text).length then _ else _)
    split
    · exact calls_raise _
    · rename_i hsize
      have hnewline := newline_notMem_encode (json.oneLine_dumps _ _ hdumps)
      have hsendable := sendable_of_oneLine hnewline (not_lt.1 hsize)
      refine calls_bind (calls_tryCatch (sends_exchange hsendable) fun exc => ?_) fun response =>
        calls_lift _
      cases exc with
      | client error => exact calls_raise _
      | other exc =>
        show Sends client
          (if isCommunicationError (if exc.isException then exc else .timeoutError) then _ else _)
        split
        · split <;> exact calls_raise _
        · exact calls_raise _

end Client

/-- **Framing is exact and does not depend on the chunks.**  The daemon accepts the bytes up to and
including the first newline exactly if there is a newline and they keep to the limit, and answers
with a `ValidationError` otherwise; what a client sends is accepted unchanged by a server with its
limit. -/
theorem framing_exact (settings : DaemonSettings) (conn : Connection) (json : Json) (rt : Runtime)
    (client : DaemonClient) :
    (∀ chunks, (conn.cut settings chunks).stream.readline settings.maxRequestBytes =
        StreamReader.readline settings.maxRequestBytes [] chunks ∧
      readRequestLine settings (conn.cut settings chunks) =
        if newline ∈ chunks.flatten ∧ (firstLine chunks.flatten).length ≤ settings.maxRequestBytes
        then .ok (firstLine chunks.flatten)
        else .error (.validation "Malformed or oversized request")) ∧
    ∀ fresh action params auditUser tr q,
      Path (client.call json rt fresh action params auditUser) tr q →
        ∀ e ∈ tr, ∀ payload, e.call = .write payload → Sendable client payload :=
  ⟨fun chunks => ⟨readline_ofChunks _ chunks, readRequestLine_cut⟩,
    fun _ _ _ _ _ _ hp => hp.calls (sends_call _ _ _ _)⟩

/-- A call that has written its payload -/
theorem path_capabilities_written : ∃ q,
    Path (DaemonClient.default.call .writer .ascii "1" "system.capabilities" none (some "alice"))
      [⟨.openUnixConnection, .ok ()⟩, ⟨.write (messageLine capabilitiesText), .ok ()⟩] q := by
  have hpayload : (capabilitiesRequest "alice").line .writer = .ok (messageLine capabilitiesText) := by
    rw [IPCRequest.line, dumps_capabilitiesRequest]
    rfl
  have hsize : ¬DaemonClient.default.maxBytes < (messageLine capabilitiesText).length := by
    decide +kernel
  show ∃ q, Path (raised ((capabilitiesRequest "alice").line .writer) >>= fun payload =>
    if DaemonClient.default.maxBytes < List.length payload then
      raise (.client (.unavailable "Request is too large"))
    else do
      let response ← (exchange .writer .ascii .default payload).tryCatch communicationFailed
      lift (unwrap response)) _ q
  rw [hpayload]
  show ∃ q, Path (if DaemonClient.default.maxBytes < (messageLine capabilitiesText).length then
      raise (.client (.unavailable "Request is too large"))
    else do
      let response ← (exchange .writer .ascii .default (messageLine capabilitiesText)).tryCatch
        communicationFailed
      lift (unwrap response)) _ q
  rw [if_neg hsize]
  exact ⟨_, .cons (.cons (.nil _))⟩

/-- The request of `path_capabilities_written` is accepted byte by byte. -/
theorem capabilities_framed :
    readRequestLine .default ((rootConnection "alice").cut .default
      ((messageLine capabilitiesText).map fun b => [b])) = .ok (messageLine capabilitiesText) := by
  obtain ⟨q, hp⟩ := path_capabilities_written
  have hsendable := (framing_exact .default (rootConnection "alice") .writer .ascii .default).2
    _ _ _ _ _ q hp ⟨.write (messageLine capabilitiesText), .ok ()⟩ (by simp) _ rfl
  refine hsendable.2.2 .default _ _ [] rfl ?_
  rw [List.append_nil, ← List.flatMap_def, List.flatMap_singleton']

end ApplianceAdmin.Ipc
