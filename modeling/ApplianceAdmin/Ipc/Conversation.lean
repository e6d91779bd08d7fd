import ApplianceAdmin.Ipc.Client

/-!
# What a client says

`DaemonClient.call` opens at most one connection, writes one line, reads one line and closes the
connection again, whatever is answered.

* `Phase`: how far a client is with its connection; `Phase.next`: the one call that comes next;
* `Speaks line tr`: the calls `tr` are those of the phases, from the beginning;
* `speaks_of_call`: a call of the client is made of one request, and speaks with its line.
-/

namespace ApplianceAdmin.Ipc

open Async Async.Prog Async.Monitor Python

/-- How far a client is with its connection -/
inductive Phase
  | idle
  | opened
  | written
  | drained
  /-- The line is read, or something has failed. -/
  | over
  | closing
  | ended
  deriving DecidableEq

/-- The call that comes next -/
def Phase.next (line : List UInt8) : Phase → Option ClientCall
  | .idle => some .openUnixConnection
  | .opened => some (.write line)
  | .written => some .drain
  | .drained => some .readline
  | .over => some .close
  | .closing => some .waitClosed
  | .ended => none

/-- The phase after an answered call -/
def Phase.step (phase : Phase) (e : Event ClientReply ClientExc) : Phase :=
  match phase, e.reply.isOk with
  | .idle, true => .opened
  | .opened, true => .written
  | .written, true => .drained
  | .opened, false | .written, false | .drained, _ => .over
  | .over, true => .closing
  | .idle, false | .over, false | .closing, _ | .ended, _ => .ended

/-- The phase after these answered calls -/
def Phase.after (tr : List (Event ClientReply ClientExc)) : Phase := tr.foldl Phase.step .idle

/-- Every call is the one that comes next. -/
def Speaks (line : List UInt8) (tr : List (Event ClientReply ClientExc)) : Prop :=
  Meets (fun phase c => Phase.next line phase = some c) Phase.step .idle tr

/-- Only one line is written. -/
theorem Speaks.write_eq {line line' : List UInt8} {tr : List (Event ClientReply ClientExc)}
    (h : Speaks line tr) {e : Event ClientReply ClientExc} (he : e ∈ tr)
    (hcall : e.call = .write line') : line' = line := by
  have hall : ∀ phase, Meets (fun phase c => Phase.next line phase = some c) Phase.step phase tr →
      line' = line := by
    clear h
    induction tr with
    | nil => cases he
    | cons e' tr ih =>
      rintro phase ⟨hnext, hrest⟩
      rcases List.mem_cons.1 he with rfl | he
      · rw [hcall] at hnext
        cases phase <;> cases hnext
        rfl
      · exact ih he _ hrest
  exact hall _ h

/-- The monitor of the phases -/
def speaking (line : List UInt8) : Monitor ClientReply ClientExc Phase :=
  .ofFold (fun phase c => Phase.next line phase = some c) (fun _ _ => True) Phase.step

section Speaking

variable {json : Json} {rt : Runtime} {client : DaemonClient} {line : List UInt8} {α : Type}

/-- The next call, and what may come after it -/
theorem wp_next {phase : Phase} {c : ClientCall} {f : ClientReply c → Prog ClientReply ClientExc α}
    {Q : Except ClientExc α → Phase → Prop} (hc : phase.next line = some c)
    (hok : ∀ a, (speaking line).wp (f a) Q (phase.step ⟨c, .ok a⟩))
    (herror : ∀ e, Q (.error e) (phase.step ⟨c, .error e⟩)) :
    (speaking line).wp (perform c >>= f) Q phase := by
  refine wp_perform_bind _ hc ?_ ?_
  · rintro a s ⟨-, rfl⟩
    exact hok a
  · rintro e s ⟨-, rfl⟩
    exact herror e

theorem wp_last {phase : Phase} {c : ClientCall} {Q : Except ClientExc (ClientReply c) → Phase → Prop}
    (hc : phase.next line = some c) (h : ∀ r, Q r (phase.step ⟨c, r⟩)) :
    (speaking line).wp (perform c) Q phase := by
  refine (wp_perform _).2 ⟨hc, ?_⟩
  rintro r s ⟨-, rfl⟩
  exact h r

theorem wp_closing {r : Except ClientExc α} : (speaking line).andFinally (do
    perform ClientCall.close
    perform ClientCall.waitClosed) (fun _ phase => phase = .ended) r .over := by
  refine wp_next rfl (fun _ => wp_last rfl fun r => ?_) fun _ => rfl
  cases r <;> rfl

theorem wp_exchange : (speaking line).wp (exchange json rt client line)
    (fun _ phase => phase = .ended) .idle := by
  refine wp_next rfl (fun _ => (wp_ensure _).2 ?_) fun _ => rfl
  refine wp_next rfl (fun _ => ?_) fun _ => wp_closing
  refine wp_next rfl (fun _ => ?_) fun _ => wp_closing
  refine wp_next rfl (fun (answer : List UInt8) => ?_) fun _ => wp_closing
  show (speaking line).wp (if answer = [] ∨ client.maxBytes < answer.length then _ else _) _ _
  split
  · exact wp_closing
  · exact wp_closing

theorem wp_communicationFailed (exc : ClientExc) {phase : Phase}
    {Q : Except ClientExc α → Phase → Prop} (h : ∀ e, Q (.error e) phase) :
    (speaking line).wp (communicationFailed exc) Q phase := by
  cases exc with
  | client error => exact h _
  | other exc =>
    dsimp only [communicationFailed]
    split_ifs <;> exact h _

/-- A call of the client is refused before it opens a connection, or it is the exchange of one
request. -/
theorem speaks_of_call {fresh action : String} {params : Option Dict} {auditUser : Option String}
    {tr : List (Event ClientReply ClientExc)} {q : Prog ClientReply ClientExc Value}
    (h : Path (client.call json rt fresh action params auditUser) tr q) : tr = [] ∨
    ∃ request line, IPCRequest.validate rt fresh
        (IPCRequest.fields action (params.getD []) auditUser) = .ok request ∧
      request.line json = .ok line ∧ line.length ≤ client.maxBytes ∧ Speaks line tr ∧
      ∀ r, q = .done r → Phase.after tr = .ended := by
  unfold DaemonClient.call at h
  cases hrequest : IPCRequest.validate rt fresh
      (IPCRequest.fields action (params.getD []) auditUser) with
  | error x =>
    rw [hrequest] at h
    exact .inl h.of_done.1
  | ok request =>
    rw [hrequest] at h
    replace h : Path (raised (request.line json) >>= fun payload => _) tr q := h
    cases hline : request.line json with
    | error x =>
      rw [hline] at h
      exact .inl h.of_done.1
    | ok line =>
      rw [hline] at h
      replace h : Path (if client.maxBytes < line.length then _ else _) tr q := h
      split at h
      · exact .inl h.of_done.1
      · rename_i hsize
        have hwp : (speaking line).wp (do
            let response ← (exchange json rt client line).tryCatch communicationFailed
            lift (unwrap response) : Prog ClientReply ClientExc Value)
            (fun _ phase => phase = .ended) .idle := by
          refine (wp_bind _).2 ((wp_tryCatch _).2 (wp_mono wp_exchange fun r phase hphase => ?_))
          cases r with
          | ok response => exact hphase
          | error exc => exact wp_communicationFailed exc fun _ => hphase
        refine .inr ⟨request, line, rfl, hline, not_lt.1 hsize, meets_of_path h hwp, ?_⟩
        rintro r rfl
        exact wp_outcome h (trail_ofFold _ _) hwp

end Speaking

end ApplianceAdmin.Ipc
