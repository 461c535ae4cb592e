import LarkBot.Codex.AppServer.Handshake

/-! # How the reader of the output ends

The reader ends with an error that it records: the client closes, and its requests fail. What
`json.loads` raises besides the two classes that mean malformed JSON ends the reader without a
trace, and after `close` there is no terminal error to record (`LarkBot.reader_ended_iff`).
-/

namespace LarkBot

open Foundation

namespace AppServerClient

variable {config : ClientConfig} {client after : AppServerClient}

/-- The client has a terminal error and closes, and no request waits. -/
structure Terminated (client : AppServerClient) : Prop where
  recorded : client.terminalError ≠ none
  past : client.lifecycle.IsOver
  settled : ∀ requestId future, client.pending.get? requestId = some future → future.isDone

/-- The requests that waited fail with the terminal error. -/
def FailedSince (before after : AppServerClient) : Prop :=
  ∀ requestId, before.pending.get? requestId = some .unfinished → ∃ error,
    after.terminalError = some error ∧ after.pending.get? requestId = some (.exception error)

/-- A client with a terminal error has terminated. -/
theorem terminated_of_recorded (correlated : client.core.Correlated config)
    (recorded : client.terminalError ≠ none) : client.Terminated := by
  have past : client.lifecycle.IsOver := by
    rcases correlated.staged.open_or_closing with ⟨opened, -⟩ | ⟨-, past⟩
    · exact (recorded opened.terminalError).elim
    · exact past
  exact ⟨recorded, past, correlated.failed past⟩

/-- A client that has terminated has failed since, whatever comes later. -/
theorem Terminated.failedSince (terminated : client.Terminated) (after : AppServerClient) :
    client.FailedSince after := by
  intro requestId waits
  cases terminated.settled requestId .unfinished waits

/-- A client that is closed has a terminal error, unless `close` was called. -/
theorem recorded_of_closed (correlated : client.core.Correlated config)
    (closed : client.lifecycle = .closed) (implicit : client.explicitClose = false) :
    client.terminalError ≠ none := by
  rcases correlated.staged.open_or_closing with ⟨-, notOver⟩ | ⟨⟨error, -, same⟩, -⟩
  · refine (notOver ?_).elim
    rw [show client.core.lifecycle = .closed from closed]
    trivial
  · rcases same with recorded | ⟨-, explicit, -⟩
    · exact fun none => by cases recorded.symm.trans none
    · exact fun _ => by cases implicit.symm.trans explicit

/-- Recording a terminal error fails the requests that wait. -/
theorem recordTerminalError_failed {error : ClientError} (notClosed : client.lifecycle ≠ .closed)
    (implicit : client.explicitClose = false) (first : client.terminalError = none) :
    (client.recordTerminalError error).Terminated ∧
      client.FailedSince (client.recordTerminalError error) := by
  have effect : (client.recordTerminalError error).terminalError = some error ∧
      (client.recordTerminalError error).lifecycle = .closing ∧
      (client.recordTerminalError error).pending = failFutures client.pending error := by
    unfold recordTerminalError
    rw [if_neg (not_or.mpr ⟨Bool.eq_false_iff.mp implicit, notClosed⟩), if_pos first]
    exact ⟨rfl, rfl, rfl⟩
  obtain ⟨recorded, closing, pending⟩ := effect
  constructor
  · refine ⟨?_, ?_, fun requestId future located => ?_⟩
    · rw [recorded]
      exact Option.some_ne_none error
    · rw [closing]
      trivial
    · rw [pending] at located
      exact (ClientCore.get?_failFutures located).1
  · intro requestId waits
    refine ⟨error, recorded, ?_⟩
    rw [pending, failFutures, Dict.get?_mapValues, waits]
    rfl

/-- A terminal error that was recorded before stays, and no future changes. -/
theorem recordTerminalError_again {error : ClientError} (known : client.terminalError ≠ none) :
    (client.recordTerminalError error).terminalError = client.terminalError ∧
      (client.recordTerminalError error).pending = client.pending ∧
        ((client.recordTerminalError error).lifecycle = client.lifecycle ∨
          (client.recordTerminalError error).lifecycle = .closing) := by
  unfold recordTerminalError
  by_cases past : client.explicitClose ∨ client.lifecycle = .closed
  · rw [if_pos past]
    exact ⟨rfl, rfl, .inl rfl⟩
  · rw [if_neg past, if_neg known]
    exact ⟨rfl, rfl, .inr rfl⟩

/-- The reader records the error with which it ends, unless `close` was called. -/
theorem endReader_iff (correlated : client.core.Correlated config) (error : ClientError) :
    (client.endReader error).Terminated ∧ client.FailedSince (client.endReader error) ↔
      client.explicitClose = false ∨ client.terminalError ≠ none := by
  by_cases known : client.terminalError = none
  · rw [or_iff_left (not_not.mpr known)]
    by_cases explicit : client.explicitClose = true
    · refine iff_of_false (fun terminated => terminated.1.recorded ?_) ?_
      · unfold endReader recordTerminalError
        rw [if_pos (.inl explicit)]
        exact known
      · rw [explicit]
        exact Bool.noConfusion
    · have implicit := Bool.eq_false_iff.mpr explicit
      refine iff_of_true (recordTerminalError_failed (fun closed => ?_) implicit known) implicit
      exact recorded_of_closed correlated closed implicit known
  · refine iff_of_true ?_ (.inr known)
    have before := terminated_of_recorded correlated known
    have effect := @recordTerminalError_again { client with stdoutTask := false } error known
    obtain ⟨terminal, pending, lifecycle⟩ := effect
    refine ⟨⟨fun none => known (terminal.symm.trans none), ?_, ?_⟩, before.failedSince _⟩
    · unfold endReader
      rcases lifecycle with same | closing
      · rw [same]
        exact before.past
      · rw [closing]
        trivial
    · unfold endReader
      rw [pending]
      exact before.settled

/-- A response ends no reader. -/
theorem handleResponse_reads {envelope : JsonObject}
    (handled : client.handleResponse envelope = .ok after) : after.stdoutTask =
    client.stdoutTask := by
  unfold handleResponse at handled
  split at handled
  next =>
    split at handled
    next => cases handled
    next =>
      split at handled
      next =>
        split at handled
        next =>
          cases handled
          rfl
        next =>
          split at handled
          next =>
            split at handled
            next =>
              cases handled
              rfl
            next => cases handled
          next => cases handled
      next =>
        cases handled
        rfl
  next => cases handled

/-- Handling an envelope does not end the reader. -/
theorem handleEnvelope_reads {envelope : Json}
    (handled : client.handleEnvelope config envelope = .ok after) :
    after.stdoutTask = client.stdoutTask := by
  unfold handleEnvelope at handled
  split at handled
  next =>
    split at handled
    next => cases handled
    next =>
      dsimp only at handled
      split at handled
      next => exact handleResponse_reads handled
      next =>
        split at handled
        next => cases handled
        next =>
          split at handled
          next =>
            split at handled
            next =>
              split at handled
              next =>
                split at handled
                next =>
                  cases handled
                  rfl
                next => cases handled
              next => cases handled
            next =>
              split at handled
              next =>
                cases handled
                rfl
              next => cases handled
          next => cases handled
  next => cases handled

/-- `json.loads` raises none but the classes that mean malformed JSON, and nobody has called
`close`; or a terminal error was recorded before. -/
def EndsLoudly (client : AppServerClient) (line : StdoutLine) : Prop :=
  line ≠ .unreadable ∧ client.explicitClose = false ∨ client.terminalError ≠ none

/-- A line that ends the reader terminates the client. -/
theorem readLine_iff (correlated : client.core.Correlated config) {line : StdoutLine}
    (reads : client.stdoutTask = true) (ended : (client.readLine config line).stdoutTask = false) :
    (client.readLine config line).Terminated ∧ client.FailedSince (client.readLine config line) ↔
      client.EndsLoudly line := by
  have readable : line ≠ .unreadable → ∀ error, client.readLine config line =
      client.endReader error →
      ((client.readLine config line).Terminated ∧ client.FailedSince (client.readLine config line) ↔
        client.EndsLoudly line) := by
    intro other error same
    rw [same, endReader_iff correlated error]
    exact or_congr_left (and_iff_right other).symm
  cases line with
  | tooLong => exact readable (by intro same; cases same) _ rfl
  | endOfFile => exact readable (by intro same; cases same) _ rfl
  | malformed => exact readable (by intro same; cases same) _ rfl
  | unreadable =>
      have terminal : (client.readLine config .unreadable).terminalError =
          client.terminalError := rfl
      constructor
      · exact fun terminated => .inr (terminal ▸ terminated.1.recorded)
      · intro loud
        have known := loud.resolve_left fun first => first.1 rfl
        have before := terminated_of_recorded correlated known
        exact ⟨⟨known, before.past, before.settled⟩, before.failedSince _⟩
  | json envelope =>
      cases handled : client.handleEnvelope config envelope with
      | ok after =>
          unfold readLine at ended
          dsimp only at ended
          rw [handled] at ended
          dsimp only at ended
          rw [handleEnvelope_reads handled, reads] at ended
          cases ended
      | error message =>
          apply readable (by intro same; cases same) (.protocol message)
          unfold readLine
          dsimp only
          rw [handled]

end AppServerClient

/-- When a line ends the reader, the client has a terminal error, it closes, and the requests that
waited have failed, now and in every later state, exactly when `json.loads` does not raise another
class and `close` was not called, or a terminal error was recorded before. -/
theorem reader_ended_iff {config : ClientConfig} {client after : AppServerClient}
    {line : StdoutLine}
    (reachable : (appServerSystem config).Reachable client)
    (read : client.step config (.line line) = some after) (ended : after.stdoutTask = false) :
    (after.Terminated ∧ client.FailedSince after ↔ client.EndsLoudly line) ∧
      (client.EndsLoudly line → ∀ later, (appServerSystem config).Reaches after later →
        later.Terminated) := by
  have correlated := (orderly_of_reachable reachable).correlated
  unfold AppServerClient.step at read
  dsimp only at read
  split at read
  next reads =>
    cases read
    have terminates := AppServerClient.readLine_iff correlated reads ended
    refine ⟨terminates, fun loud later reached => ?_⟩
    have next : (appServerSystem config).Reachable (client.readLine config line) := by
      apply reachable.step (.line line)
      exact if_pos reads
    have orderly : later.core.Orderly config :=
      orderly_of_reachable (System.ReachableVia.trans next reached)
    obtain ⟨error, recorded⟩ := Option.ne_none_iff_exists'.mp (terminates.mpr loud).1.recorded
    have stays := (stays_of_reaches next reached).terminal error recorded
    apply AppServerClient.terminated_of_recorded orderly.correlated
    intro none
    cases stays.symm.trans none
  next => cases read

section Scenarios

/-- Malformed output ends the reader while a request waits. -/
theorem malformed_output_ends : ∃ client after, (appServerSystem testConfig).Reachable client ∧
    client.step testConfig (.line .malformed) = some after ∧
      (after.Terminated ∧ client.FailedSince after ↔ client.EndsLoudly .malformed) := by
  have reached : ∃ client, (appServerSystem testConfig).Reachable client ∧
      (client.step testConfig (.line .malformed)).any fun after => !after.stdoutTask :=
    client_of_scenario (fun _ _ => true)
      (clientRuns ++ [.request 0 "first" [] true none, .runOperation (.user 0)])
      (fun _ _ _ => trivial) (by decide)
  obtain ⟨client, reachable, ends⟩ := reached
  obtain ⟨after, read, ended⟩ := (Option.any_eq_true _ _).mp ends
  rw [Bool.not_eq_true'] at ended
  exact ⟨client, after, reachable, read, (reader_ended_iff reachable read ended).1⟩

/-- A number with too many digits ends the reader, and the client seems to run. -/
theorem long_number_ends_quietly : ∃ client, (appServerSystem testConfig).Reachable client ∧
    client.stdoutTask = false ∧ client.terminalError = none ∧ client.lifecycle = .running ∧
      client.cleanup = none ∧ client.pending.get? 2 = some .unfinished :=
  client_of_scenario (fun _ _ => true)
    (clientRuns ++ [.request 0 "first" [] true none, .runOperation (.user 0),
      .endDrain (.user 0) .drained, .resume (.user 0), .line .unreadable])
    (fun _ _ _ => trivial) (by decide)

end Scenarios

end LarkBot
