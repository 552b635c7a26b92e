import NasaCpp.General.Parts

/-!
# The TCP client

`TcpClient::loop` connects, then reads for as long as it is connected, and connects again
once `forceReconnect` has cleared `connected_`.  Every access to `connected_` and every
critical section under `mtx_recv_data_` is a step of its own.
-/

namespace NasaCpp.Apps

open General

inductive TcpClient.Thread where
  /-- before `connected_ = connect2server()` -/
  | connecting
  /-- at the condition of the inner loop -/
  | checking
  /-- before `recv` -/
  | reading
  /-- before the critical section, with what `recv` has returned -/
  | appending (data : List UInt8)
  deriving DecidableEq, Repr

structure TcpClient where
  connected : Bool := false
  recvData : List UInt8 := []
  thread : TcpClient.Thread := .connecting
  deriving DecidableEq, Repr

namespace TcpClient

/-- The steps of the thread, and the calls of the main loop. -/
inductive Event where
  | connect2server (result : Bool)
  | check
  | recv (nRead : Int32) (buffer : List UInt8)
  | append
  | getRecvData
  | forceReconnect
  deriving DecidableEq, Repr

inductive Output where
  | connecting (result : Bool)
  | appended (data : List UInt8)
  | handedOut (data : List UInt8)
  | reconnect
  deriving DecidableEq, Repr

/-- The bytes that the loop over `n_read` takes from the buffer: none after an error. -/
def taken (nRead : Int32) (buffer : List UInt8) : List UInt8 := buffer.take nRead.toInt.toNat

def getRecvData (client : TcpClient) : TcpClient × List UInt8 :=
  ({ client with recvData := [] }, client.recvData)

def forceReconnect (client : TcpClient) : TcpClient := { client with connected := false }

/-- A `recv` that returns zero, at the end of the stream, is not followed by a critical
section; the connection stays open until somebody forces another. -/
def step (client : TcpClient) : Event → Option (TcpClient × List Output)
  | .connect2server result =>
      if client.thread = .connecting then
        some ({ client with connected := result, thread := .checking }, [.connecting result])
      else none
  | .check =>
      if client.thread = .checking then
        some ({ client with thread := if client.connected then .reading else .connecting }, [])
      else none
  | .recv nRead buffer =>
      if client.thread = .reading then
        some ({ client with
          thread := if nRead ≠ 0 then .appending (taken nRead buffer) else .checking }, [])
      else none
  | .append =>
      match client.thread with
      | .appending data =>
          some ({ client with recvData := client.recvData ++ data, thread := .checking },
            [.appended data])
      | _ => none
  | .getRecvData =>
      let (client, data) := client.getRecvData
      some (client, [.handedOut data])
  | .forceReconnect =>
      some (client.forceReconnect, if client.connected then [.reconnect] else [])

def machine : Machine TcpClient Event Output := ⟨step⟩

/-! ## What a step can do -/

/-- The steps of the thread, by where it stands, and the two calls. -/
theorem step_cases {client next : TcpClient} {event : Event} {outs : List Output}
    (hstep : machine.step client event = some (next, outs)) :
    (∃ result, event = .connect2server result ∧ client.thread = .connecting ∧
      next = { client with connected := result, thread := .checking } ∧
      outs = [.connecting result]) ∨
    (event = .check ∧ client.thread = .checking ∧
      next = { client with thread := if client.connected then .reading else .connecting } ∧
      outs = []) ∨
    (∃ nRead buffer, event = .recv nRead buffer ∧ client.thread = .reading ∧
      next = { client with
        thread := if nRead ≠ 0 then .appending (taken nRead buffer) else .checking } ∧
      outs = []) ∨
    (∃ data, event = .append ∧ client.thread = .appending data ∧
      next = { client with recvData := client.recvData ++ data, thread := .checking } ∧
      outs = [.appended data]) ∨
    (event = .getRecvData ∧ next = { client with recvData := [] } ∧
      outs = [.handedOut client.recvData]) ∨
    (event = .forceReconnect ∧ next = { client with connected := false } ∧
      outs = if client.connected then [.reconnect] else []) := by
  change step client event = some (next, outs) at hstep
  cases event with
  | connect2server result =>
      obtain ⟨here, hresult⟩ := Option.ite_none_right_eq_some.mp hstep
      cases hresult
      exact .inl ⟨result, rfl, here, rfl, rfl⟩
  | check =>
      obtain ⟨here, hresult⟩ := Option.ite_none_right_eq_some.mp hstep
      cases hresult
      exact .inr (.inl ⟨rfl, here, rfl, rfl⟩)
  | recv nRead buffer =>
      obtain ⟨here, hresult⟩ := Option.ite_none_right_eq_some.mp hstep
      cases hresult
      exact .inr (.inr (.inl ⟨nRead, buffer, rfl, here, rfl, rfl⟩))
  | append =>
      cases here : client.thread with
      | appending data =>
          simp only [step, here, Option.some.injEq, Prod.mk.injEq] at hstep
          obtain ⟨rfl, rfl⟩ := hstep
          exact .inr (.inr (.inr (.inl ⟨data, rfl, rfl, rfl, rfl⟩)))
      | connecting | checking | reading => simp only [step, here, reduceCtorEq] at hstep
  | getRecvData =>
      cases hstep
      exact .inr (.inr (.inr (.inr (.inl ⟨rfl, rfl, rfl⟩))))
  | forceReconnect =>
      cases hstep
      exact .inr (.inr (.inr (.inr (.inr ⟨rfl, rfl, rfl⟩))))

/-! ## The bytes -/

/-- `recv_data_` is a mailbox between the thread and the main loop. -/
def mailbox : Part machine (Mailbox.machine (α := UInt8)) where
  state client := client.recvData
  events
    | .appended data => [.append data]
    | .handedOut _ => [.takeAll]
    | .connecting _ | .reconnect => []
  outputs
    | .handedOut data => data
    | .connecting _ | .appended _ | .reconnect => []
  step_run := by
    intro client next event outs hstep
    rcases step_cases hstep with ⟨result, rfl, -, rfl, rfl⟩ | ⟨rfl, -, rfl, rfl⟩ |
      ⟨nRead, buffer, rfl, -, rfl, rfl⟩ | ⟨data, rfl, -, rfl, rfl⟩ | ⟨rfl, rfl, rfl⟩ |
      ⟨rfl, rfl, rfl⟩
    · rfl
    · rfl
    · rfl
    · rfl
    · simp [Mailbox.machine, Mailbox.step, Machine.run]
    · split <;> rfl

def Thread.inFlight : Thread → List UInt8
  | .appending data => data
  | .connecting | .checking | .reading => []

def received (events : List Event) : List UInt8 :=
  events.flatMap fun
    | .recv nRead buffer => taken nRead buffer
    | _ => []

def appended (outs : List Output) : List UInt8 := Mailbox.appended (outs.flatMap mailbox.events)

def handedOut (outs : List Output) : List UInt8 := outs.flatMap mailbox.outputs

theorem appended_append (first second : List Output) :
    appended (first ++ second) = appended first ++ appended second := by
  rw [appended, List.flatMap_append, Mailbox.appended, List.flatMap_append]
  rfl

theorem received_concat (past : List Event) (event : Event) :
    received (past ++ [event]) = received past ++ received [event] := List.flatMap_append

/-- Every byte read is appended once, in order. -/
theorem step_appended {past : List Event} {client next : TcpClient} {event : Event}
    {outs new : List Output} (here : appended outs ++ client.thread.inFlight = received past)
    (hstep : machine.step client event = some (next, new)) :
    appended (outs ++ new) ++ next.thread.inFlight = received (past ++ [event]) := by
  rw [appended_append, received_concat, ← here]
  rcases step_cases hstep with ⟨result, rfl, place, rfl, rfl⟩ | ⟨rfl, place, rfl, rfl⟩ |
    ⟨nRead, buffer, rfl, place, rfl, rfl⟩ | ⟨data, rfl, place, rfl, rfl⟩ | ⟨rfl, rfl, rfl⟩ |
    ⟨rfl, rfl, rfl⟩
  · rw [place]
    rfl
  · rw [place]
    cases client.connected <;> rfl
  · rw [place]
    by_cases zero : nRead = 0
    · subst zero
      rfl
    · rw [if_pos zero]
      simp [appended, Mailbox.appended, Thread.inFlight, received]
  · rw [place]
    simp [appended, Mailbox.appended, mailbox, Thread.inFlight, received]
  · simp [appended, Mailbox.appended, mailbox, received]
  · cases client.connected <;> simp [appended, Mailbox.appended, mailbox, received]

/-- The bytes handed out, those held and those in flight are all bytes read. -/
theorem run_bytes {events : List Event} {last : TcpClient} {outs : List Output}
    (hrun : machine.run {} events = some (last, outs)) :
    handedOut outs ++ last.recvData ++ last.thread.inFlight = received events := by
  have appends := machine.run_history
    (fun past client outs => appended outs ++ client.thread.inFlight = received past)
    step_appended rfl hrun
  rw [← appends]
  congr 1
  exact Mailbox.run_eq (mailbox.run hrun)

/-! ## The connections -/

/-- The thread only connects when the last connection was forced to an end. -/
structure Disciplined (client : TcpClient) (outs : List Output) : Prop where
  connecting : client.thread = .connecting → client.connected = false
  count : outs.count (.connecting true) = outs.count .reconnect + client.connected.toNat

theorem Disciplined.step {client next : TcpClient} {event : Event} {outs new : List Output}
    (disciplined : Disciplined client outs)
    (hstep : machine.step client event = some (next, new)) : Disciplined next (outs ++ new) := by
  have count := disciplined.count
  rcases step_cases hstep with ⟨result, rfl, place, rfl, rfl⟩ | ⟨rfl, place, rfl, rfl⟩ |
    ⟨nRead, buffer, rfl, place, rfl, rfl⟩ | ⟨data, rfl, place, rfl, rfl⟩ | ⟨rfl, rfl, rfl⟩ |
    ⟨rfl, rfl, rfl⟩
  · have closed := disciplined.connecting place
    rw [closed] at count
    refine ⟨nofun, ?_⟩
    cases result <;> simp_all
  · refine ⟨fun connecting => ?_, by rw [List.append_nil]; exact count⟩
    cases closed : client.connected with
    | false => rfl
    | true =>
        rw [closed] at connecting
        cases connecting
  · refine ⟨fun connecting => ?_, by rw [List.append_nil]; exact count⟩
    split at connecting <;> cases connecting
  · exact ⟨nofun, by simp_all⟩
  · exact ⟨disciplined.connecting, by simp_all⟩
  · refine ⟨fun _ => rfl, ?_⟩
    cases closed : client.connected <;> simp_all

theorem disciplined_run {events : List Event} {last : TcpClient} {outs : List Output}
    (hrun : machine.run {} events = some (last, outs)) : Disciplined last outs :=
  machine.run_history (fun _ => Disciplined) Disciplined.step ⟨fun _ => rfl, rfl⟩ hrun

/-- How often the thread can still read before it connects again. -/
def Thread.reads : Thread → Nat
  | .reading => 1
  | .connecting | .checking | .appending _ => 0

def recvs (events : List Event) : Nat :=
  events.countP fun
    | .recv _ _ => true
    | _ => false

def attempts (events : List Event) : Nat :=
  events.countP fun
    | .connect2server _ => true
    | _ => false

theorem step_reads {client next : TcpClient} {event : Event} {outs : List Output}
    (hstep : machine.step client event = some (next, outs)) (closed : client.connected = false)
    (none : attempts [event] = 0) :
    next.connected = false ∧ recvs [event] + next.thread.reads ≤ client.thread.reads := by
  rcases step_cases hstep with ⟨result, rfl, place, rfl, rfl⟩ | ⟨rfl, place, rfl, rfl⟩ |
    ⟨nRead, buffer, rfl, place, rfl, rfl⟩ | ⟨data, rfl, place, rfl, rfl⟩ | ⟨rfl, rfl, rfl⟩ |
    ⟨rfl, rfl, rfl⟩
  · cases none
  · exact ⟨closed, by simp [closed, recvs, Thread.reads]⟩
  · refine ⟨closed, ?_⟩
    rw [place]
    split <;> simp [recvs, Thread.reads]
  · exact ⟨closed, by simp [recvs, Thread.reads]⟩
  · exact ⟨closed, by simp [recvs]⟩
  · exact ⟨rfl, by simp [recvs]⟩

/-- Without a connection the thread reads from the socket at most once more. -/
theorem recvs_le {client last : TcpClient} {events : List Event} {outs : List Output}
    (hrun : machine.run client events = some (last, outs)) (closed : client.connected = false)
    (none : attempts events = 0) : recvs events ≤ client.thread.reads := by
  induction events generalizing client outs with
  | nil => exact Nat.zero_le _
  | cons event events ih =>
      obtain ⟨next, first, rest, hstep, hrest, rfl⟩ := machine.run_cons_eq_some.mp hrun
      have parts : attempts [event] = 0 ∧ attempts events = 0 := by
        rw [← List.singleton_append, attempts, List.countP_append] at none
        exact Nat.add_eq_zero_iff.mp none
      obtain ⟨nextClosed, here⟩ := step_reads hstep closed parts.1
      have later := ih hrest nextClosed parts.2
      rw [← List.singleton_append, recvs, List.countP_append]
      exact Nat.le_trans (Nat.add_le_add_left later _) here

/-- In every interleaving of the thread with the main loop, the bytes handed out, those in
`recv_data_` and those in flight are all bytes read, in order; the client opens a connection
exactly once more than open ones were forced to reconnect, or as often if it is not
connected; and once it is not connected it reads at most one more time before it connects. -/
theorem bytes_faithful {events : List Event} {last : TcpClient} {outs : List Output}
    (hrun : machine.run {} events = some (last, outs)) :
    handedOut outs ++ last.recvData ++ last.thread.inFlight = received events ∧
      outs.count (.connecting true) = outs.count .reconnect + last.connected.toNat ∧
      ∀ before after middle first, events = before ++ after →
        machine.run {} before = some (middle, first) → middle.connected = false →
        attempts after = 0 → recvs after ≤ 1 := by
  refine ⟨run_bytes hrun, (disciplined_run hrun).count, ?_⟩
  rintro before after middle first rfl hbefore closed none
  obtain ⟨next, outs, rest, hfirst, hafter, -⟩ := machine.run_append_eq_some.mp hrun
  cases hbefore.symm.trans hfirst
  refine Nat.le_trans (recvs_le hafter closed none) ?_
  cases middle.thread with
  | reading => exact Nat.le_refl 1
  | connecting | checking | appending data => exact Nat.zero_le _

/-- A failed attempt, a connection that is forced to an end while the thread reads, and a
byte that still arrives on it. -/
theorem bytes_faithful_reconnect :
    ∃ last outs, machine.run {}
        [.connect2server false, .check, .connect2server true, .check, .recv 2 [7, 50, 0], .append,
          .getRecvData, .check, .forceReconnect, .recv 1 [52, 0, 0], .append, .check] =
        some (last, outs) ∧
      handedOut outs ++ last.recvData ++ last.thread.inFlight = [7, 50, 52] ∧
      recvs [.recv 1 [52, 0, 0], .append, .check] ≤ 1 := by
  let before : List Event :=
    [.connect2server false, .check, .connect2server true, .check, .recv 2 [7, 50, 0], .append,
      .getRecvData, .check, .forceReconnect]
  obtain ⟨⟨last, outs⟩, hrun⟩ := Option.isSome_iff_exists.mp
    (show (machine.run {} (before ++ [.recv 1 [52, 0, 0], .append, .check])).isSome = true by
      decide)
  obtain ⟨bytes, -, stale⟩ := bytes_faithful hrun
  exact ⟨last, outs, hrun, bytes, stale before _ _ _ rfl rfl rfl rfl⟩

end TcpClient

end NasaCpp.Apps
