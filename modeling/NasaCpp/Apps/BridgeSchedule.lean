import NasaCpp.Apps.BridgeRuns

/-!
# Rounds and threads

A round of the main loop as one step is what the threads do when the main loop has the turn
from one `getRecvData` to the next, and a command handled between two rounds is one that has
arrived, been fetched and been handled.  What a round finds in the client, the thread of the
client has read and connected before.
-/

namespace NasaCpp.Apps.TcpHassBridge

open General Protocol

/-! ## Publishing -/

/-- The outputs before a loop stay in front of those of the loop. -/
theorem foldl_publish (msgs : List MessageSet) (hass : Bridge.HassBridge) (outs : List Output) :
    msgs.foldl (fun state msg =>
        ((state.1.publishToHass msg).1,
          state.2 ++ (state.1.publishToHass msg).2.map Output.hass)) (hass, outs) =
      ((publish hass msgs).1, outs ++ (publish hass msgs).2) := by
  unfold publish
  induction msgs generalizing hass outs with
  | nil => exact congrArg _ (List.append_nil outs).symm
  | cons msg msgs ih =>
      have here := ih (hass.publishToHass msg).1 (outs ++ (hass.publishToHass msg).2.map .hass)
      have alone := ih (hass.publishToHass msg).1 ([] ++ (hass.publishToHass msg).2.map .hass)
      rw [List.foldl_cons, List.foldl_cons]
      refine here.trans ?_
      refine Eq.trans ?_ (congrArg (fun result : Bridge.HassBridge × List Output =>
        (result.1, outs ++ result.2)) alone.symm)
      rw [List.nil_append, List.append_assoc]

theorem publish_cons (hass : Bridge.HassBridge) (msg : MessageSet) (msgs : List MessageSet) :
    publish hass (msg :: msgs) =
      ((publish (hass.publishToHass msg).1 msgs).1,
        (hass.publishToHass msg).2.map .hass ++ (publish (hass.publishToHass msg).1 msgs).2) :=
  foldl_publish msgs (hass.publishToHass msg).1 ((hass.publishToHass msg).2.map Output.hass)

namespace Threads

variable (overread : Overread) (config : Config)

def inRound : Output → List Apps.Output
  | .main out => [out]
  | .hass (.publishToHass _) results => results.map .hass
  | .hass _ _ | .client _ _ | .mqtt _ _ => []

/-- The main loop publishes the messages of its round without being interrupted. -/
theorem publish_schedule (state : State) {pktsRx : List Packet} {msgs : List MessageSet}
    (place : state.main = .publishing pktsRx msgs) :
    ∃ outs, (machine overread config).run state (List.replicate msgs.length .publish) =
        some ({ state with
          hass := (publish state.hass msgs).1, main := .publishing pktsRx [] }, outs) ∧
      outs.flatMap inRound = (publish state.hass msgs).2 := by
  induction msgs generalizing state with
  | nil =>
      refine ⟨[], ?_, rfl⟩
      rw [← place]
      rfl
  | cons msg msgs ih =>
      obtain ⟨outs, hrun, houts⟩ := ih { state with
        hass := (state.hass.publishToHass msg).1, main := .publishing pktsRx msgs } rfl
      have hstep : (machine overread config).step state .publish =
          some ({ state with
            hass := (state.hass.publishToHass msg).1, main := .publishing pktsRx msgs },
            [.hass (.publishToHass msg) (state.hass.publishToHass msg).2]) := by
        simp only [machine, step, place]
      refine ⟨_ :: outs, (machine overread config).run_cons_eq_some.mpr
        ⟨_, _, outs, hstep, ?_, rfl⟩, ?_⟩
      · rw [publish_cons]
        exact hrun
      · rw [List.flatMap_cons, houts, publish_cons]
        rfl

def leave (outs : List Apps.Output) (client : TcpClient) : TcpClient :=
  if .forceReconnect ∈ outs then client.forceReconnect else client

/-- The end of a round: the check of the connection, and the reconnect if there is one. -/
theorem check_schedule (state : State) (place : state.main = .checking) (input : Input)
    (connected : state.client.connected = input.connected) :
    ∃ events outs, (machine overread config).run state events =
        some ({ state with
          client := leave (checkTimeout config.toSettings state.loop input).2 state.client
          loop := (checkTimeout config.toSettings state.loop input).1
          main := .receiving }, outs) ∧
      outs.flatMap inRound = (checkTimeout config.toSettings state.loop input).2 := by
  have hcheck (main : MainAt)
      (hmain : (if config.Expired state.loop.tpLastData input.checkAt ∧
        state.client.connected = true then .forcing else .receiving) = main) :
      (machine overread config).step state (.check input.checkAt) =
        some ({ state with main }, []) := by
    rw [← hmain]
    exact if_pos place
  by_cases expired : config.Expired state.loop.tpLastData input.checkAt ∧ input.connected = true
  · have decided := hcheck .forcing (if_pos (by rwa [connected]))
    have timeout : checkTimeout config.toSettings state.loop input =
        ({ state.loop with tpLastData := input.forceAt }, [.forceReconnect]) := if_pos expired
    have hforce : (machine overread config).step { state with main := .forcing }
        (.force input.forceAt) = some ({ state with
          client := state.client.forceReconnect
          loop := { state.loop with tpLastData := input.forceAt }
          main := .receiving },
        [.client .forceReconnect (if state.client.connected then [.reconnect] else []),
          .main .forceReconnect]) := by
      simp only [machine, step, if_true]
    rw [timeout]
    exact ⟨[.check input.checkAt, .force input.forceAt], _,
      (machine overread config).run_cons_eq_some.mpr ⟨_, _, _, decided,
        (machine overread config).run_singleton hforce, rfl⟩, rfl⟩
  · have decided := hcheck .receiving (if_neg (by rwa [connected]))
    have quiet : checkTimeout config.toSettings state.loop input = (state.loop, []) :=
      if_neg expired
    rw [quiet]
    exact ⟨[.check input.checkAt], _,
      (machine overread config).run_singleton decided, rfl⟩

/-- The middle of a round: the packets of the handlers, if any are to be sent. -/
theorem collect_schedule (state : State) {pktsRx : List Packet}
    (place : state.main = .publishing pktsRx []) :
    ∃ outs, (machine overread config).run state [.collect] =
        some ({ state with
          hass := (transmit config state.hass pktsRx).1, main := .checking }, outs) ∧
      outs.flatMap inRound = (transmit config state.hass pktsRx).2 := by
  have hstep : (machine overread config).step state .collect =
      some (collect config state pktsRx) := by
    simp only [machine, step, place]
  have hnext : (collect config state pktsRx).1 =
      { state with hass := (transmit config state.hass pktsRx).1, main := .checking } := by
    unfold collect transmit
    split <;> rfl
  refine ⟨(collect config state pktsRx).2, ?_, ?_⟩
  · rw [← hnext]
    exact (machine overread config).run_singleton hstep
  · unfold collect transmit
    split
    · simp only [List.flatMap_cons, inRound, List.nil_append, write]
      split <;> rfl
    · rfl

/-- The rest of a round that has decoded its packets. -/
theorem turn_schedule (state : State) {pktsRx : List Packet} {msgs : List MessageSet}
    (place : state.main = .publishing pktsRx msgs) (input : Input)
    (connected : state.client.connected = input.connected) :
    ∃ events outs, (machine overread config).run state events =
        some ({ state with
          client := leave (checkTimeout config.toSettings state.loop input).2 state.client
          loop := (checkTimeout config.toSettings state.loop input).1
          hass := (transmit config (publish state.hass msgs).1 pktsRx).1
          main := .receiving }, outs) ∧
      outs.flatMap inRound = (publish state.hass msgs).2 ++
        (transmit config (publish state.hass msgs).1 pktsRx).2 ++
        (checkTimeout config.toSettings state.loop input).2 := by
  obtain ⟨told, hpublish, htold⟩ := publish_schedule overread config state place
  obtain ⟨sent, hcollect, hsent⟩ := collect_schedule overread config
    { state with hass := (publish state.hass msgs).1, main := .publishing pktsRx [] } rfl
  obtain ⟨checks, checked, hcheck, hchecked⟩ :=
    check_schedule overread config
      { state with
        hass := (transmit config (publish state.hass msgs).1 pktsRx).1, main := .checking }
      rfl input connected
  refine ⟨List.replicate msgs.length .publish ++ ([.collect] ++ checks),
    told ++ (sent ++ checked), ?_, ?_⟩
  · exact (machine overread config).run_append_eq_some.mpr ⟨_, told, _, hpublish,
      (machine overread config).run_append_eq_some.mpr ⟨_, sent, checked, hcollect, hcheck, rfl⟩,
      rfl⟩
  · rw [List.flatMap_append, List.flatMap_append, htold, hsent, hchecked, List.append_assoc]

variable {overread config}

/-! ## The thread of the client -/

/-- Steps of the client are steps of the program that its rounds do not see. -/
theorem client_schedule (state : State) {events : List TcpClient.Event} {client : TcpClient}
    {results : List TcpClient.Output} (thread : ∀ event ∈ events, ofThread event = true)
    (hrun : TcpClient.machine.run state.client events = some (client, results)) :
    ∃ outs, (machine overread config).run state (events.map .client) =
        some ({ state with client }, outs) ∧
      outs.flatMap inRound = [] := by
  induction events generalizing state results with
  | nil =>
      cases hrun
      exact ⟨[], rfl, rfl⟩
  | cons event events ih =>
      obtain ⟨next, first, rest, hstep, hrest, -⟩ := TcpClient.machine.run_cons_eq_some.mp hrun
      obtain ⟨outs, hlater, houts⟩ := ih { state with client := next }
        (fun other hmem => thread other (List.mem_cons_of_mem _ hmem)) hrest
      have here : (machine overread config).step state (.client event) =
          some ({ state with client := next }, [.client event first]) :=
        (if_pos (thread event List.mem_cons_self)).trans
          (Option.map_eq_some_iff.mpr ⟨_, hstep, rfl⟩)
      refine ⟨.client event first :: outs, ?_, ?_⟩
      · exact (machine overread config).run_cons_eq_some.mpr ⟨_, _, outs, here, hlater, rfl⟩
      · rw [List.flatMap_cons, houts]
        rfl

/-- A connected client reads whatever comes, a byte at a time. -/
theorem deliver (client : TcpClient) (received : List UInt8) (connected : client.connected = true)
    (place : client.thread = .checking) :
    ∃ events results, (∀ event ∈ events, ofThread event = true) ∧
      TcpClient.machine.run client events =
        some ({ client with recvData := client.recvData ++ received }, results) := by
  induction received generalizing client with
  | nil => exact ⟨[], [], nofun, by rw [List.append_nil]; rfl⟩
  | cons byte received ih =>
      obtain ⟨events, results, thread, hrun⟩ :=
        ih { client with recvData := client.recvData ++ [byte] } connected place
      have first : TcpClient.machine.run client [.check, .recv 1 [byte], .append] =
          some ({ client with recvData := client.recvData ++ [byte] }, [.appended [byte]]) := by
        obtain ⟨_, recvData, _⟩ := client
        cases connected
        cases place
        rfl
      refine ⟨[.check, .recv 1 [byte], .append] ++ events, _, ?_,
        TcpClient.machine.run_append_eq_some.mpr ⟨_, _, results, first, ?_, rfl⟩⟩
      · exact List.forall_mem_append.mpr ⟨by simp [ofThread], thread⟩
      · rw [hrun]
        dsimp only
        rw [List.append_assoc]
        rfl

/-- The client can be as the next round finds it. -/
theorem prepare (client : TcpClient) (input : Input) (place : client.thread = .checking)
    (empty : client.recvData = [])
    (holds : client.connected = true → input.connected = true)
    (silent : input.connected = false → input.received = []) :
    ∃ events results, (∀ event ∈ events, ofThread event = true) ∧
      TcpClient.machine.run client events =
        some (⟨input.connected, input.received, .checking⟩, results) := by
  obtain ⟨connected, recvData, thread⟩ := client
  cases place
  cases empty
  cases hinput : input.connected with
  | false =>
      rw [silent hinput]
      rw [hinput] at holds
      cases connected with
      | false => exact ⟨[], [], nofun, rfl⟩
      | true => cases holds rfl
  | true =>
      obtain ⟨events, results, ofClient, hrun⟩ :=
        deliver ⟨true, [], .checking⟩ input.received rfl rfl
      cases connected with
      | true => exact ⟨events, results, ofClient, hrun⟩
      | false =>
          refine ⟨[.check, .connect2server true] ++ events, _,
            List.forall_mem_append.mpr ⟨by simp [ofThread], ofClient⟩,
            TcpClient.machine.run_append_eq_some.mpr ⟨_, [.connecting true], results, rfl, hrun,
              rfl⟩⟩

/-! ## Whole rounds -/

/-- The main loop between two rounds of a state of the threads, with no command waiting, and
the client between two reads. -/
structure Between (state : State) (rounds : TcpHassBridge.State) : Prop where
  receiving : state.main = .receiving
  loop : state.loop = rounds.toLoop
  hass : state.hass = rounds.hass
  data : state.data = []
  recvMsgs : state.recvMsgs = []
  thread : state.client.thread = .checking
  empty : state.client.recvData = []

/-- Only the end of a round forces a reconnect. -/
theorem leave_round {state : TcpHassBridge.State} {input : Input} {loop : Loop}
    {pktsRx : List Packet} {first : List Apps.Output}
    (hreceive : receive overread config.toSettings state.toLoop input.received input.recvAt =
      some (loop, pktsRx, first))
    (published : Bridge.HassBridge) (msgs : List MessageSet) (client : TcpClient) :
    leave (first ++ (publish state.hass msgs).2 ++ (transmit config published pktsRx).2 ++
      (checkTimeout config.toSettings loop input).2) client =
      leave (checkTimeout config.toSettings loop input).2 client := by
  have notFirst : Apps.Output.forceReconnect ∉ first := by
    obtain ⟨result, -, hresult⟩ := Option.map_eq_some_iff.mp hreceive
    cases hresult
    split <;> split <;> split <;> simp
  have notPublished : Apps.Output.forceReconnect ∉ (publish state.hass msgs).2 := fun member =>
    absurd (isLoop_publish state.hass msgs) (List.ne_nil_of_mem (List.mem_filter.mpr ⟨member, rfl⟩))
  have notSent : Apps.Output.forceReconnect ∉ (transmit config published pktsRx).2 := fun member =>
    absurd (isLoop_transmit config published pktsRx)
      (List.ne_nil_of_mem (List.mem_filter.mpr ⟨member, rfl⟩))
  unfold leave
  simp only [List.mem_append, notFirst, notPublished, notSent, false_or]

theorem round_schedule {rounds next : TcpHassBridge.State} {state : State} {input : Input}
    {done : List Apps.Output} (between : Between state rounds)
    (holds : state.client.connected = true → input.connected = true)
    (silent : input.connected = false → input.received = [])
    (hround : round overread config rounds input = some (next, done)) :
    ∃ events last outs, (machine overread config).run state events = some (last, outs) ∧
      Between last next ∧ last.client = leave done ⟨input.connected, [], .checking⟩ ∧
      outs.flatMap inRound = done := by
  obtain ⟨loop, pktsRx, first, hreceive, hloop, hhass, rfl⟩ := round_parts hround
  obtain ⟨called, results, ofClient, hclient⟩ :=
    prepare state.client input between.thread between.empty holds silent
  obtain ⟨quiet, hprepare, hquiet⟩ := client_schedule state ofClient hclient
  have hfetch : (machine overread config).step
      { state with client := ⟨input.connected, input.received, .checking⟩ } (.fetch input.recvAt) =
      some ({ state with
        client := ⟨input.connected, [], .checking⟩
        loop := loop
        main := .publishing pktsRx (pktsRx.flatMap Packet.messages) },
        .client .getRecvData [.handedOut input.received] :: first.map .main) := by
    rw [← between.loop] at hreceive
    simp only [machine, step, between.receiving, if_true, fetch, TcpClient.getRecvData]
    rw [hreceive]
    rfl
  obtain ⟨events, outs, hrun, houts⟩ :=
    turn_schedule overread config
      { state with
        client := ⟨input.connected, [], .checking⟩
        loop := loop
        main := .publishing pktsRx (pktsRx.flatMap Packet.messages) } rfl input rfl
  have same := leave_round hreceive
    (publish rounds.hass (pktsRx.flatMap Packet.messages)).1
    (pktsRx.flatMap Packet.messages) ⟨input.connected, [], .checking⟩
  refine ⟨called.map .client ++ .fetch input.recvAt :: events, _, _,
    (machine overread config).run_append_eq_some.mpr ⟨_, quiet, _, hprepare,
      (machine overread config).run_cons_eq_some.mpr ⟨_, _, outs, hfetch, hrun, rfl⟩, rfl⟩,
    ?_, same.symm, ?_⟩
  · refine ⟨rfl, hloop.symm, ?_, between.data, between.recvMsgs, ?_, ?_⟩
    · rw [hhass, between.hass]
    · dsimp only
      unfold leave
      split <;> rfl
    · dsimp only
      unfold leave
      split <;> rfl
  · have main : (first.map Output.main).flatMap inRound = first := by
      rw [List.flatMap_map]
      exact List.flatMap_singleton' first
    rw [List.flatMap_append, hquiet, List.nil_append, List.flatMap_append, List.flatMap_cons, main,
      houts, between.hass]
    simp only [inRound, List.nil_append, List.append_assoc]

theorem command_schedule {rounds next : TcpHassBridge.State} {state : State}
    {topic payload : String} {done : List Apps.Output} (between : Between state rounds)
    (hstep : (TcpHassBridge.machine overread config).step rounds (.command topic payload) =
      some (next, done)) :
    ∃ events last outs, (machine overread config).run state events = some (last, outs) ∧
      Between last next ∧ last.client = state.client ∧ outs.flatMap inRound = done := by
  obtain ⟨hass, hcommand, hresult⟩ := Option.map_eq_some_iff.mp hstep
  cases hresult
  rw [← between.hass] at hcommand
  refine ⟨[.messageArrived (topic, payload), .getData, .handle], { state with hass },
    [.mqtt (.append [(topic, payload)]) [], .mqtt .takeAll [(topic, payload)],
      .hass (.command topic payload) []], ?_, ?_, rfl, rfl⟩
  · have data := between.data
    have recvMsgs := between.recvMsgs
    simp only [Machine.run, machine, step, data, recvMsgs, List.nil_append, if_true, hcommand,
      Option.bind_some, Option.map_some, List.append_nil, List.cons_append]
  · exact ⟨between.receiving, between.loop, rfl, between.data, between.recvMsgs, between.thread,
      between.empty⟩

/-! ## Runs -/

/-- The rounds find what a client can have for them: it only reads with a connection, and loses
none before a reconnect is forced. -/
def Attainable : Bool → List (TcpHassBridge.Event × List Apps.Output) → Prop
  | _, [] => True
  | connected, (.command _ _, _) :: trace => Attainable connected trace
  | connected, (.round input, outs) :: trace =>
      (connected = true → input.connected = true) ∧
        (input.connected = false → input.received = []) ∧
        Attainable (input.connected && decide (.forceReconnect ∉ outs)) trace

instance decidableAttainable :
    ∀ (connected : Bool) (trace : List (TcpHassBridge.Event × List Apps.Output)),
      Decidable (Attainable connected trace)
  | _, [] => isTrue trivial
  | connected, (.command _ _, _) :: trace => decidableAttainable connected trace
  | _, (.round input, outs) :: trace =>
      have : Decidable (Attainable (input.connected && decide (.forceReconnect ∉ outs)) trace) :=
        decidableAttainable _ trace
      inferInstanceAs (Decidable (_ ∧ _ ∧ _))

theorem leave_connected (outs : List Apps.Output) (client : TcpClient) :
    (leave outs client).connected = (client.connected && decide (.forceReconnect ∉ outs)) := by
  unfold leave
  split
  · rename_i forced
    rw [decide_eq_false (not_not_intro forced), Bool.and_false]
    rfl
  · rename_i kept
    rw [decide_eq_true kept, Bool.and_true]

theorem run_schedule {rounds last : TcpHassBridge.State} {state : State}
    {events : List TcpHassBridge.Event} {trace : List (TcpHassBridge.Event × List Apps.Output)}
    (between : Between state rounds) (attainable : Attainable state.client.connected trace)
    (hrun : (TcpHassBridge.machine overread config).recorded.run rounds events =
      some (last, trace)) :
    ∃ steps final outs, (machine overread config).run state steps = some (final, outs) ∧
      Between final last ∧ outs.flatMap inRound = trace.flatMap Prod.snd := by
  induction events generalizing rounds state trace with
  | nil =>
      cases hrun
      exact ⟨[], state, [], rfl, between, rfl⟩
  | cons event events ih =>
      obtain ⟨next, first, rest, hfirst, hrest, rfl⟩ :=
        (TcpHassBridge.machine overread config).recorded.run_cons_eq_some.mp hrun
      obtain ⟨done, hstep, rfl⟩ := (TcpHassBridge.machine overread config).recorded_step hfirst
      have turn : ∃ steps middle outs,
          (machine overread config).run state steps = some (middle, outs) ∧
          Between middle next ∧ Attainable middle.client.connected rest ∧
          outs.flatMap inRound = done := by
        cases event with
        | round input =>
            obtain ⟨holds, silent, later⟩ := attainable
            obtain ⟨steps, middle, outs, hsteps, betweenNext, client, houts⟩ :=
              round_schedule between holds silent hstep
            refine ⟨steps, middle, outs, hsteps, betweenNext, ?_, houts⟩
            rw [client, leave_connected]
            exact later
        | command topic payload =>
            obtain ⟨steps, middle, outs, hsteps, betweenNext, client, houts⟩ :=
              command_schedule between hstep
            exact ⟨steps, middle, outs, hsteps, betweenNext, client ▸ attainable, houts⟩
      obtain ⟨steps, middle, outs, hsteps, betweenNext, later, houts⟩ := turn
      obtain ⟨more, final, finalOuts, hmore, betweenLast, hfinal⟩ := ih betweenNext later hrest
      refine ⟨steps ++ more, final, outs ++ finalOuts,
        (machine overread config).run_append_eq_some.mpr ⟨middle, outs, finalOuts, hsteps, hmore,
          rfl⟩, betweenLast, ?_⟩
      rw [List.flatMap_append, houts, hfinal]
      rfl

/-- Every run of the bridge in whole rounds, with what a client can have for them, is a run of
its threads with the same outputs: a round is a turn of the main loop in which no other thread
runs, and a command one that arrives, is fetched and is handled between two rounds. -/
theorem rounds_scheduled {hass : Bridge.HassBridge} {now : ℤ} {last : TcpHassBridge.State}
    {events : List TcpHassBridge.Event} {trace : List (TcpHassBridge.Event × List Apps.Output)}
    (attainable : Attainable false trace)
    (hrun : (TcpHassBridge.machine overread config).recorded.run
      ⟨{ tpLastData := now }, hass⟩ events = some (last, trace)) :
    ∃ steps final outs, (machine overread config).run (start hass now) steps =
        some (final, outs) ∧
      final.loop = last.toLoop ∧ final.hass = last.hass ∧
      outs.flatMap inRound = trace.flatMap Prod.snd := by
  have hconnect : (machine overread config).step (start hass now)
      (.client (.connect2server false)) =
      some ({ start hass now with client := { thread := .checking } },
        [.client (.connect2server false) [.connecting false]]) := rfl
  have between : Between { start hass now with client := { thread := .checking } }
      ⟨{ tpLastData := now }, hass⟩ := ⟨rfl, rfl, rfl, rfl, rfl, rfl, rfl⟩
  obtain ⟨steps, final, outs, hsteps, betweenLast, houts⟩ :=
    run_schedule between attainable hrun
  exact ⟨_, final, _, (machine overread config).run_cons_eq_some.mpr
    ⟨_, _, outs, hconnect, hsteps, rfl⟩, betweenLast.loop, betweenLast.hass, houts⟩

/-- A byte, a silence that forces a reconnect and a round without a connection. -/
theorem rounds_scheduled_silence :
    ∃ steps final outs, (machine (fun _ => .error .crcError) ⟨{}, false, {}⟩).run
        (start { sa := ⟨.jigTester, 0, 0⟩ } 0) steps = some (final, outs) ∧
      outs.flatMap inRound = [.recv 1, .forceReconnect] := by
  have runs : ((TcpHassBridge.machine (fun _ => .error .crcError) ⟨{}, false, {}⟩).recorded.run
      ⟨{ tpLastData := 0 }, { sa := ⟨.jigTester, 0, 0⟩ }⟩
      [.round ⟨[7], 20000000000, true, 20000000001, 0⟩,
        .round ⟨[], 0, true, 51000000000, 51000000002⟩,
        .round ⟨[], 0, false, 52000000000, 0⟩]).map Prod.snd =
      some [(.round ⟨[7], 20000000000, true, 20000000001, 0⟩, [.recv 1]),
        (.round ⟨[], 0, true, 51000000000, 51000000002⟩, [.forceReconnect]),
        (.round ⟨[], 0, false, 52000000000, 0⟩, [])] := by
    decide +kernel
  obtain ⟨⟨last, trace⟩, hrun, htrace⟩ := Option.map_eq_some_iff.mp runs
  dsimp only at htrace
  obtain ⟨steps, final, outs, hsteps, -, -, houts⟩ :=
    rounds_scheduled (by rw [htrace]; decide +kernel) hrun
  refine ⟨steps, final, outs, hsteps, ?_⟩
  rw [houts, htrace]
  rfl

end Threads

end NasaCpp.Apps.TcpHassBridge
