import NasaCpp.Apps.MainLoop

/-!
# The buffer limit

The rest that decoding leaves is shorter than any sensible limit, so neither application
ever throws buffered data away.
-/

namespace NasaCpp.Apps

open General Protocol

namespace TcpNasaLogger

theorem step_bounded {overread : Overread} {settings : Settings} {loop next : Loop}
    {input : Input} {outs : List Output} (large : 1501 ≤ settings.limit) (bounded : loop.Bounded)
    (hstep : (machine overread settings).step loop input = some (next, outs)) :
    next.Bounded ∧ .clearBuffer ∉ outs := by
  obtain ⟨⟨middle, pkts, first⟩, hreceive, hresult⟩ := Option.map_eq_some_iff.mp hstep
  obtain ⟨middleBounded, kept⟩ := receive_bounded large bounded hreceive
  obtain ⟨nextBounded, keptLater⟩ := checkTimeout_bounded settings input middleBounded
  cases hresult
  exact ⟨nextBounded, List.not_mem_append kept keptLater⟩

/-- The logger runs on any input without clearing its buffer. -/
theorem run_bounded {overread : Overread} {settings : Settings} (large : 1501 ≤ settings.limit)
    {loop : Loop} (bounded : loop.Bounded) (inputs : List Input) :
    ∃ last outs, (machine overread settings).run loop inputs = some (last, outs) ∧
      .clearBuffer ∉ outs := by
  induction inputs generalizing loop with
  | nil => exact ⟨loop, [], rfl, List.not_mem_nil⟩
  | cons input inputs ih =>
      obtain ⟨middle, pkts, first, hreceive⟩ :=
        exists_receive overread settings loop input.received input.recvAt
      have hstep : (machine overread settings).step loop input =
          some ((checkTimeout settings middle input).1,
            first ++ (checkTimeout settings middle input).2) :=
        Option.map_eq_some_iff.mpr ⟨_, hreceive, rfl⟩
      obtain ⟨nextBounded, kept⟩ := step_bounded large bounded hstep
      obtain ⟨last, rest, hrun, keptLater⟩ := ih nextBounded
      exact ⟨last, _, (machine overread settings).run_cons_eq_some.mpr
        ⟨_, _, rest, hstep, hrun, rfl⟩, List.not_mem_append kept keptLater⟩

end TcpNasaLogger

namespace TcpHassBridge

theorem clearBuffer_not_mem_publish (hass : Bridge.HassBridge) (msgs : List MessageSet) :
    .clearBuffer ∉ (publish hass msgs).2 := by
  unfold publish
  suffices general : ∀ state : Bridge.HassBridge × List Output, .clearBuffer ∉ state.2 →
      .clearBuffer ∉ (msgs.foldl (fun state msg =>
        ((state.1.publishToHass msg).1,
          state.2 ++ (state.1.publishToHass msg).2.map Output.hass)) state).2 from
    general _ List.not_mem_nil
  induction msgs with
  | nil => exact fun state kept => kept
  | cons msg msgs ih =>
      intro state kept
      exact ih _ (List.not_mem_append kept (by simp))

theorem clearBuffer_not_mem_transmit (config : Config) (hass : Bridge.HassBridge)
    (pktsRx : List Packet) : .clearBuffer ∉ (transmit config hass pktsRx).2 := by
  unfold transmit
  split
  · dsimp only
    split <;> simp
  · exact List.not_mem_nil

theorem step_bounded {overread : Overread} {config : Config} {state next : State} {event : Event}
    {outs : List Output} (large : 1501 ≤ config.limit) (bounded : state.toLoop.Bounded)
    (hstep : (machine overread config).step state event = some (next, outs)) :
    next.toLoop.Bounded ∧ .clearBuffer ∉ outs := by
  cases event with
  | round input =>
      obtain ⟨⟨middle, pktsRx, first⟩, hreceive, hresult⟩ := Option.map_eq_some_iff.mp hstep
      obtain ⟨middleBounded, kept⟩ := receive_bounded large bounded hreceive
      obtain ⟨nextBounded, keptLater⟩ := checkTimeout_bounded config.toSettings input middleBounded
      cases hresult
      refine ⟨nextBounded,
        List.not_mem_append (List.not_mem_append (List.not_mem_append kept ?_) ?_) keptLater⟩
      · exact clearBuffer_not_mem_publish _ _
      · exact clearBuffer_not_mem_transmit _ _ _
  | command topic payload =>
      obtain ⟨hass, -, hresult⟩ := Option.map_eq_some_iff.mp hstep
      cases hresult
      exact ⟨bounded, List.not_mem_nil⟩

/-- The bridge does not clear its buffer, whatever it receives and is commanded. -/
theorem run_bounded {overread : Overread} {config : Config} (large : 1501 ≤ config.limit)
    {state last : State} {events : List Event} {outs : List Output}
    (bounded : state.toLoop.Bounded)
    (hrun : (machine overread config).run state events = some (last, outs)) :
    last.toLoop.Bounded ∧ .clearBuffer ∉ outs := by
  refine (machine overread config).run_history
    (fun _ state outs => state.toLoop.Bounded ∧ .clearBuffer ∉ outs) ?_
    ⟨bounded, List.not_mem_nil⟩ hrun
  rintro _ state outs event next new ⟨stateBounded, kept⟩ hstep
  obtain ⟨nextBounded, keptNew⟩ := step_bounded large stateBounded hstep
  exact ⟨nextBounded, List.not_mem_append kept keptNew⟩

end TcpHassBridge

/-- Every call of `NasaProtocol::decode` ends with a rest of at most 1501 bytes, an end of the
buffer that is too short or an incomplete frame; with a limit of at least 1501 bytes the main
loops therefore never clear a buffer that was empty at the start. -/
theorem remainder_bounded (overread : Overread) :
    (∀ data, ∃ pkts rest, NasaProtocol.decodeWith overread data = some (pkts, rest) ∧
        rest <:+ data ∧ NasaProtocol.Remainder rest ∧ rest.length ≤ 1501) ∧
      (∀ (settings : Settings) (loop : Loop) (inputs : List Input),
        1501 ≤ settings.bufferLimit.toInt → loop.buffer = [] →
        ∃ last outs, (TcpNasaLogger.machine overread settings).run loop inputs =
          some (last, outs) ∧ .clearBuffer ∉ outs) ∧
      ∀ (config : TcpHassBridge.Config) (state last : TcpHassBridge.State)
        (events : List TcpHassBridge.Event) (outs : List Output),
        1501 ≤ config.bufferLimit.toInt → state.buffer = [] →
        (TcpHassBridge.machine overread config).run state events = some (last, outs) →
        .clearBuffer ∉ outs := by
  have empty {loop : Loop} (hbuffer : loop.buffer = []) : loop.Bounded := by
    rw [Loop.Bounded, hbuffer]
    exact Nat.zero_le _
  refine ⟨fun data => ?_, ?_, ?_⟩
  · obtain ⟨pkts, rest, hdecode, suffixes, remainder⟩ :=
      NasaProtocol.decodeWith_remainder overread data
    exact ⟨pkts, rest, hdecode, suffixes, remainder, remainder.short⟩
  · intro settings loop inputs large hbuffer
    exact TcpNasaLogger.run_bounded (Settings.le_limit large) (empty hbuffer) inputs
  · intro config state last events outs large hbuffer hrun
    exact (TcpHassBridge.run_bounded (Settings.le_limit large) (empty hbuffer) hrun).2

/-- A frame that counts three messages and has one, behind a stray byte and before the
beginning of another frame. -/
theorem remainder_bounded_overread :
    ∃ last outs, (TcpNasaLogger.machine (fun _ => .error .crcError) {}).run { tpLastData := 0 }
        [⟨[7, 50, 0, 17, 16, 0, 0, 176, 255, 32, 192, 17, 5, 3, 64, 101, 1], 0, true, 0, 0⟩,
          ⟨[192, 167, 52, 50, 0], 1000, true, 1000, 1000⟩] = some (last, outs) ∧
      .clearBuffer ∉ outs :=
  (remainder_bounded fun _ => .error .crcError).2.1 {} { tpLastData := 0 } _ (by decide) rfl

end NasaCpp.Apps
