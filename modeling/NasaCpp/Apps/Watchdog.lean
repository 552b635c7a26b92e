import NasaCpp.Apps.MainLoop
import NasaCpp.General.Parts

/-!
# The watchdog

Both main loops force a reconnect when a connection stays silent.  A round of a record is
an input with what the round has done.  What counts for the watchdog are the instants that a
round gives `tp_last_data`: when it has received data, and when it has forced a reconnect.
-/

namespace NasaCpp.Apps

open General Protocol

abbrev Round := Input × List Output

namespace Round

def Forces (round : Round) : Prop := .forceReconnect ∈ round.2

instance (round : Round) : Decidable round.Forces := inferInstanceAs (Decidable (_ ∈ _))

def heard (round : Round) : List ℤ := if round.1.received = [] then [] else [round.1.recvAt]

def reopened (round : Round) : List ℤ := if round.Forces then [round.1.forceAt] else []

/-- The values of `tp_last_data` in the round. -/
def touches (round : Round) : List ℤ := round.heard ++ round.reopened

def readings (round : Round) : List ℤ := round.heard ++ round.1.checkAt :: round.reopened

end Round

/-- More than `timeout` whole seconds lie between the two instants. -/
def Settings.Expired (settings : Settings) (since now : ℤ) : Prop :=
  settings.timeout.toInt < (now - since).tdiv 1000000000

instance (settings : Settings) (since now : ℤ) : Decidable (settings.Expired since now) :=
  inferInstanceAs (Decidable (_ < _))

/-- The instants that count before a round, from the one at which the loop started. -/
def touched (start : ℤ) (rounds : List Round) : List ℤ := start :: rounds.flatMap Round.touches

theorem touched_concat (start : ℤ) (rounds : List Round) (round : Round) :
    touched start (rounds ++ [round]) = touched start rounds ++ round.touches := by
  rw [touched, List.flatMap_append, List.flatMap_singleton]
  rfl

/-- The record of a loop that forces a reconnect exactly in the rounds that find a
connection whose last sign of life has expired. -/
def Watched (settings : Settings) (start : ℤ) (rounds : List Round) : Prop :=
  ∀ earlier round later, rounds = earlier ++ round :: later →
    (round.Forces ↔ round.1.connected = true ∧ ∃ since,
      (touched start earlier ++ round.heard).getLast? = some since ∧
        settings.Expired since round.1.checkAt)

/-! ## A round -/

theorem receive_quiet {overread : Overread} {settings : Settings} {loop next : Loop}
    {received : List UInt8} {now : ℤ} {pkts : List Packet} {outs : List Output}
    (hreceive : receive overread settings loop received now = some (next, pkts, outs)) :
    next.tpLastData = (if received = [] then loop.tpLastData else now) ∧
      .forceReconnect ∉ outs := by
  obtain ⟨result, -, hresult⟩ := Option.map_eq_some_iff.mp hreceive
  cases hresult
  refine ⟨rfl, ?_⟩
  split <;> split <;> split <;> simp

theorem checkTimeout_forces (settings : Settings) (loop : Loop) (input : Input) :
    (.forceReconnect ∈ (checkTimeout settings loop input).2 ↔
        input.connected = true ∧ settings.Expired loop.tpLastData input.checkAt) ∧
      (checkTimeout settings loop input).1.tpLastData =
        if .forceReconnect ∈ (checkTimeout settings loop input).2 then input.forceAt
        else loop.tpLastData := by
  unfold checkTimeout
  by_cases expired : settings.timeout.toInt <
      (input.checkAt - loop.tpLastData).tdiv 1000000000 ∧ input.connected = true
  · rw [if_pos expired]
    exact ⟨iff_of_true (List.mem_singleton.mpr rfl) expired.symm, rfl⟩
  · rw [if_neg expired]
    exact ⟨iff_of_false List.not_mem_nil fun both => expired both.symm, rfl⟩

namespace TcpNasaLogger

/-- When a round forces a reconnect, and the value it leaves in `tp_last_data`. -/
theorem step_watched {overread : Overread} {settings : Settings} {loop next : Loop}
    {input : Input} {outs : List Output} {past : List ℤ}
    (here : past.getLast? = some loop.tpLastData)
    (hstep : (machine overread settings).step loop input = some (next, outs)) :
    (Round.Forces (input, outs) ↔ input.connected = true ∧ ∃ since,
        (past ++ Round.heard (input, outs)).getLast? = some since ∧
          settings.Expired since input.checkAt) ∧
      (past ++ Round.touches (input, outs)).getLast? = some next.tpLastData := by
  obtain ⟨⟨middle, pkts, first⟩, hreceive, hresult⟩ := Option.map_eq_some_iff.mp hstep
  obtain ⟨since, quiet⟩ := receive_quiet hreceive
  obtain ⟨forces, later⟩ := checkTimeout_forces settings middle input
  dsimp only at hresult
  generalize checkTimeout settings middle input = checked at hresult forces later
  cases hresult
  have same : Round.Forces (input, first ++ checked.2) ↔ .forceReconnect ∈ checked.2 := by
    rw [Round.Forces, List.mem_append]
    exact or_iff_right quiet
  have before : (past ++ Round.heard (input, first ++ checked.2)).getLast? =
      some middle.tpLastData := by
    rw [Round.heard, since]
    by_cases silent : input.received = []
    · rw [if_pos silent, if_pos silent, List.append_nil, here]
    · rw [if_neg silent, if_neg silent, List.getLast?_concat]
  refine ⟨?_, ?_⟩
  · simp only [same, forces, before, Option.some.injEq, exists_eq_left']
  · rw [Round.touches, ← List.append_assoc, Round.reopened, later]
    by_cases force : Output.forceReconnect ∈ checked.2
    · rw [if_pos force, if_pos (same.mpr force), List.getLast?_concat]
    · rw [if_neg force, if_neg fun forced => force (same.mp forced), List.append_nil, before]

/-- After a run `tp_last_data` is the last instant that counts. -/
theorem tpLastData_run {overread : Overread} {settings : Settings} {loop last : Loop}
    {inputs : List Input} {rounds : List Round}
    (hrun : (machine overread settings).recorded.run loop inputs = some (last, rounds)) :
    (touched loop.tpLastData rounds).getLast? = some last.tpLastData := by
  refine (machine overread settings).recorded.run_history
    (fun _ state rounds => (touched loop.tpLastData rounds).getLast? = some state.tpLastData)
    ?_ rfl hrun
  intro _ state rounds input next new here hrecord
  obtain ⟨outs, hstep, rfl⟩ := (machine overread settings).recorded_step hrecord
  rw [touched_concat]
  exact (step_watched here hstep).2

/-- The record of the logger is watched. -/
theorem watched_run {overread : Overread} {settings : Settings} {loop last : Loop}
    {inputs : List Input} {rounds : List Round}
    (hrun : (machine overread settings).recorded.run loop inputs = some (last, rounds)) :
    Watched settings loop.tpLastData rounds := by
  rintro earlier round later rfl
  obtain ⟨past, middle, next, hpast, hstep⟩ := (machine overread settings).recorded_split hrun
  exact (step_watched (tpLastData_run hpast) hstep).1

end TcpNasaLogger

/-! ## The bridge -/

namespace TcpHassBridge

/-- What a round of the bridge has in common with one of the logger. -/
def isLoop : Output → Bool
  | .clearBuffer | .recv _ | .decode _ | .forceReconnect => true
  | .hass _ | .send _ => false

theorem isLoop_publish (hass : Bridge.HassBridge) (msgs : List MessageSet) :
    (publish hass msgs).2.filter isLoop = [] := by
  unfold publish
  suffices general : ∀ state : Bridge.HassBridge × List Output, state.2.filter isLoop = [] →
      (msgs.foldl (fun state msg =>
        ((state.1.publishToHass msg).1,
          state.2 ++ (state.1.publishToHass msg).2.map Output.hass)) state).2.filter isLoop = []
    from general _ rfl
  induction msgs with
  | nil => exact fun _ nothing => nothing
  | cons msg msgs ih =>
      intro state nothing
      refine ih _ ?_
      rw [List.filter_append, nothing, List.nil_append, List.filter_map]
      exact List.map_eq_nil_iff.mpr (List.filter_eq_nil_iff.mpr fun _ _ => nofun)

theorem isLoop_transmit (config : Config) (hass : Bridge.HassBridge) (pktsRx : List Packet) :
    (transmit config hass pktsRx).2.filter isLoop = [] := by
  unfold transmit
  split
  · dsimp only
    split <;> rfl
  · rfl

theorem isLoop_receive {overread : Overread} {settings : Settings} {loop next : Loop}
    {received : List UInt8} {now : ℤ} {pkts : List Packet} {outs : List Output}
    (hreceive : receive overread settings loop received now = some (next, pkts, outs)) :
    outs.filter isLoop = outs := by
  obtain ⟨result, -, hresult⟩ := Option.map_eq_some_iff.mp hreceive
  cases hresult
  split <;> split <;> split <;> rfl

theorem isLoop_checkTimeout (settings : Settings) (loop : Loop) (input : Input) :
    (checkTimeout settings loop input).2.filter isLoop = (checkTimeout settings loop input).2 := by
  unfold checkTimeout
  split <;> rfl

/-- What a round of the bridge consists of. -/
theorem round_parts {overread : Overread} {config : Config} {state next : State} {input : Input}
    {outs : List Output} (hround : round overread config state input = some (next, outs)) :
    ∃ loop pktsRx first,
      receive overread config.toSettings state.toLoop input.received input.recvAt =
        some (loop, pktsRx, first) ∧
      next.toLoop = (checkTimeout config.toSettings loop input).1 ∧
      next.hass =
        (transmit config (publish state.hass (pktsRx.flatMap Packet.messages)).1 pktsRx).1 ∧
      outs = first ++ (publish state.hass (pktsRx.flatMap Packet.messages)).2 ++
        (transmit config (publish state.hass (pktsRx.flatMap Packet.messages)).1 pktsRx).2 ++
        (checkTimeout config.toSettings loop input).2 := by
  obtain ⟨⟨loop, pktsRx, first⟩, hreceive, hresult⟩ := Option.map_eq_some_iff.mp hround
  exact ⟨loop, pktsRx, first, hreceive,
    (congrArg (fun result : State × List Output => result.1.toLoop) hresult).symm,
    (congrArg (fun result : State × List Output => result.1.hass) hresult).symm,
    (congrArg Prod.snd hresult).symm⟩

def roundOf : Event × List Output → List Round
  | (.round input, outs) => [(input, outs.filter isLoop)]
  | (.command _ _, _) => []

/-- The main loop of the bridge is that of the logger. -/
def mainLoop (overread : Overread) (config : Config) :
    Part (machine overread config).recorded
      (TcpNasaLogger.machine overread config.toSettings).recorded where
  state state := state.toLoop
  events entry := (roundOf entry).map Prod.fst
  outputs := roundOf
  step_run := by
    intro state next event trace hrecord
    obtain ⟨outs, hstep, rfl⟩ := (machine overread config).recorded_step hrecord
    cases event with
    | command topic payload =>
        obtain ⟨hass, -, hresult⟩ := Option.map_eq_some_iff.mp hstep
        cases hresult
        rfl
    | round input =>
        obtain ⟨loop, pktsRx, first, hreceive, hloop, -, rfl⟩ := round_parts hstep
        have logged : (TcpNasaLogger.machine overread config.toSettings).step state.toLoop input =
            some (next.toLoop, first ++ (checkTimeout config.toSettings loop input).2) := by
          rw [hloop]
          exact Option.map_eq_some_iff.mpr ⟨_, hreceive, rfl⟩
        refine Machine.run_cons_eq_some _ |>.mpr ⟨next.toLoop, _, [],
          Option.map_eq_some_iff.mpr ⟨_, logged, rfl⟩, rfl, ?_⟩
        simp only [List.flatMap_cons, List.flatMap_nil, roundOf, List.filter_append,
          isLoop_receive hreceive, isLoop_publish, isLoop_transmit, isLoop_checkTimeout,
          List.append_nil]

end TcpHassBridge

/-! ## Silence -/

/-- The clock does not go back. -/
def Ascending (start : ℤ) (rounds : List Round) : Prop :=
  (start :: rounds.flatMap Round.readings).Pairwise (· ≤ ·)

instance (start : ℤ) (rounds : List Round) : Decidable (Ascending start rounds) :=
  inferInstanceAs (Decidable (List.Pairwise _ _))

/-- A round forces a reconnect exactly if it finds a connection and at its check more than
`timeout` seconds have passed since the start, since all data received, in this round too, and
since all reconnects forced before. -/
def Punctual (settings : Settings) (start : ℤ) (rounds : List Round) : Prop :=
  ∀ earlier round later, rounds = earlier ++ round :: later →
    (round.Forces ↔ round.1.connected = true ∧
      ∀ instant ∈ touched start earlier ++ round.heard,
        settings.Expired instant round.1.checkAt)

theorem Settings.Expired.earlier {settings : Settings} {since before now : ℤ}
    (expired : settings.Expired since now) (le : before ≤ since) :
    settings.Expired before now :=
  lt_of_lt_of_le expired (Int.tdiv_le_tdiv (by decide) (Int.sub_le_sub_left le now))

theorem Round.touches_sublist (round : Round) : round.touches.Sublist round.readings :=
  (List.Sublist.refl round.heard).append (List.sublist_cons_self _ _)

/-- The instants that count, up to the check of a round, are in the order of the clock. -/
theorem Ascending.touched {start : ℤ} {earlier later : List Round} {round : Round}
    (ascending : Ascending start (earlier ++ round :: later)) :
    (touched start earlier ++ round.heard).Pairwise (· ≤ ·) := by
  have before : (earlier.flatMap Round.touches).Sublist (earlier.flatMap Round.readings) :=
    List.Sublist.flatMap_right earlier fun past _ => past.touches_sublist
  have here : round.heard.Sublist ((round :: later).flatMap Round.readings) :=
    (List.sublist_append_left _ _).trans (List.sublist_append_left _ _)
  refine ascending.sublist ?_
  rw [List.flatMap_append]
  exact (before.append here).cons_cons start

theorem Watched.punctual {settings : Settings} {start : ℤ} {rounds : List Round}
    (watched : Watched settings start rounds) (ascending : Ascending start rounds) :
    Punctual settings start rounds := by
  rintro earlier round later rfl
  rw [watched earlier round later rfl]
  refine and_congr_right fun _ => ?_
  have ordered := ascending.touched
  constructor
  · rintro ⟨since, hlast, expired⟩ instant hmem
    have : Std.Refl fun earlier later : ℤ => earlier ≤ later := ⟨fun _ => le_rfl⟩
    rw [List.getLast?_eq_some_getLast (List.ne_nil_of_mem hmem), Option.some.injEq] at hlast
    exact expired.earlier (hlast ▸ ordered.rel_getLast hmem)
  · intro all
    have filled : touched start earlier ++ round.heard ≠ [] := List.cons_ne_nil _ _
    exact ⟨_, List.getLast?_eq_some_getLast filled, all _ (List.getLast_mem filled)⟩

/-- In every run of the logger and in every run of the bridge, whatever commands come in
between, a connection is given up exactly when it has been silent for more than `timeout`
seconds and no reconnect was forced in them. -/
theorem watchdog (overread : Overread) :
    (∀ (settings : Settings) (loop last : Loop) (inputs : List Input) (rounds : List Round),
        (TcpNasaLogger.machine overread settings).recorded.run loop inputs =
          some (last, rounds) →
        Ascending loop.tpLastData rounds → Punctual settings loop.tpLastData rounds) ∧
      ∀ (config : TcpHassBridge.Config) (state last : TcpHassBridge.State)
        (events : List TcpHassBridge.Event) (trace : List (TcpHassBridge.Event × List Output)),
        (TcpHassBridge.machine overread config).recorded.run state events = some (last, trace) →
        Ascending state.tpLastData (trace.flatMap TcpHassBridge.roundOf) →
        Punctual config.toSettings state.tpLastData (trace.flatMap TcpHassBridge.roundOf) := by
  refine ⟨fun settings loop last inputs rounds hrun ascending => ?_,
    fun config state last events trace hrun ascending => ?_⟩
  · exact (TcpNasaLogger.watched_run hrun).punctual ascending
  · have hloop := (TcpHassBridge.mainLoop overread config).run hrun
    exact (TcpNasaLogger.watched_run hloop).punctual ascending

/-- Data after 20 s, silence up to 51 s and a reconnect then, none 30 s later, and one in a
round that fetches a byte and stays away for 31 s before it looks. -/
theorem watchdog_silence :
    Punctual {} 0
      [(⟨[7], 20000000000, true, 20000000001, 0⟩, [.recv 1]),
        (⟨[], 0, true, 50999999999, 0⟩, []),
        (⟨[], 0, true, 51000000000, 51000000002⟩, [.forceReconnect]),
        (⟨[], 0, true, 82000000001, 0⟩, []),
        (⟨[8], 82000000002, true, 113000000002, 113000000003⟩, [.recv 1, .forceReconnect])] := by
  have hrun : (TcpNasaLogger.machine (fun _ => .error .crcError) {}).recorded.run
      { tpLastData := 0 }
      [⟨[7], 20000000000, true, 20000000001, 0⟩, ⟨[], 0, true, 50999999999, 0⟩,
        ⟨[], 0, true, 51000000000, 51000000002⟩, ⟨[], 0, true, 82000000001, 0⟩,
        ⟨[8], 82000000002, true, 113000000002, 113000000003⟩] =
      some ({ buffer := [7, 8], tpLastData := 113000000003 },
        [(⟨[7], 20000000000, true, 20000000001, 0⟩, [.recv 1]),
          (⟨[], 0, true, 50999999999, 0⟩, []),
          (⟨[], 0, true, 51000000000, 51000000002⟩, [.forceReconnect]),
          (⟨[], 0, true, 82000000001, 0⟩, []),
          (⟨[8], 82000000002, true, 113000000002, 113000000003⟩,
            [.recv 1, .forceReconnect])]) := by
    decide +kernel
  exact (watchdog _).1 {} _ _ _ _ hrun (by decide)

end NasaCpp.Apps
