import SpiDisk.Proofs.Card.Pacing
import SpiDisk.Proofs.Card.Parallel
import SpiDisk.Proofs.Sim.Card
import SpiDisk.Rack

/-!
# `SpiDisk.Proofs.Sim.Speed` — a card does not notice the speed

At full speed a channel hands whole transfers to its board; at slow speed it hands over their bytes
one by one and pauses behind each. A card takes bytes that come one by one as if they came together,
and gives them out as if it were asked for all at once. So whatever is done with a card is done in the
same way at both speeds, and the pauses are all that tells them apart.

The two runs are those of one course of dealings with the card, told at either speed. The relation
between them does not say which run is the slow one, so that it leads from either run to the other.

## Contents
- **Events.** `Event.paced`, the events into which slow speed cuts one, and the pauses among them.
- **Cards.** `SimCard.withDelays`: no byte that comes or goes depends on the pauses that were counted.
- **Calls.** `Channel.did`, what a call makes of a channel at its speed, with `read_sim` and
  `write_sim`.
- **Dealings.** `Dealings`, told of a channel at any speed, and `parallel_speedApart`.
- **Uses.** `CardUse`, what can be done with a card at any speed, and `Card.speed_unnoticed`.
-/

namespace SpiDisk

/-! ## Events -/

namespace Event

/-- Whether an event is a pause. -/
def isPause : Event → Bool
  | .pausedMicros _ | .pausedNanos _ => true
  | _ => false

/-- Whether a channel at full speed does so of itself. -/
def isPlain : Event → Bool
  | .pausedMicros _ | .pausedNanos _ | .exchanged .. => false
  | _ => true

/-- The events, latest first, into which slow speed cuts one: every byte of a transfer is moved by
    itself, and a pause follows. -/
def paced : Event → List Event
  | .read bytes fault =>
    bytes.reverse.flatMap fun byte => [.pausedMicros slowPause, .read [byte] fault]
  | .wrote bytes fault =>
    bytes.reverse.flatMap fun byte => [.pausedMicros slowPause, .wrote [byte] fault]
  | event => [event]

/-- The events that come of one at a speed. -/
def atSpeed : Speed → Event → List Event
  | .fast, event => [event]
  | .slow, event => event.paced

variable {speed : Speed}

theorem atSpeed_still {event : Event} (h : event.moved = none) (speed : Speed) :
    event.atSpeed speed = [event] := by
  cases speed with
  | fast => rfl
  | slow =>
    cases event with
    | read bytes fault => cases h
    | wrote bytes fault => cases h
    | _ => rfl

theorem atSpeed_read_cons (h : speed = .slow) (byte : UInt8) (rest : List UInt8)
    (fault : Option Fault) :
    (read (byte :: rest) fault).atSpeed speed =
      (read rest fault).atSpeed speed ++ (read [byte] fault).atSpeed speed := by
  simp [h, atSpeed, paced]

theorem atSpeed_wrote_cons (h : speed = .slow) (byte : UInt8) (rest : List UInt8)
    (fault : Option Fault) :
    (wrote (byte :: rest) fault).atSpeed speed =
      (wrote rest fault).atSpeed speed ++ (wrote [byte] fault).atSpeed speed := by
  simp [h, atSpeed, paced]

end Event

/-- How many of the events are pauses. -/
def pauses (events : List Event) : Nat :=
  events.countP Event.isPause

/-- How many bytes the events moved. -/
def bytesMoved : List Event → Nat
  | [] => 0
  | event :: events => event.moved.getD 0 + bytesMoved events

theorem pauses_append (events more : List Event) :
    pauses (events ++ more) = pauses events + pauses more :=
  List.countP_append

theorem pauses_byte {event : Event} (h : event.isPause = false) :
    pauses [.pausedMicros slowPause, event] = 1 := by
  simp only [pauses, List.countP_cons, h, List.countP_nil]
  rfl

/-- There are as many pauses as bytes that are cut apart. -/
theorem pauses_bytewise (bytes : List UInt8) (event : UInt8 → Event)
    (h : ∀ byte, (event byte).isPause = false) :
    pauses (bytes.flatMap fun byte => [.pausedMicros slowPause, event byte]) = bytes.length := by
  induction bytes with
  | nil => rfl
  | cons byte rest ih =>
    rw [List.flatMap_cons, pauses_append, pauses_byte (h byte), ih, List.length_cons, Nat.add_comm]

namespace Event

theorem isPause_of_isPlain {event : Event} (h : event.isPlain = true) : event.isPause = false := by
  cases event with
  | pausedMicros us => cases h
  | pausedNanos ns => cases h
  | _ => rfl

theorem pauses_paced {event : Event} (h : event.isPlain = true) :
    pauses event.paced = event.moved.getD 0 := by
  cases event with
  | read bytes fault =>
    have hbytes := pauses_bytewise bytes.reverse (fun byte => .read [byte] fault) fun _ => rfl
    rw [List.length_reverse] at hbytes
    exact hbytes
  | wrote bytes fault =>
    have hbytes := pauses_bytewise bytes.reverse (fun byte => .wrote [byte] fault) fun _ => rfl
    rw [List.length_reverse] at hbytes
    exact hbytes
  | exchanged sent received fault => cases h
  | pausedMicros us => cases h
  | pausedNanos ns => cases h
  | _ => rfl

end Event

/-- A channel at full speed never pauses. -/
theorem pauses_of_plain {events : List Event} (h : ∀ event ∈ events, event.isPlain = true) :
    pauses events = 0 := by
  refine List.countP_eq_zero.mpr fun event hevent => ?_
  rw [Event.isPause_of_isPlain (h event hevent)]
  exact Bool.false_ne_true

/-- At slow speed there is one pause for each byte. -/
theorem pauses_flatMap_paced {events : List Event} (h : ∀ event ∈ events, event.isPlain = true) :
    pauses (events.flatMap Event.paced) = bytesMoved events := by
  induction events with
  | nil => rfl
  | cons event events ih =>
    obtain ⟨hevent, hevents⟩ := List.forall_mem_cons.mp h
    rw [List.flatMap_cons, pauses_append, Event.pauses_paced hevent, ih hevents, bytesMoved]

/-! ## Cards -/

namespace SimCard

/-- The card with another count of pauses. -/
def withDelays (card : SimCard) (delays : Nat) : SimCard :=
  { card with log.delays := delays }

/-- Nothing is noted about bytes that are given out. -/
theorem log_transmitMany (card : SimCard) (count : Nat) :
    (card.transmitMany count).2.log = card.log :=
  congrArg (fun answer => answer.2.log) (transmitMany_relog card card.log count)

theorem withDelays_of_log {card other : SimCard} (h : other.log = card.log) (delays : Nat) :
    other.withDelays delays = other.relog { card.log with delays } := by
  unfold withDelays
  rw [h]
  rfl

theorem transmitMany_withDelays (card : SimCard) (delays count : Nat) :
    (card.withDelays delays).transmitMany count =
      ((card.transmitMany count).1, (card.transmitMany count).2.withDelays delays) := by
  rw [withDelays_of_log (log_transmitMany card count)]
  exact transmitMany_relog card { card.log with delays } count

theorem execute_withDelays (card : SimCard) (delays : Nat) (index : UInt8) (argument : UInt32)
    (app : Bool) :
    (card.withDelays delays).execute index argument app =
      (card.execute index argument app).withDelays delays := by
  have hlog : (card.execute index argument app).log = card.log :=
    congrArg (fun after => after.log) (execute_relog card card.log index argument app)
  rw [withDelays_of_log hlog]
  exact execute_relog card { card.log with delays } index argument app

theorem accept_withDelays (card : SimCard) (delays : Nat) (frame : List UInt8) :
    (card.withDelays delays).accept frame = (card.accept frame).withDelays delays := by
  unfold accept
  dsimp only
  rw [show (card.withDelays delays).knobs = card.knobs from rfl]
  split
  · rfl
  · split
    · refine Eq.trans ?_ (execute_withDelays _ delays _ _ _)
      rfl
    · rfl

theorem receive_withDelays (card : SimCard) (delays : Nat) (byte : UInt8) :
    (card.withDelays delays).receive byte = (card.receive byte).withDelays delays := by
  unfold receive
  rw [show (card.withDelays delays).phase = card.phase from rfl]
  cases card.phase with
  | command frame =>
    dsimp only
    split
    · rfl
    · split
      · exact accept_withDelays (card.taking (.command [])) delays _
      · rfl
  | token lba multi =>
    dsimp only
    generalize (if multi = true then Token.startMultiWrite else Token.startBlock) = start
    split
    · rfl
    · split
      · rfl
      · rfl
  | block lba multi data =>
    dsimp only
    split
    · rfl
    · unfold store
      dsimp only
      rw [show (card.withDelays delays).knobs = card.knobs from rfl,
        show (card.withDelays delays).writeAttempts = card.writeAttempts from rfl]
      split
      · rfl
      · rfl

theorem foldl_receive_withDelays (card : SimCard) (delays : Nat) (bytes : List UInt8) :
    bytes.foldl receive (card.withDelays delays) = (bytes.foldl receive card).withDelays delays := by
  induction bytes generalizing card with
  | nil => rfl
  | cons byte rest ih => rw [List.foldl_cons, receive_withDelays, ih, List.foldl_cons]

theorem receiveMany_withDelays (card : SimCard) (delays : Nat) (bytes : List UInt8) :
    (card.withDelays delays).receiveMany bytes = (card.receiveMany bytes).withDelays delays := by
  unfold receiveMany
  rw [show (card.withDelays delays).selected = card.selected from rfl]
  split
  · exact foldl_receive_withDelays card delays bytes
  · rfl

/-- No byte that is taken in counts as a pause. -/
theorem delays_receiveMany (card : SimCard) (bytes : List UInt8) :
    (card.receiveMany bytes).log.delays = card.log.delays :=
  congrArg (fun card => card.log.delays) (receiveMany_withDelays card card.log.delays bytes)

theorem select_withDelays (card : SimCard) (delays : Nat) (mask : UInt8) :
    (card.withDelays delays).select mask = (card.select mask).withDelays delays := by
  unfold select
  dsimp only
  split
  · rfl
  · rfl

end SimCard

/-! ## Calls -/

/-- What a call on the board makes of the channel of a simulated card: the event goes into the history
    as the speed has it, and the card counts the pauses. -/
def Channel.did (channel : Channel SimCard) (event : Event) (card : SimCard) : Channel SimCard :=
  { channel with
    host := card.withDelays (channel.host.log.delays + pauses (event.atSpeed channel.speed))
    history := event.atSpeed channel.speed ++ channel.history }

section Calls

variable {channel : Channel SimCard}

/-- What is cut into two events may be done one after the other. -/
theorem Channel.did_did {event first second : Event}
    (h : event.atSpeed channel.speed = second.atSpeed channel.speed ++ first.atSpeed channel.speed)
    (card card' : SimCard) : (channel.did first card).did second card' = channel.did event card' := by
  have hdelays : (channel.did first card).host.log.delays + pauses (second.atSpeed channel.speed) =
      channel.host.log.delays + pauses (event.atSpeed channel.speed) := by
    rw [h, pauses_append, Nat.add_comm (pauses _)]
    exact Nat.add_assoc _ _ _
  unfold did at hdelays ⊢
  dsimp only at hdelays ⊢
  rw [hdelays, h, List.append_assoc]

/-- Of a transfer of no bytes, slow speed leaves nothing. -/
theorem Channel.did_nothing {event : Event} (h : event.atSpeed channel.speed = []) :
    channel.did event channel.host = channel := by
  unfold did
  rw [h]
  rfl

/-- An event that is not cut goes into the history as it is. -/
theorem Channel.did_once {event : Event} {card : SimCard} (h : event.atSpeed channel.speed = [event])
    (hpause : event.isPause = false) (hdelays : card.log.delays = channel.host.log.delays) :
    channel.did event card = { channel with host := card }.record event := by
  have hnone : pauses [event] = 0 := by simp [pauses, hpause]
  unfold did
  rw [h, hnone, ← hdelays]
  rfl

namespace ChannelM

open SessionM

variable {C : Type}

theorem shiftIn_sim (channel : Channel SimCard) (env : Env C) (count : Nat) :
    shiftIn count (Session.mk channel env) =
      some ((channel.host.transmitMany count).1,
        ⟨{ channel with host := (channel.host.transmitMany count).2 }.record
          (.read (channel.host.transmitMany count).1 none), env⟩) :=
  rfl

theorem shiftOut_sim (channel : Channel SimCard) (env : Env C) (bytes : List UInt8) :
    shiftOut bytes (Session.mk channel env) =
      some ((), ⟨{ channel with host := channel.host.receiveMany bytes }.record (.wrote bytes none),
        env⟩) :=
  rfl

/-- The pause behind a byte completes what slow speed makes of it. -/
theorem pause_sim (event : Event) {card : SimCard}
    (h : event.atSpeed channel.speed = [.pausedMicros slowPause, event])
    (hpause : event.isPause = false) (hdelays : card.log.delays = channel.host.log.delays)
    (env : Env C) :
    onDevice (Channel.callPause slowPause)
        (Session.mk ({ channel with host := card }.record event) env) =
      some ((), ⟨channel.did event card, env⟩) := by
  unfold Channel.did
  rw [h, pauses_byte hpause, ← hdelays]
  rfl

/-- A card that is read byte by byte gives out what it would have given out at once. -/
theorem readPaced_sim (h : channel.speed = .slow) (env : Env C) (count : Nat) :
    readPaced count ⟨channel, env⟩ =
      some ((channel.host.transmitMany count).1,
        ⟨channel.did (.read (channel.host.transmitMany count).1 none)
          (channel.host.transmitMany count).2, env⟩) := by
  induction count generalizing channel with
  | zero =>
    have hnothing : channel.did (.read [] none) channel.host = channel :=
      Channel.did_nothing (by rw [h]; rfl)
    show _ = some ([], Session.mk (channel.did (.read [] none) channel.host) env)
    rw [hnothing]
    rfl
  | succ count ih =>
    have hshift := shiftIn_sim channel env 1
    have hdelays := congrArg SimLog.delays (channel.host.log_transmitMany 1)
    rw [SimCard.transmitMany_succ] at hshift hdelays ⊢
    generalize channel.host.next = answer at hshift hdelays ⊢
    obtain ⟨byte, card⟩ := answer
    -- the first byte, and its pause
    have hpause := pause_sim (.read [byte] none) (by rw [h]; rfl) rfl hdelays env
    -- the others, from a card that counted a pause more
    have hslow : (channel.did (.read [byte] none) card).speed = .slow := h
    have hrest := ih hslow
    have hmore : (channel.did (.read [byte] none) card).host.transmitMany count = _ :=
      SimCard.transmitMany_withDelays card _ count
    rw [hmore] at hrest
    have hsplit := Event.atSpeed_read_cons h byte (card.transmitMany count).1 none
    have hwhole := Channel.did_did hsplit card (card.transmitMany count).2
    rw [← hwhole]
    exact (bind_eq hshift).trans ((bind_eq hpause).trans ((bind_eq hrest).trans rfl))

/-- A card takes in byte by byte what it would have taken in at once. -/
theorem writePaced_sim (h : channel.speed = .slow) (env : Env C) (bytes : List UInt8) :
    writePaced bytes ⟨channel, env⟩ =
      some ((), ⟨channel.did (.wrote bytes none) (channel.host.receiveMany bytes), env⟩) := by
  induction bytes generalizing channel with
  | nil =>
    have hnothing : channel.did (.wrote [] none) channel.host = channel :=
      Channel.did_nothing (by rw [h]; rfl)
    rw [SimCard.receiveMany_nil, hnothing]
    rfl
  | cons byte rest ih =>
    have hshift := shiftOut_sim channel env [byte]
    have hdelays := channel.host.delays_receiveMany [byte]
    rw [SimCard.receiveMany_cons]
    generalize channel.host.receiveMany [byte] = card at hshift hdelays ⊢
    have hpause := pause_sim (.wrote [byte] none) (by rw [h]; rfl) rfl hdelays env
    have hslow : (channel.did (.wrote [byte] none) card).speed = .slow := h
    have hrest := ih hslow
    have hmore : (channel.did (.wrote [byte] none) card).host.receiveMany rest = _ :=
      SimCard.receiveMany_withDelays card _ rest
    rw [hmore] at hrest
    have hsplit := Event.atSpeed_wrote_cons h byte rest none
    have hwhole := Channel.did_did hsplit card (card.receiveMany rest)
    rw [← hwhole]
    exact (bind_eq hshift).trans ((bind_eq hpause).trans hrest)

/-- **Reading** is one event at either speed. -/
theorem read_sim (channel : Channel SimCard) (env : Env C) (count : Nat) :
    read count ⟨channel, env⟩ =
      some ((channel.host.transmitMany count).1,
        ⟨channel.did (.read (channel.host.transmitMany count).1 none)
          (channel.host.transmitMany count).2, env⟩) := by
  cases h : channel.speed with
  | slow =>
    rw [read_slow count h]
    exact readPaced_sim h env count
  | fast =>
    have hdelays := congrArg SimLog.delays (channel.host.log_transmitMany count)
    rw [read_fast count h, shiftIn_sim, Channel.did_once (by rw [h]; rfl) rfl hdelays]

/-- **Writing** is one event at either speed. -/
theorem write_sim (channel : Channel SimCard) (env : Env C) (bytes : List UInt8) :
    write bytes ⟨channel, env⟩ =
      some ((), ⟨channel.did (.wrote bytes none) (channel.host.receiveMany bytes), env⟩) := by
  cases h : channel.speed with
  | slow =>
    rw [write_slow bytes h]
    exact writePaced_sim h env bytes
  | fast =>
    have hdelays := channel.host.delays_receiveMany bytes
    rw [write_fast bytes h, shiftOut_sim, Channel.did_once (by rw [h]; rfl) rfl hdelays]

end ChannelM

end Calls

/-! ## Dealings -/

/-- What was done with a channel, whatever its speed. -/
structure Dealings where
  /-- What it did, as it would at full speed, latest first. -/
  events : List Event
  /-- The card, apart from the pauses that it counted. -/
  card : SimCard
  owns : Bool
  plain : ∀ event ∈ events, event.isPlain = true

namespace Dealings

/-- The channel at a speed, which was `old` before the dealings. -/
def channel (old : Channel SimCard) (speed : Speed) (dealings : Dealings) : Channel SimCard where
  host := dealings.card.withDelays
    (old.host.log.delays + pauses (dealings.events.flatMap (Event.atSpeed speed)))
  line := old.line
  speed := speed
  owns := dealings.owns
  history := dealings.events.flatMap (Event.atSpeed speed) ++ old.history

/-- Nothing was done yet. -/
def start (old : Channel SimCard) : Dealings where
  events := []
  card := old.host
  owns := old.owns
  plain := by simp

/-- One more event. -/
def also (dealings : Dealings) (event : Event) (hplain : event.isPlain = true) (card : SimCard) :
    Dealings where
  events := event :: dealings.events
  card := card
  owns := dealings.owns
  plain := List.forall_mem_cons.mpr ⟨hplain, dealings.plain⟩

/-- The bus taken, or given back. -/
def owning (dealings : Dealings) (owns : Bool) : Dealings :=
  { dealings with owns }

variable {old : Channel SimCard}

theorem channel_start (speed : Speed) : (start old).channel old speed = { old with speed } :=
  rfl

theorem channel_owning (dealings : Dealings) (owns : Bool) (speed : Speed) :
    (dealings.owning owns).channel old speed = { dealings.channel old speed with owns } :=
  rfl

theorem channel_also (dealings : Dealings) {event : Event} (hplain : event.isPlain = true)
    (card : SimCard) (speed : Speed) :
    (dealings.also event hplain card).channel old speed =
      (dealings.channel old speed).did event card := by
  unfold channel also Channel.did
  dsimp only
  rw [List.flatMap_cons, pauses_append, Nat.add_comm (pauses _), List.append_assoc, ← Nat.add_assoc]
  rfl

/-- What is no transfer comes about in the same way at every speed. -/
theorem channel_still (dealings : Dealings) {event : Event} (hplain : event.isPlain = true)
    (hstill : event.moved = none) (card : SimCard) (speed : Speed) :
    (dealings.also event hplain card).channel old speed =
      { dealings.channel old speed with
        host := card.withDelays (dealings.channel old speed).host.log.delays }.record event := by
  have honce : event.atSpeed (dealings.channel old speed).speed = [event] :=
    Event.atSpeed_still hstill _
  have hdelays : (card.withDelays (dealings.channel old speed).host.log.delays).log.delays = _ := rfl
  rw [channel_also]
  exact Channel.did_once honce (Event.isPause_of_isPlain hplain) hdelays

end Dealings

namespace ChannelM

open SessionM

variable {C α : Type}

/-- Two sessions of one course of dealings, each at its speed. -/
structure SpeedApart (old : Channel SimCard) (speed speed' : Speed)
    (s s' : Session (Channel SimCard) C) : Prop where
  env : s'.env = s.env
  dealings : ∃ dealings : Dealings,
    s.device = dealings.channel old speed ∧ s'.device = dealings.channel old speed'

variable {old : Channel SimCard} {speed speed' : Speed}

/-- What comes to the same at every speed, or does not come back at any, mirrors itself. -/
theorem mirrors_dealings {action : ChannelM SimCard C α}
    (h : ∀ (dealings : Dealings) (env : Env C),
      (∀ speed, action ⟨dealings.channel old speed, env⟩ = none) ∨
        ∃ (a : α) (after : Dealings) (env' : Env C), ∀ speed,
          action ⟨dealings.channel old speed, env⟩ = some (a, ⟨after.channel old speed, env'⟩)) :
    Mirrors (SpeedApart old speed speed') action action := by
  rintro ⟨device, env⟩ ⟨device', _⟩ ⟨henv, dealings, hdevice, hdevice'⟩ a t hrun
  cases henv
  obtain rfl : device = _ := hdevice
  obtain rfl : device' = _ := hdevice'
  rcases h dealings env with hnone | ⟨b, after, env', hsome⟩
  · rw [hnone speed] at hrun
    cases hrun
  · rw [hsome speed] at hrun
    cases hrun
    exact ⟨_, hsome speed', rfl, after, rfl, rfl⟩

theorem speedApart_flush :
    Mirrors (SpeedApart old speed speed')
      (onDevice Channel.callFlush : ChannelM SimCard C (Option Fault))
      (onDevice Channel.callFlush) := by
  refine mirrors_dealings fun dealings env => .inr ?_
  have hplain : (Event.flushed none).isPlain = true := rfl
  refine ⟨none, dealings.also _ hplain dealings.card, env, fun speed => ?_⟩
  rw [Dealings.channel_still dealings hplain rfl]
  rfl

theorem speedApart_drive (mask : UInt8) :
    Mirrors (SpeedApart old speed speed')
      (onDevice (Channel.callDrive mask) : ChannelM SimCard C (List PinMove))
      (onDevice (Channel.callDrive mask)) := by
  refine mirrors_dealings fun dealings env => .inr ?_
  have hplain : (Event.drove mask []).isPlain = true := rfl
  refine ⟨[], dealings.also _ hplain (dealings.card.select mask), env, fun speed => ?_⟩
  rw [Dealings.channel_still dealings hplain rfl, ← SimCard.select_withDelays]
  rfl

theorem speedApart_read (count : Nat) :
    Mirrors (SpeedApart old speed speed') (read count : ChannelM SimCard C (List UInt8))
      (read count) := by
  refine mirrors_dealings fun dealings env => .inr ?_
  have hplain : (Event.read (dealings.card.transmitMany count).1 none).isPlain = true := rfl
  refine ⟨(dealings.card.transmitMany count).1,
    dealings.also _ hplain (dealings.card.transmitMany count).2, env, fun speed => ?_⟩
  have hcard : (dealings.channel old speed).host.transmitMany count = _ :=
    SimCard.transmitMany_withDelays dealings.card _ count
  rw [read_sim, hcard, Dealings.channel_also]
  rfl

theorem speedApart_write (bytes : List UInt8) :
    Mirrors (SpeedApart old speed speed') (write bytes : ChannelM SimCard C Unit) (write bytes) := by
  refine mirrors_dealings fun dealings env => .inr ?_
  have hplain : (Event.wrote bytes none).isPlain = true := rfl
  refine ⟨(), dealings.also _ hplain (dealings.card.receiveMany bytes), env, fun speed => ?_⟩
  have hcard : (dealings.channel old speed).host.receiveMany bytes = _ :=
    SimCard.receiveMany_withDelays dealings.card _ bytes
  rw [write_sim, hcard, Dealings.channel_also]
  rfl

theorem speedApart_obtain :
    Mirrors (SpeedApart old speed speed') (obtain : ChannelM SimCard C Unit) obtain := by
  refine mirrors_dealings fun dealings env => ?_
  by_cases howns : dealings.owns = true
  · exact .inr ⟨(), dealings, env, fun speed => (obtain_apply _).trans (if_pos howns)⟩
  by_cases hheld : env.bus.held = true
  · exact .inl fun speed => (obtain_apply _).trans ((if_neg howns).trans (if_pos hheld))
  have htook : Event.took.isPlain = true := rfl
  refine .inr ⟨(), (dealings.also .took htook dealings.card).owning true,
    { env with bus.held := true }, fun speed => (obtain_apply _).trans
      ((if_neg howns).trans ((if_neg hheld).trans ?_))⟩
  rw [Dealings.channel_owning, Dealings.channel_still dealings htook rfl]
  rfl

theorem speedApart_release :
    Mirrors (SpeedApart old speed speed') (release : ChannelM SimCard C Unit) release := by
  refine mirrors_dealings fun dealings env => .inr ?_
  by_cases howns : dealings.owns = true
  · have hgave : Event.gave.isPlain = true := rfl
    refine ⟨(), (dealings.also .gave hgave dealings.card).owning false,
      { env with bus.held := false }, fun speed => (release_apply _).trans ?_⟩
    rw [if_pos (show (dealings.channel old speed).owns = true from howns), Dealings.channel_owning,
      Dealings.channel_still dealings hgave rfl]
    rfl
  · refine ⟨(), dealings, env, fun speed => (release_apply _).trans ?_⟩
    rw [if_neg (show ¬(dealings.channel old speed).owns = true from howns)]

variable [TickSource C]

/-- **Nothing done on the bus tells the speeds apart.** -/
theorem parallel_speedApart :
    Parallel 0 (SpeedApart old speed speed' :
      Session (Channel SimCard) C → Session (Channel SimCard) C → Prop) where
  log event h := ⟨by rw [h.env], h.dealings⟩
  tick h := ⟨by rw [h.env], h.dealings⟩
  count h := by rw [h.env, UInt8.add_zero]
  frequency h := by rw [h.env]
  read := speedApart_read
  write := speedApart_write
  flush := speedApart_flush
  drive := speedApart_drive
  obtain := speedApart_obtain
  release := speedApart_release
  owns h := by
    obtain ⟨dealings, hs, hs'⟩ := h.dealings
    rw [hs, hs']
    rfl
  mask h := by
    obtain ⟨dealings, hs, hs'⟩ := h.dealings
    rw [hs, hs']
    rfl

end ChannelM

/-! ## Uses -/

/-- What can be done with a card without choosing its speed. -/
inductive CardUse where
  | read (count : Nat)
  | readByte
  | write (bytes : List UInt8)
  | obtain
  | release
  | select
  | deselect
  | shutdown
  | send (command : Command) (argument : UInt32)
  | readSectors (lba : UInt32) (buffer : List UInt8)
  | writeSectors (lba : UInt32) (bytes : List UInt8)

namespace Card

open SessionM ChannelM CardEngine

variable {H C α : Type} [Host H] [TickSource C]

/-- Use a card. -/
def perform (patience : Nat) : CardUse → SessionM (Card H) C Answer
  | .read count => do pure (.bytes (← onChannel (ChannelM.read count)))
  | .readByte => do pure (.byte (← onChannel ChannelM.readByte))
  | .write bytes => do onChannel (ChannelM.write bytes); pure .done
  | .obtain => do onChannel obtain; pure .done
  | .release => do onChannel release; pure .done
  | .select => do onChannel ChannelM.select; pure .done
  | .deselect => do onChannel ChannelM.deselect; pure .done
  | .shutdown => do onChannel ChannelM.shutdown; pure .done
  | .send command argument => do pure (.byte (← send patience command argument))
  | .readSectors lba buffer => do
    let (outcome, buffer) ← Card.read patience lba buffer
    pure (.cardRead outcome buffer)
  | .writeSectors lba bytes => do pure (.card (← Card.write patience lba bytes))

/-- Use a card again and again. -/
def performAll (patience : Nat) : List CardUse → SessionM (Card H) C (List Answer)
  | [] => pure []
  | use :: rest => do
    let answer ← perform patience use
    let answers ← performAll patience rest
    pure (answer :: answers)

/-- The same is known of the cards in two slots, and their channels are related. -/
structure Slots (R : Session (Channel H) C → Session (Channel H) C → Prop)
    (s s' : Session (Card H) C) : Prop where
  info : s'.device.info = s.device.info
  channels : R (s.at Card.channel) (s'.at Card.channel)

variable {R : Session (Channel H) C → Session (Channel H) C → Prop} {lead : UInt8}

omit [Host H] [TickSource C] in
theorem mirrors_onChannel {action other : ChannelM H C α} (h : Mirrors R action other) :
    Mirrors (Slots R) (onChannel action) (onChannel other) :=
  h.within (fun _ _ hs => hs.channels) fun _ _ _ _ hs hR => ⟨hs.info, hR⟩

variable (hR : Parallel lead R) (patience : Nat)

include hR

theorem mirrors_read (lba : UInt32) (buffer : List UInt8) :
    Mirrors (Slots R) (Card.read patience lba buffer) (Card.read patience lba buffer) := by
  refine mirrors_device fun s s' hs => ?_
  rw [hs.info]
  have hread := mirrors_readSectors hR (Nat.le_refl patience) s.device.info lba buffer
  exact mirrors_onChannel hread s s' hs

theorem mirrors_write (lba : UInt32) (bytes : List UInt8) :
    Mirrors (Slots R) (Card.write patience lba bytes) (Card.write patience lba bytes) := by
  refine mirrors_device fun s s' hs => ?_
  rw [hs.info]
  have hwrite := mirrors_writeSectors hR (Nat.le_refl patience) s.device.info lba bytes
  exact mirrors_onChannel hwrite s s' hs

theorem mirrors_perform (use : CardUse) :
    Mirrors (Slots R) (perform patience use) (perform patience use) := by
  cases use with
  | read count => exact (mirrors_onChannel (hR.read count)).bind fun _ => mirrors_pure _
  | readByte => exact (mirrors_onChannel (mirrors_readByte hR)).bind fun _ => mirrors_pure _
  | write bytes => exact (mirrors_onChannel (hR.write bytes)).bind fun _ => mirrors_pure _
  | obtain => exact (mirrors_onChannel hR.obtain).bind fun _ => mirrors_pure _
  | release => exact (mirrors_onChannel hR.release).bind fun _ => mirrors_pure _
  | select => exact (mirrors_onChannel (mirrors_select hR)).bind fun _ => mirrors_pure _
  | deselect => exact (mirrors_onChannel (mirrors_deselect hR)).bind fun _ => mirrors_pure _
  | shutdown => exact (mirrors_onChannel (mirrors_shutdown hR)).bind fun _ => mirrors_pure _
  | send command argument =>
    have hsend := mirrors_send hR (Nat.le_refl patience) command argument
    exact (mirrors_onChannel hsend).bind fun _ => mirrors_pure _
  | readSectors lba buffer =>
    exact (mirrors_read hR patience lba buffer).bind fun _ => mirrors_pure _
  | writeSectors lba bytes =>
    exact (mirrors_write hR patience lba bytes).bind fun _ => mirrors_pure _

theorem mirrors_performAll (uses : List CardUse) :
    Mirrors (Slots R) (performAll patience uses) (performAll patience uses) := by
  induction uses with
  | nil => exact mirrors_pure []
  | cons use rest ih =>
    exact (mirrors_perform hR patience use).bind fun answer => ih.bind fun answers => mirrors_pure _

end Card

/-- The same came about on a channel at slow speed and on one at full speed, and the pauses are all
    that tells them apart. -/
structure OnlyPaced (before : Channel SimCard) (events : List Event) (slow fast : Channel SimCard) :
    Prop where
  line : slow.line = fast.line
  owns : slow.owns = fast.owns
  slow_history : slow.history = events.flatMap Event.paced ++ before.history
  fast_history : fast.history = events ++ before.history
  /-- One pause for each byte, and no other. -/
  slow_pauses : pauses (events.flatMap Event.paced) = bytesMoved events
  fast_pauses : pauses events = 0
  /-- The cards are the same but for what they counted. -/
  slow_card : slow.host = fast.host.withDelays (before.host.log.delays + bytesMoved events)
  fast_delays : fast.host.log.delays = before.host.log.delays

theorem Dealings.onlyPaced (old : Channel SimCard) (dealings : Dealings) :
    OnlyPaced old dealings.events (dealings.channel old .slow) (dealings.channel old .fast) := by
  have hslow := pauses_flatMap_paced dealings.plain
  have hfast := pauses_of_plain dealings.plain
  have hwhole : dealings.events.flatMap (Event.atSpeed .fast) = dealings.events :=
    List.flatMap_singleton' dealings.events
  refine ⟨rfl, rfl, rfl, ?_, hslow, hfast, ?_, ?_⟩
  · unfold channel
    rw [hwhole]
  · unfold channel
    dsimp only
    rw [← hslow]
    rfl
  · unfold channel
    rw [hwhole, hfast]
    rfl

namespace Card

open SessionM ChannelM

variable {C : Type} [TickSource C]

/-- **A card does not notice the speed.** Whatever it is used for, and from whatever state, the uses
    come back at slow speed exactly if they do at full speed, with the same answers and the same bytes,
    and with the same clock, bus and log. The card has come to the same state, except that at slow speed
    it was given a pause of 40 microseconds behind each byte that was moved, and at full speed none. -/
theorem speed_unnoticed (patience : Nat) (uses : List CardUse) (s : Session (Card SimCard) C) :
    Option.Rel
      (fun slow fast => slow.1 = fast.1 ∧ slow.2.env = fast.2.env ∧
        slow.2.device.info = fast.2.device.info ∧
        ∃ events, OnlyPaced s.device.channel events slow.2.device.channel fast.2.device.channel)
      (performAll patience uses { s with device.channel.speed := .slow })
      (performAll patience uses { s with device.channel.speed := .fast }) := by
  have hmirrors : ∀ speed speed',
      Mirrors (Slots (SpeedApart s.device.channel speed speed'))
        (performAll patience uses : SessionM (Card SimCard) C (List Answer))
        (performAll patience uses) :=
    fun speed speed' => mirrors_performAll parallel_speedApart patience uses
  have hstart : ∀ speed speed', Slots (SpeedApart s.device.channel speed speed')
      { s with device.channel.speed := speed } { s with device.channel.speed := speed' } := by
    intro speed speed'
    exact ⟨rfl, rfl, Dealings.start s.device.channel, Dealings.channel_start speed,
      Dealings.channel_start speed'⟩
  -- each run leads to the other, so that neither can come back alone
  have hrel := (hmirrors .slow .fast).rel (hmirrors .fast .slow) (hstart .slow .fast)
    (hstart .fast .slow)
  generalize performAll patience uses { s with device.channel.speed := .slow } = slow at hrel ⊢
  generalize performAll patience uses { s with device.channel.speed := .fast } = fast at hrel ⊢
  cases hrel with
  | none => exact .none
  | some h =>
    obtain ⟨hanswers, hinfo, henv, dealings, hslow, hfast⟩ := h
    refine .some ⟨hanswers, henv.symm, hinfo.symm, dealings.events, ?_⟩
    have hpaced := dealings.onlyPaced s.device.channel
    rw [← hslow, ← hfast] at hpaced
    exact hpaced

/-- A reset gets the same answers at either speed, and only at slow speed is it paused for. -/
theorem speed_unnoticed_reset :
    let slot : Session (Card SimCard) Counter :=
      { device.channel := { host := .new .sdhc, line := some .one }, env.clock := { value := 250 } }
    let uses : List CardUse := [.send Command.goIdle 0, .read 2, .shutdown]
    ∃ slow fast, performAll 60 uses { slot with device.channel.speed := .slow } = some slow ∧
      performAll 60 uses { slot with device.channel.speed := .fast } = some fast ∧ slow.1 = fast.1 ∧
      slow.2.device.channel.host.log.delays = 13 ∧ fast.2.device.channel.host.log.delays = 0 := by
  intro slot uses
  have hrel := speed_unnoticed 60 uses slot
  -- thirteen bytes: two while selecting, six of the command, two of its answer, two more, one at the end
  have hdelays : (performAll 60 uses { slot with device.channel.speed := .slow }).any
      (fun slow => decide (slow.2.device.channel.host.log.delays = 13)) = true := by decide +kernel
  generalize performAll 60 uses { slot with device.channel.speed := .slow } = slow at hrel hdelays ⊢
  generalize performAll 60 uses { slot with device.channel.speed := .fast } = fast at hrel ⊢
  cases hrel with
  | none => cases hdelays
  | some h =>
    obtain ⟨hanswers, -, -, events, hpaced⟩ := h
    exact ⟨_, _, rfl, rfl, hanswers, of_decide_eq_true hdelays, hpaced.fast_delays⟩

end Card

end SpiDisk
