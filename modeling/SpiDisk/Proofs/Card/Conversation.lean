import SpiDisk.Proofs.Bus.History
import SpiDisk.Proofs.Card.Request

/-!
# `SpiDisk.Proofs.Card.Conversation` — what was said to a card and what it said

The history of a channel is a record of calls on a board: bytes that went out, one by one or many at
once, and bytes that came in. This module reads it as a conversation with a card. An `Exchange` begins
when the card is selected; it has a frame, unless the card was not ready for one, and what was heard
behind the frame. `talk` makes exchanges out of events, so that what is said of exchanges is said of the
bytes on the wire. No frame escapes it: six bytes that begin like a frame are one wherever they stand.

A conversation depends on what passes on the wire and on nothing else, so that what every operation of
the engine adds to it is read off the signals of the operation.

## Contents
- **Conversations.** `Exchange` with its `answer`, `word` and `block?`; `Talk` and `talk`.
- **Signals.** `Talk.pass` and `talk_append`, and what frames, partings and requests come to.
- **Between two commands.** `Talking` and `Told`, what the conversation has come to, with
  `Talking.passed`.
- **Commands.** `Issued`, what a command comes to, with `told_sendPlain`, also of a command that waits and
  is not sent; `amid_readWord` and `amid_receiveBlock`, what is heard behind its answer.
-/

namespace SpiDisk

/-! ## Conversations -/

/-- What passed between one selection of a card and the next. -/
structure Exchange where
  /-- The command, unless none was sent. -/
  frame : Option (List UInt8) := none
  /-- What was heard behind the command. -/
  heard : List UInt8 := []

/-- The first four bytes as a number, most significant first. -/
def wordIn (bytes : List UInt8) : UInt32 :=
  (bytes.take 4).foldl (fun word byte => word <<< 8 ||| byte.toUInt32) 0

/-- The register in a block, if all of it is there: idle bytes, a token, the register, and a checksum. -/
def blockIn? (bytes : List UInt8) : Option (List UInt8) :=
  match bytes.dropWhile (· = idleByte) with
  | token :: block =>
    if token = Token.startBlock ∧ registerSize + 2 ≤ block.length then
      some (block.take registerSize)
    else none
  | [] => none

namespace Exchange

/-- Whether this command was sent. -/
def Sends (x : Exchange) (command : Command) (argument : UInt32) : Prop :=
  x.frame = some (Command.frame command.index argument)

/-- The answer to the command, which is that of an idle line if none was sent. -/
def answer (x : Exchange) : UInt8 :=
  match answered responsePolls x.heard with
  | some (r1, _) => r1
  | none => idleByte

/-- What was heard behind the answer. -/
def rest (x : Exchange) : List UInt8 :=
  match answered responsePolls x.heard with
  | some (_, rest) => rest
  | none => []

/-- The word behind the answer. -/
def word (x : Exchange) : UInt32 :=
  wordIn x.rest

/-- The register behind the answer, if all of it came. -/
def block? (x : Exchange) : Option (List UInt8) :=
  blockIn? x.rest

/-- More is heard, if a command was sent. -/
def hear (bytes : List UInt8) (x : Exchange) : Exchange :=
  if x.frame.isSome then { x with heard := x.heard ++ bytes } else x

end Exchange

/-- What the exchanges have come to when bytes were heard. -/
def hearing (bytes : List UInt8) : List Exchange → List Exchange
  | [] => []
  | x :: earlier => x.hear bytes :: earlier

/-- What the exchanges have come to when a frame was sent, which begins a new one if the last has a
    frame already. -/
def sending (frame : List UInt8) : List Exchange → List Exchange
  | [] => [{ frame := some frame }]
  | x :: earlier =>
    if x.frame.isSome then { frame := some frame } :: x :: earlier
    else { x with frame := some frame } :: earlier

/-- A conversation, as far as it has got. -/
structure Talk where
  /-- The exchanges, latest first. -/
  exchanges : List Exchange := []
  /-- The bytes of a frame that is not complete. -/
  part : List UInt8 := []
  /-- Whether the register was emptied, which goes before a de-selection. -/
  parting : Bool := false

namespace Talk

/-- A byte goes out. It belongs to a frame if it begins one or if one was begun. -/
def say (t : Talk) (byte : UInt8) : Talk :=
  if t.part = [] ∧ byte &&& 0xC0 ≠ 0x40 then t
  else
    let part := t.part ++ [byte]
    if part.length < ChannelM.frameLength then { t with part }
    else { t with part := [], exchanges := sending part t.exchanges }

/-- The lines are driven. That is a selection, unless it is part of a de-selection. -/
def drive (t : Talk) : Talk :=
  if t.parting then { t with parting := false }
  else { exchanges := {} :: t.exchanges }

/-- One more event. -/
def step (t : Talk) : Event → Talk
  | .read bytes fault => { t with exchanges := hearing (ChannelM.visible bytes fault) t.exchanges }
  | .wrote bytes _ => bytes.foldl say t
  | .exchanged sent received fault =>
    let t := sent.foldl say t
    { t with exchanges := hearing (ChannelM.visible received fault) t.exchanges }
  | .flushed _ => { t with parting := true }
  | .drove .. => t.drive
  | .took | .gave | .pausedMicros _ | .pausedNanos _ => t

end Talk

/-- The conversation that some events make, latest first. -/
def talk : List Event → Talk
  | [] => {}
  | event :: earlier => (talk earlier).step event

/-! ## Signals -/

theorem hearing_nil (exchanges : List Exchange) : hearing [] exchanges = exchanges := by
  cases exchanges with
  | nil => rfl
  | cons x earlier => simp only [hearing, Exchange.hear, List.append_nil, ite_self]

theorem hearing_append (bytes more : List UInt8) (exchanges : List Exchange) :
    hearing more (hearing bytes exchanges) = hearing (bytes ++ more) exchanges := by
  cases exchanges with
  | nil => rfl
  | cons x earlier =>
    obtain ⟨frame, heard⟩ := x
    cases frame with
    | none => rfl
    | some frame => simp [hearing, Exchange.hear, List.append_assoc]

namespace Talk

/-- One more signal. -/
def pass (t : Talk) : Signal → Talk
  | .said byte => t.say byte
  | .heard byte => { t with exchanges := hearing [byte] t.exchanges }
  | .emptied => { t with parting := true }
  | .drove _ => t.drive

theorem foldl_pass_said (t : Talk) (bytes : List UInt8) :
    (bytes.map .said).foldl pass t = bytes.foldl say t :=
  List.foldl_map ..

theorem foldl_pass_heard (t : Talk) (bytes : List UInt8) :
    (bytes.map .heard).foldl pass t = { t with exchanges := hearing bytes t.exchanges } := by
  induction bytes generalizing t with
  | nil =>
    rw [hearing_nil]
    rfl
  | cons byte bytes ih =>
    rw [List.map_cons, List.foldl_cons, ih]
    exact congrArg (Talk.mk · t.part t.parting) (hearing_append [byte] bytes t.exchanges)

/-- Of an event no more than its signals matters. -/
theorem step_eq (t : Talk) (event : Event) : t.step event = event.signals.foldl pass t := by
  cases event with
  | read bytes fault => exact (foldl_pass_heard t _).symm
  | wrote bytes log => exact (foldl_pass_said t bytes).symm
  | exchanged sent received fault =>
    rw [Event.signals, List.foldl_append, foldl_pass_said, foldl_pass_heard]
    rfl
  | flushed | drove | took | gave | pausedMicros | pausedNanos => rfl

/-- An idle byte is no part of a frame. -/
theorem say_idle (exchanges : List Exchange) (parting : Bool) :
    Talk.say ⟨exchanges, [], parting⟩ idleByte = ⟨exchanges, [], parting⟩ :=
  if_pos ⟨rfl, by decide⟩

theorem foldl_say_idle (exchanges : List Exchange) (parting : Bool) (count : Nat) :
    (List.replicate count idleByte).foldl Talk.say ⟨exchanges, [], parting⟩ =
      ⟨exchanges, [], parting⟩ := by
  induction count with
  | zero => rfl
  | succ count ih => rw [List.replicate_succ, List.foldl_cons, say_idle, ih]

/-- The bytes of a frame are taken for a frame. -/
theorem foldl_say_frame (exchanges : List Exchange) {index : UInt8} (argument : UInt32)
    (hindex : (0x40 ||| index) &&& 0xC0 = 0x40) :
    (Command.frame index argument).foldl Talk.say ⟨exchanges, [], false⟩ =
      ⟨sending (Command.frame index argument) exchanges, [], false⟩ := by
  simp [Command.frame, Command.argumentBytes, Talk.say, ChannelM.frameLength, hindex]

/-- A de-selection adds nothing: the lines are driven right behind emptying the register. -/
theorem foldl_pass_parting (exchanges : List Exchange) :
    Signal.parting.foldl pass ⟨exchanges, [], false⟩ = ⟨exchanges, [], false⟩ :=
  say_idle exchanges false

/-- Nor does giving the bus back, be it owned or not. -/
theorem foldl_pass_release (owned : Bool) (exchanges : List Exchange) :
    (if owned then Signal.parting else []).foldl pass ⟨exchanges, [], false⟩ =
      ⟨exchanges, [], false⟩ := by
  cases owned with
  | true => exact foldl_pass_parting exchanges
  | false => rfl

/-- A request begins an exchange whether or not the card was ready. -/
theorem foldl_pass_request (request : Request) (mask : UInt8) (owned : Bool) {index : UInt8}
    {argument : UInt32} (hframe : request.frame = Command.frame index argument)
    (hindex : (0x40 ||| index) &&& 0xC0 = 0x40) (earlier : List Exchange) :
    (request.signals mask owned).foldl pass ⟨earlier, [], false⟩ =
      ⟨(if request.sent then { frame := some request.frame, heard := request.answers } else {}) ::
        earlier, [], false⟩ := by
  -- what is heard before the frame belongs to no exchange
  have hwait : request.wait.signals.foldl pass ⟨{} :: earlier, [], false⟩ =
      ⟨{} :: earlier, [], false⟩ :=
    foldl_pass_heard _ _
  unfold Request.signals
  rw [List.foldl_append, List.foldl_append, List.foldl_append, foldl_pass_release]
  show List.foldl pass (request.wait.signals.foldl pass ⟨{} :: earlier, [], false⟩) _ = _
  rw [hwait]
  cases request.sent with
  | true =>
    rw [if_pos rfl, if_pos rfl, List.foldl_append, foldl_pass_said, hframe,
      foldl_say_frame _ argument hindex, foldl_pass_heard]
    rfl
  | false => exact foldl_pass_parting _

end Talk

/-- The conversation that events make is told by what they put on the wire. -/
theorem talk_append (events earlier : List Event) :
    talk (events ++ earlier) = (wire events).foldl Talk.pass (talk earlier) := by
  induction events with
  | nil => rfl
  | cons event events ih => rw [List.cons_append, talk, ih, Talk.step_eq, wire, List.foldl_append]

/-! ## Between two commands -/

namespace ChannelM

open SessionM CardEngine

variable {H C : Type} {old : List Event} {t : Talk} {earlier : List Exchange}

/-- The events behind `old` make this conversation. -/
def Talking (old : List Event) (t : Talk) : Session (Channel H) C → Prop :=
  Since old fun events => talk events = t

/-- The events behind `old` make these exchanges, latest first, and nothing is under way. -/
def Told (old : List Event) (exchanges : List Exchange) : Session (Channel H) C → Prop :=
  Talking old ⟨exchanges, [], false⟩

variable [TickSource C]

/-- What passes adds its signals to a conversation. -/
theorem Talking.passed {signals : List Signal} {readings : Nat} {s s' : Session (Channel H) C}
    (h : Talking old t s) (hpassed : Passed signals readings s s') :
    Talking old (signals.foldl Talk.pass t) s' := by
  obtain ⟨events, hevents, rfl⟩ := h
  obtain ⟨more, hmore, rfl⟩ := hpassed.wire
  refine ⟨more ++ events, ?_, talk_append more events⟩
  rw [hmore, hevents, List.append_assoc]

variable [Host H]

theorem told_idle (count : Nat) {s : Session (Channel H) C} (h : Told old earlier s) :
    Ensures (write (List.replicate count idleByte)) s fun _ s' => Told old earlier s' := by
  refine (passed_write _ s).mono fun _ s' hpassed => ?_
  have hs' := h.passed hpassed
  rw [Talk.foldl_pass_said, Talk.foldl_say_idle] at hs'
  exact hs'

theorem told_deselect {s : Session (Channel H) C} (h : Told old earlier s) :
    Ensures deselect s fun _ s' => Told old earlier s' := by
  refine (passed_deselect s).mono fun _ s' hpassed => ?_
  have hs' := h.passed hpassed
  rw [Talk.foldl_pass_parting] at hs'
  exact hs'

omit [Host H] in
theorem told_obtain {s : Session (Channel H) C} (h : Told old earlier s) :
    Ensures obtain s fun _ s' => Told old earlier s' :=
  (passed_obtain s).mono fun _ _ hs' => h.passed hs'.2

/-- A selection begins an exchange. -/
theorem told_select {s : Session (Channel H) C} (h : Told old earlier s) :
    Ensures select s fun _ s' => Told old ({} :: earlier) s' :=
  (passed_select s).mono fun _ _ hpassed => h.passed hpassed

/-- What is heard before a frame was sent belongs to no exchange. -/
theorem listening_told :
    Listening (Told old ({} :: earlier) : Session (Channel H) C → Prop) where
  read s h := (passed_readByte s).mono fun _ _ hpassed => h.passed hpassed
  tick h := h

theorem told_shutdown {s : Session (Channel H) C} (h : Told old earlier s) :
    Ensures shutdown s fun _ s' => Told old earlier s' := by
  refine (passed_shutdown s).mono ?_
  rintro _ s' ⟨-, hpassed⟩
  have hs' := h.passed hpassed
  rw [Talk.foldl_pass_release] at hs'
  exact hs'

omit [Host H] [TickSource C] in
theorem told_report {N : Type} [Diagnostic N] (event : N) {s : Session (Channel H) C}
    (h : Told old earlier s) : Ensures (report event) s fun _ s' => Told old earlier s' :=
  ensures_report h

omit [Host H] in
theorem told_startDeadline (ms : UInt32) {s : Session (Channel H) C} (h : Told old earlier s) :
    Ensures (startDeadline ms) s fun _ s' => Told old earlier s' :=
  ensures_startDeadline h

/-! ## Commands -/

/-- What a command comes to: nothing was sent, which is answered by an idle line, or its frame was, and
    `rest` was heard behind the answer. -/
inductive Issued (command : Command) (argument : UInt32) : UInt8 → List UInt8 → Exchange → Prop where
  | silent : Issued command argument idleByte [] {}
  | sent {r1 : UInt8} {rest heard : List UInt8}
    (h : answered responsePolls heard = some (r1, rest)) :
    Issued command argument r1 rest
      { frame := some (Command.frame command.index argument), heard }

namespace Issued

variable {command : Command} {argument : UInt32} {r1 : UInt8} {rest : List UInt8} {x : Exchange}

omit [Host H] [TickSource C]

theorem answer_eq (h : Issued command argument r1 rest x) : x.answer = r1 := by
  cases h with
  | silent => rfl
  | sent h =>
    unfold Exchange.answer
    rw [h]

theorem rest_eq (h : Issued command argument r1 rest x) : x.rest = rest := by
  cases h with
  | silent => rfl
  | sent h =>
    unfold Exchange.rest
    rw [h]

/-- An answer is proof that the command was sent. -/
theorem sends (h : Issued command argument r1 rest x) (hanswer : R1.isAnswer r1 = true) :
    x.Sends command argument := by
  cases h with
  | silent => exact absurd hanswer (by decide)
  | sent h => rfl

/-- Nothing else than the command was sent. -/
theorem frame_eq (h : Issued command argument r1 rest x) {frame : List UInt8}
    (hframe : x.frame = some frame) : frame = Command.frame command.index argument := by
  cases h with
  | silent => cases hframe
  | sent h => exact (Option.some.inj hframe).symm

theorem hear (h : Issued command argument r1 rest x) (hanswer : R1.isAnswer r1 = true)
    (bytes : List UInt8) : Issued command argument r1 (rest ++ bytes) (x.hear bytes) := by
  cases h with
  | silent => exact absurd hanswer (by decide)
  | sent h => exact .sent (answered_append h bytes)

end Issued

/-- The latest exchange is that of a command, its answer, and what was heard behind it. -/
def Amid (old : List Event) (earlier : List Exchange) (command : Command) (argument : UInt32)
    (r1 : UInt8) (rest : List UInt8) (s : Session (Channel H) C) : Prop :=
  ∃ x, Issued command argument r1 rest x ∧ Told old (x :: earlier) s

theorem amid_sendPlain (patience : Nat) {command : Command} (argument : UInt32)
    (hplain : command.index ≠ Command.stopTransmission.index)
    (hindex : (0x40 ||| command.index) &&& 0xC0 = 0x40) {s : Session (Channel H) C}
    (h : Told old earlier s) :
    Ensures (sendPlain patience command.index argument) s fun r1 s' =>
      Amid old earlier command argument r1 [] s' := by
  refine (passed_sendPlain hplain argument s).mono ?_
  rintro _ s' ⟨request, hframe, rfl, hproper, -, hpassed⟩
  have hs' := h.passed hpassed
  rw [Talk.foldl_pass_request request _ _ hframe hindex] at hs'
  refine ⟨_, ?_, hs'⟩
  cases hsent : request.sent with
  | true =>
    rw [if_pos rfl, hframe]
    exact .sent (hproper.heard hsent)
  | false =>
    have hanswer : request.answer = idleByte := by
      unfold Request.answer
      rw [hproper.silent hsent]
      rfl
    rw [hanswer]
    exact .silent

/-- Nothing was said since these exchanges, though the card may be selected. -/
def Unsaid (old : List Event) (earlier : List Exchange) (s : Session (Channel H) C) : Prop :=
  Told old earlier s ∨ Told old ({} :: earlier) s

/-- **A command in brackets of its own** is one more exchange. If it does not come back it waits for the
    token or for the card, and was not sent. -/
theorem told_sendPlain (patience : Nat) {command : Command} (argument : UInt32)
    (hplain : command.index ≠ Command.stopTransmission.index)
    (hindex : (0x40 ||| command.index) &&& 0xC0 = 0x40) {s : Session (Channel H) C}
    (h : Told old earlier s) :
    Throughout (Unsaid old earlier) (sendPlain patience command.index argument) s fun r1 s' =>
      Amid old earlier command argument r1 [] s' := by
  have hselect : ∀ {s : Session (Channel H) C}, Told old earlier s →
      Throughout (Unsaid old earlier) (selectCard patience) s fun _ _ => True := by
    intro s h
    refine (throughout_obtain (told_obtain h) (.inl h)).bind fun _ s₁ h₁ => ?_
    refine (told_select h₁).whole.bind fun _ s₂ h₂ => ?_
    refine (listening_told.read s₂ h₂).whole.bind fun _ s₃ h₃ => ?_
    have hwait : Throughout (Unsaid old earlier) (waitReady patience) s₃ fun _ s' =>
        Told old ({} :: earlier) s' :=
      (listening_told.upholds_waitReady patience s₃ h₃).weaken fun _ => Or.inr
    refine hwait.bind fun ready s₄ _ => ?_
    split
    · exact throughout_pure trivial
    · refine throughout_bind (ensures_any fun _ s₅ => ?_)
      exact throughout_bind (ensures_any fun _ _ => throughout_pure trivial)
  have hstands : Throughout (Unsaid old earlier) (sendPlain patience command.index argument) s
      fun _ _ => True := by
    unfold sendPlain
    rw [if_neg hplain]
    refine (told_shutdown h).whole.bind fun _ s₁ h₁ => ?_
    refine (hselect h₁).bind fun ready s₂ _ => ?_
    split
    · exact Ensures.whole (ensures_any fun _ _ => trivial)
    · exact throughout_pure trivial
  exact ⟨amid_sendPlain patience argument hplain hindex h, hstands.stands⟩

/-! ### Behind an answer -/

section Answered

variable {command : Command} {argument : UInt32} {r1 : UInt8} {rest : List UInt8}
  {s : Session (Channel H) C}

omit [Host H] in
/-- What is heard behind an answer belongs to its command. -/
theorem Amid.hear {bytes : List UInt8} {readings : Nat} {s' : Session (Channel H) C}
    (h : Amid old earlier command argument r1 rest s) (hanswer : R1.isAnswer r1 = true)
    (hpassed : Passed (bytes.map .heard) readings s s') :
    Amid old earlier command argument r1 (rest ++ bytes) s' := by
  obtain ⟨x, hissued, htold⟩ := h
  have hs' := htold.passed hpassed
  rw [Talk.foldl_pass_heard] at hs'
  exact ⟨x.hear bytes, hissued.hear hanswer bytes, hs'⟩

theorem amid_readWord (hanswer : R1.isAnswer r1 = true)
    (h : Amid old earlier command argument r1 [] s) :
    Ensures readWord s fun word s' => ∃ bytes, wordIn bytes = word ∧
      Amid old earlier command argument r1 bytes s' := by
  refine (passed_read 4 s).bind ?_
  rintro bytes s' ⟨hlength, hpassed⟩
  refine ensures_pure ⟨bytes, ?_, h.hear hanswer hpassed⟩
  unfold wordIn
  rw [List.take_of_length_le (Nat.le_of_eq hlength)]

omit [Host H] [TickSource C] in
theorem blockIn?_eq (count : Nat) {block checksum : List UInt8}
    (hblock : block.length = registerSize) (hchecksum : checksum.length = 2) :
    blockIn? (List.replicate count idleByte ++ [Token.startBlock] ++ block ++ checksum) =
      some block := by
  have hdrop : (List.replicate count idleByte ++ [Token.startBlock] ++ block ++ checksum).dropWhile
      (· = idleByte) = Token.startBlock :: (block ++ checksum) := by
    induction count with
    | zero => rfl
    | succ count ih => exact ih
  have hlength : (block ++ checksum).length = registerSize + 2 := by
    rw [List.length_append, hblock, hchecksum]
  unfold blockIn?
  rw [hdrop]
  dsimp only
  rw [if_pos ⟨rfl, Nat.le_of_eq hlength.symm⟩, ← hblock, List.take_left]

/-- What is listened to behind an answer belongs to its command. -/
theorem listening_amid (hanswer : R1.isAnswer r1 = true) :
    Listening fun s : Session (Channel H) C =>
      ∃ rest, Amid old earlier command argument r1 rest s where
  read := by
    rintro s ⟨rest, h⟩
    exact (passed_readByte s).mono fun byte _ hpassed => ⟨rest ++ [byte], h.hear hanswer hpassed⟩
  tick h := h

/-- **A register that was received** is the block behind the answer. Whoever still waits for it has heard
    nothing that does not belong to the command. -/
theorem amid_receiveBlock (patience : Nat) (hanswer : R1.isAnswer r1 = true)
    (h : Amid old earlier command argument r1 [] s) :
    Throughout (fun t => ∃ rest, Amid old earlier command argument r1 rest t)
      (receiveBlock patience registerSize) s fun result s' =>
        ∃ rest, Amid old earlier command argument r1 rest s' ∧
          ∀ bytes, result = .ok bytes → blockIn? rest = some bytes := by
  refine ⟨?_, ((listening_amid hanswer).throughout_receiveBlock patience registerSize ⟨[], h⟩).stands⟩
  refine (passed_receiveBlock registerSize s).mono ?_
  rintro result s' ⟨token, htimed, more, hpassed, hresult⟩
  have hheard : Passed ((token.vain ++ token.found.toList ++ more).map .heard) token.readings s s' :=
    hpassed.congr (List.map_append ..).symm rfl
  refine ⟨_, h.hear hanswer hheard, ?_⟩
  rintro bytes rfl
  obtain ⟨hfound, hbytes, checksum, hchecksum, rfl⟩ := hresult
  rw [hfound, htimed.vain_eq, Option.toList_some, List.nil_append, ← List.append_assoc]
  exact blockIn?_eq token.vain.length hbytes hchecksum

end Answered

end ChannelM

end SpiDisk
