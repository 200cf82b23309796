import SpiDisk.Bench.Script
import SpiDisk.Proofs.Card.Address
import SpiDisk.Proofs.Card.Request
import SpiDisk.Proofs.Device

/-!
# `SpiDisk.Proofs.Card.WriteStream` — a multiple write, signal by signal

A run of several sectors is written as a stream. Its blocks are tried one behind the other: the card is
waited for, the block goes out in a packet, and the card's response is read. The first wait or response
that fails ends the trying, and then the card is told to stop, whatever became of the blocks. The stream is
followed here from the first signal of the command to the de-selection behind it, over any board, and what
the call returns is the first of its failures.

## Contents
- **Attempts.** `Attempt`, one block of a stream, and `Tried`, the attempts at some blocks.
- **Streams.** `Stream` with its signals, `Stream.outcome`, and what a stream of attempts says.
- **The engine.** `passed_transmitBlocks` and `passed_writeMany`.
- **Cards.** `Card.streamed_of_write`.
-/

namespace SpiDisk

open SessionM

variable {H C : Type}

/-! ## Attempts -/

/-- The bytes that carry a block in a multiple write: a token, the block, and a dummy checksum. -/
def packet (block : List UInt8) : List UInt8 :=
  Token.startMultiWrite :: block ++ [idleByte, idleByte]

/-- What became of one block of a stream. -/
structure Attempt where
  block : List UInt8
  /-- The wait for the card, without whose success no packet is sent. -/
  wait : Poll
  /-- The card's response to the packet, if it was sent. -/
  response : Option UInt8

namespace Attempt

/-- The signals of an attempt. -/
def signals (attempt : Attempt) : List Signal :=
  attempt.wait.signals ++
    match attempt.response with
    | some response => (packet attempt.block).map .said ++ [.heard response]
    | none => []

/-- What an attempt comes to. -/
def outcome (attempt : Attempt) : Except CardError Unit :=
  match attempt.response with
  | some response => if Token.accepts response then .ok () else .error .badResponse
  | none => .error .timeout

/-- Whether the block went out and was accepted. -/
def accepted (attempt : Attempt) : Bool :=
  attempt.response.any Token.accepts

theorem outcome_eq_ok {attempt : Attempt} :
    attempt.outcome = .ok () ↔ attempt.accepted = true := by
  unfold outcome accepted
  cases attempt.response with
  | none => exact ⟨nofun, nofun⟩
  | some response =>
    cases haccepts : Token.accepts response with
    | true => simp [haccepts]
    | false => simp [haccepts]

theorem rejected_of_error {attempt : Attempt} {error : CardError}
    (h : attempt.outcome = .error error) : attempt.accepted = false := by
  cases haccepted : attempt.accepted with
  | false => rfl
  | true =>
    rw [outcome_eq_ok.mpr haccepted] at h
    cases h

theorem sent_of_accepted {attempt : Attempt} (h : attempt.accepted = true) :
    attempt.response.isSome = true := by
  obtain ⟨response, hresponse, -⟩ := (Option.any_eq_true _ _).mp h
  rw [hresponse]
  rfl

/-- An attempt as it can be, begun with the clock as it is here. -/
structure Proper [TickSource C] (clock : C) (attempt : Attempt) : Prop where
  wait : attempt.wait.Timed ChannelM.isIdle clock
  sent : attempt.response.isSome = attempt.wait.ended

/-- A packet goes behind the byte that told that the card is ready. -/
theorem Proper.ready [TickSource C] {clock : C} {attempt : Attempt} (h : attempt.Proper clock)
    (hsent : attempt.response.isSome = true) : attempt.wait.found = some idleByte :=
  h.wait.found_idle (h.sent.symm.trans hsent)

theorem saidIn_signals (attempt : Attempt) :
    saidIn attempt.signals = if attempt.response.isSome then packet attempt.block else [] := by
  unfold signals
  rw [saidIn_append, Poll.saidIn_signals, List.nil_append]
  cases attempt.response with
  | none => rfl
  | some response =>
    dsimp only
    rw [saidIn_append, saidIn_said]
    exact List.append_nil _

end Attempt

/-- How many packets went out in attempts. -/
def packetsOf (attempts : List Attempt) : Nat :=
  attempts.countP fun attempt => attempt.response.isSome

theorem packetsOf_cons {attempt : Attempt} (h : attempt.response.isSome = true)
    (rest : List Attempt) : packetsOf (attempt :: rest) = packetsOf rest + 1 :=
  List.countP_cons_of_pos (p := fun attempt : Attempt => attempt.response.isSome) h

/-- Every attempt that was accepted sent its packet. -/
theorem packetsOf_eq_length {attempts : List Attempt}
    (h : ∀ attempt ∈ attempts, attempt.accepted = true) : packetsOf attempts = attempts.length :=
  List.countP_eq_length.mpr fun attempt hmem => attempt.sent_of_accepted (h attempt hmem)

/-- The attempts at some blocks, in order, the first of them begun with the clock as it is here. Behind one
    that failed there is no other. -/
inductive Tried [TickSource C] : C → List (List UInt8) → List Attempt → Prop where
  | done (clock : C) : Tried clock [] []
  | failed {clock : C} {attempt : Attempt} (rest : List (List UInt8)) (hproper : attempt.Proper clock)
      (hfailed : attempt.accepted = false) : Tried clock (attempt.block :: rest) [attempt]
  | next {clock : C} {attempt : Attempt} {rest : List (List UInt8)} {attempts : List Attempt}
      (hproper : attempt.Proper clock) (haccepted : attempt.accepted = true)
      (hrest : Tried (ticked attempt.wait.readings clock) rest attempts) :
      Tried clock (attempt.block :: rest) (attempt :: attempts)

namespace Tried

variable [TickSource C] {clock : C} {blocks : List (List UInt8)} {attempts : List Attempt}

theorem ready (h : Tried clock blocks attempts) : ∀ attempt ∈ attempts,
    attempt.response.isSome = true → attempt.wait.found = some idleByte := by
  induction h with
  | done => exact nofun
  | failed rest hproper hfailed =>
    intro other hother
    rw [List.mem_singleton.mp hother]
    exact hproper.ready
  | next hproper _ _ ih =>
    intro other hother
    rcases List.mem_cons.mp hother with rfl | hother
    · exact hproper.ready
    · exact ih other hother

/-- Only the last attempt can have failed. -/
theorem onward (h : Tried clock blocks attempts) :
    ∀ attempt ∈ attempts.dropLast, attempt.accepted = true := by
  induction h with
  | done => exact nofun
  | failed => exact nofun
  | @next _ attempt rest attempts _ haccepted _ ih =>
    intro other hother
    cases attempts with
    | nil => cases hother
    | cons second attempts =>
      rcases List.mem_cons.mp hother with rfl | hother
      · exact haccepted
      · exact ih other hother

/-- The blocks are tried from the first on; if all attempts were accepted, then all of them were tried. -/
theorem whole (h : Tried clock blocks attempts)
    (hall : ∀ attempt ∈ attempts, attempt.accepted = true) : attempts.length = blocks.length := by
  induction h with
  | done => rfl
  | failed rest _ hfailed =>
    rw [hall _ (List.mem_singleton_self _)] at hfailed
    cases hfailed
  | next _ _ _ ih =>
    rw [List.length_cons, List.length_cons, ih fun other hother => hall other (.tail _ hother)]

/-- **What goes out** is the packets of the first blocks, complete and in order. -/
theorem saidIn_flatMap (h : Tried clock blocks attempts) :
    saidIn (attempts.flatMap Attempt.signals) =
      (blocks.take (packetsOf attempts)).flatMap packet := by
  induction h with
  | done => rfl
  | @failed _ attempt rest _ _ =>
    rw [List.flatMap_singleton, Attempt.saidIn_signals]
    unfold packetsOf
    cases hsent : attempt.response.isSome with
    | true =>
      rw [if_pos rfl, List.countP_singleton, if_pos hsent]
      exact (List.append_nil _).symm
    | false =>
      rw [if_neg (by decide), List.countP_singleton, hsent]
      rfl
  | @next _ attempt rest attempts _ haccepted _ ih =>
    have hsent := attempt.sent_of_accepted haccepted
    rw [List.flatMap_cons, saidIn_append, ih, Attempt.saidIn_signals, if_pos hsent]
    rw [packetsOf_cons hsent]
    rfl

theorem packetsOf_le (h : Tried clock blocks attempts) : packetsOf attempts ≤ blocks.length := by
  have hlength : attempts.length ≤ blocks.length := by
    induction h with
    | done => exact Nat.le_refl _
    | failed => exact Nat.succ_le_succ (Nat.zero_le _)
    | next _ _ _ ih => exact Nat.succ_le_succ ih
  exact Nat.le_trans (List.countP_le_length ..) hlength

end Tried

/-! ## Streams -/

/-- A stream of blocks: the attempts at them, and the wait before the card is told to stop. -/
structure Stream where
  attempts : List Attempt
  stop : Poll

namespace Stream

/-- The token that tells the card to stop, if the wait for the card found it ready. -/
def stopToken (stop : Poll) : List UInt8 :=
  if stop.ended then [Token.stopMultiWrite] else []

/-- What becomes of the stop token. -/
def stopOutcome (stop : Poll) : Except CardError Unit :=
  if stop.ended then .ok () else .error .timeout

/-- The signals of a stream. -/
def signals (stream : Stream) : List Signal :=
  stream.attempts.flatMap Attempt.signals ++ (stream.stop.signals ++ (stopToken stream.stop).map .said)

/-- What a stream comes to: the first failure, be it of an attempt or of the stop token. -/
def outcome (stream : Stream) : Except CardError Unit :=
  firstFailure (stream.attempts.map Attempt.outcome ++ [stopOutcome stream.stop])

/-- The readings of the clock in attempts. -/
def readingsOf : List Attempt → Nat
  | [] => 0
  | attempt :: rest => attempt.wait.readings + readingsOf rest

/-- A stream of some blocks as it can be, begun with the clock as it is here. -/
structure Proper [TickSource C] (clock : C) (blocks : List (List UInt8)) (stream : Stream) : Prop where
  tried : Tried clock blocks stream.attempts
  stop : stream.stop.Timed ChannelM.isIdle (ticked (readingsOf stream.attempts) clock)

variable [TickSource C] {clock : C} {blocks : List (List UInt8)} {stream : Stream}

/-- What goes out in a stream is complete packets, in order, and then the stop token or nothing. -/
theorem Proper.saidIn_signals (h : stream.Proper clock blocks) :
    saidIn stream.signals =
      (blocks.take (packetsOf stream.attempts)).flatMap packet ++ stopToken stream.stop := by
  unfold signals
  rw [saidIn_append, saidIn_append, h.tried.saidIn_flatMap, Poll.saidIn_signals, List.nil_append,
    saidIn_said]

theorem stopOutcome_eq_ok {stop : Poll} : stopOutcome stop = .ok () ↔ stop.ended = true := by
  unfold stopOutcome
  cases stop.ended with
  | true => exact ⟨fun _ => rfl, fun _ => rfl⟩
  | false => exact ⟨nofun, nofun⟩

/-- A stream succeeds if and only if every block went out and was accepted, and the stop token went out. -/
theorem Proper.outcome_eq_ok (h : stream.Proper clock blocks) : stream.outcome = .ok () ↔
    packetsOf stream.attempts = blocks.length ∧
      (∀ attempt ∈ stream.attempts, attempt.accepted = true) ∧ stream.stop.ended = true := by
  have hattempts : (∀ attempt ∈ stream.attempts, attempt.outcome = .ok ()) ↔
      ∀ attempt ∈ stream.attempts, attempt.accepted = true :=
    forall₂_congr fun _ _ => Attempt.outcome_eq_ok
  unfold outcome
  rw [firstFailure_eq_ok, List.forall_mem_append, List.forall_mem_map, List.forall_mem_singleton,
    hattempts, stopOutcome_eq_ok]
  refine ⟨fun ⟨hall, hended⟩ => ⟨?_, hall, hended⟩, And.right⟩
  rw [packetsOf_eq_length hall, h.tried.whole hall]

end Stream

/-! ## The engine -/

namespace ChannelM

open CardEngine

variable [Host H] [TickSource C] {patience : Nat}

theorem passed_readyFor (token : UInt8) (s : Session (Channel H) C) :
    Ensures (readyFor patience token) s fun ready s' => ∃ wait : Poll, wait.ended = ready ∧
      wait.Timed isIdle s.env.clock ∧ Passed wait.signals wait.readings s s' := by
  refine (passed_waitReady patience s).bind ?_
  rintro ready s₁ ⟨wait, hended, htimed, h₁⟩
  cases ready with
  | true => exact ensures_pure ⟨wait, hended, htimed, h₁⟩
  | false =>
    refine (passed_report _ s₁).bind fun _ s₂ h₂ => ?_
    exact ensures_pure ⟨wait, hended, htimed, h₁.trans_quiet h₂⟩

/-- A block of a stream is one attempt. -/
theorem passed_transmitBlock (block : List UInt8) (s : Session (Channel H) C) :
    Ensures (transmitBlock patience Token.startMultiWrite block) s fun outcome s' =>
      ∃ attempt : Attempt, attempt.block = block ∧ attempt.Proper s.env.clock ∧
        attempt.outcome = outcome ∧ Passed attempt.signals attempt.wait.readings s s' := by
  refine (passed_readyFor _ s).bind ?_
  rintro ready s₁ ⟨wait, hended, htimed, h₁⟩
  cases ready with
  | false =>
    refine ensures_pure ⟨⟨block, wait, none⟩, rfl, ⟨htimed, hended.symm⟩, rfl, ?_⟩
    exact h₁.congr (List.append_nil _).symm rfl
  | true =>
    refine (passed_write [Token.startMultiWrite] s₁).bind fun _ s₂ h₂ => ?_
    refine (passed_write block s₂).bind fun _ s₃ h₃ => ?_
    refine (passed_write [idleByte, idleByte] s₃).bind fun _ s₄ h₄ => ?_
    refine (passed_readByte s₄).bind fun response s₅ h₅ => ?_
    let attempt : Attempt := ⟨block, wait, some response⟩
    have hproper : attempt.Proper s.env.clock := ⟨htimed, hended.symm⟩
    have hpassed : Passed attempt.signals wait.readings s s₅ := by
      refine (h₁.trans (h₂.trans (h₃.trans (h₄.trans h₅)))).congr ?_ rfl
      simp [attempt, Attempt.signals, packet]
    have houtcome : attempt.outcome =
        if Token.accepts response then .ok () else .error .badResponse := rfl
    split
    · rename_i haccepts
      rw [if_pos haccepts] at houtcome
      exact ensures_pure ⟨attempt, rfl, hproper, houtcome, hpassed⟩
    · rename_i haccepts
      rw [if_neg haccepts] at houtcome
      refine (passed_report _ s₅).bind fun _ s₆ h₆ => ?_
      exact ensures_pure ⟨attempt, rfl, hproper, houtcome, hpassed.trans_quiet h₆⟩

/-- **Blocks** are attempts, up to the first that fails. -/
theorem passed_transmitBlocks (blocks : List (List UInt8)) (s : Session (Channel H) C) :
    Ensures (transmitBlocks patience blocks) s fun outcome s' => ∃ attempts,
      Tried s.env.clock blocks attempts ∧ firstFailure (attempts.map Attempt.outcome) = outcome ∧
        Passed (attempts.flatMap Attempt.signals) (Stream.readingsOf attempts) s s' := by
  induction blocks generalizing s with
  | nil => exact ensures_pure ⟨[], .done _, rfl, .refl s⟩
  | cons block rest ih =>
    refine (passed_transmitBlock block s).bind ?_
    rintro (error | _) s₁ ⟨attempt, rfl, hproper, houtcome, h₁⟩
    · have hfailed := Attempt.rejected_of_error houtcome
      refine ensures_pure ⟨[attempt], .failed rest hproper hfailed, ?_, ?_⟩
      · rw [List.map_singleton, houtcome]
        rfl
      · rw [List.flatMap_singleton]
        exact h₁
    · have haccepted := Attempt.outcome_eq_ok.mp houtcome
      refine (ih s₁).mono ?_
      rintro outcome s₂ ⟨attempts, htried, hfirst, h₂⟩
      rw [h₁.clock] at htried
      refine ⟨attempt :: attempts, .next hproper haccepted htried, ?_, ?_⟩
      · rw [List.map_cons, houtcome]
        exact hfirst
      · rw [List.flatMap_cons]
        exact h₁.trans h₂

theorem passed_transmitStop (s : Session (Channel H) C) :
    Ensures (transmitStop patience) s fun outcome s' => ∃ stop : Poll,
      stop.Timed isIdle s.env.clock ∧ Stream.stopOutcome stop = outcome ∧
        Passed (stop.signals ++ (Stream.stopToken stop).map .said) stop.readings s s' := by
  refine (passed_readyFor _ s).bind ?_
  rintro ready s₁ ⟨stop, hended, htimed, h₁⟩
  unfold Stream.stopOutcome Stream.stopToken
  cases ready with
  | false =>
    refine ensures_pure ⟨stop, htimed, by rw [hended]; rfl, ?_⟩
    rw [hended]
    exact h₁.congr (List.append_nil _).symm rfl
  | true =>
    refine (passed_write _ s₁).bind fun _ s₂ h₂ => ensures_pure ⟨stop, htimed, by rw [hended]; rfl, ?_⟩
    rw [hended]
    exact h₁.trans h₂

/-- Blocks and the stop token are a stream. -/
theorem passed_stream (blocks : List (List UInt8)) (s : Session (Channel H) C) :
    Ensures (do
      let outcome ← transmitBlocks patience blocks
      let stop ← transmitStop patience
      match outcome with
      | .error error => pure (.error error)
      | .ok () => pure stop) s fun outcome s' => s'.device.owns = s.device.owns ∧
        ∃ stream : Stream, stream.Proper s.env.clock blocks ∧ stream.outcome = outcome ∧
          ∃ readings, Passed stream.signals readings s s' := by
  have howned := owned_timed (F := anyFrame) (H := H) (C := C) s.device.owns
  refine ((upholds_transmitBlocks howned patience (fun block _ => sayable_any block) s rfl).back.and
    (passed_transmitBlocks blocks s)).bind ?_
  rintro outcome s₁ ⟨howns, attempts, htried, hfirst, h₁⟩
  refine ((upholds_transmitStop howned patience s₁ howns).back.and (passed_transmitStop s₁)).bind ?_
  rintro stopped s₂ ⟨howns, stop, hstop, houtcome, h₂⟩
  rw [h₁.clock] at hstop
  let stream : Stream := ⟨attempts, stop⟩
  have hproper : stream.Proper s.env.clock blocks := ⟨htried, hstop⟩
  -- a failure of the blocks stands, whatever the stop token comes to
  cases outcome with
  | error error =>
    have hresult : stream.outcome = .error error := firstFailure_append_of_error hfirst _
    exact ensures_pure ⟨howns, stream, hproper, hresult, _, h₁.trans h₂⟩
  | ok _ =>
    have hresult : stream.outcome = stopped := by
      unfold Stream.outcome
      rw [firstFailure_append_of_ok hfirst, firstFailure_singleton]
      exact houtcome
    exact ensures_pure ⟨howns, stream, hproper, hresult, _, h₁.trans h₂⟩

/-- The requests that tell a card how many sectors are going to be written: for an SD card those of the
    command that does, and for others none. -/
def Announced (family : Family) (count : Nat) (requests : List Request) : Prop :=
  if family.isSd then ∃ r1, Requested Command.setEraseCount count.toUInt32 requests r1 else requests = []

theorem passed_announceCount (family : Family) (count : Nat) (s : Session (Channel H) C) :
    Ensures (announceCount patience family count) s fun _ s' =>
      ∃ announcement, Announced family count announcement ∧ Sent announcement s s' := by
  unfold announceCount Announced
  cases family.isSd with
  | false => exact ensures_pure ⟨[], rfl, .refl s⟩
  | true =>
    refine (passed_send (by decide) _ s).bind ?_
    rintro r1 s₁ ⟨announcement, hrequested, h₁⟩
    split
    · exact ensures_report ⟨announcement, ⟨r1, hrequested⟩, h₁.report _⟩
    · exact ensures_pure ⟨announcement, ⟨r1, hrequested⟩, h₁⟩

/-- What passes behind the answer to a multiple write: nothing if it was refused, and a stream if not. -/
inductive Streamed (clock : C) (blocks : List (List UInt8)) (r1 : UInt8) :
    List Signal → Except CardError Unit → Prop where
  | refused (hrefused : r1 ≠ R1.ready) : Streamed clock blocks r1 [] (.error (refusal r1))
  | streamed (hready : r1 = R1.ready) (stream : Stream) (hproper : stream.Proper clock blocks) :
      Streamed clock blocks r1 stream.signals stream.outcome

/-- **A multiple write** is the announcement, the command, and what passes behind its answer. -/
theorem passed_writeMany (family : Family) (address : UInt32) (blocks : List (List UInt8))
    (s : Session (Channel H) C) :
    Ensures (writeMany patience family address blocks) s fun outcome s' =>
      ∃ announcement, ∃ command : Request, ∃ data readings,
        Announced family blocks.length announcement ∧
        command.frame = Command.frame Command.writeMultiple.index address ∧
        Request.AllProper s.env.clock (announcement ++ [command]) ∧
        s'.device.owns = command.sent ∧
        Streamed (ticked (Request.readingsOf (announcement ++ [command])) s.env.clock) blocks
          command.answer data outcome ∧
        Passed (Request.signalsOf s.device.mask s.device.owns (announcement ++ [command]) ++ data)
          readings s s' := by
  refine (passed_announceCount family blocks.length s).bind ?_
  rintro _ s₁ ⟨announcement, hannounced, h₁⟩
  refine (passed_send (by decide) address s₁).bind ?_
  rintro _ s₂ ⟨requests, hrequested, h₂⟩
  obtain ⟨command, rfl, hframe, rfl⟩ := hrequested.of_plain rfl
  have hsent := h₁.append h₂
  have howns : s₂.device.owns = command.sent := by
    rw [hsent.owns, Request.ownedBehind_append]
    rfl
  by_cases hready : command.answer = R1.ready
  · rw [if_neg (not_not_intro hready)]
    refine (passed_stream blocks s₂).mono ?_
    rintro _ s₃ ⟨howned, stream, hproper, rfl, readings, h₃⟩
    rw [hsent.passed.clock] at hproper
    exact ⟨announcement, command, stream.signals, _, hannounced, hframe, hsent.proper,
      howned.trans howns, .streamed hready stream hproper, hsent.passed.trans h₃⟩
  · rw [if_pos hready]
    refine (passed_failureOf command.answer s₂).bind ?_
    rintro _ s₃ ⟨rfl, howned, h₃⟩
    exact ensures_pure ⟨announcement, command, [], _, hannounced, hframe, hsent.proper,
      howned.trans howns, .refused hready, hsent.passed.trans h₃⟩

/-- Two sectors or more are not written one by one. -/
theorem writeRun_of_many (family : Family) (address : UInt32)
    {blocks : List (List UInt8)} (hmany : 2 ≤ blocks.length) :
    (writeRun patience family address blocks : ChannelM H C (Except CardError Unit)) =
      writeMany patience family address blocks := by
  match blocks, hmany with
  | _ :: _ :: _, _ => rfl

/-- A run of several sectors that lies on the card is a multiple write, and then the bus is given back. -/
theorem passed_writeSectors (patience : Nat) {info : CardInfo} {lba address : UInt32}
    {bytes : List UInt8} (hpresent : info.isPresent = true) (hmany : 2 ≤ bytes.length / sectorSize)
    (haddress : info.runAddress lba (bytes.length / sectorSize) = .ok address)
    (s : Session (Channel H) C) :
    Ensures (writeSectors patience info lba bytes) s fun outcome s' =>
      ∃ announcement, ∃ command : Request, ∃ data readings,
        Announced info.family (bytes.length / sectorSize) announcement ∧
        command.frame = Command.frame Command.writeMultiple.index address ∧
        Request.AllProper s.env.clock (announcement ++ [command]) ∧
        Streamed (ticked (Request.readingsOf (announcement ++ [command])) s.env.clock)
          (sectors (bytes.length / sectorSize) bytes) command.answer data outcome ∧
        Passed (Request.signalsOf s.device.mask s.device.owns (announcement ++ [command]) ++ data ++
          if command.sent then Signal.parting else []) readings s s' := by
  have hsome : bytes.length / sectorSize ≠ 0 := by omega
  have hlength : (sectors (bytes.length / sectorSize) bytes).length = bytes.length / sectorSize :=
    length_sectors _ bytes
  unfold writeSectors storeRun
  simp only [hpresent, hsome, haddress, Bool.not_true, Bool.false_eq_true, if_false]
  rw [writeRun_of_many _ _ (Nat.le_trans hmany (Nat.le_of_eq hlength.symm))]
  refine (passed_writeMany info.family address _ s).bind ?_
  rintro outcome s₁ ⟨announcement, command, data, readings, hannounced, hframe, hproper, howns,
    hstreamed, h₁⟩
  rw [hlength] at hannounced
  refine (passed_conclude _ outcome s₁).bind fun _ s₂ h₂ => ensures_pure ?_
  rw [howns] at h₂
  exact ⟨announcement, command, data, _, hannounced, hframe, hproper, hstreamed, h₁.trans h₂⟩

end ChannelM

/-! ## Cards -/

namespace Card

open ChannelM CardEngine

variable [Host H] [TickSource C]

/-- **A multiple write, signal by signal.** Over any board, a run of two or more sectors that lies on a
    card that was identified is written as follows. An SD card, and no other, is told first how many
    sectors there will be; what it answers makes no difference to what comes. Then goes the command, and
    nothing goes behind it unless it was answered with zero. If it was, the blocks go out in order, in
    complete packets, each behind a byte that told that the card is ready; the first wait that takes too
    long and the first response that is no acceptance are the last. The stop token comes behind them and is
    missing only if the wait for it took too long, and nothing goes out between it and the de-selection.
    The call succeeds if and only if all packets went out and were accepted and the stop token went out,
    and returns the first failure otherwise. -/
theorem streamed_of_write (patience : Nat) {s : Session (Card H) C} {lba address : UInt32}
    {bytes : List UInt8} (hpresent : s.device.info.isPresent = true)
    (hmany : 2 ≤ bytes.length / sectorSize)
    (haddress : s.device.info.runAddress lba (bytes.length / sectorSize) = .ok address) :
    let count := bytes.length / sectorSize
    let blocks := sectors count bytes
    let channel := s.device.channel
    Ensures (write patience lba bytes) s fun outcome s' =>
      ∃ announcement, ∃ command : Request, ∃ data readings,
        Passed (Request.signalsOf channel.mask channel.owns (announcement ++ [command]) ++ data ++
          if command.sent then Signal.parting else []) readings (s.at Card.channel)
          (s'.at Card.channel) ∧
        Request.AllProper s.env.clock (announcement ++ [command]) ∧
        Announced s.device.info.family count announcement ∧ count.toUInt32.toNat = count ∧
        command.frame = Command.frame Command.writeMultiple.index address ∧
        (command.answer ≠ R1.ready → data = [] ∧ outcome = .error (refusal command.answer)) ∧
        (command.answer = R1.ready → ∃ stream : Stream,
          stream.Proper
            (ticked (Request.readingsOf (announcement ++ [command])) s.env.clock) blocks ∧
          data = stream.signals ∧ outcome = stream.outcome ∧
          packetsOf stream.attempts ≤ count ∧
          saidIn data = (blocks.take (packetsOf stream.attempts)).flatMap packet ++
            Stream.stopToken stream.stop ∧
          (∀ attempt ∈ stream.attempts, attempt.response.isSome = true →
            attempt.wait.found = some idleByte) ∧
          (stream.stop.ended = true → stream.stop.found = some idleByte) ∧
          (∀ attempt ∈ stream.attempts.dropLast, attempt.accepted = true) ∧
          (outcome = .ok () ↔ packetsOf stream.attempts = count ∧
            (∀ attempt ∈ stream.attempts, attempt.accepted = true) ∧ stream.stop.ended = true)) := by
  intro count blocks channel
  have hlength : blocks.length = count := length_sectors count bytes
  have hcount : count.toUInt32.toNat = count :=
    Nat.mod_eq_of_lt (CardInfo.count_lt_of_runAddress haddress)
  have hrun := ensures_onChannel
    (passed_writeSectors patience hpresent hmany haddress (s.at Card.channel))
  refine ensures_bind (ensures_device (hrun.mono ?_))
  rintro outcome s' ⟨announcement, command, data, readings, hannounced, hframe, hproper, hstreamed,
    hpassed⟩
  refine ⟨announcement, command, data, readings, hpassed, hproper, hannounced, hcount, hframe, ?_⟩
  cases hstreamed with
  | refused hrefused =>
    exact ⟨fun _ => ⟨rfl, rfl⟩, fun hready => absurd hready hrefused⟩
  | streamed hready stream hstream =>
    refine ⟨fun hrefused => absurd hready hrefused, fun _ => ⟨stream, hstream, rfl, rfl, ?_⟩⟩
    refine ⟨?_, hstream.saidIn_signals, hstream.tried.ready, hstream.stop.found_idle,
      hstream.tried.onward, ?_⟩
    · rw [← hlength]
      exact hstream.tried.packetsOf_le
    · rw [← hlength]
      exact hstream.outcome_eq_ok

/-- A card that refuses to be told how many sectors there will be is written all the same. -/
theorem streamed_of_write_unannounced :
    let heard : List UInt8 := [0xFF, 0xFF, 0x05, 0xFF, 0xFF, 0x00, 0xFF, 0xE5, 0xFF, 0xE5, 0xFF]
    let card : Card Script :=
      { channel := { host := { queue := heard }, line := some .one, speed := .fast }
        info := { family := .sd2, totalSectors := 8 } }
    let bytes := List.replicate 1024 0x5A
    ∃ s', write 8 0 bytes ⟨card, { clock := { value := 0 : Counter } }⟩ = some (.ok (), s') ∧
      ∃ stream : Stream,
        saidIn stream.signals = (sectors 2 bytes).flatMap packet ++ [Token.stopMultiWrite] := by
  intro heard card bytes
  let env : Env Counter := { clock := { value := 0 } }
  have hback : (write 8 0 bytes ⟨card, env⟩).any (fun written => written.1.isOk) = true := by
    decide +kernel
  obtain ⟨⟨outcome, s'⟩, hwrite, hok⟩ := (Option.any_eq_true _ _).mp hback
  cases outcome with
  | error error => cases hok
  | ok _ =>
    have hlength : bytes.length / sectorSize = 2 := by
      rw [show bytes.length = 1024 from List.length_replicate]
      rfl
    have haddress : card.info.runAddress 0 (bytes.length / sectorSize) = .ok 0 := by
      rw [hlength]
      rfl
    obtain ⟨_, command, data, _, _, _, _, _, _, hrefused, hstreamed⟩ :=
      streamed_of_write 8 (s := ⟨card, env⟩) rfl (Nat.le_of_eq hlength.symm) haddress _ _ hwrite
    by_cases hready : command.answer = R1.ready
    · obtain ⟨stream, _, rfl, _, _, hsaid, _, _, _, hall⟩ := hstreamed hready
      obtain ⟨hpackets, -, hstop⟩ := hall.mp rfl
      refine ⟨s', hwrite, stream, ?_⟩
      rw [hlength] at hsaid hpackets
      rw [hsaid, hpackets, List.take_of_length_le (Nat.le_of_eq (length_sectors 2 bytes)),
        Stream.stopToken, if_pos hstop]
    · exact nomatch (hrefused hready).2

end Card

end SpiDisk
