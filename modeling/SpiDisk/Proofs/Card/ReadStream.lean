import SpiDisk.Bench.Script
import SpiDisk.Proofs.Card.Address
import SpiDisk.Proofs.Card.Request
import SpiDisk.Proofs.Device

/-!
# `SpiDisk.Proofs.Card.ReadStream` — a read, signal by signal

A read of one sector is a command with one block behind it, and one of several is a stream of blocks that
has to be stopped. Blocks are received one behind the other, each behind a token, and the first token that
is missing or is none ends the receiving. What had been received by then stands in front of the caller's
buffer, and the rest of the buffer is as it was; half a block is never put there. The stream is stopped in
every case.

## Contents
- **Receptions.** `Reception`, one block that was waited for, and `Received`, a run of them.
- **Blocks.** `blocksOf`, the blocks that came in, and `endOf`, what receptions come to.
- **The engine.** `passed_receiveBlocks`; `Fetched`, what passes behind the answer, with `passed_readRun` and
  `passed_readSectors`.
- **Cards.** `Card.received_of_read`.
-/

namespace SpiDisk

open SessionM

variable {H C : Type}

/-! ## Receptions -/

/-- What became of one block that was waited for. -/
structure Reception where
  /-- The wait for a token. -/
  token : Poll
  /-- The bytes behind the token and the checksum behind these, if the token was that of a block. -/
  block : Option (List UInt8 × List UInt8)

namespace Reception

/-- The signals of a reception. -/
def signals (reception : Reception) : List Signal :=
  reception.token.signals ++
    match reception.block with
    | some (bytes, checksum) => (bytes ++ checksum).map .heard
    | none => []

/-- What a reception comes to: no token in time is a timeout, and a wrong one a bad response. -/
def outcome (reception : Reception) : Except CardError Unit :=
  match reception.block with
  | some _ => .ok ()
  | none => .error (if reception.token.ended then .badResponse else .timeout)

theorem outcome_of_accepted {reception : Reception} (h : reception.block.isSome = true) :
    reception.outcome = .ok () := by
  obtain ⟨block, hblock⟩ := Option.isSome_iff_exists.mp h
  unfold outcome
  rw [hblock]

/-- Nothing goes out while a block is received. -/
theorem saidIn_signals (reception : Reception) : saidIn reception.signals = [] := by
  unfold signals
  rw [saidIn_append, Poll.saidIn_signals, List.nil_append]
  cases reception.block with
  | none => rfl
  | some block => exact saidIn_heard _

theorem saidIn_flatMap (receptions : List Reception) :
    saidIn (receptions.flatMap signals) = [] := by
  induction receptions with
  | nil => rfl
  | cons reception rest ih =>
    rw [List.flatMap_cons, saidIn_append, saidIn_signals, ih, List.append_nil]

end Reception

/-- A reception as it can be, begun with the clock as it is here. -/
structure Reception.Proper [TickSource C] (clock : C) (reception : Reception) : Prop where
  token : reception.token.Timed ChannelM.isToken clock
  accepted : reception.block.isSome = true ↔ reception.token.found = some Token.startBlock
  length : ∀ bytes checksum, reception.block = some (bytes, checksum) →
    bytes.length = sectorSize ∧ checksum.length = 2

/-- The receptions of up to `count` blocks, the first of them begun with the clock as it is here. Behind one
    that failed there is no other. -/
inductive Received [TickSource C] : C → Nat → List Reception → Prop where
  | done (clock : C) : Received clock 0 []
  | failed {clock : C} {reception : Reception} (count : Nat) (hproper : reception.Proper clock)
      (hfailed : reception.block = none) : Received clock (count + 1) [reception]
  | next {clock : C} {reception : Reception} {count : Nat} {receptions : List Reception}
      (hproper : reception.Proper clock) (haccepted : reception.block.isSome = true)
      (hrest : Received (ticked reception.token.readings clock) count receptions) :
      Received clock (count + 1) (reception :: receptions)

/-! ## Blocks -/

/-- The blocks that came in, in order. -/
def blocksOf (receptions : List Reception) : List (List UInt8) :=
  receptions.filterMap fun reception => reception.block.map Prod.fst

theorem blocksOf_cons {reception : Reception} {bytes checksum : List UInt8}
    (h : reception.block = some (bytes, checksum)) (rest : List Reception) :
    blocksOf (reception :: rest) = bytes :: blocksOf rest := by
  unfold blocksOf
  rw [List.filterMap_cons, h]
  rfl

theorem blocksOf_failed {reception : Reception} (h : reception.block = none) :
    blocksOf [reception] = [] := by
  unfold blocksOf
  rw [List.filterMap_cons, h]
  rfl

/-- The readings of the clock in receptions. -/
def receptionReadings : List Reception → Nat
  | [] => 0
  | reception :: rest => reception.token.readings + receptionReadings rest

/-- What receptions come to: the first failure. -/
def endOf (receptions : List Reception) : Except CardError Unit :=
  firstFailure (receptions.map Reception.outcome)

theorem endOf_cons {reception : Reception} (h : reception.block.isSome = true)
    (rest : List Reception) : endOf (reception :: rest) = endOf rest := by
  unfold endOf
  rw [List.map_cons, Reception.outcome_of_accepted h]
  rfl

namespace Received

variable [TickSource C] {clock : C} {count : Nat} {receptions : List Reception}

theorem length_blocksOf_le (h : Received clock count receptions) :
    (blocksOf receptions).length ≤ count := by
  induction h with
  | done => exact Nat.le_refl _
  | failed count _ hfailed =>
    rw [blocksOf_failed hfailed]
    exact Nat.zero_le _
  | next _ haccepted _ ih =>
    obtain ⟨⟨bytes, checksum⟩, hblock⟩ := Option.isSome_iff_exists.mp haccepted
    rw [blocksOf_cons hblock]
    exact Nat.succ_le_succ ih

/-- No block is shorter than a sector. -/
theorem length_of_mem_blocksOf (h : Received clock count receptions) :
    ∀ bytes ∈ blocksOf receptions, bytes.length = sectorSize := by
  induction h with
  | done => exact nofun
  | failed count _ hfailed =>
    rw [blocksOf_failed hfailed]
    exact nofun
  | next hproper haccepted _ ih =>
    obtain ⟨⟨bytes, checksum⟩, hblock⟩ := Option.isSome_iff_exists.mp haccepted
    rw [blocksOf_cons hblock]
    exact List.forall_mem_cons.mpr ⟨(hproper.length bytes checksum hblock).1, ih⟩

/-- Only the last reception can have failed. -/
theorem onward (h : Received clock count receptions) :
    ∀ reception ∈ receptions.dropLast, reception.block.isSome = true := by
  induction h with
  | done => exact nofun
  | failed => exact nofun
  | @next _ reception _ receptions _ haccepted _ ih =>
    cases receptions with
    | nil => exact nofun
    | cons second rest => exact List.forall_mem_cons.mpr ⟨haccepted, ih⟩

/-- All blocks came in if and only if none failed. -/
theorem endOf_eq_ok (h : Received clock count receptions) :
    endOf receptions = .ok () ↔ (blocksOf receptions).length = count := by
  induction h with
  | done => exact ⟨fun _ => rfl, fun _ => rfl⟩
  | @failed _ reception count _ hfailed =>
    rw [blocksOf_failed hfailed]
    unfold endOf Reception.outcome
    rw [List.map_singleton, hfailed]
    exact ⟨nofun, nofun⟩
  | @next _ reception count receptions _ haccepted _ ih =>
    obtain ⟨⟨bytes, checksum⟩, hblock⟩ := Option.isSome_iff_exists.mp haccepted
    rw [endOf_cons haccepted, blocksOf_cons hblock, List.length_cons, ih]
    omega

end Received

/-! ## The engine -/

namespace ChannelM

open CardEngine

variable [Host H] [TickSource C] {patience : Nat}

/-- A block is one reception. -/
theorem passed_reception (s : Session (Channel H) C) :
    Ensures (receiveBlock patience sectorSize) s fun result s' => ∃ reception : Reception,
      reception.Proper s.env.clock ∧ Passed reception.signals reception.token.readings s s' ∧
      match (result : Except CardError (List UInt8)) with
      | .ok bytes => ∃ checksum, reception.block = some (bytes, checksum)
      | .error error => reception.block = none ∧ reception.outcome = .error error := by
  refine (passed_receiveBlock sectorSize s).mono ?_
  rintro (error | bytes) s' ⟨token, htimed, more, hpassed, hresult⟩
  · obtain ⟨hno, rfl, herror⟩ := hresult
    exact ⟨⟨token, none⟩, ⟨htimed, ⟨nofun, fun hyes => absurd hyes hno⟩, nofun⟩, hpassed, rfl,
      congrArg Except.error herror.symm⟩
  · obtain ⟨hfound, hbytes, checksum, hchecksum, rfl⟩ := hresult
    refine ⟨⟨token, some (bytes, checksum)⟩, ⟨htimed, ⟨fun _ => hfound, fun _ => rfl⟩, ?_⟩, hpassed,
      checksum, rfl⟩
    rintro _ _ ⟨⟩
    exact ⟨hbytes, hchecksum⟩

/-- **Blocks** are receptions, up to the first that fails. -/
theorem passed_receiveBlocks (count : Nat) (s : Session (Channel H) C) :
    Ensures (receiveBlocks patience count) s fun received s' => ∃ receptions,
      Received s.env.clock count receptions ∧ received = (blocksOf receptions, endOf receptions) ∧
        Passed (receptions.flatMap Reception.signals) (receptionReadings receptions) s s' := by
  induction count generalizing s with
  | zero => exact ensures_pure ⟨[], .done _, rfl, .refl s⟩
  | succ count ih =>
    refine (passed_reception s).bind ?_
    rintro (error | bytes) s₁ ⟨reception, hproper, h₁, hresult⟩
    · obtain ⟨hblock, houtcome⟩ := hresult
      refine ensures_pure ⟨[reception], .failed count hproper hblock, ?_, ?_⟩
      · rw [blocksOf_failed hblock, endOf, List.map_singleton, houtcome]
        rfl
      · rw [List.flatMap_singleton]
        exact h₁
    · obtain ⟨checksum, hblock⟩ := hresult
      refine (ih s₁).bind ?_
      rintro _ s₂ ⟨receptions, hreceived, rfl, h₂⟩
      rw [h₁.clock] at hreceived
      have haccepted : reception.block.isSome = true := by rw [hblock]; rfl
      refine ensures_pure ⟨reception :: receptions, .next hproper haccepted hreceived, ?_, ?_⟩
      · rw [blocksOf_cons hblock, endOf_cons haccepted]
      · rw [List.flatMap_cons]
        exact h₁.trans h₂

/-- The signals of stopping a read of several sectors, and what is heard; one of a single sector is not
    stopped. -/
def stopSignals (count : Nat) (heard : List UInt8) : List Signal :=
  if 1 < count then
    (Command.frame Command.stopTransmission.index 0).map .said ++ heard.map .heard
  else []

theorem saidIn_fetched {count : Nat} (receptions : List Reception) (heard : List UInt8) :
    saidIn (receptions.flatMap Reception.signals ++ stopSignals count heard) =
      if 1 < count then Command.frame Command.stopTransmission.index 0 else [] := by
  rw [saidIn_append, Reception.saidIn_flatMap, List.nil_append]
  unfold stopSignals
  split
  · rw [saidIn_append, saidIn_said, saidIn_heard, List.append_nil]
  · rfl

/-- What is heard behind the command that stops a read: a byte that means nothing, and an answer. -/
def StopAnswered (heard : List UInt8) : Prop :=
  ∃ stuffed answers r1, heard = stuffed :: answers ∧ answered responsePolls answers = some (r1, [])

/-- What passes behind the answer to a read, with the blocks and the outcome that come of it: nothing if the
    command was refused, and if not receptions and, for several sectors, the command that stops them. -/
inductive Fetched (clock : C) (count : Nat) (r1 : UInt8) :
    List Signal → List (List UInt8) → Except CardError Unit → Prop where
  | refused (hrefused : r1 ≠ R1.ready) : Fetched clock count r1 [] [] (.error (refusal r1))
  | fetched (hready : r1 = R1.ready) (receptions : List Reception) (heard : List UInt8)
      (hreceived : Received clock count receptions) (hstopped : 1 < count → StopAnswered heard) :
      Fetched clock count r1 (receptions.flatMap Reception.signals ++ stopSignals count heard)
        (blocksOf receptions) (endOf receptions)

/-- The command that stops a read goes out in no brackets. -/
theorem passed_stop (s : Session (Channel H) C) :
    Ensures (send patience Command.stopTransmission 0) s fun _ s' =>
      s'.device.owns = s.device.owns ∧ ∃ heard, StopAnswered heard ∧
        Passed ((Command.frame Command.stopTransmission.index 0).map .said ++ heard.map .heard) 0 s
          s' := by
  have howned := owned_timed (F := anyFrame) (H := H) (C := C) s.device.owns
  refine ((keeps_exchangeFrame howned.toSteady trivial s rfl).and (passed_exchangeFrame _ 0 s)).mono ?_
  rintro r1 s' ⟨howns, stuffed, answers, hstuffed, hanswered, h₁⟩
  obtain ⟨byte, rfl⟩ := List.length_eq_one_iff.mp hstuffed
  exact ⟨howns, byte :: answers, ⟨byte, answers, r1, rfl, hanswered⟩, h₁⟩

/-- The command of a read. -/
def readCommand (count : Nat) : Command :=
  if count > 1 then Command.readMultiple else Command.readSingle

theorem readCommand_plain (count : Nat) :
    (readCommand count).index ≠ Command.stopTransmission.index ∧ (readCommand count).app = false :=
  ⟨Command.ne_stop_of_movesSectors (Command.movesSectors_read count), Command.app_read count⟩

/-- **A run that is read** is the command and what passes behind its answer. -/
theorem passed_readRun (address : UInt32) (count : Nat) (s : Session (Channel H) C) :
    Ensures (readRun patience address count) s fun received s' =>
      ∃ command : Request, ∃ data readings,
        command.frame = Command.frame (readCommand count).index address ∧
        command.Proper s.env.clock ∧ s'.device.owns = command.sent ∧
        Fetched (ticked command.readings s.env.clock) count command.answer data received.1
          received.2 ∧
        Passed (command.signals s.device.mask s.device.owns ++ data) readings s s' := by
  obtain ⟨hindex, happ⟩ := readCommand_plain count
  refine Ensures.bind (passed_send hindex address s) ?_
  rintro _ s₁ ⟨requests, hrequested, hsent⟩
  obtain ⟨command, rfl, hframe, rfl⟩ := hrequested.of_plain happ
  have howns : s₁.device.owns = command.sent := hsent.owns
  have h₁ : Passed (command.signals s.device.mask s.device.owns) command.readings s s₁ :=
    hsent.passed.congr (List.append_nil _) rfl
  have hproper := hsent.proper.1
  by_cases hready : command.answer = R1.ready
  · rw [if_neg (not_not_intro hready)]
    have howned := owned_timed (F := anyFrame) (H := H) (C := C) command.sent
    refine ((upholds_receiveBlocks howned patience count s₁ howns).back.and
      (passed_receiveBlocks count s₁)).bind ?_
    rintro _ s₂ ⟨howns, receptions, hreceived, rfl, h₂⟩
    rw [h₁.clock] at hreceived
    -- a stream is stopped whatever became of its blocks
    split
    · rename_i hmany
      refine (passed_stop s₂).bind ?_
      rintro _ s₃ ⟨howns', heard, hstopped, h₃⟩
      have hfetched := Fetched.fetched hready receptions heard hreceived fun _ => hstopped
      unfold stopSignals at hfetched
      rw [if_pos hmany] at hfetched
      exact ensures_pure ⟨command, _, _, hframe, hproper, howns'.trans howns, hfetched,
        h₁.trans (h₂.trans h₃)⟩
    · rename_i hone
      have hfetched := Fetched.fetched hready receptions [] hreceived fun hmany => absurd hmany hone
      unfold stopSignals at hfetched
      rw [if_neg hone, List.append_nil] at hfetched
      exact ensures_pure ⟨command, _, _, hframe, hproper, howns, hfetched, h₁.trans h₂⟩
  · rw [if_pos hready]
    refine (passed_failureOf command.answer s₁).bind ?_
    rintro _ s₂ ⟨rfl, howned, h₂⟩
    exact ensures_pure ⟨command, [], _, hframe, hproper, howned.trans howns, .refused hready,
      h₁.trans h₂⟩

/-- A run that lies on the card is read, and then the bus is given back. -/
theorem passed_readSectors (patience : Nat) {info : CardInfo} {lba address : UInt32}
    {buffer : List UInt8} (hpresent : info.isPresent = true)
    (hsome : 1 ≤ buffer.length / sectorSize)
    (haddress : info.runAddress lba (buffer.length / sectorSize) = .ok address)
    (s : Session (Channel H) C) :
    Ensures (readSectors patience info lba buffer) s fun result s' =>
      ∃ command : Request, ∃ data blocks readings,
        command.frame =
          Command.frame (readCommand (buffer.length / sectorSize)).index address ∧
        command.Proper s.env.clock ∧
        result.2 = blocks.flatten ++ buffer.drop (blocks.length * sectorSize) ∧
        Fetched (ticked command.readings s.env.clock) (buffer.length / sectorSize) command.answer data
          blocks result.1 ∧
        Passed (command.signals s.device.mask s.device.owns ++ data ++
          if command.sent then Signal.parting else []) readings s s' := by
  have hcount : buffer.length / sectorSize ≠ 0 := by omega
  unfold readSectors fetchRun
  simp only [hpresent, hcount, haddress, Bool.not_true, Bool.false_eq_true, if_false]
  refine (passed_readRun address _ s).bind ?_
  rintro ⟨blocks, outcome⟩ s₁ ⟨command, data, readings, hframe, hproper, howns, hfetched, h₁⟩
  refine (passed_conclude _ outcome s₁).bind fun _ s₂ h₂ => ensures_pure ?_
  rw [howns] at h₂
  exact ⟨command, data, blocks, _, hframe, hproper, rfl, hfetched, h₁.trans h₂⟩

end ChannelM

/-! ## Cards -/

namespace Card

open ChannelM CardEngine

variable [Host H] [TickSource C]

/-- **A read, signal by signal.** Over any board, a run of sectors that lies on a card that was identified is
    read as follows. Nothing passes behind the command unless it was answered with zero, and then the buffer
    stays as it was. If it was, blocks are received, each behind a token; the first token that is missing or
    that is not the token of a block is the last. Behind the receptions a run of several sectors is stopped,
    once and before the card is de-selected, and one of a single sector is not. As many sectors in front of
    the buffer are then the blocks that came in, in order, and the rest of the buffer is as it was. The call
    succeeds if and only if all blocks came in, and returns the first failure otherwise. -/
theorem received_of_read (patience : Nat) {s : Session (Card H) C} {lba address : UInt32}
    {buffer : List UInt8} (hpresent : s.device.info.isPresent = true)
    (hsome : 1 ≤ buffer.length / sectorSize)
    (haddress : s.device.info.runAddress lba (buffer.length / sectorSize) = .ok address) :
    let count := buffer.length / sectorSize
    let channel := s.device.channel
    Ensures (read patience lba buffer) s fun result s' =>
      ∃ command : Request, ∃ data readings,
        Passed (command.signals channel.mask channel.owns ++ data ++
          if command.sent then Signal.parting else []) readings (s.at Card.channel)
          (s'.at Card.channel) ∧
        command.Proper s.env.clock ∧
        command.frame = Command.frame (readCommand count).index address ∧
        (command.answer ≠ R1.ready →
          data = [] ∧ result = (.error (refusal command.answer), buffer)) ∧
        (command.answer = R1.ready → ∃ receptions heard,
          Received (ticked command.readings s.env.clock) count receptions ∧
          (1 < count → StopAnswered heard) ∧
          data = receptions.flatMap Reception.signals ++ stopSignals count heard ∧
          saidIn data =
            (if 1 < count then Command.frame Command.stopTransmission.index 0 else []) ∧
          (∀ reception ∈ receptions.dropLast, reception.block.isSome = true) ∧
          (blocksOf receptions).length ≤ count ∧
          (∀ block ∈ blocksOf receptions, block.length = sectorSize) ∧
          result.2.length = buffer.length ∧
          sectors (blocksOf receptions).length result.2 = blocksOf receptions ∧
          result.2.drop ((blocksOf receptions).length * sectorSize) =
            buffer.drop ((blocksOf receptions).length * sectorSize) ∧
          result.1 = endOf receptions ∧
          (result.1 = .ok () ↔ (blocksOf receptions).length = count)) := by
  intro count channel
  have hrun := ensures_onChannel
    (passed_readSectors patience hpresent hsome haddress (s.at Card.channel))
  refine ensures_bind (ensures_device (hrun.mono ?_))
  rintro ⟨outcome, after⟩ s' ⟨command, data, blocks, readings, hframe, hproper, rfl, hfetched, hpassed⟩
  refine ⟨command, data, readings, hpassed, hproper, hframe, ?_⟩
  cases hfetched with
  | refused hrefused =>
    -- no block came in, so the whole of the buffer is the rest that stays as it was
    refine ⟨fun _ => ⟨rfl, ?_⟩, fun hready => absurd hready hrefused⟩
    rw [List.length_nil, Nat.zero_mul, List.drop_zero]
    rfl
  | fetched hready receptions heard hreceived hstopped =>
    refine ⟨fun hrefused => absurd hready hrefused, fun _ => ⟨receptions, heard, hreceived, hstopped,
      rfl, saidIn_fetched receptions heard, hreceived.onward, hreceived.length_blocksOf_le,
      hreceived.length_of_mem_blocksOf, ?_, ?_, ?_, rfl, hreceived.endOf_eq_ok⟩⟩
    · exact length_overwrite hreceived.length_of_mem_blocksOf hreceived.length_blocksOf_le
    · exact sectors_flatten hreceived.length_of_mem_blocksOf _
    · exact drop_flatten_sectors hreceived.length_of_mem_blocksOf _

/-- A stream whose second block breaks off is stopped, and the first block is kept. -/
theorem received_of_read_broken :
    let block := List.replicate 512 (0x77 : UInt8)
    let heard : List UInt8 := [0xFF, 0xFF, 0x00, 0xFE] ++ block ++ [0x00, 0x00, 0x0F, 0xFF, 0x00]
    let card : Card Script :=
      { channel := { host := { queue := heard }, line := some .one, speed := .fast }
        info := { family := .mmc, totalSectors := 8 } }
    let buffer := List.replicate 1024 (0x00 : UInt8)
    ∃ s', read 8 0 buffer ⟨card, { clock := { value := 0 : Counter } }⟩ =
        some ((.error .badResponse, block ++ List.replicate 512 0x00), s') ∧
      ∃ receptions stopped, blocksOf receptions = [block] ∧
        saidIn (receptions.flatMap Reception.signals ++ stopSignals 2 stopped) =
          Command.frame Command.stopTransmission.index 0 := by
  intro block heard card buffer
  let env : Env Counter := { clock := { value := 0 } }
  have hback : (read 8 0 buffer ⟨card, env⟩).any (fun result => match result.1 with
      | (.error error, after) =>
        decide (error = .badResponse) && decide (after = block ++ List.replicate 512 0x00)
      | (.ok _, _) => false) = true := by
    decide +kernel
  obtain ⟨⟨⟨outcome, after⟩, s'⟩, hread, hresult⟩ := (Option.any_eq_true _ _).mp hback
  cases outcome with
  | ok _ => cases hresult
  | error error =>
    obtain ⟨herror, hafter⟩ := Bool.and_eq_true_iff.mp hresult
    obtain rfl := of_decide_eq_true herror
    obtain rfl := of_decide_eq_true hafter
    have hlength : buffer.length / sectorSize = 2 := by
      rw [show buffer.length = 1024 from List.length_replicate]
      rfl
    have haddress : card.info.runAddress 0 (buffer.length / sectorSize) = .ok 0 := by
      rw [hlength]
      rfl
    have hkept : block ++ List.replicate 512 0x00 ≠ buffer := by decide +kernel
    obtain ⟨command, data, _, _, _, _, hrefused, hreceived⟩ :=
      received_of_read 8 (s := ⟨card, env⟩) rfl (hlength ▸ Nat.le_succ 1) haddress _ _ hread
    by_cases hready : command.answer = R1.ready
    · obtain ⟨receptions, stopped, _, _, rfl, hsaid, _, hle, _, _, hsectors, hrest, _, hall⟩ :=
        hreceived hready
      rw [hlength] at hsaid hle hall
      refine ⟨s', hread, receptions, stopped, ?_, hsaid⟩
      -- some block came in, since the buffer changed, and one did not, since the read failed
      have hsome : (blocksOf receptions).length ≠ 0 := by
        intro hnone
        rw [hnone, Nat.zero_mul, List.drop_zero, List.drop_zero] at hrest
        exact hkept hrest
      have hmissing : (blocksOf receptions).length ≠ 2 := fun hboth => nomatch hall.mpr hboth
      have hone : (blocksOf receptions).length = 1 := by omega
      rw [hone] at hsectors
      rw [← hsectors]
      decide +kernel
    · exact absurd (congrArg Prod.snd (hrefused hready).2) hkept

end Card

end SpiDisk
