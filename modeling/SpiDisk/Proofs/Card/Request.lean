import SpiDisk.Proofs.Bus.Deed

/-!
# `SpiDisk.Proofs.Card.Request` — commands, signal by signal

A command in brackets of its own is a `Request`: the signals of parting from the card if the bus was owned,
a selection, a wait for the card, and, if it was ready in time, a frame with what was heard behind it. What
a wait heard is a `Poll`; whether it was in time is told by the clock as it stood when the wait began, and
by nothing else.

## Contents
- **Waits.** `Poll`, `Poll.Timed` and `passed_pollUntil`, with `passed_waitReady` and `passed_receiveBlock`.
- **Requests.** `answered`, `Request`, `sendPlain_eq` and `did_sendPlain`, with `passed_sendPlain` for its
  signals; `passed_exchangeFrame` for the frame alone.
- **Runs of requests.** `Sent`, which composes, `Requested`, and `passed_send`.
- **Around a transfer.** `firstFailure` of what a transfer came to, `refusal`, what a refusing status is
  reported as, and `passed_conclude`.
-/

namespace SpiDisk

open SessionM

variable {H C : Type}

/-! ## Waits -/

/-- What was heard in a wait for a byte. -/
structure Poll where
  /-- The bytes that did not do. -/
  vain : List UInt8
  /-- The byte that did, if it came in time. -/
  found : Option UInt8

namespace Poll

/-- Whether the wait ended with a byte that did. -/
def ended (poll : Poll) : Bool :=
  poll.found.isSome

/-- The signals of a wait. -/
def signals (poll : Poll) : List Signal :=
  (poll.vain ++ poll.found.toList).map .heard

/-- The clock is read once to set the deadline, and once behind every byte that did not do. -/
def readings (poll : Poll) : Nat :=
  poll.vain.length + 1

/-- Whether the deadline of a wait that began with the clock as it is here had passed behind the `i`-th
    byte. -/
def lateAt [TickSource C] (clock : C) (i : Nat) : Bool :=
  (Deadline.start clock dataTimeout).1.reachedAt (TickSource.now (ticked (i + 1) clock)).1

/-- A wait for a byte as `accepts` says, begun with the clock as it is here. The deadline is looked at
    behind every byte that did not do, and the wait is given up behind the first at which it has passed. -/
structure Timed [TickSource C] (accepts : UInt8 → Bool) (clock : C) (poll : Poll) : Prop where
  rejected : ∀ byte ∈ poll.vain, accepts byte = false
  found : ∀ byte, poll.found = some byte → accepts byte = true
  late : ∀ i < poll.vain.length,
    lateAt clock i = true ↔ poll.ended = false ∧ i + 1 = poll.vain.length
  tried : poll.ended = false → poll.vain ≠ []

theorem saidIn_signals (poll : Poll) : saidIn poll.signals = [] :=
  saidIn_heard _

end Poll

namespace ChannelM

open CardEngine

variable [TickSource C]

/-- A wait under way since `s`: some bytes were heard in vain, and none of them too late. -/
structure Pending (accepts : UInt8 → Bool) (s : Session (Channel H) C) (vain : List UInt8)
    (s' : Session (Channel H) C) : Prop where
  rejected : ∀ byte ∈ vain, accepts byte = false
  early : ∀ i < vain.length, Poll.lateAt s.env.clock i = false
  passed : Passed (vain.map .heard) (vain.length + 1) s s'

namespace Pending

variable {accepts : UInt8 → Bool} {s s₁ s₂ : Session (Channel H) C} {vain : List UInt8} {byte : UInt8}

theorem hear (h : Pending accepts s vain s₁) (hbyte : Passed [.heard byte] 0 s₁ s₂) :
    Passed ((vain ++ [byte]).map .heard) (vain.length + 1) s s₂ := by
  rw [List.map_append]
  exact h.passed.trans hbyte

theorem tick (h : Pending accepts s vain s₁) (hbyte : Passed [.heard byte] 0 s₁ s₂) :
    Passed ((vain ++ [byte]).map .heard) ((vain ++ [byte]).length + 1) s
      { s₂ with env.clock := (TickSource.now s₂.env.clock).2 } :=
  ((h.hear hbyte).trans (.tick s₂)).congr (List.append_nil _) (by
    rw [List.length_append, List.length_singleton])

theorem vain_append (h : Pending accepts s vain s₁) (haccepts : accepts byte = false) :
    ∀ other ∈ vain ++ [byte], accepts other = false := by
  intro other hother
  rcases List.mem_append.mp hother with hother | hother
  · exact h.rejected other hother
  · rw [List.mem_singleton.mp hother]
    exact haccepts

/-- The look at the deadline behind one more byte is the next of the wait. -/
theorem lateAt_eq (h : Pending accepts s vain s₁) (hbyte : Passed [.heard byte] 0 s₁ s₂) :
    (Deadline.start s.env.clock dataTimeout).1.reachedAt (TickSource.now s₂.env.clock).1 =
      Poll.lateAt s.env.clock vain.length := by
  rw [(h.hear hbyte).clock]
  rfl

/-- A byte that does ends the wait. -/
theorem found (h : Pending accepts s vain s₁) (haccepts : accepts byte = true) :
    Poll.Timed accepts s.env.clock ⟨vain, some byte⟩ := by
  refine ⟨h.rejected, ?_, fun i hi => ?_, nofun⟩
  · rintro _ ⟨⟩
    exact haccepts
  · rw [h.early i hi]
    exact ⟨nofun, fun hended => nomatch hended.1⟩

/-- One behind which the deadline has passed does as well. -/
theorem givenUp (h : Pending accepts s vain s₁) (haccepts : accepts byte = false)
    (hlate : Poll.lateAt s.env.clock vain.length = true) :
    Poll.Timed accepts s.env.clock ⟨vain ++ [byte], none⟩ := by
  refine ⟨h.vain_append haccepts, nofun, fun i hi => ?_, fun _ => List.concat_ne_nil _ _⟩
  rw [List.length_append, List.length_singleton] at hi ⊢
  rcases Nat.lt_succ_iff_lt_or_eq.mp hi with hi | rfl
  · rw [h.early i hi]
    exact ⟨nofun, fun hended => absurd hended.2 (by omega)⟩
  · exact ⟨fun _ => ⟨rfl, rfl⟩, fun _ => hlate⟩

/-- Any other byte leaves it under way. -/
theorem next (h : Pending accepts s vain s₁) (hbyte : Passed [.heard byte] 0 s₁ s₂)
    (haccepts : accepts byte = false) (hlate : Poll.lateAt s.env.clock vain.length = false) :
    Pending accepts s (vain ++ [byte])
      { s₂ with env.clock := (TickSource.now s₂.env.clock).2 } := by
  refine ⟨h.vain_append haccepts, fun i hi => ?_, h.tick hbyte⟩
  rw [List.length_append, List.length_singleton] at hi
  rcases Nat.lt_succ_iff_lt_or_eq.mp hi with hi | rfl
  · exact h.early i hi
  · exact hlate

end Pending

variable [Host H] {α : Type}

/-- **Waiting.** The line is polled until `f` makes something of a byte, or until it is too late. -/
theorem passed_pollUntil {f : UInt8 → Option α} {accepts : UInt8 → Bool}
    (hf : ∀ byte, (f byte).isSome = accepts byte) (patience : Nat) (s : Session (Channel H) C) :
    Ensures (pollUntil (Deadline.start s.env.clock dataTimeout).1
        (do let byte ← readByte; pure (f byte)) patience)
      { s with env.clock := (TickSource.now s.env.clock).2 } fun value s' =>
      ∃ poll : Poll, value = poll.found.bind f ∧ poll.Timed accepts s.env.clock ∧
        Passed poll.signals poll.readings s s' := by
  refine ensures_pollUntil (P := fun s₁ => ∃ vain, Pending accepts s vain s₁) ?_ patience
    ⟨[], nofun, nofun, .tick s⟩
  rintro s₁ ⟨vain, h₁⟩
  refine (passed_readByte s₁).bind fun byte s₂ hbyte => ensures_pure ?_
  cases hvalue : f byte with
  | some a =>
    have haccepts : accepts byte = true := by rw [← hf, hvalue]; rfl
    exact ⟨⟨vain, some byte⟩, hvalue.symm, h₁.found haccepts, h₁.hear hbyte⟩
  | none =>
    have haccepts : accepts byte = false := by rw [← hf, hvalue]; rfl
    dsimp only
    rw [h₁.lateAt_eq hbyte]
    cases hlate : Poll.lateAt s.env.clock vain.length with
    | true =>
      rw [if_pos rfl]
      refine ⟨⟨vain ++ [byte], none⟩, rfl, h₁.givenUp haccepts hlate, (h₁.tick hbyte).congr ?_ rfl⟩
      unfold Poll.signals
      rw [Option.toList_none, List.append_nil]
    | false =>
      rw [if_neg (by decide)]
      exact ⟨vain ++ [byte], h₁.next hbyte haccepts hlate⟩

/-- Whether a byte tells that a card is ready. -/
def isIdle (byte : UInt8) : Bool :=
  byte == idleByte

theorem passed_waitReady (patience : Nat) (s : Session (Channel H) C) :
    Ensures (waitReady patience) s fun ready s' => ∃ wait : Poll, wait.ended = ready ∧
      wait.Timed isIdle s.env.clock ∧ Passed wait.signals wait.readings s s' := by
  refine ensures_bind (ensures_startDeadline ?_)
  have hf : ∀ byte : UInt8, (if byte = idleByte then some () else none).isSome = isIdle byte := by
    intro byte
    unfold isIdle
    by_cases hidle : byte = idleByte
    · rw [if_pos hidle, hidle]
      rfl
    · rw [if_neg hidle, beq_eq_false_iff_ne.mpr hidle]
      rfl
  refine (passed_pollUntil hf patience s).bind ?_
  rintro value s' ⟨wait, rfl, htimed, hs'⟩
  refine ensures_pure ⟨wait, ?_, htimed, hs'⟩
  unfold Poll.ended
  cases hfound : wait.found with
  | none => rfl
  | some byte =>
    have haccepts := htimed.found byte hfound
    rw [← hf] at haccepts
    exact haccepts.symm

/-- Whether a byte is a token, be it of a block or of an error. -/
def isToken (byte : UInt8) : Bool :=
  byte != idleByte

/-- A token is what it was found as, since an idle byte is none. -/
theorem passed_token (s : Session (Channel H) C) :
    Ensures (pollUntil (Deadline.start s.env.clock dataTimeout).1 (do
        let byte ← readByte
        pure (if byte = idleByte then none else some byte)) patience)
      { s with env.clock := (TickSource.now s.env.clock).2 } fun value s' =>
      ∃ token : Poll, token.found = value ∧ token.Timed isToken s.env.clock ∧
        Passed token.signals token.readings s s' := by
  have hf : ∀ byte : UInt8, (if byte = idleByte then none else some byte).isSome = isToken byte := by
    intro byte
    unfold isToken
    by_cases hidle : byte = idleByte
    · rw [if_pos hidle, hidle]
      rfl
    · rw [if_neg hidle, bne_iff_ne.mpr hidle]
      rfl
  refine (passed_pollUntil hf patience s).mono ?_
  rintro value s₁ ⟨token, rfl, htimed, h₁⟩
  refine ⟨token, ?_, htimed, h₁⟩
  cases hfound : token.found with
  | none => rfl
  | some byte =>
    have htoken : byte ≠ idleByte := bne_iff_ne.mp (htimed.found byte hfound)
    exact (if_neg htoken).symm

/-- **A block** is waited for, and if its token came in time it is received whole, with a checksum. -/
theorem passed_receiveBlock (size : Nat) (s : Session (Channel H) C) :
    Ensures (receiveBlock patience size) s fun result s' => ∃ token : Poll,
      token.Timed isToken s.env.clock ∧ ∃ more,
        Passed (token.signals ++ more.map .heard) token.readings s s' ∧
        match (result : Except CardError (List UInt8)) with
        | .ok bytes => token.found = some Token.startBlock ∧ bytes.length = size ∧
          ∃ checksum, checksum.length = 2 ∧ more = bytes ++ checksum
        | .error error => token.found ≠ some Token.startBlock ∧ more = [] ∧
          error = if token.ended then .badResponse else .timeout := by
  refine ensures_bind (ensures_startDeadline ?_)
  refine (passed_token s).bind ?_
  rintro value s₁ ⟨token, hfound, htimed, h₁⟩
  have hended : token.ended = value.isSome := congrArg Option.isSome hfound
  cases value with
  | none =>
    refine (passed_report _ s₁).bind fun _ s₂ h₂ => ensures_pure ?_
    refine ⟨token, htimed, [], h₁.trans h₂, ?_, rfl, ?_⟩
    · rw [hfound]
      exact nofun
    · rw [hended]
      rfl
  | some byte =>
    dsimp only
    split
    · rename_i hstart
      subst hstart
      refine (passed_read size s₁).bind ?_
      rintro bytes s₂ ⟨hbytes, h₂⟩
      refine (passed_read 2 s₂).bind ?_
      rintro checksum s₃ ⟨hchecksum, h₃⟩
      refine ensures_pure ⟨token, htimed, bytes ++ checksum, ?_, hfound, hbytes, checksum, hchecksum,
        rfl⟩
      rw [List.map_append]
      exact h₁.trans (h₂.trans h₃)
    · rename_i hother
      refine (passed_report _ s₁).bind fun _ s₂ h₂ => ensures_pure ?_
      refine ⟨token, htimed, [], h₁.trans h₂, ?_, rfl, ?_⟩
      · rw [hfound]
        exact fun heq => hother (Option.some.inj heq)
      · rw [hended]
        rfl

end ChannelM

/-- A wait for a card that ended found the line idle. -/
theorem Poll.Timed.found_idle [TickSource C] {clock : C} {wait : Poll}
    (h : wait.Timed ChannelM.isIdle clock) (hended : wait.ended = true) :
    wait.found = some idleByte := by
  obtain ⟨byte, hfound⟩ := Option.isSome_iff_exists.mp hended
  have hidle := eq_of_beq (h.found byte hfound)
  rw [hfound, hidle]

/-- A wait for a token hears idle bytes before. -/
theorem Poll.Timed.vain_eq [TickSource C] {clock : C} {token : Poll}
    (h : token.Timed ChannelM.isToken clock) :
    token.vain = List.replicate token.vain.length idleByte :=
  List.eq_replicate_of_mem fun byte hbyte => bne_eq_false_iff_eq.mp (h.rejected byte hbyte)

/-! ## Requests -/

/-- The answer among the bytes that were heard, and what came behind it. The answer is the first byte
    that is one, or the last of so many if none is. -/
def answered : Nat → List UInt8 → Option (UInt8 × List UInt8)
  | polls + 1, byte :: rest =>
    if R1.isAnswer byte ∨ polls = 0 then some (byte, rest) else answered polls rest
  | _, _ => none

theorem answered_append {polls : Nat} {heard rest : List UInt8} {r1 : UInt8}
    (h : answered polls heard = some (r1, rest)) (more : List UInt8) :
    answered polls (heard ++ more) = some (r1, rest ++ more) := by
  induction heard generalizing polls with
  | nil => cases polls <;> cases h
  | cons byte heard ih =>
    cases polls with
    | zero => cases h
    | succ polls =>
      unfold answered at h ⊢
      rw [List.cons_append]
      dsimp only at h ⊢
      split
      · rw [if_pos ‹_›] at h
        cases h
        rfl
      · rw [if_neg ‹_›] at h
        exact ih h

/-- A command in brackets of its own. -/
structure Request where
  /-- The frame of the command. -/
  frame : List UInt8
  /-- The byte that was read behind the selection. -/
  lead : UInt8
  /-- The wait for the card, without whose success the frame is not sent. -/
  wait : Poll
  /-- What was heard behind the frame. -/
  answers : List UInt8

namespace Request

/-- Whether the card was ready in time, so that the frame was sent. -/
def sent (request : Request) : Bool :=
  request.wait.ended

/-- The answer, which is that of an idle line if the frame was not sent. -/
def answer (request : Request) : UInt8 :=
  match answered responsePolls request.answers with
  | some (r1, _) => r1
  | none => idleByte

def readings (request : Request) : Nat :=
  request.wait.readings

/-- The signals of a request to the card in a mask. Whoever owns the bus parts from the last card first, and
    from a card that is not ready as well. -/
def signals (mask : UInt8) (owned : Bool) (request : Request) : List Signal :=
  (if owned then Signal.parting else []) ++ [.drove mask, .heard request.lead] ++
    request.wait.signals ++
    if request.sent then request.frame.map .said ++ request.answers.map .heard else Signal.parting

/-- All that is done in a request: the card is selected and waited for, and it gets the frame or is left. -/
def deeds (mask : UInt8) (owned : Bool) (request : Request) : List Deed :=
  Deed.reselecting mask owned request.lead ++ Deed.passing request.wait.signals ++
    if request.sent then Deed.passing (request.frame.map .said ++ request.answers.map .heard)
    else Deed.leaving

theorem signalsIn_deeds (mask : UInt8) (owned : Bool) (request : Request) :
    signalsIn (request.deeds mask owned) = request.signals mask owned := by
  have hbehind : signalsIn (if request.sent then
      Deed.passing (request.frame.map .said ++ request.answers.map .heard) else Deed.leaving) =
      if request.sent then request.frame.map .said ++ request.answers.map .heard
      else Signal.parting := by
    cases request.sent with
    | true => exact signalsIn_passing _
    | false => exact signalsIn_leaving true
  unfold deeds signals Deed.reselecting
  rw [signalsIn_append, signalsIn_append, signalsIn_append, signalsIn_leaving, hbehind, signalsIn_passing]
  rfl

/-- A request as it can be, begun with the clock as it is here: behind a frame so many bytes are heard as it
    takes to find the answer, and without one none. -/
structure Proper [TickSource C] (clock : C) (request : Request) : Prop where
  wait : request.wait.Timed ChannelM.isIdle clock
  heard : request.sent = true → answered responsePolls request.answers = some (request.answer, [])
  silent : request.sent = false → request.answers = []

end Request

namespace ChannelM

open CardEngine

variable [Host H] [TickSource C] {patience : Nat}

theorem passed_awaitResponse (polls : Nat) (hpolls : 0 < polls) (s : Session (Channel H) C) :
    Ensures (awaitResponse polls) s fun r1 s' => ∃ got, answered polls got = some (r1, []) ∧
      Passed (got.map .heard) 0 s s' := by
  -- the answer is looked for in what was heard just as it was polled for
  induction polls generalizing s with
  | zero => exact absurd hpolls (Nat.lt_irrefl 0)
  | succ polls ih =>
    refine (passed_readByte s).bind fun byte s₁ h₁ => ?_
    by_cases hanswer : R1.isAnswer byte = true
    · rw [if_pos hanswer]
      exact ensures_pure ⟨[byte], if_pos (.inl hanswer), h₁⟩
    rw [if_neg hanswer]
    by_cases hlast : polls = 0
    · rw [if_pos hlast]
      exact ensures_pure ⟨[byte], if_pos (.inr hlast), h₁⟩
    rw [if_neg hlast]
    refine (ih (Nat.pos_of_ne_zero hlast) s₁).mono ?_
    rintro r1 s₂ ⟨got, hgot, h₂⟩
    refine ⟨byte :: got, ?_, h₁.trans h₂⟩
    unfold answered
    rw [if_neg (by simp [hanswer, hlast])]
    exact hgot

/-- The bytes that mean nothing behind the frame of a command: one behind that which stops a read. -/
def stuffing (index : UInt8) : Nat :=
  if index = Command.stopTransmission.index then 1 else 0

theorem passed_exchangeFrame (index : UInt8) (argument : UInt32) (s : Session (Channel H) C) :
    Ensures (exchangeFrame index argument) s fun r1 s' => ∃ stuffed got,
      stuffed.length = stuffing index ∧ answered responsePolls got = some (r1, []) ∧
        Passed ((Command.frame index argument).map .said ++ (stuffed ++ got).map .heard) 0 s s' := by
  refine (passed_report _ s).bind fun _ s₁ h₁ => ?_
  refine (passed_write _ s₁).bind fun _ s₂ h₂ => ?_
  have h₂ := h₁.quiet_trans h₂
  unfold stuffing
  split
  · refine (passed_readByte s₂).bind fun byte s₃ h₃ => ?_
    refine (passed_awaitResponse responsePolls (by decide) s₃).mono ?_
    rintro r1 s₄ ⟨got, hgot, h₄⟩
    exact ⟨[byte], got, rfl, hgot, h₂.trans (h₃.trans h₄)⟩
  · refine (passed_awaitResponse responsePolls (by decide) s₂).mono ?_
    rintro r1 s₃ ⟨got, hgot, h₃⟩
    exact ⟨[], got, rfl, hgot, h₂.trans h₃⟩

/-! ### The steps of a request -/

omit [TickSource C] in
/-- Give the bus back, take it anew, select the card and read one byte. -/
def reselect : ChannelM H C UInt8 := do
  shutdown
  obtain
  select
  readByte

omit [TickSource C] in
/-- Leave a card that was not ready. -/
def giveUp : ChannelM H C UInt8 := do
  report CardNote.notReady
  shutdown
  pure idleByte

/-- **The steps of a command** in brackets of its own. -/
theorem sendPlain_eq {index : UInt8} (hindex : index ≠ Command.stopTransmission.index)
    (argument : UInt32) :
    (sendPlain patience index argument : ChannelM H C UInt8) = (do
      let _ ← reselect
      if ← waitReady patience then exchangeFrame index argument else giveUp) := by
  unfold sendPlain selectCard reselect giveUp
  rw [if_neg hindex]
  simp only [bind_assoc]
  refine bind_congr fun _ => bind_congr fun _ => bind_congr fun _ => bind_congr fun _ => ?_
  refine bind_congr fun ready => ?_
  cases ready with
  | true => simp
  | false => simp [bind_assoc]

theorem did_reselect (s : Session (Channel H) C) :
    Ensures reselect s fun lead s' => s'.device.owns = true ∧
      Did (Deed.reselecting s.device.mask s.device.owns lead) 0 s s' := by
  refine (did_shutdown s).bind fun _ s₁ ⟨howns, h₁⟩ => ?_
  refine (did_obtain howns).bind fun _ s₂ ⟨howns, h₂⟩ => ?_
  refine (did_select s₂).bind fun _ s₃ ⟨hselect, h₃⟩ => ?_
  rw [h₂.mask, h₁.mask] at h₃
  refine (ensures_calls (keeps_readByte calling_steady) (passed_readByte s₃)).mono ?_
  rintro lead s₄ ⟨hpassed, hread, hdid⟩
  refine ⟨hread.trans (hselect.trans howns), ?_⟩
  exact h₁.trans (h₂.trans (h₃.trans (hdid hpassed)))

theorem did_giveUp {s : Session (Channel H) C} (howns : s.device.owns = true) :
    Ensures giveUp s fun r1 s' => r1 = idleByte ∧ s'.device.owns = false ∧ Did Deed.leaving 0 s s' := by
  refine ensures_bind (ensures_report ?_)
  refine (did_shutdown _).bind fun _ s₁ ⟨haway, h₁⟩ => ensures_pure ⟨rfl, haway, ?_⟩
  dsimp only at h₁
  rw [howns, if_pos rfl] at h₁
  exact ⟨h₁.deeds, h₁.line, h₁.clock⟩

theorem did_exchangeFrame (index : UInt8) (argument : UInt32) (s : Session (Channel H) C) :
    Ensures (exchangeFrame index argument) s fun r1 s' => ∃ stuffed got,
      stuffed.length = stuffing index ∧ answered responsePolls got = some (r1, []) ∧
        s'.device.owns = s.device.owns ∧
        Did (Deed.passing ((Command.frame index argument).map .said ++ (stuffed ++ got).map .heard)) 0
          s s' := by
  refine (ensures_calls (keeps_exchangeFrame calling_steady trivial)
    (passed_exchangeFrame index argument s)).mono ?_
  rintro r1 s' ⟨⟨stuffed, got, hstuffed, hgot, hpassed⟩, howns, hdid⟩
  exact ⟨stuffed, got, hstuffed, hgot, howns, hdid hpassed⟩

/-- **A command in brackets of its own** is a request. Behind it the bus is owned if the frame was sent. -/
theorem did_sendPlain {index : UInt8} (hindex : index ≠ Command.stopTransmission.index)
    (argument : UInt32) (s : Session (Channel H) C) :
    Ensures (sendPlain patience index argument) s fun r1 s' => ∃ request : Request,
      request.frame = Command.frame index argument ∧ request.answer = r1 ∧
        request.Proper s.env.clock ∧ s'.device.owns = request.sent ∧
        Did (request.deeds s.device.mask s.device.owns) request.readings s s' := by
  rw [sendPlain_eq hindex]
  refine (did_reselect s).bind fun lead s₁ ⟨howns, h₁⟩ => ?_
  have hclock : s₁.env.clock = s.env.clock := h₁.clock
  refine (ensures_calls (upholds_waitReady calling_timed patience).keeps
    (passed_waitReady patience s₁)).bind ?_
  rintro ready s₂ ⟨⟨wait, hended, htimed, hpassed⟩, hstill, hdid⟩
  rw [hclock] at htimed
  rw [howns] at hstill
  have h₂ := (h₁.trans (hdid hpassed)).congr rfl (Nat.zero_add _)
  cases ready with
  | false =>
    -- no frame goes out, and nobody answers
    refine (did_giveUp hstill).mono ?_
    rintro _ s₃ ⟨rfl, haway, h₃⟩
    let request : Request := ⟨Command.frame index argument, lead, wait, []⟩
    have hsent : request.sent = false := hended
    refine ⟨request, rfl, rfl, ⟨htimed, ?_, fun _ => rfl⟩, haway.trans hended.symm, ?_⟩
    · intro hyes
      rw [hsent] at hyes
      cases hyes
    · refine (h₂.trans h₃).congr ?_ rfl
      unfold Request.deeds
      rw [hsent, if_neg (by decide)]
  | true =>
    refine (did_exchangeFrame index argument s₂).mono ?_
    rintro r1 s₃ ⟨stuffed, got, hstuffed, hgot, hkept, h₃⟩
    unfold stuffing at hstuffed
    rw [if_neg hindex] at hstuffed
    obtain rfl := List.eq_nil_of_length_eq_zero hstuffed
    let request : Request := ⟨Command.frame index argument, lead, wait, got⟩
    have hsent : request.sent = true := hended
    have hanswer : request.answer = r1 := by
      show (match answered responsePolls got with | some (r1, _) => r1 | none => idleByte) = r1
      rw [hgot]
    refine ⟨request, rfl, hanswer, ⟨htimed, fun _ => ?_, ?_⟩, (hkept.trans hstill).trans hended.symm, ?_⟩
    · rw [hanswer]
      exact hgot
    · intro hno
      rw [hsent] at hno
      cases hno
    · refine (h₂.trans h₃).congr ?_ rfl
      unfold Request.deeds
      rw [hsent, if_pos rfl]
      rfl

theorem passed_sendPlain {index : UInt8} (hindex : index ≠ Command.stopTransmission.index)
    (argument : UInt32) (s : Session (Channel H) C) :
    Ensures (sendPlain patience index argument) s fun r1 s' => ∃ request : Request,
      request.frame = Command.frame index argument ∧ request.answer = r1 ∧
        request.Proper s.env.clock ∧ s'.device.owns = request.sent ∧
        Passed (request.signals s.device.mask s.device.owns) request.readings s s' := by
  refine (did_sendPlain hindex argument s).mono ?_
  rintro r1 s' ⟨request, hframe, hanswer, hproper, howns, hdid⟩
  exact ⟨request, hframe, hanswer, hproper, howns, hdid.passed.congr (request.signalsIn_deeds _ _) rfl⟩

end ChannelM

/-! ## Runs of requests -/

namespace Request

/-- Whether the bus is owned behind some requests. -/
def ownedBehind (owned : Bool) : List Request → Bool
  | [] => owned
  | request :: rest => ownedBehind request.sent rest

/-- The signals of requests to the card in a mask, one behind the other. -/
def signalsOf (mask : UInt8) (owned : Bool) : List Request → List Signal
  | [] => []
  | request :: rest => request.signals mask owned ++ signalsOf mask request.sent rest

/-- How often the clock is read in requests. -/
def readingsOf : List Request → Nat
  | [] => 0
  | request :: rest => request.readings + readingsOf rest

/-- Requests as they can be, the first of them begun with the clock as it is here. -/
def AllProper [TickSource C] (clock : C) : List Request → Prop
  | [] => True
  | request :: rest => request.Proper clock ∧ AllProper (ticked request.readings clock) rest

theorem ownedBehind_append (owned : Bool) (requests more : List Request) :
    ownedBehind owned (requests ++ more) = ownedBehind (ownedBehind owned requests) more := by
  induction requests generalizing owned with
  | nil => rfl
  | cons request rest ih => exact ih request.sent

theorem signalsOf_append (mask : UInt8) (owned : Bool) (requests more : List Request) :
    signalsOf mask owned (requests ++ more) =
      signalsOf mask owned requests ++ signalsOf mask (ownedBehind owned requests) more := by
  induction requests generalizing owned with
  | nil => rfl
  | cons request rest ih =>
    rw [List.cons_append, signalsOf, signalsOf, ih, ownedBehind, List.append_assoc]

theorem readingsOf_append (requests more : List Request) :
    readingsOf (requests ++ more) = readingsOf requests + readingsOf more := by
  induction requests with
  | nil => exact (Nat.zero_add _).symm
  | cons request rest ih => rw [List.cons_append, readingsOf, readingsOf, ih, Nat.add_assoc]

theorem allProper_append [TickSource C] {clock : C} {requests more : List Request}
    (h : AllProper clock requests) (h' : AllProper (ticked (readingsOf requests) clock) more) :
    AllProper clock (requests ++ more) := by
  induction requests generalizing clock with
  | nil => exact h'
  | cons request rest ih =>
    refine ⟨h.1, ih h.2 ?_⟩
    rw [← ticked_add]
    exact h'

end Request

namespace ChannelM

open CardEngine

variable [TickSource C] {patience : Nat} {s s' s'' : Session (Channel H) C}

/-- Between two moments these requests were made, and nothing else was done. -/
structure Sent (requests : List Request) (s s' : Session (Channel H) C) : Prop where
  proper : Request.AllProper s.env.clock requests
  owns : s'.device.owns = Request.ownedBehind s.device.owns requests
  passed : Passed (Request.signalsOf s.device.mask s.device.owns requests)
    (Request.readingsOf requests) s s'

theorem Sent.refl (s : Session (Channel H) C) : Sent [] s s :=
  ⟨trivial, rfl, .refl s⟩

theorem Sent.cons {request : Request} {rest : List Request} (hproper : request.Proper s.env.clock)
    (howns : s'.device.owns = request.sent)
    (hpassed : Passed (request.signals s.device.mask s.device.owns) request.readings s s')
    (h : Sent rest s' s'') : Sent (request :: rest) s s'' := by
  refine ⟨⟨hproper, ?_⟩, ?_, ?_⟩
  · rw [← hpassed.clock]
    exact h.proper
  · rw [h.owns, howns]
    rfl
  · have hrest := h.passed
    rw [hpassed.mask, howns] at hrest
    exact hpassed.trans hrest

theorem Sent.single {request : Request} (hproper : request.Proper s.env.clock)
    (howns : s'.device.owns = request.sent)
    (hpassed : Passed (request.signals s.device.mask s.device.owns) request.readings s s') :
    Sent [request] s s' :=
  .cons hproper howns hpassed (.refl s')

theorem Sent.report {requests : List Request} (h : Sent requests s s') (log : Logger) :
    Sent requests s { s' with env.log := log } :=
  ⟨h.proper, h.owns, h.passed.trans_quiet (.quiet rfl rfl)⟩

theorem Sent.append {requests more : List Request} (h : Sent requests s s')
    (h' : Sent more s' s'') : Sent (requests ++ more) s s'' := by
  have hproper := h'.proper
  have hpassed := h'.passed
  rw [h.passed.clock] at hproper
  rw [h.passed.mask, h.owns] at hpassed
  refine ⟨Request.allProper_append h.proper hproper, ?_, ?_⟩
  · rw [h'.owns, h.owns, Request.ownedBehind_append]
  · rw [Request.signalsOf_append, Request.readingsOf_append]
    exact h.passed.trans hpassed

/-- What a command comes to: one request of its own, or, for an application command, the notice and then, if
    that was not refused, the command. -/
inductive Requested (command : Command) (argument : UInt32) : List Request → UInt8 → Prop where
  | plain (request : Request) (happ : command.app = false)
      (hframe : request.frame = Command.frame command.index argument) :
      Requested command argument [request] request.answer
  | refused (notice : Request) (happ : command.app = true)
      (hnotice : notice.frame = Command.frame Command.appNotice.index 0)
      (hrefused : notice.answer > R1.idle) : Requested command argument [notice] notice.answer
  | announced (notice request : Request) (happ : command.app = true)
      (hnotice : notice.frame = Command.frame Command.appNotice.index 0)
      (htaken : ¬ notice.answer > R1.idle)
      (hframe : request.frame = Command.frame command.index argument) :
      Requested command argument [notice, request] request.answer

theorem Requested.of_plain {command : Command} {argument : UInt32} {requests : List Request} {r1 : UInt8}
    (h : Requested command argument requests r1) (happ : command.app = false) :
    ∃ request : Request, requests = [request] ∧
      request.frame = Command.frame command.index argument ∧ request.answer = r1 := by
  cases h with
  | plain request _ hframe => exact ⟨request, rfl, hframe, rfl⟩
  | refused _ happ' =>
    rw [happ] at happ'
    cases happ'
  | announced _ _ happ' =>
    rw [happ] at happ'
    cases happ'

/-- **A command** is the requests that it takes. -/
theorem passed_send [Host H] {command : Command}
    (hindex : command.index ≠ Command.stopTransmission.index) (argument : UInt32)
    (s : Session (Channel H) C) :
    Ensures (send patience command argument) s fun r1 s' =>
      ∃ requests, Requested command argument requests r1 ∧ Sent requests s s' := by
  unfold send
  cases happ : command.app with
  | false =>
    refine (passed_sendPlain hindex argument s).mono ?_
    rintro _ s₁ ⟨request, hframe, rfl, hproper, howns, h₁⟩
    exact ⟨[request], .plain request happ hframe, .single hproper howns h₁⟩
  | true =>
    refine (passed_sendPlain (by decide) 0 s).bind ?_
    rintro _ s₁ ⟨notice, hnotice, rfl, hproper, howns, h₁⟩
    split
    · rename_i hrefused
      exact ensures_pure ⟨[notice], .refused notice happ hnotice hrefused, .single hproper howns h₁⟩
    · rename_i htaken
      refine (passed_sendPlain hindex argument s₁).mono ?_
      rintro _ s₂ ⟨request, hframe, rfl, hproper', howns', h₂⟩
      exact ⟨[notice, request], .announced notice request happ hnotice htaken hframe,
        .cons hproper howns h₁ (.single hproper' howns' h₂)⟩

end ChannelM

/-! ## Around a transfer -/

/-- The first failure of some outcomes, if there is one. -/
def firstFailure : List (Except CardError Unit) → Except CardError Unit
  | [] => .ok ()
  | .error error :: _ => .error error
  | .ok () :: rest => firstFailure rest

theorem firstFailure_append_of_error {outcomes : List (Except CardError Unit)} {error : CardError}
    (h : firstFailure outcomes = .error error) (more : List (Except CardError Unit)) :
    firstFailure (outcomes ++ more) = .error error := by
  induction outcomes with
  | nil => cases h
  | cons outcome rest ih =>
    cases outcome with
    | error _ => exact h
    | ok _ => exact ih h

theorem firstFailure_append_of_ok {outcomes : List (Except CardError Unit)}
    (h : firstFailure outcomes = .ok ()) (more : List (Except CardError Unit)) :
    firstFailure (outcomes ++ more) = firstFailure more := by
  induction outcomes with
  | nil => rfl
  | cons outcome rest ih =>
    cases outcome with
    | error _ => cases h
    | ok _ => exact ih h

theorem firstFailure_singleton (outcome : Except CardError Unit) : firstFailure [outcome] = outcome := by
  cases outcome with
  | error _ => rfl
  | ok _ => rfl

theorem firstFailure_eq_ok {outcomes : List (Except CardError Unit)} :
    firstFailure outcomes = .ok () ↔ ∀ outcome ∈ outcomes, outcome = .ok () := by
  induction outcomes with
  | nil => exact ⟨fun _ => nofun, fun _ => rfl⟩
  | cons outcome rest ih =>
    rw [List.forall_mem_cons, ← ih]
    cases outcome with
    | error error => exact ⟨nofun, fun h => nomatch h.1⟩
    | ok _ => exact ⟨fun h => ⟨rfl, h⟩, And.right⟩

/-- What a refusing status is reported as. -/
def refusal (r1 : UInt8) : CardError :=
  if R1.isAnswer r1 then .badResponse else .timeout

namespace ChannelM

open CardEngine

variable [TickSource C]

/-- A refusal is no more than reported, so that the bus stays with who owned it. -/
theorem passed_failureOf (r1 : UInt8) (s : Session (Channel H) C) :
    Ensures (failureOf r1) s fun error s' =>
      error = refusal r1 ∧ s'.device.owns = s.device.owns ∧ Passed [] 0 s s' := by
  unfold failureOf refusal
  split
  · exact ensures_bind (ensures_report (ensures_pure ⟨rfl, rfl, .quiet rfl rfl⟩))
  · exact ensures_pure ⟨rfl, rfl, .refl s⟩

theorem passed_conclude [Host H] {N : Type} [Diagnostic N] (note : CardError → N)
    (outcome : Except CardError Unit) (s : Session (Channel H) C) :
    Ensures (conclude note outcome) s fun _ s' =>
      Passed (if s.device.owns then Signal.parting else []) 0 s s' := by
  refine (passed_shutdown s).bind fun _ s₁ ⟨_, h₁⟩ => ?_
  cases outcome with
  | ok _ => exact ensures_pure h₁
  | error error => exact (passed_report _ s₁).mono fun _ _ h₂ => h₁.trans_quiet h₂

end ChannelM

end SpiDisk
