import SpiDisk.Proofs.Bus.Deed
import SpiDisk.Proofs.Card.Polling

/-!
# `SpiDisk.Proofs.Card.Dispatch` — what a command does on the bus

A command is one frame, or two where a notice goes before it. A frame has brackets of its own: the bus is
given back and taken anew, the card is selected and waited for, and only a card that is ready gets it.
The frame that stops a read has none, and goes out as things are. This module says of every command, on any
board and any clock, all that is done on its way, deed by deed, and what its caller may conclude from the
answer.

A command may also never come back. Then it waits for the bus or for a card, and no frame went out that is
not told of here.

## Contents
- **Answers.** `Polled`, what is read for an answer.
- **Frames.** `Command.Framed`, the bytes of a frame as a card takes them.
- **Passages.** `Passage`; `Conveyed` for one frame and `Dispatched` for a command, and what they promise.
- **One frame.** `Leads`, from one moment to another, and `conveyed_sendPlain`.
- **Coming back.** `Stuck` and `HeldUp`, the only ways not to.
- **Commands.** `dispatched_send` and `sends_orderly`.
-/

namespace SpiDisk

open SessionM

/-! ## Answers -/

/-- What is read for an answer, where no more than so many bytes are read: the last byte counts, none before
    it is an answer, and it is one itself unless there was nothing left to read. -/
structure Polled (polls : Nat) (got : List UInt8) (r1 : UInt8) : Prop where
  vain : ∃ vain, got = vain ++ [r1] ∧ ∀ byte ∈ vain, R1.isAnswer byte = false
  bounded : got.length ≤ polls
  ended : R1.isAnswer r1 = true ∨ got.length = polls

theorem Polled.of_answered {polls : Nat} {got : List UInt8} {r1 : UInt8}
    (h : answered polls got = some (r1, [])) : Polled polls got r1 := by
  induction got generalizing polls with
  | nil => cases polls <;> cases h
  | cons byte got ih =>
    cases polls with
    | zero => cases h
    | succ polls =>
      unfold answered at h
      split at h
      · rename_i hlast
        cases h
        refine ⟨⟨[], rfl, List.forall_mem_nil _⟩, by simp, ?_⟩
        exact hlast.imp_right fun hpolls => by simp [hpolls]
      · rename_i hmore
        obtain ⟨hanswer, -⟩ := not_or.mp hmore
        obtain ⟨⟨vain, rfl, hvain⟩, hbounded, hended⟩ := ih h
        refine ⟨⟨byte :: vain, rfl, ?_⟩, Nat.succ_le_succ hbounded, hended.imp_right (congrArg (· + 1))⟩
        exact List.forall_mem_cons.mpr ⟨Bool.eq_false_iff.mpr hanswer, hvain⟩

/-! ## Frames -/

namespace Command

/-- The six bytes of a frame as a card takes them: the index behind the start bits, the argument with its
    most significant byte first, and the checksum. -/
structure Framed (index : UInt8) (argument : UInt32) (frame : List UInt8) : Prop where
  bytes : ∃ b₃ b₂ b₁ b₀ : UInt8, frame = [0x40 ||| index, b₃, b₂, b₁, b₀, checksum index] ∧
    ((b₃.toNat * 256 + b₂.toNat) * 256 + b₁.toNat) * 256 + b₀.toNat = argument.toNat
  start : (0x40 ||| index) &&& 0xC0 = 0x40

theorem framed_frame {index : UInt8} (hindex : (0x40 ||| index) &&& 0xC0 = 0x40) (argument : UInt32) :
    Framed index argument (frame index argument) := by
  refine ⟨⟨_, _, _, _, rfl, ?_⟩, hindex⟩
  have hargument := argument.toNat_lt
  simp only [UInt32.toNat_toUInt8, UInt32.toNat_shiftRight, UInt32.reduceToNat, Nat.reduceMod,
    Nat.shiftRight_eq_div_pow]
  omega

/-- The index of a code leaves the start bits of a frame alone. -/
theorem start_ofCode (code : UInt8) : (0x40 ||| (ofCode code).index) &&& 0xC0 = 0x40 := by
  apply UInt8.toBitVec_inj.mp
  ext i hi
  have hbit : i = 0 ∨ i = 1 ∨ i = 2 ∨ i = 3 ∨ i = 4 ∨ i = 5 ∨ i = 6 ∨ i = 7 := by omega
  rcases hbit with rfl | rfl | rfl | rfl | rfl | rfl | rfl | rfl <;> simp [ofCode]

end Command

/-! ## Passages -/

/-- What a command comes to. -/
structure Passage where
  /-- What was done, oldest first. -/
  deeds : List Deed
  /-- How often the clock was read. -/
  readings : Nat
  /-- The frames that were handed over. -/
  frames : List (List UInt8)
  /-- What is told for an answer. -/
  answer : UInt8
  /-- Whether the bus is owned behind it. -/
  owned : Bool

/-- One passage behind another; the answer of the first is used up. -/
def Passage.then (p q : Passage) : Passage where
  deeds := p.deeds ++ q.deeds
  readings := p.readings + q.readings
  frames := p.frames ++ q.frames
  answer := q.answer
  owned := q.owned

section Passages

variable {C : Type} [TickSource C]

/-- One frame on its way to the card in a mask, by a channel that owned the bus or not, with the clock as it
    is here. -/
inductive Conveyed (index : UInt8) (argument : UInt32) (mask : UInt8) (clock : C) (owned : Bool) :
    Passage → Prop where
  /-- The frame that stops a read goes out as things are. The first byte behind it means nothing. -/
  | bare {stuffing r1 : UInt8} {got : List UInt8} (hindex : index = Command.stopTransmission.index)
    (hgot : Polled responsePolls got r1) :
    Conveyed index argument mask clock owned
      { deeds := Deed.passing ((Command.frame index argument).map .said ++
          (stuffing :: got).map .heard)
        readings := 0
        frames := [Command.frame index argument]
        answer := r1
        owned }
  /-- Any other goes to a card that was selected anew and found ready, right behind the byte that says so. -/
  | ready (lead : UInt8) {r1 : UInt8} {wait : Poll} {got : List UInt8}
    (hindex : index ≠ Command.stopTransmission.index) (hwait : wait.Timed ChannelM.isIdle clock)
    (hready : wait.found = some idleByte) (hgot : Polled responsePolls got r1) :
    Conveyed index argument mask clock owned
      { deeds := Deed.reselecting mask owned lead ++ Deed.passing (wait.signals ++
          (Command.frame index argument).map .said ++ got.map .heard)
        readings := wait.readings
        frames := [Command.frame index argument]
        answer := r1
        owned := true }
  /-- If the card was not ready in time, the bus is left and an idle line is told for an answer. -/
  | unready (lead : UInt8) {wait : Poll} (hindex : index ≠ Command.stopTransmission.index)
    (hwait : wait.Timed ChannelM.isIdle clock) (hlate : wait.found = none) :
    Conveyed index argument mask clock owned
      { deeds := Deed.reselecting mask owned lead ++ Deed.passing wait.signals ++ Deed.leaving
        readings := wait.readings
        frames := []
        answer := idleByte
        owned := false }

/-- A command on its way: one frame, or for an application command a notice and then, if that was not
    refused, the frame. -/
inductive Dispatched (command : Command) (argument : UInt32) (mask : UInt8) (clock : C) (owned : Bool) :
    Passage → Prop where
  | plain {p : Passage} (happ : command.app = false)
    (h : Conveyed command.index argument mask clock owned p) :
    Dispatched command argument mask clock owned p
  | refused {p : Passage} (happ : command.app = true)
    (h : Conveyed Command.appNotice.index 0 mask clock owned p) (hrefused : R1.idle < p.answer) :
    Dispatched command argument mask clock owned p
  | announced {p q : Passage} (happ : command.app = true)
    (h : Conveyed Command.appNotice.index 0 mask clock owned p) (htaken : p.answer ≤ R1.idle)
    (h' : Conveyed command.index argument mask (ticked p.readings clock) p.owned q) :
    Dispatched command argument mask clock owned (p.then q)

variable {index : UInt8} {command : Command} {argument : UInt32} {mask : UInt8} {clock : C}
  {owned : Bool} {p : Passage}

theorem Conveyed.length_frames (h : Conveyed index argument mask clock owned p) :
    p.frames.length ≤ 1 := by
  cases h with
  | bare | ready => exact Nat.le_refl 1
  | unready => exact Nat.zero_le 1

theorem Conveyed.frame_eq (h : Conveyed index argument mask clock owned p) :
    ∀ frame ∈ p.frames, frame = Command.frame index argument := by
  cases h with
  | bare | ready => exact fun _ => List.mem_singleton.mp
  | unready => exact nofun

/-- A channel that has not got the bus any more was told that the line is idle. -/
theorem Conveyed.silent (h : Conveyed index argument mask clock owned p) (haway : p.owned = false)
    (howned : index ≠ Command.stopTransmission.index ∨ owned = true) : p.answer = idleByte := by
  cases h with
  | bare hindex =>
    have hbus : owned = true := howned.resolve_left (not_not_intro hindex)
    rw [hbus] at haway
    cases haway
  | ready => cases haway
  | unready => rfl

/-- An answer was given to a frame that was sent, and the bus is owned still. -/
theorem Conveyed.answered (h : Conveyed index argument mask clock owned p)
    (hanswer : R1.isAnswer p.answer = true) :
    p.frames = [Command.frame index argument] ∧
      (index ≠ Command.stopTransmission.index ∨ owned = true → p.owned = true) := by
  cases h with
  | bare hindex => exact ⟨rfl, fun h => h.resolve_left (not_not_intro hindex)⟩
  | ready => exact ⟨rfl, fun _ => rfl⟩
  | unready =>
    have hidle : R1.isAnswer idleByte = true := hanswer
    exact absurd hidle (by decide)

/-- What a caller may conclude: there was one frame, or two for an application command, of which the first is
    the notice; every frame is one that a card takes for what it is; and who got an answer owns the bus, and
    who has not got it any more was told that the line is idle, unless all that was sent was a frame that
    goes out as things are. -/
structure Passage.Orderly (command : Command) (argument : UInt32) (p : Passage) : Prop where
  few : p.frames.length ≤ if command.app then 2 else 1
  framed : ∀ frame ∈ p.frames, Command.Framed command.index argument frame ∨
    command.app = true ∧ Command.Framed Command.appNotice.index 0 frame
  noticed : command.app = true → ∀ frame ∈ p.frames.head?,
    frame = Command.frame Command.appNotice.index 0
  owned : R1.isAnswer p.answer = true →
    command.app = true ∨ command.index ≠ Command.stopTransmission.index → p.owned = true
  released : p.owned = false →
    command.app = true ∨ command.index ≠ Command.stopTransmission.index → p.answer = idleByte

theorem Conveyed.orderly_plain (happ : command.app = false)
    (hindex : (0x40 ||| command.index) &&& 0xC0 = 0x40)
    (h : Conveyed command.index argument mask clock owned p) : p.Orderly command argument := by
  have hplain : command.app = true ∨ command.index ≠ Command.stopTransmission.index →
      command.index ≠ Command.stopTransmission.index := fun hbus => hbus.resolve_left (by simp [happ])
  refine ⟨?_, fun frame hframe => ?_, ?_, fun hanswer hbus => ?_, fun haway hbus => ?_⟩
  · rw [happ]
    exact h.length_frames
  · rw [h.frame_eq frame hframe]
    exact .inl (Command.framed_frame hindex argument)
  · rw [happ]
    exact nofun
  · exact (h.answered hanswer).2 (.inl (hplain hbus))
  · exact h.silent haway (.inl (hplain hbus))

/-- The notice before an application command. -/
theorem framed_appNotice :
    Command.Framed Command.appNotice.index 0 (Command.frame Command.appNotice.index 0) :=
  Command.framed_frame (by decide) 0

theorem Conveyed.orderly_refused (happ : command.app = true)
    (h : Conveyed Command.appNotice.index 0 mask clock owned p) : p.Orderly command argument := by
  have hindex : Command.appNotice.index ≠ Command.stopTransmission.index := by decide
  refine ⟨?_, fun frame hframe => ?_, fun _ frame hframe => ?_, fun hanswer _ => ?_, fun haway _ => ?_⟩
  · rw [happ]
    exact Nat.le_succ_of_le h.length_frames
  · rw [h.frame_eq frame hframe]
    exact .inr ⟨happ, framed_appNotice⟩
  · exact h.frame_eq frame (List.mem_of_mem_head? hframe)
  · exact (h.answered hanswer).2 (.inl hindex)
  · exact h.silent haway (.inl hindex)

/-- A notice that was not refused was answered, so that it was sent and the bus is owned behind it. -/
theorem Conveyed.orderly_announced {q : Passage} (happ : command.app = true)
    (hindex : (0x40 ||| command.index) &&& 0xC0 = 0x40)
    (h : Conveyed Command.appNotice.index 0 mask clock owned p) (htaken : p.answer ≤ R1.idle)
    (h' : Conveyed command.index argument mask (ticked p.readings clock) p.owned q) :
    (p.then q).Orderly command argument := by
  obtain ⟨hsent, howned⟩ := h.answered (R1.isAnswer_of_le htaken)
  have howned : p.owned = true := howned (.inl (by decide))
  have hframes : (p.then q).frames = Command.frame Command.appNotice.index 0 :: q.frames := by
    rw [Passage.then, hsent]
    rfl
  refine ⟨?_, fun frame hframe => ?_, fun _ frame hframe => ?_, fun hanswer _ => ?_, fun haway _ => ?_⟩
  · rw [hframes, happ]
    exact Nat.succ_le_succ h'.length_frames
  · rw [hframes] at hframe
    rcases List.mem_cons.mp hframe with rfl | hframe
    · exact .inr ⟨happ, framed_appNotice⟩
    · rw [h'.frame_eq frame hframe]
      exact .inl (Command.framed_frame hindex argument)
  · rw [hframes] at hframe
    exact (Option.some.inj hframe).symm
  · exact (h'.answered hanswer).2 (.inr howned)
  · exact h'.silent haway (.inr howned)

theorem Dispatched.orderly (hindex : (0x40 ||| command.index) &&& 0xC0 = 0x40)
    (h : Dispatched command argument mask clock owned p) : p.Orderly command argument := by
  cases h with
  | plain happ h => exact h.orderly_plain happ hindex
  | refused happ h => exact h.orderly_refused happ
  | announced happ h htaken h' => exact h.orderly_announced happ hindex htaken h'

end Passages

/-! ## One frame -/

namespace ChannelM

open CardEngine

variable {H C : Type} [Host H] [TickSource C] {patience : Nat} {index : UInt8} {argument : UInt32}
  {s s' : Session (Channel H) C}

/-- A passage took a channel from one moment to another, and this is what was told for its answer. -/
structure Leads (p : Passage) (r1 : UInt8) (s s' : Session (Channel H) C) : Prop where
  answer : p.answer = r1
  owns : s'.device.owns = p.owned
  did : Did p.deeds p.readings s s'

omit [Host H] in
theorem Leads.trans {p q : Passage} {r1 r1' : UInt8} {s'' : Session (Channel H) C}
    (h : Leads p r1 s s') (h' : Leads q r1' s' s'') : Leads (p.then q) r1' s s'' :=
  ⟨h'.answer, h'.owns, h.did.trans h'.did⟩

/-- **A frame is conveyed,** whatever its index. -/
theorem conveyed_sendPlain (index : UInt8) (argument : UInt32) (s : Session (Channel H) C) :
    Ensures (sendPlain patience index argument) s fun r1 s' => ∃ p,
      Conveyed index argument s.device.mask s.env.clock s.device.owns p ∧ Leads p r1 s s' := by
  by_cases hindex : index = Command.stopTransmission.index
  · unfold sendPlain
    rw [if_pos hindex]
    refine (did_exchangeFrame index argument s).mono ?_
    rintro r1 s' ⟨stuffed, got, hstuffed, hgot, howns, hdid⟩
    unfold stuffing at hstuffed
    rw [if_pos hindex] at hstuffed
    obtain ⟨byte, rfl⟩ := List.length_eq_one_iff.mp hstuffed
    exact ⟨_, .bare hindex (.of_answered hgot), rfl, howns, hdid⟩
  · refine (did_sendPlain hindex argument s).mono ?_
    rintro r1 s' ⟨⟨frame, lead, wait, got⟩, rfl, rfl, hproper, howns, hdid⟩
    unfold Request.deeds at hdid
    cases hsent : wait.ended with
    | true =>
      refine ⟨_, .ready lead hindex hproper.wait (hproper.wait.found_idle hsent)
        (.of_answered (hproper.heard hsent)), rfl, howns.trans hsent, hdid.congr ?_ rfl⟩
      rw [Request.sent, hsent, if_pos rfl]
      simp only [Deed.passing_append, List.append_assoc]
    | false =>
      have hlate : wait.found = none := Option.not_isSome_iff_eq_none.mp (Bool.eq_false_iff.mp hsent)
      obtain rfl : got = [] := hproper.silent hsent
      refine ⟨_, .unready lead hindex hproper.wait hlate, rfl, howns.trans hsent, hdid.congr ?_ rfl⟩
      rw [Request.sent, hsent, if_neg (by decide)]

/-! ## Coming back -/

/-- A frame that is not sent, and of which nothing is ever told: the bus is another's, or the card was
    selected and the wait for it does not come to an end. -/
def Stuck (patience : Nat) (index : UInt8) (s : Session (Channel H) C) : Prop :=
  index ≠ Command.stopTransmission.index ∧
    (s.device.owns = false ∧ s.env.bus.held = true ∨
      ∃ lead s₁, Did (Deed.reselecting s.device.mask s.device.owns lead) 0 s s₁ ∧
        ¬Returns (waitReady patience) s₁)

/-- A command that does not come back: no frame was sent, or of an application command the notice alone, to
    which the card agreed. -/
inductive HeldUp (patience : Nat) (command : Command) (s : Session (Channel H) C) : Prop where
  | first (h : Stuck patience (if command.app then Command.appNotice.index else command.index) s)
  | second {p : Passage} {r1 : UInt8} {s₁ : Session (Channel H) C} (happ : command.app = true)
    (hnotice : Conveyed Command.appNotice.index 0 s.device.mask s.env.clock s.device.owns p)
    (hleads : Leads p r1 s s₁) (htaken : r1 ≤ R1.idle) (h : Stuck patience command.index s₁)

omit [TickSource C] in
/-- Nobody has to wait for a bus that he owns or that is free. -/
theorem returns_reselect (h : s.device.owns = true ∨ s.env.bus.held = false) :
    Returns reselect s := by
  have hfree : Ensures shutdown s fun _ s' => Alone s' := by
    refine ensures_shutdown (fun haway => ?_) fun howns => ?_
    · rw [haway] at h
      exact (h.resolve_left (by decide)).trans haway.symm
    · refine (calling_deselect s (calling_refl s)).mono fun _ s' hcalling => ⟨?_, rfl⟩
      exact hcalling.owns.trans howns
  refine (returns_shutdown s).bind (hfree.mono fun _ s₁ h₁ => ?_)
  refine (returns_obtain h₁).then fun _ s₂ => ?_
  refine (returns_device.then fun _ s₃ => returns_drive _ s₃).then fun _ s₃ => returns_readByte s₃

/-- **A frame that does not come back** is stuck. -/
theorem stuck_sendPlain (h : ¬Returns (sendPlain patience index argument) s) :
    Stuck patience index s := by
  by_cases hindex : index = Command.stopTransmission.index
  · refine absurd ?_ h
    unfold sendPlain
    rw [if_pos hindex]
    exact returns_exchangeFrame index argument s
  refine ⟨hindex, ?_⟩
  rw [sendPlain_eq hindex argument] at h
  by_cases hbus : s.device.owns = true ∨ s.env.bus.held = false
  · right
    obtain ⟨lead, s₁, hrun⟩ := returns_reselect hbus
    obtain ⟨-, hdid⟩ := did_reselect s lead s₁ hrun
    refine ⟨lead, s₁, hdid, fun hwait => h ?_⟩
    obtain ⟨r1, s', hrest⟩ : Returns (do
        if ← waitReady patience then exchangeFrame index argument else giveUp) s₁ := by
      refine hwait.then fun ready s₂ => ?_
      cases ready with
      | true => exact returns_exchangeFrame index argument s₂
      | false => exact returns_report.then fun _ s₃ => (returns_shutdown s₃).then fun _ _ => returns_pure
    exact ⟨r1, s', (bind_eq hrun).trans hrest⟩
  · left
    simpa using hbus

/-! ## Commands -/

/-- **A command is dispatched,** whatever it is. -/
theorem dispatched_send (command : Command) (argument : UInt32) (s : Session (Channel H) C) :
    Ensures (send patience command argument) s fun r1 s' => ∃ p,
      Dispatched command argument s.device.mask s.env.clock s.device.owns p ∧ Leads p r1 s s' := by
  unfold send
  cases happ : command.app with
  | false =>
    refine (conveyed_sendPlain command.index argument s).mono ?_
    rintro r1 s₁ ⟨p, hp, hleads⟩
    exact ⟨p, .plain happ hp, hleads⟩
  | true =>
    refine (conveyed_sendPlain Command.appNotice.index 0 s).bind ?_
    rintro notice s₁ ⟨p, hp, hleads⟩
    obtain rfl := hleads.answer
    split
    · rename_i hrefused
      exact ensures_pure ⟨p, .refused happ hp hrefused, hleads⟩
    · rename_i htaken
      refine (conveyed_sendPlain command.index argument s₁).mono ?_
      rintro r1 s₂ ⟨q, hq, hleads'⟩
      rw [hleads.did.mask, hleads.did.clock, hleads.owns] at hq
      exact ⟨p.then q, .announced happ hp (UInt8.not_lt.mp htaken) hq, hleads.trans hleads'⟩

/-- **A command that does not come back** is held up. -/
theorem heldUp_send {command : Command} (h : ¬Returns (send patience command argument) s) :
    HeldUp patience command s := by
  unfold send at h
  cases happ : command.app with
  | false =>
    rw [happ] at h
    refine .first ?_
    rw [happ]
    exact stuck_sendPlain h
  | true =>
    rw [happ] at h
    by_cases hnotice : Returns (sendPlain patience Command.appNotice.index 0) s
    · obtain ⟨r1, s₁, hrun⟩ := hnotice
      obtain ⟨p, hp, hleads⟩ := conveyed_sendPlain Command.appNotice.index 0 s r1 s₁ hrun
      have hrest : ¬Returns (if r1 > R1.idle then pure r1
          else sendPlain patience command.index argument : ChannelM H C UInt8) s₁ := by
        rintro ⟨r1', s', hrest⟩
        exact h ⟨r1', s', (bind_eq hrun).trans hrest⟩
      by_cases hrefused : r1 > R1.idle
      · rw [if_pos hrefused] at hrest
        exact absurd returns_pure hrest
      · rw [if_neg hrefused] at hrest
        exact .second happ hp hleads (UInt8.not_lt.mp hrefused) (stuck_sendPlain hrest)
    · refine .first ?_
      rw [happ]
      exact stuck_sendPlain hnotice

/-- On a clock that moves, no card is waited for without end. -/
theorem not_stuck (hclock : Moves 127 s.env.clock) (hpatience : 128 ≤ patience)
    (hbus : s.device.owns = true ∨ s.env.bus.held = false ∨
      index = Command.stopTransmission.index) : ¬Stuck patience index s := by
  rintro ⟨hindex, ⟨haway, hheld⟩ | ⟨lead, s₁, hdid, hwait⟩⟩
  · simp [haway, hheld, hindex] at hbus
  · have hclock₁ : Moves 127 s₁.env.clock := by
      rw [hdid.clock]
      exact hclock
    have hspan : Poll.span s₁.env.clock ≤ 128 := Nat.min_le_right _ 128
    exact hwait (answerable_of_moves hclock₁ (by omega)).waitReady

theorem returns_send_of_moves {command : Command} (hclock : Moves 127 s.env.clock)
    (hpatience : 128 ≤ patience)
    (hbus : s.device.owns = true ∨ s.env.bus.held = false ∨
      command.app = false ∧ command.index = Command.stopTransmission.index) :
    Returns (send patience command argument) s := by
  by_contra hback
  cases heldUp_send hback with
  | first h =>
    refine not_stuck hclock hpatience ?_ h
    refine hbus.imp_right (Or.imp_right ?_)
    rintro ⟨happ, hindex⟩
    rw [happ]
    exact hindex
  | second happ hnotice hleads htaken h =>
    obtain rfl := hleads.answer
    have howned := (hnotice.answered (R1.isAnswer_of_le htaken)).2 (.inl (by decide))
    refine not_stuck ?_ hpatience (.inl (hleads.owns.trans howned)) h
    rw [hleads.did.clock]
    exact hclock.ticked _

/-- **Every command,** whatever its code and argument, whatever the board does and however the clock goes:
    if it comes back, then all that was done is a passage, of which the frames go out in brackets and with
    an answer as `Dispatched` says, and the caller may rely on it as `Passage.Orderly` says. If it does not, it
    waits for a bus that is not given back or in front of a card for which the wait does not end, and no
    other frame went out than `HeldUp` says. On a clock that moves at every reading by less than half of its
    range it comes back, unless it has to take a bus that another device owns. -/
theorem sends_orderly (code : UInt8) (argument : UInt32) (s : Session (Channel H) C) :
    (∀ patience, Ensures (send patience (Command.ofCode code) argument) s fun r1 s' => ∃ p,
      Dispatched (Command.ofCode code) argument s.device.mask s.env.clock s.device.owns p ∧
        Leads p r1 s s' ∧ p.Orderly (Command.ofCode code) argument) ∧
    (∀ patience, ¬Returns (send patience (Command.ofCode code) argument) s →
      HeldUp patience (Command.ofCode code) s) ∧
    (Moves 127 s.env.clock →
      s.device.owns = true ∨ s.env.bus.held = false ∨ (Command.ofCode code).app = false ∧
        (Command.ofCode code).index = Command.stopTransmission.index →
      Terminates 128 (fun patience => send patience (Command.ofCode code) argument) s) := by
  refine ⟨fun patience => ?_, fun patience => heldUp_send, fun hclock hbus => ?_⟩
  · refine (dispatched_send _ argument s).mono ?_
    rintro r1 s' ⟨p, hp, hleads⟩
    exact ⟨p, hp, hleads, hp.orderly (Command.start_ofCode code)⟩
  · exact terminates_of_returns (returns_send_of_moves hclock (Nat.le_refl 128) hbus) fun _ hle =>
      (mirrors_send (parallel_lock kindred_eq) hle _ argument).follows

/-- The notice and the poll of a card that is busy in between, on a counter that wraps while it is waited
    for. -/
theorem sends_orderly_polling :
    let s : Session (Channel Script) Counter :=
      ⟨{ host := { queue := [0xFF, 0xFF, 0xFF, 0x01, 0x00, 0x00, 0xFF, 0xFF, 0xFF, 0x00] } },
        { clock := { value := 250, step := 7 } }⟩
    ∃ s' p, (∀ patience, 128 ≤ patience → send patience (.ofCode 0xA9) 0x40000000 s = some (0, s')) ∧
      Leads p 0 s s' ∧ p.frames.length ≤ 2 ∧ s'.device.owns = true := by
  intro s
  have hclock : Moves 127 s.env.clock := by
    intro n
    rw [advance_counter]
    exact ⟨by decide, by decide⟩
  obtain ⟨hdispatched, -, hends⟩ := sends_orderly 0xA9 0x40000000 s
  obtain ⟨⟨r1, s'⟩, hrun⟩ := hends hclock (.inr (.inl rfl))
  have hback : send 128 (.ofCode 0xA9) 0x40000000 s = some (r1, s') := hrun 128 (Nat.le_refl 128)
  have hready : (send 128 (.ofCode 0xA9) 0x40000000 s).map Prod.fst = some 0 := by decide +kernel
  rw [hback] at hready
  cases hready
  obtain ⟨p, -, hleads, horderly⟩ := hdispatched 128 _ s' hback
  refine ⟨s', p, hrun, hleads, horderly.few, ?_⟩
  rw [hleads.owns]
  refine horderly.owned ?_ (.inl rfl)
  rw [hleads.answer]
  decide

end ChannelM

end SpiDisk
