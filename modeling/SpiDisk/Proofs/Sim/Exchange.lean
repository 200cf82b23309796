import SpiDisk.Proofs.Sim.Board
import SpiDisk.Proofs.Tick.Counter

/-!
# `SpiDisk.Proofs.Sim.Exchange` — commands to a simulated card on a clean board

What waiting, selecting and sending a command come to when the card is a simulated one and nothing
fails. A wait is over with the first byte that is waited for, unless the clock runs out before.

## Contents
- **Waiting.** `clean_pollByte`, `Patient`, a clock that does not run out too early, and
  `clean_pollByte_first`.
- **Selecting.** `clean_waitReady`, `sim_shutdown`; `sim_selectCard`, by which a selection comes to what
  its wait comes to, and `clean_selectCard`.
- **Commands.** `clean_exchangeFrame`, `clean_exchangeStop`, `clean_sendPlain`.
-/

namespace SpiDisk

namespace ChannelM

open SessionM CardEngine

variable {H C : Type} [CardBoard H] [TickSource C]

/-! ## Waiting -/

/-- **Waiting for a byte.** Every byte before the one that is waited for was not it; and if the wait
    is given up, the deadline had passed at the reading of the clock behind the last byte. -/
theorem clean_pollByte {α : Type} (accept : UInt8 → Option α) {deadline : Deadline}
    (patience : Nat) {s : Session (Channel H) C} (h : s.Clean) :
    Ensures (pollUntil deadline (do
        let byte ← readByte
        pure (accept byte)) patience) s fun result s' =>
      ∃ count, Moved count s s' ∧ (∀ earlier < count, accept (s.sim.heard earlier) = none) ∧
        match result with
        | some value =>
          accept (s.sim.heard count) = some value ∧ s'.sim = s.sim.after (count + 1)
        | none =>
          s'.sim = s.sim.after count ∧ ∃ last, count = last + 1 ∧
            deadline.reachedAt (TickSource.now (ticked last s.env.clock)).1 = true := by
  refine ensures_pollUntil (P := fun s' => ∃ count, Moved count s s' ∧
    s'.sim = s.sim.after count ∧ ∀ earlier < count, accept (s.sim.heard earlier) = none) ?_
    patience ⟨0, Moved.refl s, rfl, fun _ hno => nomatch hno⟩
  rintro s₁ ⟨count, hmoved₁, hsim₁, hearlier⟩
  refine (clean_readByte (hmoved₁.clean h)).bind fun byte s₂ ⟨hheard, hsim₂, hmoved₂⟩ => ?_
  rw [hsim₁] at hheard hsim₂
  have hmoved : Moved count s s₂ := hmoved₁.trans hmoved₂
  refine ensures_pure ?_
  cases haccept : accept byte with
  | some value =>
    refine ⟨count, hmoved, hearlier, ?_, ?_⟩
    · rw [SimCard.heard, ← hheard, haccept]
    · rw [hsim₂, SimCard.after_succ]
  | none =>
    -- one more byte was rejected, and the clock is read before the next
    have hnext : Moved (count + 1) s
        { s₂ with env.clock := (TickSource.now s₂.env.clock).2 } := hmoved.tick
    have hsim : Session.sim { s₂ with env.clock := (TickSource.now s₂.env.clock).2 } =
        s.sim.after (count + 1) := by
      rw [SimCard.after_succ, ← hsim₂]
      rfl
    have hall : ∀ earlier < count + 1, accept (s.sim.heard earlier) = none := by
      intro earlier hlt
      rcases Nat.lt_succ_iff_lt_or_eq.mp hlt with hlt | rfl
      · exact hearlier earlier hlt
      · rw [SimCard.heard, ← hheard, haccept]
    dsimp only
    split
    · rename_i hpassed
      rw [hmoved.clock] at hpassed
      exact ⟨count + 1, hnext, hall, hsim, count, rfl, hpassed⟩
    · exact ⟨count + 1, hnext, hsim, hall⟩

omit [CardBoard H] in
/-- A clock on which a deadline for data has not passed at any of the first `limit` looks. -/
def Patient (limit : Nat) (clock : C) : Prop :=
  ∀ look < limit,
    (Deadline.start clock dataTimeout).1.reachedAt (TickSource.now (ticked (look + 1) clock)).1 = false

omit [CardBoard H] in
theorem patient_zero (clock : C) : Patient 0 clock :=
  fun _ hno => nomatch hno

omit [CardBoard H] in
theorem Patient.mono {few many : Nat} {clock : C} (h : Patient many clock) (hle : few ≤ many) :
    Patient few clock :=
  fun look hlt => h look (Nat.lt_of_lt_of_le hlt hle)

omit [CardBoard H] in
/-- A clock that is patient finds a deadline to have passed only behind its looks. -/
theorem Patient.le_of_late {limit last : Nat} {clock : C} (h : Patient limit clock)
    (hlate : (Deadline.start clock dataTimeout).1.reachedAt
      (TickSource.now (ticked last (ticked 1 clock))).1 = true) : limit ≤ last := by
  refine Nat.le_of_not_lt fun hlt => ?_
  rw [← ticked_add, Nat.add_comm, h last hlt] at hlate
  cases hlate

/-- A counter that moves one tick with every reading is patient for a tick less than the deadline is
    ahead. -/
theorem patient_counter {clock : Counter} (hstep : clock.step = 1)
    (hrate : clock.rate = defaultFrequency) : Patient 29 clock := by
  intro look hlt
  have hticks : (min (ticksOfMillis dataTimeout clock.rate) horizon).toNat = 30 := by
    rw [hrate]
    decide
  have helapsed := (elapsed_start hstep dataTimeout).ticked look
  rw [hticks] at helapsed
  have hlook : SessionM.ticked look (TickSource.now clock).2 = ticked (look + 1) clock := by
    rw [Nat.add_comm, ticked_add]
    rfl
  rw [hlook] at helapsed
  exact (helapsed.reachedAt (by decide) (by omega)).trans (decide_eq_false (by omega))

/-- A byte that comes behind others that are not waited for is found, unless the clock runs out before. -/
theorem clean_pollByte_first {α : Type} (accept : UInt8 → Option α) {limit : Nat} {value : α}
    {clock : C} (patience : Nat) {s : Session (Channel H) C} (h : s.Clean)
    (hclock : s.env.clock = ticked 1 clock)
    (hearlier : ∀ earlier < limit, accept (s.sim.heard earlier) = none)
    (hfound : accept (s.sim.heard limit) = some value) :
    Ensures (pollUntil (Deadline.start clock dataTimeout).1 (do
        let byte ← readByte
        pure (accept byte)) patience) s fun result s' =>
      (∃ readings, Moved readings s s') ∧
        (result = some value ∧ s'.sim = s.sim.after (limit + 1) ∧ Moved limit s s' ∨
          result = none ∧ ¬ Patient limit clock) := by
  refine (clean_pollByte accept patience h).mono ?_
  rintro (_ | other) s' ⟨count, hmoved, hrejected, hend⟩
  · obtain ⟨-, last, rfl, hpassed⟩ := hend
    -- all bytes up to the last were rejected, so that it came before the one that is waited for
    have hlast : last < limit := by
      refine Nat.lt_of_not_le fun hge => ?_
      rw [hrejected limit (by omega)] at hfound
      cases hfound
    refine ⟨⟨_, hmoved⟩, .inr ⟨rfl, fun hpatient => ?_⟩⟩
    rw [hclock] at hpassed
    exact absurd (hpatient.le_of_late hpassed) (Nat.not_le.mpr hlast)
  · obtain ⟨haccepted, hsim⟩ := hend
    rcases Nat.lt_trichotomy count limit with hlt | rfl | hgt
    · rw [hearlier count hlt] at haccepted
      cases haccepted
    · rw [haccepted] at hfound
      exact ⟨⟨_, hmoved⟩, .inl ⟨hfound, hsim, hmoved⟩⟩
    · rw [hrejected limit hgt] at hfound
      cases hfound

/-! ## Selecting -/

/-- Waiting for a card that is only busy: it is found ready when it is no longer busy, and given up
    only if that takes too long. -/
theorem clean_waitReady (patience : Nat) {s : Session (Channel H) C} (h : s.Clean)
    (hselected : s.sim.selected = true) (hout : s.sim.out = []) (hstream : s.sim.stream = none) :
    Ensures (waitReady patience) s fun ready s' =>
      (∃ readings, Moved readings s s') ∧
        (ready = true → s'.sim = s.sim.waiting (.bytes 0)) ∧
        (ready = false → (∃ done, s'.sim = s.sim.waiting (s.sim.busy.less done)) ∧
          ∀ limit, s.sim.busy = .bytes limit → ¬ Patient limit s.env.clock) := by
  have hafter := SimCard.after_of_waiting hselected hout hstream
  have hheard := SimCard.heard_of_waiting hselected hout hstream
  refine ensures_bind (ensures_startDeadline ?_)
  -- the deadline starts with one reading of the clock
  have hstart : Moved 1 s { s with env.clock := (TickSource.now s.env.clock).2 } :=
    (Moved.refl s).tick
  refine (clean_pollByte (fun byte => if byte = idleByte then some () else none) patience
    (hstart.clean h)).bind ?_
  rintro (_ | _) s₁ ⟨count, hmoved, hrejected, hend⟩
  · obtain ⟨hsim, last, rfl, hpassed⟩ := hend
    refine ensures_pure ⟨⟨_, hstart.trans hmoved⟩, by rintro ⟨⟩, fun _ => ⟨?_, ?_⟩⟩
    · exact ⟨last + 1, hsim.trans (hafter _)⟩
    · intro limit hbusy hpatient
      have hlast : last < limit := by
        refine Nat.lt_of_not_le fun hge => ?_
        have hidle : s.sim.heard last = idleByte := by
          rw [hheard, hbusy, Busy.less, Nat.sub_eq_zero_of_le hge]
        have hno : (if s.sim.heard last = idleByte then some () else none) = none :=
          hrejected last (Nat.lt_succ_self last)
        rw [if_pos hidle] at hno
        cases hno
      exact absurd (hpatient.le_of_late hpassed) (Nat.not_le.mpr hlast)
  · obtain ⟨haccepted, hsim⟩ := hend
    refine ensures_pure ⟨⟨_, hstart.trans hmoved⟩, fun _ => ?_, by rintro ⟨⟩⟩
    have hidle : s.sim.heard count = idleByte := by
      by_cases hidle : s.sim.heard count = idleByte
      · exact hidle
      · have haccepted : (if s.sim.heard count = idleByte then some () else none) = some () :=
          haccepted
        rw [if_neg hidle] at haccepted
        cases haccepted
    have hready := (hheard count).mp hidle
    refine hsim.trans ((hafter _).trans ?_)
    rw [← SimCard.less_less, hready]
    rfl

/-- Shutting down puts the card at rest, on any board. -/
theorem sim_shutdown {s : Session (Channel H) C} (h : Settled s) :
    Ensures shutdown s fun _ s' =>
      s'.sim = s.sim.rested ∧ s'.device.owns = false ∧ s'.env.clock = s.env.clock ∧ Served s s' := by
  refine ensures_shutdown (fun haway => ⟨(h haway).symm, haway, rfl, Served.refl s⟩) fun howns => ?_
  refine (sim_deselect s).mono fun _ s₁ ⟨hsim, hmoved⟩ => ?_
  exact ⟨hmoved.owns.trans howns, hsim, rfl, hmoved.clock, hmoved.line, hmoved.speed,
    ⟨0, hmoved.clock⟩, hmoved.clean⟩

/-- Taking the bus is nothing to the card. -/
theorem sim_obtain (s : Session (Channel H) C) :
    Ensures obtain s fun _ s' => s'.device.owns = true ∧ s'.sim = s.sim ∧
      s'.env.clock = s.env.clock ∧ Served s s' := by
  refine ensures_obtain (fun howns => ⟨howns, rfl, rfl, Served.refl s⟩) fun _ _ => ?_
  exact ⟨rfl, rfl, rfl, rfl, rfl, ⟨0, rfl⟩, id⟩

/-- The bus is taken, and the card was woken from rest: it is selected, and the dummy byte behind the
    selection is one that a busy card has pulled low. -/
structure Woken (s s' : Session (Channel H) C) : Prop where
  served : Served s s'
  owns : s'.device.owns = true
  clock : s'.env.clock = s.env.clock
  sim : s'.sim = { s.sim with selected := true, busy := s.sim.busy.less 1 }
  /-- So far the selection keeps whatever the engine keeps. -/
  kept : ∀ {J : Session (Channel H) C → Prop}, BusInvariant anyFrame J → J s → J s'

/-- **Selecting** a card at rest is waking it and waiting for it: what every such wait comes to, the
    selection does. A card that was not found ready is put at rest again. -/
theorem sim_selectCard (patience : Nat) {s : Session (Channel H) C} (hline : s.device.line ≠ none)
    (hrested : s.sim.rested = s.sim) {R : Bool → Session (Channel H) C → Prop}
    (hwait : ∀ s₁, Woken s s₁ → Ensures (waitReady patience) s₁ R) :
    Ensures (selectCard patience) s fun ready s' => s'.device.owns = ready ∧
      (ready = true → R true s') ∧
      (ready = false → ∃ s₁, R false s₁ ∧ s'.sim = s₁.sim.rested ∧ s'.env.clock = s₁.env.clock ∧
        Served s₁ s') := by
  have hout : s.sim.out = [] := by rw [← hrested]; rfl
  have hstream : s.sim.stream = none := by rw [← hrested]; rfl
  have hkept₁ : Ensures obtain s fun _ s₁ => ∀ {J : Session (Channel H) C → Prop},
      BusInvariant anyFrame J → J s → J s₁ ∧ s₁.device.owns = true :=
    fun _ s₁ hrun _ hJ h => hJ.ensures_obtain h _ s₁ hrun
  refine ((sim_obtain s).and hkept₁).bind ?_
  rintro _ s₁ ⟨⟨howns₁, hsim₁, hclock₁, hserved₁⟩, hkept₁⟩
  have hkept₂ : Ensures select s₁ fun _ s₂ => ∀ {J : Session (Channel H) C → Prop},
      BusInvariant anyFrame J → J s₁ ∧ s₁.device.owns = true → J s₂ ∧ s₂.device.owns = true :=
    fun _ s₂ hrun _ hJ h => hJ.keeps_select s₁ h _ s₂ hrun
  rw [← hserved₁.line] at hline
  refine ((sim_select hline).and hkept₂).bind ?_
  rintro _ s₂ ⟨⟨hsim₂, hmoved₂⟩, hkept₂⟩
  rw [hsim₁] at hsim₂
  have hkept₃ : Ensures readByte s₂ fun _ s₃ => ∀ {J : Session (Channel H) C → Prop},
      BusInvariant anyFrame J → J s₂ ∧ s₂.device.owns = true → J s₃ ∧ s₃.device.owns = true :=
    fun _ s₃ hrun _ hJ h => keeps_readByte hJ.timed.toSteady s₂ h _ s₃ hrun
  refine ((sim_readByte s₂).and hkept₃).bind ?_
  rintro _ s₃ ⟨⟨-, hsim₃, hmoved₃⟩, hkept₃⟩
  have hmoved : Moved 0 s₁ s₃ := hmoved₂.trans hmoved₃
  rw [SimCard.next_of_waiting (by rw [hsim₂]) (by rw [hsim₂]; exact hout)
    (by rw [hsim₂]; exact hstream), hsim₂] at hsim₃
  have hwoken : Woken s s₃ :=
    ⟨hserved₁.trans hmoved.served, hmoved.owns.trans howns₁, hmoved.clock.trans hclock₁, hsim₃,
      fun hJ h => (hkept₃ hJ (hkept₂ hJ (hkept₁ hJ h))).1⟩
  refine ((hwait s₃ hwoken).and (upholds_waitReady (owned_timed (F := anyFrame) true) patience s₃
    hwoken.owns).back).bind ?_
  rintro (_ | _) s₄ ⟨hR, howns₄⟩
  · refine (sim_report _ s₄).bind fun _ s₅ ⟨hsim₅, hmoved₅⟩ => ?_
    have hsettled₅ : Settled s₅ := by
      intro haway
      rw [hmoved₅.owns, howns₄] at haway
      cases haway
    refine (sim_shutdown hsettled₅).bind fun _ s₆ ⟨hsim₆, haway, hclock₆, hserved₆⟩ => ?_
    rw [hsim₅] at hsim₆
    exact ensures_pure ⟨haway, nofun, fun _ =>
      ⟨s₄, hR, hsim₆, hclock₆.trans hmoved₅.clock, hmoved₅.served.trans hserved₆⟩⟩
  · exact ensures_pure ⟨howns₄, fun _ => hR, nofun⟩

/-- On a clean board the card listens as soon as it is not busy; one that stays busy for too long is left
    alone again. -/
theorem clean_selectCard (patience : Nat) {s : Session (Channel H) C} (h : s.Clean)
    (hline : s.device.line ≠ none) (hrested : s.sim.rested = s.sim) :
    Ensures (selectCard patience) s fun ready s' =>
      Served s s' ∧ s'.device.owns = ready ∧
        (ready = true → s'.sim = s.sim.listening) ∧
        (ready = false → (∃ done, s'.sim = s.sim.waiting (s.sim.busy.less done)) ∧
          ∀ limit, s.sim.busy = .bytes limit → ¬ Patient limit s.env.clock) := by
  have hout : s.sim.out = [] := by rw [← hrested]; rfl
  have hstream : s.sim.stream = none := by rw [← hrested]; rfl
  refine (sim_selectCard (R := fun ready s₁ => Served s s₁ ∧
    (ready = true → s₁.sim = s.sim.listening) ∧
    (ready = false → (∃ done, s₁.sim.rested = s.sim.rested.waiting (s.sim.busy.less done)) ∧
      ∀ limit, s.sim.busy = .bytes limit → ¬ Patient limit s.env.clock))
    patience hline hrested ?_).mono ?_
  · intro s₁ hwoken
    have hbusy : s₁.sim.busy = s.sim.busy.less 1 := by rw [hwoken.sim]
    refine (clean_waitReady patience (hwoken.served.clean h) (by rw [hwoken.sim])
      (by rw [hwoken.sim]; exact hout) (by rw [hwoken.sim]; exact hstream)).mono ?_
    rintro ready s₂ ⟨⟨readings, hmoved₂⟩, hready, hlate⟩
    refine ⟨hwoken.served.trans hmoved₂.served, fun hyes => ?_, fun hno => ?_⟩
    · rw [hready hyes, hwoken.sim]
      rfl
    · obtain ⟨⟨done, hsim₂⟩, hlate⟩ := hlate hno
      -- the wait goes on where the dummy byte has left it
      refine ⟨⟨1 + done, ?_⟩, fun limit hlimit hpatient => ?_⟩
      · rw [hsim₂, hbusy, hwoken.sim, SimCard.less_less]
        rfl
      · refine hlate (limit - 1) (by rw [hbusy, hlimit]; rfl) ?_
        rw [hwoken.clock]
        exact hpatient.mono (Nat.sub_le limit 1)
  · rintro (_ | _) s₂ ⟨howns₂, hready, hrest⟩
    · obtain ⟨s₁, ⟨hserved₁, -, hlate⟩, hsim₂, -, hserved₂⟩ := hrest rfl
      obtain ⟨⟨done, hsim₁⟩, hlate⟩ := hlate rfl
      rw [hsim₁, hrested] at hsim₂
      exact ⟨hserved₁.trans hserved₂, howns₂, nofun, fun _ => ⟨⟨done, hsim₂⟩, hlate⟩⟩
    · obtain ⟨hserved₁, hlistening, -⟩ := hready rfl
      exact ⟨hserved₁, howns₂, hlistening, nofun⟩

/-! ## Commands -/

theorem clean_awaitResponse (polls : Nat) {s : Session (Channel H) C} (h : s.Clean) :
    Ensures (awaitResponse polls) s fun r1 s' =>
      (r1, s'.sim) = s.sim.poll polls ∧ Moved 0 s s' := by
  induction polls generalizing s with
  | zero => exact ensures_pure ⟨rfl, Moved.refl s⟩
  | succ polls ih =>
    refine (clean_readByte h).bind ?_
    rintro byte s₁ ⟨hbyte, hsim₁, hmoved₁⟩
    have hnext : (byte, s₁.sim) = s.sim.next := by rw [hbyte, hsim₁]
    rw [SimCard.poll, ← hnext]
    dsimp only
    split
    · exact ensures_pure ⟨rfl, hmoved₁⟩
    · split
      · exact ensures_pure ⟨rfl, hmoved₁⟩
      · refine (ih (hmoved₁.clean h)).mono ?_
        rintro r1 s₂ ⟨hpoll, hmoved₂⟩
        exact ⟨hpoll, hmoved₁.trans hmoved₂⟩

/-- A frame, and the first byte behind it that is an answer. -/
theorem clean_exchangeFrame {index : UInt8} (hindex : index ≠ Command.stopTransmission.index)
    (argument : UInt32) {s : Session (Channel H) C} (h : s.Clean) :
    Ensures (exchangeFrame index argument) s fun r1 s' =>
      (r1, s'.sim) = (s.sim.receiveMany (Command.frame index argument)).core.poll responsePolls ∧
        Moved 0 s s' := by
  refine (sim_report _ s).bind fun _ s₁ ⟨hsim₁, hmoved₁⟩ => ?_
  refine (clean_write _ (hmoved₁.clean h)).bind fun _ s₂ ⟨hsim₂, hmoved₂⟩ => ?_
  rw [if_neg hindex]
  refine (clean_awaitResponse _ (hmoved₂.clean (hmoved₁.clean h))).mono
    fun r1 s₃ ⟨hpoll, hmoved₃⟩ => ?_
  rw [hsim₂, hsim₁] at hpoll
  exact ⟨hpoll, hmoved₁.trans (hmoved₂.trans hmoved₃)⟩

/-- The stop command, and the first answer behind the byte that means nothing. -/
theorem clean_exchangeStop (argument : UInt32) {s : Session (Channel H) C} (h : s.Clean) :
    Ensures (exchangeFrame Command.stopTransmission.index argument) s fun r1 s' =>
      (r1, s'.sim) = (s.sim.receiveMany
        (Command.frame Command.stopTransmission.index argument)).core.next.2.poll responsePolls ∧
        Moved 0 s s' := by
  refine (sim_report _ s).bind fun _ s₁ ⟨hsim₁, hmoved₁⟩ => ?_
  refine (clean_write _ (hmoved₁.clean h)).bind fun _ s₂ ⟨hsim₂, hmoved₂⟩ => ?_
  rw [if_pos rfl]
  have hclean := hmoved₂.clean (hmoved₁.clean h)
  refine (clean_readByte hclean).bind fun _ s₃ ⟨_, hsim₃, hmoved₃⟩ => ?_
  refine (clean_awaitResponse _ (hmoved₃.clean hclean)).mono fun r1 s₄ ⟨hpoll, hmoved₄⟩ => ?_
  rw [hsim₃, hsim₂, hsim₁] at hpoll
  exact ⟨hpoll, hmoved₁.trans (hmoved₂.trans (hmoved₃.trans hmoved₄))⟩

/-- **A command in brackets of its own** reaches a card that listens, or nothing comes of it because
    the card stayed busy for too long. -/
theorem clean_sendPlain (patience : Nat) {index : UInt8}
    (hindex : index ≠ Command.stopTransmission.index) (hstart : (0x40 ||| index) &&& 0xC0 = 0x40)
    (argument : UInt32) {s : Session (Channel H) C} (h : s.Clean) (hline : s.device.line ≠ none)
    (hsettled : Settled s) :
    Ensures (sendPlain patience index argument) s fun r1 s' =>
      Served s s' ∧
        (s'.device.owns = true ∧ (r1, s'.sim) =
            (s.sim.rested.listening.accept (Command.frame index argument)).core.poll responsePolls ∨
          s'.device.owns = false ∧ r1 = idleByte ∧
            (∃ done, s'.sim = s.sim.rested.waiting (s.sim.busy.less done)) ∧
            ∀ limit, s.sim.busy = .bytes limit → ¬ Patient limit s.env.clock) := by
  unfold sendPlain
  rw [if_neg hindex]
  refine (sim_shutdown hsettled).bind fun _ s₁ ⟨hsim₁, _, hclock₁, hserved₁⟩ => ?_
  have hrested : s₁.sim.rested = s₁.sim := by rw [hsim₁]; rfl
  have hbusy : s₁.sim.busy = s.sim.busy := by rw [hsim₁]; rfl
  rw [← hserved₁.line] at hline
  refine (clean_selectCard patience (hserved₁.clean h) hline hrested).bind ?_
  rintro (_ | _) s₂ ⟨hserved₂, howns, hready, hlate⟩
  · obtain ⟨⟨done, hsim₂⟩, hlate⟩ := hlate rfl
    rw [hbusy, hclock₁] at hlate
    refine ensures_pure ⟨hserved₁.trans hserved₂, .inr ⟨howns, rfl, ⟨done, ?_⟩, hlate⟩⟩
    rw [hsim₂, hbusy, hsim₁]
  · refine (clean_exchangeFrame hindex argument (hserved₂.clean (hserved₁.clean h))).mono
      fun r1 s₃ ⟨hpoll, hmoved₃⟩ => ⟨hserved₁.trans (hserved₂.trans hmoved₃.served), .inl ⟨?_, ?_⟩⟩
    · rw [hmoved₃.owns, howns]
    · rw [hready rfl, hsim₁, SimCard.receiveMany_frame rfl rfl hstart] at hpoll
      exact hpoll

end ChannelM

end SpiDisk
