import SpiDisk.Proofs.Bus.Immediate

/-!
# `SpiDisk.Proofs.Bus.Parallel` — one operation in two sessions

Two sessions may differ in much that an operation never looks at. What it does look at is little: the bytes
that come in, whether the channel owns the bus, which line is its own, the rate of the clock, and by how
much the count moved between two readings. A relation between sessions that agree on these, and that the
operation cannot break, leads through the whole operation: it does the same in both.

This module states what such a relation has to stand and carries it through the operations of a channel.

## Contents
- **Pairs of runs.** `Mirrors` with one rule for each way in which operations are put together.
- **Shared means.** `Abreast`, what reports and readings of the clock may not break, up to
  `mirrors_pollUntil`.
- **Channels.** `Parallel`, what moving bytes, driving lines and ownership may not break either.
-/

namespace SpiDisk

/-! ## Pairs of runs -/

/-- The same deadline on a counter that is ahead by `lead`. -/
def Deadline.delayed (lead : UInt8) (deadline : Deadline) : Deadline :=
  ⟨deadline.due + lead⟩

/-- Differences of counts do not depend on where the counting began. -/
theorem lead_sub_lead (count start lead : UInt8) : count + lead - (start + lead) = count - start := by
  grind

theorem Deadline.reachedAt_delayed (lead : UInt8) (deadline : Deadline) (count : UInt8) :
    (deadline.delayed lead).reachedAt (count + lead) = deadline.reachedAt count := by
  show decide (count + lead - (deadline.due + lead) ≤ 127) = decide (count - deadline.due ≤ 127)
  rw [lead_sub_lead]

namespace SessionM

variable {D D' C C' α β : Type} {R : Session D C → Session D' C' → Prop}

/-- **Side by side.** What `action` does, `other` does from every session that matches: it comes back with
    the same result, in a session that matches again. -/
def Mirrors (R : Session D C → Session D' C' → Prop) (action : SessionM D C α)
    (other : SessionM D' C' α) : Prop :=
  ∀ s s', R s s' → ∀ a t, action s = some (a, t) → ∃ t', other s' = some (a, t') ∧ R t t'

theorem mirrors_pure (a : α) : Mirrors R (pure a) (pure a) := by
  intro s s' h b t hrun
  cases hrun
  exact ⟨s', rfl, h⟩

theorem Mirrors.bind {first : SessionM D C α} {first' : SessionM D' C' α}
    {next : α → SessionM D C β} {next' : α → SessionM D' C' β} (h : Mirrors R first first')
    (hnext : ∀ a, Mirrors R (next a) (next' a)) : Mirrors R (first >>= next) (first' >>= next') := by
  intro s s' hs b t hrun
  obtain ⟨a, s₁, hfirst, hrest⟩ := bind_eq_some_iff.mp hrun
  obtain ⟨s₁', hfirst', hs₁⟩ := h s s' hs a s₁ hfirst
  obtain ⟨t', hrest', ht⟩ := hnext a s₁ s₁' hs₁ b t hrest
  exact ⟨t', bind_eq_some_iff.mpr ⟨a, s₁', hfirst', hrest'⟩, ht⟩

theorem mirrors_never {other : SessionM D' C' α} : Mirrors R never other := by
  intro s s' h a t hrun
  cases hrun

/-- What is done behind a look at the device goes on from the two devices as they are. -/
theorem mirrors_device {next : D → SessionM D C α} {next' : D' → SessionM D' C' α}
    (h : ∀ s s', R s s' → ∀ a t, next s.device s = some (a, t) →
      ∃ t', next' s'.device s' = some (a, t') ∧ R t t') :
    Mirrors R (device >>= next) (device >>= next') :=
  h

/-- What is done with parts of two devices goes on with the devices put together again. -/
theorem Mirrors.within {B B' : Type} {Q : Session B C → Session B' C' → Prop} {part : B → D}
    {part' : B' → D'} {replace : B → D → B} {replace' : B' → D' → B'} {action : SessionM D C α}
    {other : SessionM D' C' α} (h : Mirrors R action other)
    (hpart : ∀ s s', Q s s' → R ⟨part s.device, s.env⟩ ⟨part' s'.device, s'.env⟩)
    (hwhole : ∀ s s' t t', Q s s' → R t t' →
      Q ⟨replace s.device t.device, t.env⟩ ⟨replace' s'.device t'.device, t'.env⟩) :
    Mirrors Q (SessionM.within part replace action) (SessionM.within part' replace' other) := by
  intro s s' hs a t hrun
  rw [within_apply] at hrun
  obtain ⟨⟨b, inner⟩, hinner, heq⟩ := Option.map_eq_some_iff.mp hrun
  cases heq
  obtain ⟨inner', hother, hR⟩ := h _ _ (hpart s s' hs) _ inner hinner
  exact ⟨_, within_eq hother, hwhole s s' inner inner' hs hR⟩

/-- Runs that lead from one another come back together. -/
theorem Mirrors.rel {R' : Session D' C' → Session D C → Prop} {action : SessionM D C α}
    {other : SessionM D' C' α} (h : Mirrors R action other) (h' : Mirrors R' other action)
    {s : Session D C} {s' : Session D' C'} (hs : R s s') (hs' : R' s' s) :
    Option.Rel (fun after after' => after.1 = after'.1 ∧ R after.2 after'.2) (action s) (other s') := by
  cases hrun : action s with
  | some after =>
    obtain ⟨t', hother, ht⟩ := h s s' hs after.1 after.2 hrun
    rw [hother]
    exact .some ⟨rfl, ht⟩
  | none =>
    cases hother : other s' with
    | none => exact .none
    | some after' =>
      obtain ⟨t, haction, -⟩ := h' s' s hs' after'.1 after'.2 hother
      rw [hrun] at haction
      cases haction

/-! ## Shared means -/

variable [TickSource C] [TickSource C']

/-- A relation that the same reports and readings of the clock do not break. The clocks have one rate, and
    the second is ahead by `lead`. -/
structure Abreast (lead : UInt8) (R : Session D C → Session D' C' → Prop) : Prop where
  log : ∀ {s s'} {N : Type} [Diagnostic N] (event : N), R s s' →
    R { s with env.log := s.env.log.report event } { s' with env.log := s'.env.log.report event }
  tick : ∀ {s s'}, R s s' →
    R { s with env.clock := (TickSource.now s.env.clock).2 }
      { s' with env.clock := (TickSource.now s'.env.clock).2 }
  count : ∀ {s s'}, R s s' →
    (TickSource.now s'.env.clock).1 = (TickSource.now s.env.clock).1 + lead
  frequency : ∀ {s s'}, R s s' →
    TickSource.frequency s'.env.clock = TickSource.frequency s.env.clock

variable {lead : UInt8} {patience patience' : Nat} (hR : Abreast lead R)
  (hpatience : patience ≤ patience')

include hR

theorem mirrors_report {N : Type} [Diagnostic N] (event : N) :
    Mirrors R (report event) (report event) := by
  intro s s' h a t hrun
  cases hrun
  exact ⟨_, rfl, hR.log event h⟩

/-- A deadline is set as far ahead in the second run as in the first. -/
theorem mirrors_startDeadline (ms : UInt32) {next : Deadline → SessionM D C α}
    {next' : Deadline → SessionM D' C' α}
    (hnext : ∀ deadline, Mirrors R (next deadline) (next' (deadline.delayed lead))) :
    Mirrors R (startDeadline ms >>= next) (startDeadline ms >>= next') := by
  intro s s' h a t hrun
  have hdue : (Deadline.start s'.env.clock ms).1 =
      (Deadline.start s.env.clock ms).1.delayed lead := by
    unfold Deadline.start Deadline.startTicks Deadline.delayed
    dsimp only
    rw [hR.count h, hR.frequency h, UInt8.add_assoc, UInt8.add_comm lead, ← UInt8.add_assoc]
  have hrest := hnext (Deadline.start s.env.clock ms).1 _ _ (hR.tick h) a t hrun
  rw [← hdue] at hrest
  exact hrest

theorem mirrors_hasPassed (deadline : Deadline) :
    Mirrors R (hasPassed deadline) (hasPassed (deadline.delayed lead)) := by
  intro s s' h a t hrun
  cases hrun
  refine ⟨_, ?_, hR.tick h⟩
  rw [hasPassed, act_apply, Deadline.passed]
  dsimp only
  rw [hR.count h, Deadline.reachedAt_delayed]
  rfl

include hpatience

/-- A wait that was over is over after as many readings. -/
theorem mirrors_waitFrom {s : Session D C} {s' : Session D' C'} (h : R s s') {start ticks : UInt8}
    {clock : C} (hrun : waitFrom start ticks patience s.env.clock = some clock) :
    ∃ clock', waitFrom (start + lead) ticks patience' s'.env.clock = some clock' ∧
      R { s with env.clock := clock } { s' with env.clock := clock' } := by
  induction patience generalizing patience' s s' with
  | zero => cases hrun
  | succ patience ih =>
    obtain ⟨more, rfl⟩ := Nat.exists_eq_add_of_le' (Nat.le_trans (Nat.le_add_left 1 _) hpatience)
    unfold waitFrom at hrun ⊢
    dsimp only at hrun ⊢
    rw [hR.count h, lead_sub_lead]
    split at hrun
    · rw [if_pos ‹_›]
      exact ih (Nat.le_of_succ_le_succ hpatience) (hR.tick h) hrun
    · cases hrun
      rw [if_neg ‹_›]
      exact ⟨_, rfl, hR.tick h⟩

theorem mirrors_waitMillis (ms : UInt32) :
    Mirrors R (waitMillis patience ms) (waitMillis patience' ms) := by
  intro s s' h a t hrun
  rw [waitMillis_apply] at hrun
  obtain ⟨clock, hwait, heq⟩ := Option.map_eq_some_iff.mp hrun
  cases heq
  obtain ⟨clock', hwait', ht⟩ := mirrors_waitFrom hR hpatience (hR.tick h) hwait
  refine ⟨_, ?_, ht⟩
  rw [waitMillis_apply]
  refine Option.map_eq_some_iff.mpr ⟨clock', ?_, rfl⟩
  unfold wait
  dsimp only
  rw [hR.count h, hR.frequency h]
  exact hwait'

/-- **Polling.** Both runs find the deadline passed behind the same attempt. -/
theorem mirrors_pollUntil (deadline : Deadline) {attempt : SessionM D C (Option α)}
    {attempt' : SessionM D' C' (Option α)} (hattempt : Mirrors R attempt attempt') :
    Mirrors R (pollUntil deadline attempt patience)
      (pollUntil (deadline.delayed lead) attempt' patience') := by
  induction patience generalizing patience' with
  | zero => exact mirrors_never
  | succ patience ih =>
    obtain ⟨more, rfl⟩ := Nat.exists_eq_add_of_le' (Nat.le_trans (Nat.le_add_left 1 _) hpatience)
    refine hattempt.bind ?_
    rintro (_ | value)
    · refine (mirrors_hasPassed hR deadline).bind fun passed => ?_
      cases passed with
      | true => exact mirrors_pure none
      | false => exact ih (Nat.le_of_succ_le_succ hpatience)
    · exact mirrors_pure (some value)

end SessionM

/-! ## Channels -/

namespace ChannelM

open SessionM CardEngine

variable {H H' C C' α β : Type} [Host H] [Host H'] [TickSource C] [TickSource C']
  {R : Session (Channel H) C → Session (Channel H') C' → Prop} {lead : UInt8}

/-- A relation between sessions of channels that nothing done on the bus breaks: bytes that go out or come
    in, the board's part in a selection, and taking the bus or giving it back. -/
structure Parallel (lead : UInt8) (R : Session (Channel H) C → Session (Channel H') C' → Prop) : Prop
    extends Abreast lead R where
  read : ∀ count, Mirrors R (read count) (read count)
  write : ∀ bytes, Mirrors R (write bytes) (write bytes)
  flush : Mirrors R (onDevice Channel.callFlush) (onDevice Channel.callFlush)
  drive : ∀ mask, Mirrors R (onDevice (Channel.callDrive mask)) (onDevice (Channel.callDrive mask))
  obtain : Mirrors R obtain obtain
  release : Mirrors R release release
  owns : ∀ {s s'}, R s s' → s'.device.owns = s.device.owns
  mask : ∀ {s s'}, R s s' → s'.device.mask = s.device.mask

variable (hR : Parallel lead R)

include hR

theorem mirrors_readByte : Mirrors R readByte readByte :=
  (hR.read 1).bind fun _ => mirrors_pure _

theorem mirrors_readWord : Mirrors R readWord readWord :=
  (hR.read 4).bind fun _ => mirrors_pure _

theorem mirrors_drive (mask : UInt8) : Mirrors R (drive mask) (drive mask) := by
  have hpins : ∀ faults : List Fault,
      Mirrors R (faults.forM fun fault => report (BusNote.pinFailed fault))
        (faults.forM fun fault => report (BusNote.pinFailed fault)) := by
    intro faults
    induction faults with
    | nil => exact mirrors_pure ()
    | cons fault rest ih => exact (mirrors_report hR.toAbreast _).bind fun _ => ih
  exact (hR.drive mask).bind fun _ => hpins _

theorem mirrors_select : Mirrors R select select := by
  refine mirrors_device fun s s' h => ?_
  rw [hR.mask h]
  exact mirrors_drive hR s.device.mask s s' h

theorem mirrors_deselect : Mirrors R deselect deselect := by
  have hrest : Mirrors R (do drive 0; write [idleByte]) (do drive 0; write [idleByte]) :=
    (mirrors_drive hR 0).bind fun _ => hR.write _
  refine hR.flush.bind ?_
  rintro (_ | fault)
  · exact hrest
  · exact (mirrors_report hR.toAbreast _).bind fun _ => hrest

theorem mirrors_shutdown : Mirrors R shutdown shutdown := by
  refine mirrors_device fun s s' h => ?_
  rw [hR.owns h]
  split
  · exact ((mirrors_deselect hR).bind fun _ => hR.release) s s' h
  · exact mirrors_pure () s s' h

end ChannelM

end SpiDisk
