import SpiDisk.Proofs.Card.Parallel
import SpiDisk.Rack

/-!
# `SpiDisk.Proofs.Lockstep` — one operation in two surroundings

An operation sees little of its surroundings: whether the bus is taken, the rate of the clock, and by
how much the count moved between two readings. Surroundings that agree on these cannot be told apart,
so that an operation does the same in both, call by call. More patience makes no difference either:
an operation that comes back does so after finitely many rounds, and it is the same for every patience
that is as large.

Both are the same statement about a pair of runs on one device, for any relation between surroundings
that the engine cannot break. Two channels that are the same in such surroundings run in parallel.

## Contents
- **Pairs of runs.** `Follows` with one rule for each way in which operations are put together, and
  `Kindred`, what a relation between surroundings has to stand.
- **Patience.** `kindred_eq` and `Follows.outcome`: an outcome that was reached is reached with more
  patience as well.
- **Channels.** `Lock`, which makes a relation between sessions of it, and `parallel_lock`, by which the
  engine follows.
- **Cards, disks.** One rule for each operation, up to `Disk.follows_read` and `Disk.follows_write`.
-/

namespace SpiDisk

/-! ## Pairs of runs -/

namespace SessionM

variable {D D' C C' α β : Type} {E : Env C → Env C' → Prop}

/-- What `action` does with a device in some surroundings, `other` does in all that match them: it
    comes back with the same result and the same device, in surroundings that match again. -/
def FollowsFrom (E : Env C → Env C' → Prop) (device : D) (action : SessionM D C α)
    (other : SessionM D C' α) : Prop :=
  ∀ env env', E env env' → ∀ a s, action ⟨device, env⟩ = some (a, s) →
    ∃ env'', other ⟨device, env'⟩ = some (a, ⟨s.device, env''⟩) ∧ E s.env env''

/-- **Lockstep.** What `action` does, `other` does in matching surroundings, with any device. -/
def Follows (E : Env C → Env C' → Prop) (action : SessionM D C α) (other : SessionM D C' α) : Prop :=
  ∀ device, FollowsFrom E device action other

/-- The same device in matching surroundings. -/
def Lock (E : Env C → Env C' → Prop) (s : Session D C) (s' : Session D C') : Prop :=
  s'.device = s.device ∧ E s.env s'.env

theorem Mirrors.follows {action : SessionM D C α} {other : SessionM D C' α}
    (h : Mirrors (Lock E) action other) : Follows E action other := by
  intro device env env' hE a s hrun
  obtain ⟨s', hother, hdevice, hE'⟩ := h ⟨device, env⟩ ⟨device, env'⟩ ⟨rfl, hE⟩ a s hrun
  rw [← hdevice]
  exact ⟨s'.env, hother, hE'⟩

theorem Follows.mirrors {action : SessionM D C α} {other : SessionM D C' α}
    (h : Follows E action other) : Mirrors (Lock E) action other := by
  rintro ⟨device, env⟩ ⟨device', env'⟩ ⟨hdevice, hE⟩ a t hrun
  obtain ⟨env'', hother, hE'⟩ := h device env env' hE a t hrun
  cases hdevice
  exact ⟨⟨t.device, env''⟩, hother, rfl, hE'⟩

theorem follows_pure (a : α) : Follows E (pure a : SessionM D C α) (pure a) :=
  (mirrors_pure a).follows

/-- Sequence, from a given device. -/
theorem FollowsFrom.bind {device : D} {first : SessionM D C α} {first' : SessionM D C' α}
    {next : α → SessionM D C β} {next' : α → SessionM D C' β} (h : FollowsFrom E device first first')
    (hnext : ∀ a, Follows E (next a) (next' a)) :
    FollowsFrom E device (first >>= next) (first' >>= next') := by
  intro env env' hE b s₂ hrun
  obtain ⟨a, s₁, hfirst, hrest⟩ := bind_eq_some_iff.mp hrun
  obtain ⟨env₁, hfirst', hE₁⟩ := h env env' hE a s₁ hfirst
  obtain ⟨env₂, hrest', hE₂⟩ := hnext a s₁.device s₁.env env₁ hE₁ b s₂ hrest
  exact ⟨env₂, bind_eq_some_iff.mpr ⟨_, _, hfirst', hrest'⟩, hE₂⟩

theorem Follows.bind {first : SessionM D C α} {first' : SessionM D C' α}
    {next : α → SessionM D C β} {next' : α → SessionM D C' β} (h : Follows E first first')
    (hnext : ∀ a, Follows E (next a) (next' a)) : Follows E (first >>= next) (first' >>= next') :=
  fun device => (h device).bind hnext

theorem follows_device : Follows E (device : SessionM D C D) device := by
  rintro device env env' hE _ _ ⟨⟩
  exact ⟨env', rfl, hE⟩

/-- What is done behind a look at the device depends on that device only. -/
theorem followsFrom_device {device : D} {next : D → SessionM D C α} {next' : D → SessionM D C' α}
    (h : FollowsFrom E device (next device) (next' device)) :
    FollowsFrom E device (SessionM.device >>= next) (SessionM.device >>= next') :=
  h

theorem follows_onDevice (change : D → α × D) :
    Follows E (onDevice change : SessionM D C α) (onDevice change) := by
  rintro device env env' hE _ _ ⟨⟩
  exact ⟨env', rfl, hE⟩

theorem Follows.within {action : SessionM D' C α} {other : SessionM D' C' α}
    (h : Follows E action other) (part : D → D') (replace : D → D' → D) :
    Follows E (SessionM.within part replace action) (SessionM.within part replace other) := by
  have hwithin : Mirrors (Lock E) (SessionM.within part replace action)
      (SessionM.within part replace other) := by
    refine h.mirrors.within ?_ ?_
    · intro s s' hs
      exact ⟨congrArg part hs.1, hs.2⟩
    · intro s s' t t' hs ht
      refine ⟨?_, ht.2⟩
      show replace s'.device t'.device = replace s.device t.device
      rw [hs.1, ht.1]
  exact hwithin.follows

/-! ### Surroundings -/

variable [TickSource C] [TickSource C']

/-- A relation that no operation breaks: the same reports, readings of the clock and changes of the
    token lead from matching surroundings to matching ones. The clocks have one rate, and the second
    is ahead by `lead`. -/
structure Kindred (lead : UInt8) (E : Env C → Env C' → Prop) : Prop where
  log : ∀ {env env'} {N : Type} [Diagnostic N] (event : N), E env env' →
    E { env with log := env.log.report event } { env' with log := env'.log.report event }
  tick : ∀ {env env'}, E env env' →
    E { env with clock := (TickSource.now env.clock).2 }
      { env' with clock := (TickSource.now env'.clock).2 }
  hold : ∀ {env env'} held, E env env' →
    E { env with bus.held := held } { env' with bus.held := held }
  held : ∀ {env env'}, E env env' → env.bus.held = env'.bus.held
  count : ∀ {env env'}, E env env' →
    (TickSource.now env'.clock).1 = (TickSource.now env.clock).1 + lead
  frequency : ∀ {env env'}, E env env' →
    TickSource.frequency env'.clock = TickSource.frequency env.clock

/-- Surroundings match themselves. -/
theorem kindred_eq : Kindred 0 (Eq : Env C → Env C → Prop) where
  log _ h := by rw [h]
  tick h := by rw [h]
  hold _ h := by rw [h]
  held h := by rw [h]
  count h := by rw [h, UInt8.add_zero]
  frequency h := by rw [h]

omit [TickSource C] [TickSource C'] in
/-- Where the surroundings are the same, so is the outcome. -/
theorem Follows.outcome {action other : SessionM D C α} (h : Follows Eq action other)
    {s : Session D C} {outcome : α × Session D C} (hrun : action s = some outcome) :
    other s = some outcome := by
  obtain ⟨env, hother, heq⟩ := h s.device s.env s.env rfl outcome.1 outcome.2 hrun
  rw [← heq] at hother
  exact hother

theorem abreast_lock {lead : UInt8} (hE : Kindred lead E) :
    Abreast lead (Lock E : Session D C → Session D C' → Prop) where
  log event h := ⟨h.1, hE.log event h.2⟩
  tick h := ⟨h.1, hE.tick h.2⟩
  count h := hE.count h.2
  frequency h := hE.frequency h.2

theorem follows_report {lead : UInt8} (hE : Kindred lead E) {N : Type} [Diagnostic N] (event : N) :
    Follows E (report event : SessionM D C Unit) (report event) :=
  (mirrors_report (abreast_lock hE) event).follows

end SessionM

/-! ## Channels -/

namespace ChannelM

open SessionM CardEngine

variable {H C C' α β : Type} [Host H] [TickSource C] [TickSource C'] {E : Env C → Env C' → Prop}
  {lead : UInt8} {patience patience' : Nat} (hE : Kindred lead E) (hpatience : patience ≤ patience')

section Bytes

include hE

theorem follows_shiftIn (count : Nat) :
    Follows E (shiftIn count : ChannelM H C (List UInt8)) (shiftIn count) := by
  refine (follows_onDevice _).bind ?_
  rintro ⟨bytes, _ | fault⟩
  · exact follows_pure bytes
  · exact (follows_report hE _).bind fun _ => follows_pure _

theorem follows_shiftOut (bytes : List UInt8) :
    Follows E (shiftOut bytes : ChannelM H C Unit) (shiftOut bytes) := by
  refine (follows_onDevice _).bind ?_
  rintro (_ | fault)
  · exact follows_pure ()
  · exact follows_report hE _

theorem follows_readPaced (count : Nat) :
    Follows E (readPaced count : ChannelM H C (List UInt8)) (readPaced count) := by
  induction count with
  | zero => exact follows_pure []
  | succ count ih =>
    refine (follows_shiftIn hE 1).bind fun byte => (follows_onDevice _).bind fun _ => ?_
    exact ih.bind fun rest => follows_pure (byte ++ rest)

theorem follows_writePaced (bytes : List UInt8) :
    Follows E (writePaced bytes : ChannelM H C Unit) (writePaced bytes) := by
  induction bytes with
  | nil => exact follows_pure ()
  | cons byte rest ih =>
    exact (follows_shiftOut hE [byte]).bind fun _ => (follows_onDevice _).bind fun _ => ih

theorem follows_read (count : Nat) :
    Follows E (read count : ChannelM H C (List UInt8)) (read count) := by
  refine follows_device.bind fun channel => ?_
  cases channel.speed with
  | fast => exact follows_shiftIn hE count
  | slow => exact follows_readPaced hE count

theorem follows_write (bytes : List UInt8) :
    Follows E (write bytes : ChannelM H C Unit) (write bytes) := by
  refine follows_device.bind fun channel => ?_
  cases channel.speed with
  | fast => exact follows_shiftOut hE bytes
  | slow => exact follows_writePaced hE bytes

end Bytes

/-! ### Ownership -/

section Ownership

include hE

omit [Host H] in
theorem follows_obtain : Follows E (obtain : ChannelM H C Unit) obtain := by
  intro channel env env' h a s hrun
  rw [obtain_apply] at hrun ⊢
  dsimp only at hrun ⊢
  rw [← hE.held h]
  split at hrun
  · cases hrun
    rw [if_pos ‹_›]
    exact ⟨env', rfl, h⟩
  · rw [if_neg ‹_›]
    split at hrun
    · cases hrun
    · cases hrun
      rw [if_neg ‹_›]
      exact ⟨_, rfl, hE.hold true h⟩

omit [Host H] in
theorem follows_release : Follows E (release : ChannelM H C Unit) release := by
  intro channel env env' h a s hrun
  rw [release_apply] at hrun ⊢
  dsimp only at hrun ⊢
  split at hrun
  · cases hrun
    rw [if_pos ‹_›]
    exact ⟨_, rfl, hE.hold false h⟩
  · cases hrun
    rw [if_neg ‹_›]
    exact ⟨env', rfl, h⟩

/-- Nothing done on the bus breaks the lock of two channels in matching surroundings. -/
theorem parallel_lock :
    Parallel lead (Lock E : Session (Channel H) C → Session (Channel H) C' → Prop) where
  toAbreast := abreast_lock hE
  read count := (follows_read hE count).mirrors
  write bytes := (follows_write hE bytes).mirrors
  flush := (follows_onDevice _).mirrors
  drive _ := (follows_onDevice _).mirrors
  obtain := (follows_obtain hE).mirrors
  release := (follows_release hE).mirrors
  owns h := congrArg Channel.owns h.1
  mask h := congrArg Channel.mask h.1

end Ownership

end ChannelM

/-! ## Cards -/

namespace Card

open SessionM ChannelM

variable {H C C' : Type} [Host H] [TickSource C] [TickSource C'] {E : Env C → Env C' → Prop}
  {lead : UInt8} {patience patience' : Nat} (hE : Kindred lead E) (hpatience : patience ≤ patience')

omit [Host H] [TickSource C] [TickSource C'] in
theorem follows_onChannel {α : Type} {action : ChannelM H C α} {other : ChannelM H C' α}
    (h : Follows E action other) : Follows E (onChannel action) (onChannel other) :=
  h.within _ _

omit [Host H] [TickSource C] [TickSource C'] in
theorem follows_setInfo (info : CardInfo) :
    Follows E (setInfo info : SessionM (Card H) C Unit) (setInfo info) :=
  follows_onDevice _

omit [Host H] [TickSource C] [TickSource C'] in
theorem follows_setSpeed (speed : Speed) :
    Follows E (onChannel (setSpeed speed) : SessionM (Card H) C Unit) (onChannel (setSpeed speed)) :=
  follows_onChannel (follows_onDevice _)

include hE hpatience

theorem follows_bringUp :
    Follows E (bringUp patience : SessionM (Card H) C (Except CardError Unit))
      (bringUp patience') := by
  refine (follows_setInfo {}).bind fun _ => (follows_setSpeed .slow).bind fun _ => ?_
  have hidentify := mirrors_identify (parallel_lock (H := H) hE) hpatience
  have hshutdown := mirrors_shutdown (parallel_lock (H := H) hE)
  refine (follows_onChannel hidentify.follows).bind fun outcome => ?_
  refine (follows_onChannel hshutdown.follows).bind fun _ => ?_
  cases outcome with
  | ok info =>
    refine (follows_setInfo info).bind fun _ => (follows_setSpeed .fast).bind fun _ => ?_
    exact (follows_report hE _).bind fun _ => follows_pure _
  | error error => exact (follows_report hE _).bind fun _ => follows_pure _

theorem follows_read (lba : UInt32) (buffer : List UInt8) :
    Follows E (read patience lba buffer : SessionM (Card H) C (Except CardError Unit × List UInt8))
      (read patience' lba buffer) := by
  refine follows_device.bind fun card => ?_
  exact (mirrors_readSectors (parallel_lock hE) hpatience card.info lba buffer).follows.within _ _

theorem follows_write (lba : UInt32) (bytes : List UInt8) :
    Follows E (write patience lba bytes : SessionM (Card H) C (Except CardError Unit))
      (write patience' lba bytes) := by
  refine follows_device.bind fun card => ?_
  exact (mirrors_writeSectors (parallel_lock hE) hpatience card.info lba bytes).follows.within _ _

end Card

/-! ## Disks -/

namespace ChannelM

open SessionM

variable {H C C' : Type} [Host H] [TickSource C] [TickSource C'] {E : Env C → Env C' → Prop}
  {lead : UInt8}

omit [Host H] [TickSource C] [TickSource C'] in
theorem follows_rebind {line : Line} (hunbind : Follows E (unbind : ChannelM H C Unit) unbind)
    (htake : Follows E (take line : ChannelM H C (Except BusError Unit)) (take line)) :
    Follows E (rebind line : ChannelM H C (Except BusError Unit)) (rebind line) := by
  refine follows_device.bind fun channel => ?_
  split
  · exact follows_pure _
  · exact hunbind.bind fun _ => htake

/-- Binding follows if giving up a line and taking the line in question do. -/
theorem follows_bindTo (hE : Kindred lead E) {id : UInt8}
    (hunbind : Follows E (unbind : ChannelM H C Unit) unbind)
    (htake : ∀ line, Line.ofByte id = .ok line →
      Follows E (take line : ChannelM H C (Except BusError Unit)) (take line)) :
    Follows E (bindTo id : ChannelM H C (Except BusError Unit)) (bindTo id) := by
  unfold bindTo
  cases hline : Line.ofByte id with
  | error refusal => exact follows_pure _
  | ok line =>
    refine (mirrors_shutdown (parallel_lock hE)).follows.bind fun _ => ?_
    refine (follows_rebind hunbind (htake line hline)).bind ?_
    rintro (refusal | _)
    · exact follows_pure _
    · exact (follows_onDevice _).bind fun _ => (follows_report hE _).bind fun _ => follows_pure _

end ChannelM

namespace Disk

open SessionM ChannelM

variable {H C C' α : Type} [Host H] [TickSource C] [TickSource C'] {E : Env C → Env C' → Prop}
  {lead : UInt8} {patience patience' : Nat} (hE : Kindred lead E) (hpatience : patience ≤ patience')

omit [Host H] [TickSource C] [TickSource C'] in
theorem follows_onCard {action : SessionM (Card H) C α} {other : SessionM (Card H) C' α}
    (h : Follows E action other) : Follows E (onCard action) (onCard other) :=
  h.within _ _

include hE

omit [Host H] in
theorem follows_transferLength (available : Nat) (count : UInt32) :
    Follows E (transferLength available count : SessionM (Disk H) C (Except DiskError Nat))
      (transferLength available count) := by
  refine follows_device.bind fun disk => ?_
  split
  · exact follows_pure _
  dsimp only
  split
  · exact follows_pure _
  · exact (follows_report hE _).bind fun _ => follows_pure _

omit [Host H] in
theorem follows_identify (buffer : List UInt16) :
    Follows E (identify buffer : SessionM (Disk H) C (Bool × List UInt16)) (identify buffer) := by
  refine follows_device.bind fun disk => ?_
  split
  · exact (follows_report hE _).bind fun _ => follows_pure _
  split
  · exact (follows_report hE _).bind fun _ => follows_pure _
  · exact follows_pure _

include hpatience

/-- Bringing up follows for a disk whose line may be taken in both runs. -/
theorem follows_bringUp {disk : Disk H}
    (hbind : Follows E (bindTo disk.wiredTo : ChannelM H C (Except BusError Unit))
      (bindTo disk.wiredTo)) :
    FollowsFrom E disk (bringUp patience : SessionM (Disk H) C Bool) (bringUp patience') := by
  refine followsFrom_device ?_
  split
  · exact ((follows_report hE _).bind fun _ => follows_pure _) disk
  refine Follows.bind (follows_onDevice _) (fun _ => ?_) disk
  refine (follows_onCard (Card.follows_setInfo {})).bind fun _ => ?_
  refine (follows_onCard (Card.follows_onChannel hbind)).bind ?_
  rintro (error | _)
  · exact (follows_report hE _).bind fun _ => follows_pure _
  refine (follows_onCard (Card.follows_bringUp hE hpatience)).bind ?_
  rintro (error | _)
  · exact (follows_report hE _).bind fun _ => follows_pure _
  refine follows_device.bind fun disk => Follows.bind (follows_onDevice _) fun _ => ?_
  exact (follows_report hE _).bind fun _ => follows_pure _

theorem follows_read (lba count : UInt32) (buffer : List UInt8) :
    Follows E (read patience lba count buffer :
      SessionM (Disk H) C (Except DiskError Unit × List UInt8)) (read patience' lba count buffer) := by
  refine (follows_transferLength hE _ count).bind ?_
  rintro (error | length)
  · exact follows_pure _
  dsimp only
  split
  · exact follows_pure _
  refine (follows_onCard (Card.follows_read hE hpatience lba _)).bind ?_
  rintro ⟨error | _, front⟩
  · exact (follows_report hE _).bind fun _ => follows_pure _
  · exact follows_pure _

theorem follows_write (lba count : UInt32) (buffer : List UInt8) :
    Follows E (write patience lba count buffer : SessionM (Disk H) C (Except DiskError Unit))
      (write patience' lba count buffer) := by
  refine (follows_transferLength hE _ count).bind ?_
  rintro (error | length)
  · exact follows_pure _
  dsimp only
  split
  · exact follows_pure _
  refine (follows_onCard (Card.follows_write hE hpatience lba _)).bind ?_
  rintro (error | _)
  · exact (follows_report hE _).bind fun _ => follows_pure _
  · exact follows_pure _

end Disk

/-- Every action on a disk follows, if its line may be taken in both runs. -/
theorem DiskAction.follows_run {H C C' : Type} [Host H] [TickSource C] [TickSource C']
    {E : Env C → Env C' → Prop} {lead : UInt8} {patience patience' : Nat}
    (hE : SessionM.Kindred lead E) (hpatience : patience ≤ patience') {disk : Disk H}
    (hbind : SessionM.Follows E (ChannelM.bindTo disk.wiredTo : ChannelM H C (Except BusError Unit))
      (ChannelM.bindTo disk.wiredTo)) (action : DiskAction) :
    SessionM.FollowsFrom E disk (action.run patience : SessionM (Disk H) C Answer)
      (action.run patience') := by
  open SessionM in
  cases action with
  | bringUp =>
    exact (Disk.follows_bringUp hE hpatience hbind).bind fun _ => follows_pure _
  | identify buffer => exact ((Disk.follows_identify hE buffer).bind fun _ => follows_pure _) disk
  | read lba count buffer =>
    exact ((Disk.follows_read hE hpatience lba count buffer).bind fun _ => follows_pure _) disk
  | write lba count bytes =>
    exact ((Disk.follows_write hE hpatience lba count bytes).bind fun _ => follows_pure _) disk
  | setTransferMethod method => exact ((follows_report hE _).bind fun _ => follows_pure _) disk
  | setPioMode mode => exact ((follows_pure _).bind fun _ => follows_pure _) disk
  | describe => exact (follows_device.bind fun _ => follows_pure _) disk
  | packet request content => exact follows_pure _ disk
  | presence present => exact follows_pure _ disk

end SpiDisk
