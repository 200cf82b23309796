import SpiDisk.Proofs.Card.Tenure
import SpiDisk.Proofs.Disk.Course
import SpiDisk.Rack

/-!
# `SpiDisk.Proofs.Device` — what the operations of cards and disks keep

The operations of a card and of a disk, seen from the channel they go through. A bus invariant holds
of the channel after each of them, and where one stands that does not come back; and none that began
without the bus ends with it.

## Contents
- **Invariants.** `BindingInvariant`, which binding to a line keeps as well, and `DeviceInvariant`,
  which says nothing of lines.
- **Operations.** Bringing up, reading and writing, of a card and of a disk; `Disk.SameUnit`, what no
  transfer changes of a unit.
- **Transactions.** `Action.isTransaction`, the actions that are such an operation.
-/

namespace SpiDisk

namespace ChannelM

open SessionM CardEngine

variable {H C α : Type} [Host H] [TickSource C] {I : Session (Channel H) C → Prop}

/-- A bus invariant that a change of speed and a change of line keep as well. -/
structure DeviceInvariant (I : Session (Channel H) C → Prop) : Prop
    extends BusInvariant anyFrame I where
  speed : ∀ {s} speed, I s → I { s with device.speed := speed }
  binding : ∀ {s} line attached, I s →
    I { s with device.line := line, env.bus.attached := attached }

theorem DeviceInvariant.and {J : Session (Channel H) C → Prop} (hI : DeviceInvariant I)
    (hJ : DeviceInvariant J) : DeviceInvariant fun s => I s ∧ J s where
  toBusInvariant := hI.toBusInvariant.and hJ.toBusInvariant
  speed speed h := ⟨hI.speed speed h.1, hJ.speed speed h.2⟩
  binding line attached h := ⟨hI.binding line attached h.1, hJ.binding line attached h.2⟩

theorem DeviceInvariant.congr {J : Session (Channel H) C → Prop} (hI : DeviceInvariant I)
    (h : ∀ s, I s ↔ J s) : DeviceInvariant J :=
  (funext fun s => propext (h s) : I = J) ▸ hI

/-- Binding leaves a free bus free, and lets go of one that was owned before it changes lines. -/
theorem DeviceInvariant.ensures_bindTo (hI : DeviceInvariant I) (id : UInt8)
    {s : Session (Channel H) C} (h : I s) :
    Ensures (bindTo id) s fun _ s' =>
      I s' ∧ (s.device.owns = false → s'.device.owns = false) := by
  unfold bindTo
  cases Line.ofByte id with
  | error refusal => exact ensures_pure ⟨h, fun howns => howns⟩
  | ok line =>
    refine (hI.ensures_shutdown h).bind fun _ s₁ h₁ => ?_
    refine (keeps_rebind (J := fun s => I s ∧ s.device.owns = false)
      (fun line attached h => ⟨hI.binding line attached h.1, h.2⟩) line s₁ h₁).bind ?_
    rintro (refusal | _) s₂ h₂
    · exact ensures_pure ⟨h₂.1, fun _ => h₂.2⟩
    · refine ensures_bind (ensures_onDevice (ensures_bind (ensures_report ?_)))
      exact ensures_pure ⟨hI.log _ (hI.speed .slow h₂.1), fun _ => h₂.2⟩

/-- A bus invariant that a change of speed and binding to a line keep as well. -/
structure BindingInvariant (I : Session (Channel H) C → Prop) : Prop
    extends BusInvariant anyFrame I where
  speed : ∀ {s} speed, I s → I { s with device.speed := speed }
  bindTo : ∀ {s} id, I s → Ensures (bindTo id) s fun _ s' =>
    I s' ∧ (s.device.owns = false → s'.device.owns = false)

theorem BindingInvariant.keeps_setSpeed (hI : BindingInvariant I) (speed : Speed) :
    Keeps I (setSpeed speed) :=
  fun _ h => ensures_onDevice (hI.speed speed h)

theorem DeviceInvariant.toBinding (hI : DeviceInvariant I) : BindingInvariant I where
  toBusInvariant := hI.toBusInvariant
  speed := hI.speed
  bindTo id h := hI.ensures_bindTo id h

end ChannelM

/-- The session of a part of a device. -/
def Session.at {D E C : Type} (s : Session D C) (part : D → E) : Session E C :=
  ⟨part s.device, s.env⟩

namespace Card

open SessionM ChannelM

variable {H C α : Type} [Host H] [TickSource C] {I : Session (Channel H) C → Prop}

omit [Host H] [TickSource C] in
theorem ensures_onChannel {action : ChannelM H C α} {s : Session (Card H) C}
    {Q : α → Session (Channel H) C → Prop} (h : Ensures action (s.at Card.channel) Q) :
    Ensures (onChannel action) s fun a s' => Q a (s'.at Card.channel) :=
  ensures_within h

omit [Host H] [TickSource C] in
theorem throughout_onChannel {action : ChannelM H C α} {s : Session (Card H) C}
    {Q : α → Session (Channel H) C → Prop} (h : Throughout I action (s.at Card.channel) Q) :
    Throughout (fun t => I (t.at Card.channel)) (onChannel action) s
      fun a s' => Q a (s'.at Card.channel) :=
  throughout_within h

omit [Host H] [TickSource C] in
instance (action : ChannelM H C α) [h : Immediate action] : Immediate (onChannel action) :=
  ⟨fun _ => returns_within (h.returns _)⟩

omit [Host H] [TickSource C] in
instance (info : CardInfo) : Immediate (setInfo info : SessionM (Card H) C Unit) :=
  ⟨fun _ => returns_onDevice⟩

omit [Host H] [TickSource C] in
instance : Immediate (forget : SessionM (Card H) C Unit) :=
  ⟨fun _ => ⟨_, _, rfl⟩⟩

omit [Host H] [TickSource C] in
theorem ensures_forget {s : Session (Card H) C} {Q : Unit → Session (Card H) C → Prop}
    (h : Q () { s with device.info := {} }) : Ensures forget s Q := by
  intro a s' hrun
  cases hrun
  exact h

/-- Bringing a card up frees the bus, whatever came of it. The card's line stays the same, so that the
    invariant need not stand a change of lines. -/
theorem throughout_bringUp (hI : BusInvariant anyFrame I)
    (hspeed : ∀ {s : Session (Channel H) C} speed, I s → I { s with device.speed := speed })
    (patience : Nat) {s : Session (Card H) C} (h : I (s.at Card.channel)) :
    Throughout (fun t => I (t.at Card.channel)) (bringUp patience) s fun _ s' =>
      I (s'.at Card.channel) ∧ s'.device.channel.owns = false := by
  refine throughout_bind (ensures_forget ?_)
  refine throughout_bind (ensures_within (ensures_onDevice ?_))
  have h₁ := hspeed .slow h
  refine (throughout_onChannel (hI.upholds_identify patience _ h₁)).bind fun outcome s₂ h₂ => ?_
  refine (throughout_onChannel (hI.ensures_shutdown h₂).whole).bind fun _ s₃ h₃ => ?_
  cases outcome with
  | ok info =>
    refine throughout_bind (ensures_onDevice ?_)
    refine throughout_bind (ensures_within (ensures_onDevice ?_))
    refine throughout_bind (ensures_report (throughout_pure ?_))
    exact ⟨hI.log _ (hspeed .fast h₃.1), h₃.2⟩
  | error error => exact throughout_bind (ensures_report (throughout_pure ⟨hI.log _ h₃.1, h₃.2⟩))

omit [Host H] [TickSource C] in
/-- What goes through a card's channel changes nothing else of the card. -/
theorem info_onChannel (action : ChannelM H C α) (s : Session (Card H) C) :
    Ensures (onChannel action) s fun _ s' => s'.device.info = s.device.info :=
  ensures_within (ensures_any fun _ _ => rfl)

theorem info_read (patience : Nat) (lba : UInt32) (buffer : List UInt8) (s : Session (Card H) C) :
    Ensures (read patience lba buffer) s fun _ s' => s'.device.info = s.device.info :=
  ensures_bind (ensures_device (info_onChannel _ s))

theorem info_write (patience : Nat) (lba : UInt32) (bytes : List UInt8) (s : Session (Card H) C) :
    Ensures (write patience lba bytes) s fun _ s' => s'.device.info = s.device.info :=
  ensures_bind (ensures_device (info_onChannel _ s))

theorem throughout_read {F : List UInt8 → Prop} (hI : BusInvariant F I) (patience : Nat)
    {lba : UInt32} {buffer : List UInt8} {s : Session (Card H) C}
    (hframe : ∀ index address,
      s.device.info.runAddress lba (buffer.length / sectorSize) = .ok address →
        F (Command.frame index address)) (h : I (s.at Card.channel)) :
    Throughout (fun t => I (t.at Card.channel)) (read patience lba buffer) s fun _ s' =>
      I (s'.at Card.channel) ∧
        (s.device.channel.owns = false → s'.device.channel.owns = false) :=
  throughout_bind (ensures_device (throughout_onChannel (hI.throughout_readSectors patience hframe h)))

theorem throughout_write {F : List UInt8 → Prop} (hI : BusInvariant F I) (patience : Nat)
    {lba : UInt32} {bytes : List UInt8} {s : Session (Card H) C}
    (hframe : ∀ index address,
      s.device.info.runAddress lba (bytes.length / sectorSize) = .ok address →
        F (Command.frame index address)) (h : I (s.at Card.channel)) :
    Throughout (fun t => I (t.at Card.channel)) (write patience lba bytes) s fun _ s' =>
      I (s'.at Card.channel) ∧
        (s.device.channel.owns = false → s'.device.channel.owns = false) :=
  throughout_bind (ensures_device (throughout_onChannel (hI.throughout_writeSectors patience hframe h)))

end Card

namespace Disk

open SessionM ChannelM

variable {H C α : Type} [Host H] [TickSource C] {I : Session (Channel H) C → Prop}

/-- The channel of a disk's card. -/
abbrev channel (disk : Disk H) : Channel H :=
  disk.card.channel

omit [Host H] [TickSource C] in
theorem ensures_onCard {action : SessionM (Card H) C α} {s : Session (Disk H) C}
    {Q : α → Session (Card H) C → Prop} (h : Ensures action (s.at Disk.card) Q) :
    Ensures (onCard action) s fun a s' => Q a (s'.at Disk.card) :=
  ensures_within h

omit [Host H] [TickSource C] in
theorem throughout_onCard {J : Session (Card H) C → Prop} {action : SessionM (Card H) C α}
    {s : Session (Disk H) C} {Q : α → Session (Card H) C → Prop}
    (h : Throughout J action (s.at Disk.card) Q) :
    Throughout (fun t => J (t.at Disk.card)) (onCard action) s fun a s' => Q a (s'.at Disk.card) :=
  throughout_within h

omit [Host H] [TickSource C] in
instance (action : SessionM (Card H) C α) [h : Immediate action] : Immediate (onCard action) :=
  ⟨fun _ => returns_within (h.returns _)⟩

omit [Host H] [TickSource C] in
instance (geometry : Geometry) : Immediate (setGeometry geometry : SessionM (Disk H) C Unit) :=
  ⟨fun _ => returns_onDevice⟩

/-- Two states of a unit that differ in its channel at most. -/
structure SameUnit (disk disk' : Disk H) : Prop where
  info : disk'.card.info = disk.card.info
  number : disk'.number = disk.number
  wiredTo : disk'.wiredTo = disk.wiredTo
  geometry : disk'.geometry = disk.geometry

omit [Host H] [TickSource C] in
theorem SameUnit.of_eq {disk disk' : Disk H} (h : disk' = disk) : SameUnit disk disk' := by
  subst h
  exact ⟨rfl, rfl, rfl, rfl⟩

omit [Host H] [TickSource C] in
/-- What goes through the channel of a unit's card changes nothing else of the unit. -/
theorem same_onChannel {action : SessionM (Card H) C α} {s : Session (Disk H) C}
    (haction : Ensures action (s.at Disk.card) fun _ s' => s'.device.info = s.device.card.info) :
    Ensures (onCard action) s fun _ s' => SameUnit s.device s'.device :=
  ensures_within (haction.mono fun _ _ hinfo => ⟨hinfo, rfl, rfl, rfl⟩)

omit [Host H] [TickSource C] in
/-- With a card and a buffer that is long enough the answer is given. -/
theorem identify_present {buffer : List UInt16} {s : Session (Disk H) C}
    (hpresent : s.device.card.info.isPresent = true) (hlength : Identify.size ≤ buffer.length) :
    identify buffer s = some ((true, Identify.words s.device.card.info.cid s.device.geometry ++
      buffer.drop Identify.size), s) := by
  have hdevice : device s = some (s.device, s) := rfl
  rw [identify, bind_eq hdevice, hpresent, if_neg (by simp), if_neg (Nat.not_lt.mpr hlength)]
  rfl

omit [Host H] [TickSource C] in
/-- Without a card, or with a buffer that is too short, the buffer stays as it is. -/
theorem identify_refused {buffer : List UInt16} {s : Session (Disk H) C}
    (h : ¬ (s.device.card.info.isPresent = true ∧ Identify.size ≤ buffer.length)) :
    ∃ log, identify buffer s = some ((false, buffer), { s with env.log := log }) := by
  have hdevice : device s = some (s.device, s) := rfl
  rw [identify, bind_eq hdevice]
  cases hpresent : s.device.card.info.isPresent with
  | false => exact ⟨_, rfl⟩
  | true =>
    have hshort : buffer.length < Identify.size :=
      Nat.lt_of_not_le fun hlength => h ⟨hpresent, hlength⟩
    rw [if_neg (by simp), if_pos hshort]
    exact ⟨_, rfl⟩

omit [Host H] [TickSource C] in
/-- A unit describes itself without its card. -/
theorem quiet_identify (buffer : List UInt16) (s : Session (Disk H) C) :
    Ensures (identify buffer) s fun _ s' => ∃ log, s' = { s with env.log := log } := by
  intro result s' hrun
  by_cases hable : s.device.card.info.isPresent = true ∧ Identify.size ≤ buffer.length
  · rw [identify_present hable.1 hable.2] at hrun
    cases hrun
    exact ⟨_, rfl⟩
  · obtain ⟨log, hrefused⟩ := identify_refused hable
    rw [hrefused] at hrun
    cases hrun
    exact ⟨log, rfl⟩

/-- Reading changes nothing of a unit but its channel. -/
theorem same_read (patience : Nat) (lba count : UInt32) (buffer : List UInt8)
    (s : Session (Disk H) C) :
    Ensures (read patience lba count buffer) s fun _ s' => SameUnit s.device s'.device := by
  obtain ⟨next, hread, hnext⟩ := resumes_read (H := H) (C := C) patience lba count buffer
  rw [hread]
  refine hnext.ensures (fun _ _ _ => .of_eq rfl) ?_
  intro _
  exact same_onChannel (Card.info_read patience lba _ _)

/-- Writing changes nothing of a unit but its channel. -/
theorem same_write (patience : Nat) (lba count : UInt32) (buffer : List UInt8)
    (s : Session (Disk H) C) :
    Ensures (write patience lba count buffer) s fun _ s' => SameUnit s.device s'.device := by
  obtain ⟨next, hwrite, hnext⟩ := resumes_write (H := H) (C := C) patience lba count buffer
  rw [hwrite]
  refine hnext.ensures (fun _ _ _ => .of_eq rfl) ?_
  intro _
  exact same_onChannel (Card.info_write patience lba _ _)

/-- Bringing a disk up leaves a free bus free, whatever came of it, if binding to its line does. -/
theorem throughout_bringUp_of_bindTo (hI : BusInvariant anyFrame I)
    (hspeed : ∀ {s : Session (Channel H) C} speed, I s → I { s with device.speed := speed })
    (patience : Nat) {s : Session (Disk H) C}
    (hbind : ∀ s₁ : Session (Channel H) C, I s₁ → Ensures (bindTo s.device.wiredTo) s₁
      fun _ s₂ => I s₂ ∧ (s₁.device.owns = false → s₂.device.owns = false))
    (h : I (s.at channel)) :
    Throughout (fun t => I (t.at channel)) (bringUp patience) s fun _ s' =>
      I (s'.at channel) ∧ (s.device.channel.owns = false → s'.device.channel.owns = false) := by
  refine throughout_bind (ensures_device ?_)
  split
  · exact throughout_bind (ensures_report (throughout_pure ⟨hI.log _ h, id⟩))
  refine throughout_bind (ensures_onDevice ?_)
  refine throughout_bind (ensures_within (Card.ensures_forget ?_))
  refine Throughout.bind (Ensures.whole (ensures_onCard (Card.ensures_onChannel (hbind _ h)))) ?_
  rintro (error | _) s₁ h₁
  · exact throughout_bind (ensures_report (throughout_pure ⟨hI.log _ h₁.1, h₁.2⟩))
  refine (throughout_onCard (Card.throughout_bringUp hI hspeed patience h₁.1)).bind ?_
  rintro (error | _) s₂ h₂
  · exact throughout_bind (ensures_report (throughout_pure ⟨hI.log _ h₂.1, fun _ => h₂.2⟩))
  refine throughout_bind (ensures_device ?_)
  refine throughout_bind (ensures_onDevice ?_)
  exact throughout_bind (ensures_report (throughout_pure ⟨hI.log _ h₂.1, fun _ => h₂.2⟩))

theorem throughout_bringUp (hI : BindingInvariant I) (patience : Nat) {s : Session (Disk H) C}
    (h : I (s.at channel)) :
    Throughout (fun t => I (t.at channel)) (bringUp patience) s fun _ s' =>
      I (s'.at channel) ∧ (s.device.channel.owns = false → s'.device.channel.owns = false) :=
  throughout_bringUp_of_bindTo hI.toBusInvariant hI.speed patience (fun _ => hI.bindTo _) h

theorem throughout_read (hI : BusInvariant anyFrame I) (patience : Nat) (lba count : UInt32)
    (buffer : List UInt8) {s : Session (Disk H) C} (h : I (s.at channel)) :
    Throughout (fun t => I (t.at channel)) (read patience lba count buffer) s fun _ s' =>
      I (s'.at channel) ∧ (s.device.channel.owns = false → s'.device.channel.owns = false) := by
  obtain ⟨next, hread, hnext⟩ := resumes_read (H := H) (C := C) patience lba count buffer
  rw [hread]
  refine hnext.throughout (fun _ log _ => ⟨hI.log log h, id⟩) ?_
  intro _
  refine (throughout_onCard (Card.throughout_read hI patience (fun _ _ _ => trivial) h)).mono ?_
  exact fun _ s₁ h₁ => ⟨hI.log _ h₁.1, h₁.2⟩

theorem throughout_write (hI : BusInvariant anyFrame I) (patience : Nat) (lba count : UInt32)
    (buffer : List UInt8) {s : Session (Disk H) C} (h : I (s.at channel)) :
    Throughout (fun t => I (t.at channel)) (write patience lba count buffer) s fun _ s' =>
      I (s'.at channel) ∧ (s.device.channel.owns = false → s'.device.channel.owns = false) := by
  obtain ⟨next, hwrite, hnext⟩ := resumes_write (H := H) (C := C) patience lba count buffer
  rw [hwrite]
  refine hnext.throughout (fun _ log _ => ⟨hI.log log h, id⟩) ?_
  intro _
  refine (throughout_onCard (Card.throughout_write hI patience (fun _ _ _ => trivial) h)).mono ?_
  exact fun _ s₁ h₁ => ⟨hI.log _ h₁.1, h₁.2⟩

end Disk

/-! ## Transactions -/

namespace Device

variable {H : Type}

theorem link_setLink (device : Device H) (link : Channel H) : (device.setLink link).link = link := by
  cases device <;> rfl

theorem link_of_card {device : Device H} {card : Card H} (h : device.card? = some card) :
    device.link = card.channel := by
  cases device with
  | channel c => cases h
  | card c => cases h; rfl
  | disk d => cases h; rfl

theorem link_setCard {device : Device H} {card : Card H} (h : device.card? = some card)
    (replacement : Card H) : (device.setCard replacement).link = replacement.channel := by
  cases device with
  | channel c => cases h
  | card c => rfl
  | disk d => rfl

theorem link_of_disk {device : Device H} {disk : Disk H} (h : device.disk? = some disk) :
    device.link = disk.channel := by
  cases device with
  | disk d => cases h; rfl
  | _ => cases h

end Device

namespace Action

open SessionM ChannelM

variable {H C : Type} [Host H] [TickSource C] {I : Session (Channel H) C → Prop}

/-- What an action on a card does to the card's channel, it does to that of the device; a device without
    a card is left as it is. -/
theorem throughout_onCard {patience : Nat} {action : CardAction} {s : Session (Device H) C}
    {Q : Session (Channel H) C → Prop} (hnone : Q (s.at Device.link))
    (h : ∀ card, s.at Device.link = Session.at ⟨card, s.env⟩ Card.channel →
      Throughout (fun t => I (t.at Card.channel)) (action.run patience) ⟨card, s.env⟩
        fun _ s' => Q (s'.at Card.channel)) :
    Throughout (fun t => I (t.at Device.link)) ((onCard action).run patience) s
      fun _ s' => Q (s'.at Device.link) := by
  refine throughout_bind (ensures_device ?_)
  cases hcard : s.device.card? with
  | none => exact throughout_pure hnone
  | some card =>
    have hlink : s.at Device.link = Session.at ⟨card, s.env⟩ Card.channel := by
      unfold Session.at
      rw [Device.link_of_card hcard]
    have hwhole : ∀ inner : Session (Card H) C,
        Session.at ⟨s.device.setCard inner.device, inner.env⟩ Device.link = inner.at Card.channel := by
      intro inner
      unfold Session.at
      rw [Device.link_setCard hcard]
    refine throughout_within (((h card hlink).mono fun answer inner hinner => ?_).weaken ?_)
    · rw [hwhole]
      exact hinner
    · intro inner hinner
      rw [hwhole]
      exact hinner

/-- What an action on a disk does to the disk's channel, it does to that of the device. -/
theorem throughout_onDisk {patience : Nat} {action : DiskAction} {s : Session (Device H) C}
    {Q : Session (Channel H) C → Prop} (hnone : Q (s.at Device.link))
    (h : ∀ disk, s.at Device.link = Session.at ⟨disk, s.env⟩ Disk.channel →
      Throughout (fun t => I (t.at Disk.channel)) (action.run patience) ⟨disk, s.env⟩
        fun _ s' => Q (s'.at Disk.channel)) :
    Throughout (fun t => I (t.at Device.link)) ((onDisk action).run patience) s
      fun _ s' => Q (s'.at Device.link) := by
  refine throughout_bind (ensures_device ?_)
  cases hdisk : s.device.disk? with
  | none => exact throughout_pure hnone
  | some disk =>
    have hlink : s.at Device.link = Session.at ⟨disk, s.env⟩ Disk.channel := by
      unfold Session.at
      rw [Device.link_of_disk hdisk]
    exact throughout_within (h disk hlink)

theorem ensures_onCard {patience : Nat} {action : CardAction} {s : Session (Device H) C}
    {Q : Session (Channel H) C → Prop} (hnone : Q (s.at Device.link))
    (h : ∀ card, s.at Device.link = Session.at ⟨card, s.env⟩ Card.channel →
      Ensures (action.run patience) ⟨card, s.env⟩ fun _ s' => Q (s'.at Card.channel)) :
    Ensures ((onCard action).run patience) s fun _ s' => Q (s'.at Device.link) :=
  (throughout_onCard (I := fun _ => True) hnone fun card hlink => (h card hlink).anyhow).back

theorem ensures_onDisk {patience : Nat} {action : DiskAction} {s : Session (Device H) C}
    {Q : Session (Channel H) C → Prop} (hnone : Q (s.at Device.link))
    (h : ∀ disk, s.at Device.link = Session.at ⟨disk, s.env⟩ Disk.channel →
      Ensures (action.run patience) ⟨disk, s.env⟩ fun _ s' => Q (s'.at Disk.channel)) :
    Ensures ((onDisk action).run patience) s fun _ s' => Q (s'.at Device.link) :=
  (throughout_onDisk (I := fun _ => True) hnone fun disk hlink => (h disk hlink).anyhow).back

omit [Host H] [TickSource C] in
/-- Whether an action is a whole exchange with a card: bringing up, reading or writing. -/
def isTransaction : Action H → Bool
  | onCard .bringUp | onCard (.read ..) | onCard (.write ..) => true
  | onDisk .bringUp | onDisk (.read ..) | onDisk (.write ..) => true
  | _ => false

/-- What a unit does without its card changes nothing but the log. -/
theorem quiet_onDisk (patience : Nat) {action : DiskAction}
    (haction : (onDisk action : Action H).isTransaction = false) (s : Session (Disk H) C) :
    Ensures (action.run patience) s fun _ s' => ∃ log, s' = { s with env.log := log } := by
  cases action with
  | bringUp => cases haction
  | read lba count buffer => cases haction
  | write lba count bytes => cases haction
  | identify buffer =>
    exact (Disk.quiet_identify buffer s).bind fun _ _ hs' => ensures_pure hs'
  | setTransferMethod method => exact ensures_bind (ensures_report (ensures_pure ⟨_, rfl⟩))
  | setPioMode mode => exact ensures_bind (ensures_pure (ensures_pure ⟨_, rfl⟩))
  | describe => exact ensures_bind (ensures_device (ensures_pure ⟨_, rfl⟩))
  | packet request content => exact ensures_pure ⟨_, rfl⟩
  | presence present => exact ensures_pure ⟨_, rfl⟩

theorem throughout_cardTransaction (hI : BindingInvariant I) (patience : Nat) {action : CardAction}
    (haction : (onCard action : Action H).isTransaction = true) {s : Session (Card H) C}
    (h : I (s.at Card.channel)) :
    Throughout (fun t => I (t.at Card.channel)) (action.run patience) s fun _ s' =>
      I (s'.at Card.channel) ∧
      (s.device.channel.owns = false → s'.device.channel.owns = false) := by
  cases action with
  | bringUp =>
    have hup := Card.throughout_bringUp hI.toBusInvariant hI.speed patience h
    exact hup.bind fun _ _ hs' => throughout_pure ⟨hs'.1, fun _ => hs'.2⟩
  | read lba buffer =>
    exact (Card.throughout_read hI.toBusInvariant patience (fun _ _ _ => trivial) h).bind
      fun _ _ hs' => throughout_pure hs'
  | write lba bytes =>
    exact (Card.throughout_write hI.toBusInvariant patience (fun _ _ _ => trivial) h).bind
      fun _ _ hs' => throughout_pure hs'
  | _ => cases haction

theorem throughout_diskTransaction (hI : BindingInvariant I) (patience : Nat) {action : DiskAction}
    (haction : (onDisk action : Action H).isTransaction = true) {s : Session (Disk H) C}
    (h : I (s.at Disk.channel)) :
    Throughout (fun t => I (t.at Disk.channel)) (action.run patience) s fun _ s' =>
      I (s'.at Disk.channel) ∧
      (s.device.channel.owns = false → s'.device.channel.owns = false) := by
  cases action with
  | bringUp => exact (Disk.throughout_bringUp hI patience h).bind fun _ _ hs' => throughout_pure hs'
  | read lba count buffer =>
    exact (Disk.throughout_read hI.toBusInvariant patience lba count buffer h).bind
      fun _ _ hs' => throughout_pure hs'
  | write lba count bytes =>
    exact (Disk.throughout_write hI.toBusInvariant patience lba count bytes h).bind
      fun _ _ hs' => throughout_pure hs'
  | _ => cases haction

/-- A transaction keeps every binding invariant of the channel, and leaves a free bus free. -/
theorem throughout_transaction (hI : BindingInvariant I) (patience : Nat) {action : Action H}
    (haction : action.isTransaction = true) {s : Session (Device H) C}
    (h : I (s.at Device.link)) :
    Throughout (fun t => I (t.at Device.link)) (action.run patience) s fun _ s' =>
      I (s'.at Device.link) ∧ (s.device.link.owns = false → s'.device.link.owns = false) := by
  let Q : Session (Channel H) C → Prop := fun s' =>
    I s' ∧ (s.device.link.owns = false → s'.device.owns = false)
  cases action with
  | onChannel _ => cases haction
  | drop => cases haction
  | onCard action =>
    refine throughout_onCard (Q := Q) ⟨h, id⟩ fun card hlink => ?_
    have howns : s.device.link.owns = card.channel.owns := congrArg (fun s' => s'.device.owns) hlink
    rw [hlink] at h
    unfold Q
    rw [howns]
    exact throughout_cardTransaction hI patience haction h
  | onDisk action =>
    refine throughout_onDisk (Q := Q) ⟨h, id⟩ fun disk hlink => ?_
    have howns : s.device.link.owns = disk.channel.owns := congrArg (fun s' => s'.device.owns) hlink
    rw [hlink] at h
    unfold Q
    rw [howns]
    exact throughout_diskTransaction hI patience haction h

end Action

end SpiDisk
