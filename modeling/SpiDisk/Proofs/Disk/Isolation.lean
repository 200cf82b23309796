import SpiDisk.Proofs.Bus.Registry
import SpiDisk.Proofs.Lockstep

/-!
# `SpiDisk.Proofs.Disk.Isolation` — units that do not notice each other

Units on one controller share the token, the register of lines and the clock. Each operation of a unit
hands the token back, changes the register for its own line only, and depends on the clock only through
how far it moved. So a unit comes to the same whether or not other units were used in between, and
whatever the clock showed when it was used.

What a unit needs of its surroundings is said by `Alike`, a relation that the engine cannot break, and
what it leaves behind by `Moored`, an invariant of its channel. The two meet in `Twin`: two racks that
a unit cannot tell apart. Its own actions lead from such racks to such racks (`Twin.act`), and so do
actions of the other units in one of the two (`Twin.skip`).

## Contents
- **One unit.** `Alike` with `alike_bindTo`, `Moored` with `moored_run`.
- **Racks of units.** `Apart` and `Twin`.
- **Runs.** `Rack.performAll` and `Rack.performAll_apart`.
-/

namespace SpiDisk

/-! ## One unit -/

namespace ChannelM

open SessionM CardEngine

variable {H : Type} {lead id : UInt8}

/-- Surroundings that are alike to a unit wired to `id`: the token is out in both or in neither, the
    unit's own line is bound in both or in neither, and the clocks go the same pace. -/
structure Alike (lead id : UInt8) (env env' : Env Counter) : Prop where
  held : env.bus.held = env'.bus.held
  single : env.bus.attached.Nodup
  single' : env'.bus.attached.Nodup
  own : ∀ line, Line.ofByte id = .ok line → (line ∈ env.bus.attached ↔ line ∈ env'.bus.attached)
  value : env'.clock.value = env.clock.value + lead
  step : env'.clock.step = env.clock.step
  rate : env'.clock.rate = env.clock.rate

theorem alike_kindred : Kindred lead (Alike lead id) where
  log _ h := ⟨h.held, h.single, h.single', h.own, h.value, h.step, h.rate⟩
  tick {env env'} h := by
    refine ⟨h.held, h.single, h.single', h.own, ?_, h.step, h.rate⟩
    show env'.clock.value + env'.clock.step = env.clock.value + env.clock.step + lead
    rw [h.value, h.step, UInt8.add_assoc, UInt8.add_comm lead, ← UInt8.add_assoc]
  hold _ h := ⟨rfl, h.single, h.single', h.own, h.value, h.step, h.rate⟩
  held h := h.held
  count h := h.value
  frequency h := h.rate

theorem alike_unbind :
    Follows (Alike lead id) (unbind : ChannelM H Counter Unit) unbind := by
  intro channel env env' h a s hrun
  rw [unbind, act_apply] at hrun ⊢
  dsimp only at hrun ⊢
  split at hrun
  · cases hrun
    exact ⟨env', rfl, h⟩
  · rename_i line _
    cases hrun
    refine ⟨_, rfl, h.held, Arbiter.nodup_detach h.single line, Arbiter.nodup_detach h.single' line,
      fun other hother => ?_, h.value, h.step, h.rate⟩
    rw [Arbiter.mem_attached_detach, Arbiter.mem_attached_detach, h.own other hother]

/-- The unit's own line is refused in both surroundings or granted in both. -/
theorem alike_take {line : Line} (hline : Line.ofByte id = .ok line) :
    Follows (Alike lead id) (take line : ChannelM H Counter (Except BusError Unit)) (take line) := by
  intro channel env env' h a s hrun
  rw [take, act_apply] at hrun ⊢
  dsimp only at hrun ⊢
  rw [Arbiter.attach_eq h.single] at hrun
  rw [Arbiter.attach_eq h.single']
  by_cases hbound : line ∈ env.bus.attached
  · rw [if_pos hbound] at hrun
    rw [if_pos ((h.own line hline).mp hbound)]
    cases hrun
    exact ⟨env', rfl, h⟩
  · have hbound' : line ∉ env'.bus.attached := fun hmem => hbound ((h.own line hline).mpr hmem)
    rw [if_neg hbound] at hrun
    rw [if_neg hbound']
    cases hrun
    refine ⟨_, rfl, h.held, Arbiter.nodup_append h.single hbound,
      Arbiter.nodup_append h.single' hbound', fun other hother => ?_, h.value, h.step, h.rate⟩
    rw [List.mem_append, List.mem_append, h.own other hother]

variable [Host H]

theorem alike_bindTo :
    Follows (Alike lead id) (bindTo id : ChannelM H Counter (Except BusError Unit)) (bindTo id) :=
  follows_bindTo alike_kindred alike_unbind fun _ => alike_take

/-! ### What a unit leaves behind -/

/-- A channel that is bound to the line that `id` names, if to any. Other lines are bound as they are
    in `env`, and the clock goes the pace that it has there. -/
structure Moored (id : UInt8) (env : Env Counter) (s : Session (Channel H) Counter) : Prop where
  alone : Alone s
  line : ∀ line, s.device.line = some line → Line.ofByte id = .ok line
  single : s.env.bus.attached.Nodup
  others : ∀ line, Line.ofByte id ≠ .ok line →
    (line ∈ s.env.bus.attached ↔ line ∈ env.bus.attached)
  step : s.env.clock.step = env.clock.step
  rate : s.env.clock.rate = env.clock.rate

variable {env : Env Counter}

theorem moored_invariant :
    BusInvariant anyFrame (Moored id env : Session (Channel H) Counter → Prop) where
  harmless _ _ := trivial
  log _ h := ⟨h.alone, h.line, h.single, h.others, h.step, h.rate⟩
  tick h := ⟨h.alone, h.line, h.single, h.others, h.step, h.rate⟩
  bytes := steady_owned (fun _ h => ⟨h.alone, h.line, h.single, h.others, h.step, h.rate⟩)
    (fun _ _ h => ⟨h.alone, h.line, h.single, h.others, h.step, h.rate⟩)
    (fun _ _ _ h => ⟨h.alone, h.line, h.single, h.others, h.step, h.rate⟩)
    fun _ _ h => ⟨h.alone, h.line, h.single, h.others, h.step, h.rate⟩
  callFlush _ h := ⟨h.alone, h.line, h.single, h.others, h.step, h.rate⟩
  callDrive _ _ h := ⟨h.alone, h.line, h.single, h.others, h.step, h.rate⟩
  took _ _ h := ⟨rfl, h.line, h.single, h.others, h.step, h.rate⟩
  closed {s s'} _ h hrun := by
    obtain ⟨log, rfl⟩ := reaches_deselect s () s' hrun
    refine ⟨rfl, fun line hline => h.line line ?_, h.single, h.others, h.step, h.rate⟩
    rw [← s.device.parted_kept.1]
    exact hline

omit [Host H] in
theorem moored_speed {s : Session (Channel H) Counter} (speed : Speed) (h : Moored id env s) :
    Moored id env { s with device.speed := speed } :=
  ⟨h.alone, h.line, h.single, h.others, h.step, h.rate⟩

omit [Host H] in
/-- Giving up a line frees none but the unit's own. -/
theorem moored_unbind {s : Session (Channel H) Counter} (h : Moored id env s) :
    Ensures unbind s fun _ s' => Moored id env s' ∧ s'.device.owns = s.device.owns := by
  refine ensures_unbind (fun _ => ⟨h, rfl⟩) fun line hline => ?_
  refine ⟨⟨h.alone, nofun, Arbiter.nodup_detach h.single line,
    fun other hother => ?_, h.step, h.rate⟩, rfl⟩
  have hne : other ≠ line := fun heq => hother (heq ▸ h.line line hline)
  rw [Arbiter.mem_attached_detach, and_iff_left hne]
  exact h.others other hother

omit [Host H] in
theorem moored_take {s : Session (Channel H) Counter} (h : Moored id env s) {line : Line}
    (hline : Line.ofByte id = .ok line) :
    Ensures (take line) s fun _ s' => Moored id env s' ∧ s'.device.owns = s.device.owns := by
  refine ensures_take_single h.single (fun _ => ⟨h, rfl⟩) fun hfree => ?_
  refine ⟨⟨h.alone, fun _ hbound => ?_, Arbiter.nodup_append h.single hfree,
    fun other hother => ?_, h.step, h.rate⟩, rfl⟩
  · cases hbound
    exact hline
  · have hne : other ≠ line := fun heq => hother (heq ▸ hline)
    show other ∈ s.env.bus.attached ++ [line] ↔ _
    rw [List.mem_append, List.mem_singleton, or_iff_left hne]
    exact h.others other hother

omit [Host H] in
theorem moored_rebind {s : Session (Channel H) Counter} (h : Moored id env s) {line : Line}
    (hline : Line.ofByte id = .ok line) :
    Ensures (rebind line) s fun _ s' => Moored id env s' ∧ s'.device.owns = s.device.owns := by
  refine ensures_bind (ensures_device ?_)
  split
  · exact ensures_pure ⟨h, rfl⟩
  · refine (moored_unbind h).bind fun _ s₁ h₁ => (moored_take h₁.1 hline).mono fun _ s₂ h₂ => ?_
    exact ⟨h₂.1, h₂.2.trans h₁.2⟩

theorem moored_bindTo (s : Session (Channel H) Counter) (h : Moored id env s) :
    Ensures (bindTo id) s fun _ s' =>
      Moored id env s' ∧ (s.device.owns = false → s'.device.owns = false) := by
  unfold bindTo
  cases hline : Line.ofByte id with
  | error refusal => exact ensures_pure ⟨h, fun howns => howns⟩
  | ok line =>
    refine (moored_invariant.ensures_shutdown h).bind fun _ s₁ h₁ => ?_
    refine (moored_rebind h₁.1 hline).bind ?_
    rintro (refusal | _) s₂ ⟨h₂, howns⟩
    · exact ensures_pure ⟨h₂, fun _ => howns.trans h₁.2⟩
    · refine ensures_bind (ensures_onDevice (ensures_bind (ensures_report ?_)))
      exact ensures_pure
        ⟨moored_invariant.log _ (moored_speed .slow h₂), fun _ => howns.trans h₁.2⟩

end ChannelM

namespace Disk

open SessionM ChannelM

variable {H C α : Type} {wiredTo : UInt8}

/-! ### The wiring -/

theorem wired_report {N : Type} [Diagnostic N] (event : N) {s : Session (Disk H) C}
    (h : s.device.wiredTo = wiredTo) :
    Ensures (report event) s fun _ s' => s'.device.wiredTo = wiredTo :=
  ensures_report h

theorem wired_setGeometry (geometry : Geometry) {s : Session (Disk H) C}
    (h : s.device.wiredTo = wiredTo) :
    Ensures (setGeometry geometry) s fun _ s' => s'.device.wiredTo = wiredTo :=
  ensures_onDevice h

theorem wired_onCard (action : SessionM (Card H) C α) {s : Session (Disk H) C}
    (h : s.device.wiredTo = wiredTo) :
    Ensures (onCard action) s fun _ s' => s'.device.wiredTo = wiredTo :=
  ensures_within (ensures_any fun _ _ => h)

variable [Host H] [TickSource C]

theorem wired_bringUp (patience : Nat) {s : Session (Disk H) C} (h : s.device.wiredTo = wiredTo) :
    Ensures (bringUp patience) s fun _ s' => s'.device.wiredTo = wiredTo := by
  refine ensures_bind (ensures_device ?_)
  split
  · exact (wired_report _ h).bind fun _ _ h₁ => ensures_pure h₁
  refine (wired_setGeometry {} h).bind fun _ s₁ h₁ => (wired_onCard _ h₁).bind fun _ s₂ h₂ => ?_
  refine (wired_onCard _ h₂).bind ?_
  rintro (error | _) s₃ h₃
  · exact (wired_report _ h₃).bind fun _ _ h₄ => ensures_pure h₄
  refine (wired_onCard _ h₃).bind ?_
  rintro (error | _) s₄ h₄
  · exact (wired_report _ h₄).bind fun _ _ h₅ => ensures_pure h₅
  refine ensures_bind (ensures_device ((wired_setGeometry _ h₄).bind fun _ s₅ h₅ => ?_))
  exact (wired_report _ h₅).bind fun _ _ h₆ => ensures_pure h₆

end Disk

/-- Whatever is done with a unit, it is moored behind it as before, and without the bus. -/
theorem DiskAction.moored_run {H : Type} [Host H] {env : Env Counter} (patience : Nat)
    (action : DiskAction) {s : Session (Disk H) Counter}
    (h : ChannelM.Moored s.device.wiredTo env (s.at Disk.channel))
    (haway : s.device.channel.owns = false) :
    SessionM.Ensures (action.run patience) s fun _ s' => s'.device.wiredTo = s.device.wiredTo ∧
      ChannelM.Moored s.device.wiredTo env (s'.at Disk.channel) ∧
      s'.device.channel.owns = false := by
  open SessionM ChannelM Disk in
  have hI : BusInvariant anyFrame
      (Moored s.device.wiredTo env : Session (Channel H) Counter → Prop) := moored_invariant
  cases action with
  | bringUp =>
    refine ((wired_bringUp patience rfl).and (throughout_bringUp_of_bindTo hI moored_speed patience
      moored_bindTo h).back).bind fun _ s' h' => ?_
    exact ensures_pure ⟨h'.1, h'.2.1, h'.2.2 haway⟩
  | read lba count buffer =>
    refine ((same_read patience lba count buffer s).and
      (throughout_read hI patience lba count buffer h).back).bind fun _ s' h' => ?_
    exact ensures_pure ⟨h'.1.wiredTo, h'.2.1, h'.2.2 haway⟩
  | write lba count bytes =>
    refine ((same_write patience lba count bytes s).and
      (throughout_write hI patience lba count bytes h).back).bind fun _ s' h' => ?_
    exact ensures_pure ⟨h'.1.wiredTo, h'.2.1, h'.2.2 haway⟩
  | _ =>
    refine (Action.quiet_onDisk patience rfl s).mono ?_
    rintro _ _ ⟨log, rfl⟩
    exact ⟨rfl, hI.log log h, haway⟩

/-! ## Racks of units -/

namespace Rack

open SessionM ChannelM

variable {H : Type}

/-- A rack of units that are wired to different lines, none of which has the bus or is bound to another
    line than its own. -/
structure Apart (rack : Rack H Counter) : Prop where
  free : rack.env.bus.held = false
  single : rack.env.bus.attached.Nodup
  units : ∀ place device, rack.device? place = some device → ∃ disk : Disk H, device = .disk disk ∧
    disk.channel.owns = false ∧
      ∀ line, disk.channel.line = some line → Line.ofByte disk.wiredTo = .ok line
  wiring : ∀ place other disk disk', rack.device? place = some (.disk disk) →
    rack.device? other = some (.disk disk') → disk.wiredTo = disk'.wiredTo → place = other

/-- Two racks that the unit at a place cannot tell apart. -/
structure Twin (place : Nat) (rack rack' : Rack H Counter) : Prop where
  apart : Apart rack
  apart' : Apart rack'
  device : rack'.device? place = rack.device? place
  own : ∀ disk, rack.device? place = some (.disk disk) → ∀ line,
    Line.ofByte disk.wiredTo = .ok line →
      (line ∈ rack.env.bus.attached ↔ line ∈ rack'.env.bus.attached)
  step : rack'.env.clock.step = rack.env.clock.step
  rate : rack'.env.clock.rate = rack.env.clock.rate

variable {rack rack' next : Rack H Counter} {place other patience : Nat} {disk : Disk H}

theorem Twin.symm (h : Twin place rack rack') : Twin place rack' rack where
  apart := h.apart'
  apart' := h.apart
  device := h.device.symm
  own disk hdisk line hline := (h.own disk (h.device ▸ hdisk) line hline).symm
  step := h.step.symm
  rate := h.rate.symm

variable [Host H]

/-- No action on a unit is refused, so that it runs. -/
theorem Apart.perform_eq (h : Apart rack) (hdisk : rack.device? place = some (.disk disk))
    (patience : Nat) (action : DiskAction) :
    rack.perform patience place (.onDisk action) =
      (action.run patience ⟨disk, rack.env⟩).map fun (answer, s) =>
        ({ answer, events := eventsSince disk.channel.history.length s.device.channel },
          { devices := rack.devices.set place (some (.disk s.device)), env := s.env }) := by
  obtain ⟨disk', heq, howns, -⟩ := h.units place _ hdisk
  cases heq
  have hrefusal : refusal? rack.env (.disk disk) (.onDisk action : Action H) = none := by
    have howns : (Device.disk disk).link.owns = false := howns
    simp [refusal?, howns, h.free, Action.needsBus]
  rw [perform_begun hdisk hrefusal nofun]
  show Option.map _ ((Action.onDisk action).run patience ⟨.disk disk, rack.env⟩) = _
  rw [Action.run, bind_eq rfl]
  show Option.map _ (within _ _ _ _) = _
  rw [within_apply, Option.map_map]
  rfl

/-- What an action on a unit comes to: the unit is put back, in its place as before. -/
theorem Apart.act {outcome : Outcome} {action : DiskAction} (h : Apart rack)
    (hdisk : rack.device? place = some (.disk disk))
    (hrun : rack.perform patience place (.onDisk action) = some (outcome, next)) :
    Apart next ∧ ∃ disk', (∀ at', next.device? at' =
        if at' = place then some (.disk disk') else rack.device? at') ∧
      disk'.wiredTo = disk.wiredTo ∧
      Moored disk.wiredTo rack.env ⟨disk'.channel, next.env⟩ := by
  obtain ⟨_, heq, haway, hline⟩ := h.units place _ hdisk
  cases heq
  rw [h.perform_eq hdisk] at hrun
  obtain ⟨⟨answer, s⟩, haction, heq⟩ := Option.map_eq_some_iff.mp hrun
  cases heq
  have hstart : Moored disk.wiredTo rack.env (Session.at ⟨disk, rack.env⟩ Disk.channel) :=
    ⟨h.free.trans haway.symm, hline, h.single, fun _ _ => Iff.rfl, rfl, rfl⟩
  obtain ⟨hwired, hmoored, haway'⟩ := action.moored_run patience hstart haway answer s haction
  have hplaces := device?_set hdisk (some (.disk s.device)) s.env
  refine ⟨⟨hmoored.alone.trans haway', hmoored.single, ?_, ?_⟩, s.device, hplaces, hwired, hmoored⟩
  · intro spot device hdevice
    rw [hplaces] at hdevice
    split at hdevice
    · cases hdevice
      refine ⟨s.device, rfl, haway', ?_⟩
      rw [hwired]
      exact hmoored.line
    · exact h.units spot device hdevice
  · -- the unit is wired as before, so that the wires are as different as they were
    have hbefore : ∀ spot disk', (if spot = place then some (.disk s.device) else rack.device? spot) =
        some (.disk disk') → ∃ old, rack.device? spot = some (.disk old) ∧ old.wiredTo = disk'.wiredTo := by
      intro spot disk' hspot
      split at hspot
      · cases hspot
        exact ⟨disk, ‹spot = place› ▸ hdisk, hwired.symm⟩
      · exact ⟨disk', hspot, rfl⟩
    intro spot spot' one two hone htwo hwire
    rw [hplaces] at hone htwo
    obtain ⟨old, hold, holdWire⟩ := hbefore spot one hone
    obtain ⟨old', hold', holdWire'⟩ := hbefore spot' two htwo
    exact h.wiring spot spot' old old' hold hold' (holdWire.trans (hwire.trans holdWire'.symm))

/-- **An action of the unit itself** does the same in both racks, which it cannot tell apart behind it. -/
theorem Twin.act {outcome : Outcome} {action : DiskAction} (h : Twin place rack rack')
    (hrun : rack.perform patience place (.onDisk action) = some (outcome, next)) :
    ∃ next', rack'.perform patience place (.onDisk action) = some (outcome, next') ∧
      Twin place next next' := by
  cases hdevice : rack.device? place with
  | none =>
    rw [perform_empty hdevice] at hrun
    cases hrun
    exact ⟨rack', perform_empty (h.device.trans hdevice) patience _, h⟩
  | some device =>
    obtain ⟨disk, rfl, -, -⟩ := h.apart.units place device hdevice
    have hdevice' : rack'.device? place = some (.disk disk) := h.device.trans hdevice
    obtain ⟨⟨answer, s⟩, haction, heq⟩ := Option.map_eq_some_iff.mp
      ((h.apart.perform_eq hdevice patience action).symm.trans hrun)
    cases heq
    have halike : Alike (rack'.env.clock.value - rack.env.clock.value) disk.wiredTo rack.env
        rack'.env := by
      refine ⟨h.apart.free.trans h.apart'.free.symm, h.apart.single, h.apart'.single,
        h.own disk hdevice, ?_, h.step, h.rate⟩
      rw [UInt8.add_comm, UInt8.sub_add_cancel]
    obtain ⟨env', haction', halike'⟩ :=
      DiskAction.follows_run alike_kindred (Nat.le_refl patience) alike_bindTo action rack.env
        rack'.env halike answer s haction
    have hrun' := h.apart'.perform_eq hdevice' patience action
    rw [haction'] at hrun'
    refine ⟨_, hrun', ?_⟩
    obtain ⟨hnext, _, hplaces, hwired, -⟩ := h.apart.act hdevice hrun
    obtain ⟨hnext', _, hplaces', -, -⟩ := h.apart'.act hdevice' hrun'
    have hself := device?_set hdevice (some (.disk s.device)) s.env place
    have hself' := device?_set hdevice' (some (.disk s.device)) env' place
    rw [if_pos rfl] at hself hself'
    refine ⟨hnext, hnext', hself'.trans hself.symm, ?_, halike'.step, halike'.rate⟩
    intro disk' hdisk' line hline
    have hnow := hplaces place
    rw [if_pos rfl, hdisk'] at hnow
    cases hnow
    rw [hwired] at hline
    exact halike'.own line hline

/-- **An action of another unit** in one of the racks goes unnoticed. -/
theorem Twin.skip {outcome : Outcome} {action : DiskAction} (h : Twin place rack rack')
    (hother : other ≠ place)
    (hrun : rack.perform patience other (.onDisk action) = some (outcome, next)) :
    Twin place next rack' := by
  cases hdevice : rack.device? other with
  | none =>
    rw [perform_empty hdevice] at hrun
    cases hrun
    exact h
  | some device =>
    obtain ⟨disk, rfl, -, -⟩ := h.apart.units other device hdevice
    obtain ⟨hnext, after, hplaces, -, hmoored⟩ := h.apart.act hdevice hrun
    have hsame : next.device? place = rack.device? place := by
      rw [hplaces, if_neg hother.symm]
    refine ⟨hnext, h.apart', h.device.trans hsame.symm, ?_, h.step.trans hmoored.step.symm,
      h.rate.trans hmoored.rate.symm⟩
    intro own hown line hline
    rw [hsame] at hown
    -- the line of this unit is not one that the other unit may have touched
    have halien : Line.ofByte disk.wiredTo ≠ .ok line := by
      intro hline'
      have hwire : own.wiredTo = disk.wiredTo :=
        (Line.eq_mask_of_ofByte hline).trans (Line.eq_mask_of_ofByte hline').symm
      exact hother (h.apart.wiring place other own disk hown hdevice hwire).symm
    exact (hmoored.others line halien).trans (h.own own hown line hline)

/-! ## Runs -/

/-- Actions on units, one after the other, each at a place, with what came of each. -/
def performAll (patience : Nat) : List (Nat × DiskAction) → Rack H Counter →
    Option (List (Nat × Outcome) × Rack H Counter)
  | [], rack => some ([], rack)
  | (place, action) :: rest, rack => do
    let (outcome, rack) ← rack.perform patience place (.onDisk action)
    let (outcomes, rack) ← performAll patience rest rack
    pure ((place, outcome) :: outcomes, rack)

omit [Host H] in
/-- What belongs to one place. -/
def ofPlace {α : Type} (place : Nat) (entries : List (Nat × α)) : List (Nat × α) :=
  entries.filter fun entry => entry.1 = place

theorem performAll_cons {call : Nat × DiskAction} {calls : List (Nat × DiskAction)}
    {outcomes : List (Nat × Outcome)} :
    performAll patience (call :: calls) rack = some (outcomes, rack') ↔
      ∃ outcome next rest, rack.perform patience call.1 (.onDisk call.2) = some (outcome, next) ∧
        performAll patience calls next = some (rest, rack') ∧ outcomes = (call.1, outcome) :: rest := by
  constructor
  · intro hrun
    obtain ⟨⟨outcome, next⟩, hfirst, hrest⟩ := Option.bind_eq_some_iff.mp hrun
    obtain ⟨⟨rest, last⟩, hothers, heq⟩ := Option.bind_eq_some_iff.mp hrest
    cases heq
    exact ⟨outcome, next, rest, hfirst, hothers, rfl⟩
  · rintro ⟨outcome, next, rest, hfirst, hothers, rfl⟩
    exact Option.bind_eq_some_iff.mpr ⟨_, hfirst, Option.bind_eq_some_iff.mpr ⟨_, hothers, rfl⟩⟩

/-- What a unit does in a run it also does when its own actions are all there is. -/
theorem Twin.performAll (h : Twin place rack rack') {calls : List (Nat × DiskAction)}
    {outcomes : List (Nat × Outcome)} {after : Rack H Counter}
    (hrun : Rack.performAll patience calls rack = some (outcomes, after)) :
    ∃ after', Rack.performAll patience (ofPlace place calls) rack' =
        some (ofPlace place outcomes, after') ∧ Twin place after after' := by
  induction calls generalizing rack rack' outcomes with
  | nil =>
    cases hrun
    exact ⟨rack', rfl, h⟩
  | cons call calls ih =>
    obtain ⟨outcome, next, rest, hfirst, hothers, rfl⟩ := performAll_cons.mp hrun
    unfold ofPlace
    by_cases hown : call.1 = place
    · rw [List.filter_cons_of_pos (by simpa using hown), List.filter_cons_of_pos (by simpa using hown)]
      rw [hown] at hfirst
      obtain ⟨next', hfirst', hnext⟩ := h.act hfirst
      obtain ⟨after', hothers', hafter⟩ := ih hnext hothers
      rw [← hown] at hfirst'
      exact ⟨after', performAll_cons.mpr ⟨outcome, next', _, hfirst', hothers', rfl⟩, hafter⟩
    · rw [List.filter_cons_of_neg (by simpa using hown), List.filter_cons_of_neg (by simpa using hown)]
      exact ih (h.skip hown hfirst) hothers

/-- A run comes back if the actions of every single unit do. -/
theorem performAll_returns {alone : Nat → Rack H Counter} (h : ∀ place, Twin place rack (alone place))
    {calls : List (Nat × DiskAction)}
    (hback : ∀ place, ∃ result, Rack.performAll patience (ofPlace place calls) (alone place) =
      some result) : ∃ result, Rack.performAll patience calls rack = some result := by
  induction calls generalizing rack alone with
  | nil => exact ⟨_, rfl⟩
  | cons call calls ih =>
    obtain ⟨⟨outcomes, after⟩, hown⟩ := hback call.1
    unfold ofPlace at hown
    rw [List.filter_cons_of_pos (by simp)] at hown
    obtain ⟨outcome, own, rest, hfirst', hrest, -⟩ := performAll_cons.mp hown
    obtain ⟨next, hfirst, hown'⟩ := (h call.1).symm.act hfirst'
    -- the racks of the others stay as they are, and that of this unit goes one step ahead
    let later := fun place => if place = call.1 then own else alone place
    have htwin : ∀ place, Twin place next (later place) := by
      intro place
      by_cases hplace : place = call.1
      · rw [show later place = own from if_pos hplace, hplace]
        exact hown'.symm
      · rw [show later place = alone place from if_neg hplace]
        exact (h place).skip (Ne.symm hplace) hfirst
    have hlater : ∀ place, ∃ result, Rack.performAll patience (ofPlace place calls) (later place) =
        some result := by
      intro place
      by_cases hplace : place = call.1
      · rw [show later place = own from if_pos hplace, hplace]
        exact ⟨_, hrest⟩
      · rw [show later place = alone place from if_neg hplace]
        have hsame := hback place
        unfold ofPlace at hsame
        rwa [List.filter_cons_of_neg (by simpa using Ne.symm hplace)] at hsame
    obtain ⟨⟨outcomes', after'⟩, hothers⟩ := ih htwin hlater
    exact ⟨_, performAll_cons.mpr ⟨outcome, next, outcomes', hfirst, hothers, rfl⟩⟩

omit [Host H] in
/-- The rack with every device taken out but the one at a place. -/
def only (place : Nat) (rack : Rack H Counter) : Rack H Counter :=
  { rack with
    devices := rack.devices.mapIdx fun other device => if other = place then device else none }

omit [Host H] in
theorem device?_only (place other : Nat) (rack : Rack H Counter) :
    (rack.only place).device? other = if other = place then rack.device? other else none := by
  unfold device? only
  rw [List.getElem?_mapIdx]
  cases rack.devices[other]? with
  | none => split <;> rfl
  | some device => split <;> rfl

omit [Host H] in
/-- Two units on one controller. -/
def pair (first second : Disk H) (env : Env Counter) : Rack H Counter :=
  ((Rack.empty env).add (.disk first)).add (.disk second)

omit [Host H] in
theorem device?_pair (first second : Disk H) (env : Env Counter) (place : Nat) :
    (pair first second env).device? place =
      if place = 1 then some (.disk second) else if place = 0 then some (.disk first) else none := by
  unfold pair
  rw [device?_add, device?_add]
  rfl

omit [Host H] in
/-- A device of a rack with one device is one of the rack as it was. -/
theorem Apart.only (h : Apart rack) (place : Nat) : Apart (rack.only place) := by
  have hplaces : ∀ other device, (rack.only place).device? other = some device →
      rack.device? other = some device := by
    intro other device hdevice
    rw [device?_only] at hdevice
    split at hdevice
    · exact hdevice
    · cases hdevice
  exact ⟨h.free, h.single, fun other device hdevice => h.units other device (hplaces other _ hdevice),
    fun one two disk disk' hone htwo => h.wiring one two disk disk' (hplaces one _ hone)
      (hplaces two _ htwo)⟩

omit [Host H] in
theorem apart_pair {host host' : H} {number number' wiredTo wiredTo' : UInt8}
    (hlines : wiredTo ≠ wiredTo') {env : Env Counter} (hfresh : env.bus = {}) :
    Apart (pair (.new host number wiredTo) (.new host' number' wiredTo') env) := by
  have hplaces := device?_pair (Disk.new host number wiredTo) (Disk.new host' number' wiredTo') env
  refine ⟨congrArg Arbiter.held hfresh, ?_, fun place device hdevice => ?_, ?_⟩
  · show env.bus.attached.Nodup
    rw [hfresh]
    exact List.nodup_nil
  · rw [hplaces] at hdevice
    split at hdevice
    · cases hdevice
      exact ⟨_, rfl, rfl, nofun⟩
    · split at hdevice
      · cases hdevice
        exact ⟨_, rfl, rfl, nofun⟩
      · cases hdevice
  · intro place other disk disk' hone htwo hwire
    rw [hplaces] at hone htwo
    split at hone
    · split at htwo
      · rw [‹place = 1›, ‹other = 1›]
      · split at htwo
        · cases hone
          cases htwo
          exact absurd hwire.symm hlines
        · cases htwo
    · split at hone
      · split at htwo
        · cases hone
          cases htwo
          exact absurd hwire hlines
        · split at htwo
          · rw [‹place = 0›, ‹other = 0›]
          · cases htwo
      · cases hone

/-- **Two units do not notice each other.** They are fresh, wired to different lines of one controller,
    and anything a unit offers is done with either of them, in any order. That comes back if what is
    done with each of them comes back when the other is not there; and then each of them answers the
    same as when the other is not there, makes the same calls on its board, and is left in the same
    state. The clock may have started anywhere, and the logger as well. -/
theorem performAll_apart {host host' : H} {number number' wiredTo wiredTo' : UInt8}
    (hlines : wiredTo ≠ wiredTo') {clock clock' : Counter} (hstep : clock'.step = clock.step)
    (hrate : clock'.rate = clock.rate) (log log' : Logger) (patience : Nat)
    (calls : List (Nat × DiskAction)) :
    let units := pair (.new host number wiredTo) (.new host' number' wiredTo')
    let shared := units { clock, log }
    let alone := fun place => (units { clock := clock', log := log' }).only place
    ((∃ result, performAll patience calls shared = some result) ↔
        ∀ place, ∃ result, performAll patience (ofPlace place calls) (alone place) = some result) ∧
      ∀ outcomes after, performAll patience calls shared = some (outcomes, after) →
        ∀ place, ∃ after', performAll patience (ofPlace place calls) (alone place) =
            some (ofPlace place outcomes, after') ∧ after'.device? place = after.device? place := by
  intro units shared alone
  have htwin : ∀ place, Twin place shared (alone place) := by
    intro place
    refine ⟨apart_pair hlines rfl, (apart_pair hlines rfl).only place, ?_, fun _ _ _ _ => Iff.rfl,
      hstep, hrate⟩
    rw [device?_only, if_pos rfl, device?_pair, device?_pair]
  refine ⟨⟨?_, performAll_returns htwin⟩, ?_⟩
  · rintro ⟨⟨outcomes, after⟩, hrun⟩ place
    obtain ⟨after', halone, -⟩ := (htwin place).performAll hrun
    exact ⟨_, halone⟩
  · intro outcomes after hrun place
    obtain ⟨after', halone, hafter⟩ := (htwin place).performAll hrun
    exact ⟨after', halone, hafter.device⟩

/-- A unit is brought up and read just before the counter wraps and between two calls of another unit,
    and comes to what it comes to on a counter that starts at zero, with nobody else there. -/
theorem performAll_apart_wrap :
    let units := pair (.new (SimCard.new .sdhc) 0 1) (.new (SimCard.new .mmc) 0 2)
    let calls : List (Nat × DiskAction) := [(1, .bringUp), (0, .bringUp), (1, .describe),
      (0, .read 7 1 (List.replicate 512 0))]
    ∃ outcomes after after',
      performAll 60 calls (units { clock := { value := 250 } }) = some (outcomes, after) ∧
      performAll 60 (ofPlace 0 calls) ((units { clock := { value := 0 } }).only 0) =
        some (ofPlace 0 outcomes, after') ∧ after'.device? 0 = after.device? 0 := by
  intro units calls
  let clock : Counter := { value := 250 }
  let clock' : Counter := { value := 0 }
  have hlines : (1 : UInt8) ≠ 2 := by decide
  have hstep : clock'.step = clock.step := rfl
  have hrate : clock'.rate = clock.rate := rfl
  have hback : (performAll 60 calls (units { clock })).isSome = true := by decide +kernel
  obtain ⟨⟨outcomes, after⟩, hrun⟩ := Option.isSome_iff_exists.mp hback
  obtain ⟨after', halone, hafter⟩ :=
    (performAll_apart hlines hstep hrate {} {} 60 calls).2 outcomes after hrun 0
  exact ⟨outcomes, after, after', hrun, halone, hafter⟩

end Rack

end SpiDisk
