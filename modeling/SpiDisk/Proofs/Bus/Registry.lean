import SpiDisk.Bench.SimCard
import SpiDisk.Proofs.Bus.Sharing
import SpiDisk.Proofs.Card.Return

/-!
# `SpiDisk.Proofs.Bus.Registry` — which lines are bound, and to whom

That a device is bound to a line is kept twice: the channel knows its line, and the arbiter has a register
of the lines that are taken. The two are changed by a first binding, by one to another line, by one that is
refused, which leaves the channel without a line, and when a device is taken out. In every rack they
agree, so that no line is lost for ever and no two devices share one.

A channel sees of the others only which lines they are bound to (`Listed`). Nothing but binding and
giving up a line can touch the register, and these two keep it in step with the channel.

## Contents
- **The register.** `Arbiter.attach_eq`: a register of different lines is never full.
- **A channel.** `Listed`, `ensures_take_single`, and what binding comes to (`listed_bindTo`).
- **Racks.** `Furnished`, `Registered`, and `Furnished.register_exact`.
-/

namespace SpiDisk

/-! ## The register -/

theorem Line.eq_mask_of_ofByte {id : UInt8} {line : Line} (h : ofByte id = .ok line) :
    id = line.mask := by
  unfold ofByte at h
  split at h
  · cases h
    assumption
  · split at h
    · cases h
      assumption
    · cases h

/-- A byte is refused as one that names no line, and for no other reason. -/
theorem Line.refusal_ofByte {id : UInt8} {refusal : BusError} (h : ofByte id = .error refusal) :
    refusal = .invalidChannel id := by
  unfold ofByte at h
  split at h
  · cases h
  · split at h
    · cases h
    · cases h
      rfl

namespace Arbiter

theorem length_attached_lt {lines : List Line} (hsingle : lines.Nodup) {line : Line}
    (hfree : line ∉ lines) : lines.length < maxAttached := by
  match lines with
  | [] => decide
  | [_] => exact Nat.lt_succ_self 1
  | first :: second :: _ =>
    -- there is no third line that could be the free one
    cases first <;> cases second <;> cases line <;> simp_all

/-- There is always room for a line that is free. -/
theorem attach_eq {bus : Arbiter} (hsingle : bus.attached.Nodup) (line : Line) :
    bus.attach line = if line ∈ bus.attached then .error (.channelInUse line.mask)
      else .ok { bus with attached := bus.attached ++ [line] } := by
  unfold attach
  split
  · rfl
  · rw [if_pos (length_attached_lt hsingle ‹_›)]

theorem nodup_detach {bus : Arbiter} (hsingle : bus.attached.Nodup) (line : Line) :
    (bus.detach line).attached.Nodup :=
  hsingle.filter _

theorem nodup_append {lines : List Line} (hsingle : lines.Nodup) {line : Line} (hfree : line ∉ lines) :
    (lines ++ [line]).Nodup := by
  rw [List.nodup_append]
  refine ⟨hsingle, by simp, fun other hmem last hlast => ?_⟩
  rw [List.mem_singleton.mp hlast]
  exact fun heq => hfree (heq ▸ hmem)

end Arbiter

/-! ## A channel -/

namespace ChannelM

open SessionM

variable {H C : Type} {others : Line → Prop} {s : Session (Channel H) C}

/-- The register has the channel's own line and those of the `others`, each once, and the channel shares
    none with them. -/
structure Listed (others : Line → Prop) (s : Session (Channel H) C) : Prop where
  intro ::
  single : s.env.bus.attached.Nodup
  listed : ∀ line, line ∈ s.env.bus.attached ↔ s.device.line = some line ∨ others line
  apart : ∀ line, s.device.line = some line → ¬others line

/-- Giving up a line frees it. -/
theorem listed_unbind (h : Listed others s) :
    Ensures unbind s fun _ s' =>
      Listed others s' ∧ s'.device.line = none ∧ s'.device.owns = s.device.owns := by
  refine ensures_unbind (fun hnone => ⟨h, hnone, rfl⟩) fun own hown => ?_
  refine ⟨⟨Arbiter.nodup_detach h.single own, fun line => ?_, nofun⟩, rfl, rfl⟩
  rw [Arbiter.mem_attached_detach, h.listed, hown]
  constructor
  · rintro ⟨heq | hother, hne⟩
    · exact absurd (Option.some.inj heq).symm hne
    · exact .inr hother
  · rintro (hno | hother)
    · cases hno
    · exact ⟨.inr hother, fun heq => h.apart own hown (heq ▸ hother)⟩

/-- With every line registered once, a line that is free is always got. -/
theorem ensures_take_single (hsingle : s.env.bus.attached.Nodup) {line : Line}
    {post : Except BusError Unit → Session (Channel H) C → Prop}
    (hbound : line ∈ s.env.bus.attached → post (.error (.channelInUse line.mask)) s)
    (hfree : line ∉ s.env.bus.attached → post (.ok ()) { s with
      device.line := some line
      env.bus.attached := s.env.bus.attached ++ [line] }) : Ensures (take line) s post := by
  have hattach := Arbiter.attach_eq hsingle line
  by_cases hmem : line ∈ s.env.bus.attached
  · rw [if_pos hmem] at hattach
    refine ensures_take (fun refusal hrefused => ?_) fun bus htaken => ?_
    · cases hattach.symm.trans hrefused
      exact hbound hmem
    · cases hattach.symm.trans htaken
  · rw [if_neg hmem] at hattach
    refine ensures_take (fun refusal hrefused => ?_) fun bus htaken => ?_
    · cases hattach.symm.trans hrefused
    · cases hattach.symm.trans htaken
      exact hfree hmem

/-- A channel without a line gets the one it asks for unless another device has it. -/
theorem listed_take (h : Listed others s) (hnone : s.device.line = none) (line : Line) :
    Ensures (take line) s fun outcome s' => Listed others s' ∧
      s'.device.owns = s.device.owns ∧
      (others line → outcome = .error (.channelInUse line.mask)) ∧
      (¬others line → outcome = .ok () ∧ s'.device.line = some line) := by
  have hbound : line ∈ s.env.bus.attached ↔ others line := by
    rw [h.listed, hnone]
    exact or_iff_right nofun
  refine ensures_take_single h.single (fun hmem => ?_) fun hfree => ?_
  · exact ⟨h, rfl, fun _ => rfl, fun hno => absurd (hbound.mp hmem) hno⟩
  · have hother : ¬others line := fun hother => hfree (hbound.mpr hother)
    refine ⟨⟨Arbiter.nodup_append h.single hfree, fun other => ?_, ?_⟩, rfl,
      fun hno => absurd hno hother, fun _ => ⟨rfl, rfl⟩⟩
    · show other ∈ s.env.bus.attached ++ [line] ↔ some line = some other ∨ others other
      rw [List.mem_append, List.mem_singleton, h.listed, hnone, Option.some_inj, @eq_comm _ line]
      constructor
      · rintro ((hno | hmem) | heq)
        · cases hno
        · exact .inr hmem
        · exact .inl heq
      · rintro (heq | hmem)
        · exact .inr heq
        · exact .inl (.inr hmem)
    · rintro _ ⟨⟩
      exact hother

/-- Moving to a line gives up the old one, unless it is the one that is asked for. -/
theorem listed_rebind (h : Listed others s) (line : Line) :
    Ensures (rebind line) s fun outcome s' => Listed others s' ∧
      s'.device.owns = s.device.owns ∧
      (others line → outcome = .error (.channelInUse line.mask)) ∧
      (¬others line → outcome = .ok () ∧ s'.device.line = some line) := by
  refine ensures_bind (ensures_device ?_)
  split
  · rename_i hown
    exact ensures_pure ⟨h, rfl, fun hno => absurd hno (h.apart line hown), fun _ => ⟨rfl, hown⟩⟩
  · refine (listed_unbind h).bind ?_
    rintro _ s₁ ⟨h₁, hnone, howns⟩
    refine (listed_take h₁ hnone line).mono ?_
    rintro outcome s₂ ⟨h₂, howns', hrest⟩
    exact ⟨h₂, howns'.trans howns, hrest⟩

/-- Giving the bus back touches no line. -/
theorem listed_release (h : Listed others s) : Ensures release s fun _ s' => Listed others s' := by
  intro a s' hrun
  rw [release_apply] at hrun
  split at hrun
  · cases hrun
    exact ⟨h.single, h.listed, h.apart⟩
  · cases hrun
    exact h

variable [Host H]

theorem listed_busInvariant [TickSource C] :
    BusInvariant anyFrame (Listed others : Session (Channel H) C → Prop) where
  harmless _ _ := trivial
  log _ h := ⟨h.single, h.listed, h.apart⟩
  tick h := ⟨h.single, h.listed, h.apart⟩
  bytes := steady_owned (fun _ h => ⟨h.single, h.listed, h.apart⟩) (fun _ _ h => ⟨h.single, h.listed, h.apart⟩)
    (fun _ _ _ h => ⟨h.single, h.listed, h.apart⟩) fun _ _ h => ⟨h.single, h.listed, h.apart⟩
  callFlush _ h := ⟨h.single, h.listed, h.apart⟩
  callDrive _ _ h := ⟨h.single, h.listed, h.apart⟩
  took _ _ h := ⟨h.single, h.listed, h.apart⟩
  closed {s s'} _ h hrun := by
    obtain ⟨log, rfl⟩ := reaches_deselect s () s' hrun
    have hline : s.device.parted.line = s.device.line := s.device.parted_kept.1
    refine ⟨h.single, fun line => ?_, fun line hown => h.apart line (hline ▸ hown)⟩
    exact (h.listed line).trans (by rw [← hline]; rfl)

/-- **Binding** is refused for a byte that names no line, and for a line of another device. -/
theorem listed_bindTo [TickSource C] (h : Listed others s) (id : UInt8) :
    Ensures (bindTo id) s fun outcome s' =>
      (Listed others s' ∧ (s.device.owns = false → s'.device.owns = false)) ∧
        match Line.ofByte id with
        | .error refusal => outcome = .error refusal
        | .ok line => (others line → outcome = .error (.channelInUse id)) ∧
            (¬others line → outcome = .ok () ∧ s'.device.line = some line) := by
  unfold bindTo
  cases hid : Line.ofByte id with
  | error refusal => exact ensures_pure ⟨⟨h, fun howns => howns⟩, rfl⟩
  | ok line =>
    rw [Line.eq_mask_of_ofByte hid]
    refine (listed_busInvariant.ensures_shutdown h).bind fun _ s₁ h₁ => ?_
    refine (listed_rebind h₁.1 line).bind ?_
    rintro (refusal | _) s₂ ⟨h₂, howns, hrefused, hgranted⟩
    · exact ensures_pure
        ⟨⟨h₂, fun _ => howns.trans h₁.2⟩, hrefused, fun hno => nomatch (hgranted hno).1⟩
    · refine ensures_bind (ensures_onDevice (ensures_bind (ensures_report (ensures_pure ?_))))
      refine ⟨⟨⟨h₂.single, h₂.listed, h₂.apart⟩, fun _ => howns.trans h₁.2⟩, fun hother => ?_,
        fun hno => ?_⟩
      · exact nomatch hrefused hother
      · exact ⟨rfl, (hgranted hno).2⟩

theorem listed_invariant [TickSource C] :
    ActionInvariant (Listed others : Session (Channel H) C → Prop) where
  toBusInvariant := listed_busInvariant
  speed _ h := ⟨h.single, h.listed, h.apart⟩
  bindTo id h := (listed_bindTo h id).mono fun _ _ hs' => hs'.1
  board _ h := ⟨h.single, h.listed, h.apart⟩
  transfer _ h := ⟨h.single, h.listed, h.apart⟩
  unbind _ h := (listed_unbind h.1).mono fun _ _ hs' => ⟨hs'.1, hs'.2.2.trans h.2⟩

end ChannelM

/-! ## Racks -/

namespace Action

open SessionM ChannelM

variable {H C : Type} [Host H] [TickSource C] {others : Line → Prop}

/-- Whatever is done with a device, the register fits its channel, and a device that is taken out has no
    line any more. Even giving the bus back without shutting down does no harm here. -/
theorem listed_run (patience : Nat) {action : Action H} {s : Session (Device H) C}
    (h : Listed others (s.at Device.link))
    (howner : action.needsBus = true → s.device.link.owns = true) :
    Ensures (action.run patience) s fun _ s' =>
      Listed others (s'.at Device.link) ∧ (action = .drop → s'.device.link.line = none) := by
  by_cases hrelease : action = .onChannel .release
  · subst hrelease
    refine ensures_within ((listed_release h).bind fun _ s' hs' => ensures_pure ⟨?_, nofun⟩)
    rw [Session.at, Device.link_setLink]
    exact hs'
  by_cases hdrop : action = .drop
  · subst hdrop
    refine ensures_bind (ensures_within ?_)
    refine (listed_busInvariant.ensures_shutdown h).bind fun _ s₁ h₁ => ?_
    refine (listed_unbind h₁.1).mono fun _ s₂ h₂ => ensures_pure ?_
    rw [Session.at, Device.link_setLink]
    exact ⟨h₂.1, fun _ => h₂.2.1⟩
  · refine (keeps_run listed_invariant patience h howner hrelease).mono fun _ s' hs' => ?_
    exact ⟨hs'.1, fun heq => absurd heq hdrop⟩

end Action

section Racks

open SessionM ChannelM

variable {H C : Type}

namespace Rack

/-- The line of the device at a place, if there is one and it is bound. -/
def line? (rack : Rack H C) (place : Nat) : Option Line :=
  (rack.device? place).bind fun device => device.link.line

/-- Whether a device at another place is bound to a line. -/
def TakenBeside (rack : Rack H C) (place : Nat) (line : Line) : Prop :=
  ∃ other, other ≠ place ∧ rack.line? other = some line

/-- The register has the lines of the devices, each once, and no two devices share one. -/
structure Registered (rack : Rack H C) : Prop where
  intro ::
  single : rack.env.bus.attached.Nodup
  listed : ∀ line, line ∈ rack.env.bus.attached ↔ ∃ place, rack.line? place = some line
  apart : ∀ place other line, rack.line? place = some line → rack.line? other = some line →
    place = other

variable {rack rack' : Rack H C} {place : Nat} {device : Device H}

theorem line?_of_device? (h : rack.device? place = some device) :
    rack.line? place = device.link.line := by
  rw [line?, h]
  rfl

/-- Adding a device without a line changes no line. -/
theorem line?_add (hfree : device.link.line = none) (place : Nat) :
    (rack.add device).line? place = rack.line? place := by
  unfold line?
  rw [device?_add]
  split
  · rename_i hlast
    rw [hlast, device?_length]
    exact hfree
  · rfl

theorem line?_set (h : rack.device? place = some device) (left : Option (Device H)) (env : Env C)
    (other : Nat) :
    line? ⟨rack.devices.set place left, env⟩ other =
      if other = place then left.bind fun device => device.link.line else rack.line? other := by
  unfold line?
  rw [device?_set h]
  split
  · rfl
  · rfl

/-- What a device sees of the register. -/
theorem Registered.listed_at (h : Registered rack) (hdevice : rack.device? place = some device) :
    Listed (rack.TakenBeside place) (Session.at ⟨device, rack.env⟩ Device.link) := by
  have hline := line?_of_device? hdevice
  refine ⟨h.single, fun line => ?_, ?_⟩
  · show line ∈ rack.env.bus.attached ↔ device.link.line = some line ∨ rack.TakenBeside place line
    rw [h.listed, ← hline]
    constructor
    · rintro ⟨other, hother⟩
      by_cases hplace : other = place
      · exact .inl (hplace ▸ hother)
      · exact .inr ⟨other, hplace, hother⟩
    · rintro (hown | ⟨other, -, hother⟩)
      · exact ⟨place, hown⟩
      · exact ⟨other, hother⟩
  · rintro line hown ⟨other, hne, hother⟩
    exact hne (h.apart other place line hother (hline.trans hown))

/-- A rack stays in step with its register when one device changes and is still in step. -/
theorem Registered.replace {own : Option Line} (h : Registered rack)
    (hlines : ∀ other, rack'.line? other = if other = place then own else rack.line? other)
    (hsingle : rack'.env.bus.attached.Nodup)
    (hlisted : ∀ line, line ∈ rack'.env.bus.attached ↔ own = some line ∨ rack.TakenBeside place line)
    (hown : ∀ line, own = some line → ¬rack.TakenBeside place line) : Registered rack' := by
  refine ⟨hsingle, fun line => ?_, fun one other line hone hother => ?_⟩
  · rw [hlisted]
    constructor
    · rintro (heq | ⟨other, hne, hother⟩)
      · exact ⟨place, by rw [hlines, if_pos rfl]; exact heq⟩
      · exact ⟨other, by rw [hlines, if_neg hne]; exact hother⟩
    · rintro ⟨other, hother⟩
      rw [hlines] at hother
      split at hother
      · exact .inl hother
      · exact .inr ⟨other, ‹_›, hother⟩
  · rw [hlines] at hone hother
    split at hone
    · split at hother
      · exact ‹one = place›.trans ‹other = place›.symm
      · exact absurd ⟨other, ‹_›, hother⟩ (hown line hone)
    · split at hother
      · exact absurd ⟨one, ‹_›, hone⟩ (hown line hother)
      · exact h.apart one other line hone hother

theorem Registered.add (h : Registered rack) (hfree : device.link.line = none) :
    Registered (rack.add device) := by
  refine ⟨h.single, ?_, ?_⟩
  · simp only [line?_add hfree]
    exact h.listed
  · simp only [line?_add hfree]
    exact h.apart

variable [Host H] [TickSource C]

/-- **One action.** Whatever a device does, the register stays in step with the lines. -/
theorem Registered.act (h : Registered rack) {patience : Nat} {action : Action H} {outcome : Outcome}
    (hrun : rack.perform patience place action = some (outcome, rack')) : Registered rack' := by
  rcases perform_cases hrun with ⟨rfl, -⟩ | ⟨device, answer, session, left, hdevice, hrefusal,
      haction, -, hleft, rfl⟩
  · exact h
  obtain ⟨⟨hsingle, hlisted, hown⟩, hdropped⟩ := Action.listed_run patience (h.listed_at hdevice)
    (fun hneeds => refusal?_none hrefusal hneeds) answer session haction
  -- the device that stays behind has the line that the session's has
  have hline : (left.bind fun device => device.link.line) = session.device.link.line := by
    rcases hleft with rfl | ⟨hdrop, rfl⟩
    · rfl
    · exact (hdropped hdrop).symm
  have hlines := line?_set hdevice left session.env
  rw [hline] at hlines
  exact h.replace hlines hsingle hlisted hown

/-- Binding is never refused, since it does not wait for the bus. -/
theorem perform_bind (hdevice : rack.device? place = some device) (patience : Nat) (id : UInt8) :
    rack.perform patience place (.onChannel (.bind id)) =
      (bindTo id (Session.at ⟨device, rack.env⟩ Device.link)).map fun (bound, s) =>
        (⟨.bound bound, eventsSince device.link.history.length (device.setLink s.device).link⟩,
          ⟨rack.devices.set place (some (device.setLink s.device)), s.env⟩) := by
  have hrefusal : refusal? rack.env device (.onChannel (.bind id)) = none := ite_self none
  rw [perform_begun hdevice hrefusal nofun]
  have hrun : (Action.onChannel (.bind id)).run patience ⟨device, rack.env⟩ =
      (bindTo id (Session.at ⟨device, rack.env⟩ Device.link)).map fun (bound, s) =>
        (.bound bound, ⟨device.setLink s.device, s.env⟩) := by
    rw [Action.run, within_apply, ChannelAction.run, bind_apply, Option.map_bind]
    exact Option.map_eq_bind.symm
  rw [hrun, Option.map_map]
  rfl

/-- **What binding answers** is decided by the lines of the other devices. -/
theorem Registered.bind (h : Registered rack) (hdevice : rack.device? place = some device)
    (patience : Nat) (id : UInt8) :
    ∃ outcome rack' refused,
      rack.perform patience place (.onChannel (.bind id)) = some (outcome, rack') ∧
      outcome.answer = .bound refused ∧
      match Line.ofByte id with
      | .error refusal => refused = .error refusal
      | .ok line => (rack.TakenBeside place line → refused = .error (.channelInUse id)) ∧
          (¬rack.TakenBeside place line → refused = .ok () ∧ rack'.line? place = some line) := by
  obtain ⟨refused, s, hbind⟩ := returns_bindTo id (Session.at ⟨device, rack.env⟩ Device.link)
  have hanswer := (listed_bindTo (h.listed_at hdevice) id refused s hbind).2
  have hperform := perform_bind hdevice patience id
  rw [hbind] at hperform
  refine ⟨_, _, refused, hperform, rfl, ?_⟩
  rw [line?_set hdevice, if_pos rfl, Option.bind_some, Device.link_setLink]
  exact hanswer

end Rack

variable [Host H] [TickSource C]

/-- The racks that devices can get to, as far as lines go. A rack starts without devices and with an
    empty register. Devices are added unbound, and then anything at all may be done with any of them, in
    any order; meanwhile the clock may be set, and the logger. -/
inductive Furnished : Rack H C → Prop where
  | start {env : Env C} (hempty : env.bus.attached = []) : Furnished (Rack.empty env)
  | add {rack : Rack H C} (h : Furnished rack) {device : Device H}
      (hfree : device.link.line = none) : Furnished (rack.add device)
  | act {rack rack' : Rack H C} (h : Furnished rack) {patience place : Nat} {action : Action H}
      {outcome : Outcome} (hrun : rack.perform patience place action = some (outcome, rack')) :
      Furnished rack'
  | setClock {rack : Rack H C} (h : Furnished rack) (change : C → C) :
      Furnished (rack.setClock change)
  | setThreshold {rack : Rack H C} (h : Furnished rack) (threshold : Threshold) :
      Furnished (rack.setThreshold threshold)

theorem Furnished.registered {rack : Rack H C} (h : Furnished rack) : rack.Registered := by
  induction h with
  | @start env hempty =>
    have hnone : ∀ place, (Rack.empty env : Rack H C).line? place = none := fun _ => rfl
    refine ⟨?_, fun line => ?_, fun place other line hplace => ?_⟩
    · show env.bus.attached.Nodup
      rw [hempty]
      exact List.nodup_nil
    · show line ∈ env.bus.attached ↔ _
      rw [hempty]
      exact ⟨nofun, fun ⟨_, hno⟩ => nomatch hno⟩
    · cases hplace
  | add _ hfree ih => exact ih.add hfree
  | act _ hrun ih => exact ih.act hrun
  | setClock _ change ih => exact ⟨ih.single, ih.listed, ih.apart⟩
  | setThreshold _ threshold ih => exact ⟨ih.single, ih.listed, ih.apart⟩

/-- **The register is exact.** In every rack that devices can get to, it has the lines of the devices that
    are bound, each once, and no two devices are bound to the same line. So there is always room in it: a
    device that asks for a line gets it exactly if no other device has it, and is told that the line is
    in use otherwise; a byte that names no line is refused as such. -/
theorem Furnished.register_exact {rack : Rack H C} (h : Furnished rack) :
    (rack.env.bus.attached.Nodup ∧
      (∀ line, line ∈ rack.env.bus.attached ↔ ∃ place, rack.line? place = some line) ∧
      ∀ place other line, rack.line? place = some line → rack.line? other = some line →
        place = other) ∧
    ∀ place device, rack.device? place = some device → ∀ patience id, ∃ outcome rack' refused,
      rack.perform patience place (.onChannel (.bind id)) = some (outcome, rack') ∧
      outcome.answer = .bound refused ∧ refused ≠ .error .registryFull ∧
      (∀ refusal, Line.ofByte id = .error refusal → refused = .error (.invalidChannel id)) ∧
      ∀ line, Line.ofByte id = .ok line →
        ((∃ error, refused = .error error) ↔ rack.TakenBeside place line) ∧
        (rack.TakenBeside place line → refused = .error (.channelInUse id)) ∧
        (refused = .ok () → rack'.line? place = some line) := by
  have hregistered := h.registered
  refine ⟨⟨hregistered.single, hregistered.listed, hregistered.apart⟩, ?_⟩
  intro place device hdevice patience id
  obtain ⟨outcome, rack', refused, hrun, hanswer, hrefused⟩ :=
    hregistered.bind hdevice patience id
  refine ⟨outcome, rack', refused, hrun, hanswer, ?_⟩
  cases hid : Line.ofByte id with
  | error refusal =>
    rw [hid] at hrefused
    obtain rfl : refused = .error (.invalidChannel id) := Line.refusal_ofByte hid ▸ hrefused
    exact ⟨nofun, fun _ _ => rfl, nofun⟩
  | ok line =>
    rw [hid] at hrefused
    obtain ⟨htaken, hfree⟩ := hrefused
    by_cases hbeside : rack.TakenBeside place line
    · obtain rfl := htaken hbeside
      refine ⟨nofun, nofun, ?_⟩
      rintro _ ⟨⟩
      exact ⟨⟨fun _ => hbeside, fun _ => ⟨_, rfl⟩⟩, fun _ => rfl, nofun⟩
    · obtain ⟨rfl, hline⟩ := hfree hbeside
      refine ⟨nofun, nofun, ?_⟩
      rintro _ ⟨⟩
      exact ⟨⟨nofun, fun hno => absurd hno hbeside⟩, fun hno => absurd hno hbeside, fun _ => hline⟩

/-- The line of a device that was re-bound is free for others, and the one it moved to is not. -/
theorem register_exact_moved :
    ∃ rack : Rack SimCard Counter, Furnished rack ∧ rack.line? 0 = some .two ∧
      (∃ outcome rack', rack.perform 1 1 (.onChannel (.bind 2)) = some (outcome, rack') ∧
        outcome.answer = .bound (.error (.channelInUse 2))) ∧
      ∃ outcome rack', rack.perform 1 1 (.onChannel (.bind 1)) = some (outcome, rack') ∧
        outcome.answer = .bound (.ok ()) := by
  let fresh : Device SimCard := .channel { host := SimCard.new .sdhc }
  let start : Rack SimCard Counter := Rack.empty { clock := { value := 0 } }
  have htwo : Furnished ((start.add fresh).add fresh) := .add (.add (.start rfl) rfl) rfl
  obtain ⟨outcome, first, outcome', rack, hfirst, hsecond, hline, hdevice, hattached⟩ :
      ∃ outcome first outcome' rack,
        ((start.add fresh).add fresh).perform 1 0 (.onChannel (.bind 1)) = some (outcome, first) ∧
        first.perform 1 0 (.onChannel (.bind 2)) = some (outcome', rack) ∧
        rack.line? 0 = some .two ∧ rack.device? 1 = some fresh ∧ rack.env.bus.attached = [.two] :=
    ⟨_, _, _, _, rfl, rfl, rfl, rfl, rfl⟩
  have hfurnished : Furnished rack := .act (.act htwo hfirst) hsecond
  obtain ⟨⟨-, hlisted, -⟩, hbind⟩ := Furnished.register_exact hfurnished
  refine ⟨rack, hfurnished, hline, ?_, ?_⟩
  · obtain ⟨last, rack', refused, hrun, hanswer, -, -, hrefused⟩ := hbind 1 fresh hdevice 1 2
    have htaken : rack.TakenBeside 1 .two := ⟨0, by decide, hline⟩
    exact ⟨last, rack', hrun, hanswer.trans (congrArg _ ((hrefused .two rfl).2.1 htaken))⟩
  · obtain ⟨last, rack', refused, hrun, hanswer, -, -, hrefused⟩ := hbind 1 fresh hdevice 1 1
    have hfree : ¬rack.TakenBeside 1 .one := by
      rintro ⟨other, -, hother⟩
      have hmem := (hlisted .one).mpr ⟨other, hother⟩
      rw [hattached] at hmem
      exact absurd hmem (by decide)
    cases refused with
    | ok _ => exact ⟨last, rack', hrun, hanswer⟩
    | error error => exact absurd ((hrefused .one rfl).1.mp ⟨error, rfl⟩) hfree

end Racks

end SpiDisk
