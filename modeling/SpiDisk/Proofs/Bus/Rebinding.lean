import SpiDisk.Proofs.Bus.Registry

/-!
# `SpiDisk.Proofs.Bus.Rebinding` — what a refused binding leaves behind

A byte that names no line is refused before anything is done. A line of another device is refused only
after the bus and the channel's own line have been given up: a device that had no line is as it was, and
one that wanted to move is left without a line, in step with the register. Nobody else is touched.

## Contents
- **A channel.** `ChannelM.Vacated`, what giving up a line changes, and `ChannelM.refused_bindTo`.
- **Racks.** `Rack.Vacates`, `Furnished.bind_refused`, and the device that loses its line,
  `line_lost_by_refusal`.
-/

namespace SpiDisk

/-! ## A channel -/

namespace ChannelM

open SessionM

variable {H C : Type} {s : Session (Channel H) C}

/-- The channel has no line in `s'`, and the register of `s'` is that of `s` without the line that the
    channel had there. -/
structure Vacated (s s' : Session (Channel H) C) : Prop where
  intro ::
  line : s'.device.line = none
  attached : s'.env.bus.attached = s.env.bus.attached.filter fun line => s.device.line ≠ some line

theorem vacated_unbind (s : Session (Channel H) C) : Ensures unbind s fun _ s' => Vacated s s' := by
  refine ensures_unbind (fun hnone => ⟨hnone, ?_⟩) fun own hown => ⟨rfl, ?_⟩
  · rw [hnone]
    exact (List.filter_eq_self.mpr fun _ _ => rfl).symm
  · show (s.env.bus.detach own).attached = _
    rw [hown]
    refine List.filter_congr fun line _ => decide_eq_decide.mpr ?_
    rw [ne_eq, ne_eq, Option.some_inj, eq_comm]

/-- A line that is refused changes nothing. -/
theorem refused_take (line : Line) (s : Session (Channel H) C) :
    Ensures (take line) s fun outcome s' => ∀ refusal, outcome = .error refusal → s' = s :=
  ensures_take (fun _ _ _ _ => rfl) fun _ _ => nofun

theorem refused_rebind (line : Line) (s : Session (Channel H) C) :
    Ensures (rebind line) s fun outcome s' =>
      ∀ refusal, outcome = .error refusal → Vacated s s' := by
  refine ensures_bind (ensures_device ?_)
  split
  · exact ensures_pure nofun
  · refine (vacated_unbind s).bind fun _ s₁ h₁ => ?_
    refine (refused_take line s₁).mono fun outcome s₂ h₂ refusal hrefused => ?_
    rw [h₂ refusal hrefused]
    exact h₁

variable [Host H]

/-- Leaving the bus clean touches no line. -/
theorem lines_shutdown (s : Session (Channel H) C) :
    Ensures shutdown s fun _ s' =>
      s'.device.line = s.device.line ∧ s'.env.bus.attached = s.env.bus.attached := by
  refine ensures_bind (ensures_device ?_)
  split
  · refine (reaches_deselect s).bind fun _ s₁ h₁ => ?_
    have hline : s₁.device.line = s.device.line := by
      rw [h₁.device]
      exact s.device.parted_kept.1
    have hattached : s₁.env.bus.attached = s.env.bus.attached := by rw [h₁.bus]
    intro _ s₂ hrun
    rw [release_apply] at hrun
    split at hrun
    · cases hrun
      exact ⟨hline, hattached⟩
    · cases hrun
      exact ⟨hline, hattached⟩
  · exact ensures_pure ⟨rfl, rfl⟩

/-- **A refusal** comes before anything is done, or after the channel has given up its own line. -/
theorem refused_bindTo (id : UInt8) (s : Session (Channel H) C) :
    Ensures (bindTo id) s fun outcome s' => ∀ refusal, outcome = .error refusal →
      (Line.ofByte id = .error refusal ∧ s' = s) ∨
        (∃ line, Line.ofByte id = .ok line) ∧ Vacated s s' := by
  unfold bindTo
  cases Line.ofByte id with
  | error refusal =>
    refine ensures_pure ?_
    rintro _ ⟨⟩
    exact .inl ⟨rfl, rfl⟩
  | ok line =>
    refine (lines_shutdown s).bind ?_
    rintro _ s₁ ⟨hline, hattached⟩
    refine (refused_rebind line s₁).bind ?_
    rintro (refusal | _) s₂ h₂
    · refine ensures_pure fun _ _ => .inr ⟨⟨line, rfl⟩, ?_⟩
      obtain ⟨hnone, hleft⟩ := h₂ refusal rfl
      rw [hline, hattached] at hleft
      exact ⟨hnone, hleft⟩
    · exact ensures_bind (ensures_onDevice (ensures_bind (ensures_report (ensures_pure nofun))))

end ChannelM

/-! ## Racks -/

section Racks

open SessionM ChannelM

variable {H C : Type}

theorem Device.setLink_link (device : Device H) : device.setLink device.link = device := by
  cases device <;> rfl

namespace Rack

variable {rack rack' : Rack H C} {place : Nat} {device : Device H}

/-- Putting back the device that is there changes nothing. -/
theorem set_device (h : rack.device? place = some device) :
    rack.devices.set place (some device) = rack.devices := by
  have hplace : rack.devices[place]? = some (some device) := Option.join_eq_some_iff.mp h
  apply List.ext_getElem?
  intro other
  rw [List.getElem?_set]
  split
  · rename_i heq
    subst heq
    rw [hplace, if_pos (lt_length_of_device? h)]
  · rfl

/-- In `rack'` the device at a place has no line, and nothing else is different from `rack` as far as
    lines go. -/
structure Vacates (rack : Rack H C) (place : Nat) (rack' : Rack H C) : Prop where
  others : ∀ other, other ≠ place → rack'.device? other = rack.device? other
  line : rack'.line? place = none
  attached : rack'.env.bus.attached =
    rack.env.bus.attached.filter fun line => rack.line? place ≠ some line

/-- A device that had no line has lost none. -/
theorem Vacates.attached_of_none (h : rack.Vacates place rack') (hnone : rack.line? place = none) :
    rack'.env.bus.attached = rack.env.bus.attached := by
  rw [h.attached, hnone]
  exact List.filter_eq_self.mpr fun _ _ => rfl

theorem Vacates.attached_of_some (h : rack.Vacates place rack') {own : Line}
    (hown : rack.line? place = some own) :
    rack'.env.bus.attached = rack.env.bus.attached.filter (· ≠ own) := by
  rw [h.attached, hown]
  refine List.filter_congr fun line _ => decide_eq_decide.mpr ?_
  rw [ne_eq, ne_eq, Option.some_inj, eq_comm]

theorem Vacates.taken (h : rack.Vacates place rack') {line : Line} (htaken : rack.TakenBeside place line) :
    rack'.TakenBeside place line := by
  obtain ⟨other, hne, hother⟩ := htaken
  refine ⟨other, hne, ?_⟩
  rw [line?, h.others other hne]
  exact hother

variable [Host H] [TickSource C]

/-- A line that was given up is nobody's, and goes to whoever asks for it. -/
theorem Vacates.freed (h : rack.Vacates place rack') (hregistered : rack'.Registered) {own : Line}
    (hown : rack.line? place = some own) {other : Nat} (hdevice : rack'.device? other = some device)
    (patience : Nat) :
    device.link.line ≠ some own ∧ ∃ outcome rack'',
      rack'.perform patience other (.onChannel (.bind own.mask)) = some (outcome, rack'') ∧
      outcome.answer = .bound (.ok ()) := by
  have hnobody : ∀ holder, rack'.line? holder ≠ some own := by
    intro holder hholder
    have hlisted := (hregistered.listed own).mpr ⟨holder, hholder⟩
    rw [h.attached_of_some hown, List.mem_filter] at hlisted
    exact of_decide_eq_true hlisted.2 rfl
  refine ⟨line?_of_device? hdevice ▸ hnobody other, ?_⟩
  obtain ⟨outcome, rack'', refused, hrun, hanswer, hdecided⟩ :=
    hregistered.bind hdevice patience own.mask
  rw [Line.ofByte_mask] at hdecided
  have hfree : ¬rack'.TakenBeside other own := fun ⟨holder, _, hholder⟩ => hnobody holder hholder
  exact ⟨outcome, rack'', hrun, hanswer.trans (congrArg _ (hdecided.2 hfree).1)⟩

/-- A device that is refused was there, and was refused on its own channel. -/
theorem bind_begun {patience : Nat} {id : UInt8} {outcome : Outcome} {refusal : BusError}
    (hrun : rack.perform patience place (.onChannel (.bind id)) = some (outcome, rack'))
    (hrefused : outcome.answer = .bound (.error refusal)) :
    ∃ device s, rack.device? place = some device ∧
      bindTo id (Session.at ⟨device, rack.env⟩ Device.link) = some (.error refusal, s) ∧
      rack' = ⟨rack.devices.set place (some (device.setLink s.device)), s.env⟩ := by
  cases hdevice : rack.device? place with
  | none =>
    rw [perform_empty hdevice] at hrun
    cases hrun
    cases hrefused
  | some device =>
    rw [perform_bind hdevice] at hrun
    obtain ⟨⟨bound, s⟩, hbind, heq⟩ := Option.map_eq_some_iff.mp hrun
    cases heq
    obtain rfl : bound = .error refusal := Answer.bound.inj hrefused
    exact ⟨device, s, rfl, hbind, rfl⟩

/-- What a refused binding comes to: nothing was done, or the device gave up its line and no more. -/
theorem bind_cases {patience : Nat} {id : UInt8} {outcome : Outcome} {refusal : BusError}
    (hrun : rack.perform patience place (.onChannel (.bind id)) = some (outcome, rack'))
    (hrefused : outcome.answer = .bound (.error refusal)) :
    (Line.ofByte id = .error refusal ∧ rack' = rack) ∨
      (∃ line, Line.ofByte id = .ok line) ∧ rack.Vacates place rack' := by
  obtain ⟨device, s, hdevice, hbind, rfl⟩ := bind_begun hrun hrefused
  rcases refused_bindTo id _ _ _ hbind refusal rfl with ⟨hid, rfl⟩ | ⟨hid, hnone, hattached⟩
  · refine .inl ⟨hid, ?_⟩
    have hsame : (Session.at ⟨device, rack.env⟩ Device.link).device = device.link := rfl
    rw [hsame, Device.setLink_link, set_device hdevice]
    rfl
  · refine .inr ⟨hid, fun other hne => ?_, ?_, ?_⟩
    · rw [device?_set hdevice, if_neg hne]
    · have hself := device?_set hdevice (some (device.setLink s.device)) s.env place
      rw [if_pos rfl] at hself
      rw [line?_of_device? hself, Device.link_setLink]
      exact hnone
    · rw [line?_of_device? hdevice]
      exact hattached

end Rack

variable [Host H] [TickSource C]

/-- **A refused binding.** A byte that names no line is refused before anything is done. A device that
    asks for the line of another one is told so and takes nothing away from it: all other devices stay
    what they are. It stays without a line if it had none, and then the register is what it was. If it
    had one it has lost it: the register is what it was without that line, which is nobody's then and
    goes to whoever asks for it. -/
theorem Furnished.bind_refused {rack rack' : Rack H C} (h : Furnished rack) {patience place : Nat}
    {id : UInt8} {outcome : Outcome} {refusal : BusError}
    (hrun : rack.perform patience place (.onChannel (.bind id)) = some (outcome, rack'))
    (hrefused : outcome.answer = .bound (.error refusal)) :
    (refusal = .invalidChannel id ∧ rack' = rack) ∨
      refusal = .channelInUse id ∧
        (∃ line, Line.ofByte id = .ok line ∧ rack.TakenBeside place line ∧
          rack'.TakenBeside place line) ∧
        (∀ other, other ≠ place → rack'.device? other = rack.device? other) ∧
        rack'.line? place = none ∧
        (rack.line? place = none → rack'.env.bus.attached = rack.env.bus.attached) ∧
        ∀ own, rack.line? place = some own →
          own ∈ rack.env.bus.attached ∧
          rack'.env.bus.attached = rack.env.bus.attached.filter (· ≠ own) ∧
          ∀ other device, rack'.device? other = some device → ∀ patience,
            device.link.line ≠ some own ∧ ∃ outcome rack'',
              rack'.perform patience other (.onChannel (.bind own.mask)) = some (outcome, rack'') ∧
              outcome.answer = .bound (.ok ()) := by
  rcases Rack.bind_cases hrun hrefused with ⟨hid, hsame⟩ | ⟨⟨line, hid⟩, hvacates⟩
  · exact .inl ⟨Line.refusal_ofByte hid, hsame⟩
  -- only a line that another device has is refused
  obtain ⟨htold, htaken⟩ : refusal = .channelInUse id ∧ rack.TakenBeside place line := by
    obtain ⟨device, -, hdevice, -⟩ := Rack.bind_begun hrun hrefused
    obtain ⟨_, _, refused, hrun', hanswer, hdecided⟩ := h.registered.bind hdevice patience id
    rw [hrun] at hrun'
    cases hrun'
    rw [hid] at hdecided
    obtain rfl : refused = .error refusal := Answer.bound.inj (hanswer.symm.trans hrefused)
    by_cases hbeside : rack.TakenBeside place line
    · exact ⟨Except.error.inj (hdecided.1 hbeside), hbeside⟩
    · exact nomatch (hdecided.2 hbeside).1
  refine .inr ⟨htold, ⟨line, hid, htaken, hvacates.taken htaken⟩, hvacates.others, hvacates.line,
    hvacates.attached_of_none, fun own hown => ⟨?_, hvacates.attached_of_some hown, ?_⟩⟩
  · exact (h.registered.listed own).mpr ⟨place, hown⟩
  · exact fun other device hdevice patience =>
      hvacates.freed (h.act hrun).registered hown hdevice patience

/-- A rack of three devices on two lines. -/
def crowded : Rack SimCard Counter where
  devices := [some (.channel { host := .new .sdhc, line := some .one }),
    some (.channel { host := .new .sdhc, line := some .two }),
    some (.channel { host := .new .sdhc })]
  env := { clock := { value := 0 }, bus := { attached := [.one, .two] } }

theorem furnished_crowded : Furnished crowded := by
  let fresh : Device SimCard := .channel { host := .new .sdhc }
  let start : Rack SimCard Counter := Rack.empty { clock := { value := 0 } }
  have hthree : Furnished (((start.add fresh).add fresh).add fresh) :=
    .add (.add (.add (.start rfl) rfl) rfl) rfl
  obtain ⟨outcome, first, outcome', hfirst, hsecond⟩ : ∃ outcome first outcome',
      (((start.add fresh).add fresh).add fresh).perform 1 0 (.onChannel (.bind 1)) =
        some (outcome, first) ∧
      first.perform 1 1 (.onChannel (.bind 2)) = some (outcome', crowded) :=
    ⟨_, _, _, rfl, rfl⟩
  exact .act (.act hthree hfirst) hsecond

/-- **A refusal costs the line.** The first device has a line of its own and asks for that of the second
    one. It is refused, has no line any more, and the third one gets the line that it had. -/
theorem line_lost_by_refusal :
    ∃ outcome rack' outcome' rack'', Furnished crowded ∧ crowded.line? 0 = some .one ∧
      crowded.perform 1 0 (.onChannel (.bind 2)) = some (outcome, rack') ∧
      outcome.answer = .bound (.error (.channelInUse 2)) ∧
      rack'.line? 0 = none ∧ rack'.env.bus.attached = [.two] ∧
      rack'.perform 1 2 (.onChannel (.bind 1)) = some (outcome', rack'') ∧
      outcome'.answer = .bound (.ok ()) ∧ rack''.line? 2 = some .one :=
  ⟨_, _, _, _, furnished_crowded, rfl, rfl, rfl, rfl, rfl, rfl, rfl, rfl⟩

/-- The second device asks for the line of the first one: it loses the second line, which the third
    device gets then. -/
theorem bind_refused_crowded :
    ∃ outcome rack', crowded.perform 1 1 (.onChannel (.bind 1)) = some (outcome, rack') ∧
      outcome.answer = .bound (.error (.channelInUse 1)) ∧ rack'.line? 1 = none ∧
      rack'.env.bus.attached = [.one] ∧
      ∃ outcome' rack'', rack'.perform 1 2 (.onChannel (.bind 2)) = some (outcome', rack'') ∧
        outcome'.answer = .bound (.ok ()) := by
  obtain ⟨outcome, rack', device, hrun, hrefused, hthird⟩ : ∃ outcome rack' device,
      crowded.perform 1 1 (.onChannel (.bind 1)) = some (outcome, rack') ∧
      outcome.answer = .bound (.error (.channelInUse 1)) ∧ rack'.device? 2 = some device :=
    ⟨_, _, _, rfl, rfl, rfl⟩
  rcases furnished_crowded.bind_refused hrun hrefused with ⟨hno, -⟩ | ⟨-, -, -, hnone, -, hlost⟩
  · cases hno
  obtain ⟨-, hleft, hfreed⟩ := hlost .two rfl
  exact ⟨outcome, rack', hrun, hrefused, hnone, hleft, (hfreed 2 device hthird 1).2⟩

end Racks

end SpiDisk
