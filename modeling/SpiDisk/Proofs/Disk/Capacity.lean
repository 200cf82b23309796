import SpiDisk.Proofs.Card.DataCommands
import SpiDisk.Proofs.Disk.Geometry

/-!
# `SpiDisk.Proofs.Disk.Capacity` — a unit advertises no sector that it refuses

A unit's geometry belongs to its card: it is all zero while no card is up, and the layout of the card's
size while one is, through every bring-up that succeeds, fails half way or is not even begun. So the
answer by which the unit introduces itself never names a sector that lies off the card, and none that has
no argument.

## Contents
- **Reachable states.** `Disk.Reached`: what a unit's own calls lead to, over a board and in
  surroundings that may change in between.
- **The invariant.** `Disk.Consistent`, with one lemma for each way to change a unit, and
  `Disk.Reached.consistent`.
- **Range.** `Disk.Accepts`: a run that no transfer refuses, and `Disk.Consistent.accepts`.
- **Capacities.** `Disk.Reached.accepts_advertised`.
-/

namespace SpiDisk

namespace Disk

open SessionM ChannelM

variable {H C : Type} [Host H] [TickSource C]

/-! ## Reachable states -/

/-- The states that a unit's own calls lead to, from a new unit on. Between two calls the board and the
    surroundings may turn into any others. -/
inductive Reached : Session (Disk H) C → Prop
  | new (host : H) (number wiredTo : UInt8) (env : Env C) : Reached ⟨new host number wiredTo, env⟩
  | call {s s' : Session (Disk H) C} {answer : Answer} (patience : Nat) (action : DiskAction)
      (hrun : action.run patience s = some (answer, s')) : Reached s → Reached s'
  | meanwhile {s : Session (Disk H) C} (host : H) (env : Env C) :
      Reached s → Reached ⟨{ s.device with card.channel.host := host }, env⟩

theorem Reached.bringUp {s s' : Session (Disk H) C} {patience : Nat} {up : Bool}
    (hup : Disk.bringUp patience s = some (up, s')) (h : Reached s) : Reached s' := by
  have hrun : DiskAction.bringUp.run patience s = some (.flag up, s') :=
    bind_eq hup
  exact .call patience .bringUp hrun h

/-! ## The invariant -/

/-- A unit whose geometry is that of its card. A card that is present was measured and is used at full
    speed. -/
structure Consistent (disk : Disk H) : Prop where
  absent : disk.card.info.isPresent = false → disk.geometry = {}
  present : disk.card.info.isPresent = true →
    disk.geometry = Geometry.ofSectors disk.card.info.totalSectors
  measured : disk.card.info.isPresent = true → disk.card.info.Measured
  fast : disk.card.info.isPresent = true → disk.channel.speed = .fast

omit [Host H] in
/-- A unit that knows of no card, and has no geometry. -/
theorem Consistent.of_blank {disk : Disk H} (hinfo : disk.card.info = {})
    (hgeometry : disk.geometry = {}) : Consistent disk := by
  have habsent : disk.card.info.isPresent = false := by rw [hinfo]; rfl
  constructor
  · exact fun _ => hgeometry
  all_goals
    intro hpresent
    rw [habsent] at hpresent
    cases hpresent

omit [Host H] in
/-- What no transfer changes of a unit is all that matters, but for the speed. -/
theorem Consistent.of_same {disk disk' : Disk H} (h : Consistent disk) (hsame : SameUnit disk disk')
    (hfast : disk.channel.speed = .fast → disk'.channel.speed = .fast) : Consistent disk' := by
  obtain ⟨hinfo, -, -, hgeometry⟩ := hsame
  constructor
  all_goals
    rw [hinfo]
    intro hpresent
  · exact hgeometry.trans (h.absent hpresent)
  · exact hgeometry.trans (h.present hpresent)
  · exact h.measured hpresent
  · exact hfast (h.fast hpresent)

/-- **Bringing up.** Whether it succeeds, ends half way or is not even begun, the geometry is that of the
    card. -/
theorem consistent_bringUp (patience : Nat) {s : Session (Disk H) C} (h : Consistent s.device) :
    Ensures (bringUp patience) s fun _ s' => Consistent s'.device := by
  refine ensures_bind (ensures_device ?_)
  split
  · exact ensures_bind (ensures_report (ensures_pure h))
  refine ensures_bind (ensures_onDevice ?_)
  refine ensures_bind (ensures_within (Card.ensures_forget ?_))
  -- the unit is blank from here on, until its card is up
  refine Ensures.bind (same_onChannel (Card.info_onChannel _ _)) ?_
  rintro (error | _) s₁ h₁
  · exact ensures_bind (ensures_report (ensures_pure (.of_blank h₁.info h₁.geometry)))
  have hgeometry : Ensures (onCard (Card.bringUp patience)) s₁ fun _ s₂ =>
      s₂.device.geometry = {} := ensures_within (ensures_any fun _ _ => h₁.geometry)
  have hcard : Ensures (onCard (Card.bringUp patience)) s₁ _ :=
    ensures_onCard ((Card.measured_bringUp patience _).and (Card.forgotten_bringUp patience _))
  refine (hcard.and hgeometry).bind ?_
  rintro (error | _) s₂ ⟨⟨hup, hforgotten⟩, hzero⟩
  · exact ensures_bind (ensures_report (ensures_pure (.of_blank (hforgotten nofun) hzero)))
  obtain ⟨hpresent, hmeasured, hfast⟩ := hup rfl
  refine ensures_bind (ensures_device (ensures_bind (ensures_onDevice ?_)))
  refine ensures_bind (ensures_report (ensures_pure ?_))
  refine ⟨fun habsent => ?_, fun _ => rfl, fun _ => hmeasured, fun _ => hfast⟩
  rw [show s₂.device.card.info.isPresent = true from hpresent] at habsent
  cases habsent

/-- **Step.** Every call keeps the geometry that of the card. -/
theorem consistent_run (patience : Nat) (action : DiskAction) {s : Session (Disk H) C}
    (h : Consistent s.device) :
    Ensures (action.run patience) s fun _ s' => Consistent s'.device := by
  cases action with
  | bringUp => exact (consistent_bringUp patience h).bind fun _ _ h₁ => ensures_pure h₁
  | read lba count buffer =>
    have hspeed : Ensures (read patience lba count buffer) s fun _ s' =>
        s.device.channel.speed = .fast → s'.device.channel.speed = .fast :=
      fun a s' hrun hfast => ((throughout_read fast_invariant patience lba count buffer hfast).back a s' hrun).1
    exact ((same_read patience lba count buffer s).and hspeed).bind fun _ _ h₁ =>
      ensures_pure (h.of_same h₁.1 h₁.2)
  | write lba count bytes =>
    have hspeed : Ensures (write patience lba count bytes) s fun _ s' =>
        s.device.channel.speed = .fast → s'.device.channel.speed = .fast :=
      fun a s' hrun hfast => ((throughout_write fast_invariant patience lba count bytes hfast).back a s' hrun).1
    exact ((same_write patience lba count bytes s).and hspeed).bind fun _ _ h₁ =>
      ensures_pure (h.of_same h₁.1 h₁.2)
  | _ =>
    refine (Action.quiet_onDisk patience rfl s).mono ?_
    rintro _ _ ⟨log, rfl⟩
    exact h

/-- **Run.** In every reachable state the geometry is that of the card. -/
theorem Reached.consistent {s : Session (Disk H) C} (h : Reached s) : Consistent s.device := by
  induction h with
  | new host number wiredTo env => exact .of_blank rfl rfl
  | call patience action hrun _ ih => exact consistent_run patience action ih _ _ hrun
  | meanwhile host env _ ih => exact ih.of_same ⟨rfl, rfl, rfl, rfl⟩ id

/-! ## Range -/

/-- The last that was reported is a failure of the card, other than that the run is out of range. -/
def ReportedInRange (note : CardError → DiskNote) (s : Session (Disk H) C) : Prop :=
  ∃ error, error ≠ .outOfRange ∧ ∃ before : Session (Disk H) C,
    s = { before with env.log := before.env.log.report (note error) }

/-- A unit that takes `count` sectors at `lba` for a run of its card: the range check lets it pass with
    the argument of the first sector, no transfer of it is refused by the card as out of range, and one
    that the unit gives up was given up for another reason. -/
structure Accepts (s : Session (Disk H) C) (lba : UInt32) (count : Nat) : Prop where
  argument : s.device.card.info.runAddress lba count = .ok (s.device.card.info.argument lba)
  cardRead : ∀ patience (buffer : List UInt8), buffer.length / sectorSize = count →
    Ensures (onCard (Card.read patience lba buffer)) s fun result _ => result.1 ≠ .error .outOfRange
  cardWrite : ∀ patience (bytes : List UInt8), bytes.length / sectorSize = count →
    Ensures (onCard (Card.write patience lba bytes)) s fun outcome _ => outcome ≠ .error .outOfRange
  read : ∀ patience (sectors : UInt32) (buffer : List UInt8), sectors.toNat = count →
    Ensures (read patience lba sectors buffer) s fun result s' => result.1 = .error .aborted →
      ReportedInRange (.readAborted lba sectors) s'
  write : ∀ patience (sectors : UInt32) (bytes : List UInt8), sectors.toNat = count →
    Ensures (write patience lba sectors bytes) s fun outcome s' => outcome = .error .aborted →
      ReportedInRange (.writeAborted lba sectors) s'

section Range

variable {s : Session (Disk H) C} {lba : UInt32} {count : Nat}

omit [Host H] [TickSource C] in
/-- The argument of a run that lies on the card of a consistent unit, in byte offsets as well. -/
theorem Consistent.argument (h : Consistent s.device)
    (hpresent : s.device.card.info.isPresent = true) (hcount : 0 < count)
    (hrange : lba.toNat + count ≤ s.device.card.info.totalSectors.toNat) :
    s.device.card.info.runAddress lba count = .ok (s.device.card.info.argument lba) := by
  rw [CardInfo.runAddress_eq _ (h.measured hpresent).addressable lba hcount, if_pos hrange]

theorem Consistent.cardRead (h : Consistent s.device)
    (hpresent : s.device.card.info.isPresent = true) (hcount : 0 < count)
    (hrange : lba.toNat + count ≤ s.device.card.info.totalSectors.toNat) (patience : Nat)
    {buffer : List UInt8} (hlength : buffer.length / sectorSize = count) :
    Ensures (onCard (Card.read patience lba buffer)) s fun result _ =>
      result.1 ≠ .error .outOfRange := by
  subst hlength
  have haddress := h.argument hpresent hcount hrange
  have hcarried := Card.carried_read (s := s.at Disk.card) patience hpresent (by omega) haddress
    (h.fast hpresent)
  exact ensures_onCard (hcarried.mono fun _ _ h => h.ended.inRange)

theorem Consistent.cardWrite (h : Consistent s.device)
    (hpresent : s.device.card.info.isPresent = true) (hcount : 0 < count)
    (hrange : lba.toNat + count ≤ s.device.card.info.totalSectors.toNat) (patience : Nat)
    {bytes : List UInt8} (hlength : bytes.length / sectorSize = count) :
    Ensures (onCard (Card.write patience lba bytes)) s fun outcome _ =>
      outcome ≠ .error .outOfRange := by
  subst hlength
  have haddress := h.argument hpresent hcount hrange
  have hcarried := Card.carried_write (s := s.at Disk.card) patience hpresent (by omega) haddress
    (h.fast hpresent)
  exact ensures_onCard (hcarried.mono fun _ _ h => h.ended.inRange)

omit [Host H] [TickSource C] in
theorem sectors_take {sectors : UInt32} {buffer : List UInt8}
    (hfits : sectors.toNat * sectorSize ≤ buffer.length) :
    (buffer.take (sectors.toNat * sectorSize)).length / sectorSize = sectors.toNat := by
  rw [List.length_take, Nat.min_eq_left hfits]
  exact Nat.mul_div_cancel _ (by decide)

/-- What a unit gives up of a run on its card is not given up as out of range. -/
theorem Consistent.read (h : Consistent s.device) (hpresent : s.device.card.info.isPresent = true)
    {sectors : UInt32} (hcount : 0 < sectors.toNat)
    (hrange : lba.toNat + sectors.toNat ≤ s.device.card.info.totalSectors.toNat) (patience : Nat)
    (buffer : List UInt8) :
    Ensures (read patience lba sectors buffer) s fun result s' => result.1 = .error .aborted →
      ReportedInRange (.readAborted lba sectors) s' := by
  obtain ⟨next, hread, hnext⟩ := resumes_read (H := H) (C := C) patience lba sectors buffer
  rw [hread]
  refine hnext.ensures (fun _ _ hdue haborted => absurd haborted (Due.ne_aborted hdue)) ?_
  intro hasked
  refine (h.cardRead hpresent hcount hrange patience (sectors_take hasked.fits)).mono ?_
  rintro ⟨error | _, front⟩ s₁ hinRange
  · exact fun _ => ⟨error, fun heq => hinRange (congrArg Except.error heq), s₁, rfl⟩
  · exact nofun

theorem Consistent.write (h : Consistent s.device) (hpresent : s.device.card.info.isPresent = true)
    {sectors : UInt32} (hcount : 0 < sectors.toNat)
    (hrange : lba.toNat + sectors.toNat ≤ s.device.card.info.totalSectors.toNat) (patience : Nat)
    (bytes : List UInt8) :
    Ensures (write patience lba sectors bytes) s fun outcome s' => outcome = .error .aborted →
      ReportedInRange (.writeAborted lba sectors) s' := by
  obtain ⟨next, hwrite, hnext⟩ := resumes_write (H := H) (C := C) patience lba sectors bytes
  rw [hwrite]
  refine hnext.ensures (fun _ _ hdue haborted => absurd haborted (Due.ne_aborted hdue)) ?_
  intro hasked
  refine (h.cardWrite hpresent hcount hrange patience (sectors_take hasked.fits)).mono ?_
  rintro (error | _) s₁ hinRange
  · exact fun _ => ⟨error, fun heq => hinRange (congrArg Except.error heq), s₁, rfl⟩
  · exact nofun

/-- **A run on the card is accepted** by a consistent unit. -/
theorem Consistent.accepts (h : Consistent s.device)
    (hpresent : s.device.card.info.isPresent = true) (hcount : 0 < count)
    (hrange : lba.toNat + count ≤ s.device.card.info.totalSectors.toNat) : Accepts s lba count where
  argument := h.argument hpresent hcount hrange
  cardRead patience _ hlength := h.cardRead hpresent hcount hrange patience hlength
  cardWrite patience _ hlength := h.cardWrite hpresent hcount hrange patience hlength
  read patience sectors buffer hsectors := by
    subst hsectors
    exact h.read hpresent hcount hrange patience buffer
  write patience sectors bytes hsectors := by
    subst hsectors
    exact h.write hpresent hcount hrange patience bytes

end Range

/-! ## Capacities -/

omit [Host H] [TickSource C] in
/-- An answer is given only if there is a card, and begins with its words and those of the geometry. -/
theorem ensures_identify (buffer : List UInt16) (s : Session (Disk H) C) :
    Ensures (identify buffer) s fun result s' => result.1 = true →
      s.device.card.info.isPresent = true ∧ s' = s ∧
        result.2 = Identify.words s.device.card.info.cid s.device.geometry ++
          buffer.drop Identify.size := by
  intro result s' hrun hdone
  by_cases hable : s.device.card.info.isPresent = true ∧ Identify.size ≤ buffer.length
  · rw [identify_present hable.1 hable.2] at hrun
    cases hrun
    exact ⟨hable.1, rfl, rfl⟩
  · obtain ⟨log, hrefused⟩ := identify_refused hable
    rw [hrefused] at hrun
    cases hrun
    cases hdone

/-- **A unit advertises no sector that it refuses.** Whatever calls of its own a unit has behind it, its
    geometry is all zero if no card is up, and the layout of its card's size if one is. An answer by which
    it introduces itself advertises no more sectors by its cylinders than it does by their number, and no
    more by their number than the card has or than 28 bits can count; and every run of sectors below one
    of the two capacities is accepted by the range check of reading and writing. -/
theorem Reached.accepts_advertised {s : Session (Disk H) C} (h : Reached s) :
    (s.device.card.info.isPresent = false → s.device.geometry = {}) ∧
    (s.device.card.info.isPresent = true →
      s.device.geometry = Geometry.ofSectors s.device.card.info.totalSectors) ∧
    ∀ buffer, Ensures (identify buffer) s fun result s' => result.1 = true →
      Identify.cylinderCapacity result.2 ≤ Identify.sectorCapacity result.2 ∧
      Identify.sectorCapacity result.2 ≤ min s.device.card.info.totalSectors.toNat 0x0FFFFFFF ∧
      ∀ (lba : UInt32) (count : Nat), 0 < count →
        (lba.toNat + count ≤ Identify.cylinderCapacity result.2 ∨
          lba.toNat + count ≤ Identify.sectorCapacity result.2) →
        Accepts s' lba count := by
  have hconsistent := h.consistent
  refine ⟨hconsistent.absent, hconsistent.present, fun buffer => (ensures_identify buffer s).mono ?_⟩
  rintro ⟨-, answer⟩ s' hanswer rfl
  obtain ⟨hpresent, rfl, hwords⟩ := hanswer rfl
  dsimp only at hwords ⊢
  rw [hconsistent.present hpresent] at hwords
  have hfirst : Identify.cylinderCapacity answer ≤ Identify.sectorCapacity answer := by
    rw [hwords]
    exact Identify.cylinderCapacity_le _ _ _
  have hsecond : Identify.sectorCapacity answer ≤
      min s'.device.card.info.totalSectors.toNat 0x0FFFFFFF := by
    rw [hwords]
    exact Identify.sectorCapacity_le _ _ _
  refine ⟨hfirst, hsecond, fun lba count hcount hrange => ?_⟩
  have htotal := Nat.le_trans hsecond (Nat.min_le_left _ _)
  exact hconsistent.accepts hpresent hcount (by omega)

/-- A card of two terabytes is cut twice: to 65535 cylinders, and to the sectors that 28 bits can count.
    The last sector of each capacity is accepted. -/
theorem accepts_advertised_oversized :
    let card : SimCard := { SimCard.new .sdhc with
      csd := { SimCard.sampleCsd .sdhc with deviceSize := 4194302 } }
    ∃ s s' answer, Reached s ∧
      bringUp 200 ⟨new card 0 1, { clock := { value := 0 : Counter } }⟩ = some (true, s) ∧
      identify (List.replicate 256 0) s = some ((true, answer), s') ∧
      Identify.cylinderCapacity answer = 267382800 ∧ Identify.sectorCapacity answer = 0x0FFFFFFF ∧
      Accepts s' 267382799 1 ∧ Accepts s' 0x0FFFFFFE 1 := by
  intro card
  let env : Env Counter := { clock := { value := 0 } }
  have hback : (bringUp 200 ⟨new card 0 1, env⟩).any (fun up =>
      up.1 && decide (up.2.device.card.info.isPresent = true ∧
        up.2.device.card.info.totalSectors = 4294966272)) = true := by decide +kernel
  obtain ⟨⟨up, s⟩, hup, hfound⟩ := (Option.any_eq_true _ _).mp hback
  obtain ⟨rfl, hfound⟩ := Bool.and_eq_true_iff.mp hfound
  obtain ⟨hpresent, htotal⟩ := of_decide_eq_true hfound
  dsimp only at hpresent htotal
  have hreached : Reached s := .bringUp hup (.new card 0 1 env)
  obtain ⟨-, hgeometry, haccepts⟩ := Reached.accepts_advertised hreached
  have hgeometry := hgeometry hpresent
  rw [htotal] at hgeometry
  have hlength : Identify.size ≤ (List.replicate 256 (0 : UInt16)).length :=
    Nat.le_of_eq List.length_replicate.symm
  have htold := identify_present hpresent hlength
  have haccepts := (haccepts _ _ _ htold rfl).2.2
  dsimp only at haccepts
  rw [hgeometry] at htold haccepts
  have hlayout : (Geometry.ofSectors 4294966272).heads.toNat = 16 ∧
      (Geometry.ofSectors 4294966272).sectorsPerTrack.toNat = 255 := by decide +kernel
  have hcylinders : Identify.cylinderCapacity (Identify.words s.device.card.info.cid
      (.ofSectors 4294966272) ++ (List.replicate 256 0).drop Identify.size) = 267382800 := by
    rw [Identify.cylinderCapacity_words _ _ _ hlayout.1 hlayout.2 (by decide) (by decide)]
    decide +kernel
  have hsectors : Identify.sectorCapacity (Identify.words s.device.card.info.cid
      (.ofSectors 4294966272) ++ (List.replicate 256 0).drop Identify.size) = 0x0FFFFFFF := by
    rw [Identify.sectorCapacity_words]
    decide +kernel
  rw [hcylinders, hsectors] at haccepts
  exact ⟨s, s, _, hreached, hup, htold, hcylinders, hsectors,
    haccepts 267382799 1 (by decide) (.inl (by decide)),
    haccepts 0x0FFFFFFE 1 (by decide) (.inr (by decide))⟩

end Disk

end SpiDisk
