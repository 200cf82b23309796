import SpiDisk.Disk.Basic
import SpiDisk.Proofs.Disk.Array
import SpiDisk.Proofs.Sim.BringUp

/-!
# `SpiDisk.Proofs.Disk.Refinement` — a disk is a plain array of sectors

A disk that was brought up answers every sequence of requests as the array does that its card is seen
as, whatever blocks and sectors are set to fail in between. What a step needs of the disk is named
`Holding`; every transfer keeps it up, and so does every setting of the knobs that a request makes.

## Contents
- **Requests.** `DiskRequest` and `DiskReply`, `SectorArray.serve` and `Disk.serve`.
- **Holding.** What a disk that was brought up keeps up.
- **Transfers.** `Disk.holding_read` and `Disk.holding_write`.
- **Runs.** `Disk.answers`, one request, and `Disk.serves_array`, all of them.
-/

namespace SpiDisk

/-! ## Requests -/

/-- What a disk on the bench is asked for. -/
inductive DiskRequest where
  | read (lba count : UInt32) (buffer : List UInt8)
  | write (lba count : UInt32) (buffer : List UInt8)
  /-- Choose the block that is going to be rejected. -/
  | failWrite (block : Option Nat)
  /-- Choose the sector that cannot be read. -/
  | failRead (lba : Option UInt32)

/-- What comes of a request. -/
inductive DiskReply where
  | read (outcome : Except DiskError Unit) (buffer : List UInt8)
  | write (outcome : Except DiskError Unit)
  | chosen

namespace SectorArray

/-- What an array makes of a request. -/
def answer (array : SectorArray) : DiskRequest → DiskReply × SectorArray
  | .read lba count buffer =>
    let (outcome, buffer) := array.read lba count.toNat buffer
    (.read outcome buffer, array)
  | .write lba count buffer =>
    let (outcome, array) := array.write lba count.toNat buffer
    (.write outcome, array)
  | .failWrite block => (.chosen, { array with failWrite := block })
  | .failRead lba => (.chosen, { array with failRead := lba })

/-- What an array makes of requests, one after the other. -/
def serve (array : SectorArray) : List DiskRequest → List DiskReply × SectorArray
  | [] => ([], array)
  | request :: rest =>
    let (reply, array) := array.answer request
    let (replies, array) := array.serve rest
    (reply :: replies, array)

end SectorArray

namespace Disk

open SessionM ChannelM

section Serving

variable {C : Type}

/-- Turn the knobs of the simulated card behind a disk. -/
def adjust (change : SimKnobs → SimKnobs) : SessionM (Disk SimCard) C Unit :=
  onDevice fun disk =>
    ((), { disk with card.channel.host.knobs := change disk.card.channel.host.knobs })

variable [TickSource C]

/-- What a disk makes of a request. -/
def answer (patience : Nat) : DiskRequest → SessionM (Disk SimCard) C DiskReply
  | .read lba count buffer => do
    let (outcome, buffer) ← read patience lba count buffer
    pure (.read outcome buffer)
  | .write lba count buffer => do
    let outcome ← write patience lba count buffer
    pure (.write outcome)
  | .failWrite block => do
    adjust fun knobs => { knobs with failWriteBlock := block }
    pure .chosen
  | .failRead lba => do
    adjust fun knobs => { knobs with failReadLba := lba }
    pure .chosen

/-- What a disk makes of requests, one after the other. -/
def serve (patience : Nat) : List DiskRequest → SessionM (Disk SimCard) C (List DiskReply)
  | [] => pure []
  | request :: rest => do
    let reply ← answer patience request
    let replies ← serve patience rest
    pure (reply :: replies)

end Serving

/-! ## Holding -/

variable {H C : Type} [CardBoard H] [TickSource C]

omit [TickSource C] in
/-- The array that a disk is seen as. -/
def array (s : Session (Disk H) C) : SectorArray :=
  (s.at channel).sim.array s.device.card.info.totalSectors.toNat

/-- A disk that was brought up: its card serves and is known as it is. -/
structure Holding (limit : Nat) (s : Session (Disk H) C) : Prop where
  serving : Serving limit (s.at channel)
  family : s.device.card.info.family = (s.at channel).sim.kind.family
  addressable : s.device.card.info.Addressable
  formatted : (s.at channel).sim.Formatted

variable {limit : Nat} {s s' : Session (Disk H) C}

omit [TickSource C] in
theorem array_of_media (hmedia : (s'.at channel).sim.media = (s.at channel).sim.media)
    (hinfo : s'.device.card.info = s.device.card.info) : array s' = array s := by
  unfold array
  rw [← SimCard.array_media, hmedia, SimCard.array_media, hinfo]

/-- What is written to the log does not matter. -/
theorem Holding.logged (h : Holding limit s) (log : Logger) :
    Holding limit { s with env.log := log } where
  serving := h.serving.served ⟨rfl, rfl, ⟨0, rfl⟩, id⟩ rfl h.serving.ready h.serving.busy
    h.serving.settled
  family := h.family
  addressable := h.addressable
  formatted := h.formatted

theorem Holding.kept (h : Holding limit s) (hserving : Serving limit (s'.at channel))
    (hinfo : s'.device.card.info = s.device.card.info)
    (hkind : (s'.at channel).sim.kind = (s.at channel).sim.kind)
    (hformatted : (s'.at channel).sim.Formatted) : Holding limit s' where
  serving := hserving
  family := by rw [hinfo, hkind]; exact h.family
  addressable := by rw [hinfo]; exact h.addressable
  formatted := hformatted

/-! ## Transfers -/

/-- The part of a buffer that a transfer leaves alone. -/
theorem drop_take_append_drop (bytes : List UInt8) {m n : Nat} (h : m ≤ n) :
    (bytes.take n).drop m ++ bytes.drop n = bytes.drop m := by
  have hdrop : bytes.drop n = (bytes.drop m).drop (n - m) := by
    rw [List.drop_drop]
    congr 1
    omega
  rw [List.drop_take, hdrop, List.take_append_drop]

/-- Measuring a transfer changes nothing but the log. -/
theorem holding_transferLength (h : Holding limit s) (available : Nat) (count : UInt32) :
    Ensures (transferLength available count) s fun result s' =>
      result = (if available < count.toNat * sectorSize then .error .badLength
        else .ok (count.toNat * sectorSize)) ∧ array s' = array s ∧ Holding limit s' := by
  refine ensures_bind (ensures_device ?_)
  rw [isPresent_of_kind h.family, if_neg (by decide)]
  dsimp only
  by_cases hfits : count.toNat * sectorSize ≤ available
  · rw [if_pos hfits, if_neg (by omega)]
    exact ensures_pure ⟨rfl, rfl, h⟩
  · rw [if_neg hfits, if_pos (by omega)]
    exact ensures_bind (ensures_report (ensures_pure ⟨rfl, rfl, h.logged _⟩))

/-- The card of a disk hands over the sectors that its array can read. -/
theorem holding_readCard (h : Holding limit s) (patience : Nat) (lba : UInt32) {count : Nat}
    (hcount : 0 < count) {buffer : List UInt8} (hlength : buffer.length = count * sectorSize) :
    Ensures (onCard (Card.read patience lba buffer)) s fun result s' =>
      result = (if (array s).total < lba.toNat + count then (.error .outOfRange, buffer)
        else (if (array s).readable lba count = count then .ok () else .error .badResponse,
          ((array s).run lba ((array s).readable lba count)).flatten ++
            buffer.drop ((array s).readable lba count * sectorSize))) ∧
        array s' = array s ∧ Holding limit s' := by
  have hsectors : buffer.length / sectorSize = count := by
    rw [hlength]
    exact Nat.mul_div_cancel count (by decide)
  refine ensures_within (ensures_bind (ensures_device (ensures_within ?_)))
  refine (serving_readSectors h.serving patience h.formatted h.family h.addressable lba buffer
    (by omega)).mono ?_
  rintro result s₁ ⟨hresult, hmedia, -, -, hserving⟩
  refine ⟨?_, array_of_media hmedia rfl, h.kept hserving rfl (SimCard.kind_of_media hmedia) ?_⟩
  · rw [hsectors] at hresult
    have htotal : (array s).total = s.device.card.info.totalSectors.toNat := rfl
    rw [hresult, htotal]
    by_cases hrange : lba.toNat + count ≤ s.device.card.info.totalSectors.toNat
    · have hbound : lba.toNat + count < 2 ^ 32 :=
        Nat.lt_of_le_of_lt hrange s.device.card.info.totalSectors.toNat_lt
      rw [if_pos hrange, if_neg (by omega),
        SimCard.fetch_eq _ s.device.card.info.totalSectors.toNat hbound]
      dsimp only
      rw [SectorArray.length_run]
      rfl
    · rw [if_neg hrange, if_pos (by omega)]
  · exact h.formatted.of_storage (SimCard.storage_of_media hmedia)

/-- **A disk is read** as its array is. -/
theorem holding_read (h : Holding limit s) (patience : Nat) (lba count : UInt32)
    (buffer : List UInt8) :
    Ensures (read patience lba count buffer) s fun result s' =>
      result = (array s).read lba count.toNat buffer ∧ array s' = array s ∧ Holding limit s' := by
  refine (holding_transferLength h buffer.length count).bind ?_
  rintro _ s₁ ⟨rfl, harray₁, h₁⟩
  unfold SectorArray.read
  by_cases hshort : buffer.length < count.toNat * sectorSize
  · rw [if_pos hshort, if_pos hshort]
    exact ensures_pure ⟨rfl, harray₁, h₁⟩
  rw [if_neg hshort, if_neg hshort]
  dsimp only
  by_cases hnone : count.toNat = 0
  · rw [if_pos (by rw [hnone, Nat.zero_mul]), if_pos hnone]
    exact ensures_pure ⟨rfl, harray₁, h₁⟩
  rw [if_neg (by show ¬ count.toNat * 512 = 0; omega), if_neg hnone]
  -- only the front of the buffer goes to the card, and what lies behind it is put back
  have hfront : (buffer.take (count.toNat * sectorSize)).length = count.toNat * sectorSize := by
    rw [List.length_take]
    omega
  refine (holding_readCard h₁ patience lba (Nat.pos_of_ne_zero hnone) hfront).bind ?_
  rintro _ s₂ ⟨rfl, harray₂, h₂⟩
  rw [harray₁]
  have harray : array s₂ = array s := harray₂.trans harray₁
  by_cases hrange : (array s).total < lba.toNat + count.toNat
  · rw [if_pos hrange, if_pos hrange]
    refine ensures_bind (ensures_report (ensures_pure ⟨?_, harray, h₂.logged _⟩))
    rw [List.take_append_drop]
  · rw [if_neg hrange, if_neg hrange]
    dsimp only
    have hle : (array s).readable lba count.toNat * sectorSize ≤ count.toNat * sectorSize :=
      Nat.mul_le_mul_right sectorSize (SectorArray.readable_le _ _ _)
    rw [List.append_assoc, drop_take_append_drop buffer hle]
    by_cases hgood : (array s).readable lba count.toNat = count.toNat
    · rw [if_pos hgood, if_pos hgood]
      exact ensures_pure ⟨rfl, harray, h₂⟩
    · rw [if_neg hgood, if_neg hgood]
      exact ensures_bind (ensures_report (ensures_pure ⟨rfl, harray, h₂.logged _⟩))

/-- The card of a disk changes as its array does. -/
theorem holding_writeCard (h : Holding limit s) (patience : Nat) (lba : UInt32) {count : Nat}
    (hcount : 0 < count) {bytes : List UInt8} (hlength : bytes.length = count * sectorSize) :
    Ensures (onCard (Card.write patience lba bytes)) s fun result s' =>
      (result, array s') = (if (array s).total < lba.toNat + count then
          (.error .outOfRange, array s)
        else (if (array s).storable count = count then .ok () else .error .badResponse,
          (array s).store lba count bytes)) ∧ Holding limit s' := by
  have hsectors : bytes.length / sectorSize = count := by
    rw [hlength]
    exact Nat.mul_div_cancel count (by decide)
  refine ensures_within (ensures_bind (ensures_device (ensures_within ?_)))
  refine (serving_writeSectors h.serving patience h.family h.addressable lba bytes
    (by omega)).mono ?_
  rintro result s₁ ⟨hresult, -, -, hserving⟩
  rw [hsectors] at hresult
  have htotal : (array s).total = s.device.card.info.totalSectors.toNat := rfl
  rw [htotal]
  by_cases hrange : lba.toNat + count ≤ s.device.card.info.totalSectors.toNat
  · rw [if_pos hrange] at hresult
    rw [if_neg (by omega)]
    have hbound : lba.toNat + count < 2 ^ 32 :=
      Nat.lt_of_le_of_lt hrange s.device.card.info.totalSectors.toNat_lt
    obtain ⟨houtcome, harray⟩ := SimCard.put_eq (s.at channel).sim.media
      s.device.card.info.totalSectors.toNat bytes hbound
    have hbefore : (s.at channel).sim.media.Formatted := h.formatted.of_storage rfl
    have hformatted := SimCard.formatted_put hbefore lba
      (length_of_mem_sectors (Nat.le_of_eq hlength.symm))
    have hkind : ((s.at channel).sim.media.put lba (sectors count bytes)).2.kind =
        (s.at channel).sim.kind := SimCard.kind_put _ _ _
    obtain ⟨hresult, hmedia⟩ := Prod.mk.inj hresult
    rw [← hresult] at houtcome
    rw [← hmedia] at harray hformatted hkind
    refine ⟨?_, h.kept hserving rfl hkind (hformatted.of_storage rfl)⟩
    rw [houtcome]
    exact congrArg _ harray
  · rw [if_neg hrange] at hresult
    rw [if_pos (by omega)]
    obtain ⟨hresult, hmedia⟩ := Prod.mk.inj hresult
    refine ⟨?_, h.kept hserving rfl (SimCard.kind_of_media hmedia) ?_⟩
    · rw [hresult]
      exact congrArg _ (array_of_media hmedia rfl)
    · exact h.formatted.of_storage (SimCard.storage_of_media hmedia)

/-- **A disk is written** as its array is. -/
theorem holding_write (h : Holding limit s) (patience : Nat) (lba count : UInt32)
    (buffer : List UInt8) :
    Ensures (write patience lba count buffer) s fun result s' =>
      (result, array s') = (array s).write lba count.toNat buffer ∧ Holding limit s' := by
  refine (holding_transferLength h buffer.length count).bind ?_
  rintro _ s₁ ⟨rfl, harray₁, h₁⟩
  unfold SectorArray.write
  by_cases hshort : buffer.length < count.toNat * sectorSize
  · rw [if_pos hshort, if_pos hshort]
    exact ensures_pure ⟨congrArg _ harray₁, h₁⟩
  rw [if_neg hshort, if_neg hshort]
  dsimp only
  by_cases hnone : count.toNat = 0
  · rw [if_pos (by rw [hnone, Nat.zero_mul]), if_pos hnone]
    exact ensures_pure ⟨congrArg _ harray₁, h₁⟩
  rw [if_neg (by show ¬ count.toNat * 512 = 0; omega), if_neg hnone]
  have hfront : (buffer.take (count.toNat * sectorSize)).length = count.toNat * sectorSize := by
    rw [List.length_take]
    omega
  refine (holding_writeCard h₁ patience lba (Nat.pos_of_ne_zero hnone) hfront).bind ?_
  rintro result s₂ ⟨hresult, h₂⟩
  rw [harray₁] at hresult
  by_cases hrange : (array s).total < lba.toNat + count.toNat
  · rw [if_pos hrange] at hresult
    rw [if_pos hrange]
    obtain ⟨rfl, harray₂⟩ := Prod.mk.inj hresult
    exact ensures_bind (ensures_report (ensures_pure ⟨congrArg _ harray₂, h₂.logged _⟩))
  · rw [if_neg hrange] at hresult
    rw [if_neg hrange]
    obtain ⟨rfl, harray₂⟩ := Prod.mk.inj hresult
    -- the array is given the whole buffer, the card no more of it than the run needs
    rw [SectorArray.store_take] at harray₂
    by_cases hkept : (array s).storable count.toNat = count.toNat
    · rw [if_pos hkept, if_pos hkept]
      exact ensures_pure ⟨congrArg _ harray₂, h₂⟩
    · rw [if_neg hkept, if_neg hkept]
      exact ensures_bind (ensures_report (ensures_pure ⟨congrArg _ harray₂, h₂.logged _⟩))

/-! ## Runs -/

/-- A disk that holds and whose transfers come back. -/
structure Ready (s : Session (Disk SimCard) Counter) : Prop extends Holding 29 s where
  unhindered : Unhindered (s.at channel)

/-- Choosing what is going to fail keeps a disk ready. -/
theorem Ready.adjust {s : Session (Disk SimCard) Counter} (h : Ready s)
    (change : SimKnobs → SimKnobs) (hpresent : ∀ knobs, (change knobs).present = knobs.present)
    (hgap : ∀ knobs, (change knobs).responseGap = knobs.responseGap)
    (htokens : ∀ knobs, (change knobs).tokenlessRead = knobs.tokenlessRead)
    (hbusy : ∀ knobs, (change knobs).busyAfterBlock = knobs.busyAfterBlock) :
    Ensures (adjust change) s fun _ s' => Ready s' := by
  refine ensures_onDevice ⟨⟨?_, h.family, h.addressable, h.formatted⟩, h.unhindered.alone,
    h.unhindered.step⟩
  have hserving := h.serving
  refine ⟨⟨trivial, hserving.bound, fun haway => ?_, ?_, ?_⟩, hserving.patient, hserving.allows,
    hserving.ready, ?_, hserving.busy, ?_⟩
  · exact congrArg (fun card => { card with knobs := change (s.at channel).sim.knobs })
      (hserving.settled haway)
  · exact (hpresent _).trans hserving.present
  · exact Nat.lt_of_le_of_lt (Nat.le_of_eq (hgap _)) hserving.gap
  · exact (htokens _).trans hserving.tokens
  · obtain ⟨count, hle, hcount⟩ := hserving.busyAfter
    exact ⟨count, hle, (hbusy _).trans hcount⟩

/-- **One request** is answered as the array answers it. -/
theorem answers_array {patience : Nat} (hpatience : horizon.toNat ≤ patience)
    {s : Session (Disk SimCard) Counter} (h : Ready s) (request : DiskRequest) :
    ∃ s', answer patience request s = some (((array s).answer request).1, s') ∧
      array s' = ((array s).answer request).2 ∧ Ready s' := by
  have hinvariant : BusInvariant anyFrame (Unhindered : Session (Channel SimCard) Counter → Prop) :=
    unhindered_invariant.toBusInvariant
  cases request with
  | read lba count buffer =>
    obtain ⟨⟨outcome, after⟩, s', hrun⟩ := returns_read hpatience h.unhindered lba count buffer
    obtain ⟨hresult, harray, hholding⟩ :=
      holding_read h.toHolding patience lba count buffer _ s' hrun
    have hunhindered :=
      ((throughout_read hinvariant patience lba count buffer h.unhindered).back _ s' hrun).1
    unfold SectorArray.answer
    dsimp only
    rw [← hresult]
    exact ⟨s', bind_eq hrun, harray, hholding, hunhindered⟩
  | write lba count buffer =>
    obtain ⟨outcome, s', hrun⟩ := returns_write hpatience h.unhindered lba count buffer
    obtain ⟨hresult, hholding⟩ := holding_write h.toHolding patience lba count buffer _ s' hrun
    have hunhindered :=
      ((throughout_write hinvariant patience lba count buffer h.unhindered).back _ s' hrun).1
    unfold SectorArray.answer
    dsimp only
    rw [← hresult]
    exact ⟨s', bind_eq hrun, rfl, hholding, hunhindered⟩
  | failWrite block =>
    have hready := h.adjust (fun knobs => { knobs with failWriteBlock := block })
      (fun _ => rfl) (fun _ => rfl) (fun _ => rfl) (fun _ => rfl)
    exact ⟨_, rfl, rfl, hready () _ rfl⟩
  | failRead lba =>
    have hready := h.adjust (fun knobs => { knobs with failReadLba := lba })
      (fun _ => rfl) (fun _ => rfl) (fun _ => rfl) (fun _ => rfl)
    exact ⟨_, rfl, rfl, hready () _ rfl⟩

/-- All requests are answered as the array answers them. -/
theorem Ready.serves {patience : Nat} (hpatience : horizon.toNat ≤ patience)
    {s : Session (Disk SimCard) Counter} (h : Ready s) (requests : List DiskRequest) :
    ∃ s', serve patience requests s = some (((array s).serve requests).1, s') ∧
      array s' = ((array s).serve requests).2 := by
  induction requests generalizing s with
  | nil => exact ⟨s, rfl, rfl⟩
  | cons request rest ih =>
    obtain ⟨s₁, hanswer, harray₁, hready₁⟩ := answers_array hpatience h request
    obtain ⟨s₂, hrest, harray₂⟩ := ih hready₁
    rw [harray₁] at hrest harray₂
    exact ⟨s₂, (bind_eq hanswer).trans (bind_eq hrest), harray₂⟩

/-- A disk is ready once it was brought up, and what its card held it holds still. -/
theorem ready_bringUp {disk : Disk SimCard} {env : Env Counter} (hstep : env.clock.step = 1)
    (hrate : env.clock.rate = defaultFrequency)
    (hecho : disk.card.channel.host.knobs.echo = ifCondPattern)
    (htokens : disk.card.channel.host.knobs.tokenlessRead = false)
    (hbusy : ∃ count ≤ 29, disk.card.channel.host.knobs.busyAfterBlock = .bytes count)
    (hformatted : disk.card.channel.host.Formatted) (patience : Nat) :
    Ensures (bringUp patience) ⟨disk, env⟩ fun up s => up = true →
      Ready s ∧ array s = disk.card.channel.host.array s.device.card.info.totalSectors.toNat := by
  refine (clean_bringUp patience (s := ⟨disk, env⟩) trivial hecho).mono ?_
  intro up s hup hyes
  obtain ⟨hcard, halone, readings, hclock⟩ := hup hyes
  have hmedia : (s.at channel).sim.media = disk.card.channel.host.media := hcard.media
  have hknobs : (s.at channel).sim.knobs = disk.card.channel.host.knobs :=
    @SimCard.knobs_of_media (s.at channel).sim disk.card.channel.host hmedia
  have hclock : s.env.clock = ticked readings env.clock := hclock
  -- the clock went on while the disk was brought up, and is as patient as it was
  have hserving : Serving 29 (s.at channel) := by
    refine ⟨hcard.answering, fun more => ?_, by decide, hcard.ready, ?_, ⟨0, by decide, hcard.free⟩,
      ?_⟩
    · show Patient 29 (ticked more s.env.clock)
      rw [hclock, ← ticked_add, ticked_counter hstep]
      exact patient_counter hstep hrate
    · rw [hknobs]
      exact htokens
    · rw [hknobs]
      exact hbusy
  refine ⟨⟨⟨hserving, ?_, ?_, ?_⟩, halone, ?_⟩, ?_⟩
  · rw [SimCard.kind_of_media hmedia]
    exact hcard.identified.family
  · exact hcard.identified.addressable
  · exact hformatted.of_storage (SimCard.storage_of_media hmedia)
  · show s.env.clock.step = 1
    rw [hclock, ticked_counter hstep]
    exact hstep
  · unfold array
    rw [← SimCard.array_media, hmedia, SimCard.array_media]

/-- **A disk is a plain array of sectors.** Once it was brought up, whatever it is asked for it
    answers as the array does, and afterwards it is seen as what the array has become. -/
theorem serves_array {disk : Disk SimCard} {env : Env Counter} (hstep : env.clock.step = 1)
    (hrate : env.clock.rate = defaultFrequency)
    (hecho : disk.card.channel.host.knobs.echo = ifCondPattern)
    (htokens : disk.card.channel.host.knobs.tokenlessRead = false)
    (hbusy : ∃ count ≤ 29, disk.card.channel.host.knobs.busyAfterBlock = .bytes count)
    (hformatted : disk.card.channel.host.Formatted) {upPatience patience : Nat}
    (hpatience : horizon.toNat ≤ patience) {s : Session (Disk SimCard) Counter}
    (hup : bringUp upPatience ⟨disk, env⟩ = some (true, s)) (requests : List DiskRequest) :
    let start := disk.card.channel.host.array s.device.card.info.totalSectors.toNat
    ∃ s', serve patience requests s = some ((start.serve requests).1, s') ∧
      array s' = (start.serve requests).2 := by
  obtain ⟨hready, hstart⟩ :=
    ready_bringUp hstep hrate hecho htokens hbusy hformatted upPatience true s hup rfl
  rw [← hstart]
  exact hready.serves hpatience requests

/-- A slow card is brought up, and answers as an array does in which a sector cannot be read. -/
theorem serves_array_new :
    let card : SimCard :=
      { SimCard.new .mmc with knobs := { responseGap := 9, busyAfterBlock := .bytes 29 } }
    let requests : List DiskRequest := [.failRead (some 6), .read 5 2 (List.replicate 1024 0)]
    ∃ s s', bringUp 200 ⟨Disk.new card 0 1, { clock := { value := 0 : Counter } }⟩ = some (true, s) ∧
      serve 128 requests s =
        some (((card.array s.device.card.info.totalSectors.toNat).serve requests).1, s') := by
  intro card requests
  let disk : Disk SimCard := Disk.new card 0 1
  let env : Env Counter := { clock := { value := 0 } }
  have hback : (bringUp 200 ⟨disk, env⟩).any (fun outcome => outcome.1) = true := by decide +kernel
  obtain ⟨⟨up, s⟩, hup, rfl⟩ := (Option.any_eq_true _ _).mp hback
  have hstep : env.clock.step = 1 := rfl
  have hrate : env.clock.rate = defaultFrequency := rfl
  have hecho : disk.card.channel.host.knobs.echo = ifCondPattern := rfl
  have htokens : disk.card.channel.host.knobs.tokenlessRead = false := rfl
  have hbusy : disk.card.channel.host.knobs.busyAfterBlock = .bytes 29 := rfl
  have hformatted : disk.card.channel.host.Formatted :=
    (SimCard.formatted_new .mmc).of_storage (show card.storage = [] from rfl)
  have hpatience : horizon.toNat ≤ 128 := by decide
  obtain ⟨s', hserve, -⟩ := serves_array hstep hrate hecho htokens ⟨29, Nat.le_refl 29, hbusy⟩
    hformatted hpatience hup requests
  exact ⟨s, s', hup, hserve⟩

end Disk

end SpiDisk
