import SpiDisk.Proofs.Sim.Hearing

/-!
# `SpiDisk.Proofs.Sim.Reception` — reading on a board that fails

What a channel is told in the place of bytes that a board failed to read are idle bytes, and a block has
no checksum that is looked at. So a read on a board that fails reads can succeed with bytes that the card
never gave out. A board that only loses what it is to write does no such harm: a read that succeeds on it
filled its buffer with the sectors of the card, whatever the clock does and whatever the card is set to.

## Contents
- **Silence.** A card that sends no blocks; `clean_receiveBlock_silent`.
- **Blocks.** `clean_receiveBlocks_ok`: what is received is what the card holds.
- **Runs.** `hearing_readRun` and `hearing_readSectors`.
- **Cards.** `Card.fetched_of_read`, and the read that fails it, `Card.misread`.
-/

namespace SpiDisk

namespace SimCard

/-! ## Silence -/

/-- A card that acknowledges reads without a block to follow, and has nothing else to say. -/
structure Tokenless (card : SimCard) : Prop where
  tokens : card.knobs.tokenlessRead = true
  out : card.out = []
  busy : card.busy = .bytes 0

theorem Tokenless.next {card : SimCard} (h : card.Tokenless) :
    card.next.1 = idleByte ∧ card.next.2.Tokenless := by
  unfold SimCard.next transmit
  rw [h.out, h.busy]
  split
  · cases card.stream with
    | none => exact ⟨rfl, h⟩
    | some lba => exact ⟨rfl, h.tokens, if_pos h.tokens, rfl⟩
  · exact ⟨rfl, h⟩

/-- Such a card leaves the line idle for good. -/
theorem Tokenless.heard {card : SimCard} (h : card.Tokenless) (count : Nat) :
    card.heard count = idleByte := by
  induction count generalizing card with
  | zero => exact h.next.1
  | succ count ih => exact ih h.next.2

/-- A run of sectors that was read to its end is all the sectors. -/
theorem getElem?_fetch {card : SimCard} {lba : UInt32} {count : Nat} {blocks : List (List UInt8)}
    (h : card.fetch lba count = (blocks, .ok ())) :
    blocks.length = count ∧
      ∀ i < count, blocks[i]? = some (card.sector (lba + UInt32.ofNat i)) := by
  induction count generalizing lba blocks with
  | zero =>
    cases h
    exact ⟨rfl, fun i hlt => absurd hlt (Nat.not_lt_zero i)⟩
  | succ count ih =>
    rw [fetch] at h
    split at h
    · cases h
    cases hrest : card.fetch (lba + 1) count with
    | mk rest outcome =>
      rw [hrest] at h
      cases h
      obtain ⟨hlength, hsectors⟩ := ih hrest
      refine ⟨by rw [List.length_cons, hlength], ?_⟩
      intro i hlt
      cases i with
      | zero =>
        have hfirst : lba + UInt32.ofNat 0 = lba := UInt32.add_zero lba
        rw [hfirst, List.getElem?_cons_zero]
      | succ i =>
        rw [List.getElem?_cons_succ, hsectors i (Nat.lt_of_succ_lt_succ hlt), Nat.add_comm i 1,
          UInt32.ofNat_add, ← UInt32.add_assoc]
        rfl

end SimCard

namespace ChannelM

open SessionM CardEngine

variable {H C : Type} [CardBoard H] [TickSource C]

/-- No block is received of a card that leaves the line idle. -/
theorem clean_receiveBlock_silent (patience count : Nat) {s : Session (Channel H) C} (h : s.Clean)
    (hidle : ∀ count, s.sim.heard count = idleByte) :
    Ensures (receiveBlock patience count) s fun result _ => ∀ block, result ≠ .ok block := by
  have hstart : Moved 1 s { s with env.clock := (TickSource.now s.env.clock).2 } :=
    (Moved.refl s).tick
  apply ensures_bind
  apply ensures_startDeadline
  refine (clean_pollByte (fun byte => if byte = idleByte then none else some byte) patience
    (hstart.clean h)).bind ?_
  rintro (_ | token) s₁ ⟨last, -, -, hend⟩
  · exact ensures_bind (ensures_any fun _ _ => ensures_pure nofun)
  · have haccepted : (if s.sim.heard last = idleByte then none else some (s.sim.heard last)) =
        some token := hend.1
    rw [if_pos (hidle last)] at haccepted
    cases haccepted

/-! ## Blocks -/

/-- A block that is received is the sector that is due. -/
theorem clean_receiveSector_ok (patience : Nat) {s : Session (Channel H) C} (h : s.Clean)
    {card : SimCard} {lba : UInt32} (hselected : card.selected = true)
    (hknobs : card.knobs = s.sim.knobs) (hbusy : card.busy = .bytes 0)
    (hformatted : (s.sim.sector lba).length = sectorSize)
    (hnext : s.sim.next = (idleByte, card.saying (s.sim.blockBytes lba))) :
    Ensures (receiveBlock patience sectorSize) s fun result s' => ∀ block, result = .ok block →
      (s.sim.knobs.failReadLba ≠ some lba ∧ block = s.sim.sector lba) ∧
        s'.sim = card.saying [] ∧ s'.Clean := by
  -- a card that gives no token leaves the line idle for good, so that no block is ever found
  by_cases htokens : s.sim.knobs.tokenlessRead = true
  · have hblock : s.sim.blockBytes lba = [] := if_pos htokens
    rw [hblock] at hnext
    have hidle : ∀ count, s.sim.heard count = idleByte := by
      rintro (_ | count)
      · show s.sim.next.1 = idleByte
        rw [hnext]
      · rw [SimCard.heard_succ, hnext]
        have htokenless : (card.saying []).Tokenless :=
          ⟨(congrArg SimKnobs.tokenlessRead hknobs).trans htokens, rfl, hbusy⟩
        exact htokenless.heard count
    refine (clean_receiveBlock_silent patience sectorSize h hidle).mono ?_
    exact fun result _ hno block hok => absurd hok (hno block)
  · refine (clean_receiveSector patience h hselected (by simpa using htokens) hformatted
      hnext).mono ?_
    rintro result s' ⟨⟨readings, hmoved⟩, ⟨hsim, hresult⟩ | ⟨hresult, -⟩⟩ block hok
    · rw [hresult] at hok
      split at hok
      · cases hok
      · rename_i hfail
        exact ⟨⟨hfail, (Except.ok.inj hok).symm⟩, hsim, hmoved.clean h⟩
    · rw [hresult] at hok
      cases hok

/-- What a single read hands over is its sector. -/
theorem clean_receiveOne_ok (patience : Nat) {s : Session (Channel H) C} (h : s.Clean)
    {card : SimCard} {lba : UInt32} (hselected : card.selected = true)
    (hknobs : card.knobs = s.sim.knobs) (hbusy : card.busy = .bytes 0)
    (hformatted : (s.sim.sector lba).length = sectorSize)
    (hnext : s.sim.next = (idleByte, card.saying (s.sim.blockBytes lba))) :
    Ensures (receiveBlocks patience 1) s fun received _ =>
      received.2 = .ok () → received = s.sim.media.fetch lba 1 := by
  have hfetch : s.sim.media.fetch lba 1 =
      if s.sim.knobs.failReadLba = some lba then ([], .error .badResponse)
      else ([s.sim.sector lba], .ok ()) := rfl
  refine (clean_receiveSector_ok patience h hselected hknobs hbusy hformatted hnext).bind ?_
  rintro (error | block) s₁ hblock
  · exact ensures_pure nofun
  · obtain ⟨⟨hfail, rfl⟩, -⟩ := hblock block rfl
    rw [hfetch, if_neg hfail]
    exact ensures_bind (ensures_pure (ensures_pure fun _ => rfl))

/-- **What a running read hands over,** if it comes to its end, is one sector after the other. -/
theorem clean_receiveBlocks_ok (patience count : Nat) {s : Session (Channel H) C} (h : s.Clean)
    (hselected : s.sim.selected = true) (hout : s.sim.out = []) (hbusy : s.sim.busy = .bytes 0)
    {lba : UInt32} (hstream : s.sim.stream = some lba) (hformatted : s.sim.Formatted) :
    Ensures (receiveBlocks patience count) s fun received _ =>
      received.2 = .ok () → received = s.sim.media.fetch lba count := by
  -- on the sectors that are due, with the stream at the first of them
  induction count generalizing s lba with
  | zero => exact ensures_pure fun _ => rfl
  | succ count ih =>
    -- behind one idle byte the card runs on to the sector after this one
    let ahead : SimCard := { s.sim with stream := some (lba + 1) }
    have hnext : s.sim.next = (idleByte, ahead.saying (s.sim.blockBytes lba)) :=
      SimCard.next_of_stream hselected hout hbusy hstream
    have hahead : ahead.saying [] = ahead := by
      show { ahead with out := [] } = ahead
      rw [← hout]
    have hfetch : s.sim.media.fetch lba (count + 1) =
        if s.sim.knobs.failReadLba = some lba then ([], .error .badResponse)
        else (s.sim.sector lba :: (s.sim.media.fetch (lba + 1) count).1,
          (s.sim.media.fetch (lba + 1) count).2) := rfl
    refine (clean_receiveSector_ok patience h (show ahead.selected = true from hselected)
      (show ahead.knobs = s.sim.knobs from rfl) (show ahead.busy = .bytes 0 from hbusy)
      (hformatted lba) hnext).bind ?_
    rintro (error | block) s₁ hblock
    · exact ensures_pure nofun
    obtain ⟨⟨hfail, rfl⟩, hsim₁, hclean₁⟩ := hblock block rfl
    rw [hahead] at hsim₁
    have hmedia₁ : s₁.sim.media = s.sim.media := by rw [hsim₁]; rfl
    have hrest := ih hclean₁ (by rw [hsim₁]; exact hselected) (by rw [hsim₁]; exact hout)
      (by rw [hsim₁]; exact hbusy) (by rw [hsim₁]) (by rw [hsim₁]; exact hformatted)
    rw [hmedia₁] at hrest
    refine hrest.bind ?_
    rintro ⟨rest, outcome⟩ s₂ hrest₂
    apply ensures_pure
    intro hok
    rw [hfetch, if_neg hfail, ← hrest₂ hok]

/-! ## Runs -/

section Runs

variable {s : Session (Channel (Faulty H)) C}

theorem hearing_readMany (h : Attentive s) (patience : Nat) (hformatted : s.sim.Formatted)
    (address : UInt32) {count : Nat} (hmany : count > 1) :
    Ensures (readRun patience address count) s fun received _ =>
      received.2 = .ok () → received = s.sim.media.fetch (s.sim.sectorOf address) count := by
  have hreads : Reads (receiveBlocks patience count :
      ChannelM (Faulty H) C (List (List UInt8) × Except CardError Unit)) :=
    reads_receiveBlocks patience count
  unfold readRun
  rw [if_pos hmany]
  let running : SimCard := { s.sim.asked with stream := some (s.sim.sectorOf address) }
  refine (h.ask patience (by decide) address (show R1.isAnswer R1.ready = true by decide)
    (congrArg SimCard.core (SimCard.asked_readMultiple s.sim address _))).bind ?_
  rintro _ s₁ ⟨htried₁, ⟨rfl, hsim₁⟩ | rfl⟩
  · rw [if_neg (by decide)]
    have hsim₁ : s₁.repaired.sim = running := hsim₁
    have hclean₁ : s₁.repaired.Clean := htried₁.attentive.hearing
    have hstream₁ : s₁.repaired.sim.stream = some (s.sim.sectorOf address) := by rw [hsim₁]
    have hformatted₁ : s₁.repaired.sim.Formatted := by
      rw [hsim₁]
      exact hformatted
    refine (hreads.ensures (clean_receiveBlocks_ok patience count hclean₁ (by rw [hsim₁]; rfl)
      (by rw [hsim₁]; rfl) (by rw [hsim₁]; rfl) hstream₁ hformatted₁)).bind ?_
    intro received s₂ hreceived
    rw [hsim₁] at hreceived
    rw [if_pos hmany]
    exact ensures_bind (ensures_any fun _ _ => ensures_pure hreceived)
  · -- a command that was not heard is refused
    rw [if_pos (by decide)]
    exact ensures_bind (ensures_any fun _ _ => ensures_pure nofun)

theorem hearing_readOne (h : Attentive s) (patience : Nat) (hformatted : s.sim.Formatted)
    (address : UInt32) :
    Ensures (readRun patience address 1) s fun received _ =>
      received.2 = .ok () → received = s.sim.media.fetch (s.sim.sectorOf address) 1 := by
  have hreads : Reads (receiveBlocks patience 1 :
      ChannelM (Faulty H) C (List (List UInt8) × Except CardError Unit)) :=
    reads_receiveBlocks patience 1
  unfold readRun
  rw [if_neg (by decide)]
  refine (h.ask patience (by decide) address (show R1.isAnswer R1.ready = true by decide)
    (congrArg SimCard.core (SimCard.asked_readSingle s.sim address _))).bind ?_
  rintro _ s₁ ⟨htried₁, ⟨rfl, hsim₁⟩ | rfl⟩
  · rw [if_neg (by decide)]
    have hclean₁ : s₁.repaired.Clean := htried₁.attentive.hearing
    have hsim₁ : s₁.repaired.sim = s.sim.core.asked.saying
        (idleByte :: s.sim.blockBytes (s.sim.sectorOf address)) := hsim₁
    have hnext : s₁.repaired.sim.next = (idleByte, s.sim.core.asked.saying
        (s₁.repaired.sim.blockBytes (s.sim.sectorOf address))) := by
      rw [hsim₁]
      exact SimCard.next_saying rfl _ _
    refine (hreads.ensures (clean_receiveOne_ok patience hclean₁ rfl (by rw [hsim₁]; rfl) rfl
      (by rw [hsim₁]; exact hformatted _) hnext)).bind ?_
    intro received s₂ hreceived
    rw [hsim₁] at hreceived
    rw [if_neg (by decide)]
    exact ensures_pure hreceived
  · rw [if_pos (by decide)]
    exact ensures_bind (ensures_any fun _ _ => ensures_pure nofun)

/-- **Reading a run,** on a board that fails no read. -/
theorem hearing_readRun (h : Attentive s) (patience : Nat) (hformatted : s.sim.Formatted)
    (address : UInt32) {count : Nat} (hcount : 0 < count) :
    Ensures (readRun patience address count) s fun received _ =>
      received.2 = .ok () → received = s.sim.media.fetch (s.sim.sectorOf address) count := by
  by_cases hmany : count > 1
  · exact hearing_readMany h patience hformatted address hmany
  · obtain rfl : count = 1 := by omega
    exact hearing_readOne h patience hformatted address

/-- **Reading into a buffer,** on a board that fails no read. -/
theorem hearing_readSectors (h : Attentive s) (patience : Nat) (hformatted : s.sim.Formatted)
    {info : CardInfo} (hfamily : info.family = s.sim.kind.family) (hsize : info.Addressable)
    (lba : UInt32) (buffer : List UInt8) :
    Ensures (readSectors patience info lba buffer) s fun result _ => result.1 = .ok () →
      (buffer.length / sectorSize = 0 ∨
        lba.toNat + buffer.length / sectorSize ≤ info.totalSectors.toNat) ∧
      ∃ blocks, s.sim.media.fetch lba (buffer.length / sectorSize) = (blocks, .ok ()) ∧
        result.2 = blocks.flatten ++ buffer.drop (blocks.length * sectorSize) := by
  unfold readSectors
  dsimp only
  rw [isPresent_of_kind hfamily, if_neg (by decide)]
  by_cases hcount : buffer.length / sectorSize = 0
  · rw [if_pos hcount, hcount]
    refine ensures_pure fun _ => ⟨.inl rfl, [], rfl, ?_⟩
    rw [List.length_nil, Nat.zero_mul, List.drop_zero, List.flatten_nil, List.nil_append]
  have hpos : 0 < buffer.length / sectorSize := Nat.pos_of_ne_zero hcount
  rw [if_neg hcount]
  unfold fetchRun
  rw [info.runAddress_eq hsize lba hpos]
  by_cases hrange : lba.toNat + buffer.length / sectorSize ≤ info.totalSectors.toNat
  · rw [if_pos hrange]
    have hsector : s.sim.sectorOf (info.argument lba) = lba :=
      sectorOf_argument hfamily hsize (by omega)
    refine (hearing_readRun h patience hformatted (info.argument lba) hpos).bind ?_
    rintro ⟨blocks, outcome⟩ s₁ hfetch
    rw [hsector] at hfetch
    refine ensures_bind (ensures_any fun _ _ => ensures_pure ?_)
    intro hok
    have hok : outcome = .ok () := hok
    rw [hok] at hfetch
    exact ⟨.inr hrange, blocks, (hfetch rfl).symm, rfl⟩
  · rw [if_neg hrange]
    exact ensures_bind (ensures_pure (ensures_bind (ensures_any fun _ _ => ensures_pure nofun)))

end Runs

end ChannelM

/-! ## Cards -/

/-- The surroundings of a card with another schedule of failures. -/
def Session.rescheduled {C : Type} (s : Session (Card (Faulty SimCard)) C)
    (schedule : FaultSchedule) : Session (Card (Faulty SimCard)) C :=
  { s with device.channel.host.schedule := schedule }

namespace Card

open SessionM ChannelM CardEngine

variable {C : Type}

/-- A card that was brought up is attentive, on any board that fails no read. -/
theorem BroughtUp.attentive {card : SimCard} {s : Session (Card (Faulty SimCard)) C}
    (h : BroughtUp card s) {schedule : FaultSchedule} (hreads : ∀ n, schedule.read n = false) :
    Attentive ((s.rescheduled schedule).at Card.channel) where
  hearing := ⟨trivial, fun n => ⟨hreads n, rfl⟩⟩
  bound := h.answering.bound
  settled := h.answering.settled
  present := h.answering.present
  gap := h.answering.gap
  free := h.free

/-- **A read that succeeds has filled its buffer with the sectors of the card,** on a board that may
    fail any write and any flush since the card was brought up, but no read. -/
theorem fetched_of_read [TickSource C] {upPatience patience : Nat}
    {s s₁ s₂ : Session (Card (Faulty SimCard)) C} (hclean : (s.at Card.channel).Clean)
    (hecho : s.device.channel.host.inner.knobs.echo = ifCondPattern)
    (hformatted : s.device.channel.host.inner.Formatted)
    (hup : bringUp upPatience s = some (.ok (), s₁)) {schedule : FaultSchedule}
    (hreads : ∀ n, schedule.read n = false) {lba : UInt32} {buffer data : List UInt8}
    (hread : read patience lba buffer (s₁.rescheduled schedule) = some ((.ok (), data), s₂)) :
    data.length = buffer.length ∧
      ∀ i < buffer.length / sectorSize, lba.toNat + i < 2 ^ 32 ∧
        (data.drop (i * sectorSize)).take sectorSize =
          s₁.device.channel.host.inner.sector (lba + UInt32.ofNat i) := by
  let later := s₁.rescheduled schedule
  obtain ⟨hbrought, -⟩ := clean_bringUp upPatience hclean hecho _ _ hup rfl
  have hfamily : s₁.device.info.family = (later.at Card.channel).sim.kind.family := by
    rw [hbrought.identified.family, ← SimCard.kind_of_media hbrought.media]
    rfl
  have hstorage : (later.at Card.channel).sim.storage = s.device.channel.host.inner.storage :=
    SimCard.storage_of_media hbrought.media
  have hformatted₁ : (later.at Card.channel).sim.Formatted := hformatted.of_storage hstorage
  have hsectors : Ensures (read patience lba buffer) later _ :=
    ensures_bind (ensures_device (ensures_onChannel (hearing_readSectors (hbrought.attentive hreads)
      patience hformatted₁ hfamily hbrought.identified.addressable lba buffer)))
  obtain ⟨hrange, blocks, hfetch, hdata⟩ := hsectors _ _ hread rfl
  obtain ⟨hlength, hblocks⟩ := SimCard.getElem?_fetch hfetch
  have hsize : ∀ block ∈ blocks, block.length = sectorSize := by
    intro block hmem
    obtain ⟨i, hlt, hblock⟩ := List.getElem_of_mem hmem
    have hsome := hblocks i (by omega)
    rw [List.getElem?_eq_getElem hlt, hblock] at hsome
    rw [Option.some.inj hsome]
    exact hformatted₁ _
  have hdata : data = blocks.flatten ++ buffer.drop (blocks.length * sectorSize) := hdata
  constructor
  · have htotal : blocks.flatten.length = blocks.length * sectorSize := by
      rw [List.length_flatten, List.map_congr_left hsize, List.map_const', List.sum_replicate_nat]
    rw [hdata, List.length_append, htotal, List.length_drop, hlength]
    exact Nat.add_sub_of_le (Nat.div_mul_le_self buffer.length sectorSize)
  · intro i hlt
    have hbound : s₁.device.info.totalSectors.toNat < 2 ^ 32 :=
      s₁.device.info.totalSectors.toNat_lt
    refine ⟨by omega, ?_⟩
    have hchunk := getElem?_sectors (by omega : i < blocks.length) data
    rw [hdata, sectors_flatten hsize, hblocks i hlt] at hchunk
    rw [hdata]
    exact (Option.some.inj hchunk).symm

/-- A read succeeds on a card that is neither told to stop nor given its idle byte. -/
theorem fetched_of_read_unstopped :
    let card : SimCard := .new .sdhc
    let schedule : FaultSchedule :=
      { write := fun n => n == 104 || n == 105, flush := fun _ => true }
    ∃ s₁ data s₂, bringUp 200 ⟨{ channel := { host := { inner := card }, line := some .one } },
        { clock := { value := 0 : Counter } }⟩ = some (.ok (), s₁) ∧
      read 200 7 (List.replicate 1024 0) (s₁.rescheduled schedule) = some ((.ok (), data), s₂) ∧
      (data.drop 512).take 512 = s₁.device.channel.host.inner.sector 8 := by
  intro card schedule
  let device : Card (Faulty SimCard) := { channel := { host := { inner := card }, line := some .one } }
  let env : Env Counter := { clock := { value := 0 } }
  have hback : ((bringUp 200 ⟨device, env⟩).bind fun up => (read 200 7 (List.replicate 1024 0)
      (up.2.rescheduled schedule)).map fun done => (up, done)).any
        (fun both => both.1.1.isOk && both.2.1.1.isOk) = true := by decide +kernel
  obtain ⟨⟨⟨up, s₁⟩, ⟨result, data⟩, s₂⟩, hboth, hok⟩ := (Option.any_eq_true _ _).mp hback
  obtain ⟨⟨_, _⟩, hup, hdone⟩ := Option.bind_eq_some_iff.mp hboth
  obtain ⟨⟨⟨_, _⟩, _⟩, hread, heq⟩ := Option.map_eq_some_iff.mp hdone
  cases heq
  cases up with
  | error error => cases hok
  | ok _ =>
    cases result with
    | error error => cases hok
    | ok _ =>
      have hclean : (Session.at ⟨device, env⟩ Card.channel).Clean := ⟨trivial, fun _ => ⟨rfl, rfl⟩⟩
      have hecho : device.channel.host.inner.knobs.echo = ifCondPattern := rfl
      have hsecond : 1 < (List.replicate 1024 (0 : UInt8)).length / sectorSize := by
        rw [List.length_replicate]
        decide
      obtain ⟨-, hchunks⟩ := fetched_of_read hclean hecho (SimCard.formatted_new .sdhc) hup
        (fun _ => rfl) hread
      exact ⟨s₁, data, s₂, hup, hread, (hchunks 1 hsecond).2⟩

/-- **A board that fails one read** while a block is coming in: the read succeeds, and what it has read
    is an idle line. -/
theorem misread :
    let card : SimCard := .new .sdhc
    let schedule : FaultSchedule := { read := fun n => n == 106 }
    ∃ s₁ s₂, bringUp 200 ⟨{ channel := { host := { inner := card }, line := some .one } },
        { clock := { value := 0 : Counter } }⟩ = some (.ok (), s₁) ∧
      read 200 1 (List.replicate 512 0xAA) (s₁.rescheduled schedule) =
        some ((.ok (), List.replicate 512 idleByte), s₂) ∧
      s₁.device.channel.host.inner.sector 1 ≠ List.replicate 512 idleByte := by
  intro card schedule
  let device : Card (Faulty SimCard) := { channel := { host := { inner := card }, line := some .one } }
  let env : Env Counter := { clock := { value := 0 } }
  have hback : ((bringUp 200 ⟨device, env⟩).bind fun up => (read 200 1 (List.replicate 512 0xAA)
      (up.2.rescheduled schedule)).map fun done => (up, done)).any
        (fun both => both.1.1.isOk && both.2.1.1.isOk &&
          both.2.1.2 == List.replicate 512 idleByte &&
          both.1.2.device.channel.host.inner.sector 1 != List.replicate 512 idleByte) = true := by
    decide +kernel
  obtain ⟨⟨⟨up, s₁⟩, ⟨result, data⟩, s₂⟩, hboth, hall⟩ := (Option.any_eq_true _ _).mp hback
  obtain ⟨⟨_, _⟩, hup, hdone⟩ := Option.bind_eq_some_iff.mp hboth
  obtain ⟨⟨⟨_, _⟩, _⟩, hread, heq⟩ := Option.map_eq_some_iff.mp hdone
  cases heq
  simp only [Bool.and_eq_true, beq_iff_eq, bne_iff_ne] at hall
  obtain ⟨⟨⟨hup', hread'⟩, rfl⟩, hsector⟩ := hall
  cases up with
  | error error => cases hup'
  | ok _ =>
    cases result with
    | error error => cases hread'
    | ok _ => exact ⟨s₁, s₂, hup, hread, hsector⟩

end Card

end SpiDisk
