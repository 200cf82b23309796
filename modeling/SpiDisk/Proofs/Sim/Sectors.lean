import SpiDisk.Proofs.Sim.Answers
import SpiDisk.Card.Transfer

/-!
# `SpiDisk.Proofs.Sim.Sectors` — runs of sectors on a simulated card

On a card that was brought up, that is never busy for longer than the clock allows, a run of sectors
comes to what the card holds: a read hands over its sectors up to one that the card cannot read, and
a write changes them up to one that the card rejects.

## Contents
- **Serving.** `Serving`, what such a card keeps up from one command to the next.
- **Reading.** `fetch` and `serving_readRun`.
- **Writing.** `put` and `serving_writeRun`.
-/

namespace SpiDisk

namespace SimCard

/-- The sectors of a run up to one that the card cannot read. -/
def fetch (card : SimCard) (lba : UInt32) : Nat → List (List UInt8) × Except CardError Unit
  | 0 => ([], .ok ())
  | count + 1 =>
    if card.knobs.failReadLba = some lba then ([], .error .badResponse)
    else
      let (rest, outcome) := card.fetch (lba + 1) count
      (card.sector lba :: rest, outcome)

theorem fetch_media_succ (card : SimCard) (lba : UInt32) (count : Nat) :
    card.media.fetch lba (count + 1) =
      if card.knobs.failReadLba = some lba then ([], .error .badResponse)
      else (card.sector lba :: (card.media.fetch (lba + 1) count).1,
        (card.media.fetch (lba + 1) count).2) :=
  rfl

/-- The card having counted a block that was sent to it. -/
def counted (card : SimCard) : SimCard :=
  { card with writeAttempts := card.writeAttempts + 1 }

/-- The card holding other data in a sector. -/
def holding (card : SimCard) (lba : UInt32) (block : List UInt8) : SimCard :=
  { card with storage := (lba, block) :: card.storage }

/-- Every sector has its full length, as on every card that was only written to byte by byte. -/
def Formatted (card : SimCard) : Prop :=
  ∀ lba, (card.sector lba).length = sectorSize

theorem formatted_new (kind : SimKind) : (new kind).Formatted := by
  intro lba
  have hnothing : (new kind).stored? lba = none := rfl
  unfold sector
  rw [hnothing, Option.getD_none, List.length_map, List.length_range]

theorem Formatted.of_storage {card other : SimCard} (h : card.Formatted)
    (hstorage : other.storage = card.storage) : other.Formatted := by
  intro lba
  have hsector : other.sector lba = card.sector lba := by
    unfold sector stored?
    rw [hstorage]
  rw [hsector]
  exact h lba

theorem storage_of_media {card other : SimCard} (h : card.media = other.media) :
    card.storage = other.storage :=
  show card.media.storage = other.media.storage from congrArg storage h

theorem Formatted.holding {card : SimCard} (h : card.Formatted) (lba : UInt32)
    {block : List UInt8} (hlength : block.length = sectorSize) :
    (card.holding lba block).Formatted := by
  intro other
  show ((((lba, block) :: card.storage).lookup other).getD _).length = sectorSize
  rw [List.lookup_cons]
  split
  · exact hlength
  · exact h other

/-- The card after a run of blocks was sent to it, up to one that it rejects. -/
def put (card : SimCard) (lba : UInt32) : List (List UInt8) → Except CardError Unit × SimCard
  | [] => (.ok (), card)
  | block :: rest =>
    if card.knobs.failWriteBlock = some card.counted.writeAttempts then
      (.error .badResponse, card.counted)
    else (card.counted.holding lba block).put (lba + 1) rest

theorem knobs_put (card : SimCard) (lba : UInt32) (blocks : List (List UInt8)) :
    (card.put lba blocks).2.knobs = card.knobs := by
  induction blocks generalizing card lba with
  | nil => rfl
  | cons block rest ih =>
    rw [put]
    split
    · rfl
    · exact ih _ _

theorem knobs_of_put {card next : SimCard} {outcome : Except CardError Unit} {lba : UInt32}
    {blocks : List (List UInt8)} (h : (outcome, next.media) = card.media.put lba blocks) :
    next.knobs = card.knobs := by
  have hmedia : next.media = (card.media.put lba blocks).2 := congrArg Prod.snd h
  show next.media.knobs = card.media.knobs
  rw [hmedia]
  exact card.media.knobs_put lba blocks

theorem kind_put (card : SimCard) (lba : UInt32) (blocks : List (List UInt8)) :
    (card.put lba blocks).2.kind = card.kind := by
  induction blocks generalizing card lba with
  | nil => rfl
  | cons block rest ih =>
    rw [put]
    split
    · rfl
    · exact ih _ _

theorem formatted_put {card : SimCard} (h : card.Formatted) (lba : UInt32)
    {blocks : List (List UInt8)} (hlength : ∀ block ∈ blocks, block.length = sectorSize) :
    (card.put lba blocks).2.Formatted := by
  induction blocks generalizing card lba with
  | nil => exact h
  | cons block rest ih =>
    have hcounted : card.counted.Formatted := h
    rw [put]
    split
    · exact hcounted
    · refine ih (hcounted.holding lba (hlength block (List.mem_cons_self ..))) (lba + 1) ?_
      intro other hother
      exact hlength other (List.mem_cons_of_mem block hother)

/-- A card rejects one block, and keeps every other. -/
theorem offer_cases (card : SimCard) (lba : UInt32) (multi : Bool) (block : List UInt8) :
    Token.accepts (card.offer lba multi block).1 = false ∧
        card.media.put lba [block] = (.error .badResponse, (card.offer lba multi block).2.media) ∧
        (card.offer lba multi block).2.busy = card.busy ∨
      Token.accepts (card.offer lba multi block).1 = true ∧
        card.media.put lba [block] = (.ok (), (card.offer lba multi block).2.media) ∧
        (card.offer lba multi block).2.busy = card.knobs.busyAfterBlock := by
  have hput : card.media.put lba [block] =
      if card.knobs.failWriteBlock = some (card.writeAttempts + 1) then
        (.error .badResponse, card.counted.media)
      else (.ok (), (card.counted.holding lba block).media) := rfl
  unfold offer
  dsimp only
  by_cases hfail : card.knobs.failWriteBlock = some (card.writeAttempts + 1)
  · rw [if_pos hfail]
    rw [if_pos hfail] at hput
    have haccepts : Token.accepts 0x0D = false := by decide
    exact .inl ⟨haccepts, hput, rfl⟩
  · rw [if_neg hfail]
    rw [if_neg hfail] at hput
    have haccepts : Token.accepts 0x05 = true := by decide
    exact .inr ⟨haccepts, hput, rfl⟩

/-- What an offer leaves alone: the card still takes blocks, or commands if it was the only one. -/
theorem offer_kept (card : SimCard) (lba : UInt32) (multi : Bool) (block : List UInt8) :
    (card.offer lba multi block).2.selected = card.selected ∧
      (card.offer lba multi block).2.out = [] ∧
      (card.offer lba multi block).2.stream = card.stream ∧
      (card.offer lba multi block).2.idle = card.idle ∧
      (card.offer lba multi block).2.knobs = card.knobs ∧
      (card.offer lba multi block).2.phase =
        if multi then .token (lba + 1) multi else .command [] := by
  unfold offer
  dsimp only
  split
  · exact ⟨rfl, rfl, rfl, rfl, rfl, rfl⟩
  · exact ⟨rfl, rfl, rfl, rfl, rfl, rfl⟩

/-- A run of blocks is one block after the other, as far as none is rejected. -/
theorem put_cons (card : SimCard) (lba : UInt32) (block : List UInt8) (rest : List (List UInt8)) :
    card.put lba (block :: rest) =
      match card.put lba [block] with
      | (.ok (), next) => next.put (lba + 1) rest
      | (.error error, next) => (.error error, next) := by
  rw [put, put]
  split
  · rfl
  · rfl

end SimCard

namespace ChannelM

open SessionM CardEngine

variable {H C : Type} [CardBoard H] [TickSource C]

/-! ## Serving -/

/-- A card that was brought up, on a clock that is patient with so many busy bytes, and no knob of
    which makes it stay busy for longer or fall silent. -/
structure Serving (limit : Nat) (s : Session (Channel H) C) : Prop extends Answering s where
  patient : ∀ readings, Patient limit (ticked readings s.env.clock)
  allows : 0 < limit
  ready : s.sim.idle = false
  tokens : s.sim.knobs.tokenlessRead = false
  busy : ∃ count ≤ limit, s.sim.busy = .bytes count
  busyAfter : ∃ count ≤ limit, s.sim.knobs.busyAfterBlock = .bytes count

variable {limit : Nat} {s s' : Session (Channel H) C}

/-- The clock is patient at every moment. -/
theorem Serving.patient_now (h : Serving limit s) : Patient limit s.env.clock :=
  h.patient 0

/-- The clock stays patient, however often it is read. -/
theorem Serving.patient_behind (h : Serving limit s) (hserved : Served s s') (readings : Nat) :
    Patient limit (ticked readings s'.env.clock) := by
  obtain ⟨m, hclock⟩ := hserved.clock
  rw [hclock, ← ticked_add]
  exact h.patient _

/-- A card goes on serving as long as its knobs stay and it is not busy for too long. -/
theorem Serving.served (h : Serving limit s) (hserved : Served s s')
    (hknobs : s'.sim.knobs = s.sim.knobs) (hready : s'.sim.idle = false)
    (hbusy : ∃ count ≤ limit, s'.sim.busy = .bytes count) (hsettled : Settled s') :
    Serving limit s' where
  toAnswering := h.toAnswering.served hserved hknobs hsettled
  patient := h.patient_behind hserved
  allows := h.allows
  ready := hready
  tokens := by rw [hknobs]; exact h.tokens
  busy := hbusy
  busyAfter := by rw [hknobs]; exact h.busyAfter

/-- A card that was asked something, and has nothing left to say, goes on serving. -/
theorem Serving.asked (h : Serving limit s) (hserved : Served s s') (howns : s'.device.owns = true)
    {pending : Bool} (hsim : s'.sim = { s.sim.asked with appPending := pending }) :
    Serving limit s' := by
  refine h.served hserved ?_ ?_ ⟨0, Nat.zero_le limit, ?_⟩ (settled_of_owns howns)
  · rw [hsim]
    rfl
  · rw [hsim]
    exact h.ready
  · rw [hsim]
    rfl

/-- A card that serves is found ready for every command, and answers it. -/
theorem Serving.ask (h : Serving limit s) (patience : Nat) {index : UInt8}
    (hindex : Command.Plain index) (argument : UInt32) {card : SimCard} {r1 : UInt8}
    {rest : List UInt8} (hanswer : R1.isAnswer r1 = true)
    (hexecute : (s.sim.asked.execute index argument s.sim.appPending).core = card.answer r1 rest) :
    Ensures (sendPlain patience index argument) s fun status s' =>
      Served s s' ∧ s'.device.owns = true ∧ status = r1 ∧ s'.sim = card.saying rest := by
  obtain ⟨count, hle, hbusy⟩ := h.busy
  exact h.toAnswering.ask patience hindex argument ⟨count, hbusy, h.patient_now.mono hle⟩ hanswer
    hexecute

/-! ## Reading -/

/-- One sector of a read, or the error token in its place. -/
theorem clean_receiveSector (patience : Nat) (h : s.Clean) {card : SimCard} {lba : UInt32}
    (hselected : card.selected = true) (htokens : s.sim.knobs.tokenlessRead = false)
    (hformatted : (s.sim.sector lba).length = sectorSize)
    (hnext : s.sim.next = (idleByte, card.saying (s.sim.blockBytes lba))) :
    Ensures (receiveBlock patience sectorSize) s fun result s' =>
      (∃ readings, Moved readings s s') ∧
        (s'.sim = card.saying [] ∧ result =
            (if s.sim.knobs.failReadLba = some lba then .error .badResponse
              else .ok (s.sim.sector lba)) ∨
          result = .error .timeout ∧ ¬ Patient 1 s.env.clock) := by
  unfold SimCard.blockBytes at hnext
  rw [if_neg (by rw [htokens]; decide)] at hnext
  by_cases hfail : s.sim.knobs.failReadLba = some lba
  · rw [if_pos hfail] at hnext
    rw [if_pos hfail]
    refine (clean_receiveError patience sectorSize h hselected hnext (by decide) (by decide)).mono ?_
    rintro result s' ⟨hmoved, ⟨hresult, hsim⟩ | hlate⟩
    · exact ⟨hmoved, .inl ⟨hsim, hresult⟩⟩
    · exact ⟨hmoved, .inr hlate⟩
  · rw [if_neg hfail] at hnext
    rw [if_neg hfail, ← hformatted]
    have hcheck : ([0x12, 0x34] : List UInt8).length = 2 := rfl
    have hnext : s.sim.next = (idleByte, card.saying
        (Token.startBlock :: (s.sim.sector lba ++ ([0x12, 0x34] ++ [])))) := hnext
    refine (clean_receiveBlock patience h hselected hcheck hnext).mono ?_
    rintro result s' ⟨hmoved, ⟨hresult, hsim⟩ | hlate⟩
    · exact ⟨hmoved, .inl ⟨hsim, hresult⟩⟩
    · exact ⟨hmoved, .inr hlate⟩

/-- A single read hands over its sector. -/
theorem clean_receiveOne (patience : Nat) (h : s.Clean) (hpatient : Patient 1 s.env.clock)
    {card : SimCard} {lba : UInt32} (hselected : card.selected = true)
    (htokens : s.sim.knobs.tokenlessRead = false)
    (hformatted : (s.sim.sector lba).length = sectorSize)
    (hnext : s.sim.next = (idleByte, card.saying (s.sim.blockBytes lba))) :
    Ensures (receiveBlocks patience 1) s fun result s' =>
      result = s.sim.media.fetch lba 1 ∧ (∃ readings, Moved readings s s') ∧
        s'.sim = card.saying [] := by
  rw [SimCard.fetch_media_succ]
  refine (clean_receiveSector patience h hselected htokens hformatted hnext).bind ?_
  rintro result s₁ ⟨hmoved₁, ⟨hsim₁, hresult⟩ | ⟨-, hlate⟩⟩
  · by_cases hfail : s.sim.knobs.failReadLba = some lba
    · rw [if_pos hfail] at hresult
      rw [if_pos hfail, hresult]
      exact ensures_pure ⟨rfl, hmoved₁, hsim₁⟩
    · rw [if_neg hfail] at hresult
      rw [if_neg hfail, hresult]
      exact ensures_bind (ensures_pure (ensures_pure ⟨rfl, hmoved₁, hsim₁⟩))
  · exact absurd hpatient hlate

/-- **A running read** hands over one sector after the other. -/
theorem clean_receiveBlocks (patience count : Nat) (h : s.Clean)
    (hpatient : ∀ readings, Patient 1 (ticked readings s.env.clock))
    (hselected : s.sim.selected = true) (hout : s.sim.out = []) (hbusy : s.sim.busy = .bytes 0)
    {lba : UInt32} (hstream : s.sim.stream = some lba)
    (htokens : s.sim.knobs.tokenlessRead = false)
    (hformatted : s.sim.Formatted) :
    Ensures (receiveBlocks patience count) s fun result s' =>
      result = s.sim.media.fetch lba count ∧ (∃ readings, Moved readings s s') ∧
        ∃ next, s'.sim = { s.sim with stream := next } := by
  induction count generalizing s lba with
  | zero =>
    refine ensures_pure ⟨rfl, ⟨0, Moved.refl s⟩, some lba, ?_⟩
    rw [← hstream]
  | succ count ih =>
    -- behind one idle byte the card runs on to the sector after this one
    let ahead : SimCard := { s.sim with stream := some (lba + 1) }
    have hnext : s.sim.next = (idleByte, ahead.saying (s.sim.blockBytes lba)) :=
      SimCard.next_of_stream hselected hout hbusy hstream
    have hahead : ahead.saying [] = ahead := by
      show { ahead with out := [] } = ahead
      rw [← hout]
    refine (clean_receiveSector patience h (show ahead.selected = true from hselected) htokens
      (hformatted lba) hnext).bind ?_
    rintro result s₁ ⟨⟨m, hmoved₁⟩, ⟨hsim₁, hresult⟩ | ⟨-, hlate⟩⟩
    · rw [hahead] at hsim₁
      rw [SimCard.fetch_media_succ]
      by_cases hfail : s.sim.knobs.failReadLba = some lba
      · rw [if_pos hfail] at hresult
        rw [if_pos hfail, hresult]
        exact ensures_pure ⟨rfl, ⟨m, hmoved₁⟩, some (lba + 1), hsim₁⟩
      · rw [if_neg hfail] at hresult
        rw [if_neg hfail, hresult]
        have hpatient₁ : ∀ readings, Patient 1 (ticked readings s₁.env.clock) := by
          intro readings
          rw [hmoved₁.clock, ← ticked_add]
          exact hpatient _
        have hmedia : s₁.sim.media = s.sim.media := by rw [hsim₁]; rfl
        have hformatted₁ : s₁.sim.Formatted := hformatted.of_storage (by rw [hsim₁])
        refine (ih (hmoved₁.clean h) hpatient₁ (by rw [hsim₁]; exact hselected)
          (by rw [hsim₁]; exact hout) (by rw [hsim₁]; exact hbusy) (by rw [hsim₁])
          (by rw [hsim₁]; exact htokens) hformatted₁).bind ?_
        rintro ⟨rest, outcome⟩ s₂ ⟨hrest, ⟨n, hmoved₂⟩, next, hsim₂⟩
        rw [hmedia] at hrest
        refine ensures_pure ⟨?_, ⟨m + n, hmoved₁.trans hmoved₂⟩, next, ?_⟩
        · rw [← hrest]
        · rw [hsim₂, hsim₁]
    · exact absurd (hpatient 0) hlate

/-- Several sectors are read off a card that runs until it is stopped. -/
theorem serving_readMany (h : Serving limit s) (patience : Nat) (hformatted : s.sim.Formatted)
    (address : UInt32) {count : Nat} (hmany : count > 1) :
    Ensures (readRun patience address count) s fun result s' =>
      result = s.sim.media.fetch (s.sim.sectorOf address) count ∧ Served s s' ∧
        s'.device.owns = true ∧ s'.sim = s.sim.asked := by
  unfold readRun
  rw [if_pos hmany]
  let running : SimCard := { s.sim.asked with stream := some (s.sim.sectorOf address) }
  refine (h.ask patience (by decide) address (show R1.isAnswer R1.ready = true by decide)
    (congrArg SimCard.core (SimCard.asked_readMultiple s.sim address _))).bind ?_
  rintro _ s₁ ⟨hserved₁, howns₁, rfl, hsim₁⟩
  rw [if_neg (by decide)]
  have hsim₁ : s₁.sim = running := hsim₁
  have hclean₁ := hserved₁.clean h.clean
  have hpatient : ∀ readings, Patient 1 (ticked readings s₁.env.clock) := fun readings =>
    (h.patient_behind hserved₁ readings).mono h.allows
  refine (clean_receiveBlocks patience count hclean₁ hpatient (by rw [hsim₁]; rfl)
    (by rw [hsim₁]; rfl) (by rw [hsim₁]; rfl) (by rw [hsim₁]) (by rw [hsim₁]; exact h.tokens)
    (by rw [hsim₁]; exact hformatted)).bind ?_
  rintro received s₂ ⟨hreceived, ⟨m, hmoved₂⟩, next, hsim₂⟩
  rw [if_pos hmany]
  rw [hsim₁] at hreceived hsim₂
  refine (clean_sendStop patience 0 (hmoved₂.clean hclean₁) (by rw [hsim₂]; rfl)
    (by rw [hsim₂]; rfl) (by rw [hsim₂]; exact h.present)).bind ?_
  rintro _ s₃ ⟨hsim₃, hmoved₃⟩
  refine ensures_pure ⟨hreceived, ?_, ?_, ?_⟩
  · exact hserved₁.trans (hmoved₂.served.trans hmoved₃.served)
  · rw [hmoved₃.owns, hmoved₂.owns, howns₁]
  · rw [hsim₃, hsim₂]
    rfl

/-- A single sector is read without a stop. -/
theorem serving_readOne (h : Serving limit s) (patience : Nat) (hformatted : s.sim.Formatted)
    (address : UInt32) :
    Ensures (readRun patience address 1) s fun result s' =>
      result = s.sim.media.fetch (s.sim.sectorOf address) 1 ∧ Served s s' ∧
        s'.device.owns = true ∧ s'.sim = s.sim.asked := by
  let lba := s.sim.sectorOf address
  unfold readRun
  rw [if_neg (by decide)]
  refine (h.ask patience (by decide) address (show R1.isAnswer R1.ready = true by decide)
    (congrArg SimCard.core (SimCard.asked_readSingle s.sim address _))).bind ?_
  rintro _ s₁ ⟨hserved₁, howns₁, rfl, hsim₁⟩
  rw [if_neg (by decide)]
  have hsim₁ : s₁.sim = s.sim.asked.saying (idleByte :: s.sim.blockBytes lba) := hsim₁
  have hnext : s₁.sim.next = (idleByte, s.sim.asked.saying (s₁.sim.blockBytes lba)) := by
    rw [hsim₁, SimCard.next_saying rfl]
    rfl
  have hmedia : s₁.sim.media = s.sim.media := by rw [hsim₁]; rfl
  have hformatted₁ : s₁.sim.Formatted := hformatted.of_storage (SimCard.storage_of_media hmedia)
  have hpatient : Patient 1 s₁.env.clock := (h.patient_behind hserved₁ 0).mono h.allows
  refine (clean_receiveOne patience (hserved₁.clean h.clean) hpatient
    (show s.sim.asked.selected = true from rfl) (by rw [hsim₁]; exact h.tokens) (hformatted₁ lba)
    hnext).bind ?_
  rintro received s₂ ⟨hreceived, ⟨m, hmoved₂⟩, hsim₂⟩
  rw [if_neg (by decide)]
  rw [hmedia] at hreceived
  refine ensures_pure ⟨hreceived, hserved₁.trans hmoved₂.served, ?_, hsim₂⟩
  rw [hmoved₂.owns, howns₁]

/-- **Reading a run.** The sectors that the card holds are handed over. -/
theorem serving_readRun (h : Serving limit s) (patience : Nat)
    (hformatted : s.sim.Formatted) (address : UInt32) {count : Nat}
    (hcount : 0 < count) :
    Ensures (readRun patience address count) s fun result s' =>
      result = s.sim.media.fetch (s.sim.sectorOf address) count ∧ Served s s' ∧
        s'.device.owns = true ∧ s'.sim = s.sim.asked := by
  by_cases hmany : count > 1
  · exact serving_readMany h patience hformatted address hmany
  · obtain rfl : count = 1 := by omega
    exact serving_readOne h patience hformatted address

/-! ## Writing -/

/-- A card that waits for a block for a sector, and is not busy for too long before. -/
structure Accepting (limit : Nat) (card : SimCard) (lba : UInt32) (multi : Bool) : Prop where
  selected : card.selected = true
  out : card.out = []
  stream : card.stream = none
  phase : card.phase = .token lba multi
  busy : ∃ count ≤ limit, card.busy = .bytes count

/-- The card that has just been told of a write waits for its first block. -/
theorem accepting_asked (card : SimCard) (lba : UInt32) (multi : Bool) :
    Accepting limit (card.asked.taking (.token lba multi)) lba multi :=
  ⟨rfl, rfl, rfl, rfl, 0, Nat.zero_le limit, rfl⟩

/-- One block of a write comes to what the card makes of it. -/
theorem clean_sendBlock (patience : Nat) (h : s.Clean) (hpatient : Patient limit s.env.clock)
    {lba : UInt32} {multi : Bool} (haccepting : Accepting limit s.sim lba multi)
    {block : List UInt8} (hlength : block.length = sectorSize) :
    Ensures (transmitBlock patience (if multi then Token.startMultiWrite else Token.startBlock)
      block) s fun result s' =>
        (∃ readings, Moved readings s s') ∧ (result, s'.sim.media) = s.sim.media.put lba [block] ∧
          s'.sim = ((s.sim.waiting (.bytes 0)).offer lba multi block).2 := by
  refine (clean_transmitBlock patience h haccepting.selected haccepting.out haccepting.stream
    haccepting.phase hlength).mono ?_
  rintro result s' ⟨hmoved, ⟨hsim, hresult⟩ | ⟨-, hlate⟩⟩
  · refine ⟨hmoved, ?_, hsim⟩
    have hmedia : (s.sim.waiting (.bytes 0)).media = s.sim.media := rfl
    rw [hresult, hsim, ← hmedia]
    rcases (s.sim.waiting (.bytes 0)).offer_cases lba multi block with
      ⟨haccepts, hput, -⟩ | ⟨haccepts, hput, -⟩
    · rw [hput, haccepts]
      rfl
    · rw [hput, haccepts]
      rfl
  · obtain ⟨count, hle, hbusy⟩ := haccepting.busy
    exact absurd (hpatient.mono hle) (hlate count hbusy)

/-- Behind a block the card is busy no longer than its knobs say. -/
theorem busy_offer {card : SimCard} (hafter : ∃ count ≤ limit, card.knobs.busyAfterBlock = .bytes count)
    (lba : UInt32) (multi : Bool) (block : List UInt8) :
    ∃ count ≤ limit, ((card.waiting (.bytes 0)).offer lba multi block).2.busy = .bytes count := by
  rcases (card.waiting (.bytes 0)).offer_cases lba multi block with ⟨-, -, hbusy⟩ | ⟨-, -, hbusy⟩
  · exact ⟨0, Nat.zero_le limit, hbusy⟩
  · obtain ⟨count, hle, hknob⟩ := hafter
    exact ⟨count, hle, hbusy.trans hknob⟩

/-- **A run of blocks** comes to what the card makes of them, and it waits for more. -/
theorem clean_sendBlocks (patience : Nat) (blocks : List (List UInt8)) (h : s.Clean)
    (hpatient : ∀ readings, Patient limit (ticked readings s.env.clock)) {lba : UInt32}
    (haccepting : Accepting limit s.sim lba true)
    (hafter : ∃ count ≤ limit, s.sim.knobs.busyAfterBlock = .bytes count)
    (hlength : ∀ block ∈ blocks, block.length = sectorSize) :
    Ensures (transmitBlocks patience blocks) s fun result s' =>
      (∃ readings, Moved readings s s') ∧ (result, s'.sim.media) = s.sim.media.put lba blocks ∧
        (∃ next, Accepting limit s'.sim next true) ∧ s'.sim.idle = s.sim.idle := by
  induction blocks generalizing s lba with
  | nil => exact ensures_pure ⟨⟨0, Moved.refl s⟩, rfl, ⟨lba, haccepting⟩, rfl⟩
  | cons block rest ih =>
    have hfirst : block.length = sectorSize := hlength block (List.mem_cons_self ..)
    refine (clean_sendBlock patience h (hpatient 0) haccepting hfirst).bind ?_
    rintro result s₁ ⟨⟨m, hmoved₁⟩, hput, hsim₁⟩
    obtain ⟨hselected, hout, hstream, hidle, hknobs, hphase⟩ :=
      (s.sim.waiting (.bytes 0)).offer_kept lba true block
    rw [← hsim₁] at hselected hout hstream hidle hknobs hphase
    -- accepted or not, the card waits for the next block
    have haccepting₁ : Accepting limit s₁.sim (lba + 1) true := by
      refine ⟨hselected.trans haccepting.selected, hout, hstream.trans haccepting.stream,
        hphase, ?_⟩
      rw [hsim₁]
      exact busy_offer hafter lba true block
    rw [SimCard.put_cons, ← hput]
    rcases result with error | _
    · exact ensures_pure ⟨⟨m, hmoved₁⟩, rfl, ⟨_, haccepting₁⟩, hidle⟩
    · have hpatient₁ : ∀ readings, Patient limit (ticked readings s₁.env.clock) := by
        intro readings
        rw [hmoved₁.clock, ← ticked_add]
        exact hpatient _
      have hafter₁ : ∃ count ≤ limit, s₁.sim.knobs.busyAfterBlock = .bytes count := by
        rw [hknobs]
        exact hafter
      refine (ih (hmoved₁.clean h) hpatient₁ haccepting₁ hafter₁ fun other hmem =>
        hlength other (List.mem_cons_of_mem block hmem)).mono ?_
      rintro outcome s₂ ⟨⟨n, hmoved₂⟩, hrest, hnext, hidle₂⟩
      exact ⟨⟨m + n, hmoved₁.trans hmoved₂⟩, hrest, hnext, hidle₂.trans hidle⟩

/-- The token that ends a run of blocks is taken in time. -/
theorem clean_endBlocks (patience : Nat) (h : s.Clean) (hpatient : Patient limit s.env.clock)
    {lba : UInt32} (haccepting : Accepting limit s.sim lba true) :
    Ensures (transmitStop patience) s fun result s' =>
      (∃ readings, Moved readings s s') ∧ result = .ok () ∧
        s'.sim = { s.sim with phase := .command [], busy := s.sim.knobs.busyAfterBlock } := by
  refine (clean_transmitStop patience h haccepting.selected haccepting.out haccepting.stream
    haccepting.phase).mono ?_
  rintro result s' ⟨hmoved, hdone | ⟨-, hlate⟩⟩
  · exact ⟨hmoved, hdone⟩
  · obtain ⟨count, hle, hbusy⟩ := haccepting.busy
    exact absurd (hpatient.mono hle) (hlate count hbusy)

/-- A single write. -/
theorem serving_writeOne (h : Serving limit s) (patience : Nat) (address : UInt32)
    {block : List UInt8} (hlength : block.length = sectorSize) :
    Ensures (writeOne patience address block) s fun result s' =>
      (result, s'.sim.media) = s.sim.media.put (s.sim.sectorOf address) [block] ∧ Served s s' ∧
        s'.device.owns = true ∧ Serving limit s' := by
  have hanswer : R1.isAnswer R1.ready = true := by decide
  -- the card that waits for the block
  let waiting : SimCard := s.sim.asked.taking (.token (s.sim.sectorOf address) false)
  refine (h.ask patience (by decide) address hanswer
    (congrArg SimCard.core (SimCard.asked_writeSingle s.sim address _))).bind ?_
  rintro _ s₁ ⟨hserved₁, howns₁, rfl, hsim₁⟩
  rw [if_neg (by decide)]
  have hsim₁ : s₁.sim = waiting := hsim₁
  have haccepting : Accepting limit s₁.sim (s.sim.sectorOf address) false := by
    rw [hsim₁]
    exact accepting_asked s.sim _ _
  refine (clean_sendBlock patience (hserved₁.clean h.clean) (h.patient_behind hserved₁ 0) haccepting
    hlength).mono ?_
  rintro result s₂ ⟨⟨m, hmoved₂⟩, hput, hsim₂⟩
  rw [hsim₁] at hput hsim₂
  obtain ⟨-, -, -, hidle, hknobs, -⟩ :=
    (waiting.waiting (.bytes 0)).offer_kept (s.sim.sectorOf address) false block
  rw [← hsim₂] at hidle hknobs
  have hserved : Served s s₂ := hserved₁.trans hmoved₂.served
  have howns : s₂.device.owns = true := by rw [hmoved₂.owns, howns₁]
  refine ⟨hput, hserved, howns, h.served hserved hknobs (hidle.trans h.ready) ?_
    (settled_of_owns howns)⟩
  rw [hsim₂]
  exact busy_offer (show ∃ count ≤ limit, waiting.knobs.busyAfterBlock = _ from h.busyAfter) _ _ _

omit [CardBoard H] [TickSource C] in
theorem isSd_of_kind (kind : SimKind) : kind.family.isSd = true ↔ kind ≠ .mmc := by
  cases kind <;> decide

/-- A card that knows application commands is told a count, and has no objection. -/
theorem serving_sendCount (h : Serving limit s) (patience : Nat) (hkind : s.sim.kind ≠ .mmc)
    (count : UInt32) :
    Ensures (send patience Command.setEraseCount count) s fun status s' =>
      status = R1.ready ∧ s'.sim = s.sim.asked ∧ Served s s' ∧ s'.device.owns = true := by
  have hanswer : R1.isAnswer R1.ready = true := by decide
  have hstatus : s.sim.status = R1.ready := SimCard.status_of_ready h.ready
  -- the card that took notice of an application command
  let noticed : SimCard := { s.sim.asked with appPending := true }
  have hnotice : (s.sim.asked.execute Command.appNotice.index 0 s.sim.appPending).core =
      noticed.answer R1.ready [] := by
    rw [SimCard.asked_appNotice hkind, hstatus]
    rfl
  unfold send
  rw [if_pos (by decide)]
  refine (h.ask patience (by decide) 0 hanswer hnotice).bind ?_
  rintro _ s₁ ⟨hserved₁, howns₁, rfl, hsim₁⟩
  rw [if_neg (by decide)]
  have hsim₁ : s₁.sim = noticed := hsim₁
  have hserving₁ : Serving limit s₁ := h.asked hserved₁ howns₁ hsim₁
  have hexecute : (s₁.sim.asked.execute Command.setEraseCount.index count s₁.sim.appPending).core =
      s.sim.asked.answer R1.ready [] := by
    rw [hsim₁]
    exact congrArg SimCard.core (SimCard.asked_setEraseCount noticed count)
  refine (hserving₁.ask patience (by decide) count hanswer hexecute).mono ?_
  rintro status s₂ ⟨hserved₂, howns₂, hready, hsim₂⟩
  exact ⟨hready, hsim₂, hserved₁.trans hserved₂, howns₂⟩

/-- Announcing a write changes nothing about the card but that it was asked something. -/
theorem serving_announceCount (h : Serving limit s) (patience : Nat) {family : Family}
    (hfamily : family = s.sim.kind.family) (count : Nat) :
    Ensures (announceCount patience family count) s fun _ s' =>
      s'.sim.asked = s.sim.asked ∧ Served s s' ∧ Serving limit s' := by
  unfold announceCount
  by_cases hsd : family.isSd = true
  · rw [if_pos hsd]
    rw [hfamily, isSd_of_kind] at hsd
    refine (serving_sendCount h patience hsd count.toUInt32).bind ?_
    rintro _ s₁ ⟨rfl, hsim₁, hserved₁, howns₁⟩
    rw [if_neg (by decide)]
    exact ensures_pure ⟨by rw [hsim₁]; rfl, hserved₁, h.asked hserved₁ howns₁ hsim₁⟩
  · rw [if_neg hsd]
    exact ensures_pure ⟨rfl, Served.refl s, h⟩

/-- A multiple write. -/
theorem serving_writeMany (h : Serving limit s) (patience : Nat) {family : Family}
    (hfamily : family = s.sim.kind.family) (address : UInt32) (blocks : List (List UInt8))
    (hlength : ∀ block ∈ blocks, block.length = sectorSize) :
    Ensures (writeMany patience family address blocks) s fun result s' =>
      (result, s'.sim.media) = s.sim.media.put (s.sim.sectorOf address) blocks ∧ Served s s' ∧
        s'.device.owns = true ∧ Serving limit s' := by
  have hanswer : R1.isAnswer R1.ready = true := by decide
  refine (serving_announceCount h patience hfamily blocks.length).bind ?_
  rintro _ s₁ ⟨hasked, hserved₁, hserving₁⟩
  -- the card that waits for the first block
  let waiting : SimCard := s.sim.asked.taking (.token (s.sim.sectorOf address) true)
  have hexecute : (s₁.sim.asked.execute Command.writeMultiple.index address s₁.sim.appPending).core =
      waiting.answer R1.ready [] := by
    rw [hasked]
    exact congrArg SimCard.core (SimCard.asked_writeMultiple s.sim address _)
  refine (hserving₁.ask patience (by decide) address hanswer hexecute).bind ?_
  rintro _ s₂ ⟨hserved₂, howns₂, rfl, hsim₂⟩
  rw [if_neg (by decide)]
  have hserved₂ : Served s s₂ := hserved₁.trans hserved₂
  have hsim₂ : s₂.sim = waiting := hsim₂
  have haccepting : Accepting limit s₂.sim (s.sim.sectorOf address) true := by
    rw [hsim₂]
    exact accepting_asked s.sim _ _
  refine (clean_sendBlocks patience blocks (hserved₂.clean h.clean) (h.patient_behind hserved₂)
    haccepting (by rw [hsim₂]; exact h.busyAfter) hlength).bind ?_
  rintro outcome s₃ ⟨⟨m, hmoved₃⟩, hput, ⟨next, haccepting₃⟩, hidle₃⟩
  rw [hsim₂] at hput hidle₃
  have hserved₃ : Served s s₃ := hserved₂.trans hmoved₃.served
  have hknobs₃ : s₃.sim.knobs = s.sim.knobs := SimCard.knobs_of_put hput
  refine (clean_endBlocks patience (hserved₃.clean h.clean) (h.patient_behind hserved₃ 0)
    haccepting₃).bind ?_
  rintro _ s₄ ⟨⟨n, hmoved₄⟩, rfl, hsim₄⟩
  have hserved₄ : Served s s₄ := hserved₃.trans hmoved₄.served
  have howns₄ : s₄.device.owns = true := by rw [hmoved₄.owns, hmoved₃.owns, howns₂]
  have hmedia₄ : s₄.sim.media = s₃.sim.media := by rw [hsim₄]; rfl
  have hserving₄ : Serving limit s₄ := by
    refine h.served hserved₄ ?_ ?_ ?_ (settled_of_owns howns₄)
    · rw [hsim₄]
      exact hknobs₃
    · rw [hsim₄]
      exact hidle₃.trans h.ready
    · rw [hsim₄, hknobs₃]
      exact h.busyAfter
  rw [← hmedia₄] at hput
  rcases outcome with error | _
  · exact ensures_pure ⟨hput, hserved₄, howns₄, hserving₄⟩
  · exact ensures_pure ⟨hput, hserved₄, howns₄, hserving₄⟩

/-- **Writing a run.** The card keeps the blocks that it does not reject. -/
theorem serving_writeRun (h : Serving limit s) (patience : Nat) {family : Family}
    (hfamily : family = s.sim.kind.family) (address : UInt32) (blocks : List (List UInt8))
    (hlength : ∀ block ∈ blocks, block.length = sectorSize) :
    Ensures (writeRun patience family address blocks) s fun result s' =>
      (result, s'.sim.media) = s.sim.media.put (s.sim.sectorOf address) blocks ∧ Served s s' ∧
        s'.device.owns = true ∧ Serving limit s' := by
  unfold writeRun
  split
  · rename_i block
    exact serving_writeOne h patience address (hlength block (List.mem_singleton_self block))
  · exact serving_writeMany h patience hfamily address blocks hlength

end ChannelM

end SpiDisk
