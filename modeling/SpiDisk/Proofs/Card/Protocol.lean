import SpiDisk.Bench.SimCard
import SpiDisk.Proofs.Card.Conversation
import SpiDisk.Proofs.Device

/-!
# `SpiDisk.Proofs.Card.Protocol` — the order in which a card is asked

Bringing up a card is a conversation whose every command hangs on answers that came before it. This
module says on which, for any board and any clock: a card may answer anything, at any time or never,
and a frame may be lost on its way, but no command goes out that the answers heard so far do not allow,
and a card is taken for brought up only at the end of a complete conversation. A card that is polled for
ever is polled lawfully for ever: every step says where it may stand as well as what it leaves behind.

## Contents
- **What is allowed.** `Permitted`, the commands and what goes before each; `Lawful`, that every
  exchange had only a permitted command; `Completed`, what a complete conversation is.
- **One more exchange.** `Course`, what is settled once the card was asked for its version.
- **Steps.** `Abiding`, what holds wherever a conversation stands, and one lemma for each step of
  identification, from `lawful_resetCard` to `lawful_identify`.
- **Cards.** `Card.lawful_bringUp`.
-/

namespace SpiDisk

/-! ## What is allowed

Exchanges stand latest first, as they do in a `Talk`. -/

/-- Some command was sent. -/
def Spoken (before : List Exchange) : Prop :=
  ∃ x ∈ before, x.frame ≠ none

/-- The last exchange is as `P` says. -/
def Behind (before : List Exchange) (P : Exchange → Prop) : Prop :=
  ∃ x ∈ before.head?, P x

/-- The interface condition was asked for and echoed. -/
def Echoed (before : List Exchange) : Prop :=
  ∃ x ∈ before, x.Sends .sendIfCond ifCondPattern ∧ x.answer = R1.idle ∧ x.word = ifCondPattern

/-- The answer to the first attempt to poll a card, which is the third exchange: that to the notice if
    it was refused, and that to the command behind it if not. -/
def probe (exchanges : List Exchange) : Option UInt8 :=
  match exchanges.reverse with
  | _ :: _ :: notice :: rest =>
    if notice.answer > R1.idle then some notice.answer else rest.head?.map Exchange.answer
  | _ => none

/-- The commands that may be sent, each behind the answers that it hangs on. -/
inductive Permitted (before : List Exchange) : Command → UInt32 → Prop where
  /-- The reset, before anything else. -/
  | goIdle (h : ¬Spoken before) : Permitted before .goIdle 0
  /-- The question for the interface condition, behind a reset that was answered. -/
  | sendIfCond (h : Behind before fun x => x.Sends .goIdle 0 ∧ x.answer = R1.idle) :
    Permitted before .sendIfCond ifCondPattern
  /-- A notice, once the card was reset. -/
  | appNotice (h : Spoken before) : Permitted before .appNotice 0
  /-- The poll of a version 2 card, behind a notice that was not refused. -/
  | offer (hecho : Echoed before)
    (h : Behind before fun x => x.Sends .appNotice 0 ∧ x.answer ≤ R1.idle) :
    Permitted before .appSendOpCond highCapacitySupport
  /-- The poll of any other card, behind a notice that was not refused. -/
  | ask (hecho : ¬Echoed before)
    (h : Behind before fun x => x.Sends .appNotice 0 ∧ x.answer ≤ R1.idle) :
    Permitted before .appSendOpCond 0
  /-- The poll of a card that refused the first attempt. -/
  | sendOpCond (hecho : ¬Echoed before) {r1 : UInt8} (hprobe : probe before = some r1)
    (h : R1.idle < r1) : Permitted before .sendOpCond 0
  /-- The question for the operating conditions, behind a version 2 card's poll that found it ready. -/
  | readOcr (hecho : Echoed before)
    (h : Behind before fun x =>
      x.Sends .appSendOpCond highCapacitySupport ∧ x.answer = R1.ready) :
    Permitted before .readOcr 0
  /-- The block length, behind any other card's poll that found it ready. -/
  | setBlockLen (hecho : ¬Echoed before)
    (h : Behind before fun x =>
      (x.Sends .appSendOpCond 0 ∨ x.Sends .sendOpCond 0) ∧ x.answer = R1.ready) :
    Permitted before .setBlockLen sectorSize.toUInt32
  /-- The first register, behind the command that ends either way of polling. -/
  | sendCid
    (h : Behind before fun x =>
      (x.Sends .readOcr 0 ∨ x.Sends .setBlockLen sectorSize.toUInt32) ∧ x.answer = R1.ready) :
    Permitted before .sendCid 0
  /-- The second register, behind all of the first. -/
  | sendCsd
    (h : Behind before fun x =>
      x.Sends .sendCid 0 ∧ x.answer = R1.ready ∧ x.block?.isSome = true) :
    Permitted before .sendCsd 0

/-- Every command was permitted behind the exchanges before it, and the first is the reset. -/
def Lawful : List Exchange → Prop
  | [] => True
  | x :: before => Lawful before ∧ ∀ frame ∈ x.frame, ∃ command argument,
      frame = Command.frame command.index argument ∧ Permitted before command argument ∧
        (¬Spoken before → command = .goIdle)

/-- The exchange `x` behind `before` tells the family of the card: a version 2 card says how it is
    addressed, and the family of any other was found at the first attempt to poll it. -/
def Tells (before : List Exchange) (x : Exchange) (family : Family) : Prop :=
  x.answer = R1.ready ∧
    (x.Sends .readOcr 0 ∧ family = (if x.word &&& capacityStatus ≠ 0 then .sdhc else .sd2) ∨
      x.Sends .setBlockLen sectorSize.toUInt32 ∧
        ∃ r1, probe before = some r1 ∧ family = if r1 ≤ R1.idle then .sd1 else .mmc)

/-- A command was answered with a whole register. -/
def Exchange.Yields (x : Exchange) (command : Command) : Prop :=
  x.Sends command 0 ∧ x.answer = R1.ready ∧ x.block?.isSome = true

/-- A complete conversation ends with what tells the family and with both registers. -/
def Completed (exchanges : List Exchange) (family : Family) : Prop :=
  ∃ csd cid last before, exchanges = csd :: cid :: last :: before ∧
    csd.Yields .sendCsd ∧ cid.Yields .sendCid ∧ Tells before last family

theorem Exchange.Sends.spoken {x : Exchange} {command : Command} {argument : UInt32}
    (h : x.Sends command argument) (before : List Exchange) : Spoken (x :: before) :=
  ⟨x, List.mem_cons_self, fun hnone => nomatch h.symm.trans hnone⟩

/-- What is permitted is a frame of its own. -/
theorem Permitted.framed {before : List Exchange} {command : Command} {argument : UInt32}
    (h : Permitted before command argument) :
    command.index ≠ Command.stopTransmission.index ∧ (0x40 ||| command.index) &&& 0xC0 = 0x40 := by
  cases h
  all_goals exact ⟨by decide, by decide⟩

theorem Permitted.ne_sendIfCond {before : List Exchange} {command : Command} {argument : UInt32}
    (h : Permitted before command argument) (hother : command ≠ .sendIfCond) :
    0x40 ||| command.index ≠ 0x40 ||| Command.sendIfCond.index := by
  cases h
  case sendIfCond => exact absurd rfl hother
  all_goals decide

/-- What was found at the first attempt stays. -/
theorem probe_cons {exchanges : List Exchange} {r1 : UInt8} (h : probe exchanges = some r1)
    (x : Exchange) : probe (x :: exchanges) = some r1 := by
  unfold probe at h ⊢
  rw [List.reverse_cons]
  match hreverse : exchanges.reverse with
  | [] | [_] | [_, _] => simp [hreverse] at h
  | _ :: _ :: notice :: rest =>
    rw [hreverse] at h
    dsimp only [List.cons_append] at h ⊢
    split
    · rwa [if_pos ‹_›] at h
    · rw [if_neg ‹_›] at h
      cases rest with
      | nil => cases h
      | cons second rest => exact h

theorem Tells.spoken {before : List Exchange} {x : Exchange} {family : Family}
    (h : Tells before x family) : Spoken (x :: before) := by
  obtain ⟨-, ⟨hsends, -⟩ | ⟨hsends, -⟩⟩ := h
  · exact hsends.spoken before
  · exact hsends.spoken before

namespace ChannelM

open SessionM CardEngine

/-! ## One more exchange -/

section Exchanges

variable {before : List Exchange} {x : Exchange} {command : Command} {argument : UInt32} {r1 : UInt8}
  {rest : List UInt8} {echo : Bool} {first : Option UInt8}

theorem Issued.lawful (h : Issued command argument r1 rest x) (hlawful : Lawful before)
    (hpermit : Permitted before command argument) (hfirst : command = .goIdle ∨ Spoken before) :
    Lawful (x :: before) := by
  refine ⟨hlawful, fun frame hframe => ⟨command, argument, h.frame_eq hframe, hpermit, ?_⟩⟩
  exact fun hnone => hfirst.resolve_right hnone

/-- What is settled once the card was asked for its version: whether it echoed the question, and, if
    it was polled once, the answer to that. -/
structure Course (echo : Bool) (first : Option UInt8) (exchanges : List Exchange) : Prop where
  lawful : Lawful exchanges
  spoken : Spoken exchanges
  echoed : Echoed exchanges ↔ echo = true
  probed : ∀ r1 ∈ first, probe exchanges = some r1

theorem Course.not_echoed (h : Course false first before) : ¬Echoed before :=
  fun hecho => nomatch h.echoed.mp hecho

/-- No command but the question itself changes what is settled. -/
theorem Issued.course (h : Issued command argument r1 rest x) (hcourse : Course echo first before)
    (hpermit : Permitted before command argument) (hother : command ≠ .sendIfCond) :
    Course echo first (x :: before) where
  lawful := h.lawful hcourse.lawful hpermit (.inr hcourse.spoken)
  spoken := hcourse.spoken.imp fun _ hx => ⟨List.mem_cons_of_mem x hx.1, hx.2⟩
  echoed := by
    rw [← hcourse.echoed]
    refine ⟨?_, fun hecho => hecho.imp fun _ hx => ⟨List.mem_cons_of_mem x hx.1, hx.2⟩⟩
    rintro ⟨y, hmem, hsends, hanswer⟩
    rcases List.mem_cons.mp hmem with rfl | hmem
    · -- the new exchange is that of another command, so it is no echo
      have hframe := h.frame_eq hsends
      exact absurd (List.cons.inj hframe).1.symm (hpermit.ne_sendIfCond hother)
    · exact ⟨y, hmem, hsends, hanswer⟩
  probed r1 hfirst := probe_cons (hcourse.probed r1 hfirst) x

/-- The argument that a card is polled with. -/
def offer (echo : Bool) : UInt32 :=
  if echo then highCapacitySupport else 0

theorem Course.offers (h : Course echo first before)
    (hnotice : Behind before fun x => x.Sends .appNotice 0 ∧ x.answer ≤ R1.idle) :
    Permitted before .appSendOpCond (offer echo) := by
  cases echo with
  | true => exact .offer (h.echoed.mpr rfl) hnotice
  | false => exact .ask h.not_echoed hnotice

end Exchanges

/-! ## Steps -/

variable {H C : Type} [Host H] [TickSource C] {s : Session (Channel H) C} {old : List Event}
  {xs : List Exchange} {echo : Bool} {first : Option UInt8}

/-- What was said so far is lawful. -/
def Abiding (old : List Event) (s : Session (Channel H) C) : Prop :=
  ∃ xs, Told old xs s ∧ Lawful xs

omit [Host H] [TickSource C] in
/-- A card that is selected was not spoken to for that. -/
theorem Unsaid.abiding (hlawful : Lawful xs) (h : Unsaid old xs s) : Abiding old s := by
  obtain htold | htold := h
  · exact ⟨xs, htold, hlawful⟩
  · exact ⟨{} :: xs, htold, hlawful, nofun⟩

/-- The conversation is lawful so far, and as `P` says of the result if there is one. -/
def Lawfully {α : Type} (old : List Event) (P : α → List Exchange → Prop)
    (result : Except CardError α) (s : Session (Channel H) C) : Prop :=
  ∃ xs, Told old xs s ∧ Lawful xs ∧ ∀ a, result = .ok a → P a xs

omit [Host H] [TickSource C] in
/-- A course is lawful if its first step is, and the rest of it behind a success. -/
theorem lawful_bind {α β : Type} {step : CardM H C α} {next : α → CardM H C β}
    {P : α → List Exchange → Prop} {Q : β → List Exchange → Prop}
    (h : Throughout (Abiding old) step.run s (Lawfully old P))
    (hnext : ∀ a xs s', Told old xs s' → Lawful xs → P a xs →
      Throughout (Abiding old) (next a).run s' (Lawfully old Q)) :
    Throughout (Abiding old) (step >>= next).run s (Lawfully old Q) := by
  refine throughout_course_bind (h.mono ?_)
  rintro (error | a) s' ⟨xs, htold, hlawful, hP⟩
  · exact ⟨xs, htold, hlawful, nofun⟩
  · exact hnext a xs s' htold hlawful (hP a rfl)

/-- A permitted command goes out as one more exchange. -/
theorem amid_send (patience : Nat) {command : Command} {argument : UInt32}
    (hplain : command.app = false) (hlawful : Lawful xs) (hpermit : Permitted xs command argument)
    (h : Told old xs s) : Throughout (Abiding old) (send patience command argument) s fun r1 s' =>
      Amid old xs command argument r1 [] s' := by
  unfold send
  rw [hplain]
  exact (told_sendPlain patience argument hpermit.framed.1 hpermit.framed.2 h).weaken
    fun _ => Unsaid.abiding hlawful

/-- A request is gone on with only where the card is ready. -/
theorem lawful_request (patience : Nat) {α : Type} {command : Command} {argument : UInt32}
    {next : Unit → CardM H C α} {P : α → List Exchange → Prop} (hplain : command.app = false)
    (hlawful : Lawful xs) (hspoken : Spoken xs) (hpermit : Permitted xs command argument)
    (h : Told old xs s)
    (hnext : ∀ s', Amid old xs command argument R1.ready [] s' →
      Throughout (Abiding old) (next ()).run s' (Lawfully old P)) :
    Throughout (Abiding old) (step (send patience command argument) >>= fun r1 =>
      attempt (requireReady command.index r1) >>= next).run s (Lawfully old P) := by
  refine throughout_course_bind (throughout_step ?_)
  refine (amid_send patience hplain hlawful hpermit h).mono fun r1 s₁ h₁ => ?_
  refine throughout_course_bind (throughout_attempt ?_)
  refine (ensures_requireReady (fun _ hs => hs) command.index r1 h₁).whole.mono ?_
  rintro (error | _) s₂ ⟨⟨x, hissued, h₂⟩, hready⟩
  · exact ⟨x :: xs, h₂, hissued.lawful hlawful hpermit (.inr hspoken), nofun⟩
  · obtain rfl := hready rfl
    exact hnext s₂ ⟨x, hissued, h₂⟩

/-! ### Reset and version -/

theorem told_powerUp (patience : Nat) :
    Upholds (Told old xs : Session (Channel H) C → Prop) (powerUp patience) := by
  intro s h
  refine (throughout_obtain (told_obtain h) h).bind fun _ s₁ h₁ => ?_
  refine (told_deselect h₁).whole.bind fun _ s₂ h₂ => ?_
  refine (told_idle powerUpBytes h₂).whole.bind fun _ s₃ h₃ => ?_
  exact throughout_waitMillis (P := fun _ => True) (fun _ _ => trivial) trivial (fun _ _ => h₃) h₃

/-- The reset is the first exchange. -/
theorem lawful_resetCard (patience : Nat) (h : Told old [] s) :
    Throughout (Abiding old) (resetCard patience) s (Lawfully old fun _ xs =>
      ∃ x, xs = [x] ∧ x.Sends .goIdle 0 ∧ x.answer = R1.idle) := by
  have hpermit : Permitted [] .goIdle 0 := .goIdle fun hspoken => nomatch hspoken
  have hpower : Throughout (Abiding old) (powerUp patience) s fun _ s' => Told old [] s' :=
    (told_powerUp patience s h).weaken fun _ htold => ⟨[], htold, trivial⟩
  refine hpower.bind fun _ s₁ h₁ => ?_
  refine (told_report _ h₁).whole.bind fun _ s₂ h₂ => ?_
  have hempty : Lawful [] := trivial
  refine (amid_send patience rfl hempty hpermit h₂).bind ?_
  rintro r1 s₃ ⟨x, hissued, h₃⟩
  have hlawful : Lawful [x] := hissued.lawful trivial hpermit (.inl rfl)
  split
  · rename_i hidle
    subst hidle
    refine throughout_pure ⟨[x], h₃, hlawful, fun _ _ => ⟨x, rfl, ?_⟩⟩
    exact ⟨hissued.sends (by decide), hissued.answer_eq⟩
  · exact throughout_bind (ensures_report (throughout_pure ⟨[x], h₃, hlawful, nofun⟩))

omit [Host H] [TickSource C] in
/-- Behind a reset, the exchange that asks for the version settles whether it was echoed. -/
theorem Issued.asked {x y : Exchange} {r1 : UInt8} {rest : List UInt8}
    (h : Issued .sendIfCond ifCondPattern r1 rest y) (hlawful : Lawful [x])
    (hreset : x.Sends .goIdle 0 ∧ x.answer = R1.idle)
    (hecho : echo = true ↔ r1 = R1.idle ∧ wordIn rest = ifCondPattern) :
    Course echo none [y, x] where
  lawful := h.lawful hlawful (.sendIfCond ⟨x, rfl, hreset⟩) (.inr (hreset.1.spoken []))
  spoken := ⟨x, by simp, fun hnone => nomatch hreset.1.symm.trans hnone⟩
  echoed := by
    rw [hecho]
    constructor
    · rintro ⟨z, hmem, hsends, hanswer, hword⟩
      obtain rfl | rfl : z = y ∨ z = x := by simpa using hmem
      · rw [h.answer_eq] at hanswer
        rw [Exchange.word, h.rest_eq] at hword
        exact ⟨hanswer, hword⟩
      · -- the reset is no such question
        have hframe := Option.some.inj (hreset.1.symm.trans hsends)
        exact absurd hframe (by decide)
    · rintro ⟨rfl, hword⟩
      refine ⟨y, List.mem_cons_self, h.sends (by decide), h.answer_eq, ?_⟩
      rw [Exchange.word, h.rest_eq, hword]
  probed := nofun

theorem course_echoesInterface (patience : Nat) {x : Exchange} (hlawful : Lawful [x])
    (hreset : x.Sends .goIdle 0 ∧ x.answer = R1.idle) (h : Told old [x] s) :
    Throughout (Abiding old) (echoesInterface patience) s fun echo s' =>
      ∃ y, Told old [y, x] s' ∧ Course echo none [y, x] := by
  have hpermit : Permitted [x] .sendIfCond ifCondPattern := .sendIfCond ⟨x, rfl, hreset⟩
  refine (amid_send patience rfl hlawful hpermit h).bind fun r1 s₁ h₁ => ?_
  split
  · rename_i hidle
    subst hidle
    refine (amid_readWord (by decide) h₁).whole.bind ?_
    rintro word s₂ ⟨bytes, hword, y, hissued, h₂⟩
    refine throughout_pure ⟨y, h₂, hissued.asked hlawful hreset ?_⟩
    simp [hword]
  · rename_i hother
    obtain ⟨y, hissued, h₁⟩ := h₁
    exact throughout_pure ⟨y, h₁, hissued.asked hlawful hreset (by simp [hother])⟩

/-! ### Polling -/

/-- An attempt to poll a card goes on from a notice only if that was not refused. -/
theorem told_attempt (patience : Nat) (hcourse : Course echo first xs) (h : Told old xs s) :
    Throughout (Abiding old) (send patience .appSendOpCond (offer echo)) s fun r1 s' =>
      ∃ notice r0, Issued .appNotice 0 r0 [] notice ∧ Course echo first (notice :: xs) ∧
        (R1.idle < r0 ∧ r1 = r0 ∧ Told old (notice :: xs) s' ∨
          r0 ≤ R1.idle ∧ ∃ x, Issued .appSendOpCond (offer echo) r1 [] x ∧
            Course echo first (x :: notice :: xs) ∧ Told old (x :: notice :: xs) s') := by
  have hpermit : Permitted xs .appNotice 0 := .appNotice hcourse.spoken
  have hnotice := told_sendPlain patience 0 hpermit.framed.1 hpermit.framed.2 h
  refine (hnotice.weaken fun _ => Unsaid.abiding hcourse.lawful).bind ?_
  rintro r0 s₁ ⟨notice, hnotice, h₁⟩
  have hcourse₁ : Course echo first (notice :: xs) := hnotice.course hcourse hpermit (by decide)
  split
  · exact throughout_pure ⟨notice, r0, hnotice, hcourse₁, .inl ⟨‹_›, rfl, h₁⟩⟩
  · rename_i hle
    have hle : r0 ≤ R1.idle := UInt8.not_lt.mp hle
    have hsends : notice.Sends .appNotice 0 := hnotice.sends (R1.isAnswer_of_le hle)
    have hpermit : Permitted (notice :: xs) .appSendOpCond (offer echo) :=
      hcourse₁.offers ⟨notice, rfl, hsends, hnotice.answer_eq.symm ▸ hle⟩
    have hpoll := told_sendPlain patience (offer echo) hpermit.framed.1 hpermit.framed.2 h₁
    refine (hpoll.weaken fun _ => Unsaid.abiding hcourse₁.lawful).mono ?_
    rintro r1 s₂ ⟨x, hissued, h₂⟩
    exact ⟨notice, r0, hnotice, hcourse₁,
      .inr ⟨hle, x, hissued, hissued.course hcourse₁ hpermit (by decide), h₂⟩⟩

/-- One attempt, whichever way the card is polled: if it found the card ready, its command was the last
    that went out. -/
theorem course_attempt (patience : Nat) (hcourse : Course echo first xs) {argument : UInt32}
    (hargument : offer echo = argument) (h : Told old xs s) :
    Throughout (Abiding old) (send patience .appSendOpCond argument) s fun r1 s' =>
      ∃ xs, Told old xs s' ∧ Course echo first xs ∧ (r1 = R1.ready →
        Behind xs fun x => x.Sends .appSendOpCond argument ∧ x.answer = R1.ready) := by
  subst hargument
  refine (told_attempt patience hcourse h).mono ?_
  rintro r1 s₁ ⟨notice, r0, -, hcourse₁, ⟨hrefused, rfl, h₁⟩ | ⟨-, x, hissued, hcourse₂, h₂⟩⟩
  · refine ⟨notice :: xs, h₁, hcourse₁, ?_⟩
    rintro rfl
    exact absurd hrefused (by decide)
  · refine ⟨x :: notice :: xs, h₂, hcourse₂, ?_⟩
    rintro rfl
    exact ⟨x, rfl, hissued.sends (by decide), hissued.answer_eq⟩

/-- The poll of a card that refused the first attempt. -/
theorem course_sendOpCond (patience : Nat) {r1 : UInt8} (hrefused : R1.idle < r1)
    (hcourse : Course false (some r1) xs) (h : Told old xs s) :
    Throughout (Abiding old) (send patience .sendOpCond 0) s fun answer s' =>
      ∃ xs, Told old xs s' ∧ Course false (some r1) xs ∧ (answer = R1.ready →
        Behind xs fun x => x.Sends .sendOpCond 0 ∧ x.answer = R1.ready) := by
  have hpermit : Permitted xs .sendOpCond 0 :=
    .sendOpCond hcourse.not_echoed (hcourse.probed r1 rfl) hrefused
  refine (amid_send patience rfl hcourse.lawful hpermit h).mono ?_
  rintro answer s₁ ⟨x, hissued, h₁⟩
  refine ⟨x :: xs, h₁, hissued.course hcourse hpermit (by decide), ?_⟩
  rintro rfl
  exact ⟨x, rfl, hissued.sends (by decide), hissued.answer_eq⟩

/-- A poll that ends well ends with an attempt that found the card ready. -/
theorem lawful_pollReady (patience : Nat) {command : Command} {argument : UInt32}
    {P : Exchange → Prop} (deadline : Deadline)
    (hattempt : ∀ (s : Session (Channel H) C) xs, Told old xs s → Course echo first xs →
      Throughout (Abiding old) (send patience command argument) s fun r1 s' =>
        ∃ xs, Told old xs s' ∧ Course echo first xs ∧ (r1 = R1.ready → Behind xs P))
    (hcourse : Course echo first xs) (h : Told old xs s) :
    Throughout (Abiding old) (pollReady patience command argument deadline) s
      (Lawfully old fun _ xs => Course echo first xs ∧ Behind xs P) := by
  refine (throughout_pollReady_of_tick (P := fun s => ∃ xs, Told old xs s ∧ Course echo first xs)
    (Q := fun s => ∃ xs, Told old xs s ∧ Course echo first xs ∧ Behind xs P)
    (fun _ hs => hs.imp fun _ hxs => ⟨hxs.1, hxs.2.lawful⟩) (fun _ hs => hs) (fun _ hs => hs) ?_
    ⟨xs, h, hcourse⟩).mono ?_
  · rintro s₁ ⟨xs₁, h₁, hcourse₁⟩
    refine (hattempt s₁ xs₁ h₁ hcourse₁).mono ?_
    rintro r1 s₂ ⟨xs₂, h₂, hcourse₂, hready⟩
    split
    · exact ⟨xs₂, h₂, hcourse₂, hready ‹_›⟩
    · exact ⟨xs₂, h₂, hcourse₂⟩
  · rintro (error | _) s₁ hs₁
    · obtain ⟨xs₁, h₁, hcourse₁⟩ := hs₁
      exact ⟨xs₁, h₁, hcourse₁.lawful, nofun⟩
    · obtain ⟨xs₁, h₁, hcourse₁, hready⟩ := hs₁
      exact ⟨xs₁, h₁, hcourse₁.lawful, fun _ _ => ⟨hcourse₁, hready⟩⟩

/-! ### Families -/

/-- A version 2 card says itself how it is addressed. -/
theorem lawful_identifyVersion2 (patience : Nat) (deadline : Deadline) (hcourse : Course true none xs)
    (h : Told old xs s) :
    Throughout (Abiding old) (identifyVersion2 patience deadline).run s (Lawfully old fun family xs =>
      ∃ last before, xs = last :: before ∧ Tells before last family) := by
  refine throughout_course_bind (throughout_step ((told_report _ h).whole.mono fun _ s₁ h₁ => ?_))
  have hpoll : Throughout (Abiding old)
      (pollReady patience .appSendOpCond highCapacitySupport deadline) s₁
      (Lawfully old fun _ xs => Course true none xs ∧ Behind xs fun x =>
        x.Sends .appSendOpCond highCapacitySupport ∧ x.answer = R1.ready) :=
    lawful_pollReady patience deadline (fun _ _ hs hxs => course_attempt patience hxs rfl hs)
      hcourse h₁
  refine lawful_bind (throughout_attempt hpoll) ?_
  rintro _ xs₂ s₂ h₂ hlawful ⟨hcourse₂, hready⟩
  have hpermit : Permitted xs₂ .readOcr 0 := .readOcr (hcourse₂.echoed.mpr rfl) hready
  refine lawful_request patience rfl hlawful hcourse₂.spoken hpermit h₂ fun s₃ h₃ => ?_
  refine throughout_course_bind (throughout_step ((amid_readWord (by decide) h₃).whole.mono ?_))
  rintro ocr s₄ ⟨bytes, hocr, x, hissued, h₄⟩
  refine throughout_course_bind (throughout_step ((told_report _ h₄).whole.mono fun _ s₅ h₅ => ?_))
  refine throughout_course_pure
    ⟨x :: xs₂, h₅, hissued.lawful hlawful hpermit (.inr hcourse₂.spoken), ?_⟩
  intro family hfamily
  obtain rfl := Except.ok.inj hfamily
  refine ⟨x, xs₂, rfl, hissued.answer_eq, .inl ⟨hissued.sends (by decide), ?_⟩⟩
  rw [Exchange.word, hissued.rest_eq, hocr]

/-- The first attempt to poll a card settles its outcome. -/
theorem course_probe (patience : Nat) {x y : Exchange} (hcourse : Course echo none [y, x])
    (h : Told old [y, x] s) :
    Throughout (Abiding old) (send patience .appSendOpCond (offer echo)) s fun r1 s' =>
      ∃ xs, Told old xs s' ∧ Course echo (some r1) xs := by
  refine (told_attempt patience hcourse h).mono ?_
  rintro r1 s₁ ⟨notice, r0, hnotice, hcourse₁,
    ⟨hrefused, rfl, h₁⟩ | ⟨hle, z, hissued, hcourse₂, h₂⟩⟩
  -- two exchanges stand before the notice, so the probe is read off it
  · refine ⟨[notice, y, x], h₁, { hcourse₁ with probed := ?_ }⟩
    rintro _ ⟨⟩
    show (if notice.answer > R1.idle then some notice.answer else none) = some r1
    rw [hnotice.answer_eq, if_pos hrefused]
  · refine ⟨[z, notice, y, x], h₂, { hcourse₂ with probed := ?_ }⟩
    rintro _ ⟨⟩
    show (if notice.answer > R1.idle then some notice.answer else some z.answer) = some r1
    rw [hnotice.answer_eq, if_neg (UInt8.not_lt.mpr hle), hissued.answer_eq]

/-- The wait for an older card repeats the command that its probe tells to. -/
theorem lawful_pollLegacy (patience : Nat) (deadline : Deadline) {r1 : UInt8}
    (hcourse : Course false (some r1) xs) (h : Told old xs s) :
    Throughout (Abiding old)
      (pollReady patience (if r1 ≤ R1.idle then .appSendOpCond else .sendOpCond) 0 deadline) s
      (Lawfully old fun _ xs => Course false (some r1) xs ∧ Behind xs fun x =>
        (x.Sends .appSendOpCond 0 ∨ x.Sends .sendOpCond 0) ∧ x.answer = R1.ready) := by
  refine lawful_pollReady patience deadline (fun s xs hs hxs => ?_) hcourse h
  split
  · refine (course_attempt patience hxs rfl hs).mono ?_
    rintro answer s' ⟨xs', hs', hxs', hready⟩
    exact ⟨xs', hs', hxs', fun hr1 => (hready hr1).imp fun _ hx => ⟨hx.1, .inl hx.2.1, hx.2.2⟩⟩
  · refine (course_sendOpCond patience (UInt8.not_le.mp ‹_›) hxs hs).mono ?_
    rintro answer s' ⟨xs', hs', hxs', hready⟩
    exact ⟨xs', hs', hxs', fun hr1 => (hready hr1).imp fun _ hx => ⟨hx.1, .inr hx.2.1, hx.2.2⟩⟩

/-- Any other card is of the family that its first answer told. -/
theorem lawful_identifyLegacy (patience : Nat) (deadline : Deadline) {x y : Exchange}
    (hcourse : Course false none [y, x]) (h : Told old [y, x] s) :
    Throughout (Abiding old) (identifyLegacy patience deadline).run s (Lawfully old fun family xs =>
      ∃ last before, xs = last :: before ∧ Tells before last family) := by
  refine throughout_course_bind (throughout_step ((course_probe patience hcourse h).mono ?_))
  rintro r1 s₁ ⟨xs₁, h₁, hcourse₁⟩
  refine throughout_course_bind (throughout_step ((told_report _ h₁).whole.mono fun _ s₂ h₂ => ?_))
  refine lawful_bind (throughout_attempt (lawful_pollLegacy patience deadline hcourse₁ h₂)) ?_
  rintro _ xs₃ s₃ h₃ hlawful ⟨hcourse₃, hready⟩
  have hpermit : Permitted xs₃ .setBlockLen sectorSize.toUInt32 :=
    .setBlockLen hcourse₃.not_echoed hready
  refine lawful_request patience rfl hlawful hcourse₃.spoken hpermit h₃ ?_
  rintro s₄ ⟨x, hissued, h₄⟩
  refine throughout_course_pure
    ⟨x :: xs₃, h₄, hissued.lawful hlawful hpermit (.inr hcourse₃.spoken), ?_⟩
  rintro _ ⟨⟩
  refine ⟨x, xs₃, rfl, hissued.answer_eq, .inr ⟨hissued.sends (by decide), r1, ?_, rfl⟩⟩
  exact hcourse₃.probed r1 rfl

theorem lawful_identifyFamily (patience : Nat) {x : Exchange} (hlawful : Lawful [x])
    (hreset : x.Sends .goIdle 0 ∧ x.answer = R1.idle) (h : Told old [x] s) :
    Throughout (Abiding old) (identifyFamily patience).run s (Lawfully old fun family xs =>
      ∃ last before, xs = last :: before ∧ Tells before last family) := by
  refine throughout_course_bind (throughout_step ?_)
  refine (told_startDeadline _ h).whole.mono fun deadline s₁ h₁ => ?_
  refine throughout_course_bind (throughout_step ((told_report _ h₁).whole.mono fun _ s₂ h₂ => ?_))
  refine throughout_course_bind (throughout_step ?_)
  refine (course_echoesInterface patience hlawful hreset h₂).mono ?_
  rintro echo s₃ ⟨y, h₃, hcourse⟩
  cases echo with
  | true =>
    refine throughout_course_bind (throughout_step ((told_report _ h₃).whole.mono fun _ s₄ h₄ => ?_))
    exact lawful_identifyVersion2 patience deadline hcourse h₄
  | false => exact lawful_identifyLegacy patience deadline hcourse h₃

/-! ### Registers -/

theorem lawful_readRegister (patience : Nat) {command : Command} (hplain : command.app = false)
    (hlawful : Lawful xs) (hspoken : Spoken xs) (hpermit : Permitted xs command 0)
    (h : Told old xs s) :
    Throughout (Abiding old) (readRegister patience command).run s (Lawfully old fun _ xs' =>
      ∃ x, xs' = x :: xs ∧ x.Yields command) := by
  refine lawful_request patience hplain hlawful hspoken hpermit h fun s₁ h₁ => ?_
  have hbehind {x : Exchange} {r1 : UInt8} {rest : List UInt8} (hissued : Issued command 0 r1 rest x) :
      Lawful (x :: xs) := hissued.lawful hlawful hpermit (.inr hspoken)
  have hreceive := (amid_receiveBlock patience (by decide) h₁).weaken
    fun _ ⟨_, x, hissued, hx⟩ => (⟨x :: xs, hx, hbehind hissued⟩ : Abiding old _)
  refine throughout_course_bind (throughout_attempt (hreceive.mono ?_))
  rintro result s₂ ⟨rest, ⟨x, hissued, h₂⟩, hblock⟩
  cases result with
  | error error => exact ⟨x :: xs, h₂, hbehind hissued, nofun⟩
  | ok bytes =>
    refine throughout_course_bind (throughout_step ((told_report _ h₂).whole.mono fun _ s₃ h₃ => ?_))
    refine throughout_course_pure ⟨x :: xs, h₃, hbehind hissued, fun _ _ => ⟨x, rfl, ?_⟩⟩
    refine ⟨hissued.sends (by decide), hissued.answer_eq, ?_⟩
    rw [Exchange.block?, hissued.rest_eq, hblock bytes rfl]
    rfl

/-- **Identification is lawful,** and complete where it succeeds. -/
theorem lawful_identify (patience : Nat) (h : Told old [] s) :
    Throughout (Abiding old) (identify patience).run s
      (Lawfully old fun info xs => Completed xs info.family) := by
  refine lawful_bind (throughout_attempt (lawful_resetCard patience h)) ?_
  rintro _ _ s₁ h₁ hlawful₁ ⟨x, rfl, hreset⟩
  refine lawful_bind (lawful_identifyFamily patience hlawful₁ hreset h₁) ?_
  rintro family _ s₂ h₂ hlawful₂ ⟨last, before, rfl, htells⟩
  refine throughout_course_bind (throughout_step ((told_report _ h₂).whole.mono fun _ s₃ h₃ => ?_))
  have hpermit : Permitted (last :: before) .sendCid 0 :=
    .sendCid ⟨last, rfl, htells.2.imp And.left And.left, htells.1⟩
  refine lawful_bind (lawful_readRegister patience rfl hlawful₂ htells.spoken hpermit h₃) ?_
  rintro cid _ s₄ h₄ hlawful₄ ⟨y, rfl, hcid⟩
  have hpermit : Permitted (y :: last :: before) .sendCsd 0 := .sendCsd ⟨y, rfl, hcid⟩
  refine lawful_bind (lawful_readRegister patience rfl hlawful₄ (hcid.1.spoken _) hpermit h₄) ?_
  rintro csd xs s₅ h₅ hlawful₅ ⟨z, rfl, hcsd⟩
  -- the sizes are read off the registers, and nothing is said to the card for them
  have hsize : ∀ {α : Type} (size : Except Csd.SizeFault α) {s : Session (Channel H) C},
      Told old (z :: y :: last :: before) s → Throughout (Abiding old) (requireSize size) s
        (Lawfully old fun _ xs => xs = z :: y :: last :: before) := fun size s hs =>
    (keeps_requireSize (fun _ hs => hs) size s hs).whole.mono fun _ s' hs' =>
      ⟨_, hs', hlawful₅, fun _ _ => rfl⟩
  refine lawful_bind (throughout_attempt (hsize _ h₅)) ?_
  rintro total _ s₆ h₆ - rfl
  refine lawful_bind (throughout_attempt (hsize _ h₆)) ?_
  rintro blockLog _ s₇ h₇ - rfl
  refine throughout_course_pure ⟨_, h₇, hlawful₅, ?_⟩
  rintro _ ⟨⟩
  exact ⟨z, y, last, before, rfl, hcsd, hcid, htells⟩

end ChannelM

/-! ## Cards -/

namespace Card

open SessionM ChannelM

variable {H C : Type} [Host H] [TickSource C]

/-- Where an attempt to bring a card up stands, or what it has left behind, everything said to the card
    was permitted. -/
theorem throughout_lawful (patience : Nat) (s : Session (Card H) C) :
    Throughout (fun t => Abiding s.device.channel.history (t.at Card.channel)) (bringUp patience) s
      fun result s' => ∃ xs, Told s.device.channel.history xs (s'.at Card.channel) ∧ Lawful xs ∧
        (result = .ok () → Completed xs s'.device.info.family) := by
  refine throughout_bind (ensures_forget ?_)
  refine throughout_bind (ensures_within (ensures_onDevice ?_))
  let s₀ : Session (Card H) C := { s with device.info := {}, device.channel.speed := .slow }
  have hstart : Told s.device.channel.history [] (s₀.at Card.channel) := ⟨[], rfl, rfl⟩
  refine (throughout_onChannel (s := s₀) (lawful_identify patience hstart)).bind ?_
  rintro outcome s₁ ⟨xs, h₁, hlawful, hcompleted⟩
  refine (throughout_onChannel (Ensures.whole (told_shutdown h₁))).bind fun _ s₂ h₂ => ?_
  cases outcome with
  | ok info =>
    refine throughout_bind (ensures_onDevice ?_)
    refine throughout_bind (ensures_within (ensures_onDevice ?_))
    refine throughout_bind (ensures_report (throughout_pure ?_))
    exact ⟨xs, h₂, hlawful, fun _ => hcompleted info rfl⟩
  | error error => exact throughout_bind (ensures_report (throughout_pure ⟨xs, h₂, hlawful, nofun⟩))

/-- **A card is asked in order.** On any board and any clock, whatever the card answers, every command
    that goes out while a card is brought up was permitted behind what had been said and heard by then,
    and the first was the reset. No data command is ever permitted. That holds of an attempt that comes
    back, and of one that does not, however far it gets. The card counts as brought up only at the end of
    a complete conversation, and is of the family that the conversation tells. -/
theorem lawful_bringUp {patience : Nat} {s s' : Session (Card H) C}
    {answer : Option (Except CardError Unit)} (hrun : (bringUp patience).advance s = (answer, s')) :
    ∃ events, s'.device.channel.history = events ++ s.device.channel.history ∧
      Lawful (talk events).exchanges ∧
      (answer = some (.ok ()) → Completed (talk events).exchanges s'.device.info.family) := by
  have hthroughout := throughout_lawful patience s
  cases answer with
  | none =>
    obtain ⟨xs, ⟨events, hevents, htalk⟩, hlawful⟩ := hthroughout.stands s' hrun
    refine ⟨events, hevents, ?_, nofun⟩
    rw [htalk]
    exact hlawful
  | some result =>
    obtain ⟨xs, ⟨events, hevents, htalk⟩, hlawful, hcompleted⟩ :=
      hthroughout.back result s' (outcome_eq_some_iff.mpr hrun)
    refine ⟨events, hevents, ?_⟩
    rw [htalk]
    exact ⟨hlawful, fun hok => hcompleted (Option.some.inj hok)⟩

/-- A MultiMediaCard refuses the notice, and is then polled four times. A version 2 card that stays idle
    is polled for as long as there is patience. -/
theorem lawful_bringUp_polled :
    let fresh (card : SimCard) : Session (Card SimCard) Counter :=
      ⟨{ channel := { host := card, line := some .one } }, { clock := { value := 0 } }⟩
    let said (s : Session (Card SimCard) Counter) : List (Option (List UInt8)) :=
      (talk s.device.channel.history).exchanges.reverse.map fun x => x.frame.map (·.take 1)
    let commands (indices : List UInt8) := indices.map fun index => some [0x40 ||| index]
    (∃ s', bringUp 60 (fresh (SimCard.new .mmc)) = some (.ok (), s') ∧
      Lawful (talk s'.device.channel.history).exchanges ∧
      Completed (talk s'.device.channel.history).exchanges .mmc ∧
      said s' = commands [0, 8, 55, 1, 1, 1, 1, 16, 10, 9]) ∧
    ∃ s', (bringUp 8).advance (fresh { SimCard.new .sdhc with knobs := { initPolls := 60 } }) =
        (none, s') ∧
      Lawful (talk s'.device.channel.history).exchanges ∧
      said s' = commands (0 :: 8 :: (List.replicate 8 [55, 41]).flatten) := by
  intro fresh said commands
  constructor
  · have hback : (bringUp 60 (fresh (SimCard.new .mmc))).any (fun up => up.1.isOk &&
        decide (up.2.device.info.family = .mmc ∧
          said up.2 = commands [0, 8, 55, 1, 1, 1, 1, 16, 10, 9])) = true := by
      decide +kernel
    obtain ⟨⟨result, s'⟩, hrun, hfound⟩ := (Option.any_eq_true _ _).mp hback
    obtain ⟨events, hevents, hlawful, hcompleted⟩ := lawful_bringUp (outcome_eq_some_iff.mp hrun)
    obtain rfl : s'.device.channel.history = events := hevents.trans (List.append_nil events)
    cases result with
    | error error => cases hfound
    | ok _ =>
      obtain ⟨hfamily, hsaid⟩ := of_decide_eq_true hfound
      exact ⟨s', hrun, hlawful, hfamily ▸ hcompleted rfl, hsaid⟩
  · let idle := fresh { SimCard.new .sdhc with knobs := { initPolls := 60 } }
    have hleft : ((bringUp 8).advance idle).1.isNone = true ∧ said ((bringUp 8).advance idle).2 =
        commands (0 :: 8 :: (List.replicate 8 [55, 41]).flatten) := by
      decide +kernel
    have hrun : (bringUp 8).advance idle = (none, _) :=
      Prod.ext (Option.isNone_iff_eq_none.mp hleft.1) rfl
    obtain ⟨events, hevents, hlawful, -⟩ := lawful_bringUp hrun
    obtain rfl : ((bringUp 8).advance idle).2.device.channel.history = events :=
      hevents.trans (List.append_nil events)
    exact ⟨_, hrun, hlawful, hleft.2⟩

end Card

end SpiDisk
