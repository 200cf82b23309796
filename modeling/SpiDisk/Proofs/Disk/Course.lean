import SpiDisk.Disk.Basic
import SpiDisk.Proofs.Outcome

/-!
# `SpiDisk.Proofs.Disk.Course` — the course of a unit's transfer

A unit asks three things before it turns to its card: whether there is one, whether the sectors fit the
buffer, and whether there are any. The first that decides is the answer, and nothing but the log has
changed. Otherwise the card is handed the part of the buffer that the sectors fill, and whatever failure
it comes to, the unit notes it and tells one and the same. Reading and writing have this course in common,
so that what holds of both is proved of the course.

## Contents
- **Answers.** `Due`, the outcomes with their reasons, and `Asked`, when the card has a say in them.
- **Courses.** `Resumes`, how a transfer goes on behind its measure, and its runs: `Resumes.unasked` and
  `Resumes.asked`, from which `Resumes.throughout` and `Resumes.returns`.
- **Transfers.** `resumes_read` and `resumes_write`.
-/

namespace SpiDisk

namespace Disk

open SessionM

variable {H C : Type}

/-! ## Answers -/

/-- When a transfer of `count` sectors has an outcome, with so many bytes available: what a reason says
    holds, and no reason before it does. `moved` stands for the card, that it moved the sectors. -/
def Due (disk : Disk H) (available : Nat) (count : UInt32) (moved : Prop) :
    Except DiskError Unit → Prop
  | .error .openFail => disk.card.info.isPresent = false
  | .error .badLength =>
    disk.card.info.isPresent = true ∧ available < count.toNat * sectorSize
  | .ok _ =>
    disk.card.info.isPresent = true ∧ count.toNat * sectorSize ≤ available ∧ (count = 0 ∨ moved)
  | .error .aborted =>
    disk.card.info.isPresent = true ∧ count.toNat * sectorSize ≤ available ∧ ¬ (count = 0 ∨ moved)
  | .error .noCommand => False

/-- The card is asked for a transfer: there is one, and some sectors that fit. -/
structure Asked (disk : Disk H) (available : Nat) (count : UInt32) : Prop where
  present : disk.card.info.isPresent = true
  fits : count.toNat * sectorSize ≤ available
  sectors : count ≠ 0

section Answers

variable {disk : Disk H} {available : Nat} {count : UInt32} {moved : Prop}

/-- A transfer has one outcome: the reasons exclude each other. -/
theorem Due.unique {outcome outcome' : Except DiskError Unit}
    (h : Due disk available count moved outcome) (h' : Due disk available count moved outcome') :
    outcome = outcome' := by
  -- of two outcomes that differ, one denies what the other says of a question
  rcases outcome with (_ | _ | _ | _) | _
  all_goals
    rcases outcome' with (_ | _ | _ | _) | _
    all_goals grind [Due]

theorem Due.iff {outcome : Except DiskError Unit} (h : Due disk available count moved outcome)
    (other : Except DiskError Unit) :
    outcome = other ↔ Due disk available count moved other := by
  constructor
  · intro heq
    rw [← heq]
    exact h
  · exact h.unique

/-- What is due whatever the card does is not for it to fail. -/
theorem Due.ne_aborted {outcome : Except DiskError Unit}
    (h : ∀ moved, Due disk available count moved outcome) : outcome ≠ .error .aborted := by
  rintro rfl
  exact (h True).2.2 (.inr trivial)

/-- What a card that was asked comes to is what the unit answers, but for the kind of failure. -/
theorem Asked.due (h : Asked disk available count) {outcome : Except CardError Unit}
    (hmoved : moved ↔ outcome = .ok ()) :
    Due disk available count moved (outcome.mapError fun _ => .aborted) := by
  cases outcome with
  | ok _ => exact ⟨h.present, h.fits, .inr (hmoved.mpr rfl)⟩
  | error error =>
    refine ⟨h.present, h.fits, ?_⟩
    rintro (hnone | hyes)
    · exact h.sectors hnone
    · exact nomatch hmoved.mp hyes

theorem Asked.length_take {buffer : List UInt8} (h : Asked disk buffer.length count) :
    (buffer.take (count.toNat * sectorSize)).length = count.toNat * sectorSize := by
  rw [List.length_take, Nat.min_eq_left h.fits]

/-- A length of zero would be answered without the card. -/
theorem Asked.length_ne_zero (h : Asked disk available count) : count.toNat * sectorSize ≠ 0 := by
  have hsome : count.toNat ≠ 0 := fun hzero => h.sectors (UInt32.toNat_inj.mp hzero)
  exact Nat.mul_ne_zero hsome (by decide)

end Answers

/-! ## Courses -/

section Measure

variable {s : Session (Disk H) C} {available : Nat} {count : UInt32}

theorem transferLength_absent (h : s.device.card.info.isPresent = false) :
    transferLength available count s = some (.error .openFail, s) := by
  unfold transferLength
  rw [bind_eq rfl, h]
  rfl

theorem transferLength_short (hpresent : s.device.card.info.isPresent = true)
    (h : available < count.toNat * sectorSize) :
    ∃ log, transferLength available count s =
      some (.error .badLength, { s with env.log := log }) := by
  unfold transferLength
  rw [bind_eq rfl, hpresent]
  simp only [Bool.not_true, Bool.false_eq_true, if_false, if_neg (Nat.not_le.mpr h)]
  exact ⟨_, rfl⟩

theorem transferLength_fits (hpresent : s.device.card.info.isPresent = true)
    (h : count.toNat * sectorSize ≤ available) :
    transferLength available count s = some (.ok (count.toNat * sectorSize), s) := by
  unfold transferLength
  rw [bind_eq rfl, hpresent]
  simp only [Bool.not_true, Bool.false_eq_true, if_false, if_pos h]
  rfl

end Measure

section Course

variable {α β : Type}

/-- How a transfer goes on behind its measure. If the card is asked, what it comes to is told as `answer`
    says, behind a `note` in the log. -/
structure Resumes (next : Except DiskError Nat → SessionM (Disk H) C β) (length : Nat)
    (card : SessionM (Disk H) C α) (reply : Except DiskError Unit → β) (answer : α → β)
    (note : α → Logger → Logger) : Prop where
  refused : ∀ error, next (.error error) = pure (reply (.error error))
  empty : next (.ok 0) = pure (reply (.ok ()))
  asking : length ≠ 0 → ∃ tell, next (.ok length) = card >>= tell ∧
    ∀ a s, tell a s = some (answer a, { s with env.log := note a s.env.log })

variable {s : Session (Disk H) C} {available : Nat} {count : UInt32}
  {next : Except DiskError Nat → SessionM (Disk H) C β} {card : SessionM (Disk H) C α}
  {reply : Except DiskError Unit → β} {answer : α → β} {note : α → Logger → Logger}

/-- **A unit that need not ask its card** answers, and nothing but the log changes. -/
theorem Resumes.unasked
    (hnext : Resumes next (count.toNat * sectorSize) card reply answer note)
    (h : ¬ Asked s.device available count) :
    ∃ outcome log, (∀ moved, Due s.device available count moved outcome) ∧
      (transferLength available count >>= next) s =
        some (reply outcome, { s with env.log := log }) := by
  cases hpresent : s.device.card.info.isPresent with
  | false =>
    refine ⟨.error .openFail, s.env.log, fun _ => hpresent, ?_⟩
    rw [bind_eq (transferLength_absent hpresent), hnext.refused]
    rfl
  | true =>
    by_cases hfits : count.toNat * sectorSize ≤ available
    · have hzero : count = 0 := Decidable.byContradiction fun hsome => h ⟨hpresent, hfits, hsome⟩
      refine ⟨.ok (), s.env.log, fun _ => ⟨hpresent, hfits, .inl hzero⟩, ?_⟩
      rw [bind_eq (transferLength_fits hpresent hfits), hzero]
      show next (.ok (0 * sectorSize)) s = _
      rw [Nat.zero_mul, hnext.empty]
      rfl
    · have hshort := Nat.lt_of_not_le hfits
      obtain ⟨log, hrun⟩ := transferLength_short hpresent hshort
      refine ⟨.error .badLength, log, fun _ => ⟨hpresent, hshort⟩, ?_⟩
      rw [bind_eq hrun, hnext.refused]
      rfl

/-- **A unit that asks its card** runs as the card does. -/
theorem Resumes.asked
    (hnext : Resumes next (count.toNat * sectorSize) card reply answer note)
    (h : Asked s.device available count) :
    (transferLength available count >>= next) s = (card s).map fun run =>
      (answer run.1, { run.2 with env.log := note run.1 run.2.env.log }) := by
  obtain ⟨tell, hasked, htell⟩ := hnext.asking h.length_ne_zero
  rw [bind_eq (transferLength_fits h.present h.fits), hasked]
  cases hcard : card s with
  | none =>
    rw [bind_apply, hcard]
    rfl
  | some run =>
    obtain ⟨a, s₁⟩ := run
    rw [bind_eq hcard, htell]
    rfl

/-- What is to hold of a transfer holds of its answers without the card, and behind the card's own; and
    a transfer that does not come back stands where the card does. -/
theorem Resumes.throughout
    (hnext : Resumes next (count.toNat * sectorSize) card reply answer note)
    {J : Session (Disk H) C → Prop} {Q : β → Session (Disk H) C → Prop}
    (hidle : ∀ outcome log, (∀ moved, Due s.device available count moved outcome) →
      Q (reply outcome) { s with env.log := log })
    (hcard : Asked s.device available count → Throughout J card s fun a s₁ =>
      Q (answer a) { s₁ with env.log := note a s₁.env.log }) :
    Throughout J (transferLength available count >>= next) s Q := by
  by_cases h : Asked s.device available count
  · obtain ⟨tell, hasked, htell⟩ := hnext.asking h.length_ne_zero
    have hlength : Throughout J (transferLength available count) s fun length s' =>
        length = .ok (count.toNat * sectorSize) ∧ s' = s := by
      refine Returns.throughout ⟨_, _, transferLength_fits h.present h.fits⟩ fun length s' hrun => ?_
      rw [transferLength_fits h.present h.fits] at hrun
      cases hrun
      exact ⟨rfl, rfl⟩
    refine hlength.bind ?_
    rintro _ _ ⟨rfl, rfl⟩
    rw [hasked]
    refine (hcard h).bind fun a s₁ h₁ => Returns.throughout ⟨_, _, htell a s₁⟩ ?_
    intro b s' hrun
    rw [htell] at hrun
    cases hrun
    exact h₁
  · obtain ⟨outcome, log, hdue, hback⟩ := hnext.unasked h
    refine Returns.throughout ⟨_, _, hback⟩ fun b s' hrun => ?_
    rw [hback] at hrun
    cases hrun
    exact hidle outcome log hdue

theorem Resumes.ensures
    (hnext : Resumes next (count.toNat * sectorSize) card reply answer note)
    {Q : β → Session (Disk H) C → Prop}
    (hidle : ∀ outcome log, (∀ moved, Due s.device available count moved outcome) →
      Q (reply outcome) { s with env.log := log })
    (hcard : Asked s.device available count → Ensures card s fun a s₁ =>
      Q (answer a) { s₁ with env.log := note a s₁.env.log }) :
    Ensures (transferLength available count >>= next) s Q :=
  (hnext.throughout hidle fun h => (hcard h).anyhow).back

/-- Nothing but the card is waited for. -/
theorem Resumes.returns_iff
    (hnext : Resumes next (count.toNat * sectorSize) card reply answer note)
    (h : Asked s.device available count) :
    Returns (transferLength available count >>= next) s ↔ Returns card s := by
  unfold Returns
  rw [hnext.asked h]
  constructor
  · rintro ⟨b, s', hrun⟩
    obtain ⟨⟨a, s₁⟩, hcard, -⟩ := Option.map_eq_some_iff.mp hrun
    exact ⟨a, s₁, hcard⟩
  · rintro ⟨a, s₁, hcard⟩
    rw [hcard]
    exact ⟨_, _, rfl⟩

theorem Resumes.returns
    (hnext : Resumes next (count.toNat * sectorSize) card reply answer note)
    (hcard : Returns card s) : Returns (transferLength available count >>= next) s := by
  by_cases h : Asked s.device available count
  · exact (hnext.returns_iff h).mpr hcard
  · obtain ⟨outcome, log, -, hback⟩ := hnext.unasked h
    exact ⟨_, _, hback⟩

end Course

/-! ## Transfers -/

variable [Host H] [TickSource C] (patience : Nat) (lba count : UInt32) (buffer : List UInt8)

/-- What the log is after the card came to this: a failure is noted. -/
def noted (note : CardError → DiskNote) (outcome : Except CardError Unit) (log : Logger) : Logger :=
  match outcome with
  | .ok _ => log
  | .error error => log.report (note error)

theorem resumes_read : ∃ next : Except DiskError Nat → SessionM (Disk H) C _,
    read patience lba count buffer = transferLength buffer.length count >>= next ∧
      Resumes next (count.toNat * sectorSize)
        (onCard (Card.read patience lba (buffer.take (count.toNat * sectorSize))))
        (fun outcome => (outcome, buffer))
        (fun moved =>
          (moved.1.mapError fun _ => .aborted, moved.2 ++ buffer.drop (count.toNat * sectorSize)))
        fun moved => noted (.readAborted lba count) moved.1 := by
  refine ⟨_, rfl, fun _ => rfl, if_pos rfl, fun hlength => ⟨_, if_neg hlength, ?_⟩⟩
  rintro ⟨error | _, front⟩ s
  · rfl
  · rfl

theorem resumes_write : ∃ next : Except DiskError Nat → SessionM (Disk H) C _,
    write patience lba count buffer = transferLength buffer.length count >>= next ∧
      Resumes next (count.toNat * sectorSize)
        (onCard (Card.write patience lba (buffer.take (count.toNat * sectorSize)))) id
        (fun outcome => outcome.mapError fun _ => .aborted) (noted (.writeAborted lba count)) := by
  refine ⟨_, rfl, fun _ => rfl, if_pos rfl, fun hlength => ⟨_, if_neg hlength, ?_⟩⟩
  rintro (error | _) s
  · rfl
  · rfl

end Disk

end SpiDisk
