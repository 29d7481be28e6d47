import Letterhead.Block.Data
import Letterhead.Proofs.Calendar.Spelling

/-!
# When a proposal expires

A proposal is valid for some days from its date on. Its date is read however it is spelled, so the
day of expiry is the same for all spellings: it comes that many days after the date, and it is told
by its text, from which it is read again. If no date can be read, or no year that far is supported,
the notice tells the days alone.

* `Context.issued?` — the date of the proposal, if it can be read;
* `Validity.expiresOn_of_issued`, `Validity.expiresOn_eq_none_iff` — the day of expiry, and when
  there is none;
* `validity_expires` — the day of expiry is exact, however the date is spelled.
-/

namespace Letterhead

open Decimal

/-- The date of the proposal of a context, if it has one that can be read. -/
def Context.issued? (ctx : Context) : Option Date :=
  (ctx.proposal.bind (·.date)).bind Date.ofText?

section Notice

variable (config : BlockConfig) (ctx : Context)

theorem Validity.expiresOn_eq :
    (Validity.ofContext config ctx).expiresOn =
      (ctx.issued?.bind (·.addDays? (Validity.ofContext config ctx).days)).map Date.text := rfl

/-- The day of expiry is as many days after the date of the proposal, if its year is supported. -/
theorem Validity.expiresOn_of_issued {d : Date} (h : ctx.issued? = some d) :
    (Validity.ofContext config ctx).expiresOn =
      if (d.after (Validity.ofContext config ctx).days).inRange then
        some (d.after (Validity.ofContext config ctx).days).text
      else none := by
  obtain ⟨s, -, hs⟩ := Option.bind_eq_some_iff.mp h
  obtain ⟨hvalid, -⟩ := Date.isValid_of_ofText? hs
  rw [expiresOn_eq, h, Option.bind_some, Date.addDays?_eq hvalid]
  split <;> rfl

/-- There is none if there is no date, or if that day is beyond the years that are supported. -/
theorem Validity.expiresOn_eq_none_iff :
    (Validity.ofContext config ctx).expiresOn = none ↔
      ∀ d, ctx.issued? = some d →
        (d.after (Validity.ofContext config ctx).days).inRange = false := by
  cases h : ctx.issued? with
  | none =>
    rw [expiresOn_eq, h, Option.bind_none, Option.map_none]
    exact iff_of_true rfl fun d hd => absurd hd.symm (Option.some_ne_none d)
  | some d =>
    rw [expiresOn_of_issued config ctx h]
    simp only [Option.some.injEq, forall_eq']
    split
    · next hrange =>
      rw [hrange]
      exact iff_of_false (Option.some_ne_none _) (Ne.symm Bool.false_ne_true)
    · next hrange => exact iff_of_true rfl (Bool.eq_false_iff.mpr hrange)

end Notice

/-- **A proposal expires on the exact day, however its date is spelled.** The block of validity has
a notice in every context. If the proposal has a date, spelled in any way and amid blanks or not,
the day of expiry is the date that comes the days of validity after it, if its year is supported; up
to the year 9999 it is told with two digits, two and four, and reads as that date. The notice has no
day exactly if no date can be read, or if that day is in no year that is supported. -/
theorem validity_expires (config : BlockConfig) (ctx : Context) :
    let v := Validity.ofContext config ctx
    BlockData.resolve BlockKind.validity.name config ctx = some (.validity v) ∧
      v.days = (config.number "days").getD defaultValidity ∧
      (∀ p s (d : Date), ctx.proposal = some p → p.date = some s →
        d.isValid = true → d.inRange = true → d.Names s →
          let last := d.after v.days
          (v.expiresOn = if last.inRange then some last.text else none) ∧
            (1 ≤ d.year → last.year ≤ 9999 →
              v.expiresOn = some last.text ∧ Date.ofText? last.text = some last ∧
              last.text.toList =
                padded 2 last.day ++ '/' :: padded 2 last.month ++ '/' ::
                  padded 4 last.year.toNat)) ∧
      (v.expiresOn = none ↔ ∀ d, ctx.issued? = some d → (d.after v.days).inRange = false) ∧
      (v.expiresOn = none → v.sentence =
        "This proposal is valid for " ++ toString v.days ++ " days from the date of issue" ++ ".") ∧
      ∀ date, v.expiresOn = some date → v.sentence =
        "This proposal is valid for " ++ toString v.days ++ " days from the date of issue" ++
          " (until " ++ date ++ ")." := by
  intro v
  refine ⟨rfl, rfl, ?_, Validity.expiresOn_eq_none_iff config ctx, ?_, ?_⟩
  · intro p s d hproposal hdate hvalid hrange hnames last
    have hissued : ctx.issued? = some d := by
      rw [Context.issued?, hproposal, Option.bind_some, hdate, Option.bind_some,
        Date.ofText?_of_names hvalid hrange hnames]
    have hexpires : v.expiresOn = if last.inRange then some last.text else none :=
      Validity.expiresOn_of_issued config ctx hissued
    refine ⟨hexpires, fun hfirst hlast => ?_⟩
    obtain ⟨hlastValid, hyear, -⟩ := Date.isValid_after hvalid v.days
    -- years do not go back, so the day is in a year of four digits
    have hpos : 0 ≤ last.year := le_trans (by omega) hyear
    have hlastRange : last.inRange = true := by
      unfold Date.inRange Date.firstYear Date.lastYear
      rw [Bool.and_eq_true, decide_eq_true_eq, decide_eq_true_eq]
      omega
    refine ⟨?_, Date.ofText?_text hlastValid hlastRange, ?_⟩
    · rw [hexpires, if_pos hlastRange]
    · rw [Date.toList_text, Date.yearText_of_le hpos hlast]
  · intro hnone
    rw [Validity.sentence, hnone]
  · intro date hsome
    rw [Validity.sentence, hsome]

/-- A proposal of the end of January, in a leap year, with the time of day. -/
theorem validity_expires_leap :
    let ctx : Context := { proposal := some { date := some " 2024-01-31T23:59:00Z\n" } }
    let config : BlockConfig := ⟨[("days", .number (.integer 30))]⟩
    Date.Names ⟨2024, 1, 31⟩ " 2024-01-31T23:59:00Z\n" ∧
      (Validity.ofContext config ctx).expiresOn = some "01/03/2024" ∧
      Date.ofText? "01/03/2024" = some ⟨2024, 3, 1⟩ := by
  intro ctx config
  have hnames : Date.Names ⟨2024, 1, 31⟩ " 2024-01-31T23:59:00Z\n" :=
    ⟨_, .timed "23:59:00Z".toList, [' '], ['\n'], List.forall_mem_singleton.mpr rfl,
      List.forall_mem_singleton.mpr rfl, rfl⟩
  obtain ⟨-, -, hspelled, -⟩ := validity_expires config ctx
  have hlast := (hspelled _ _ ⟨2024, 1, 31⟩ rfl rfl (by decide) (by decide) hnames).2
  have hdays : (Validity.ofContext config ctx).days = 30 := rfl
  have hafter : (⟨2024, 1, 31⟩ : Date).after 30 = ⟨2024, 3, 1⟩ := by decide +kernel
  have htext : Date.text ⟨2024, 3, 1⟩ = "01/03/2024" := by decide
  rw [hdays, hafter] at hlast
  obtain ⟨hexpires, hread, -⟩ := hlast (by decide) (by decide)
  rw [htext] at hexpires hread
  exact ⟨hnames, hexpires, hread⟩

end Letterhead
