import Letterhead.Calendar.Format
import Letterhead.Context.Basic
import Letterhead.Template.Config

/-!
# How long a proposal is valid

* `Validity.ofContext` — the days of validity, from the settings, and the date it ends, if the
  proposal has a date and the calendar reaches so far;
* `Validity.sentence` — the notice.
-/

namespace Letterhead

/-- How long a proposal is valid. -/
structure Validity where
  days : Nat
  expiresOn : Option String
deriving DecidableEq, Repr

/-- The days of validity when none are set. -/
def defaultValidity : Nat := 30

/-- The validity of the proposal of a context. -/
def Validity.ofContext (config : BlockConfig) (ctx : Context) : Validity :=
  let days := (config.number "days").getD defaultValidity
  let issued := (ctx.proposal.bind (·.date)).bind Date.ofText?
  { days, expiresOn := (issued.bind (·.addDays? days)).map Date.text }

/-- The notice of validity. -/
def Validity.sentence (v : Validity) : String :=
  let days := "This proposal is valid for " ++ toString v.days ++ " days from the date of issue"
  match v.expiresOn with
  | some date => days ++ " (until " ++ date ++ ")."
  | none => days ++ "."

end Letterhead
