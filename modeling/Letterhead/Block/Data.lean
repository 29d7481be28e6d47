import Letterhead.Block.Kind
import Letterhead.Block.Note
import Letterhead.Block.Services
import Letterhead.Block.Summary
import Letterhead.Block.Totals
import Letterhead.Block.Validity

/-!
# The data of dynamic blocks

* `BlockData` — what a dynamic block shows, before it is laid out;
* `BlockData.resolve` — the data of a block of a given kind, from its settings and the context.
-/

namespace Letterhead

/-- The labels of two signature lines. -/
structure Signatures where
  left : String
  right : String
deriving DecidableEq, Repr

/-- The labels that the settings give, or the usual ones. -/
def Signatures.ofConfig (config : BlockConfig) : Signatures where
  left := (config.text "leftLabel").getD "Supplier"
  right := (config.text "rightLabel").getD "Client"

/-- The clauses of the terms block. -/
def termClauses : List String := [
  "Prices are in euro and exclude VAT unless stated otherwise.",
  "Setup services are invoiced on acceptance of this proposal.",
  "Management fees are calculated on the net revenue of each booking.",
  "Either party may terminate the management agreement with 60 days written notice.",
  "The client guarantees that the property complies with local short-term rental regulations."]

/-- What a dynamic block shows. -/
inductive BlockData where
  | company (summary : Summary)
  | client (summary : Summary)
  | property (summary : Summary)
  | services (table : ServiceTable)
  /-- The totals, if there is a proposal. -/
  | totals (totals : Option Totals)
  | validity (validity : Validity)
  | terms (clauses : List String)
  | signatures (labels : Signatures)
  | note (note : Note)
  | separator

namespace BlockData

/-- What a block of a kind shows. -/
def ofKind (kind : BlockKind) (config : BlockConfig) (ctx : Context) : BlockData :=
  match kind with
  | .company => .company (companySummary config ctx)
  | .client => .client (clientSummary config ctx)
  | .property => .property (propertySummary config ctx)
  | .services => .services (.ofItems ((ctx.proposal.map (·.lines)).getD []))
  | .totals => .totals (ctx.proposal.map .ofProposal)
  | .validity => .validity (.ofContext config ctx)
  | .terms => .terms termClauses
  | .signatures => .signatures (.ofConfig config)
  | .note => .note (.ofConfig config)
  | .separator => .separator

/-- What a block shows whose kind is named so; nothing if there is no such kind. -/
def resolve (name : String) (config : BlockConfig) (ctx : Context) : Option BlockData :=
  (BlockKind.ofName? name).map fun kind => ofKind kind config ctx

end BlockData

end Letterhead
