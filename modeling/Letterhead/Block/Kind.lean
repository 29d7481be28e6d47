/-!
# Kinds of dynamic block

A dynamic block is named by its kind. The ten kinds are listed in the order in which they are
shown to a user.
-/

namespace Letterhead

/-- The kinds of dynamic block. -/
inductive BlockKind where
  | company
  | client
  | property
  | services
  | totals
  | validity
  | terms
  | signatures
  | note
  | separator
deriving DecidableEq, Repr

namespace BlockKind

/-- Every kind, in order. -/
def all : List BlockKind :=
  [.company, .client, .property, .services, .totals, .validity, .terms, .signatures, .note,
    .separator]

/-- The name of a kind. -/
def name : BlockKind → String
  | .company => "header"
  | .client => "cliente"
  | .property => "proprieta"
  | .services => "serviziTabella"
  | .totals => "totali"
  | .validity => "validita"
  | .terms => "termini"
  | .signatures => "firme"
  | .note => "note"
  | .separator => "separatore"

/-- The kind of a name. -/
def ofName? (name : String) : Option BlockKind :=
  all.find? (·.name == name)

@[simp] theorem ofName?_name (kind : BlockKind) : ofName? kind.name = some kind := by
  cases kind <;> decide

end BlockKind

end Letterhead
