import Letterhead.Block.Summary
import Letterhead.Proofs.Money.Display
import Letterhead.Proofs.Text.Trimming
import Letterhead.Variable

/-!
# Summaries tell variables

What a summary says of a company, a client or a property can also be said in a template, by
variables. The two do not share their way. A summary trims what it reads, joins names and addresses
and leaves blank parts out; a variable looks a field up by its name and shows it as it was written,
unless it is blank. Yet a line of a summary is there just if the variable of its field has a text,
and then it says this text without the blanks around it.

The reason is that trimming comes to the same at any point: a text is shown trimmed just if it is
not blank, the number of a count has nothing to trim, and what is joined from trimmed parts is
trimmed. The area of a property is an exception, as it is told with its unit.

* `companyLabels`, `clientLabels`, `propertyLabels` — the lines of a summary, each with its field;
* `Summary.Tells` — a summary that tells the variables of a facet;
* `trimmed?_company`, `trimmed?_client`, `trimmed?_property` — the variables of a facet, trimmed;
* `summaries_tell_variables` — that the three summaries do, with every group switched on.
-/

namespace Letterhead

/-! ### Summaries and variables -/

/-- The text of a variable of a facet, without its outer blanks. -/
def Context.trimmed? (c : Context) (facet field : String) : Option String :=
  (c.resolve? (facet ++ "." ++ field)).map Text.trimmed

/-- A summary whose title is one variable of a facet and whose lines are others, with their labels,
in order. Each is there just if its variable has a text, and is that text trimmed. -/
structure Summary.Tells (s : Summary) (c : Context) (facet titleField : String)
    (labels : List (String × String)) : Prop where
  title : s.title = c.trimmed? facet titleField
  lines : s.lines = labels.filterMap fun (label, field) =>
    (c.trimmed? facet field).map (SummaryLine.mk label)

/-- The lines of a company. -/
def companyLabels : List (String × String) := [
  ("Address", "indirizzo_completo"), ("Phone", "telefono"), ("Email", "email"),
  ("Website", "sito_web"), ("VAT number", "partita_iva"), ("Tax code", "codice_fiscale")]

/-- The lines of a client. -/
def clientLabels : List (String × String) := [
  ("Address", "indirizzo_completo"), ("Phone", "telefono"), ("Email", "email"),
  ("Tax code", "codice_fiscale"), ("VAT number", "partita_iva")]

/-- The lines of a property but for its area. -/
def propertyLabels : List (String × String) := [
  ("Address", "indirizzo_completo"), ("Bedrooms", "camere"), ("Bathrooms", "bagni"),
  ("Max guests", "posti_letto"), ("CIR", "codice_cir"), ("CIN", "codice_cin")]

/-- A summary without the area of a property. -/
def Summary.withoutArea (s : Summary) : Summary :=
  { s with lines := s.lines.filter (·.label != "Size") }

/-- The settings that switch groups of lines. -/
def groupKeys : List String :=
  ["showAddress", "showContacts", "showPiva", "showCf", "showDetails", "showCodes"]

/-- Settings that switch no group off. -/
def BlockConfig.ShowsAll (config : BlockConfig) : Prop :=
  ∀ key ∈ groupKeys, config.flag key true = true

instance (config : BlockConfig) : Decidable config.ShowsAll :=
  inferInstanceAs (Decidable (∀ key ∈ groupKeys, config.flag key true = true))

/-! ### What is shown, trimmed -/

/-- What a value shows, without its outer blanks. -/
def Datum.trimmed? (d : Datum) : Option String :=
  d.shown?.map Text.trimmed

section Trimmed

/-- A text is shown trimmed just if it is not blank. -/
theorem trimmed?_text (text : Option String) :
    (text.map Datum.text).bind Datum.trimmed? = shown text := by
  cases text with
  | none => rfl
  | some s =>
    show (if Text.isBlankText s then none else some s).map Text.trimmed =
      if Text.isBlankText s then none else some (Text.trimmed s)
    split <;> rfl

/-- A whole address is joined, so that it is shown as it is. -/
theorem shown_line (a : Address) : shown a.line = a.line :=
  Text.bind_present_joinPresent ..

/-- A full name is joined, too. -/
theorem shown_fullName (c : Client) : shown c.fullName = c.fullName :=
  Text.bind_present_joinPresent ..

/-- A number of its digits has nothing to trim. -/
theorem trimmed?_count (count : Option Nat) :
    (count.map Datum.count).bind Datum.trimmed? = count.map toString := by
  cases count with
  | none => rfl
  | some n =>
    have htight : Text.IsTight (toString n).toList := by
      rw [Nat.toString_eq_ofList_toDigits, String.toList_ofList]
      exact Text.isTight_of_forall (List.ne_nil_of_length_pos Nat.length_toDigits_pos)
        fun c hc => isBlank_of_mem_toDigits hc
    show some (Text.trimmed (toString n)) = some (toString n)
    rw [Text.trimmed, htight.trim_eq, String.ofList_toList]

end Trimmed

/-! ### The variables of a facet -/

section Facets

variable {field : String} (c : Context)

/-- A variable is looked up by its path, and what is found is trimmed. -/
theorem trimmed?_of_path {facet : String}
    (hpath : pathSegments (facet ++ "." ++ field) = [facet, field]) :
    c.trimmed? facet field = (c.datum? [facet, field]).bind Datum.trimmed? := by
  rw [Context.trimmed?, Context.resolve?, hpath, Option.map_bind]
  rfl

theorem trimmed?_company (hpath : pathSegments ("azienda" ++ "." ++ field) = ["azienda", field]) :
    c.trimmed? "azienda" field =
      c.company.bind fun company => (company.datum? field).bind Datum.trimmed? := by
  rw [trimmed?_of_path c hpath]
  exact Option.bind_assoc ..

theorem trimmed?_client (hpath : pathSegments ("cliente" ++ "." ++ field) = ["cliente", field]) :
    c.trimmed? "cliente" field =
      c.client.bind fun client => (client.datum? field).bind Datum.trimmed? := by
  rw [trimmed?_of_path c hpath]
  exact Option.bind_assoc ..

theorem trimmed?_property
    (hpath : pathSegments ("proprieta" ++ "." ++ field) = ["proprieta", field]) :
    c.trimmed? "proprieta" field =
      c.property.bind fun property => (property.datum? field).bind Datum.trimmed? := by
  rw [trimmed?_of_path c hpath]
  exact Option.bind_assoc ..

end Facets

/-! ### The lines of a summary -/

section Lines

variable {config : BlockConfig} {key : String}

theorem group_of_showsAll (h : config.ShowsAll) (hkey : key ∈ groupKeys)
    (values : List (String × Option String)) : group config key values = labelled values :=
  if_pos (h key hkey)

theorem labelled_append (values more : List (String × Option String)) :
    labelled values ++ labelled more = labelled (values ++ more) :=
  List.filterMap_append.symm

/-- Lines are picked by their labels, whether they have a value or not. -/
theorem filter_labelled (p : String → Bool) (values : List (String × Option String)) :
    (labelled values).filter (fun line => p line.label) =
      labelled (values.filter fun value => p value.1) := by
  induction values with
  | nil => rfl
  | cons value values ih =>
    obtain ⟨label, value⟩ := value
    unfold labelled at ih ⊢
    cases value <;> cases hp : p label <;> simp [hp, ih]

/-- A summary tells the variables of a facet if it has what these are read from. -/
theorem tells_of_read {s : Summary} {c : Context} {facet titleField : String}
    {labels : List (String × String)} {read : String → Option String}
    (hread : ∀ field ∈ titleField :: labels.map (·.2), c.trimmed? facet field = read field)
    (htitle : s.title = read titleField)
    (hlines : s.lines = labelled (labels.map fun (label, field) => (label, read field))) :
    s.Tells c facet titleField labels := by
  rw [List.forall_mem_cons] at hread
  obtain ⟨htitleRead, hlabels⟩ := hread
  refine ⟨htitle.trans htitleRead.symm, ?_⟩
  rw [hlines, labelled, List.filterMap_map]
  refine List.filterMap_congr ?_
  rintro ⟨label, field⟩ hentry
  show (read field).map (SummaryLine.mk label) = (c.trimmed? facet field).map (SummaryLine.mk label)
  rw [hlabels field (List.mem_map_of_mem hentry)]

end Lines

/-! ### The three summaries -/

section Summaries

variable {config : BlockConfig} (h : config.ShowsAll) (c : Context)
include h

/-- The summary of a company tells variables. -/
theorem companySummary_tells :
    (companySummary config c).Tells c "azienda" "nome" companyLabels := by
  have hpaths : ∀ field ∈ "nome" :: companyLabels.map (·.2),
      pathSegments ("azienda" ++ "." ++ field) = ["azienda", field] := by decide +kernel
  refine tells_of_read (fun field hfield => trimmed?_company c (hpaths field hfield)) ?_ ?_
  · unfold companySummary
    cases c.company with
    | none => rfl
    | some company => exact (trimmed?_text company.name).symm
  · unfold companySummary
    cases c.company with
    | none => rfl
    | some company =>
      dsimp only
      rw [group_of_showsAll h (by decide), group_of_showsAll h (by decide),
        group_of_showsAll h (by decide), group_of_showsAll h (by decide), labelled_append,
        labelled_append, labelled_append]
      -- every value is that of a field, trimmed, and the records find these by their names
      refine congrArg labelled ?_
      rw [← shown_line]
      simp only [← trimmed?_text]
      rfl

/-- The summary of a client tells variables. -/
theorem clientSummary_tells :
    (clientSummary config c).Tells c "cliente" "nome_completo" clientLabels := by
  have hpaths : ∀ field ∈ "nome_completo" :: clientLabels.map (·.2),
      pathSegments ("cliente" ++ "." ++ field) = ["cliente", field] := by decide +kernel
  refine tells_of_read (fun field hfield => trimmed?_client c (hpaths field hfield)) ?_ ?_
  · unfold clientSummary
    cases c.client with
    | none => rfl
    | some client =>
      show client.fullName = (client.fullName.map Datum.text).bind Datum.trimmed?
      rw [trimmed?_text, shown_fullName]
  · unfold clientSummary
    cases c.client with
    | none => rfl
    | some client =>
      dsimp only
      rw [group_of_showsAll h (by decide), group_of_showsAll h (by decide),
        group_of_showsAll h (by decide), group_of_showsAll h (by decide), labelled_append,
        labelled_append, labelled_append]
      refine congrArg labelled ?_
      rw [← shown_line]
      simp only [← trimmed?_text]
      rfl

/-- The summary of a property tells variables, but for the area. -/
theorem propertySummary_tells :
    (propertySummary config c).withoutArea.Tells c "proprieta" "nome" propertyLabels := by
  have hpaths : ∀ field ∈ "nome" :: propertyLabels.map (·.2),
      pathSegments ("proprieta" ++ "." ++ field) = ["proprieta", field] := by decide +kernel
  refine tells_of_read (fun field hfield => trimmed?_property c (hpaths field hfield)) ?_ ?_
  · unfold Summary.withoutArea propertySummary
    cases c.property with
    | none => rfl
    | some property => exact (trimmed?_text property.name).symm
  · unfold Summary.withoutArea propertySummary
    cases c.property with
    | none => rfl
    | some property =>
      dsimp only
      -- the area goes, and what stays is in the order of the labels
      rw [group_of_showsAll h (by decide), group_of_showsAll h (by decide),
        group_of_showsAll h (by decide), labelled_append, labelled_append,
        filter_labelled (· != "Size")]
      refine congrArg labelled ?_
      rw [← shown_line]
      simp only [← trimmed?_text, ← trimmed?_count]
      rfl

end Summaries

/-- **Summaries tell variables.** With every group switched on, the title and each line of the
summary of a company are there just if the variable of the field has a text, and then they are this
text without its outer blanks. The same holds of a client and, but for the area, of a property. -/
theorem summaries_tell_variables {config : BlockConfig} (h : config.ShowsAll) (c : Context) :
    (companySummary config c).Tells c "azienda" "nome" companyLabels ∧
      (clientSummary config c).Tells c "cliente" "nome_completo" clientLabels ∧
      (propertySummary config c).withoutArea.Tells c "proprieta" "nome" propertyLabels :=
  ⟨companySummary_tells h c, clientSummary_tells h c, propertySummary_tells h c⟩

/-- A client of whom the phone is blank, and a property with two counts: what is trimmed and joined,
and what is left out. -/
theorem summaries_tell_variables_client :
    let c : Context :=
      { client := some { name := some " Anna ", surname := some "Verdi", phone := some " \t",
                         email := some " anna@example.org" }
        property := some { bedrooms := some 3, guests := some 0, squareMetres := some 85.5 } }
    BlockConfig.ShowsAll {} ∧
      (clientSummary {} c).title = c.trimmed? "cliente" "nome_completo" ∧
      (clientSummary {} c).title = some "Anna Verdi" ∧
      (clientSummary {} c).lines = [⟨"Email", "anna@example.org"⟩] ∧
      c.trimmed? "cliente" "telefono" = none ∧
      (propertySummary {} c).withoutArea.lines = [⟨"Bedrooms", "3"⟩, ⟨"Max guests", "0"⟩] := by
  intro c
  have hall : BlockConfig.ShowsAll {} := by decide +kernel
  obtain ⟨-, hclient, hproperty⟩ := summaries_tell_variables hall c
  refine ⟨hall, hclient.title, by decide +kernel, ?_, by decide +kernel, ?_⟩
  · rw [hclient.lines]
    decide +kernel
  · rw [hproperty.lines]
    decide +kernel

end Letterhead
