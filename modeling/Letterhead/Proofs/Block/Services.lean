import Mathlib.Data.List.Forall2
import Mathlib.Data.List.Perm.Basic
import Letterhead.Proofs.Document.Content

/-!
# Every service is shown once

A setup service without a price is not shown. Every other line item of a proposal has one place: a
row of the table of setup services, the panel of a launch or the panel of a management service, each
in the order of the items of its bucket. So nothing but the buckets matters to the block.

* `LineItem.IsUnpriced`, `unpricedItems`, `pricedItems` — the setup services by whether they are
  shown;
* `perm_parts`, `SameBuckets` — the parts of a list of items, and lists of the same buckets;
* `isEmpty_ofItems` — when there is nothing to show;
* `IsSetupRow`, `IsLaunchPanel`, `IsFeePanel`, `ShowsServices` — the places of items;
* `services_shown_once` — that every item is at its place and at no other.
-/

namespace Letterhead

open ServiceTable (bucket)

/-! ### The parts of a list of items -/

/-- The line items of a context. -/
def Context.items (context : Context) : List LineItem :=
  (context.proposal.map (·.lines)).getD []

/-- A setup service whose total is not positive. -/
def LineItem.IsUnpriced (item : LineItem) : Prop :=
  ServiceCategory.ofName item.name = .setup ∧ ¬ Amount.isPositive item.amount = true

/-- The setup services that have a price, which are shown. -/
def pricedItems (items : List LineItem) : List LineItem :=
  (bucket .setup items).filter fun item => Amount.isPositive item.amount

/-- The setup services that have none. -/
def unpricedItems (items : List LineItem) : List LineItem :=
  (bucket .setup items).filter fun item => !Amount.isPositive item.amount

section Parts

variable {items : List LineItem} {item : LineItem}

theorem mem_bucket {category : ServiceCategory} :
    item ∈ bucket category items ↔ item ∈ items ∧ ServiceCategory.ofName item.name = category := by
  rw [bucket, List.mem_filter, beq_iff_eq]

theorem bucket_cons (category : ServiceCategory) (item : LineItem) (items : List LineItem) :
    bucket category (item :: items) =
      if ServiceCategory.ofName item.name = category then item :: bucket category items
      else bucket category items := by
  simp only [bucket, List.filter_cons, beq_iff_eq]

theorem mem_pricedItems :
    item ∈ pricedItems items ↔ item ∈ items ∧ ServiceCategory.ofName item.name = .setup ∧
      Amount.isPositive item.amount = true := by
  rw [pricedItems, List.mem_filter, mem_bucket, and_assoc]

theorem mem_unpricedItems : item ∈ unpricedItems items ↔ item ∈ items ∧ item.IsUnpriced := by
  rw [unpricedItems, List.mem_filter, mem_bucket, and_assoc, LineItem.IsUnpriced,
    Bool.not_eq_true, Bool.not_eq_true']

/-- Every item is in one bucket. -/
theorem perm_buckets (items : List LineItem) :
    items.Perm (bucket .setup items ++ bucket .launch items ++ bucket .management items) := by
  induction items with
  | nil => exact List.Perm.refl _
  | cons item items ih =>
    -- the item is the first of its bucket, behind the buckets before it
    cases hcategory : ServiceCategory.ofName item.name with
    | setup =>
      simp only [bucket_cons, hcategory, reduceCtorEq, if_true, if_false]
      exact ih.cons item
    | launch =>
      simp only [bucket_cons, hcategory, reduceCtorEq, if_true, if_false]
      rw [List.append_assoc, List.cons_append]
      refine (ih.cons item).trans ?_
      rw [List.append_assoc]
      exact List.perm_middle.symm
    | management =>
      simp only [bucket_cons, hcategory, reduceCtorEq, if_true, if_false]
      exact (ih.cons item).trans List.perm_middle.symm

/-- The parts of a list of items: the one that is not shown, and the three that are. -/
theorem perm_parts (items : List LineItem) :
    items.Perm (unpricedItems items ++
      (pricedItems items ++ bucket .launch items ++ bucket .management items)) := by
  have hsetup : (bucket .setup items).Perm (unpricedItems items ++ pricedItems items) :=
    ((List.filter_append_perm (fun item => Amount.isPositive item.amount) _).symm).trans
      List.perm_append_comm
  refine (perm_buckets items).trans ?_
  rw [List.append_assoc, List.append_assoc, ← List.append_assoc (unpricedItems items)]
  exact hsetup.append_right _

/-- Lists of items that have the same buckets, in order, however the buckets are mixed. -/
def SameBuckets (items items' : List LineItem) : Prop :=
  ∀ category, bucket category items = bucket category items'

/-- Lists of the same buckets have the same items. -/
theorem SameBuckets.perm {items' : List LineItem} (h : SameBuckets items items') :
    items.Perm items' := by
  have hparts := perm_buckets items
  rw [h .setup, h .launch, h .management] at hparts
  exact hparts.trans (perm_buckets items').symm

/-- Neighbours that are in different buckets may change places. -/
theorem sameBuckets_swap {a b : LineItem}
    (h : ServiceCategory.ofName a.name ≠ ServiceCategory.ofName b.name)
    (before after : List LineItem) :
    SameBuckets (before ++ a :: b :: after) (before ++ b :: a :: after) := by
  intro category
  have happend : ∀ items', bucket category (before ++ items') =
      bucket category before ++ bucket category items' := fun _ => List.filter_append ..
  rw [happend, happend]
  refine congrArg _ ?_
  rw [bucket_cons, bucket_cons, bucket_cons, bucket_cons]
  by_cases ha : ServiceCategory.ofName a.name = category
  · have hb : ServiceCategory.ofName b.name ≠ category := fun hb => h (ha.trans hb.symm)
    rw [if_pos ha, if_neg hb, if_neg hb, if_pos ha]
  · rw [if_neg ha, if_neg ha]

end Parts

/-! ### The table of services -/

theorem setup_ofItems (items : List LineItem) :
    (ServiceTable.ofItems items).setup = (pricedItems items).map .ofItem := by
  rw [ServiceTable.ofItems, pricedItems, List.filter_map]
  rfl

theorem SameBuckets.ofItems_eq {items items' : List LineItem} (h : SameBuckets items items') :
    ServiceTable.ofItems items = ServiceTable.ofItems items' := by
  rw [ServiceTable.ofItems, ServiceTable.ofItems, h .setup, h .launch, h .management]

/-- There is nothing to show just if nothing but setup services without a price is there. -/
theorem isEmpty_ofItems (items : List LineItem) :
    (ServiceTable.ofItems items).isEmpty = true ↔ ∀ item ∈ items, item.IsUnpriced := by
  have hempty : (ServiceTable.ofItems items).isEmpty = true ↔
      pricedItems items ++ bucket .launch items ++ bucket .management items = [] := by
    rw [ServiceTable.isEmpty, setup_ofItems, ServiceTable.ofItems]
    simp only [Bool.and_eq_true, List.isEmpty_iff, List.map_eq_nil_iff, List.append_eq_nil_iff]
  rw [hempty]
  constructor
  · intro hnil item hitem
    -- with the three parts that are shown empty, an item is in the one that is left
    have hpart := (perm_parts items).mem_iff.mp hitem
    rw [hnil, List.append_nil] at hpart
    exact (mem_unpricedItems.mp hpart).2
  · intro hall
    refine List.eq_nil_iff_forall_not_mem.mpr fun item hitem => ?_
    rw [List.mem_append, List.mem_append, mem_pricedItems, mem_bucket, mem_bucket] at hitem
    rcases hitem with (⟨hmem, _, hpositive⟩ | ⟨hmem, hlaunch⟩) | ⟨hmem, hmanagement⟩
    · exact (hall item hmem).2 hpositive
    · rw [(hall item hmem).1] at hlaunch
      cases hlaunch
    · rw [(hall item hmem).1] at hmanagement
      cases hmanagement

/-! ### Rows and panels -/

/-- The list price of a line item, struck, if it has a positive discount. -/
def LineItem.struckPrices (item : LineItem) : List Run :=
  match item.discountRate with
  | some rate =>
    if Amount.isPositive rate then [struckPrice (listPrice item.amount (some rate))] else []
  | none => []

/-- The row of a setup service: its name, its quantity, its unit price and its total, before which
its list price is struck if it has a discount, and nothing else is. -/
def IsSetupRow (item : LineItem) (row : List Cell) : Prop :=
  ∃ name quantity price total : Cell, row = [name, quantity, price, total] ∧
    name.runs.head? = some (.plain item.name) ∧
    quantity.runs = [.plain (numberText item.count)] ∧
    price.runs = [.plain ((item.unitPrice.map currencyText).getD "")] ∧
    total.runs.getLast? = some (.plain (currencyText item.amount)) ∧
    row.map (fun cell => cell.runs.filter (·.strike)) = [[], [], [], item.struckPrices]

/-- The frame of a launch. -/
def launchFrame (style : BrandStyle) : BoxStyle :=
  { border := some style.primary, background := some .promotion, padding := 10.0 }

/-- The panel of a launch: it begins with its name and has its price, and its list price is struck
if it has a discount, and nothing else is. -/
def IsLaunchPanel (style : BrandStyle) (item : LineItem) (panel : Element) : Prop :=
  (∃ children, panel = .box (launchFrame style) children) ∧
    panel.runs.head? = some (boldRun item.name) ∧
    boldRun (currencyText item.amount) ∈ panel.runs ∧
    panel.runs.filter (·.strike) = item.struckPrices

/-- The frame of a management service. -/
def feeFrame (style : BrandStyle) : BoxStyle :=
  { borderLeft := some style.primary, background := some .panel, padding := 10.0 }

/-- The panel of a management service: it begins with its name, and nothing is struck. -/
def IsFeePanel (style : BrandStyle) (item : LineItem) (panel : Element) : Prop :=
  (∃ children, panel = .box (feeFrame style) children) ∧
    panel.runs.head? = some (boldRun item.name) ∧
    panel.runs.filter (·.strike) = []

section Places

variable (style : BrandStyle) (item : LineItem)

theorem struckPrices_eq :
    item.struckPrices =
      if item.discount.isSome then [struckPrice (listPrice item.amount item.discount)] else [] := by
  rw [LineItem.struckPrices, LineItem.discount]
  cases item.discountRate with
  | none => rfl
  | some rate =>
    rw [Option.filter_some]
    dsimp only
    split <;> rfl

theorem struck_setupName (line : ServiceLine) : (setupName line).filter (·.strike) = [] := by
  rw [setupName]
  cases line.description <;> rfl

theorem struck_setupTotal :
    (setupTotal (.ofItem item)).filter (·.strike) = item.struckPrices := by
  rw [setupTotal, struckPrices_eq]
  show List.filter _ ((if item.discount.isSome then _ else []) ++ _) = _
  cases item.discount.isSome <;> rfl

theorem isSetupRow_setupRow : IsSetupRow item (setupRow (.ofItem item)) := by
  refine ⟨_, _, _, _, rfl, rfl, rfl, rfl, List.getLast?_concat, ?_⟩
  show [(setupName _).filter _, [], [], (setupTotal _).filter _] = _
  rw [struck_setupName, struck_setupTotal]

theorem struck_map_toList {build : String → Run} (h : ∀ text, (build text).strike = false)
    (text : Option String) : (text.map build).toList.filter (·.strike) = [] := by
  cases text with
  | none => rfl
  | some t => exact List.filter_cons_of_neg (by simpa using h t)

theorem struck_launchPrice :
    (launchPrice style (.ofItem item)).filter (·.strike) = item.struckPrices := by
  have hdiscount : (ServiceLine.ofItem item).discount = item.discount := rfl
  have hprice : (ServiceLine.ofItem item).listPrice = listPrice item.amount item.discount := rfl
  rw [launchPrice, struckPrices_eq, hdiscount, hprice]
  cases item.discount <;> rfl

theorem total_mem_launchPrice (line : ServiceLine) :
    boldRun (currencyText line.total) ∈ launchPrice style line := by
  rw [launchPrice]
  cases line.discount <;> simp

theorem isLaunchPanel_launchPanel :
    IsLaunchPanel style item (launchPanel style (.ofItem item)) := by
  refine ⟨⟨_, rfl⟩, ?_, ?_, ?_⟩
  · rw [runs_launchPanel]
    rfl
  · rw [runs_launchPanel, ServiceLine.launchRuns]
    have htotal := total_mem_launchPrice style (.ofItem item)
    exact List.mem_cons_of_mem _ (List.mem_append_left _ (List.mem_append_right _ htotal))
  · rw [runs_launchPanel, ServiceLine.launchRuns, List.filter_cons_of_neg Bool.false_ne_true,
      List.filter_append, List.filter_append, struck_launchPrice,
      struck_map_toList fun _ => rfl, struck_map_toList fun _ => rfl, List.nil_append,
      List.append_nil]

theorem struck_feeText (line : ServiceLine) : (feeText style line).filter (·.strike) = [] := by
  rw [feeText]
  cases line.feeRate <;> rfl

theorem isFeePanel_feePanel : IsFeePanel style item (feePanel style (.ofItem item)) := by
  refine ⟨⟨_, rfl⟩, ?_, ?_⟩
  · rw [runs_feePanel]
    rfl
  · rw [runs_feePanel, ServiceLine.feeRuns, List.filter_cons_of_neg Bool.false_ne_true,
      List.filter_append, List.filter_append, struck_feeText,
      struck_map_toList fun _ => rfl, struck_map_toList fun _ => rfl, List.append_nil,
      List.append_nil]

end Places

/-! ### The block -/

/-- The text that stands for no services. -/
def noServices : Element :=
  textElement [italicRun "No services included in this proposal."] .muted

/-- The caption and the table of setup services that have a price: a head, a row for each of them
and their subtotal. There is neither if there are none of them. -/
def IsSetupSection (style : BrandStyle) (priced : List LineItem) (es : List Element) : Prop :=
  (priced = [] ∧ es = []) ∨
    (priced ≠ [] ∧ ∃ rows, List.Forall₂ IsSetupRow priced rows ∧
      es = [caption style "Setup services", .table setupColumns (setupHead ::
        (rows ++ [subtotalRow (Amount.sum (priced.map LineItem.amount))]))])

/-- The places of items: the setup services that have a price, then the launches, then the
management services, one for each item in the order of the items. -/
def ShowsServices (style : BrandStyle) (items : List LineItem) (es : List Element) : Prop :=
  ∃ setup launches fees, es = setup ++ launches ++ fees ∧
    IsSetupSection style (pricedItems items) setup ∧
    List.Forall₂ (IsLaunchPanel style) (bucket .launch items) launches ∧
    List.Forall₂ (IsFeePanel style) (bucket .management items) fees

theorem blockElements_services (style : BrandStyle) (context : Context) (config : BlockConfig) :
    blockElements style context BlockKind.services.name config =
      serviceElements style (.ofItems context.items) := by
  simp [blockElements, BlockData.resolve, BlockData.ofKind, BlockData.elements, Context.items]

theorem forall₂_map_of_forall {α β : Type} {R : α → β → Prop} {f : α → β} (h : ∀ a, R a (f a))
    (xs : List α) : List.Forall₂ R xs (xs.map f) :=
  List.forall₂_map_right_iff.mpr (List.forall₂_same.mpr fun a _ => h a)

theorem isSetupSection_setupTable (style : BrandStyle) (items : List LineItem) :
    IsSetupSection style (pricedItems items)
      (if (ServiceTable.ofItems items).setup.isEmpty then []
        else [caption style "Setup services", setupTable (.ofItems items)]) := by
  rw [setupTable, ServiceTable.setupSubtotal, setup_ofItems, List.map_map, List.map_map]
  by_cases hnil : pricedItems items = []
  · rw [hnil]
    exact .inl ⟨rfl, rfl⟩
  · rw [if_neg (by simpa using hnil)]
    exact .inr ⟨hnil, _, forall₂_map_of_forall isSetupRow_setupRow _, rfl⟩

/-- Where something is shown, every item is at its place. -/
theorem showsServices_ofItems (style : BrandStyle) {items : List LineItem}
    (h : ¬ (ServiceTable.ofItems items).isEmpty = true) :
    ShowsServices style items (serviceElements style (.ofItems items)) := by
  rw [serviceElements, if_neg h]
  refine ⟨_, _, _, rfl, isSetupSection_setupTable style items, ?_, ?_⟩
  · show List.Forall₂ _ _ (((bucket .launch items).map .ofItem).map (launchPanel style))
    rw [List.map_map]
    exact forall₂_map_of_forall (isLaunchPanel_launchPanel style) _
  · show List.Forall₂ _ _ (((bucket .management items).map .ofItem).map (feePanel style))
    rw [List.map_map]
    exact forall₂_map_of_forall (isFeePanel_feePanel style) _

/-- The text for no services stands nowhere else: there are captions, tables and boxes only. -/
theorem serviceElements_eq_noServices_iff (style : BrandStyle) (t : ServiceTable) :
    serviceElements style t = [noServices] ↔ t.isEmpty = true := by
  constructor
  · intro heq
    by_contra hsome
    have hmem : noServices ∈ serviceElements style t := by
      rw [heq]
      exact List.mem_singleton_self _
    rw [serviceElements, if_neg hsome, List.mem_append, List.mem_append, List.mem_map,
      List.mem_map] at hmem
    rcases hmem with (hsetup | ⟨line, _, hpanel⟩) | ⟨line, _, hpanel⟩
    -- of what stands there only the caption is a text, and it is not in italics
    · split at hsetup
      · cases hsetup
      · rcases List.mem_cons.mp hsetup with hcaption | htable
        · have hruns := congrArg Element.runs hcaption
          rw [noServices, textElement, caption, brandedLine, Element.runs_text, Element.runs_text,
            List.singleton_inj] at hruns
          exact absurd (congrArg Run.italic hruns) Bool.noConfusion
        · cases List.mem_singleton.mp htable
    · cases hpanel
    · cases hpanel
  · intro hempty
    rw [serviceElements, if_pos hempty]
    rfl

/-- **Every service is shown once.** For all line items, the block of services is the text for no
services just if nothing is there but setup services without a price. Otherwise it has the table of
the priced setup services, if there are any, then a panel for each launch, then a panel for each
management service. These and the setup services without a price are all items, each of them once.
Items of different buckets may change places: the block is the same for the same buckets. -/
theorem services_shown_once (style : BrandStyle) (context : Context) (config : BlockConfig) :
    let items := context.items
    let block := blockElements style context BlockKind.services.name config
    (block = [noServices] ↔ ∀ item ∈ items, item.IsUnpriced) ∧
      ((∃ item ∈ items, ¬ item.IsUnpriced) → ShowsServices style items block) ∧
      items.Perm (unpricedItems items ++
        (pricedItems items ++ bucket .launch items ++ bucket .management items)) ∧
      ∀ context' : Context, SameBuckets items context'.items →
        blockElements style context' BlockKind.services.name config = block := by
  intro items block
  have hblock : block = serviceElements style (.ofItems items) :=
    blockElements_services style context config
  refine ⟨?_, ?_, perm_parts items, ?_⟩
  · rw [hblock, serviceElements_eq_noServices_iff, isEmpty_ofItems]
  · rintro ⟨item, hitem, hpriced⟩
    rw [hblock]
    refine showsServices_ofItems style fun hempty => hpriced ?_
    exact (isEmpty_ofItems items).mp hempty item hitem
  · intro context' hsame
    rw [blockElements_services, hblock, hsame.ofItems_eq]

/-- A management service, a setup service with a discount, one without a price, and a launch. -/
theorem services_shown_once_four :
    let management : LineItem := { name := "Gestione completa", commission := some 20.0 }
    let setup : LineItem := { name := "Kit", total := some 60.0, discountRate := some 25.0 }
    let rest : List LineItem := [{ name := "Foto" }, { name := "Lancio OTA", total := some 200.0 }]
    let context : Context := { proposal := some { lines := management :: setup :: rest } }
    let context' : Context := { proposal := some { lines := setup :: management :: rest } }
    (∃ item ∈ context.items, ¬ item.IsUnpriced) ∧ SameBuckets context.items context'.items ∧
      ShowsServices {} context.items (blockElements {} context BlockKind.services.name {}) ∧
      blockElements {} context' BlockKind.services.name {} =
        blockElements {} context BlockKind.services.name {} ∧
      (unpricedItems context.items).map (·.name) = ["Foto"] ∧
      (pricedItems context.items).map (·.name) = ["Kit"] ∧
      setup.struckPrices = [struckPrice 80.0] := by
  intro management setup rest context context'
  have hshown : ∃ item ∈ context.items, ¬ item.IsUnpriced := by
    refine ⟨management, List.mem_cons_self, fun hunpriced => ?_⟩
    have hcategory : ServiceCategory.ofName management.name = .management := by decide +kernel
    rw [hunpriced.1] at hcategory
    cases hcategory
  have hsame : SameBuckets context.items context'.items :=
    sameBuckets_swap (by decide +kernel) [] rest
  have h := services_shown_once {} context {}
  exact ⟨hshown, hsame, h.2.1 hshown, h.2.2.2 context' hsame, by decide +kernel, by decide +kernel,
    by decide +kernel⟩

end Letterhead
