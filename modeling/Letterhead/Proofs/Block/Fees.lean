import Letterhead.Proofs.Block.Services

/-!
# Fees disclose no amount

A management service is paid by a share of the revenue. Its line item may have a total, a quantity
and a discount all the same, and a line is worked out of these for every item, whatever its bucket.
None of them shows in the block of services. Two proposals whose management services differ in
nothing else have the same block. The unit price of an item stands in for its commission where it
has none; where it has one, the unit price does not show either.

The figures are taken away from an item before the block is made of it (`LineItem.feeOnly`), and
this changes nothing (`serviceElements_concealed`). So whatever becomes the same without them has
the same block. What remains is not idle: the rate of the fee is told.

* `LineItem.feeOnly`, `LineItem.concealed` — a line item without the figures a fee does not tell;
* `feePanel_feeOnly`, `ofItems_concealed` — the panel of a fee, and the other buckets;
* `serviceElements_congr` — the services of items that differ in these figures;
* `fees_disclose_no_amount` — that the block does not change with them.
-/

namespace Letterhead

open ServiceTable (bucket)

/-! ### Line items without figures -/

/-- A line item of which only the fee is known: its commission or, if there is none, the unit price
that stands in for it. -/
def LineItem.feeOnly (item : LineItem) : LineItem :=
  { item with
    quantity := none
    total := none
    discountRate := none
    unitPrice := if item.commission.isSome then none else item.unitPrice }

/-- A line item without the figures that it does not tell. -/
def LineItem.concealed (item : LineItem) : LineItem :=
  if ServiceCategory.ofName item.name = .management then item.feeOnly else item

section Concealed

variable {item : LineItem}

theorem concealed_of_management (h : ServiceCategory.ofName item.name = .management) :
    item.concealed = item.feeOnly :=
  if_pos h

theorem concealed_of_ne (h : ServiceCategory.ofName item.name ≠ .management) :
    item.concealed = item :=
  if_neg h

/-- The figures do not decide on the bucket. -/
theorem name_concealed (item : LineItem) : item.concealed.name = item.name := by
  unfold LineItem.concealed
  split <;> rfl

theorem bucket_concealed (category : ServiceCategory) (items : List LineItem) :
    bucket category (items.map LineItem.concealed) =
      (bucket category items).map LineItem.concealed := by
  rw [bucket, List.filter_map]
  refine congrArg _ (List.filter_congr fun item _ => ?_)
  show (ServiceCategory.ofName item.concealed.name == category) = _
  rw [name_concealed]

/-- The other buckets are not concealed. -/
theorem bucket_concealed_of_ne {category : ServiceCategory} (h : category ≠ .management)
    (items : List LineItem) :
    bucket category (items.map LineItem.concealed) = bucket category items := by
  rw [bucket_concealed]
  -- an item of another bucket is not of management
  have hself : ∀ item ∈ bucket category items, item.concealed = item := by
    intro item hitem
    refine concealed_of_ne fun hmanagement => h ?_
    exact (mem_bucket.mp hitem).2.symm.trans hmanagement
  exact (List.map_congr_left hself).trans (List.map_id' _)

end Concealed

/-! ### The block -/

section Block

variable (style : BrandStyle)

/-- The commission comes first, so that a unit price beside it does not matter. -/
theorem feeRate_feeOnly (item : LineItem) :
    (ServiceLine.ofItem item.feeOnly).feeRate = (ServiceLine.ofItem item).feeRate := by
  show (item.commission.or (if item.commission.isSome then none else item.unitPrice)).filter _ =
    (item.commission.or item.unitPrice).filter _
  -- a commission hides the unit price, and without one the unit price was kept
  cases item.commission <;> rfl

/-- The panel of a fee shows the fee and the texts of its item. -/
theorem feePanel_feeOnly (item : LineItem) :
    feePanel style (.ofItem item.feeOnly) = feePanel style (.ofItem item) := by
  have hfee : feeText style (.ofItem item.feeOnly) = feeText style (.ofItem item) := by
    rw [feeText, feeText, feeRate_feeOnly]
  unfold feePanel
  rw [hfee]
  rfl

theorem feePanel_concealed (item : LineItem) :
    feePanel style (.ofItem item.concealed) = feePanel style (.ofItem item) := by
  by_cases hmanagement : ServiceCategory.ofName item.name = .management
  · rw [concealed_of_management hmanagement, feePanel_feeOnly]
  · rw [concealed_of_ne hmanagement]

/-- Concealing changes the lines of one bucket, and none of their number. -/
theorem ofItems_concealed (items : List LineItem) :
    ServiceTable.ofItems (items.map LineItem.concealed) =
      { ServiceTable.ofItems items with
        management :=
          ((bucket .management items).map LineItem.concealed).map ServiceLine.ofItem } := by
  unfold ServiceTable.ofItems
  rw [bucket_concealed_of_ne (by decide), bucket_concealed_of_ne (by decide), bucket_concealed]

/-- The block shows nothing of what is concealed. -/
theorem serviceElements_concealed (items : List LineItem) :
    serviceElements style (.ofItems (items.map LineItem.concealed)) =
      serviceElements style (.ofItems items) := by
  have hpanels :
      (((bucket .management items).map LineItem.concealed).map ServiceLine.ofItem).map
          (feePanel style) =
        ((bucket .management items).map ServiceLine.ofItem).map (feePanel style) := by
    rw [List.map_map, List.map_map, List.map_map]
    exact List.map_congr_left fun item _ => feePanel_concealed style item
  -- the block is empty for the same items, since a bucket keeps its length
  have hempty : (ServiceTable.ofItems (items.map LineItem.concealed)).isEmpty =
      (ServiceTable.ofItems items).isEmpty := by
    rw [ofItems_concealed, ServiceTable.isEmpty, ServiceTable.isEmpty, ServiceTable.ofItems]
    simp only [List.isEmpty_map]
  rw [serviceElements, serviceElements, hempty, ofItems_concealed]
  refine ite_congr rfl (fun _ => rfl) fun _ => ?_
  exact congrArg _ hpanels

/-- Items that differ in what they conceal have the same block. -/
theorem serviceElements_congr {items items' : List LineItem}
    (h : items.map LineItem.concealed = items'.map LineItem.concealed) :
    serviceElements style (.ofItems items) = serviceElements style (.ofItems items') := by
  calc serviceElements style (.ofItems items)
      = serviceElements style (.ofItems (items.map LineItem.concealed)) :=
        (serviceElements_concealed style items).symm
    _ = serviceElements style (.ofItems (items'.map LineItem.concealed)) := by rw [h]
    _ = serviceElements style (.ofItems items') := serviceElements_concealed style items'

/-- One item in the place of another that differs from it in what it conceals. -/
theorem map_concealed_replaced {item item' : LineItem} (h : item.concealed = item'.concealed)
    (before after : List LineItem) :
    (before ++ item :: after).map LineItem.concealed =
      (before ++ item' :: after).map LineItem.concealed := by
  rw [List.map_append, List.map_append, List.map_cons, List.map_cons, h]

/-- The rate of a management service is told. -/
theorem exists_feeRate_run {items : List LineItem} {item : LineItem}
    (hitem : item ∈ bucket .management items) {rate : Float}
    (hrate : (ServiceLine.ofItem item).feeRate = some rate) :
    ∃ run ∈ elementRuns (serviceElements style (.ofItems items)), run.text = percentText rate := by
  -- with a management service there is something to show
  have hsome : ¬ (ServiceTable.ofItems items).isEmpty = true := by
    intro hempty
    obtain ⟨hmem, hmanagement⟩ := mem_bucket.mp hitem
    have hsetup := ((isEmpty_ofItems items).mp hempty item hmem).1
    rw [hmanagement] at hsetup
    cases hsetup
  have hpanel : feePanel style (.ofItem item) ∈ serviceElements style (.ofItems items) := by
    rw [serviceElements, if_neg hsome]
    exact List.mem_append_right _ (List.mem_map_of_mem (List.mem_map_of_mem hitem))
  let told : Run := { text := percentText rate, bold := true, color := some style.primary }
  have htold : told ∈ (feePanel style (.ofItem item)).runs := by
    rw [runs_feePanel, ServiceLine.feeRuns, feeText, hrate]
    exact List.mem_cons_of_mem _ List.mem_cons_self
  obtain ⟨before, after, hsplit⟩ := List.append_of_mem hpanel
  refine ⟨told, ?_, rfl⟩
  rw [hsplit, elementRuns_append, elementRuns_cons]
  exact List.mem_append_right _ (List.mem_append_left _ htold)

end Block

/-- **Fees disclose no amount.** Let a management service be among the line items of a proposal. Any
other total, quantity and discount of it leave the block of services as it is, whatever else is in
the proposal. If it has a commission, so does any other unit price. What the block tells of the
figures is the rate of the fee. -/
theorem fees_disclose_no_amount (style : BrandStyle) (config : BlockConfig) {context : Context}
    {before after : List LineItem} {item : LineItem}
    (hitems : context.items = before ++ item :: after)
    (hmanagement : ServiceCategory.ofName item.name = .management) :
    let block (context : Context) := blockElements style context BlockKind.services.name config
    (∀ (total quantity discountRate : Option Float) (context' : Context),
      context'.items = before ++ { item with total, quantity, discountRate } :: after →
        block context' = block context) ∧
      (item.commission.isSome = true →
        ∀ (total quantity discountRate unitPrice : Option Float) (context' : Context),
          context'.items =
              before ++ { item with total, quantity, discountRate, unitPrice } :: after →
            block context' = block context) ∧
      ∀ rate, (ServiceLine.ofItem item).feeRate = some rate →
        ∃ run ∈ elementRuns (block context), run.text = percentText rate := by
  intro block
  -- an item of the same name and the same fee conceals what is different about it
  have hblock : ∀ (item' : LineItem) (context' : Context), item'.name = item.name →
      item'.feeOnly = item.feeOnly → context'.items = before ++ item' :: after →
        block context' = block context := by
    intro item' context' hname hfee hitems'
    have hconcealed : item'.concealed = item.concealed := by
      rw [concealed_of_management hmanagement, ← hfee]
      exact concealed_of_management (by rw [hname, hmanagement])
    show blockElements .. = blockElements ..
    rw [blockElements_services, blockElements_services, hitems, hitems']
    exact serviceElements_congr style (map_concealed_replaced hconcealed before after)
  refine ⟨?_, ?_, ?_⟩
  · intro total quantity discountRate context' hitems'
    exact hblock { item with total, quantity, discountRate } context' rfl rfl hitems'
  · intro hcommission total quantity discountRate unitPrice context' hitems'
    refine hblock { item with total, quantity, discountRate, unitPrice } context' rfl ?_ hitems'
    unfold LineItem.feeOnly
    simp only [hcommission, if_true]
  · intro rate hrate
    have hbucket : item ∈ bucket .management (before ++ item :: after) :=
      mem_bucket.mpr ⟨List.mem_append_right _ List.mem_cons_self, hmanagement⟩
    show ∃ run ∈ elementRuns (blockElements ..), _
    rw [blockElements_services, hitems]
    exact exists_feeRate_run style hbucket hrate

/-- A management service with a commission, after a setup service: its figures and its unit price do
not show. -/
theorem fees_disclose_no_amount_commission :
    let setup : LineItem := { name := "Kit", total := some 60.0 }
    let item : LineItem :=
      { name := "Gestione completa", commission := some 20.0, unitPrice := some 300.0,
        total := some 1200.0 }
    let changed : LineItem :=
      { item with total := some 950.0, quantity := some 4.0, discountRate := some 10.0,
                  unitPrice := none }
    let context : Context := { proposal := some { lines := [setup, item] } }
    let context' : Context := { proposal := some { lines := [setup, changed] } }
    context.items = [setup] ++ item :: [] ∧ ServiceCategory.ofName item.name = .management ∧
      item.commission.isSome = true ∧
      blockElements {} context' BlockKind.services.name {} =
        blockElements {} context BlockKind.services.name {} ∧
      (ServiceLine.ofItem item).feeRate = some 20.0 ∧
      ∃ run ∈ elementRuns (blockElements {} context BlockKind.services.name {}),
        run.text = "20%" := by
  intro setup item changed context context'
  have hitems : context.items = [setup] ++ item :: [] := rfl
  have hmanagement : ServiceCategory.ofName item.name = .management := by decide +kernel
  have hrate : (ServiceLine.ofItem item).feeRate = some 20.0 := by decide +kernel
  have htext : percentText 20.0 = "20%" := by decide +kernel
  have h := fees_disclose_no_amount {} {} hitems hmanagement
  have htold := h.2.2 20.0 hrate
  rw [htext] at htold
  exact ⟨hitems, hmanagement, rfl, h.2.1 rfl _ _ _ _ context' rfl, hrate, htold⟩

end Letterhead
