import Letterhead.Document.Encoding
import Letterhead.Proofs.Json.Meaning

/-!
# A document can be told from its JSON form

What is not set is left out of the JSON form of a document, and the kind of an element stands among
its fields. Nothing is lost by this: what is left out can only have one value, no field takes the
place of another, and the kind tells which fields there are. Two documents whose JSON forms say the
same are equal, if their sizes are finite; sizes are compared as numbers, so that zero equals minus
zero.

* `Element.same`, `Document.same` — documents that are equal;
* `Element.sizes`, `Document.sizes`, `AreFinite` — the numbers in a document, and finite ones;
* `Run.eq_of_meaning_eq`, `Cell.eq_of_meaning_eq` — parts without a size;
* `Element.same_of_meaning_eq` — elements at any depth;
* `Document.same_of_toJson_meaning_eq` — the whole.
-/

namespace Letterhead

open Json (Meaning fieldMeaning fieldMeaning_nil fieldMeaning_cons fieldMeaning_append meanings
  meanings_eq_map)

/-! ### Equality -/

/-- Whether two blocks of text are equal. -/
def TextBlock.same (a b : TextBlock) : Bool :=
  a.runs == b.runs && a.align == b.align && a.size == b.size && a.color == b.color &&
    a.font == b.font && a.bold == b.bold

/-- Whether two frames are equal. -/
def BoxStyle.same (a b : BoxStyle) : Bool :=
  a.borderLeft == b.borderLeft && a.border == b.border && a.background == b.background &&
    a.padding == b.padding

/-- Whether two columns are equal. -/
def Column.same (a b : Column) : Bool :=
  a.width == b.width && a.align == b.align

/-- Column by column. -/
def sameColumns : List Column → List Column → Bool
  | [], [] => true
  | a :: as, b :: bs => a.same b && sameColumns as bs
  | _, _ => false

mutual

/-- Whether two elements are equal. -/
def Element.same : Element → Element → Bool
  | .text a, .text b => a.same b
  | .box s xs, .box t ys => s.same t && sameElements xs ys
  | .list o is, .list p js => o == p && sameListItems is js
  | .divider c x, .divider d y => c == d && x == y
  | .table cs rs, .table ds ss => sameColumns cs ds && rs == ss
  | .spacer x, .spacer y => x == y
  | _, _ => false

/-- Element by element. -/
def sameElements : List Element → List Element → Bool
  | [], [] => true
  | x :: xs, y :: ys => x.same y && sameElements xs ys
  | _, _ => false

/-- Item by item. -/
def sameListItems : List Item → List Item → Bool
  | [], [] => true
  | .mk m xs :: is, .mk n ys :: js => m == n && sameElements xs ys && sameListItems is js
  | _, _ => false

end

/-- Whether two regions are equal. -/
def Region.same (a b : Region) : Bool :=
  a.fixed == b.fixed && sameElements a.children b.children

/-- Whether two regions are equal, or both missing. -/
def sameRegions : Option Region → Option Region → Bool
  | none, none => true
  | some a, some b => a.same b
  | _, _ => false

/-- Whether two page setups are equal. -/
def PageSetup.same (a b : PageSetup) : Bool :=
  a.font == b.font && a.fontSize == b.fontSize && a.color == b.color

/-- Whether two documents are equal. -/
def Document.same (d e : Document) : Bool :=
  d.page.same e.page && sameRegions d.header e.header && d.body.same e.body &&
    sameRegions d.footer e.footer

/-! ### Sizes -/

mutual

/-- The numbers in an element. -/
def Element.sizes : Element → List Float32
  | .text block => [block.size]
  | .box style children => style.padding :: elementSizes children
  | .list _ items => itemSizes items
  | .divider _ thickness => [thickness]
  | .table columns _ => columns.map (·.width)
  | .spacer height => [height]

/-- Element by element. -/
def elementSizes : List Element → List Float32
  | [] => []
  | e :: es => e.sizes ++ elementSizes es

/-- Item by item. -/
def itemSizes : List Item → List Float32
  | [] => []
  | .mk _ children :: items => elementSizes children ++ itemSizes items

end

/-- The numbers in a region, if there is one. -/
def regionSizes (region : Option Region) : List Float32 :=
  (region.map fun r => elementSizes r.children).getD []

/-- The numbers in a document. -/
def Document.sizes (d : Document) : List Float32 :=
  d.page.fontSize ::
    (regionSizes d.header ++ elementSizes d.body.children ++ regionSizes d.footer)

/-- Whether every number in a list is finite. -/
def AreFinite (sizes : List Float32) : Prop :=
  ∀ x ∈ sizes, x.isFinite = true

/-! ### Fields -/

section Fields

variable {key name : String}

/-- What a flag says that is left out when it is not set. -/
def flagMeaning (b : Bool) : Option Meaning :=
  if b then some (.bool true) else none

@[simp] theorem flagMeaning_inj {b c : Bool} : flagMeaning b = flagMeaning c ↔ b = c := by
  cases b <;> cases c <;> simp [flagMeaning]

@[simp] theorem fieldMeaning_flagField (b : Bool) :
    fieldMeaning (flagField name b) key = if key = name then flagMeaning b else none := by
  unfold flagField flagMeaning
  cases b with
  | true => rw [if_pos rfl, if_pos rfl, fieldMeaning_cons, fieldMeaning_nil, Option.none_or]; rfl
  | false =>
    rw [if_neg Bool.false_ne_true, if_neg Bool.false_ne_true, ite_self]
    rfl

@[simp] theorem fieldMeaning_optionalField (value : Option String) :
    fieldMeaning (optionalField name value) key =
      if key = name then value.map .string else none := by
  unfold optionalField
  cases value with
  | none =>
    rw [Option.map_none, ite_self]
    rfl
  | some s =>
    dsimp only
    rw [fieldMeaning_cons, fieldMeaning_nil, Option.none_or]
    rfl

@[simp] theorem fieldMeaning_regionField (region : Option Region) :
    fieldMeaning (regionField name region) key =
      if key = name then region.map fun r => r.toJson.meaning else none := by
  unfold regionField
  cases region with
  | none =>
    rw [Option.map_none, ite_self]
    rfl
  | some r =>
    dsimp only
    rw [fieldMeaning_cons, fieldMeaning_nil, Option.none_or]
    rfl

@[simp] theorem map_string_inj {s t : Option String} :
    s.map Meaning.string = t.map Meaning.string ↔ s = t :=
  (Option.map_injective fun _ _ h => Meaning.string.inj h).eq_iff

end Fields

/-! ### Parts without a size -/

/-- Lists whose items can be told from what they say. -/
theorem eq_of_meanings_map_eq {α : Type} {toJson : α → Json}
    (hitem : ∀ a b, (toJson a).meaning = (toJson b).meaning → a = b) {xs ys : List α}
    (h : meanings (xs.map toJson) = meanings (ys.map toJson)) : xs = ys := by
  rw [meanings_eq_map, meanings_eq_map, List.map_map, List.map_map] at h
  exact List.map_injective_iff.mpr (fun a b => hitem a b) h

theorem Run.eq_of_meaning_eq {r s : Run} (h : r.toJson.meaning = s.toJson.meaning) : r = s := by
  have hfields := Meaning.object.inj h
  have htext : r.text = s.text := by simpa using congrFun hfields "text"
  have hbold : r.bold = s.bold := by simpa using congrFun hfields "bold"
  have hitalic : r.italic = s.italic := by simpa using congrFun hfields "italic"
  have hunderline : r.underline = s.underline := by simpa using congrFun hfields "underline"
  have hstrike : r.strike = s.strike := by simpa using congrFun hfields "strike"
  have hcolor : r.color = s.color := by simpa using congrFun hfields "color"
  have hbackground : r.background = s.background := by simpa using congrFun hfields "background"
  cases r
  cases s
  congr

theorem eq_of_runsJson_meaning_eq {rs ss : List Run}
    (h : (runsJson rs).meaning = (runsJson ss).meaning) : rs = ss :=
  eq_of_meanings_map_eq (fun _ _ => Run.eq_of_meaning_eq) (Meaning.array.inj h)

theorem Align.eq_of_meaning_eq {a b : Align} (h : a.toJson.meaning = b.toJson.meaning) : a = b := by
  have hname : a.name = b.name := Meaning.string.inj h
  cases a <;> cases b <;> first | rfl | exact absurd hname (by decide)

theorem Borders.eq_of_meaning_eq {a b : Borders} (h : a.toJson.meaning = b.toJson.meaning) :
    a = b := by
  have hfields := Meaning.object.inj h
  have htop : a.top = b.top := by simpa using congrFun hfields "top"
  have hbottom : a.bottom = b.bottom := by simpa using congrFun hfields "bottom"
  have hleft : a.left = b.left := by simpa using congrFun hfields "left"
  have hright : a.right = b.right := by simpa using congrFun hfields "right"
  cases a
  cases b
  congr

theorem Cell.eq_of_meaning_eq {a b : Cell} (h : a.toJson.meaning = b.toJson.meaning) : a = b := by
  have hfields := Meaning.object.inj h
  have hruns : a.runs = b.runs :=
    eq_of_runsJson_meaning_eq (by simpa using congrFun hfields "runs")
  have hborder : a.border = b.border :=
    Borders.eq_of_meaning_eq (by simpa using congrFun hfields "border")
  have hbackground : a.background = b.background := by simpa using congrFun hfields "background"
  cases a
  cases b
  congr

theorem eq_of_rowJson_meaning_eq {cs ds : List Cell}
    (h : (rowJson cs).meaning = (rowJson ds).meaning) : cs = ds := by
  have hcells : meanings (cs.map Cell.toJson) = meanings (ds.map Cell.toJson) := by
    simpa using congrFun (Meaning.object.inj h) "cells"
  exact eq_of_meanings_map_eq (fun _ _ => Cell.eq_of_meaning_eq) hcells

/-! ### Parts with sizes -/

section Sizes

variable {sizes more : List Float32}

theorem beq_of_sizeJson_meaning_eq {x y : Float32} (hx : x.isFinite = true) (hy : y.isFinite = true)
    (h : (sizeJson x).meaning = (sizeJson y).meaning) : (x == y) = true :=
  Json.beq_of_meaning_eq hx hy h

theorem BoxStyle.same_of_meaning_eq {a b : BoxStyle} (ha : a.padding.isFinite = true)
    (hb : b.padding.isFinite = true) (h : a.toJson.meaning = b.toJson.meaning) :
    a.same b = true := by
  have hfields := Meaning.object.inj h
  have hborderLeft : a.borderLeft = b.borderLeft := by simpa using congrFun hfields "borderLeft"
  have hborder : a.border = b.border := by simpa using congrFun hfields "border"
  have hbackground : a.background = b.background := by simpa using congrFun hfields "background"
  have hpadding : (a.padding == b.padding) = true :=
    beq_of_sizeJson_meaning_eq ha hb (by simpa using congrFun hfields "padding")
  unfold BoxStyle.same
  rw [hborderLeft, hborder, hbackground, hpadding]
  simp

theorem Column.same_of_meaning_eq {a b : Column} (ha : a.width.isFinite = true)
    (hb : b.width.isFinite = true) (h : a.toJson.meaning = b.toJson.meaning) :
    a.same b = true := by
  have hfields := Meaning.object.inj h
  have hwidth : (a.width == b.width) = true :=
    beq_of_sizeJson_meaning_eq ha hb (by simpa using congrFun hfields "width")
  have halign : a.align = b.align :=
    Align.eq_of_meaning_eq (by simpa using congrFun hfields "align")
  unfold Column.same
  rw [hwidth, halign]
  simp

theorem sameColumns_of_meanings_eq {cs ds : List Column} (hcs : AreFinite (cs.map (·.width)))
    (hds : AreFinite (ds.map (·.width)))
    (h : meanings (cs.map Column.toJson) = meanings (ds.map Column.toJson)) :
    sameColumns cs ds = true := by
  induction cs generalizing ds with
  | nil =>
    cases ds with
    | nil => rfl
    | cons d ds => cases h
  | cons c cs ih =>
    cases ds with
    | nil => cases h
    | cons d ds =>
      obtain ⟨hc, hcs⟩ := List.forall_mem_cons.mp hcs
      obtain ⟨hd, hds⟩ := List.forall_mem_cons.mp hds
      obtain ⟨hfirst, hrest⟩ := List.cons.inj h
      unfold sameColumns
      rw [Column.same_of_meaning_eq hc hd hfirst, ih hcs hds hrest]
      rfl

theorem TextBlock.same_of_meaning_eq {a b : TextBlock} (ha : a.size.isFinite = true)
    (hb : b.size.isFinite = true)
    (h : (Element.text a).toJson.meaning = (Element.text b).toJson.meaning) :
    a.same b = true := by
  have hfields := Meaning.object.inj h
  unfold TextBlock.fields at hfields
  have hruns : a.runs = b.runs :=
    eq_of_runsJson_meaning_eq (by simpa using congrFun hfields "runs")
  have halign : a.align = b.align :=
    Align.eq_of_meaning_eq (by simpa using congrFun hfields "align")
  have hsize : (a.size == b.size) = true :=
    beq_of_sizeJson_meaning_eq ha hb (by simpa using congrFun hfields "size")
  have hcolor : a.color = b.color := by simpa using congrFun hfields "color"
  have hfont : a.font = b.font := by simpa using congrFun hfields "font"
  have hbold : a.bold = b.bold := by simpa using congrFun hfields "bold"
  unfold TextBlock.same
  rw [hruns, halign, hsize, hcolor, hfont, hbold]
  simp

end Sizes

/-! ### Elements -/

/-- The kind that an element says. -/
def Element.kind : Element → String
  | .text _ => "text"
  | .box .. => "block"
  | .list .. => "list"
  | .divider .. => "divider"
  | .table .. => "table"
  | .spacer _ => "spacer"

/-- **The kind stands among the fields**, and no other field takes its place. -/
theorem Element.kind_eq_of_meaning_eq {e f : Element} (h : e.toJson.meaning = f.toJson.meaning) :
    e.kind = f.kind := by
  have hkind : ∀ e : Element, ∃ fields, e.toJson.meaning = .object fields ∧
      fields "kind" = some (.string e.kind) := by
    intro e
    cases e <;> refine ⟨_, rfl, ?_⟩ <;> simp [TextBlock.fields, Element.kind, Json.meaning]
  obtain ⟨fields, he, hfields⟩ := hkind e
  obtain ⟨fields', hf, hfields'⟩ := hkind f
  rw [he, hf, Meaning.object.injEq] at h
  rw [h, hfields', Option.some.injEq, Meaning.string.injEq] at hfields
  exact hfields.symm

mutual

/-- **Elements that say the same are equal.** Those of different kinds do not say the same, and those
of one kind have the same fields. -/
theorem Element.same_of_meaning_eq : (e f : Element) → AreFinite e.sizes → AreFinite f.sizes →
    e.toJson.meaning = f.toJson.meaning → e.same f = true
  | .text a, f, he, hf, h => by
    -- here and below, an element of another kind says another kind
    cases f with
    | text b =>
      exact TextBlock.same_of_meaning_eq (he _ List.mem_cons_self) (hf _ List.mem_cons_self) h
    | _ => simpa [Element.kind] using Element.kind_eq_of_meaning_eq h
  | .box style children, f, he, hf, h => by
    -- the children are told apart by the induction, the frame by its fields
    cases f with
    | box style' children' =>
      obtain ⟨hpadding, he⟩ := List.forall_mem_cons.mp he
      obtain ⟨hpadding', hf⟩ := List.forall_mem_cons.mp hf
      have hfields := Meaning.object.inj h
      have hstyle : style.same style' = true :=
        BoxStyle.same_of_meaning_eq hpadding hpadding' (by simpa using congrFun hfields "style")
      have hchildren : sameElements children children' = true :=
        sameElements_of_meanings_eq children children' he hf
          (by simpa using congrFun hfields "children")
      rw [Element.same, hstyle, hchildren]
      rfl
    | _ => simpa [Element.kind] using Element.kind_eq_of_meaning_eq h
  | .list ordered items, f, he, hf, h => by
    cases f with
    | list ordered' items' =>
      have hfields := Meaning.object.inj h
      have hordered : ordered = ordered' := by simpa using congrFun hfields "ordered"
      have hitems : sameListItems items items' = true :=
        sameListItems_of_meanings_eq items items' he hf (by simpa using congrFun hfields "items")
      rw [Element.same, hordered, hitems, beq_self_eq_true]
      rfl
    | _ => simpa [Element.kind] using Element.kind_eq_of_meaning_eq h
  | .divider color thickness, f, he, hf, h => by
    cases f with
    | divider color' thickness' =>
      have hfields := Meaning.object.inj h
      have hcolor : color = color' := by simpa using congrFun hfields "color"
      have hthickness : (thickness == thickness') = true :=
        beq_of_sizeJson_meaning_eq (he _ List.mem_cons_self) (hf _ List.mem_cons_self)
          (by simpa using congrFun hfields "thickness")
      rw [Element.same, hcolor, hthickness, beq_self_eq_true]
      rfl
    | _ => simpa [Element.kind] using Element.kind_eq_of_meaning_eq h
  | .table columns rows, f, he, hf, h => by
    cases f with
    | table columns' rows' =>
      have hfields := Meaning.object.inj h
      have hcolumns : sameColumns columns columns' = true :=
        sameColumns_of_meanings_eq he hf (by simpa using congrFun hfields "columns")
      have hrows : rows = rows' :=
        eq_of_meanings_map_eq (fun _ _ => eq_of_rowJson_meaning_eq)
          (by simpa using congrFun hfields "rows")
      rw [Element.same, hcolumns, hrows, beq_self_eq_true]
      rfl
    | _ => simpa [Element.kind] using Element.kind_eq_of_meaning_eq h
  | .spacer height, f, he, hf, h => by
    cases f with
    | spacer height' =>
      have hfields := Meaning.object.inj h
      exact beq_of_sizeJson_meaning_eq (he _ List.mem_cons_self) (hf _ List.mem_cons_self)
        (by simpa using congrFun hfields "height")
    | _ => simpa [Element.kind] using Element.kind_eq_of_meaning_eq h

/-- Element by element. -/
theorem sameElements_of_meanings_eq : (es fs : List Element) → AreFinite (elementSizes es) →
    AreFinite (elementSizes fs) → meanings (elementsJson es) = meanings (elementsJson fs) →
    sameElements es fs = true
  | [], [], _, _, _ => rfl
  | [], _ :: _, _, _, h => nomatch h
  | _ :: _, [], _, _, h => nomatch h
  | e :: es, f :: fs, he, hf, h => by
    obtain ⟨he, hes⟩ := List.forall_mem_append.mp he
    obtain ⟨hf, hfs⟩ := List.forall_mem_append.mp hf
    obtain ⟨hfirst, hrest⟩ := List.cons.inj h
    rw [sameElements, Element.same_of_meaning_eq e f he hf hfirst,
      sameElements_of_meanings_eq es fs hes hfs hrest]
    rfl

/-- Item by item. -/
theorem sameListItems_of_meanings_eq : (is js : List Item) → AreFinite (itemSizes is) →
    AreFinite (itemSizes js) → meanings (itemsJson is) = meanings (itemsJson js) →
    sameListItems is js = true
  | [], [], _, _, _ => rfl
  | [], .mk _ _ :: _, _, _, h => nomatch h
  | .mk _ _ :: _, [], _, _, h => nomatch h
  | .mk marker children :: is, .mk marker' children' :: js, hi, hj, h => by
    obtain ⟨he, his⟩ := List.forall_mem_append.mp hi
    obtain ⟨hf, hjs⟩ := List.forall_mem_append.mp hj
    obtain ⟨hfirst, hrest⟩ := List.cons.inj h
    have hfields := Meaning.object.inj hfirst
    have hmarker : marker = marker' := by simpa using congrFun hfields "marker"
    have hchildren : sameElements children children' = true :=
      sameElements_of_meanings_eq children children' he hf
        (by simpa using congrFun hfields "children")
    rw [sameListItems, hmarker, hchildren, sameListItems_of_meanings_eq is js his hjs hrest,
      beq_self_eq_true]
    rfl

end

/-! ### Documents -/

theorem Region.same_of_meaning_eq {a b : Region} (ha : AreFinite (elementSizes a.children))
    (hb : AreFinite (elementSizes b.children)) (h : a.toJson.meaning = b.toJson.meaning) :
    a.same b = true := by
  have hfields := Meaning.object.inj h
  have hfixed : a.fixed = b.fixed := by simpa using congrFun hfields "fixed"
  have hchildren : sameElements a.children b.children = true :=
    sameElements_of_meanings_eq a.children b.children ha hb
      (by simpa using congrFun hfields "children")
  unfold Region.same
  rw [hfixed, hchildren, beq_self_eq_true]
  rfl

/-- A region that is missing can be told from every region. -/
theorem sameRegions_of_meaning_eq {a b : Option Region} (ha : AreFinite (regionSizes a))
    (hb : AreFinite (regionSizes b))
    (h : (a.map fun r => r.toJson.meaning) = b.map fun r => r.toJson.meaning) :
    sameRegions a b = true := by
  cases a with
  | none =>
    cases b with
    | none => rfl
    | some b => cases h
  | some a =>
    cases b with
    | none => cases h
    | some b => exact Region.same_of_meaning_eq ha hb (Option.some.inj h)

theorem PageSetup.same_of_meaning_eq {a b : PageSetup} (ha : a.fontSize.isFinite = true)
    (hb : b.fontSize.isFinite = true) (h : a.toJson.meaning = b.toJson.meaning) :
    a.same b = true := by
  have hfields := Meaning.object.inj h
  have hfont : a.font = b.font := by simpa using congrFun hfields "font"
  have hfontSize : (a.fontSize == b.fontSize) = true :=
    beq_of_sizeJson_meaning_eq ha hb (by simpa using congrFun hfields "fontSize")
  have hcolor : a.color = b.color := by simpa using congrFun hfields "color"
  unfold PageSetup.same
  rw [hfont, hfontSize, hcolor]
  simp

/-- **The JSON form of a document loses nothing.** Documents with finite sizes whose JSON forms say the
same are equal. -/
theorem Document.same_of_toJson_meaning_eq {d e : Document} (hd : AreFinite d.sizes)
    (he : AreFinite e.sizes) (h : d.toJson.meaning = e.toJson.meaning) : d.same e = true := by
  obtain ⟨hdsize, hd⟩ := List.forall_mem_cons.mp hd
  obtain ⟨hesize, he⟩ := List.forall_mem_cons.mp he
  obtain ⟨hd, hdfooter⟩ := List.forall_mem_append.mp hd
  obtain ⟨he, hefooter⟩ := List.forall_mem_append.mp he
  obtain ⟨hdheader, hdbody⟩ := List.forall_mem_append.mp hd
  obtain ⟨heheader, hebody⟩ := List.forall_mem_append.mp he
  have hfields := Meaning.object.inj h
  have hpage : d.page.same e.page = true :=
    PageSetup.same_of_meaning_eq hdsize hesize (by simpa using congrFun hfields "page")
  have hheader : sameRegions d.header e.header = true :=
    sameRegions_of_meaning_eq hdheader heheader (by simpa using congrFun hfields "header")
  have hbody : d.body.same e.body = true :=
    Region.same_of_meaning_eq hdbody hebody (by simpa using congrFun hfields "body")
  have hfooter : sameRegions d.footer e.footer = true :=
    sameRegions_of_meaning_eq hdfooter hefooter (by simpa using congrFun hfields "footer")
  unfold Document.same
  rw [hpage, hheader, hbody, hfooter]
  rfl

/-- A document with a rule of some thickness in a box. -/
def ruledDocument (thickness : Float32) : Document where
  page := { font := "Helvetica" }
  body := ⟨false, [.box { background := some .panel } [.divider .rule thickness]]⟩

/-- Rules of the thickness zero and minus zero say the same, and are equal. -/
theorem ruledDocument_same_zero :
    AreFinite (ruledDocument 0.0).sizes ∧ AreFinite (ruledDocument (-0.0)).sizes ∧
      (ruledDocument 0.0).toJson.meaning = (ruledDocument (-0.0)).toJson.meaning ∧
      (ruledDocument 0.0).same (ruledDocument (-0.0)) = true := by
  have hzero : AreFinite (ruledDocument 0.0).sizes := by
    unfold AreFinite
    decide +kernel
  have hminus : AreFinite (ruledDocument (-0.0)).sizes := by
    unfold AreFinite
    decide +kernel
  have hsize : (sizeJson 0.0).meaning = (sizeJson (-0.0)).meaning := by
    have htext : Json.numberValue? (singleText 0.0).toList =
        Json.numberValue? (singleText (-0.0)).toList := by decide +kernel
    exact Json.meaning_single_congr htext
  -- what stands under each key is the same, from the rule outwards
  have hrule : (Element.divider .rule 0.0).toJson.meaning =
      (Element.divider .rule (-0.0)).toJson.meaning := by
    refine congrArg Meaning.object (funext fun key => ?_)
    simp only [fieldMeaning_cons, hsize]
  have hbox : (Element.box { background := some .panel } [.divider .rule 0.0]).toJson.meaning =
      (Element.box { background := some .panel } [.divider .rule (-0.0)]).toJson.meaning := by
    refine congrArg Meaning.object (funext fun key => ?_)
    simp only [fieldMeaning_cons, elementsJson, Json.meaning_array, meanings, hrule]
  have hbody : (ruledDocument 0.0).body.toJson.meaning =
      (ruledDocument (-0.0)).body.toJson.meaning := by
    refine congrArg Meaning.object (funext fun key => ?_)
    simp only [fieldMeaning_cons, ruledDocument, elementsJson, Json.meaning_array, meanings, hbox]
  have hmeaning : (ruledDocument 0.0).toJson.meaning = (ruledDocument (-0.0)).toJson.meaning := by
    refine congrArg Meaning.object (funext fun key => ?_)
    simp only [fieldMeaning_cons, fieldMeaning_append, hbody]
    rfl
  exact ⟨hzero, hminus, hmeaning, Document.same_of_toJson_meaning_eq hzero hminus hmeaning⟩

end Letterhead
