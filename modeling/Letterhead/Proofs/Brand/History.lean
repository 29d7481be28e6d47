import Mathlib.Data.List.Induction
import Mathlib.Data.List.Nodup
import Mathlib.Data.List.Sort
import Mathlib.Data.String.Basic
import Letterhead.Proofs.Brand.Registry
import Letterhead.Proofs.Text.Trimming

/-!
# The registry after any requests

A registry starts empty and is changed by requests to register a family, of which any may fail. What
it gives for a name is told by the requests alone: the built-in spelling of that name, or the one
that was registered last, or the default font.

Built-in names are compared whatever the case of ASCII letters and registered ones by their
lower-case form. That the registry keeps one entry for each lower-case form is what makes its
spellings distinct in both senses.

* `Request`, `afterRequests` — requests, and the registry after them;
* `registered`, `lookup_afterRequests` — the names of those that succeed, and what the registry
  keeps of them;
* `Built.nodup_keys`, `pairwise_families` — the spellings in order;
* `resolves_after_requests` — what the registry gives.
-/

namespace Letterhead

namespace FontRegistry

/-! ### Requests -/

/-- A request to register a family with the bytes of its font. -/
structure Request where
  family : String
  bytes : Array UInt8

/-- The name that a request is for. -/
def Request.name (r : Request) : String :=
  Text.trimmed r.family

/-- Whether a request succeeds: its family shows something, and its bytes are a font. -/
def Request.succeeds (isFont : Array UInt8 → Bool) (r : Request) : Bool :=
  !Text.isBlankText r.family && isFont r.bytes

/-- The registry after a request. One that fails leaves it as it is. -/
def afterRequest (isFont : Array UInt8 → Bool) (fonts : FontRegistry) (r : Request) :
    FontRegistry :=
  match fonts.registerWith isFont r.family r.bytes with
  | .ok fonts => fonts
  | .error _ => fonts

/-- The registry after some requests, of which the first finds it empty. -/
def afterRequests (isFont : Array UInt8 → Bool) (requests : List Request) : FontRegistry :=
  requests.foldl (afterRequest isFont) {}

/-- The names that were registered, in order. -/
def registered (isFont : Array UInt8 → Bool) (requests : List Request) : List String :=
  (requests.filter (Request.succeeds isFont)).map Request.name

section Requests

variable {isFont : Array UInt8 → Bool} {fonts : FontRegistry}

/-- Nothing is left of a name exactly if it is blank. -/
theorem isEmpty_trimmed (s : String) : (Text.trimmed s).isEmpty = Text.isBlankText s := by
  rw [Bool.eq_iff_iff, String.isEmpty_iff, Text.trimmed, String.ofList_eq_empty_iff]
  cases hblank : Text.isBlankText s with
  | true =>
    have hstart : Text.trimStart s.toList = [] :=
      List.dropWhile_eq_nil_iff.mpr fun c hc => List.all_eq_true.mp hblank c hc
    refine iff_of_true ?_ rfl
    rw [Text.trim, hstart]
    rfl
  | false =>
    obtain ⟨c, hc, -⟩ := (Text.isTight_trim hblank).head
    refine iff_of_false (fun hnil => ?_) Bool.false_ne_true
    rw [hnil] at hc
    cases hc

/-- A request that succeeds inserts its name. -/
theorem registerWith_of_succeeds {r : Request} (h : r.succeeds isFont = true)
    (fonts : FontRegistry) :
    fonts.registerWith isFont r.family r.bytes = .ok (fonts.insert r.name) := by
  unfold Request.succeeds at h
  rw [Bool.and_eq_true, Bool.not_eq_true'] at h
  unfold registerWith
  dsimp only
  rw [isEmpty_trimmed, h.1, h.2, if_neg Bool.false_ne_true, if_pos rfl]
  rfl

/-- Any other is refused. -/
theorem registerWith_of_fails {r : Request} (h : r.succeeds isFont = false)
    (fonts : FontRegistry) : ∃ e, fonts.registerWith isFont r.family r.bytes = .error e := by
  unfold Request.succeeds at h
  rw [Bool.and_eq_false_iff, Bool.not_eq_false'] at h
  unfold registerWith
  dsimp only
  rw [isEmpty_trimmed]
  cases hblank : Text.isBlankText r.family with
  | true => exact ⟨_, if_pos rfl⟩
  | false =>
    have hfont : isFont r.bytes = false := by
      rw [hblank] at h
      exact h.resolve_left Bool.false_ne_true
    rw [if_neg Bool.false_ne_true, hfont, if_neg Bool.false_ne_true]
    exact ⟨_, rfl⟩

theorem afterRequest_of_succeeds {r : Request} (h : r.succeeds isFont = true) :
    afterRequest isFont fonts r = fonts.insert r.name := by
  rw [afterRequest, registerWith_of_succeeds h]

theorem afterRequest_of_fails {r : Request} (h : r.succeeds isFont = false) :
    afterRequest isFont fonts r = fonts := by
  obtain ⟨e, he⟩ := registerWith_of_fails h fonts
  rw [afterRequest, he]

theorem afterRequests_concat (requests : List Request) (r : Request) :
    afterRequests isFont (requests ++ [r]) =
      afterRequest isFont (afterRequests isFont requests) r := by
  unfold afterRequests
  rw [List.foldl_append, List.foldl_cons, List.foldl_nil]

/-- Requests build a registry. -/
theorem built_afterRequests (isFont : Array UInt8 → Bool) (requests : List Request) :
    Built isFont (afterRequests isFont requests) := by
  induction requests using List.reverseRecOn with
  | nil => exact .empty
  | append_singleton requests r ih =>
    rw [afterRequests_concat]
    cases h : r.succeeds isFont with
    | true =>
      rw [afterRequest_of_succeeds h]
      exact .register ih (registerWith_of_succeeds h _)
    | false =>
      rw [afterRequest_of_fails h]
      exact ih

/-! ### What the registry keeps -/

/-- Leaving out the entries under one key changes nothing for another. -/
theorem lookup_filter_ne {entries : List (String × String)} {key other : String} (h : key ≠ other) :
    (entries.filter (·.1 != other)).lookup key = entries.lookup key := by
  induction entries with
  | nil => rfl
  | cons e rest ih =>
    by_cases he : e.1 = other
    · have hkey : (key == e.1) = false := by
        rw [he, beq_eq_false_iff_ne]
        exact h
      rw [List.filter_cons_of_neg (by simp [he]), ih, List.lookup_cons, hkey]
    · rw [List.filter_cons_of_pos (by simp [he]), List.lookup_cons, List.lookup_cons, ih]

/-- A name takes the place of the one with its lower-case form, and no other's. -/
theorem lookup_insert (fonts : FontRegistry) (family key : String) :
    (fonts.insert family).entries.lookup key =
      if Text.lowered family == key then some family else fonts.entries.lookup key := by
  unfold insert
  dsimp only
  rw [List.lookup_cons]
  by_cases h : Text.lowered family = key
  · rw [h, beq_self_eq_true, if_pos rfl]
  · rw [beq_eq_false_iff_ne.mpr h, beq_eq_false_iff_ne.mpr (Ne.symm h), if_neg Bool.false_ne_true]
    exact lookup_filter_ne (Ne.symm h)

theorem registered_append (isFont : Array UInt8 → Bool) (before after : List Request) :
    registered isFont (before ++ after) = registered isFont before ++ registered isFont after := by
  unfold registered
  rw [List.filter_append, List.map_append]

theorem registered_singleton (isFont : Array UInt8 → Bool) (r : Request) :
    registered isFont [r] = if r.succeeds isFont then [r.name] else [] := by
  unfold registered
  rw [List.filter_singleton]
  cases r.succeeds isFont <;> rfl

theorem mem_registered {requests : List Request} {name : String} :
    name ∈ registered isFont requests ↔
      ∃ r ∈ requests, r.succeeds isFont = true ∧ r.name = name := by
  unfold registered
  simp only [List.mem_map, List.mem_filter, and_assoc]

/-- **The last name counts.** Under a lower-case form stands the name with that form that was
registered last. -/
theorem lookup_afterRequests (isFont : Array UInt8 → Bool) (requests : List Request)
    (key : String) :
    (afterRequests isFont requests).entries.lookup key =
      (registered isFont requests).reverse.find? fun name => Text.lowered name == key := by
  induction requests using List.reverseRecOn with
  | nil => rfl
  | append_singleton requests r ih =>
    rw [afterRequests_concat, registered_append, registered_singleton, List.reverse_append]
    cases h : r.succeeds isFont with
    | true =>
      rw [afterRequest_of_succeeds h, lookup_insert, ih, if_pos rfl]
      rw [List.reverse_singleton, List.singleton_append, List.find?_cons]
      cases Text.lowered r.name == key <;> rfl
    | false =>
      rw [afterRequest_of_fails h, ih, if_neg Bool.false_ne_true]
      rfl

/-- A registry has each lower-case form once. -/
theorem Built.nodup_keys (h : Built isFont fonts) : (fonts.entries.map (·.1)).Nodup := by
  induction h with
  | empty => exact List.nodup_nil
  | @register fonts _ family _ _ hok ih =>
    rw [eq_insert_of_registerWith hok]
    refine List.nodup_cons.mpr ⟨fun hmem => ?_, ih.sublist (List.filter_sublist.map _)⟩
    obtain ⟨e, he, hkey⟩ := List.mem_map.mp hmem
    -- an entry that is kept has another key
    have hne : e.1 ≠ Text.lowered (Text.trimmed family) := bne_iff_ne.mp (List.mem_filter.mp he).2
    exact hne hkey

/-- So a spelling is in it exactly if it is the one that stands under its own lower-case form. -/
theorem Built.mem_families_iff (h : Built isFont fonts) {name : String} :
    name ∈ fonts.families ↔ fonts.entries.lookup (Text.lowered name) = some name := by
  unfold families
  rw [List.mem_mergeSort, List.mem_map]
  constructor
  · rintro ⟨⟨key, spelling⟩, he, rfl⟩
    have hkey : key = Text.lowered spelling := (h.entry _ he).1
    rw [← hkey]
    -- its key stands nowhere else
    obtain ⟨before, after, hsplit⟩ := List.append_of_mem he
    have hkeys := h.nodup_keys
    rw [hsplit, List.map_append, List.map_cons] at hkeys
    refine List.lookup_eq_some_iff.mpr ⟨before, after, hsplit, fun e hmem => ?_⟩
    have hdisjoint := (List.nodup_append.mp hkeys).2.2 e.1 (List.mem_map_of_mem hmem) key
      List.mem_cons_self
    exact bne_iff_ne.mpr (Ne.symm hdisjoint)
  · intro hlookup
    obtain ⟨before, after, hsplit, -⟩ := List.lookup_eq_some_iff.mp hlookup
    refine ⟨(Text.lowered name, name), ?_, rfl⟩
    rw [hsplit]
    exact List.mem_append_right _ List.mem_cons_self

/-- No two spellings have the same lower-case form. -/
theorem Built.nodup_lowered (h : Built isFont fonts) :
    (fonts.families.map Text.lowered).Nodup := by
  have hkeys : (fonts.entries.map (·.2)).map Text.lowered = fonts.entries.map (·.1) := by
    rw [List.map_map]
    exact List.map_congr_left fun e he => (h.entry e he).1.symm
  have hperm : (fonts.families.map Text.lowered).Perm (fonts.entries.map (·.1)) := by
    rw [← hkeys]
    exact (List.mergeSort_perm _ _).map _
  exact hperm.nodup_iff.mpr h.nodup_keys

/-- The spellings are in strictly ascending order. -/
theorem Built.pairwise_families (h : Built isFont fonts) : fonts.families.Pairwise (· < ·) := by
  have hsorted : fonts.families.Pairwise (· ≤ ·) := List.pairwise_mergeSort' _ _
  have hdistinct : fonts.families.Pairwise (· ≠ ·) := h.nodup_lowered.of_map _
  exact (hsorted.and hdistinct).imp fun hab => lt_of_le_of_ne hab.1 hab.2

/-! ### What the registry gives -/

/-- Whether a name is that of a built-in family, whatever the case of its ASCII letters. -/
def IsBuiltin (name : String) : Prop :=
  ∃ b ∈ builtinFamilies, sameAsciiName b name = true

/-- Whether a request registers a spelling of a name. -/
def Request.Spells (isFont : Array UInt8 → Bool) (name : String) (r : Request) : Prop :=
  r.succeeds isFont = true ∧ Text.lowered r.name = Text.lowered name

/-- A built-in spelling comes before all that were registered. -/
theorem canonical?_of_builtin (fonts : FontRegistry) {b family : String} (hb : b ∈ builtinFamilies)
    (hsame : sameAsciiName b (Text.trimmed family) = true) : fonts.canonical? family = some b := by
  -- built-in families have different names
  have hdistinct : ∀ b ∈ builtinFamilies, ∀ b' ∈ builtinFamilies,
      sameAsciiName b b' = true → b = b' := by decide +kernel
  unfold canonical?
  dsimp only
  cases hfind : builtinFamilies.find? (sameAsciiName · (Text.trimmed family)) with
  | none => exact absurd hsame (List.find?_eq_none.mp hfind b hb)
  | some b' =>
    have hfound : sameAsciiName b' (Text.trimmed family) = true :=
      List.find?_some (p := fun b => sameAsciiName b (Text.trimmed family)) hfind
    have hboth : sameAsciiName b' b = true := by
      unfold sameAsciiName at hsame hfound ⊢
      rw [beq_iff_eq] at hsame hfound ⊢
      rw [hfound, hsame]
    dsimp only
    rw [hdistinct b' (List.mem_of_find?_eq_some hfind) b hb hboth]

/-- For any other name, the last of its spellings that was registered is given. -/
theorem canonical?_of_not_builtin (requests : List Request) {family : String}
    (h : ¬ IsBuiltin (Text.trimmed family)) :
    (afterRequests isFont requests).canonical? family =
      (registered isFont requests).reverse.find? fun name =>
        Text.lowered name == Text.lowered (Text.trimmed family) := by
  have hnone : builtinFamilies.find? (sameAsciiName · (Text.trimmed family)) = none :=
    List.find?_eq_none.mpr fun b hb hsame => h ⟨b, hb, hsame⟩
  unfold canonical?
  dsimp only
  rw [hnone]
  exact lookup_afterRequests isFont requests _

theorem exists_spells_iff {requests : List Request} {name : String} :
    (∃ r ∈ requests, r.Spells isFont name) ↔
      ∃ spelling ∈ registered isFont requests, Text.lowered spelling = Text.lowered name := by
  simp only [mem_registered, Request.Spells]
  constructor
  · rintro ⟨r, hr, hsucceeds, hlower⟩
    exact ⟨r.name, ⟨r, hr, hsucceeds, rfl⟩, hlower⟩
  · rintro ⟨_, ⟨r, hr, hsucceeds, rfl⟩, hlower⟩
    exact ⟨r, hr, hsucceeds, hlower⟩

/-- A family is known if it is built in or was registered. -/
theorem contains_afterRequests_iff (requests : List Request) (family : String) :
    (afterRequests isFont requests).contains family = true ↔
      IsBuiltin (Text.trimmed family) ∨
        ∃ r ∈ requests, r.Spells isFont (Text.trimmed family) := by
  unfold contains
  by_cases hbuiltin : IsBuiltin (Text.trimmed family)
  · obtain ⟨b, hb, hsame⟩ := hbuiltin
    rw [canonical?_of_builtin _ hb hsame]
    exact iff_of_true rfl (Or.inl ⟨b, hb, hsame⟩)
  · rw [or_iff_right hbuiltin, canonical?_of_not_builtin requests hbuiltin, List.find?_isSome,
      exists_spells_iff]
    simp only [List.mem_reverse, beq_iff_eq]

/-- The last request for a name decides its spelling. -/
theorem resolve_of_last {before after : List Request} {r : Request} {family : String}
    (hbuiltin : ¬ IsBuiltin (Text.trimmed family)) (hr : r.Spells isFont (Text.trimmed family))
    (hafter : ∀ later ∈ after, ¬ later.Spells isFont (Text.trimmed family)) :
    (afterRequests isFont (before ++ r :: after)).resolve family = r.name := by
  have hnames : registered isFont (before ++ r :: after) =
      registered isFont before ++ r.name :: registered isFont after := by
    rw [registered_append, ← List.singleton_append, registered_append, registered_singleton,
      if_pos hr.1, List.singleton_append]
  -- no name that was registered later has the lower-case form
  have hlater : (registered isFont after).reverse.find? (fun name =>
      Text.lowered name == Text.lowered (Text.trimmed family)) = none := by
    refine List.find?_eq_none.mpr fun name hname hlower => ?_
    have hspelled : ∃ r ∈ after, r.Spells isFont (Text.trimmed family) :=
      exists_spells_iff.mpr ⟨name, List.mem_reverse.mp hname, beq_iff_eq.mp hlower⟩
    obtain ⟨later, hmem, hspells⟩ := hspelled
    exact hafter later hmem hspells
  have hlast : (Text.lowered r.name == Text.lowered (Text.trimmed family)) = true :=
    beq_iff_eq.mpr hr.2
  rw [resolve, canonical?_of_not_builtin _ hbuiltin, hnames, List.reverse_append,
    List.reverse_cons, List.append_assoc, List.find?_append, hlater, Option.none_or,
    List.singleton_append, List.find?_cons, hlast]
  rfl

/-- **The registry after any requests.** A request fails exactly if its family is blank or its bytes
are no font, and then the registry stays as it is. The spellings are in strictly ascending order, no
two of them have the same lower-case form, and they are the last ones registered of their forms. A
family is known if its trimmed name is that of a built-in one, or has the lower-case form of a name
that was registered. It is used in the built-in spelling in the first case, in the one registered
last in the second, and else the default font is used; and what is used is used for itself. -/
theorem resolves_after_requests (isFont : Array UInt8 → Bool) (requests : List Request) :
    let fonts := afterRequests isFont requests
    (∀ r : Request,
      ((∃ e, fonts.registerWith isFont r.family r.bytes = .error e) ↔
        Text.isBlankText r.family = true ∨ isFont r.bytes = false) ∧
      (Text.isBlankText r.family = true ∨ isFont r.bytes = false →
        afterRequests isFont (requests ++ [r]) = fonts)) ∧
    fonts.families.Pairwise (· < ·) ∧ (fonts.families.map Text.lowered).Nodup ∧
    (∀ name, name ∈ fonts.families ↔
      (registered isFont requests).reverse.find? (Text.lowered · == Text.lowered name) =
        some name) ∧
    ∀ family : String,
      (fonts.contains family = true ↔
        IsBuiltin (Text.trimmed family) ∨
          ∃ r ∈ requests, r.Spells isFont (Text.trimmed family)) ∧
      (∀ b ∈ builtinFamilies, sameAsciiName b (Text.trimmed family) = true →
        fonts.resolve family = b) ∧
      (¬ IsBuiltin (Text.trimmed family) → ∀ before r after, requests = before ++ r :: after →
        r.Spells isFont (Text.trimmed family) →
        (∀ later ∈ after, ¬ later.Spells isFont (Text.trimmed family)) →
        fonts.resolve family = Text.trimmed r.family) ∧
      (¬ IsBuiltin (Text.trimmed family) →
        (∀ r ∈ requests, ¬ r.Spells isFont (Text.trimmed family)) →
        fonts.resolve family = "Helvetica") ∧
      fonts.resolve (fonts.resolve family) = fonts.resolve family := by
  intro fonts
  have hbuilt : Built isFont fonts := built_afterRequests isFont requests
  have hfails : ∀ r : Request,
      Text.isBlankText r.family = true ∨ isFont r.bytes = false ↔ r.succeeds isFont = false := by
    intro r
    rw [Request.succeeds, Bool.and_eq_false_iff, Bool.not_eq_false']
  refine ⟨fun r => ⟨?_, fun h => ?_⟩, hbuilt.pairwise_families, hbuilt.nodup_lowered,
    fun name => ?_, fun family => ⟨contains_afterRequests_iff requests family, fun b hb hsame => ?_,
      ?_, fun hbuiltin hnone => ?_, hbuilt.resolve_resolve family⟩⟩
  · rw [hfails]
    cases h : r.succeeds isFont with
    | true =>
      rw [registerWith_of_succeeds h]
      exact iff_of_false (fun ⟨_, h⟩ => nomatch h) fun h => nomatch h
    | false => exact iff_of_true (registerWith_of_fails h fonts) rfl
  · rw [afterRequests_concat, afterRequest_of_fails ((hfails r).mp h)]
  · rw [hbuilt.mem_families_iff, lookup_afterRequests]
  · rw [resolve, canonical?_of_builtin fonts hb hsame, Option.getD_some]
  · rintro hbuiltin before r after hsplit hr hafter
    have hfonts : fonts = afterRequests isFont (before ++ r :: after) := by rw [← hsplit]
    rw [hfonts]
    exact resolve_of_last hbuiltin hr hafter
  · have hunknown : ¬ fonts.contains family = true := by
      rw [contains_afterRequests_iff]
      rintro (h | ⟨r, hr, hspells⟩)
      · exact hbuiltin h
      · exact hnone r hr hspells
    rw [resolve, Option.not_isSome_iff_eq_none.mp hunknown]
    rfl

/-- A name that is registered in another spelling is used in that one from then on. -/
theorem resolves_after_requests_respelt :
    (afterRequests (fun _ => true) [⟨"Inter", #[]⟩, ⟨" INTER ", #[]⟩]).resolve "inter" =
      "INTER" := by
  have hbuiltin : ¬ IsBuiltin (Text.trimmed "inter") := by
    unfold IsBuiltin
    decide +kernel
  have hspells : Request.Spells (fun _ => true) (Text.trimmed "inter") ⟨" INTER ", #[]⟩ := by
    unfold Request.Spells
    decide +kernel
  have hlast := ((resolves_after_requests (fun _ => true)
    [⟨"Inter", #[]⟩, ⟨" INTER ", #[]⟩]).2.2.2.2 "inter").2.2.1 hbuiltin
      [⟨"Inter", #[]⟩] ⟨" INTER ", #[]⟩ [] rfl hspells fun _ hmem => nomatch hmem
  exact hlast.trans (by decide +kernel)

end Requests

end FontRegistry

end Letterhead
