import Modforge.Proofs.Filled.Replaced
import Modforge.Proofs.Filled.Run
import Modforge.Proofs.Layout.Bundled
import Modforge.Proofs.Placeholder.Stages
import Modforge.Proofs.Problem.Spec
import Modforge.Resource
import Modforge.Template.Catalog

/-! # Bundled templates give the JSON they are meant to give -/

namespace Modforge

open Json (TextFilling isVerbatim Laid isLaid)

/-! ## What is filled in -/

def Slot.mark : String := "%s"

/-- The text with the names put in, and then the argument of a loot template for its slot. -/
def Names.filled (names : Names) (argument : Option String) (text : String) : String :=
  let named :=
    Text.replace Template.idMark names.id (Text.replace Template.namespaceMark names.space text)
  match argument with
  | none => named
  | some argument => Text.replace Slot.mark argument named

/-- What a bundled template is rendered with for an entity: any arguments, or those that its action
demands if it is a loot template. The first of these is put in. -/
inductive Template.Supplied (template : Template) (names : Names) :
    List String → Option String → Prop
  | any (hkind : template.kind ≠ .loot) (args : List String) : Supplied template names args none
  | loot (hkind : template.kind = .loot) (drop : String) (declared : List String)
    {args : List String}
    (hdrop : LootAction.ofTemplate template = .dropOther →
      drop ≠ "" ∧ ∀ c ∈ drop.toList, isVerbatim c = true)
    (h : (LootAction.ofTemplate template).arguments names.space names.id drop declared =
      .ok args) : Supplied template names args args.head?

/-! ## Fillings -/

theorem isVerbatim_of_isIdChar {c : Char} (h : Naming.isIdChar c = true) :
    isVerbatim c = true := by
  have hcontrol : ∀ n < 32, Naming.isIdChar (Char.ofNat n) = false := by decide
  simp only [isVerbatim, Bool.and_eq_true, bne_iff_ne, ne_eq, decide_eq_true_eq]
  refine ⟨⟨?_, ?_⟩, ?_⟩
  · rintro rfl
    cases h
  · rintro rfl
    cases h
  · by_contra hlow
    have hid := hcontrol c.toNat (Nat.not_le.1 hlow)
    rw [Char.ofNat_toNat, h] at hid
    cases hid

section

variable (names : Names)

theorem Names.isVerbatim_space : ∀ c ∈ names.space.toList, isVerbatim c = true :=
  fun _ hc => isVerbatim_of_isIdChar (names.isIdChar_of_mem (p := .space) hc)

theorem Names.isVerbatim_id : ∀ c ∈ names.id.toList, isVerbatim c = true :=
  fun _ hc => isVerbatim_of_isIdChar (names.isIdChar_of_mem (p := .id) hc)

def Names.filling : TextFilling :=
  (TextFilling.replacing Template.namespaceMark names.space (by decide) (by decide)
    names.isVerbatim_space).andThen
  (TextFilling.replacing Template.idMark names.id (by decide) (by decide) names.isVerbatim_id)

def Names.fillingLoot (argument : String) (h : ∀ c ∈ argument.toList, isVerbatim c = true) :
    TextFilling :=
  names.filling.andThen (TextFilling.replacing Slot.mark argument (by decide) (by decide) h)

theorem Names.opens_filling (c : Char) : names.filling.opens c = (c == '$') := by
  have hopens : names.filling.opens c = (some '$' == some c || some '$' == some c) := rfl
  rw [hopens, Bool.or_self, Option.some_beq_some, BEq.comm]

theorem Names.opens_fillingLoot {argument : String}
    (h : ∀ c ∈ argument.toList, isVerbatim c = true) (c : Char) :
    (names.fillingLoot argument h).opens c = (c == '$' || c == '%') := by
  have hopens : (names.fillingLoot argument h).opens c =
      (names.filling.opens c || some '%' == some c) := rfl
  rw [hopens, names.opens_filling, Option.some_beq_some, BEq.comm (a := '%')]

theorem Names.text_filling (text : String) : names.filling.text text = names.filled none text := by
  rw [Names.filling, TextFilling.text_andThen, TextFilling.text_replacing,
    TextFilling.text_replacing]
  rfl

theorem Names.text_fillingLoot {argument : String}
    (h : ∀ c ∈ argument.toList, isVerbatim c = true) (text : String) :
    (names.fillingLoot argument h).text text = names.filled (some argument) text := by
  rw [Names.fillingLoot, TextFilling.text_andThen, Names.text_filling, TextFilling.text_replacing]
  rfl

end

/-! ## Rendering is filling -/

theorem Slot.scanFrom_letters {letters : List Char} (h : '%' ∉ letters) (rest : List Char) :
    scanFrom 0 (letters ++ rest) = letters.map .char ++ scanFrom 0 rest := by
  induction letters with
  | nil => rfl
  | cons c letters ih =>
    rw [List.mem_cons, not_or] at h
    rw [List.cons_append, scanFrom, if_neg (Ne.symm h.1), ih h.2]
    rfl

theorem Slot.fill_letters (args : List String) (used : Nat) (letters : List Char)
    (pieces : List Piece) :
    fill args used (letters.map .char ++ pieces) =
      (fill args used pieces).map (letters ++ ·) := by
  induction letters with
  | nil => cases h : fill args used pieces <;> simp [h, Except.map]
  | cons c letters ih =>
    rw [List.map_cons, List.cons_append, fill, ih]
    cases fill args used pieces <;> rfl

theorem Slot.fill_once {before after : List Char} (hbefore : '%' ∉ before) (hafter : '%' ∉ after)
    (argument : String) :
    fill [argument] 0 (scanFrom 0 (before ++ ('%' :: 's' :: after))) =
      .ok (before ++ (argument.toList ++ after)) := by
  have hscan : scanFrom 0 ('%' :: 's' :: after) = .next :: after.map .char := by
    have hafter := scanFrom_letters hafter []
    rw [List.append_nil, scanFrom, List.append_nil] at hafter
    rw [← hafter]
    rfl
  rw [scanFrom_letters hbefore, hscan, fill_letters, fill, List.getElem?_cons_zero]
  simp only [fill_chars, Except.map]

section

variable (names : Names) {body : String} (name : String) (kind : TemplateKind) (origin : Origin)

theorem Names.not_mem_filling {c : Char} (hc : Naming.isIdChar c = false) (h : c ∉ body.toList) :
    c ∉ (names.filling.text body).toList := by
  intro hmem
  rw [TextFilling.text, String.toList_ofList] at hmem
  rcases mem_replaceFrom hmem with hid | hmem
  · exact names.not_mem_name hc (p := .id) hid
  · rcases mem_replaceFrom hmem with hspace | hbody
    · exact names.not_mem_name hc (p := .space) hspace
    · exact h hbody

theorem pieces_make :
    (Template.make name kind body names.space origin).pieces names.id =
      Slot.scan (names.filling.text body) := by
  rw [Names.text_filling]
  rfl

theorem render_of_no_slot (h : '%' ∉ body.toList) (args : List String) :
    (Template.make name kind body names.space origin).render names.id args =
      .ok (names.filling.text body) := by
  have hscan := Slot.scanFrom_letters (names.not_mem_filling (by decide) h) []
  rw [List.append_nil, Slot.scanFrom, List.append_nil] at hscan
  rw [Template.render, pieces_make, Slot.scan, hscan, Slot.fill_chars]
  simp

theorem render_of_one_slot (hnames : '$' ∉ body.toList) {before after : List Char}
    (hbody : body.toList = before ++ ('%' :: 's' :: after)) (hbefore : '%' ∉ before)
    (hafter : '%' ∉ after) {argument : String}
    (hargument : ∀ c ∈ argument.toList, isVerbatim c = true) :
    (Template.make name kind body names.space origin).render names.id [argument] =
      .ok ((names.fillingLoot argument hargument).text body) := by
  have hnamed : names.filling.fill body.toList = body.toList :=
    names.filling.fill_of_absent fun c hc =>
      (names.opens_filling c).trans (beq_false_of_ne (ne_of_mem_of_not_mem hc hnames))
  have hfill : (names.fillingLoot argument hargument).fill body.toList =
      before ++ (argument.toList ++ after) :=
    calc (names.fillingLoot argument hargument).fill body.toList
      _ = Text.replaceFrom ['%', 's'] argument.toList 0 (names.filling.fill body.toList) := rfl
      _ = Text.replaceFrom ['%', 's'] argument.toList 0 (before ++ ('%' :: 's' :: after)) := by
        rw [hnamed, hbody]
      _ = before ++ (argument.toList ++ after) := replaceFrom_once hbefore hafter
  rw [Template.render, pieces_make, Slot.scan, TextFilling.text, String.toList_ofList, hnamed,
    hbody, Slot.fill_once hbefore hafter, TextFilling.text, hfill]

end

/-! ## Bundled texts -/

def Bundled.sources : List (String × TemplateKind × String) :=
  [("basic", .block, blockModel),
    ("basic", .blockState, blockState),
    ("basic", .item, itemModel),
    ("block", .item, blockItemModel),
    ("drop_other", .loot, dropOther),
    ("drop_self", .loot, dropSelf),
    ("drop_self_silk", .loot, dropSelfSilk)]

theorem Bundled.templates_eq (space : String) :
    templates space = sources.map fun (name, kind, body) =>
      Template.make name kind body space .builtin := rfl

/-- Whether one slot and no other percent sign is left. -/
def hasOneSlot (body : List Char) : Bool :=
  match body.dropWhile (· != '%') with
  | '%' :: 's' :: after => !after.contains '%'
  | _ => false

theorem exists_of_hasOneSlot {body : List Char} (h : hasOneSlot body = true) :
    ∃ before after, body = before ++ ('%' :: 's' :: after) ∧ '%' ∉ before ∧ '%' ∉ after := by
  unfold hasOneSlot at h
  split at h
  · next after hafter =>
    refine ⟨body.takeWhile (· != '%'), after, ?_, fun hmem => ?_, by simpa using h⟩
    · have hsplit := List.takeWhile_append_dropWhile (p := (· != '%')) (l := body)
      rw [hafter] at hsplit
      exact hsplit.symm
    · simpa using List.mem_takeWhile_imp hmem
  · cases h

/-- A body can be filled: marks stand in its texts, and it has either one slot or no slots, with
no places for names if it is a loot template's. -/
def isFillable (kind : TemplateKind) (body : List Char) : Bool :=
  isLaid (fun c => c == '$' || c == '%') none body &&
    if kind = .loot then !body.contains '$' && hasOneSlot body else !body.contains '%'

theorem isFillable_sources :
    ∀ name kind body, (name, kind, body) ∈ Bundled.sources →
      isFillable kind body.toList = true ∧ (Json.parse body).isOk = true := by
  have hall : ∀ source ∈ Bundled.sources, isFillable source.2.1 source.2.2.toList = true ∧
      (Json.parse source.2.2).isOk = true := by
    simp only [Bundled.sources, List.forall_mem_cons, Json.parse, Json.readAll,
      Json.Cursor.ofText, Bundled.blockModel, Bundled.blockState, Bundled.itemModel,
      Bundled.blockItemModel, Bundled.dropOther, Bundled.dropSelf, Bundled.dropSelfSilk,
      toList_lines, List.flatMap_cons, List.flatMap_nil]
    -- lines are taken as lists of letters, which need no decoding
    repeat rw [String.toList_ofList]
    decide +kernel
  exact fun _ _ _ => hall _

theorem find?_sources :
    ∀ name kind body, (name, kind, body) ∈ Bundled.sources →
      Bundled.find? (kind.name ++ "/" ++ name ++ ".json") = some body := by
  have hall : ∀ source ∈ Bundled.sources,
      Bundled.find? (source.2.1.name ++ "/" ++ source.1 ++ ".json") = some source.2.2 := by
    simp only [Bundled.sources, List.forall_mem_cons]
    decide +kernel
  exact fun _ _ _ => hall _

theorem loot_sources :
    ∀ name kind body, (name, kind, body) ∈ Bundled.sources → kind = .loot →
      name ∈ actionNames := by
  have hall : ∀ source ∈ Bundled.sources, source.2.1 = .loot → source.1 ∈ actionNames := by
    decide
  exact fun _ _ _ => hall _

section

variable (names : Names) {name body : String} {kind : TemplateKind}

theorem exists_argument {args : List String} {argument : Option String} (hkind : kind = .loot)
    (hname : name ∈ actionNames)
    (h : (Template.make name kind body names.space .builtin).Supplied names args argument) :
    ∃ one, args = [one] ∧ argument = some one ∧ ∀ c ∈ one.toList, isVerbatim c = true := by
  cases h with
  | any hother => exact absurd hkind hother
  | loot _ drop declared hdrop hargs =>
    have hself : ∀ c ∈ (names.space ++ ":" ++ names.id).toList, isVerbatim c = true := by
      intro c hc
      simp only [String.toList_append, List.mem_append] at hc
      rcases hc with (hspace | hcolon) | hid
      · exact names.isVerbatim_space c hspace
      · obtain rfl : c = ':' := by simpa using hcolon
        decide
      · exact names.isVerbatim_id c hid
    simp only [actionNames, List.mem_cons, List.not_mem_nil, or_false] at hname
    rcases hname with rfl | rfl | rfl
    · cases hargs
      exact ⟨_, rfl, rfl, hself⟩
    · cases hargs
      exact ⟨_, rfl, rfl, hself⟩
    · obtain ⟨hne, hverbatim⟩ := hdrop rfl
      have hgiven : LootAction.dropOther.arguments names.space names.id drop declared =
          .ok [drop] := if_neg hne
      obtain rfl := Except.ok.inj (hgiven.symm.trans hargs)
      exact ⟨drop, rfl, rfl, hverbatim⟩

theorem exists_rendered (hfillable : isFillable kind body.toList = true)
    (hname : kind = .loot → name ∈ actionNames) {value : Json}
    (hvalue : Json.parse body = .ok value) {args : List String} {argument : Option String}
    (h : (Template.make name kind body names.space .builtin).Supplied names args argument) :
    ∃ text, (Template.make name kind body names.space .builtin).render names.id args = .ok text ∧
      Json.parse text = .ok (value.mapTexts (names.filled argument)) := by
  rw [isFillable, Bool.and_eq_true] at hfillable
  obtain ⟨hlaid, hslot⟩ := hfillable
  have hlaid := Json.laid_of_isLaid.1 hlaid
  split at hslot
  · next hkind =>
    rw [Bool.and_eq_true, Bool.not_eq_true', List.contains_eq_mem, decide_eq_false_iff_not] at hslot
    obtain ⟨one, rfl, rfl, hone⟩ := exists_argument names hkind (hname hkind) h
    obtain ⟨before, after, hbody, hbefore, hafter⟩ := exists_of_hasOneSlot hslot.2
    refine ⟨_, render_of_one_slot names name kind .builtin hslot.1 hbody hbefore hafter hone, ?_⟩
    have hopens : Laid (names.fillingLoot one hone).opens body.toList :=
      hlaid.mono fun c hc => by rwa [names.opens_fillingLoot hone] at hc
    rw [← funext (names.text_fillingLoot hone)]
    exact Json.parse_fill _ hopens hvalue
  · next hkind =>
    rw [Bool.not_eq_true', List.contains_eq_mem, decide_eq_false_iff_not] at hslot
    obtain rfl : argument = none := by
      cases h with
      | any => rfl
      | loot hloot => exact absurd hloot hkind
    refine ⟨_, render_of_no_slot names name kind .builtin hslot args, ?_⟩
    have hopens : Laid names.filling.opens body.toList :=
      hlaid.mono fun c hc => by
        rw [names.opens_filling] at hc
        rw [hc, Bool.true_or]
    rw [← funext names.text_filling]
    exact Json.parse_fill _ hopens hvalue

end

/-- With a bundled template every entity gets a resource that is JSON, without a report: it has the
value of the bundled text, filled in. -/
theorem render_filled (names : Names) :
    ∃ templates, Bundled.load names.space = .ok templates ∧ ∀ template ∈ templates,
      ∃ body value,
        Bundled.find? (template.kind.name ++ "/" ++ template.name ++ ".json") = some body ∧
        Json.parse body = .ok value ∧
        ∀ args argument, template.Supplied names args argument → ∀ category subject,
          ∃ artifact,
            Artifact.render names.space true names.id category ⟨template, args⟩ subject =
              ⟨some artifact, []⟩ ∧
            Json.parse artifact.contents = .ok (value.mapTexts (names.filled argument)) := by
  refine ⟨_, Bundled.load_eq_ok _, fun template htemplate => ?_⟩
  rw [Bundled.templates_eq] at htemplate
  obtain ⟨⟨name, kind, body⟩, hsource, rfl⟩ := List.mem_map.1 htemplate
  obtain ⟨hfillable, hparses⟩ := isFillable_sources _ _ _ hsource
  have hname := loot_sources _ _ _ hsource
  cases hvalue : Json.parse body with
  | error _ =>
    rw [hvalue] at hparses
    cases hparses
  | ok value =>
    refine ⟨body, value, find?_sources _ _ _ hsource, hvalue, ?_⟩
    intro args argument hargs category subject
    obtain ⟨text, hrender, hparse⟩ := exists_rendered names hfillable hname hvalue hargs
    refine ⟨⟨category, category.package names.space, names.id ++ ".json", text⟩, ?_, hparse⟩
    simp only [Artifact.render, hrender, Artifact.jsonReports, hparse, if_true]

theorem render_filled_dropOther :
    let names : Names := ⟨"examplemod", "copper_ore", by decide, by decide⟩
    let template := Template.make "drop_other" .loot Bundled.dropOther names.space .builtin
    let drop := "raw_copper\x7d %s $\x7bid\x7d"
    template ∈ Bundled.templates names.space ∧
      template.Supplied names [drop] (some drop) ∧
      ∃ value artifact, Json.parse Bundled.dropOther = .ok value ∧
        Artifact.render names.space true names.id .lootTable ⟨template, [drop]⟩ "Ores.copper" =
          ⟨some artifact, []⟩ ∧
        Json.parse artifact.contents = .ok (value.mapTexts (names.filled (some drop))) := by
  intro names template drop
  have hmem : template ∈ Bundled.templates names.space := by
    simp [Bundled.templates, template]
  have hsupplied : template.Supplied names [drop] (some drop) :=
    .loot rfl drop [] (fun _ => ⟨by decide, by simp [drop, isVerbatim]⟩) rfl
  obtain ⟨templates, hload, hall⟩ := render_filled names
  obtain rfl := Except.ok.inj ((Bundled.load_eq_ok names.space).symm.trans hload)
  obtain ⟨body, value, hbody, hvalue, hrendered⟩ := hall template hmem
  have hsource : ("drop_other", .loot, Bundled.dropOther) ∈ Bundled.sources := by
    simp [Bundled.sources]
  obtain rfl := Option.some.inj (hbody.symm.trans (find?_sources _ _ _ hsource))
  obtain ⟨artifact, hartifact⟩ := hrendered _ _ hsupplied .lootTable "Ores.copper"
  exact ⟨hmem, hsupplied, value, artifact, hvalue, hartifact⟩

end Modforge
