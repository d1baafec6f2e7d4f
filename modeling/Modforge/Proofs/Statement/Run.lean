import Modforge.Proofs.Candidate.Memory
import Modforge.Proofs.Confined
import Modforge.Proofs.Statement.Spec
import Modforge.Proofs.Way

/-!
# Nothing is injected into a statement

Every text that reaches a statement has passed a check on its way: the names of the container,
of its members and of its groups, and the ids. So a statement has the shape it is meant to have,
and Java reads it so.
-/

namespace Modforge

/-! ## Characters -/

/-- The characters of names, and what stands between names outside the literals. -/
def isCodeChar (c : Char) : Bool :=
  Naming.isIdentifierChar c || c == '.' || c == ' ' || c == ',' || c == '(' || c == ')'

theorem isCodeChar_inert {c : Char} (h : isCodeChar c = true) :
    c ∉ [';', '"', '\'', '\\', '/', '\n', '\r'] := by
  simp only [List.mem_cons, List.not_mem_nil, or_false]
  rintro (rfl | rfl | rfl | rfl | rfl | rfl | rfl) <;> cases h

def isWordChar (c : Char) : Bool := isCodeChar c && c != '(' && c != ')'

namespace JavaReading

/-! ## Reading on -/

theorem readFrom_code {c : Char} (h : isCodeChar c = true) (rest : List Char) :
    readFrom none (c :: rest) = (readFrom none rest).map fun r => { r with code := c :: r.code } := by
  have hquote : c ≠ '"' := fun he => isCodeChar_inert h (by simp [he])
  rw [readFrom]
  exact hquote

theorem readFrom_literal {text : List Char} (h : ∀ c ∈ text, Naming.isIdChar c = true)
    (seen rest : List Char) :
    readFrom (some seen) (text ++ '"' :: rest) =
      (readFrom none rest).map fun r =>
        { r with literals := String.ofList (seen ++ text) :: r.literals } := by
  induction text generalizing seen with
  | nil => simp [readFrom]
  | cons c more ih =>
    obtain ⟨hc, hmore⟩ := List.forall_mem_cons.1 h
    have hne (d : Char) (hd : d ∈ ['"', '\\', '\n', '\r']) : c ≠ d := by
      rintro rfl
      simp only [List.mem_cons, List.not_mem_nil, or_false] at hd
      rcases hd with rfl | rfl | rfl | rfl <;> cases hc
    rw [List.cons_append, readFrom]
    · rw [if_neg (by simp [hne]), ih hmore, List.append_assoc, List.singleton_append]
    · exact hne '"' (by simp)
    · intro d more' hback
      exact absurd hback (hne '\\' (by simp))

/-! ## Parts of a statement -/

/-- A text that is read to its end: code that closes what it opens, and the given literals. -/
def Reads (text : String) (literals : List String) : Prop :=
  ∃ code, (∀ rest, readFrom none (text.toList ++ rest) =
      (readFrom none rest).map fun r => ⟨code ++ r.code, literals ++ r.literals⟩) ∧
    (∀ c ∈ code, isCodeChar c = true) ∧
    ∀ outside, depth outside code = some outside

namespace Reads

variable {text text' : String} {literals literals' : List String}

theorem append (h : Reads text literals) (h' : Reads text' literals') :
    Reads (text ++ text') (literals ++ literals') := by
  obtain ⟨code, hread, hcode, hdepth⟩ := h
  obtain ⟨code', hread', hcode', hdepth'⟩ := h'
  refine ⟨code ++ code', fun rest => ?_, fun c hc => ?_, fun outside => ?_⟩
  · rw [String.toList_append, List.append_assoc, hread, hread', Option.map_map]
    simp only [Function.comp_def, List.append_assoc]
  · exact (List.mem_append.1 hc).elim (hcode c) (hcode' c)
  · rw [depth, List.foldlM_append, ← depth, hdepth]
    exact hdepth' outside

theorem word (h : text.toList.all isWordChar = true) : Reads text [] := by
  have hchar (c : Char) (hc : c ∈ text.toList) : isCodeChar c = true ∧ c ≠ '(' ∧ c ≠ ')' := by
    simpa only [isWordChar, Bool.and_eq_true, bne_iff_ne, and_assoc] using List.all_eq_true.1 h c hc
  refine ⟨text.toList, ?_, fun c hc => (hchar c hc).1, ?_⟩
  · intro rest
    generalize text.toList = chars at hchar
    induction chars with
    | nil => simp
    | cons c more ih =>
      obtain ⟨hc, hmore⟩ := List.forall_mem_cons.1 hchar
      rw [List.cons_append, readFrom_code hc.1, ih hmore, Option.map_map]
      rfl
  · intro outside
    generalize text.toList = chars at hchar
    induction chars with
    | nil => rfl
    | cons c more ih =>
      obtain ⟨hc, hmore⟩ := List.forall_mem_cons.1 hchar
      have hpass : pass outside c = some outside := by
        rw [pass, if_neg hc.2.1, if_neg hc.2.2]
      rw [depth, List.foldlM_cons, hpass]
      exact ih hmore

theorem of_toList (h : Reads text literals) (heq : text'.toList = text.toList) :
    Reads text' literals := by
  rwa [String.toList_injective heq]

theorem parens (h : Reads text literals) : Reads ("(" ++ text ++ ")") literals := by
  obtain ⟨code, hread, hcode, hdepth⟩ := h
  refine ⟨'(' :: code ++ [')'], fun rest => ?_, fun c hc => ?_, fun outside => ?_⟩
  · have hclose : readFrom none (')' :: rest) =
        (readFrom none rest).map fun r => { r with code := ')' :: r.code } := readFrom_code rfl rest
    rw [String.toList_append, String.toList_append, List.append_assoc, List.append_assoc]
    show readFrom none ('(' :: (text.toList ++ ')' :: rest)) = _
    rw [readFrom_code rfl, hread, hclose, Option.map_map, Option.map_map]
    simp [Function.comp_def]
  · simp only [List.cons_append, List.mem_cons, List.mem_append, List.mem_nil_iff, or_false] at hc
    rcases hc with rfl | hc | rfl
    · rfl
    · exact hcode c hc
    · rfl
  · show depth (outside + 1) (code ++ [')']) = some outside
    rw [depth, List.foldlM_append, ← depth, hdepth]
    rfl

theorem literal (h : ∀ c ∈ text.toList, Naming.isIdChar c = true) :
    Reads ("\"" ++ text ++ "\"") [text] := by
  refine ⟨[], fun rest => ?_, by simp, fun _ => rfl⟩
  rw [String.toList_append, String.toList_append, List.append_assoc, List.append_assoc]
  show readFrom none ('"' :: (text.toList ++ '"' :: rest)) = _
  rw [readFrom, readFrom_literal h]
  simp

theorem inert (h : Reads text literals) :
    ∃ r, read text = some r ∧ r.literals = literals ∧ r.IsInert := by
  obtain ⟨code, hread, hcode, hdepth⟩ := h
  refine ⟨⟨code, literals⟩, ?_, rfl, fun c hc => isCodeChar_inert (hcode c hc), hdepth 0⟩
  rw [read, ← List.append_nil text.toList, hread]
  simp [readFrom]

end Reads

end JavaReading

/-! ## Shapes -/

open JavaReading

theorem isWordChar_of_identifierChar {c : Char} (h : Naming.isIdentifierChar c = true) :
    isWordChar c = true := by
  have hopen : c ≠ '(' := by
    rintro rfl
    cases h
  have hclose : c ≠ ')' := by
    rintro rfl
    cases h
  simp [isWordChar, isCodeChar, h, hopen, hclose]

theorem IsName.char {text : String} (h : IsName text) {c : Char} (hc : c ∈ text.toList) :
    c = '.' ∨ Naming.isIdentifierChar c = true := by
  rw [← Text.joinChars_splitChars '.' text.toList] at hc
  rcases Text.mem_joinChars hc with hdot | ⟨piece, hpiece, hmem⟩
  · exact .inl (List.mem_singleton.1 hdot)
  · exact .inr (Naming.isIdentifierChar_of_isIdentifier (h _ (List.mem_map_of_mem hpiece)) c
      (by simpa using hmem))

theorem IsName.reads {text : String} (h : IsName text) : Reads text [] := by
  refine .word (List.all_eq_true.2 fun c hc => ?_)
  rcases h.char hc with rfl | hc
  · rfl
  · exact isWordChar_of_identifierChar hc

section

variable {types : GameTypes} {owner space : String}

theorem IsKey.reads {id text : String} (h : IsKey types space id text) :
    Reads text [space, id] := by
  obtain ⟨htype, hspace, hid, rfl⟩ := h
  have hnew : Reads "new " [] := .word (by decide)
  have hcomma : Reads ", " [] := .word (by decide)
  have hargs := ((Reads.literal hspace).append (hcomma.append (.literal hid))).parens
  exact (hnew.append (htype.reads.append hargs)).of_toList (by simp)

theorem IsValue.reads {text : String} (h : IsValue types owner text) : Reads text [] := by
  have hnew : Reads "new " [] := .word (by decide)
  have hcomma : Reads ", " [] := .word (by decide)
  have hnothing : Reads "" [] := .word (by decide)
  cases h with
  | field hfield => exact hfield.1.reads
  | companion hfield hblockItem hitem =>
    have hsettings : Reads ".Settings" [] := .word (by decide)
    have hargs := (hfield.1.reads.append (hcomma.append (hnew.append (hitem.reads.append
      (hsettings.append hnothing.parens))))).parens
    exact (hnew.append (hblockItem.reads.append hargs)).of_toList (by simp)
  | grouped hfield hblockItem hitem hgroup =>
    have hsettings : Reads ".Settings" [] := .word (by decide)
    have hgroupName : Reads ".group" [] := .word (by decide)
    have hargs := (hfield.1.reads.append (hcomma.append (hnew.append (hitem.reads.append
      (hsettings.append (hnothing.parens.append
        (hgroupName.append hgroup.reads.parens))))))).parens
    exact (hnew.append (hblockItem.reads.append hargs)).of_toList (by simp)

theorem IsStatement.reads {id : Option String} {text : String}
    (h : IsStatement types owner space id text) : Reads text (expectedLiterals space id) := by
  have hcomma : Reads ", " [] := .word (by decide)
  cases h with
  | callback hmethod hkey hvalue =>
    have hargs := (hkey.reads.append (hcomma.append hvalue.reads)).parens
    exact (hmethod.1.reads.append hargs).of_toList (by simp)
  | @registry kind _ _ _ hregistry hkind hkey hvalue =>
    have hregister : Reads ".register" [] := .word (by decide)
    have hconstant : Reads ("." ++ kind) [] := by
      rcases hkind with rfl | rfl <;> exact .word (by decide)
    have hargs := (hregistry.reads.append (hconstant.append (hcomma.append
      (hkey.reads.append (hcomma.append hvalue.reads))))).parens
    exact (hregistry.reads.append (hregister.append hargs)).of_toList (by simp)
  | afterwards hmethod =>
    have hnothing : Reads "" [] := .word (by decide)
    exact (hmethod.1.reads.append hnothing.parens).of_toList (by simp)

end

/-! ## Names that were checked -/

theorem isName_of_checkQualified {name : String} (h : Naming.checkQualified name = .ok ()) :
    IsName name :=
  fun _ hpart => List.all_eq_true.1 (Naming.checkQualified_eq_ok_iff.1 h) _ hpart

theorem isMember_of_checked {owner member : String} (howner : Naming.checkQualified owner = .ok ())
    (hmember : Naming.isIdentifier member = true) : IsMember owner (owner ++ "." ++ member) := by
  refine ⟨fun part hpart => ?_, member, rfl⟩
  have hdot : '.' ∉ member.toList := fun hmem => by
    have := Naming.isIdentifierChar_of_isIdentifier hmember '.' hmem
    cases this
  have htext : (owner ++ "." ++ member).toList = owner.toList ++ '.' :: member.toList := by simp
  rw [Text.split, htext, Text.splitChars_append, Text.splitChars_of_not_mem hdot, List.map_append,
    List.mem_append] at hpart
  rcases hpart with hpart | hpart
  · exact isName_of_checkQualified howner part hpart
  · obtain rfl : part = member := by simpa using hpart
    exact hmember

theorem isName_shown {group : StaticField} (h : group.check = .ok ()) : IsName group.shown := by
  unfold StaticField.check at h
  split at h
  · next howner =>
    exact (isMember_of_checked howner (Naming.checkIdentifier_eq_ok_iff.1 h)).1
  · cases h

/-! ### Groups -/

theorem check_of_accepted {group chosen : StaticField} {label subject : String}
    (h : (group.accepted label subject).value = some chosen) : chosen.check = .ok () := by
  simp only [StaticField.accepted, Reported.value_bind, Reported.value_pure] at h
  split at h
  · next hvalid =>
    cases h
    exact (value_check _ _).1 hvalid
  · cases h

theorem check_of_defaultGroup {choice : GroupChoice} {subject : String} {group : StaticField}
    (h : (defaultGroup choice subject).value = some group) : group.check = .ok () := by
  cases choice with
  | inherit => cases h
  | void => cases h
  | field own => exact check_of_accepted h

theorem check_of_chooseGroup {choice : GroupChoice} {below : Option StaticField} {subject : String}
    {group : StaticField} (hbelow : ∀ group, below = some group → group.check = .ok ())
    (h : (chooseGroup choice below subject).value = some group) : group.check = .ok () := by
  cases choice with
  | inherit => exact hbelow group h
  | void => cases h
  | field own => exact check_of_accepted h

/-! ### Callbacks -/

theorem isIdentifier_of_check {method : Method} {role : Role} {subject : String}
    (h : (method.check role subject).value = true) : Naming.isIdentifier method.name = true := by
  simp only [Method.check, Reported.all, List.all_cons, Bool.and_eq_true] at h
  exact Naming.checkIdentifier_eq_ok_iff.1 ((value_check _ _).1 h.1)

def Callbacks.AreIdentifiers (callbacks : Callbacks) : Prop :=
  ∀ role method, callbacks.get role = some method → Naming.isIdentifier method = true

theorem areIdentifiers_add {c : Container} {state : Callbacks × List Role}
    (h : state.1.AreIdentifiers) (declared : Method × Role) :
    (Callbacks.add c state declared).value.1.AreIdentifiers := by
  obtain ⟨callbacks, duplicated⟩ := state
  obtain ⟨method, role⟩ := declared
  simp only [Callbacks.add, Reported.value_bind]
  split
  · next hvalid =>
    split
    · intro other name hname
      rw [Reported.value_pure, Callbacks.get_set] at hname
      split at hname
      · cases hname
        exact isIdentifier_of_check hvalid
      · exact h other name hname
    · exact h
  · exact h

theorem areIdentifiers_find (c : Container) : (Callbacks.find c).value.AreIdentifiers := by
  have hfold : ∀ (declared : List (Method × Role)) (state : Callbacks × List Role),
      state.1.AreIdentifiers →
      (declared.foldl (fun state d => (Callbacks.add c state d).value) state).1.AreIdentifiers := by
    intro declared
    induction declared with
    | nil => exact fun _ h => h
    | cons d rest ih => exact fun state h => ih _ (areIdentifiers_add h d)
  have hnone : Callbacks.none.AreIdentifiers := by
    intro role method h
    cases role <;> cases h
  have hstate := hfold (Callbacks.declared c) (.none, []) hnone
  rw [← Reported.value_foldlM] at hstate
  exact hstate

/-! ### Entities -/

theorem isIdChar_of_isWordOf {id : String} (h : Naming.isWordOf Naming.isIdChar id = true) :
    ∀ c ∈ id.toList, Naming.isIdChar c = true := by
  rw [Naming.isWordOf, Bool.and_eq_true] at h
  exact List.all_eq_true.1 h.2

theorem isIdentifier_of_fits {field : Field} {type : MemberType} (h : field.fits type = true) :
    Naming.isIdentifier field.name = true := by
  simp only [Field.fits, Bool.and_eq_true] at h
  exact h.1.1.1

section

variable (g : Generator) (tree : FileTree) (c : Container)

theorem checked_block {b : BlockEntity} (h : b ∈ (g.resolve tree c).value.blocks) :
    Naming.isIdentifier b.field = true ∧ (∀ ch ∈ b.id.toList, Naming.isIdChar ch = true) ∧
      ∀ group, b.group = some group → group.check = .ok () := by
  rw [blocks_resolve, List.mem_map] at h
  obtain ⟨block, hblock, rfl⟩ := h
  rw [List.mem_filter, blocks_members, List.mem_filterMap] at hblock
  obtain ⟨⟨field, hfield, hmark⟩, hid⟩ := hblock
  obtain ⟨settings, -, rfl⟩ := Option.map_eq_some_iff.1 hmark
  rw [value_fill]
  refine ⟨isIdentifier_of_fits (List.mem_filter.1 hfield).2, isIdChar_of_isWordOf hid, ?_⟩
  intro group hgroup
  refine check_of_chooseGroup (fun below hbelow => ?_) hgroup
  exact check_of_defaultGroup hbelow

theorem checked_item {i : ItemEntity} (h : i ∈ (g.resolve tree c).value.items) :
    Naming.isIdentifier i.field = true ∧ ∀ ch ∈ i.id.toList, Naming.isIdChar ch = true := by
  rw [items_resolve, List.mem_map] at h
  obtain ⟨item, hitem, rfl⟩ := h
  rw [List.mem_filter, items_members, List.mem_filterMap] at hitem
  obtain ⟨⟨field, hfield, hmark⟩, hid⟩ := hitem
  obtain ⟨settings, -, rfl⟩ := Option.map_eq_some_iff.1 hmark
  exact ⟨isIdentifier_of_fits (List.mem_filter.1 hfield).2, isIdChar_of_isWordOf hid⟩

theorem areIdentifiers_resolve : (g.resolve tree c).value.callbacks.AreIdentifiers :=
  areIdentifiers_find c

end

/-! ## Statements -/

section

variable {s : StatementContext} (howner : Naming.checkQualified s.container.owner = .ok ())
  (hspace : Naming.checkNamespace s.container.space = .ok ())
  (htypes : ∀ name ∈ [s.types.registry, s.types.identifier, s.types.item, s.types.blockItem],
    Naming.checkQualified name = .ok ())

include howner htypes

include hspace in
theorem isStatement_register {callback : Option String} {kind id value : String}
    (hcallback : ∀ method, callback = some method → Naming.isIdentifier method = true)
    (hkind : kind = "BLOCK" ∨ kind = "ITEM") (hid : ∀ c ∈ id.toList, Naming.isIdChar c = true)
    (hvalue : IsValue s.types s.container.owner value) :
    IsStatement s.types s.container.owner s.container.space (some id)
      (s.register callback kind id value) := by
  have hkey : IsKey s.types s.container.space id (s.identifier id) := by
    refine ⟨isName_of_checkQualified (htypes _ (by simp)), fun c hc => ?_, hid, rfl⟩
    simp [Naming.isIdChar, (checkNamespace_eq_ok_iff.1 hspace).2 c hc]
  cases callback with
  | none => exact .registry (isName_of_checkQualified (htypes _ (by simp))) hkind hkey hvalue
  | some method => exact .callback (isMember_of_checked howner (hcallback method rfl)) hkey hvalue

theorem isValue_companion {b : BlockEntity} (hfield : Naming.isIdentifier b.field = true)
    (hgroup : ∀ group, b.group = some group → group.check = .ok ()) :
    IsValue s.types s.container.owner (s.companion b) := by
  have hmember : IsMember s.container.owner (s.member b.field) := isMember_of_checked howner hfield
  have hblockItem := isName_of_checkQualified (htypes s.types.blockItem (by simp))
  have hitem := isName_of_checkQualified (htypes s.types.item (by simp))
  cases hb : b.group with
  | none =>
    have htext : s.companion b = "new " ++ s.types.blockItem ++ "(" ++ s.member b.field ++
        ", new " ++ s.types.item ++ ".Settings())" := by
      apply String.toList_injective
      simp [StatementContext.companion, hb]
    rw [htext]
    exact .companion hmember hblockItem hitem
  | some group =>
    have htext : s.companion b = "new " ++ s.types.blockItem ++ "(" ++ s.member b.field ++
        ", new " ++ s.types.item ++ ".Settings().group(" ++ group.shown ++ "))" := by
      apply String.toList_injective
      simp [StatementContext.companion, hb]
    rw [htext]
    exact .grouped hmember hblockItem hitem (isName_shown (hgroup group hb))

include hspace in
theorem isStatement_of_mem {blocks : List BlockEntity} {items : List ItemEntity}
    (hcallbacks : s.callbacks.AreIdentifiers)
    (hblocks : ∀ b ∈ blocks, Naming.isIdentifier b.field = true ∧
      (∀ c ∈ b.id.toList, Naming.isIdChar c = true) ∧
      ∀ group, b.group = some group → group.check = .ok ())
    (hitems : ∀ i ∈ items, Naming.isIdentifier i.field = true ∧
      ∀ c ∈ i.id.toList, Naming.isIdChar c = true)
    {text : String} (h : text ∈ s.all blocks items) :
    ∃ id, IsStatement s.types s.container.owner s.container.space id text := by
  simp only [StatementContext.all, List.mem_append, List.mem_flatMap, List.mem_map,
    Option.mem_toList, Option.map_eq_some_iff] at h
  rcases h with (⟨b, hb, htext⟩ | ⟨i, hi, rfl⟩) | ⟨method, hmethod, rfl⟩
  · obtain ⟨hfield, hid, hgroup⟩ := hblocks b hb
    rcases List.mem_cons.1 htext with rfl | htext
    · exact ⟨_, isStatement_register howner hspace htypes (hcallbacks .blockRegistry)
        (.inl rfl) hid (.field (isMember_of_checked howner hfield))⟩
    · split at htext
      · obtain rfl := List.mem_singleton.1 htext
        exact ⟨_, isStatement_register howner hspace htypes (hcallbacks .itemRegistry)
          (.inr rfl) hid (isValue_companion howner htypes hfield hgroup)⟩
      · cases htext
  · obtain ⟨hfield, hid⟩ := hitems i hi
    exact ⟨_, isStatement_register howner hspace htypes (hcallbacks .itemRegistry)
      (.inr rfl) hid (.field (isMember_of_checked howner hfield))⟩
  · exact ⟨_, .afterwards (isMember_of_checked howner (hcallbacks .postRegister method hmethod))⟩

end

/-- Every statement for the registrar of a container has one of the shapes, whatever the
container declares. Read as Java it is one expression, with the namespace and the id as its only
literals. -/
theorem statement_inert (g : Generator) (tree : FileTree) (c : Container)
    (htypes : ∀ name ∈ [g.settings.types.registry, g.settings.types.identifier,
      g.settings.types.item, g.settings.types.blockItem], Naming.checkQualified name = .ok ())
    (hname : Generator.nameReport? c = none) :
    ∀ text ∈ g.statements c (g.resolve tree c).value,
      ∃ id, IsStatement g.settings.types c.owner c.space id text ∧
        ∃ reading, JavaReading.read text = some reading ∧ reading.IsInert ∧
          reading.literals = expectedLiterals c.space id := by
  obtain ⟨hspace, howner⟩ := (nameReport?_eq_none_iff c).1 hname
  let s : StatementContext := ⟨c, (g.resolve tree c).value.callbacks, g.settings.types⟩
  have hall : ∀ text ∈ s.all (g.resolve tree c).value.blocks (g.resolve tree c).value.items,
      ∃ id, IsStatement s.types s.container.owner s.container.space id text :=
    fun text htext => @isStatement_of_mem s howner hspace htypes _ _
      (areIdentifiers_resolve g tree c) (fun _ hb => checked_block g tree c hb)
      (fun _ hi => checked_item g tree c hi) text htext
  intro text htext
  obtain ⟨id, hstatement⟩ := hall text htext
  obtain ⟨reading, hread, hliterals, hinert⟩ := hstatement.reads.inert
  exact ⟨id, hstatement, reading, hread, hinert, hliterals⟩

def groupedOre : Container :=
  { twoOres with
    fields := [.ofBlock "TIN" { BlockSettings.inheriting "ore" with
      companion := .on, group := .field ⟨"mod.Tabs", "ORES"⟩ }]
    methods := [.ofRole "done" .postRegister] }

def groupedOreItem : String :=
  "net.minecraft.util.registry.Registry.register(net.minecraft.util.registry.Registry.ITEM, " ++
    "new net.minecraft.util.Identifier(\"m\", \"ore\"), " ++
    "new net.minecraft.item.BlockItem(mod.Ores.TIN, " ++
    "new net.minecraft.item.Item.Settings().group(mod.Tabs.ORES)))"

theorem statement_inert_groupedOre :
    (∀ name ∈ [GameTypes.default.registry, GameTypes.default.identifier, GameTypes.default.item,
      GameTypes.default.blockItem], Naming.checkQualified name = .ok ()) ∧
    Generator.nameReport? groupedOre = none ∧
    groupedOreItem ∈ blankGenerator.statements groupedOre
        (blankGenerator.resolve oreFiles groupedOre).value ∧
    ∃ id, IsStatement .default "mod.Ores" "m" id groupedOreItem ∧
      ∃ reading, JavaReading.read groupedOreItem = some reading ∧ reading.IsInert ∧
        reading.literals = expectedLiterals "m" id := by
  have htypes : ∀ name ∈ [GameTypes.default.registry, GameTypes.default.identifier,
      GameTypes.default.item, GameTypes.default.blockItem],
      Naming.checkQualified name = .ok () := by decide
  have hname : Generator.nameReport? groupedOre = none := by decide
  have hmem : groupedOreItem ∈ blankGenerator.statements groupedOre
      (blankGenerator.resolve oreFiles groupedOre).value := by
    decide +kernel
  exact ⟨htypes, hname, hmem,
    statement_inert blankGenerator oreFiles groupedOre htypes hname groupedOreItem hmem⟩

end Modforge
