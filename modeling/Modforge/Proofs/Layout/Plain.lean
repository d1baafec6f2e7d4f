import Modforge.Layout.Render

/-!
# Plain layouts

A plain layout writes text and the values of names. Around these it asks at most whether a name
has a text, and goes at most through a list. What it renders is read off it without any scope.
-/

namespace Modforge.Layout

/-! ## Plain nodes -/

inductive Part where
  | text (chars : List Char)
  | value (name : String)
  deriving DecidableEq, Repr

/-- A part, parts that are left out unless a name has a text, or parts for each item of a list. -/
inductive Plain where
  | part (one : Part)
  | whenSet (name : String) (body : List Part)
  | each (item list : String) (body : List Part)
  deriving DecidableEq, Repr

def Expr.ofName (name : String) : Expr := .mk (.name name) [] false

def Part.node : Part → Node
  | .text chars => .text chars
  | .value name => .output (.ofName name)

def Plain.node : Plain → Node
  | .part one => one.node
  | .whenSet name body => .branch [(.ofName name, body.map Part.node)] []
  | .each item list body => .loop none item (.ofName list) (body.map Part.node) []

/-! ## Nodes that are plain -/

def Part.ofNode? : Node → Option Part
  | .text chars => some (.text chars)
  | .output (.mk (.name name) [] false) => some (.value name)
  | _ => none

def Plain.ofNode? : Node → Option Plain
  | .branch [(.mk (.name name) [] false, body)] [] =>
    (body.mapM Part.ofNode?).map (.whenSet name)
  | .loop none item (.mk (.name list) [] false) body [] =>
    (body.mapM Part.ofNode?).map (.each item list)
  | node => (Part.ofNode? node).map .part

theorem Part.node_of_ofNode? {node : Node} {part : Part} (h : ofNode? node = some part) :
    part.node = node := by
  unfold ofNode? at h
  split at h
  · cases h
    rfl
  · cases h
    rfl
  · cases h

theorem map_of_mapM {α β : Type} {read : α → Option β} {back : β → α}
    (h : ∀ a b, read a = some b → back b = a) {as : List α} {bs : List β}
    (hread : as.mapM read = some bs) : bs.map back = as := by
  induction as generalizing bs with
  | nil =>
    obtain rfl : [] = bs := by simpa using hread
    rfl
  | cons a rest ih =>
    rw [List.mapM_cons] at hread
    obtain ⟨b, hb, hrest⟩ := Option.bind_eq_some_iff.1 hread
    obtain ⟨more, hmore, hlast⟩ := Option.bind_eq_some_iff.1 hrest
    obtain rfl := Option.some.inj hlast
    rw [List.map_cons, h a b hb, ih hmore]

theorem Plain.node_of_ofNode? {node : Node} {plain : Plain} (h : ofNode? node = some plain) :
    plain.node = node := by
  unfold ofNode? at h
  split at h
  · obtain ⟨body, hbody, rfl⟩ := Option.map_eq_some_iff.1 h
    rw [← map_of_mapM (fun _ _ => Part.node_of_ofNode?) hbody]
    rfl
  · obtain ⟨body, hbody, rfl⟩ := Option.map_eq_some_iff.1 h
    rw [← map_of_mapM (fun _ _ => Part.node_of_ofNode?) hbody]
    rfl
  · obtain ⟨part, hpart, rfl⟩ := Option.map_eq_some_iff.1 h
    exact Part.node_of_ofNode? hpart

/-! ## Names in a round -/

theorem valueAt?_nil (value : Json) : valueAt? value [] = some value := by
  cases value <;> rfl

theorem follow_enter {item : String} {value : Json} (scope : Scope) (index : Nat) (isLast : Bool)
    (hplain : '[' ∉ item.toList) (hloop : ['l', 'o', 'o', 'p'].isPrefixOf item.toList = false) :
    (scope.enter ⟨item, some value, index, isLast⟩).follow item = some value := by
  have hbrackets : item.toList.contains '[' = false := by simpa using hplain
  have hround : (Round.mk item (some value) index isLast).about? item.toList = some value := by
    rw [Round.about?, hloop, if_neg Bool.false_ne_true, Reference.keysAfter?, if_pos rfl]
    exact valueAt?_nil value
  have hvars : namedIn? [] item.toList = none := rfl
  simp only [Scope.follow, Scope.followBelow, hbrackets, Bool.not_false, if_true, Scope.find?,
    Scope.enter, List.findSome?_cons, Frame.find?, hvars, Option.none_or, Option.bind_some,
    hround, Option.some_or]

/-! ## Rendering -/

def Part.shown (texts : String → String) : Part → List Char
  | .text chars => chars
  | .value name => (texts name).toList

/-- What a plain node writes. In a round the item hides the name that it shares. -/
def Plain.shown (texts : String → String) (lists : String → List String) : Plain → List Char
  | .part one => one.shown texts
  | .whenSet name body => if texts name = "" then [] else body.flatMap (Part.shown texts)
  | .each item list body => (lists list).flatMap fun text =>
    body.flatMap (Part.shown fun name => if name = item then text else texts name)

section

variable {scope : Scope} (fuel : Nat)

theorem eval_ofName {name : String} {value : Json} (h : scope.follow name = some value) :
    eval scope (fuel + 1) (.ofName name) = some value := by
  rw [Expr.ofName, eval]
  simp only [h]
  cases value <;> rfl

theorem evalTruth_ofName {name text : String} (h : scope.follow name = some (.text text)) :
    evalTruth scope (fuel + 2) (.ofName name) = some !text.toList.isEmpty := by
  have hvalue := eval_ofName fuel h
  rw [Expr.ofName] at hvalue
  rw [Expr.ofName, evalTruth]
  simp only [hvalue, holds]

theorem renderNode_part {texts : String → String} {part : Part}
    (h : ∀ name, part = .value name → scope.follow name = some (.text (texts name))) :
    renderNode (fuel + 1) part.node scope = some (part.shown texts, scope, .on) := by
  cases part with
  | text chars => rw [Part.node, renderNode, Part.shown]
  | value name =>
    rw [Part.node, renderNode, eval_ofName _ (h name rfl)]
    rfl

theorem renderNodes_map {α : Type} {node : α → Node} {shown : α → List Char} {items : List α}
    (h : ∀ item ∈ items, renderNode fuel (node item) scope = some (shown item, scope, .on)) :
    renderNodes fuel (items.map node) scope = some (items.flatMap shown, scope, .on) := by
  induction items with
  | nil => rw [List.map_nil, renderNodes, List.flatMap_nil]
  | cons item rest ih =>
    obtain ⟨hitem, hrest⟩ := List.forall_mem_cons.1 h
    rw [List.map_cons, renderNodes, hitem]
    simp only [Option.bind_eq_bind, Option.bind_some, if_true, ih hrest]
    rfl

theorem renderNodes_parts {texts : String → String} {parts : List Part}
    (h : ∀ name, Part.value name ∈ parts → scope.follow name = some (.text (texts name))) :
    renderNodes (fuel + 1) (parts.map Part.node) scope =
      some (parts.flatMap (Part.shown texts), scope, .on) :=
  renderNodes_map _ fun _ hpart => renderNode_part _ fun name hname => h name (hname ▸ hpart)

theorem repeatBody_parts {item : String} {body : List Part} {shown : String → List Char}
    (h : ∀ text index isLast,
      let inner := scope.enter ⟨item, some (.text text), index, isLast⟩
      renderNodes fuel (body.map Part.node) inner = some (shown text, inner, .on))
    (texts : List String) (index : Nat) :
    repeatBody (fun scope => renderNodes fuel (body.map Part.node) scope) item
        (texts.map fun text => some (.text text)) index scope =
      some (texts.flatMap shown, scope) := by
  induction texts generalizing index with
  | nil => rw [List.map_nil, repeatBody, List.flatMap_nil]
  | cons text rest ih =>
    -- a round leaves the scope as it found it
    have hleave (round : Round) : (scope.enter round).leave = scope := rfl
    rw [List.map_cons, repeatBody]
    simp only [h, Option.bind_eq_bind, Option.bind_some, hleave, ih, reduceCtorEq, if_false]
    rfl

/-- What a plain node needs of a scope: that its names stand for the given texts and lists. -/
def Plain.IsGiven (scope : Scope) (texts : String → String) (lists : String → List String) :
    Plain → Prop
  | .part one => ∀ name, one = .value name → scope.follow name = some (.text (texts name))
  | .whenSet name body => scope.follow name = some (.text (texts name)) ∧
    ∀ inner, Part.value inner ∈ body → scope.follow inner = some (.text (texts inner))
  | .each item list body => scope.follow list = some (.list ((lists list).map .text)) ∧
    ∀ text index isLast inner, Part.value inner ∈ body →
      (scope.enter ⟨item, some (.text text), index, isLast⟩).follow inner =
        some (.text (if inner = item then text else texts inner))

theorem Plain.isGiven_text {texts : String → String} {lists : String → List String}
    (chars : List Char) : IsGiven scope texts lists (.part (.text chars)) :=
  fun _ h => Part.noConfusion h

theorem Plain.isGiven_value {texts : String → String} {lists : String → List String}
    {name : String} (h : scope.follow name = some (.text (texts name))) :
    IsGiven scope texts lists (.part (.value name)) := by
  rintro _ ⟨rfl⟩
  exact h

theorem forall_value_between {name : String} {before after : List Char} {P : String → Prop}
    (h : P name) (inner : String)
    (hinner : Part.value inner ∈ [Part.text before, .value name, .text after]) : P inner := by
  simp only [List.mem_cons, reduceCtorEq, Part.value.injEq, List.not_mem_nil, or_false,
    false_or] at hinner
  exact hinner ▸ h

theorem renderNode_plain {texts : String → String} {lists : String → List String} {plain : Plain}
    (h : plain.IsGiven scope texts lists) :
    renderNode (fuel + 2) plain.node scope = some (plain.shown texts lists, scope, .on) := by
  cases plain with
  | part one => exact renderNode_part _ h
  | whenSet name body =>
    obtain ⟨hname, hbody⟩ := h
    rw [Plain.node, renderNode, renderCases, evalTruth_ofName _ hname, Plain.shown]
    by_cases hempty : texts name = ""
    · simp [hempty, renderCases, renderNodes]
    · simp [hempty, renderNodes_parts _ hbody]
  | each item list body =>
    obtain ⟨hlist, hbody⟩ := h
    have hrange : isRange (.ofName list) = true := rfl
    have hrounds := repeatBody_parts _ (fun text index isLast =>
      renderNodes_parts (fuel + 1) (hbody text index isLast)) (lists list) 0
    rw [Plain.node, renderNode, hrange, eval_ofName _ hlist, Plain.shown]
    simp only [Bool.not_true, Bool.false_eq_true, if_false, Option.bind_eq_bind, Option.bind_some,
      roundsOf?, Option.isSome_none, List.map_map]
    -- without rounds the loop shows what is for want of rounds, which is nothing
    cases hitems : lists list with
    | nil => simp [renderNodes]
    | cons first rest =>
      rw [hitems] at hrounds
      simp only [Function.comp_def, List.map_cons, List.isEmpty_cons, Bool.false_eq_true,
        if_false] at hrounds ⊢
      rw [hrounds]
      rfl

end

end Modforge.Layout

namespace Modforge

theorem render_plain {layout : Layout} {plains : List Layout.Plain}
    (hnodes : layout.nodes = plains.map Layout.Plain.node) (hdepth : 2 ≤ layout.depth)
    {given : List (String × Json)} {texts : String → String} {lists : String → List String}
    (h : ∀ plain ∈ plains, plain.IsGiven ⟨[⟨[], none⟩], given⟩ texts lists) :
    layout.render given =
      .ok (String.ofList (plains.flatMap (Layout.Plain.shown texts lists))) := by
  obtain ⟨fuel, hfuel⟩ : ∃ fuel, layout.depth = fuel + 2 := ⟨_, (Nat.sub_add_cancel hdepth).symm⟩
  have hall := Layout.renderNodes_map (fuel + 2) fun plain hplain =>
    Layout.renderNode_plain fuel (h plain hplain)
  rw [Layout.render, hnodes, hfuel, hall]

end Modforge
