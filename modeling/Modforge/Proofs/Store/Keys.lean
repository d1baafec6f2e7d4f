import Mathlib.Data.List.Dedup
import Mathlib.Data.List.Find
import Modforge.Entity.Layer
import Modforge.Proofs.ByteOrder
import Modforge.Proofs.Resolved

/-!
# Templates by their keys

A store keeps each template under its own kind and name, and no kind and no name of a kind stands
in it twice. So what a store shows follows from what is found in it, whatever the order in which
its entries lie.
-/

namespace Modforge

def Template.key (template : Template) : TemplateKind × String := (template.kind, template.name)

namespace TemplateStore

theorem isNamed_iff {kind : TemplateKind} {name : String} {template : Template} :
    isNamed kind name template = true ↔ template.key = (kind, name) := by
  simp [isNamed, Template.key]

/-! ## What a step preserves -/

/-- The templates of one kind, each under its own name and no name twice. -/
structure KeptAs (kind : TemplateKind) (named : List (String × Template)) : Prop where
  names : (named.map Prod.fst).Nodup
  own : ∀ entry ∈ named, entry.2.key = (kind, entry.1)

theorem KeptAs.exchange {template : Template} {named : List (String × Template)}
    (h : KeptAs template.kind named) :
    KeptAs template.kind (Keyed.exchange template.name template named).2 where
  names := Keyed.nodup_keys_exchange h.names _ _
  own entry hentry := by
    rcases Keyed.eq_or_mem_of_mem_exchange hentry with rfl | hold
    · rfl
    · exact h.own entry hold

/-- No kind twice, and under each kind only templates of it. -/
structure Kept (store : TemplateStore) : Prop where
  kinds : (store.byKind.map Prod.fst).Nodup
  named : ∀ entry ∈ store.byKind, KeptAs entry.1 entry.2

theorem Kept.ofKind {store : TemplateStore} (h : store.Kept) (kind : TemplateKind) :
    KeptAs kind (store.ofKind kind) := by
  unfold TemplateStore.ofKind
  cases hnamed : store.byKind.lookup kind with
  | none => exact ⟨List.nodup_nil, fun _ hnone => nomatch hnone⟩
  | some named => exact h.named (kind, named) (Keyed.mem_of_lookup_eq_some hnamed)

theorem kept_empty : empty.Kept :=
  ⟨List.nodup_nil, fun _ hnone => nomatch hnone⟩

theorem Kept.register {store : TemplateStore} (h : store.Kept) (template : Template) :
    (store.register template).Kept where
  kinds := Keyed.nodup_keys_exchange h.kinds _ _
  named entry hentry := by
    rcases Keyed.eq_or_mem_of_mem_exchange hentry with rfl | hold
    · exact (h.ofKind template.kind).exchange
    · exact h.named entry hold

theorem Kept.foldl_register {store : TemplateStore} (h : store.Kept) (templates : List Template) :
    (templates.foldl TemplateStore.register store).Kept := by
  induction templates generalizing store with
  | nil => exact h
  | cons template rest ih => exact ih (h.register template)

/-! ## Keys -/

def keys (store : TemplateStore) : List (TemplateKind × String) :=
  store.byKind.flatMap fun (kind, named) => named.map fun (name, _) => (kind, name)

theorem length_keys (store : TemplateStore) : store.keys.length = store.size := by
  have hcount (byKind : List (TemplateKind × List (String × Template))) (count : Nat) :
      byKind.foldl (fun count (_, named) => count + named.length) count =
        count + (keys ⟨byKind⟩).length := by
    induction byKind generalizing count with
    | nil => rfl
    | cons entry rest ih =>
      have hkeys : (keys ⟨entry :: rest⟩).length = entry.2.length + (keys ⟨rest⟩).length := by
        simp [keys]
      rw [List.foldl_cons, ih, hkeys, ← Nat.add_assoc]
  rw [size, hcount, Nat.zero_add]

theorem Kept.nodup_keys {store : TemplateStore} (h : store.Kept) : store.keys.Nodup := by
  refine List.nodup_flatMap.2 ⟨fun (kind, named) hentry => ?_, ?_⟩
  · refine List.Nodup.of_map Prod.snd ?_
    rw [List.map_map]
    exact (h.named (kind, named) hentry).names
  · refine (List.pairwise_map.1 h.kinds).imp fun {a b} hne => ?_
    -- keys of two kinds differ in the kind
    rintro ⟨kind, name⟩ ha hb
    obtain ⟨_, -, ha⟩ := List.mem_map.1 ha
    obtain ⟨_, -, hb⟩ := List.mem_map.1 hb
    exact hne ((Prod.mk.inj ha).1.trans (Prod.mk.inj hb).1.symm)

theorem contains_eq_true_iff {store : TemplateStore} {kind : TemplateKind} {name : String} :
    store.contains kind name = true ↔ name ∈ (store.ofKind kind).map Prod.fst :=
  Keyed.isSome_lookup_iff

theorem Kept.mem_keys_iff {store : TemplateStore} (h : store.Kept) {kind : TemplateKind}
    {name : String} : (kind, name) ∈ store.keys ↔ store.contains kind name = true := by
  rw [contains_eq_true_iff, keys, List.mem_flatMap]
  constructor
  · rintro ⟨⟨other, named⟩, hentry, hname⟩
    obtain ⟨entry, hmem, hkey⟩ := List.mem_map.1 hname
    obtain ⟨rfl, rfl⟩ := Prod.mk.inj hkey
    rw [TemplateStore.ofKind, Keyed.lookup_eq_some_of_mem h.kinds hentry]
    exact List.mem_map_of_mem hmem
  · intro hname
    unfold TemplateStore.ofKind at hname
    cases hnamed : store.byKind.lookup kind with
    | none => simp [hnamed] at hname
    | some named =>
      rw [hnamed] at hname
      obtain ⟨entry, hentry, rfl⟩ := List.mem_map.1 hname
      exact ⟨(kind, named), Keyed.mem_of_lookup_eq_some hnamed, List.mem_map_of_mem hentry⟩

/-! ## Names -/

theorem mem_names_iff {store : TemplateStore} {kind : TemplateKind} {name : String} :
    name ∈ store.names kind ↔ store.contains kind name = true := by
  rw [contains_eq_true_iff, names, List.mem_mergeSort]

theorem Kept.names_pairwise_lt {store : TemplateStore} (h : store.Kept) (kind : TemplateKind) :
    (store.names kind).Pairwise (· < ·) := by
  have hle (a b : String) : (!decide (b < a)) = true ↔ a ≤ b := by
    rw [Bool.not_eq_true', decide_eq_false_iff_not, not_lt]
  have hsorted : (store.names kind).Pairwise fun a b => (!decide (b < a)) = true := by
    refine List.pairwise_mergeSort (fun a b c hab hbc => ?_) (fun a b => ?_) _
    · rw [hle] at hab hbc ⊢
      exact hab.trans hbc
    · rw [Bool.or_eq_true, hle, hle]
      exact le_total a b
  have hnodup : (store.names kind).Nodup :=
    (List.mergeSort_perm _ _).nodup_iff.2 (h.ofKind kind).names
  exact (hsorted.and hnodup).imp fun {a b} hab => lt_of_le_of_ne ((hle a b).1 hab.1) hab.2

theorem Kept.names_eq {store other : TemplateStore} (h : store.Kept) (hother : other.Kept)
    {kind : TemplateKind} (hsame : ∀ name, other.lookup kind name = store.lookup kind name) :
    other.names kind = store.names kind := by
  have hnames := h.names_pairwise_lt kind
  have hothers := hother.names_pairwise_lt kind
  have hperm : (other.names kind).Perm (store.names kind) := by
    have hiff := List.perm_ext_iff_of_nodup (hothers.imp ne_of_lt) (hnames.imp ne_of_lt)
    refine hiff.2 fun name => ?_
    rw [mem_names_iff, mem_names_iff, contains, contains, hsame]
  exact hperm.eq_of_pairwise (fun a b _ _ hab hba => absurd hab hba.asymm) hothers hnames

/-! ## Runs -/

theorem contains_foldl_register (templates : List Template) (kind : TemplateKind)
    (name : String) :
    (templates.foldl register empty).contains kind name = true ↔
      (kind, name) ∈ templates.map Template.key := by
  rw [contains, lookup_foldl_register, Option.isSome_or, Bool.or_eq_true]
  have hnone : (empty.lookup kind name).isSome ≠ true := Bool.false_ne_true
  simp [hnone, isNamed_iff]

theorem size_foldl_register (templates : List Template) :
    (templates.foldl register empty).size = (templates.map Template.key).dedup.length := by
  have hkept := kept_empty.foldl_register templates
  rw [← length_keys]
  refine ((List.perm_ext_iff_of_nodup hkept.nodup_keys (List.nodup_dedup _)).2 ?_).length_eq
  rintro ⟨kind, name⟩
  rw [hkept.mem_keys_iff, contains_foldl_register, List.mem_dedup]

theorem find?_isNamed_of_perm {templates others : List Template} (hperm : others.Perm templates)
    (hkeys : (templates.map Template.key).Nodup) (kind : TemplateKind) (name : String) :
    others.find? (isNamed kind name) = templates.find? (isNamed kind name) := by
  refine List.find?_eq_find?_of_perm hperm ?_
  rintro a ⟨ha, hkind⟩ b ⟨hb, hname⟩
  exact List.inj_on_of_nodup_map hkeys (hperm.mem_iff.1 ha) (hperm.mem_iff.1 hb)
    ((isNamed_iff.1 hkind).trans (isNamed_iff.1 hname).symm)

theorem lookup_foldl_register_of_perm {templates others : List Template}
    (hperm : others.Perm templates) (hkeys : (templates.map Template.key).Nodup)
    (store : TemplateStore) (kind : TemplateKind) (name : String) :
    (others.foldl register store).lookup kind name =
      (templates.foldl register store).lookup kind name := by
  have hreverse (list : List Template) : list.reverse.Perm list := List.reverse_perm list
  rw [lookup_foldl_register, lookup_foldl_register,
    find?_isNamed_of_perm ((hreverse others).trans hperm) hkeys,
    find?_isNamed_of_perm (hreverse templates) hkeys]

theorem resolve_congr {store other : TemplateStore} (hlookup : other.lookup = store.lookup)
    (hnames : other.names = store.names) (choice : TemplateChoice) (below : Option Template)
    (kind : TemplateKind) (subject : String) :
    choice.resolve below other kind subject = choice.resolve below store kind subject := by
  have hcontains (name : String) : other.contains kind name = store.contains kind name := by
    rw [contains, contains, hlookup]
  have hreport (name : String) :
      unknownTemplate other kind name subject = unknownTemplate store kind name subject := by
    rw [unknownTemplate, unknownTemplate, hnames]
  cases choice <;> simp only [TemplateChoice.resolve, hlookup, hcontains, hreport]

/-- A store as it is made, either without templates or with the bundled ones of a namespace. -/
def start : Option String → TemplateStore
  | none => empty
  | some space => withBundled space

def startTemplates : Option String → List Template
  | none => []
  | some space => Bundled.templates space

theorem foldl_start (space : Option String) (templates : List Template) :
    templates.foldl register (start space) =
      (startTemplates space ++ templates).foldl register empty := by
  rw [List.foldl_append]
  cases space <;> rfl

/-- After any run a store is a map by kind and name: a further template is found under its own key
and changes nothing else, the entries are as many as the keys, and the names of a kind are those
that are found, in the order of their bytes. Templates without a key in common leave a store that
shows the same in whatever order they come, down to the report of an unknown name. -/
theorem registered_by_key (space : Option String) (templates : List Template) :
    let store := templates.foldl register (start space)
    let keys := (startTemplates space ++ templates).map Template.key
    (∀ (template : Template) (kind : TemplateKind) (name : String),
      (store.exchange template).1 = store.lookup template.kind template.name ∧
      (store.exchange template).2.lookup kind name =
        if template.key = (kind, name) then some template else store.lookup kind name) ∧
    (∀ entry ∈ store.byKind, ∀ named ∈ entry.2, named.2.key = (entry.1, named.1)) ∧
    store.size = keys.dedup.length ∧
    (store.isEmpty = true ↔ store.size = 0) ∧
    (∀ kind, (store.names kind).Pairwise (fun a b => Text.bytes a < Text.bytes b) ∧
      ∀ name, name ∈ store.names kind ↔ store.contains kind name = true) ∧
    ∀ others : List Template, others.Perm templates → (templates.map Template.key).Nodup →
      let other := others.foldl register (start space)
      other.lookup = store.lookup ∧ other.names = store.names ∧ other.size = store.size ∧
      ∀ (choice : TemplateChoice) (below : Option Template) (kind : TemplateKind)
        (subject : String),
        choice.resolve below other kind subject = choice.resolve below store kind subject := by
  intro store keys
  have hkept (more : List Template) : (more.foldl register (start space)).Kept := by
    rw [foldl_start]
    exact kept_empty.foldl_register _
  have hsize (more : List Template) : (more.foldl register (start space)).size =
      ((startTemplates space ++ more).map Template.key).dedup.length := by
    rw [foldl_start, size_foldl_register]
  refine ⟨fun template kind name => ⟨previous_exchange store template,
      (lookup_register store template kind name).trans (if_congr isNamed_iff rfl rfl)⟩,
    fun entry hentry => ((hkept templates).named entry hentry).own, hsize templates,
    beq_iff_eq, fun kind => ⟨?_, fun name => mem_names_iff⟩, fun others hperm hkeys => ?_⟩
  · exact ((hkept templates).names_pairwise_lt kind).imp Text.bytes_lt_bytes
  · intro other
    have hlookup : other.lookup = store.lookup := by
      ext1 kind
      ext1 name
      exact lookup_foldl_register_of_perm hperm hkeys (start space) kind name
    have hnames : other.names = store.names := by
      ext1 kind
      exact (hkept templates).names_eq (hkept others) fun name => by rw [hlookup]
    refine ⟨hlookup, hnames, ?_, fun choice below kind subject =>
      resolve_congr hlookup hnames choice below kind subject⟩
    rw [hsize, hsize]
    exact ((hperm.append_left _).map _).dedup.length_eq

theorem registered_by_key_ore :
    let block : Template := ⟨"ore", .block, "", .builtin⟩
    let item : Template := ⟨"ore", .item, "", .builtin⟩
    let store := [block, item].foldl register (start none)
    let other := [item, block].foldl register (start none)
    (.block, [("ore", block)]) ∈ store.byKind ∧ block.key = (.block, "ore") ∧
      [item, block].Perm [block, item] ∧ ([block, item].map Template.key).Nodup ∧
      other ≠ store ∧ other.lookup = store.lookup ∧ other.size = 2 := by
  intro block item store other
  obtain ⟨-, hown, hsize, -, -, hsame⟩ := registered_by_key none [block, item]
  have hentry : (.block, [("ore", block)]) ∈ store.byKind := by decide
  have hperm : [item, block].Perm [block, item] := .swap block item []
  have hkeys : ([block, item].map Template.key).Nodup := by decide
  obtain ⟨hlookup, -, hlength, -⟩ := hsame [item, block] hperm hkeys
  exact ⟨hentry, hown _ hentry ("ore", block) (by decide), hperm, hkeys, by decide, hlookup,
    hlength.trans (hsize.trans (by decide))⟩

end TemplateStore

end Modforge
