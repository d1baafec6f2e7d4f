import Modforge.Proofs.Preceded
import Modforge.Proofs.Store.Keys
import Modforge.Template.Catalog

/-! # How a store is filled -/

namespace Modforge

open TemplateStore (isNamed)

section

variable (g : Generator) (tree : FileTree) (c : Container)

def loaded (source : TemplateSource) : Except FileFault Template :=
  Template.load tree g.templateRoot source.name source.kind source.file c.space

def isRead (source : TemplateSource) : Bool := (loaded g tree c source).isOk

def readTemplates (declared : List TemplateSource) : List Template :=
  declared.filterMap fun source => (loaded g tree c source).toOption

def declaredAs (kind : TemplateKind) (name : String) (declared : List TemplateSource) :
    List TemplateSource :=
  declared.filter fun source => source.kind == kind && source.name == name

/-- What goes by a kind and a name after some declarations: the last one of them that can be read,
or else the bundled template. -/
def templateAfter (declared : List TemplateSource) (kind : TemplateKind) (name : String) :
    Option Template :=
  (readTemplates g tree c (declaredAs kind name declared)).getLast?.or
    ((Bundled.templates c.space).find? (isNamed kind name))

/-- What is said of a declaration that comes after some others. -/
def remark? (before : List TemplateSource) (source : TemplateSource) : Option Diagnostic :=
  match loaded g tree c source with
  | .error fault =>
    some
      { severity := .error
        concern := .io
        subject := some c.owner
        message := "cannot read " ++ source.kind.name ++ " template '" ++ source.name ++
          "' from " ++ Template.fileUnder g.templateRoot source.file ++ ": " ++ fault.message }
  | .ok _ =>
    (templateAfter g tree c before source.kind source.name).map fun present =>
      { severity := .warning
        concern := .configuration
        subject := some c.owner
        message := source.kind.name ++ " template '" ++ source.name ++
          if present.origin = .builtin then "' replaces the built-in"
          else "' is declared more than once; the last one wins" }

/-! ## What is found -/

variable {g tree c}

theorem eq_make_of_loaded {source : TemplateSource} {template : Template}
    (h : loaded g tree c source = .ok template) :
    ∃ body, template = .make source.name source.kind body c.space
      (.file (Template.fileUnder g.templateRoot source.file)) := by
  simp only [loaded, Template.load] at h
  cases hread : tree.read (Template.fileUnder g.templateRoot source.file) with
  | error fault => rw [hread] at h; cases h
  | ok body => rw [hread] at h; cases h; exact ⟨body, rfl⟩

theorem key_of_loaded {source : TemplateSource} {template : Template}
    (h : loaded g tree c source = .ok template) :
    template.kind = source.kind ∧ template.name = source.name := by
  obtain ⟨body, rfl⟩ := eq_make_of_loaded h
  exact ⟨rfl, rfl⟩

variable (g tree c)

theorem nodup_keys_bundled (space : String) :
    ((Bundled.templates space).map Template.key).Nodup := by
  have hkeys : (Bundled.templates space).map Template.key =
      [(.block, "basic"), (.blockState, "basic"), (.item, "basic"), (.item, "block"),
        (.loot, "drop_other"), (.loot, "drop_self"), (.loot, "drop_self_silk")] := rfl
  rw [hkeys]
  decide

theorem filter_readTemplates (declared : List TemplateSource) (kind : TemplateKind)
    (name : String) :
    (readTemplates g tree c declared).filter (isNamed kind name) =
      readTemplates g tree c (declaredAs kind name declared) := by
  rw [readTemplates, readTemplates, declaredAs, List.filter_filterMap, List.filterMap_filter]
  refine List.filterMap_congr fun source _ => ?_
  cases hloaded : loaded g tree c source with
  | error fault => simp [Except.toOption]
  | ok template =>
    simp [Except.toOption, Option.filter, isNamed, key_of_loaded hloaded]

theorem lookup_after (declared : List TemplateSource) (kind : TemplateKind) (name : String) :
    (g.store tree { c with templates := declared }).value.lookup kind name =
      templateAfter g tree c declared kind name := by
  have hbundled := TemplateStore.find?_isNamed_of_perm
    (List.reverse_perm (Bundled.templates c.space)) (nodup_keys_bundled c.space) kind name
  rw [lookup_store, templateNamed, Container.templatesIn, List.reverse_append, List.find?_append,
    templateAfter, ← filter_readTemplates,
    List.getLast?_filter, ← hbundled]
  rfl

/-! ## What is reported -/

theorem reports_addTemplate {store : TemplateStore} {before : List TemplateSource}
    {source : TemplateSource}
    (h : store.lookup source.kind source.name =
      templateAfter g tree c before source.kind source.name) :
    (g.addTemplate tree c store source).reports = (remark? g tree c before source).toList := by
  unfold Generator.addTemplate remark?
  rw [← loaded]
  cases hloaded : loaded g tree c source with
  | error fault => rfl
  | ok template =>
    obtain ⟨hkind, hname⟩ := key_of_loaded hloaded
    have hprevious := store.previous_exchange template
    rw [hkind, hname, h] at hprevious
    simp only [hprevious]
    cases templateAfter g tree c before source.kind source.name with
    | none => rfl
    | some present =>
      simp [Generator.replacement, Diagnostic.caution, Template.isBuiltin]

theorem reports_after (declared : List TemplateSource) :
    (g.store tree { c with templates := declared }).reports =
      (preceded declared).filterMap fun (before, source) => remark? g tree c before source := by
  induction declared using List.reverseRecOn with
  | nil => rfl
  | append_singleton before source ih =>
    -- the store of the declarations before is the one that the step comes upon
    have hfound := lookup_after g tree c before source.kind source.name
    have hstep := reports_addTemplate g tree c hfound
    rw [preceded_concat, List.filterMap_append, ← ih]
    refine (Reported.reports_foldlM_concat ..).trans (congrArg _ (hstep.trans ?_))
    simp only [List.filterMap_cons, List.filterMap_nil]
    cases remark? g tree c before source <;> rfl

/-! ## Filled stores -/

theorem any_isRead (declared : List TemplateSource) :
    declared.any (isRead g tree c) = (readTemplates g tree c declared).getLast?.isSome := by
  rw [readTemplates, List.getLast?_filterMap, List.isSome_findSome?, List.any_reverse]
  refine congrArg declared.any (funext fun source => ?_)
  unfold isRead
  cases loaded g tree c source <;> rfl

theorem isBuiltin_of_mem_bundled {space : String} {template : Template}
    (h : template ∈ Bundled.templates space) : template.isBuiltin = true := by
  obtain ⟨_, -, rfl⟩ := List.mem_map.1 h
  rfl

theorem isBuiltin_after (declared : List TemplateSource) (kind : TemplateKind) (name : String) :
    (templateAfter g tree c declared kind name).any Template.isBuiltin =
      ((Bundled.templates c.space).any (isNamed kind name) &&
        !(declaredAs kind name declared).any (isRead g tree c)) := by
  rw [templateAfter, any_isRead, ← List.isSome_find?]
  cases hown : (readTemplates g tree c (declaredAs kind name declared)).getLast? with
  | some template =>
    obtain ⟨source, -, hsource⟩ := List.mem_filterMap.1 (List.mem_of_getLast? hown)
    cases hloaded : loaded g tree c source <;> rw [hloaded] at hsource <;> cases hsource
    obtain ⟨body, rfl⟩ := eq_make_of_loaded hloaded
    simp [Template.isBuiltin, Template.make]
  | none =>
    cases hbundled : (Bundled.templates c.space).find? (isNamed kind name) with
    | none => rfl
    | some template => simp [isBuiltin_of_mem_bundled (List.mem_of_find?_eq_some hbundled)]

theorem readTemplates_filter (declared : List TemplateSource) :
    readTemplates g tree c (declared.filter (isRead g tree c)) =
      readTemplates g tree c declared := by
  rw [readTemplates, List.filterMap_filter]
  refine List.filterMap_congr fun source _ => ?_
  unfold isRead
  cases loaded g tree c source <;> rfl

theorem value_store_isRead :
    (g.store tree { c with templates := c.templates.filter (isRead g tree c) }).value =
      (g.store tree c).value := by
  rw [value_store, value_store]
  exact congrArg (fun own => (Bundled.templates c.space ++ own).foldl TemplateStore.register _)
    (readTemplates_filter g tree c c.templates)

/-- A container always gets a store. In it the last declaration of a kind and name that can be read
goes by them, or else the bundled template. Each declaration that cannot be read is reported and
changes nothing. Each other one that comes upon a template of its kind and name is reported too, by
whether that template is bundled, which it is until a declaration of this kind and name is read. -/
theorem store_filled :
    Bundled.load c.space = .ok (Bundled.templates c.space) ∧
    (∀ kind name,
      (g.store tree c).value.lookup kind name = templateAfter g tree c c.templates kind name) ∧
    (g.store tree c).reports =
      (preceded c.templates).filterMap (fun (before, source) => remark? g tree c before source) ∧
    (g.store tree { c with templates := c.templates.filter (isRead g tree c) }).value =
      (g.store tree c).value ∧
    ∀ declared kind name,
      (templateAfter g tree c declared kind name).any Template.isBuiltin =
        ((Bundled.templates c.space).any (isNamed kind name) &&
          !(declaredAs kind name declared).any (isRead g tree c)) :=
  ⟨Bundled.load_eq_ok c.space, lookup_after g tree c c.templates,
    reports_after g tree c c.templates, value_store_isRead g tree c, isBuiltin_after g tree c⟩

end

end Modforge
