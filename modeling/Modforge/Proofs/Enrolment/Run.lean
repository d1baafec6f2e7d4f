import Modforge.Proofs.Enrolment.Entries
import Modforge.Proofs.Inlined.Run
import Modforge.Proofs.Layout.Bundled

/-!
# No resource without a registration

The resources of a container and the statements of its registrar are made from the same entries.
So whatever is stored belongs to an entry that the registrar makes.
-/

namespace Modforge

section

variable (g : Generator) (tree : FileTree) (c : Container)

theorem enrolment_of_candidate {candidate : (String × String) × String}
    (h : candidate ∈ candidates g tree c) :
    ∃ e ∈ c.enrolments, candidate.1.1 ∈ e.registry.packages c.space ∧
      candidate.1.2 = e.id ++ ".json" := by
  have hkey := (keys_candidates g tree c).subset (List.mem_map_of_mem (f := Prod.fst) h)
  obtain ⟨e, he, hkeys⟩ := List.mem_flatMap.1 hkey
  obtain ⟨package, hpackage, hsame⟩ := List.mem_map.1 hkeys
  rw [← hsame]
  exact ⟨e, he, hpackage, rfl⟩

theorem enrolment_of_resource {registry : Registry} {package id contents : String}
    (hpackage : package ∈ registry.packages c.space)
    (h : Request.resource package (id ++ ".json") contents ∈
      (candidates g tree c).map Request.ofCandidate) :
    ∃ e ∈ c.enrolments, e.registry = registry ∧ e.id = id := by
  obtain ⟨candidate, hcandidate, hrequest⟩ := List.mem_map.1 h
  obtain ⟨rfl, hname, -⟩ := Request.resource.inj hrequest
  obtain ⟨e, he, hmem, hfile⟩ := enrolment_of_candidate g tree c hcandidate
  exact ⟨e, he, registry_eq_of_mem_packages hmem hpackage,
    (String.append_left_inj _).1 (hfile.symm.trans hname)⟩

theorem registrarCall?_eq_some_iff (call : Request × String) :
    registrarCall? g tree c = some call ↔
      g.statements c (g.resolve tree c).value ≠ [] ∧
        ∃ source, g.registrar.render c (g.statements c (g.resolve tree c).value) = .ok source ∧
          call = (.source source.package source.typeName source.contents, c.owner) := by
  rw [registrarCall?]
  split
  · next h => simp [h]
  · next h =>
    cases g.registrar.render c (g.statements c (g.resolve tree c).value) with
    | error flaw => simp [Except.toOption]
    | ok source => simp [Except.toOption, h, eq_comm]

end

section

variable {σ : Type} (g : Generator) (sink : Sink σ) (c : Container) (state : σ)

theorem mem_log_iff (h : Generator.nameReport? c = none) (request : Request) :
    request ∈ (g.generateOne sink.logged c (state, [])).2.2 ↔
      request ∈ (candidates g (sink.files state) c).map Request.ofCandidate ∨
        g.statements c (g.resolve (sink.files state) c).value ≠ [] ∧
          ∃ source, g.registrar.render c (g.statements c (g.resolve (sink.files state) c).value) =
              .ok source ∧
            request = .source source.package source.typeName source.contents := by
  rw [log_generateOne, requests_plan g _ c h, List.mem_append, Option.mem_toList,
    Option.map_eq_some_iff]
  refine or_congr_right ?_
  simp only [registrarCall?_eq_some_iff]
  constructor
  · rintro ⟨call, ⟨hsome, source, hsource, rfl⟩, rfl⟩
    exact ⟨hsome, source, hsource, rfl⟩
  · rintro ⟨hsome, source, hsource, rfl⟩
    exact ⟨_, ⟨hsome, source, hsource, rfl⟩, rfl⟩

theorem log_of_nameReport {d : Diagnostic} (h : Generator.nameReport? c = some d) :
    (g.generateOne sink.logged c (state, [])).2.2 = [] := by
  rw [log_generateOne, plan_of_nameReport g _ c h]
  rfl

theorem source_of_mem_log {package name contents : String}
    (h : .source package name contents ∈ (g.generateOne sink.logged c (state, [])).2.2) :
    g.registrar.render c (g.statements c (g.resolve (sink.files state) c).value) =
      .ok ⟨package, name, contents⟩ := by
  cases hname : Generator.nameReport? c with
  | some d =>
    rw [log_of_nameReport g sink c state hname] at h
    cases h
  | none =>
    rcases (mem_log_iff g sink c state hname _).1 h with hcandidate | ⟨-, source, hsource, hsame⟩
    · obtain ⟨candidate, -, hrequest⟩ := List.mem_map.1 hcandidate
      cases hrequest
    · obtain ⟨rfl, rfl, rfl⟩ := Request.source.inj hsame
      exact hsource

theorem resource_of_mem_log {package name contents : String}
    (h : .resource package name contents ∈ (g.generateOne sink.logged c (state, [])).2.2) :
    Generator.nameReport? c = none ∧ Request.resource package name contents ∈
      (candidates g (sink.files state) c).map Request.ofCandidate := by
  cases hname : Generator.nameReport? c with
  | some d =>
    rw [log_of_nameReport g sink c state hname] at h
    cases h
  | none =>
    rcases (mem_log_iff g sink c state hname _).1 h with hcandidate | ⟨-, _, -, hsame⟩
    · exact ⟨rfl, hcandidate⟩
    · cases hsame

end

/-- No resource is an orphan. Every resource that is asked for lies in a package of a registry,
and belongs to an entry of that registry for which there is a statement. The registrar is
rendered from just the statements for all entries; the bundled layout gives each a line. -/
theorem generateOne_enrolled {σ : Type} (g : Generator) (sink : Sink σ) (c : Container)
    (state : σ) :
    let log := (g.generateOne sink.logged c (state, [])).2.2
    let callbacks := c.members.value.callbacks
    let statements := g.statements c (g.resolve (sink.files state) c).value
    let statement := Enrolment.statement g.settings.types c callbacks
    statements = c.enrolments.map statement ++ c.lastCall callbacks ∧
    (∀ package name contents, .source package name contents ∈ log →
      g.registrar.render c statements = .ok ⟨package, name, contents⟩) ∧
    (∀ package name contents, .resource package name contents ∈ log →
      ∃ (registry : Registry) (id : String), package ∈ registry.packages c.space ∧
        name = id ++ ".json") ∧
    ∀ (registry : Registry) (package id contents : String), package ∈ registry.packages c.space →
      .resource package (id ++ ".json") contents ∈ log →
      ∃ e ∈ c.enrolments, e.registry = registry ∧ e.id = id ∧ statement e ∈ statements ∧
        ∀ source, g.registrar.render c statements = .ok source →
          .source source.package source.typeName source.contents ∈ log ∧
          (Layout.parse Bundled.registrarLayout = .ok g.registrar.layout →
            ∃ before after,
              source.contents = before ++ "\t\t" ++ statement e ++ ";\n" ++ after) := by
  intro log callbacks statements statement
  have hstatements : statements = c.enrolments.map statement ++ c.lastCall callbacks :=
    statements_resolve g (sink.files state) c
  refine ⟨hstatements, ?_, ?_, ?_⟩
  · intro package name contents hmem
    exact source_of_mem_log g sink c state hmem
  · intro package name contents hmem
    obtain ⟨-, hcandidates⟩ := resource_of_mem_log g sink c state hmem
    obtain ⟨candidate, hcandidate, hrequest⟩ := List.mem_map.1 hcandidates
    obtain ⟨rfl, rfl, -⟩ := Request.resource.inj hrequest
    obtain ⟨e, -, hpackage, hname⟩ := enrolment_of_candidate g _ c hcandidate
    exact ⟨e.registry, e.id, hpackage, hname⟩
  · intro registry package id contents hpackage hmem
    obtain ⟨hnames, hcandidates⟩ := resource_of_mem_log g sink c state hmem
    obtain ⟨e, he, hregistry, hid⟩ := enrolment_of_resource g _ c hpackage hcandidates
    have hstatement : statement e ∈ statements := by
      rw [hstatements]
      exact List.mem_append_left _ (List.mem_map_of_mem he)
    refine ⟨e, he, hregistry, hid, hstatement, fun source hsource => ⟨?_, fun hbundled => ?_⟩⟩
    · exact (mem_log_iff g sink c state hnames _).2
        (.inr ⟨List.ne_nil_of_mem hstatement, source, hsource, rfl⟩)
    · have htext : g.registrar.render c statements =
          .ok ⟨c.package, g.registrar.typeName c, g.registrar.bundledText c statements⟩ :=
        render_bundled g.registrar c statements hbundled
      obtain rfl := Except.ok.inj (htext.symm.trans hsource)
      exact line_of_mem g.registrar c statements hstatement

theorem generateOne_enrolled_oreAndGem :
    ∃ g : Generator, Layout.parse Bundled.registrarLayout = .ok g.registrar.layout ∧
      "assets.m.models.item" ∈ Registry.item.packages oreAndGem.space ∧
      let log := (g.generateOne (Memory.sink oreFiles).logged oreAndGem (.empty, [])).2.2
      .resource "assets.m.models.item" ("gem" ++ ".json") "[gem of dust]" ∈ log ∧
      ∃ e ∈ oreAndGem.enrolments, e.registry = .item ∧ e.id = "gem" ∧
        ∃ before after, .source oreAndGem.package (g.registrar.typeName oreAndGem)
          (before ++ "\t\t" ++ e.statement g.settings.types oreAndGem .none ++ ";\n" ++ after) ∈
            log := by
  obtain ⟨layout, hlayout⟩ := exists_parse_registrarLayout
  have hcandidates : candidates ⟨uncheckedGenerator.settings, ⟨layout, "Registrar"⟩⟩ oreFiles
      oreAndGem = candidates uncheckedGenerator oreFiles oreAndGem := rfl
  obtain ⟨g, hg, hsame⟩ : ∃ g : Generator,
      Layout.parse Bundled.registrarLayout = .ok g.registrar.layout ∧
        candidates g oreFiles oreAndGem = candidates uncheckedGenerator oreFiles oreAndGem :=
    ⟨_, hlayout, hcandidates⟩
  have hname : Generator.nameReport? oreAndGem = none := by decide
  have hpackage : "assets.m.models.item" ∈ Registry.item.packages oreAndGem.space := by decide
  have hcandidate : Request.resource "assets.m.models.item" ("gem" ++ ".json") "[gem of dust]" ∈
      (candidates g oreFiles oreAndGem).map Request.ofCandidate := by
    rw [hsame]
    decide +kernel
  have hasked := (mem_log_iff g (Memory.sink oreFiles) oreAndGem .empty hname _).2
    (.inl hcandidate)
  obtain ⟨-, -, -, henrolled⟩ := generateOne_enrolled g (Memory.sink oreFiles) oreAndGem .empty
  obtain ⟨e, he, hregistry, hid, -, hsource⟩ := henrolled .item _ "gem" _ hpackage hasked
  have hrender := render_bundled g.registrar oreAndGem
    (g.statements oreAndGem (g.resolve oreFiles oreAndGem).value) hg
  obtain ⟨hmem, hline⟩ := hsource _ hrender
  obtain ⟨before, after, hcontents⟩ := hline hg
  have hcallbacks : oreAndGem.members.value.callbacks = .none := by decide +kernel
  rw [hcontents, hcallbacks] at hmem
  exact ⟨g, hg, hpackage, hasked, e, he, hregistry, hid, before, after, hmem⟩

end Modforge
