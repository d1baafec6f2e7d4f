import Modforge.Proofs.Mirrored.Step

/-! # A run into folders is a run into memory -/

namespace Modforge

open Modforge.Path

/-! ## What is asked for -/

theorem isProper_of_mem (g : Generator) (tree : FileTree) {c : Container}
    (hslash : '/' ∉ g.registrar.suffix.toList) (hnul : NoNul g.registrar.suffix)
    (hids : c.HasPlainIds) {request : Request}
    (h : request ∈ requests (g.plan tree c).steps) :
    IsProper g.registrar.suffix request.entry.1 := by
  obtain ⟨hname, hask⟩ := mayAsk_of_mem g tree c h
  obtain ⟨hspace, howner⟩ := (nameReport?_eq_none_iff c).1 hname
  cases hask with
  | resource text hid => exact .resource hspace (hids _ hid)
  | registrar text => exact .source howner hslash hnul

section

variable {disk : Disk} {suffix : String} {start tree : FileTree} {memory : Memory}

/-! ## Steps -/

theorem mirrors_carryOut (hready : disk.IsReady start) (h : Mirrors disk suffix start tree memory)
    {steps : List Step} (hproper : ∀ request ∈ requests steps, IsProper suffix request.entry.1) :
    let onDisk := carryOut disk.sink steps tree
    let inMemory := carryOut (Memory.sink start) steps memory
    onDisk.1 = inMemory.1 ∧ Mirrors disk suffix start onDisk.2 inMemory.2 := by
  induction steps generalizing tree memory with
  | nil => exact ⟨rfl, h⟩
  | cons step rest ih =>
    cases step with
    | report d =>
      obtain ⟨hreport, hrest⟩ := ih h hproper
      exact ⟨congrArg (Report.ofDiagnostic d ++ ·) hreport, hrest⟩
    | store request subject =>
      obtain ⟨hrequest, hproper⟩ := List.forall_mem_cons.1
        (show ∀ r ∈ request :: requests rest, IsProper suffix r.entry.1 from hproper)
      obtain ⟨after, hstore, hafter⟩ := mirrors_store hready h hrequest
      obtain ⟨hreport, hrest⟩ := ih hafter hproper
      have hstep : (Step.store request subject).carryOut disk.sink tree =
          (.ofStored request, after) := by
        simp only [Step.carryOut, hstore]
      simp only [carryOut, hstep]
      exact ⟨congrArg (Report.ofStored request ++ ·) hreport, hrest⟩

namespace Mirrors

/-! ## Files -/

theorem sameTemplates (h : Mirrors disk suffix start tree memory) (hlimits : start.limits = none)
    {g : Generator} {c : Container} (hspares : ∀ source ∈ c.templates,
      disk.Spares start (Template.fileUnder g.templateRoot source.file)) :
    SameTemplates g c tree start := by
  refine fun source hsource => FileTree.read_congr h.home (h.limits.trans hlimits.symm) ?_
  intro place hplace
  have hspare := hspares source hsource place hplace
  rcases h.outside place fun isResource => (hspare isResource).1 with
    heq | ⟨hnone, ⟨isResource, hway⟩, -⟩
  · exact heq
  · have hthere := (hspare isResource).2 hway
    rw [hnone] at hthere
    cases hthere

theorem resource_iff (h : Mirrors disk suffix start tree memory) {place : Location}
    (hplace : Inside (Path.place start.home disk.resourceRoot) place) (contents : Contents) :
    tree.node? place = some (.file contents) ↔
      ∃ package name text, memory.resources.get? package name = some text ∧
        contents = .text text ∧
        place = Path.place start.home disk.resourceRoot ++
          (Naming.packageParts package ++ Text.split '/' name) := by
  rw [h.files true place contents hplace]
  constructor
  · rintro ⟨⟨_, package, name⟩, text, rfl, htext, hcontents, heq⟩
    exact ⟨package, name, text, htext, hcontents, heq⟩
  · rintro ⟨package, name, text, htext, hcontents, heq⟩
    exact ⟨(true, package, name), text, rfl, htext, hcontents, heq⟩

theorem source_iff (h : Mirrors disk suffix start tree memory) {place : Location}
    (hplace : Inside (Path.place start.home disk.sourceRoot) place) (contents : Contents) :
    tree.node? place = some (.file contents) ↔
      ∃ package name text, memory.sources.get? package name = some text ∧
        contents = .text text ∧
        place = Path.place start.home disk.sourceRoot ++
          (Naming.packageParts package ++ [name ++ ".java"]) := by
  have hnames {package name text : String} (htext : memory.sources.get? package name = some text) :
      names (false, package, name) = Naming.packageParts package ++ [name ++ ".java"] := by
    cases h.proper (false, package, name) text htext with
    | source howner hslash hnul =>
      rw [names, fileName, (isFileName_typeName howner hslash hnul).split]
  rw [h.files false place contents hplace]
  constructor
  · rintro ⟨⟨_, package, name⟩, text, rfl, htext, hcontents, heq⟩
    exact ⟨package, name, text, htext, hcontents, hnames htext ▸ heq⟩
  · rintro ⟨package, name, text, htext, hcontents, heq⟩
    exact ⟨(false, package, name), text, rfl, htext, hcontents, (hnames htext).symm ▸ heq⟩

theorem elsewhere_iff (h : Mirrors disk suffix start tree memory) {place : Location}
    (hplace : ∀ isResource, ¬ Inside (disk.rootPlace start.home isResource) place)
    (contents : Contents) :
    tree.node? place = some (.file contents) ↔ start.node? place = some (.file contents) := by
  rcases h.outside place hplace with heq | ⟨hnone, -, hfolder⟩
  · rw [heq]
  · simp [hnone, hfolder]

end Mirrors

end

/-! ## Runs -/

theorem mirrors_generate (g : Generator) {cs : List Container} {disk : Disk} {tree : FileTree}
    (hslash : '/' ∉ g.registrar.suffix.toList) (hnul : NoNul g.registrar.suffix)
    (hids : ∀ c ∈ cs, c.HasPlainIds)
    (hlimits : tree.limits = none) (hformed : tree.WellFormed) (hready : disk.IsReady tree)
    (hspares : ∀ c ∈ cs, ∀ source ∈ c.templates,
      disk.Spares tree (Template.fileUnder g.templateRoot source.file)) :
    let onDisk := g.generate disk.sink cs tree
    let inMemory := g.generate (Memory.sink tree) cs .empty
    onDisk.1 = inMemory.1 ∧ Mirrors disk g.registrar.suffix tree onDisk.2 inMemory.2 := by
  have hstart : Mirrors disk g.registrar.suffix tree tree .empty :=
    mirrors_start hready hlimits hformed
  have hproper : ∀ c ∈ cs, ∀ request ∈ requests (g.plan tree c).steps,
      IsProper g.registrar.suffix request.entry.1 :=
    fun c hc request => isProper_of_mem g tree hslash hnul (hids c hc)
  have hkeep (now : FileTree) (request : Request)
      (h : ∃ memory, Mirrors disk g.registrar.suffix tree now memory)
      (hrequest : IsProper g.registrar.suffix request.entry.1) :
      ∃ memory, Mirrors disk g.registrar.suffix tree (disk.sink.store request now).2 memory := by
    obtain ⟨memory, hnow⟩ := h
    obtain ⟨after, hstore, hafter⟩ := mirrors_store hready hnow hrequest
    rw [hstore]
    exact ⟨_, hafter⟩
  -- whatever was stored so far, the templates read as at the start
  have hdisk := generate_eq_carryOut g disk.sink tree
    (fun now => ∃ memory, Mirrors disk g.registrar.suffix tree now memory)
    (fun request => IsProper g.registrar.suffix request.entry.1)
    (fun now ⟨memory, h⟩ c hc => h.sameTemplates hlimits (hspares c hc)) hproper hkeep ⟨_, hstart⟩
  have hmemory := generate_of_keepsTemplates g (keepsTemplates_memory g tree cs) .empty
  have hsteps : ∀ request ∈ requests (g.steps tree cs),
      IsProper g.registrar.suffix request.entry.1 := by
    rw [requests_steps_eq_flatMap]
    intro request hrequest
    obtain ⟨c, hc, hrequest⟩ := List.mem_flatMap.1 hrequest
    exact hproper c hc request hrequest
  obtain ⟨hreport, hmirrors⟩ := mirrors_carryOut hready hstart hsteps
  rw [hdisk, hmemory]
  exact ⟨congrArg (Report.counting · (cs.map (g.plan tree))) hreport, hmirrors⟩

def oresWith (file : String) : Container :=
  { twoOres with templates := [⟨"basic", file, .block⟩] }

theorem hasPlainIds_oresWith (file : String) : (oresWith file).HasPlainIds := by
  rintro id ⟨field, hfield, hid⟩
  obtain rfl : "ore" = id := by
    simp only [oresWith, twoOres, List.mem_cons, List.not_mem_nil, or_false] at hfield
    rcases hfield with rfl | rfl <;> simpa [Field.ofBlock, Field.plain, BlockSettings.inheriting] using hid
  decide

def filesWith (folders : List Location) : FileTree :=
  ⟨["w"], oreFiles.nodes ++ folders.map (·, .folder), none⟩

def terseGenerator : Generator := { uncheckedGenerator with registrar := ⟨⟨[], 0⟩, "R"⟩ }

def statedOre (file : String) : Container :=
  { Container.empty "Ore" "m" with
    templates := [⟨"own", file, .blockState⟩]
    fields := [.ofBlock "TIN" { BlockSettings.inheriting "tin" with blockState := .named "own" }] }

theorem hasPlainIds_statedOre (file : String) : (statedOre file).HasPlainIds := by
  rintro id ⟨field, hfield, hid⟩
  obtain rfl : "tin" = id := by
    obtain rfl := List.mem_singleton.1 hfield
    simpa [Field.ofBlock, Field.plain, BlockSettings.inheriting] using hid
  decide

def templateAnd (folders : List String) : FileTree :=
  ⟨[], (["t"], .file (.text "")) :: folders.map fun name => ([name], .folder), none⟩

/-- The roots are vacant and hold no template, but the reports of the two runs differ. -/
def DiffersOnDisk (disk : Disk) (tree : FileTree) (files : List String) : Prop :=
  let cs := files.map statedOre
  (∀ ch ∈ terseGenerator.registrar.suffix.toList, Naming.isIdentifierChar ch = true) ∧
    (∀ c ∈ cs, c.HasPlainIds) ∧ tree.limits = none ∧ tree.WellFormed ∧ disk.IsVacant tree ∧
    (∀ c ∈ cs, ∀ source ∈ c.templates, ∀ isResource,
      ¬ Inside (disk.rootPlace tree.home isResource)
        (place tree.home (Template.fileUnder terseGenerator.templateRoot source.file))) ∧
    (terseGenerator.generate disk.sink cs tree).1 ≠
      (terseGenerator.generate (Memory.sink tree) cs .empty).1

theorem differsOnDisk_of {disk : Disk} {tree : FileTree} {files : List String}
    (h : tree.limits = none ∧ tree.WellFormed ∧ disk.IsVacant tree ∧
      (∀ c ∈ files.map statedOre, ∀ source ∈ c.templates, ∀ isResource,
        ¬ Inside (disk.rootPlace tree.home isResource)
          (place tree.home (Template.fileUnder terseGenerator.templateRoot source.file))) ∧
      (terseGenerator.generate disk.sink (files.map statedOre) tree).1.isSuccess ≠
        (terseGenerator.generate (Memory.sink tree) (files.map statedOre) .empty).1.isSuccess) :
    DiffersOnDisk disk tree files := by
  obtain ⟨hlimits, hformed, hvacant, htemplates, hsuccess⟩ := h
  have hids : ∀ c ∈ files.map statedOre, c.HasPlainIds := by
    simpa using fun file _ => hasPlainIds_statedOre file
  exact ⟨List.all_eq_true.1 (by decide), hids, hlimits, hformed, hvacant, htemplates,
    fun hreport => hsuccess (congrArg Report.isSuccess hreport)⟩

end Modforge
