import Mathlib.Data.List.Nodup
import Modforge.Proofs.Candidate.Calls
import Modforge.Proofs.Confined
import Modforge.Proofs.Steady

/-!
# Containers stand apart

What a run asks for and reports is what its containers ask for and report alone. Containers of
different names write under different keys, so in memory their order does not matter.
-/

namespace Modforge

/-! ## Names -/

theorem eq_of_checkQualified {name : String} (h : Naming.checkQualified name = .ok ()) :
    name = if Naming.packageOf name = "" then Naming.simpleName name
      else Naming.packageOf name ++ "." ++ Naming.simpleName name := by
  obtain ⟨-, hname | ⟨hpackage, hname⟩⟩ := Naming.parts_of_name name
  · have hne : Naming.packageOf name ≠ "" := by
      intro hpackage
      rw [hpackage] at hname
      rw [Naming.checkQualified_eq_ok_iff, Text.split, hname] at h
      simp [Text.splitChars, Naming.isIdentifier, Naming.isIdentifierShape] at h
    rwa [if_neg hne]
  · rwa [if_pos hpackage]

theorem eq_of_package_of_simpleName {name name' : String}
    (h : Naming.checkQualified name = .ok ()) (h' : Naming.checkQualified name' = .ok ())
    (hpackage : Naming.packageOf name = Naming.packageOf name')
    (hsimple : Naming.simpleName name = Naming.simpleName name') : name = name' := by
  rw [eq_of_checkQualified h, eq_of_checkQualified h', hpackage, hsimple]

theorem space_eq_of_package {category category' : Category} {space space' : String}
    (h : Naming.checkNamespace space = .ok ()) (h' : Naming.checkNamespace space' = .ok ())
    (hpackage : category.package space = category'.package space') : space = space' := by
  have hsecond (category : Category) (space : String) :
      (category.folders space)[1]? = some space := by
    cases category <;> rfl
  have hfolders : category.folders space = category'.folders space' := by
    rw [← packageParts_package category h, hpackage, packageParts_package category' h']
  have hspace := hsecond category space
  rw [hfolders, hsecond category' space'] at hspace
  exact (Option.some.inj hspace).symm

/-! ## Keys -/

section

variable (g : Generator) (tree : FileTree) {c d : Container}

theorem same_of_mayAsk {request request' : Request}
    (hc : Generator.nameReport? c = none) (hd : Generator.nameReport? d = none)
    (h : MayAsk g c request) (h' : MayAsk g d request')
    (hkey : request.entry.1 = request'.entry.1) : c.space = d.space ∨ c.owner = d.owner := by
  obtain ⟨hspace, howner⟩ := (nameReport?_eq_none_iff c).1 hc
  obtain ⟨hspace', howner'⟩ := (nameReport?_eq_none_iff d).1 hd
  cases h with
  | resource text hid =>
    cases h' with
    | resource text' hid' =>
      obtain ⟨-, hpackage, -⟩ : _ ∧ _ ∧ _ := by simpa only [Request.entry, Prod.mk.injEq] using hkey
      exact .inl (space_eq_of_package hspace hspace' hpackage)
    | registrar text' => cases congrArg Prod.fst hkey
  | registrar text =>
    cases h' with
    | resource text' hid' => cases congrArg Prod.fst hkey
    | registrar text' =>
      obtain ⟨-, hpackage, hname⟩ : _ ∧ _ ∧ _ := by
        simpa only [Request.entry, Prod.mk.injEq] using hkey
      have hsimple : c.simpleName = d.simpleName := (String.append_left_inj _).1 hname
      exact .inr (eq_of_package_of_simpleName howner howner' hpackage hsimple)

def entries (c : Container) : List ((Bool × String × String) × String) :=
  (requests (g.plan tree c).steps).map Request.entry

theorem eq_of_mem_keys {cs : List Container} (hspaces : (cs.map (·.space)).Nodup)
    (howners : (cs.map (·.owner)).Nodup) (hc : c ∈ cs) (hd : d ∈ cs)
    {key : Bool × String × String} (hkey : key ∈ (entries g tree c).map Prod.fst)
    (hkey' : key ∈ (entries g tree d).map Prod.fst) : c = d := by
  simp only [entries, List.map_map, List.mem_map, Function.comp_apply] at hkey hkey'
  obtain ⟨request, hrequest, rfl⟩ := hkey
  obtain ⟨request', hrequest', hsame⟩ := hkey'
  obtain ⟨hcname, hask⟩ := mayAsk_of_mem g tree c hrequest
  obtain ⟨hdname, hask'⟩ := mayAsk_of_mem g tree d hrequest'
  rcases same_of_mayAsk g hcname hdname hask hask' hsame.symm with h | h
  · exact List.inj_on_of_nodup_map hspaces hc hd h
  · exact List.inj_on_of_nodup_map howners hc hd h

end

/-! ## Memory -/

theorem lookup_reverse_flatMap {ι κ α : Type} [BEq κ] [LawfulBEq κ] (f : ι → List (κ × α))
    (key : κ) {items : List ι}
    (h : ∀ i ∈ items, ∀ j ∈ items, key ∈ (f i).map Prod.fst → key ∈ (f j).map Prod.fst → i = j)
    (value : α) :
    (items.flatMap f).reverse.lookup key = some value ↔
      ∃ i ∈ items, (f i).reverse.lookup key = some value := by
  have hmem {i : ι} {v : α} (hv : (f i).reverse.lookup key = some v) :
      key ∈ (f i).map Prod.fst := by
    obtain ⟨before, after, hlist, -⟩ := List.lookup_eq_some_iff.1 hv
    rw [← List.mem_reverse, ← List.map_reverse, hlist]
    simp
  induction items generalizing value with
  | nil => simp
  | cons i rest ih =>
    have hrest := ih fun j hj k hk => h j (List.mem_cons_of_mem i hj) k (List.mem_cons_of_mem i hk)
    rw [List.flatMap_cons, List.reverse_append, List.lookup_append, Option.or_eq_some_iff,
      List.exists_mem_cons_iff]
    constructor
    · rintro (hlater | ⟨-, hown⟩)
      · exact .inr ((hrest value).1 hlater)
      · exact .inl hown
    · rintro (hown | hlater)
      · cases hlook : (rest.flatMap f).reverse.lookup key with
        | none => exact .inr ⟨rfl, hown⟩
        | some other =>
          -- a later list that has the key is this one again
          obtain ⟨j, hj, hother⟩ := (hrest other).1 hlook
          obtain rfl := h i List.mem_cons_self j (List.mem_cons_of_mem i hj) (hmem hown)
            (hmem hother)
          exact .inl (hother.symm.trans hown)
      · exact .inl ((hrest value).2 hlater)

section

variable (g : Generator) (tree : FileTree)

theorem keepsTemplates_memory (cs : List Container) :
    (Memory.sink tree).KeepsTemplates g cs := fun _ _ _ _ _ _ => rfl

theorem requests_steps_eq_flatMap (cs : List Container) :
    requests (g.steps tree cs) = cs.flatMap fun c => requests (g.plan tree c).steps := by
  simp only [requests_eq_map_stores, Generator.steps, stores_flatMap, List.map_flatMap]

theorem accepts_memory : (Memory.sink tree).Accepts := fun _ _ => rfl

theorem text?_generate (cs : List Container) (key : Bool × String × String) :
    (g.generate (Memory.sink tree) cs .empty).2.text? key =
      (cs.flatMap (entries g tree)).reverse.lookup key := by
  have hempty : Memory.empty.text? key = none := by
    obtain ⟨_ | _, package, name⟩ := key <;> rfl
  have hentries : (requests (g.steps tree cs)).map Request.entry =
      cs.flatMap (entries g tree) := by
    rw [requests_steps_eq_flatMap, List.map_flatMap]
    rfl
  rw [generate_of_keepsTemplates g (keepsTemplates_memory g tree cs), ← hentries,
    text?_carryOut, hempty, Option.or_none]
  rfl

theorem text?_generate_iff {cs : List Container} (hspaces : (cs.map (·.space)).Nodup)
    (howners : (cs.map (·.owner)).Nodup) (key : Bool × String × String) (text : String) :
    (g.generate (Memory.sink tree) cs .empty).2.text? key = some text ↔
      ∃ c ∈ cs, (g.generate (Memory.sink tree) [c] .empty).2.text? key = some text := by
  simp only [text?_generate, List.flatMap_singleton]
  exact lookup_reverse_flatMap (entries g tree) key
    (fun c hc d hd => eq_of_mem_keys g tree hspaces howners hc hd) text

theorem text?_generate_perm {cs cs' : List Container} (h : cs.Perm cs')
    (hspaces : (cs.map (·.space)).Nodup) (howners : (cs.map (·.owner)).Nodup)
    (key : Bool × String × String) :
    (g.generate (Memory.sink tree) cs .empty).2.text? key =
      (g.generate (Memory.sink tree) cs' .empty).2.text? key := by
  have hspaces' := (h.map (·.space)).nodup_iff.1 hspaces
  have howners' := (h.map (·.owner)).nodup_iff.1 howners
  apply Option.ext
  intro text
  rw [text?_generate_iff g tree hspaces howners, text?_generate_iff g tree hspaces' howners']
  simp only [h.mem_iff]

end

/-! ## Reports -/

/-- Several reports as one: the sums of their counters, and all diagnostics in order. -/
def Report.concat (reports : List Report) : Report :=
  { containers := (reports.map (·.containers)).sum
    blocks := (reports.map (·.blocks)).sum
    items := (reports.map (·.items)).sum
    resources := (reports.map (·.resources)).sum
    sources := (reports.map (·.sources)).sum
    diagnostics := reports.flatMap (·.diagnostics) }

theorem Report.concat_cons (report : Report) (rest : List Report) :
    concat (report :: rest) = report ++ concat rest := rfl

theorem ofSteps_steps (g : Generator) (tree : FileTree) (cs : List Container) :
    (Report.ofSteps (g.steps tree cs)).counting (cs.map (g.plan tree)) =
      .concat (cs.map fun c =>
        (Report.ofSteps (g.steps tree [c])).counting [g.plan tree c]) := by
  induction cs with
  | nil => rfl
  | cons c rest ih =>
    have hsteps : g.steps tree (c :: rest) = g.steps tree [c] ++ g.steps tree rest := by
      simp [Generator.steps]
    rw [List.map_cons, List.map_cons, Report.concat_cons, ← ih, hsteps, Report.ofSteps_append]
    simp [Report.append_def, Report.counting]

variable {σ : Type}

theorem generate_logged_concat (g : Generator) {sink : Sink σ} {cs : List Container}
    (haccepts : sink.Accepts) (hkeeps : sink.KeepsTemplates g cs) (state : σ) :
    let alone c := g.generate sink.logged [c] (state, [])
    let all := g.generate sink.logged cs (state, [])
    all.2.2 = cs.flatMap (fun c => (alone c).2.2) ∧
      all.1 = .concat (cs.map fun c => (alone c).1) := by
  intro alone all
  have hone (c : Container) (hc : c ∈ cs) :=
    generate_logged_of_accepts g haccepts
      (show sink.KeepsTemplates g [c] from fun d hd => hkeeps d (List.mem_singleton.1 hd ▸ hc))
      state
  have hrequests (c : Container) (hc : c ∈ cs) :
      (alone c).2.2 = requests (g.plan (sink.files state) c).steps := by
    rw [show alone c = _ from hone c hc, requests_steps_eq_flatMap, List.flatMap_singleton]
  have hreport (c : Container) (hc : c ∈ cs) :
      (alone c).1 = (Report.ofSteps (g.steps (sink.files state) [c])).counting
        [g.plan (sink.files state) c] := by
    rw [show alone c = _ from hone c hc]
    rfl
  rw [show all = _ from generate_logged_of_accepts g haccepts hkeeps state,
    requests_steps_eq_flatMap, ofSteps_steps]
  exact ⟨(List.flatMap_congr hrequests).symm, congrArg Report.concat (List.map_congr_left hreport).symm⟩

theorem report_generate_memory (g : Generator) (tree : FileTree) (cs : List Container) :
    (g.generate (Memory.sink tree) cs .empty).1 =
      .concat (cs.map fun c => (g.generate (Memory.sink tree) [c] .empty).1) := by
  have hreport (cs : List Container) : (g.generate (Memory.sink tree) cs .empty).1 =
      (Report.ofSteps (g.steps tree cs)).counting (cs.map (g.plan tree)) := by
    rw [generate_of_keepsTemplates g (keepsTemplates_memory g tree cs),
      carryOut_of_accepts (accepts_memory tree)]
    rfl
  simp only [hreport, ofSteps_steps g tree cs, List.map_cons, List.map_nil]

/-- The same fields in another package and under another namespace. -/
def otherOres : Container := { twoOres with owner := "mod.deep.Ores", space := "n" }

end Modforge
